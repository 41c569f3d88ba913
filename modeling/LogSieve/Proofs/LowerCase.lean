import LogSieve.Text.Case

/-!
This module contains how the lower case of a text is related to the lower case of its letters of
ASCII alone.
-/

namespace LogSieve.Text

namespace CaseRun

def low (run : CaseRun) : Nat := (run.first + run.shift).toNat

/--
A test by which a run maps nothing to a code point of another one: all that it maps to is below or
above the other code points, or stands between them.
-/
def misses (run other : CaseRun) : Bool :=
  (run.low + (run.last - run.first)).blt other.first || other.last.blt run.low ||
    (run.step == 2 || run.first == run.last) && other.step == 2 && run.low != 0 &&
      (run.low + other.first) % 2 == 1

theorem has_eq_false_of_misses {run other : CaseRun} {n : Nat} (h : run.misses other = true)
    (hn : run.has n = true) : other.has (n + run.shift).toNat = false := by
  simp only [misses, has, low, Bool.or_eq_true, Bool.and_eq_true, decide_eq_true_iff, beq_iff_eq,
    Nat.blt_eq, bne_iff_ne] at h hn
  obtain ⟨⟨hfirst, hlast⟩, hstep⟩ := hn
  rw [Bool.eq_false_iff]
  intro hother
  simp only [has, Bool.and_eq_true, decide_eq_true_iff, beq_iff_eq] at hother
  obtain ⟨⟨hfirst', hlast'⟩, hstep'⟩ := hother
  rcases h with (h | h) | ⟨⟨⟨hrun, hother⟩, hlow⟩, hodd⟩
  . omega
  . omega
  . rw [hother] at hstep'
    rcases hrun with hrun | hrun
    . rw [hrun] at hstep
      omega
    . omega

theorem apply_cases (runs : List CaseRun) (n : Nat) :
    (∃ run ∈ runs, run.has n = true ∧ apply runs n = (n + run.shift).toNat) ∨
      ((∀ run ∈ runs, run.has n = false) ∧ apply runs n = n) := by
  unfold apply
  split
  . next run hrun =>
    have hn := List.find?_some hrun
    exact .inl ⟨run, List.mem_of_find?_eq_some hrun, hn, rfl⟩
  . next hnone =>
    rw [List.find?_eq_none] at hnone
    exact .inr ⟨by simpa using hnone, rfl⟩

theorem apply_eq_self {runs : List CaseRun} {n : Nat} (h : ∀ run ∈ runs, run.has n = false) :
    apply runs n = n := by
  rcases apply_cases runs n with ⟨run, hrun, hn, _⟩ | ⟨_, heq⟩
  . simp [h run hrun] at hn
  . exact heq

end CaseRun

theorem lowerRuns_misses :
    (lowerRuns.all fun run => (⟨0x130, 0x130, 1, 0⟩ :: lowerRuns).all run.misses) = true := by
  -- The run before the others is the dotted capital, whose lower case is not a single code point.
  decide +kernel

/-! Single characters -/

theorem lower_singleton (c : Char) :
    lower [c] =
      if c = 'Σ' then ['σ']
      else if c = 'İ' then ['i', '\u0307']
      else [Char.ofNat (CaseRun.apply lowerRuns c.toNat)] := by
  simp [lower, lower.go, lowerAt, reachesCased]

theorem lowerAt_of_ne {c : Char} (h : c ≠ 'Σ') (before after : List Char) :
    lowerAt before c after = lower [c] := by
  simp [lower_singleton, lowerAt, h]

theorem lowerAt_sigma (before after : List Char) :
    lowerAt before 'Σ' after = ['ς'] ∨ lowerAt before 'Σ' after = ['σ'] := by
  unfold lowerAt
  rw [if_pos rfl]
  split
  . exact .inl rfl
  . exact .inr rfl

theorem lowerAt_cases (before : List Char) (c : Char) (after : List Char) :
    (∃ d, lowerAt before c after = [d]) ∨
      c = 'İ' ∧ lowerAt before c after = ['i', '\u0307'] := by
  unfold lowerAt
  split
  . split
    . exact .inl ⟨_, rfl⟩
    . exact .inl ⟨_, rfl⟩
  . split
    . next h => exact .inr ⟨h, rfl⟩
    . exact .inl ⟨_, rfl⟩

theorem toLower_eq_self {c : Char} (h : 128 ≤ c.toNat) : c.toLower = c := by
  unfold Char.toLower
  rw [dif_neg]
  rintro ⟨_, hle⟩
  have hle' := UInt32.le_iff_toNat_le.1 hle
  have hz : 'Z'.val.toNat = 90 := rfl
  have hc : c.val.toNat = c.toNat := rfl
  omega

theorem lower_of_lt {c : Char} (h : c.toNat < 128) : lower [c] = [c.toLower] := by
  have hfurther : ∀ run ∈ lowerRuns.tail, 128 ≤ run.first := by decide +kernel
  have htail : lowerRuns.tail.find? (·.has c.toNat) = none := by
    rw [List.find?_eq_none]
    intro run hrun
    have hfirst := hfurther run hrun
    simp only [CaseRun.has, Bool.and_eq_true, decide_eq_true_iff]
    omega
  have happly : CaseRun.apply lowerRuns c.toNat = CaseRun.apply [⟨0x41, 0x5A, 1, 32⟩] c.toNat := by
    have hcons : lowerRuns = ⟨0x41, 0x5A, 1, 32⟩ :: lowerRuns.tail := rfl
    unfold CaseRun.apply
    rw [hcons, List.find?_cons, List.find?_cons, htail]
    rfl
  have hascii : ∀ n < 128, Char.ofNat (CaseRun.apply [⟨0x41, 0x5A, 1, 32⟩] n) =
      (Char.ofNat n).toLower := by
    decide +kernel
  have hne : ∀ d : Char, 128 ≤ d.toNat → c ≠ d := by
    rintro d hd rfl
    omega
  rw [lower_singleton, if_neg (hne _ (by decide)), if_neg (hne _ (by decide)), happly, hascii _ h,
    Char.ofNat_toNat]

theorem lower_of_forall_has {c : Char}
    (h : ∀ run ∈ ⟨0x130, 0x130, 1, 0⟩ :: lowerRuns, run.has c.toNat = false) : lower [c] = [c] := by
  have hsigma : c ≠ 'Σ' := by
    rintro rfl
    have hmem : ∃ run ∈ lowerRuns, run.has 'Σ'.toNat = true := by decide +kernel
    obtain ⟨run, hrun, hhas⟩ := hmem
    rw [h run (List.mem_cons_of_mem _ hrun)] at hhas
    simp at hhas
  have hdotted : c ≠ 'İ' := by
    rintro rfl
    exact absurd (h _ List.mem_cons_self) (by decide)
  rw [lower_singleton, if_neg hsigma, if_neg hdotted,
    CaseRun.apply_eq_self fun run hrun => h run (List.mem_cons_of_mem _ hrun), Char.ofNat_toNat]

theorem toNat_ofNat_cases (n : Nat) : (Char.ofNat n).toNat = n ∨ Char.ofNat n = '\x00' := by
  by_cases h : n.isValidChar
  . exact .inl (congrArg Char.toNat (dif_pos h))
  . exact .inr (dif_neg h)

theorem lower_of_mem_lowerAt {before after : List Char} {c d : Char} (h : d ∈ lowerAt before c after) :
    lower [d] = [d] := by
  have hcases : d ∈ ['ς', 'σ', 'i', '\u0307'] ∨
      c ≠ 'Σ' ∧ c ≠ 'İ' ∧ d = Char.ofNat (CaseRun.apply lowerRuns c.toNat) := by
    unfold lowerAt at h
    grind
  rcases hcases with hd | ⟨hsigma, hdotted, rfl⟩
  . have hall : ∀ d ∈ ['ς', 'σ', 'i', '\u0307'], lower [d] = [d] :=
      forall_mem_of_all (by decide +kernel)
    exact hall d hd
  . rcases CaseRun.apply_cases lowerRuns c.toNat with ⟨run, hrun, hn, happly⟩ | ⟨hnone, happly⟩
    . rw [happly]
      rcases toNat_ofNat_cases (c.toNat + run.shift).toNat with htoNat | hzero
      . apply lower_of_forall_has
        intro other hother
        rw [htoNat]
        have hmisses := List.all_eq_true.1 (List.all_eq_true.1 lowerRuns_misses run hrun) other hother
        exact CaseRun.has_eq_false_of_misses hmisses hn
      . rw [hzero, lower_of_lt (by decide)]
        rfl
    . rw [happly, Char.ofNat_toNat, lower_singleton, if_neg hsigma, if_neg hdotted, happly,
        Char.ofNat_toNat]

theorem lowerAt_eq_iff {before after : List Char} {c : Char} :
    lowerAt before c after = [c.toLower] ↔ (128 ≤ c.toNat → lower [c] = [c]) := by
  by_cases hc : c.toNat < 128
  . have hne : c ≠ 'Σ' := by
      rintro rfl
      exact absurd hc (by decide)
    simp [lowerAt_of_ne hne, lower_of_lt hc, Nat.not_le_of_lt hc]
  . have hle : 128 ≤ c.toNat := Nat.le_of_not_lt hc
    rw [toLower_eq_self hle]
    by_cases hsigma : c = 'Σ'
    . rw [hsigma, lower_singleton]
      rcases lowerAt_sigma before after with h | h <;> rw [h] <;> decide
    . simp [lowerAt_of_ne hsigma, hle]

theorem lowerAt_append_eq_cons_iff {before after : List Char} {c : Char} {xs ys : List Char} :
    lowerAt before c after ++ xs = c.toLower :: ys ↔
      lowerAt before c after = [c.toLower] ∧ xs = ys := by
  rcases lowerAt_cases before c after with ⟨d, hd⟩ | ⟨rfl, hdotted⟩
  . simp [hd]
  . simp [hdotted]

/-! Texts -/

theorem lower_of_mem_lower {cs : List Char} : ∀ d ∈ lower cs, lower [d] = [d] := by
  have hgo : ∀ before, ∀ d ∈ lower.go before cs, lower [d] = [d] := by
    induction cs with
    | nil => simp [lower.go]
    | cons c cs ih =>
      intro before d hd
      rw [lower.go, List.mem_append] at hd
      rcases hd with hd | hd
      . exact lower_of_mem_lowerAt hd
      . exact ih _ d hd
  exact hgo []

theorem lower_eq_map_iff {cs : List Char} :
    lower cs = cs.map Char.toLower ↔ ∀ c ∈ cs, 128 ≤ c.toNat → lower [c] = [c] := by
  have hgo : ∀ before, lower.go before cs = cs.map Char.toLower ↔
      ∀ c ∈ cs, 128 ≤ c.toNat → lower [c] = [c] := by
    induction cs with
    | nil => simp [lower.go]
    | cons c cs ih =>
      intro before
      rw [lower.go, List.map_cons, lowerAt_append_eq_cons_iff, lowerAt_eq_iff, ih,
        List.forall_mem_cons]
  exact hgo []

theorem length_le_length_lower (cs : List Char) : cs.length ≤ (lower cs).length := by
  have hgo : ∀ before, cs.length ≤ (lower.go before cs).length := by
    induction cs with
    | nil => simp [lower.go]
    | cons c cs ih =>
      intro before
      have hrest := ih (c :: before)
      rw [lower.go, List.length_append, List.length_cons]
      rcases lowerAt_cases before c cs with ⟨d, hd⟩ | ⟨_, hd⟩
      . rw [hd, List.length_singleton]
        omega
      . rw [hd, List.length_cons]
        omega
  exact hgo []

theorem lower_infix_map_iff {cs : List Char} :
    lower cs <:+: cs.map Char.toLower ↔ ∀ c ∈ cs, 128 ≤ c.toNat → lower [c] = [c] := by
  rw [← lower_eq_map_iff]
  constructor
  . intro h
    apply h.eq_of_length
    have hle := h.length_le
    have hge := length_le_length_lower cs
    rw [List.length_map] at hle ⊢
    omega
  . intro h
    exact ⟨[], [], by simp [h]⟩

theorem exists_go_append (before cs ds : List Char) :
    ∃ ls, lower.go before (cs ++ ds) = ls ++ lower.go (cs.reverse ++ before) ds := by
  induction cs generalizing before with
  | nil => exact ⟨[], rfl⟩
  | cons c cs ih =>
    obtain ⟨ls, hls⟩ := ih (c :: before)
    refine ⟨lowerAt before c (cs ++ ds) ++ ls, ?_⟩
    rw [List.cons_append, lower.go, hls]
    simp

theorem go_append_of_lower {cs : List Char} (h : ∀ c ∈ cs, 128 ≤ c.toNat → lower [c] = [c])
    (before ds : List Char) :
    lower.go before (cs ++ ds) = cs.map Char.toLower ++ lower.go (cs.reverse ++ before) ds := by
  induction cs generalizing before with
  | nil => rfl
  | cons c cs ih =>
    rw [List.forall_mem_cons] at h
    rw [List.cons_append, lower.go, lowerAt_eq_iff.2 h.1, ih h.2]
    simp

theorem lower_infix_lower {needle cs : List Char} (h : lower needle <:+: cs.map Char.toLower) :
    lower needle <:+: lower cs := by
  obtain ⟨before, behind, h⟩ := h
  obtain ⟨xs, zs, rfl, hxs, hbehind⟩ := List.append_eq_map_iff.1 h
  obtain ⟨xs, ys, rfl, hbefore, hneedle⟩ := List.append_eq_map_iff.1 hxs.symm
  have hys : ∀ c ∈ ys, 128 ≤ c.toNat → lower [c] = [c] := by
    intro c hc hle
    have hmem : c ∈ lower needle := by
      rw [← hneedle, ← toLower_eq_self hle]
      exact List.mem_map_of_mem hc
    exact lower_of_mem_lower c hmem
  -- The lower case of `ys` does not depend on what is around it, as there is no sigma in it.
  obtain ⟨ls, hls⟩ := exists_go_append [] xs (ys ++ zs)
  refine ⟨ls, lower.go (ys.reverse ++ (xs.reverse ++ [])) zs, ?_⟩
  have hlower : lower (xs ++ ys ++ zs) =
      ls ++ (lower needle ++ lower.go (ys.reverse ++ (xs.reverse ++ [])) zs) := by
    rw [List.append_assoc, ← hneedle, ← go_append_of_lower hys, ← hls]
    rfl
  rw [hlower, List.append_assoc]

end LogSieve.Text
