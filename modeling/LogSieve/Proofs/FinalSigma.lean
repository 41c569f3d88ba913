import LogSieve.Proofs.Containment

/-!
This module contains which literals the matcher finds in all texts that contain them. The lower case
of a capital sigma depends on the text around it, so a literal at whose edge one stands can have
another lower case inside of a text.
-/

namespace LogSieve

namespace Text

def isFinal (before after : List Char) : Bool := reachesCased before && !reachesCased after

theorem lowerAt_sigma_eq (before after : List Char) :
    lowerAt before 'Σ' after = [if isFinal before after then 'ς' else 'σ'] := by
  unfold lowerAt isFinal
  rw [if_pos rfl]
  split <;> rfl

theorem reachesCased_append (cs ds : List Char) :
    reachesCased (cs ++ ds) =
      if cs.all caseIgnorable.has then reachesCased ds else reachesCased cs := by
  induction cs with
  | nil => rfl
  | cons c cs ih =>
    unfold reachesCased at ih ⊢
    cases hc : caseIgnorable.has c with
    | true =>
      rw [List.cons_append, List.dropWhile_cons_of_pos hc, List.dropWhile_cons_of_pos hc, ih]
      simp [hc]
    | false => simp [hc]

theorem reachesCased_of_all {cs : List Char} (h : cs.all caseIgnorable.has = true) :
    reachesCased cs = false := by
  have happend := reachesCased_append cs []
  rw [List.append_nil, if_pos h] at happend
  exact happend

theorem sigma_not_ignorable : caseIgnorable.has 'Σ' = false := by decide +kernel

theorem reachesCased_append_sigma (cs ds : List Char) :
    reachesCased (cs ++ 'Σ' :: ds) = reachesCased (cs ++ ['Σ']) := by
  have hsingle : ∀ ds, reachesCased ('Σ' :: ds) = cased.has 'Σ' := by
    intro ds
    simp [reachesCased, sigma_not_ignorable]
  rw [reachesCased_append, reachesCased_append, hsingle ds, hsingle []]

theorem sigma_not_mem_of_all {cs : List Char} (h : cs.all caseIgnorable.has = true) : 'Σ' ∉ cs := by
  intro hmem
  have hsigma := List.all_eq_true.1 h 'Σ' hmem
  rw [sigma_not_ignorable] at hsigma
  contradiction

/-! The lower case of a part of a text -/

def lowerIn (before behind : List Char) : List Char → List Char
  | [] => []
  | c :: cs => lowerAt before c (cs ++ behind) ++ lowerIn (c :: before) behind cs

theorem go_append (before cs behind : List Char) :
    lower.go before (cs ++ behind) =
      lowerIn before behind cs ++ lower.go (cs.reverse ++ before) behind := by
  induction cs generalizing before with
  | nil => rfl
  | cons c cs ih =>
    rw [List.cons_append, lower.go, ih, lowerIn]
    simp

theorem lower_eq_lowerIn (cs : List Char) : lower cs = lowerIn [] [] cs := by
  have hgo := go_append [] cs []
  rw [List.append_nil, lower.go, List.append_nil] at hgo
  exact hgo

theorem lowerIn_append (before cs ds behind : List Char) :
    lowerIn before behind (cs ++ ds) =
      lowerIn before (ds ++ behind) cs ++ lowerIn (cs.reverse ++ before) behind ds := by
  induction cs generalizing before with
  | nil => rfl
  | cons c cs ih =>
    rw [List.cons_append, lowerIn, lowerIn, ih]
    simp

theorem lower_append (before cs behind : List Char) :
    lower (before ++ cs ++ behind) = lowerIn [] (cs ++ behind) before ++
      lowerIn before.reverse behind cs ++ lowerIn (cs.reverse ++ before.reverse) [] behind := by
  rw [lower_eq_lowerIn, List.append_assoc, lowerIn_append, lowerIn_append]
  simp

theorem lowerIn_congr {before before' behind behind' cs : List Char}
    (h : ∀ ds es, cs = ds ++ 'Σ' :: es →
      isFinal (ds.reverse ++ before) (es ++ behind) =
        isFinal (ds.reverse ++ before') (es ++ behind')) :
    lowerIn before behind cs = lowerIn before' behind' cs := by
  induction cs generalizing before before' with
  | nil => rfl
  | cons c cs ih =>
    have hrest : lowerIn (c :: before) behind cs = lowerIn (c :: before') behind' cs := by
      apply ih
      rintro ds es rfl
      have hsigma := h (c :: ds) es rfl
      simpa using hsigma
    have hfirst : lowerAt before c (cs ++ behind) = lowerAt before' c (cs ++ behind') := by
      by_cases hc : c = 'Σ'
      . have hsigma : isFinal before (cs ++ behind) = isFinal before' (cs ++ behind') :=
          h [] cs (by rw [hc]; rfl)
        rw [hc, lowerAt_sigma_eq, lowerAt_sigma_eq, hsigma]
      . rw [lowerAt_of_ne hc, lowerAt_of_ne hc]
    rw [lowerIn, lowerIn, hfirst, hrest]

theorem lowerIn_of_sigma_not_mem {before before' behind behind' cs : List Char} (h : 'Σ' ∉ cs) :
    lowerIn before behind cs = lowerIn before' behind' cs := by
  apply lowerIn_congr
  rintro ds es rfl
  simp at h

/--
Whether every sigma of a text has the form that it has without the texts around it.
-/
def KeepsSigmas (before cs behind : List Char) : Prop :=
  ∀ ds es, cs = ds ++ 'Σ' :: es →
    isFinal (ds.reverse ++ before.reverse) (es ++ behind) = isFinal ds.reverse es

theorem KeepsSigmas.infix_lower {before cs behind : List Char} (h : KeepsSigmas before cs behind) :
    lower cs <:+: lower (before ++ cs ++ behind) := by
  have hlower : lowerIn before.reverse behind cs = lower cs := by
    rw [lower_eq_lowerIn]
    apply lowerIn_congr
    intro ds es hcs
    simpa using h ds es hcs
  rw [lower_append, hlower]
  exact ⟨_, _, rfl⟩

/-! Sigmas at an edge of a text -/

/--
Whether the form of a sigma depends on what is around the text that it belongs to: there is a letter
before it, and only ignorable characters up to the end of the text; or there are only ignorable
characters from the beginning of the text, and no letter behind it. The part before it is given
backwards.
-/
def isLoose (before after : List Char) : Bool :=
  reachesCased before && after.all caseIgnorable.has ||
    before.all caseIgnorable.has && !reachesCased after

def hasLooseSigma (cs : List Char) : Bool := go [] cs
where
  go (before : List Char) : List Char → Bool
    | [] => false
    | c :: cs => c == 'Σ' && isLoose before cs || go (c :: before) cs

theorem hasLooseSigma_iff {cs : List Char} :
    hasLooseSigma cs = true ↔ ∃ ds es, cs = ds ++ 'Σ' :: es ∧ isLoose ds.reverse es = true := by
  have hgo : ∀ before, hasLooseSigma.go before cs = true ↔
      ∃ ds es, cs = ds ++ 'Σ' :: es ∧ isLoose (ds.reverse ++ before) es = true := by
    induction cs with
    | nil => simp [hasLooseSigma.go]
    | cons c cs ih =>
      intro before
      rw [hasLooseSigma.go, Bool.or_eq_true, Bool.and_eq_true, beq_iff_eq, ih]
      constructor
      . rintro (⟨rfl, hloose⟩ | ⟨ds, es, rfl, hloose⟩)
        . exact ⟨[], cs, rfl, hloose⟩
        . exact ⟨c :: ds, es, rfl, by simpa using hloose⟩
      . rintro ⟨ds, es, hcs, hloose⟩
        cases ds with
        | nil =>
          injection hcs with hc hes
          exact .inl ⟨hc, by simpa [hes] using hloose⟩
        | cons d ds =>
          injection hcs with hc hes
          exact .inr ⟨ds, es, hes, by simpa [hc] using hloose⟩
  have hstart := hgo []
  simp only [List.append_nil] at hstart
  exact hstart

theorem keepsSigmas_of_hasLooseSigma {cs : List Char} (h : hasLooseSigma cs = false)
    (before behind : List Char) : KeepsSigmas before cs behind := by
  intro ds es hcs
  have hloose : isLoose ds.reverse es = false := by
    rw [Bool.eq_false_iff] at h ⊢
    intro hloose
    exact h (hasLooseSigma_iff.2 ⟨ds, es, hcs, hloose⟩)
  simp only [isLoose, Bool.or_eq_false_iff, Bool.and_eq_false_iff, Bool.not_eq_false'] at hloose
  obtain ⟨hafter, hbefore⟩ := hloose
  unfold isFinal
  rw [reachesCased_append, reachesCased_append]
  -- Either there is a letter behind the sigma, or something before it decides.
  rcases hbefore with hbefore | hbefore
  . rw [if_neg (by simp [hbefore])]
    rcases hafter with hafter | hafter
    . simp [hafter]
    . rw [if_neg (by simp [hafter])]
  . have hes : ¬es.all caseIgnorable.has = true := by
      intro hall
      rw [reachesCased_of_all hall] at hbefore
      contradiction
    simp [hbefore, hes]

theorem not_infix_lower {before ds es behind : List Char} (hbefore : before ∈ [[], ['a']])
    (hbehind : behind ∈ [[], ['a']])
    (hds : lowerIn before.reverse ('Σ' :: es ++ behind) ds = lowerIn [] ('Σ' :: es) ds)
    (hes : lowerIn ('Σ' :: (ds.reverse ++ before.reverse)) behind es =
      lowerIn ('Σ' :: ds.reverse) [] es)
    (hsigma : isFinal (ds.reverse ++ before.reverse) (es ++ behind) ≠ isFinal ds.reverse es) :
    ¬lower (ds ++ 'Σ' :: es) <:+: lower (before ++ (ds ++ 'Σ' :: es) ++ behind) := by
  have hletter : ∀ cs ∈ [[], ['a']], ∀ x y, lowerIn x y cs = cs := by
    have ha : lower ['a'] = ['a'] := by decide +kernel
    simp [lowerIn, lowerAt_of_ne (c := 'a') (by decide), ha]
  have halone : lower (ds ++ 'Σ' :: es) = lowerIn [] ('Σ' :: es) ds ++
      (if isFinal ds.reverse es then 'ς' else 'σ') :: lowerIn ('Σ' :: ds.reverse) [] es := by
    rw [lower_eq_lowerIn, lowerIn_append, lowerIn, lowerAt_sigma_eq]
    simp
  have hinside : lower (before ++ (ds ++ 'Σ' :: es) ++ behind) =
      before ++ (lowerIn [] ('Σ' :: es) ds ++
        (if isFinal (ds.reverse ++ before.reverse) (es ++ behind) then 'ς' else 'σ') ::
          lowerIn ('Σ' :: ds.reverse) [] es) ++ behind := by
    rw [lower_append, lowerIn_append, lowerIn, lowerAt_sigma_eq, hds, hes, hletter _ hbefore,
      hletter _ hbehind]
    rfl
  have hnone : ∀ cs ∈ [[], ['a']], ∀ final : Bool, cs.count (if final then 'ς' else 'σ') = 0 := by
    decide
  have hne : (if isFinal (ds.reverse ++ before.reverse) (es ++ behind) then 'ς' else 'σ') ≠
      if isFinal ds.reverse es then 'ς' else 'σ' := by
    revert hsigma
    cases isFinal (ds.reverse ++ before.reverse) (es ++ behind) <;>
      cases isFinal ds.reverse es <;> decide
  -- The form that the sigma has by itself occurs once less in the larger text.
  intro h
  have hcount := h.sublist.count_le (if isFinal ds.reverse es then 'ς' else 'σ')
  rw [halone, hinside] at hcount
  simp only [List.count_append, List.count_cons_self, List.count_cons_of_ne hne,
    hnone _ hbefore, hnone _ hbehind] at hcount
  omega

theorem not_lower_infix_of_end {ds es : List Char} (hds : reachesCased ds.reverse = true)
    (hes : es.all caseIgnorable.has = true) :
    ¬lower (ds ++ 'Σ' :: es) <:+: lower ([] ++ (ds ++ 'Σ' :: es) ++ ['a']) := by
  apply not_infix_lower (by simp) (by simp)
  . apply lowerIn_congr
    intro _ ds' _
    unfold isFinal
    rw [List.cons_append, reachesCased_append_sigma ds' (es ++ ['a']),
      reachesCased_append_sigma ds' es]
    rfl
  . exact lowerIn_of_sigma_not_mem (sigma_not_mem_of_all hes)
  . have hletter : reachesCased ['a'] = true := by decide +kernel
    simp [isFinal, hds, reachesCased_append, hes, hletter, reachesCased_of_all hes]

theorem not_lower_infix_of_start {ds es : List Char} (hds : ds.reverse.all caseIgnorable.has = true)
    (hes : reachesCased es = false) :
    ¬lower (ds ++ 'Σ' :: es) <:+: lower (['a'] ++ (ds ++ 'Σ' :: es) ++ []) := by
  apply not_infix_lower (by simp) (by simp)
  . apply lowerIn_of_sigma_not_mem
    have hnot := sigma_not_mem_of_all hds
    rwa [List.mem_reverse] at hnot
  . apply lowerIn_congr
    intro es' _ _
    unfold isFinal
    rw [reachesCased_append_sigma es'.reverse (ds.reverse ++ ['a'].reverse),
      reachesCased_append_sigma es'.reverse ds.reverse]
  . have hletter : reachesCased ['a'] = true := by decide +kernel
    simp [isFinal, hes, reachesCased_append, hds, hletter, reachesCased_of_all hds]

theorem forall_lower_infix_iff {cs : List Char} :
    (∀ before behind, lower cs <:+: lower (before ++ cs ++ behind)) ↔ hasLooseSigma cs = false := by
  constructor
  . intro h
    rw [Bool.eq_false_iff]
    intro hsigma
    obtain ⟨ds, es, rfl, hloose⟩ := hasLooseSigma_iff.1 hsigma
    simp only [isLoose, Bool.or_eq_true, Bool.and_eq_true, Bool.not_eq_true'] at hloose
    rcases hloose with ⟨hds, hes⟩ | ⟨hds, hes⟩
    . exact not_lower_infix_of_end hds hes (h [] ['a'])
    . exact not_lower_infix_of_start hds hes (h ['a'] [])
  . intro h before behind
    exact (keepsSigmas_of_hasLooseSigma h before behind).infix_lower

end Text

theorem Value.exists_lookup? (path : List String) {v : Value} (hv : v.isNull = false) :
    ∃ record : Value, record.lookup? path = some v := by
  have hat : ∃ record : Value, record.at? path = some v := by
    induction path with
    | nil => exact ⟨v, rfl⟩
    | cons key path ih =>
      obtain ⟨inner, hinner⟩ := ih
      refine ⟨.object [(key, inner)], ?_⟩
      simp [at?, field?, valueAt?, hinner]
  obtain ⟨record, hrecord⟩ := hat
  exact ⟨record, by simp [lookup?, hrecord, hv]⟩

namespace Comparison

/--
A comparison with a text is true if and only if the lower case of the literal is contained in that of
the text. If the literal itself stands in the text and all its sigmas keep their forms there, this is
the case. A literal is found in all texts that contain it if and only if none of its sigmas can change
its form.
-/
theorem accepts_has_of_infix_iff (target : Target) {literal : String} (hliteral : literal ≠ "*")
    (language : PatternLanguage) :
    let accepts (record : Value) :=
      Filter.accepts ⟨.leaf ⟨target, .has, literal⟩⟩ record language
    (∀ (record : Value) (v : String), record.lookup? target.segments = some (.text v) →
      (accepts record = true ↔ Text.lower literal.toList <:+: Text.lower v.toList)) ∧
    (∀ (record : Value) (before behind : String),
      record.lookup? target.segments = some (.text (before ++ literal ++ behind)) →
        Text.KeepsSigmas before.toList literal.toList behind.toList → accepts record = true) ∧
    ((∀ (record : Value) (v : String), record.lookup? target.segments = some (.text v) →
      literal.toList <:+: v.toList → accepts record = true) ↔
        Text.hasLooseSigma literal.toList = false) := by
  intro accepts
  have haccepts : ∀ (record : Value) (v : String),
      record.lookup? target.segments = some (.text v) →
        (accepts record = true ↔ Text.lower literal.toList <:+: Text.lower v.toList) := by
    intro record v hv
    exact accepts_has_iff_of_lookup? language hliteral hv
  refine ⟨haccepts, ?_, ?_⟩
  . intro record before behind hv hkeeps
    rw [haccepts record _ hv, String.toList_append, String.toList_append]
    exact hkeeps.infix_lower
  . rw [← Text.forall_lower_infix_iff]
    constructor
    . intro h before behind
      let v := String.ofList (before ++ literal.toList ++ behind)
      have hv : v.toList = before ++ literal.toList ++ behind := String.toList_ofList
      obtain ⟨record, hrecord⟩ := Value.exists_lookup? target.segments (v := .text v) rfl
      have hfound := h record v hrecord ⟨before, behind, hv.symm⟩
      rwa [haccepts record v hrecord, hv] at hfound
    . rintro h record v hv ⟨before, behind, hdivided⟩
      rw [haccepts record v hv, ← hdivided]
      exact h before behind

theorem accepts_has_of_infix_blank :
    let target : Target := ⟨["log", "message"], by decide, by decide⟩
    "ΟΔΟΣ 5" ≠ "*" ∧ Text.hasLooseSigma "ΟΔΟΣ 5".toList = false ∧
      ∀ (record : Value) (v : String), record.lookup? target.segments = some (.text v) →
        "ΟΔΟΣ 5".toList <:+: v.toList →
          Filter.accepts ⟨.leaf ⟨target, .has, "ΟΔΟΣ 5"⟩⟩ record = true := by
  intro target
  have hliteral : "ΟΔΟΣ 5" ≠ "*" := by decide
  have hsigma : Text.hasLooseSigma "ΟΔΟΣ 5".toList = false := by decide +kernel
  exact ⟨hliteral, hsigma, (accepts_has_of_infix_iff target hliteral .standard).2.2.2 hsigma⟩

/--
A literal that ends with a sigma is not found where the word goes on.
-/
theorem accepts_has_sigma_eq_false :
    let target : Target := ⟨["a"], by decide, by decide⟩
    let record : Value := .object [("a", .text "ΑΣΑ")]
    record.lookup? target.segments = some (.text "ΑΣΑ") ∧ "ΑΣ".toList <:+: "ΑΣΑ".toList ∧
      Filter.accepts ⟨.leaf ⟨target, .has, "ΑΣ"⟩⟩ record = false := by
  intro target record
  have hv : record.lookup? target.segments = some (.text "ΑΣΑ") := rfl
  refine ⟨hv, ⟨[], ['Α'], by decide⟩, ?_⟩
  have hlower : ¬Text.lower "ΑΣ".toList <:+: Text.lower "ΑΣΑ".toList := by
    rw [← Text.contains_iff_infix]
    decide +kernel
  rw [Bool.eq_false_iff]
  intro haccepts
  exact hlower ((accepts_has_iff_of_lookup? .standard (by decide) hv).1 haccepts)

end Comparison

end LogSieve
