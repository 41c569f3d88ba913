import LogSieve.Proofs.EscapedClass

/-!
This module contains that a pattern is still the same after its blanks have been escaped, if they
stand for themselves.
-/

namespace LogSieve.Pattern

open Scan

/-! Repetitions -/

def limitsEnd (least : Nat) (most : Option Nat) : Scan (Nat × Option Nat) := do
  char '\x7d'
  match most with
  | some most => check (least ≤ most)
  | none => pure ()
  return (least, most)

theorem eq_cons_of_outcome_limitsEnd {least : Nat} {most : Option Nat} {r : Nat × Option Nat}
    {took : Bool} {cs cs' : List Char} (h : outcome (limitsEnd least most) cs = some (r, took, cs')) :
    cs = '\x7d' :: cs' := by
  obtain ⟨_, _, cs₁, _, hbrace, h⟩ := exists_of_outcome_bind h
  rw [eq_cons_of_outcome_char hbrace]
  cases most with
  | none => simp_all
  | some most => simp_all [outcome_check_bind]

/--
A plain text whose limits of a repetition, if it starts with them, have no blanks that would be
escaped.
-/
def SolidLimits (cs : List Char) : Prop := Plain cs ∧ IsSolid (cs.takeWhile isLimitPart)

theorem SolidLimits.tail {c : Char} {cs : List Char} (h : SolidLimits (c :: cs))
    (hc : isLimitPart c = true) : c ∉ optionBlanks ∧ SolidLimits cs := by
  have hne : c ≠ '\\' := by
    rintro rfl
    exact absurd hc (by decide)
  obtain ⟨hplain, hsolid⟩ := h
  rw [List.takeWhile_cons_of_pos hc, IsSolid, List.forall_mem_cons] at hsolid
  exact ⟨hsolid.1, hplain.tail hne, hsolid.2⟩

theorem follows_limitsEnd (least : Nat) (most : Option Nat) :
    Follows SolidLimits (limitsEnd least most) (fun _ => Plain) := by
  apply (Follows.char (by decide) (by decide)).bind
  intro _
  apply Follows.mono (P := Plain) _ (fun _ h => h.1.tail (by decide)) (fun _ _ h => h)
  split
  . exact (Follows.check _).bind fun _ => .result _
  . exact .result _

theorem head?_dropWhile_escapedText {cs : List Char}
    (h : ∃ c ∈ cs.takeWhile isLimitPart, c ∈ optionBlanks) :
    ((escapedText cs).dropWhile isLimitPart).head? = some '\\' := by
  induction cs with
  | nil => simp at h
  | cons c cs ih =>
    by_cases hc : c ∈ optionBlanks
    . obtain ⟨ds, htext⟩ := escapedText_cons_of_mem hc cs
      rw [htext]
      rfl
    . rw [escapedText_cons_of_not_mem hc]
      cases hpart : isLimitPart c with
      | true =>
        simp [hpart, hc] at h
        simpa [hpart] using ih (by simpa using h)
      | false => simp [hpart] at h

section

variable {flags : Flags} (hverbose : flags.verbose = false)
include hverbose

theorem taken_of_outcome_count {n : Nat} {took : Bool} {cs cs' : List Char}
    (h : outcome (count flags) cs = some (n, took, cs')) :
    ∃ taken, cs = taken ++ cs' ∧ (∀ c ∈ taken, isLimitPart c = true) ∧
      ∃ c ∈ taken, c.isDigit = true := by
  unfold count at h
  rw [skipGaps_eq_pure hverbose, seqLeft_pure] at h
  obtain ⟨before, _, cs₁, _, hbefore, h⟩ := exists_of_outcome_bind h
  obtain ⟨digits, _, cs₂, _, hdigits, h⟩ := exists_of_outcome_bind h
  obtain ⟨behind, _, cs₃, _, hbehind, h⟩ := exists_of_outcome_bind h
  simp only [outcome_takeWhile, outcome_many_satisfy, Option.some.injEq, Prod.mk.injEq]
    at hbefore hdigits hbehind
  rw [outcome_pure_bind, outcome_check_bind, outcome_check_bind] at h
  simp only [outcome_pure, Option.ite_none_right_eq_some, Option.some.injEq, Prod.mk.injEq] at h
  obtain ⟨hne, _, _, _, hrest⟩ := h
  have htext : cs = before ++ digits ++ behind ++ cs' := by
    rw [← hrest, ← hbehind.1, ← hbehind.2.2, List.append_assoc, List.takeWhile_append_dropWhile,
      ← hdigits.1, ← hdigits.2.2, List.append_assoc, List.takeWhile_append_dropWhile, ← hbefore.1,
      ← hbefore.2.2, List.takeWhile_append_dropWhile]
  have hdigit : ∀ c ∈ digits, c.isDigit = true := by
    rw [← hdigits.1]
    exact List.all_eq_true.1 List.all_takeWhile
  refine ⟨_, htext, ?_, ?_⟩
  . have hblank : ∀ c ∈ before ++ behind, Text.isBlank c = true := by
      rw [← hbefore.1, ← hbehind.1, List.forall_mem_append]
      exact ⟨List.all_eq_true.1 List.all_takeWhile, List.all_eq_true.1 List.all_takeWhile⟩
    intro c hc
    unfold isLimitPart
    grind
  . obtain ⟨c, hc⟩ := List.exists_mem_of_ne_nil digits (by simpa using hne)
    exact ⟨c, by simp [hc], hdigit c hc⟩

theorem taken_of_outcome_limits {r : Nat × Option Nat} {took : Bool} {cs cs' : List Char}
    (h : outcome (limits flags) cs = some (r, took, cs')) :
    ∃ taken, cs = taken ++ '\x7d' :: cs' ∧ (∀ c ∈ taken, isLimitPart c = true) ∧
      ∃ c ∈ taken, c.isDigit = true := by
  unfold limits at h
  rw [skipGaps_eq_pure hverbose, outcome_pure_bind] at h
  obtain ⟨least, _, cs₁, _, hleast, h⟩ := exists_of_outcome_bind h
  obtain ⟨comma, _, cs₂, _, hcomma, h⟩ := exists_of_outcome_bind h
  obtain ⟨taken₁, rfl, hparts₁, c, hc, hdigit⟩ := taken_of_outcome_count hverbose hleast
  have htext₂ : ∃ taken, cs₁ = taken ++ cs₂ ∧ ∀ c ∈ taken, isLimitPart c = true := by
    rw [outcome_accepts] at hcomma
    have hseq : (char ',' *> pure ()) = char ',' >>= fun _ => pure () := rfl
    rw [hseq] at hcomma
    cases hchar : outcome (char ',' >>= fun _ => pure ()) cs₁ with
    | none => exact ⟨[], by simp_all⟩
    | some r =>
      obtain ⟨_, _, cs₃⟩ := r
      obtain ⟨_, _, _, _, hchar, hpure⟩ := exists_of_outcome_bind hchar
      refine ⟨[','], ?_, Text.forall_mem_of_all (by decide)⟩
      simp_all [eq_cons_of_outcome_char hchar]
  obtain ⟨taken₂, rfl, hparts₂⟩ := htext₂
  have htext₃ : ∃ taken, cs₂ = taken ++ '\x7d' :: cs' ∧ ∀ c ∈ taken, isLimitPart c = true := by
    cases comma with
    | true =>
      obtain ⟨most, _, cs₃, _, hmost, h⟩ := exists_of_outcome_bind h
      rw [outcome_option?] at hmost
      rw [eq_cons_of_outcome_limitsEnd h] at hmost
      cases hcount : outcome (count flags) cs₂ with
      | none => exact ⟨[], by simp_all⟩
      | some r =>
        obtain ⟨n, _, cs₃⟩ := r
        obtain ⟨taken, rfl, hparts, _⟩ := taken_of_outcome_count hverbose hcount
        simp_all
    | false =>
      obtain ⟨most, _, cs₃, _, hmost, h⟩ := exists_of_outcome_bind h
      refine ⟨[], ?_, by simp⟩
      simp_all [eq_cons_of_outcome_limitsEnd h]
  obtain ⟨taken₃, rfl, hparts₃⟩ := htext₃
  refine ⟨taken₁ ++ taken₂ ++ taken₃, by simp, ?_, c, by simp [hc], hdigit⟩
  grind

theorem outcome_limits_eq_none {cs : List Char} (hlimits : hasBlankLimits cs = false)
    (hblank : ∃ c ∈ cs.takeWhile isLimitPart, c ∈ optionBlanks) :
    outcome (limits flags) cs = none ∧ outcome (limits flags) (escapedText cs) = none := by
  constructor
  . rw [Option.eq_none_iff_forall_ne_some]
    rintro ⟨r, took, cs'⟩ h
    obtain ⟨taken, rfl, hparts, c, hc, hdigit⟩ := taken_of_outcome_limits hverbose h
    have htake : (taken ++ '\x7d' :: cs').takeWhile isLimitPart = taken := by
      rw [List.takeWhile_append_of_pos hparts, List.takeWhile_cons_of_neg (by decide),
        List.append_nil]
    have hdrop : (taken ++ '\x7d' :: cs').dropWhile isLimitPart = '\x7d' :: cs' := by
      rw [List.dropWhile_append_of_pos hparts]
      rfl
    obtain ⟨b, hb, hblank⟩ := hblank
    rw [htake] at hb
    simp [hasBlankLimits, htake, hdrop] at hlimits
    simp [hlimits b hb hblank c hc] at hdigit
  . -- Behind what can be limits, the escaped text has a backslash instead of a brace.
    rw [Option.eq_none_iff_forall_ne_some]
    rintro ⟨r, took, cs'⟩ h
    obtain ⟨taken, htext, hparts, _⟩ := taken_of_outcome_limits hverbose h
    have hhead := head?_dropWhile_escapedText hblank
    rw [htext, List.dropWhile_append_of_pos hparts, List.dropWhile_cons_of_neg (by decide)] at hhead
    simp at hhead

theorem follows_count : Follows SolidLimits (count flags) (fun _ => SolidLimits) := by
  have hblanks : Follows SolidLimits (Scan.takeWhile Text.isBlank) (fun _ => SolidLimits) := by
    apply Follows.takeWhile (by decide)
    intro c cs h hc
    exact h.tail (by simp [isLimitPart, hc])
  have hdigit : Follows SolidLimits (satisfy Char.isDigit) (fun _ => SolidLimits) := by
    apply (Follows.satisfy (Text.forall_mem_of_all (by decide))).mono (fun _ h => h)
    rintro c cs ⟨hc, h⟩
    exact (h.tail (by simp [isLimitPart, hc])).2
  apply hblanks.bind
  intro _
  apply (hdigit.seqLeft fun _ => follows_skipGaps hverbose).many.bind
  intro digits
  apply hblanks.bind
  intro _
  apply (follows_skipGaps hverbose).bind
  intro _
  apply (Follows.check _).bind
  intro _
  exact (Follows.check _).bind fun _ => .result _

theorem follows_limits :
    Follows (fun cs => Plain ('\x7b' :: cs)) (limits flags) (fun _ => Plain) := by
  have hsolid : Follows SolidLimits (limits flags) (fun _ => Plain) := by
    have hcomma : Follows SolidLimits (char ',' *> skipGaps flags) (fun _ => SolidLimits) := by
      apply (Follows.char (by decide) (by decide)).seqRight
      intro _
      exact (follows_skipGaps hverbose).mono (fun _ h => h) (fun _ _ h => (h.tail (by decide)).2)
    apply (follows_skipGaps hverbose).bind
    intro _
    apply (follows_count hverbose).bind
    intro least
    apply hcomma.accepts.bind
    intro comma
    split
    . exact (follows_count hverbose).option?.bind (follows_limitsEnd least)
    . exact (Follows.result _).bind (follows_limitsEnd least)
  -- Limits with a blank to be escaped are incomplete, so the text is rejected with and without it.
  have hnone : ∀ cs, Plain ('\x7b' :: cs) → ¬ SolidLimits cs →
      outcome (limits flags) cs = none ∧ outcome (limits flags) (escapedText cs) = none := by
    intro cs hcs h
    apply outcome_limits_eq_none hverbose hcs.hasBlankLimits_eq_false
    have hplain : Plain cs := hcs.tail (by decide)
    simpa [SolidLimits, hplain, IsSolid] using h
  constructor
  . intro cs hcs
    by_cases h : SolidLimits cs
    . exact hsolid.outcome_escaped cs h
    . rw [(hnone cs hcs h).1, (hnone cs hcs h).2]
      rfl
  . intro cs r took cs' hcs hlimits
    by_cases h : SolidLimits cs
    . exact hsolid.rest h hlimits
    . simp [(hnone cs hcs h).1] at hlimits

end

/-! Groups -/

theorem keeps_groupName : Keeps groupName := by
  have hletter : ∀ c ∈ '\\' :: optionBlanks, (c == '_' || Text.isLetter c) = false :=
    Text.forall_mem_of_all (by decide +kernel)
  have hother : ∀ c ∈ '\\' :: optionBlanks,
      (c == '_' || c == '.' || c == '[' || c == ']' || Text.isAlphanumeric c) = false :=
    Text.forall_mem_of_all (by decide +kernel)
  apply (keeps_satisfy hletter).bind
  intro first
  apply (keeps_takeWhile hother).bind
  intro others
  exact (keeps_char (by decide) (by decide)).bind fun _ => .result _

def SafeSwitches : Flags × Bool × List Char → List Char → Prop
  | (flags, on, _), cs =>
    Plain cs ∧
      (flags.verbose = true ∨ (on = true ∧ 'x' ∈ cs.takeWhile switchLetters.contains) → IsSolid cs)

def SafeRest (flags : Flags) (cs : List Char) : Prop :=
  Plain cs ∧ (flags.verbose = true → IsSolid cs)

theorem switch?_eq_none {flags : Flags} {c : Char} {on : Bool} (h : c ∉ switchLetters) :
    flags.switch? c on = none := by
  unfold Flags.switch?
  split <;> simp_all [switchLetters]

theorem of_switch?_eq_some {flags flags' : Flags} {c : Char} {on : Bool}
    (h : flags.switch? c on = some flags') :
    c ∈ switchLetters ∧ (flags'.verbose = true → flags.verbose = true ∨ c = 'x' ∧ on = true) := by
  unfold Flags.switch? at h
  split at h
  case h_8 => simp at h
  all_goals
    obtain rfl := Option.some.inj h
    exact ⟨by decide, by simp +contextual⟩

theorem ne_backslash_of_mem_switchLetters {c : Char} (h : c ∈ switchLetters) : c ≠ '\\' := by
  have hall : ∀ c ∈ switchLetters, c ≠ '\\' := Text.forall_mem_of_all (by decide)
  exact hall c h

theorem SafeSwitches.minus {flags : Flags} {on : Bool} {seen cs : List Char}
    (h : SafeSwitches (flags, on, seen) ('-' :: cs)) : SafeSwitches (flags, false, '-' :: seen) cs := by
  obtain ⟨hplain, hsolid⟩ := h
  refine ⟨hplain.tail (by decide), ?_⟩
  rintro (h | h)
  . exact (hsolid (.inl h)).tail
  . simp at h

theorem SafeSwitches.switched {flags flags' : Flags} {on : Bool} {seen : List Char} {c : Char}
    {cs : List Char} (h : SafeSwitches (flags, on, seen) (c :: cs))
    (hswitch : flags.switch? c on = some flags') : SafeSwitches (flags', on, c :: seen) cs := by
  obtain ⟨hplain, hsolid⟩ := h
  obtain ⟨hletter, hverbose⟩ := of_switch?_eq_some hswitch
  rw [List.takeWhile_cons_of_pos (by simpa using hletter)] at hsolid
  refine ⟨hplain.tail (ne_backslash_of_mem_switchLetters hletter), ?_⟩
  rintro (h | h)
  . rcases hverbose h with h | ⟨rfl, h⟩
    . exact (hsolid (.inl h)).tail
    . exact (hsolid (.inr ⟨h, by simp⟩)).tail
  . exact (hsolid (.inr ⟨h.1, by simp [h.2]⟩)).tail

theorem follows_switches_step (state : Flags × Bool × List Char) :
    Follows (SafeSwitches state) (switches.step state)
      (Sum.elim SafeSwitches fun (flags, _) => SafeRest flags) := by
  obtain ⟨flags, on, seen⟩ := state
  apply Follows.ahead
  . intro cs _
    split
    . next h =>
      obtain ⟨cs', rfl, _⟩ := exists_eq_append_of_escapedText [':'] (by decide) h
      rfl
    . next h =>
      obtain ⟨cs', rfl, _⟩ := exists_eq_append_of_escapedText [')'] (by decide) h
      rfl
    . next h₁ h₂ =>
      split
      . exact absurd rfl (h₁ _)
      . exact absurd rfl (h₂ _)
      . rfl
  . intro ds
    have hend : Follows (fun cs => cs = ds ∧ SafeSwitches (flags, on, seen) cs)
        (do
          check (seen.head? != some '-')
          return .inr (flags, !seen.isEmpty))
        (Sum.elim SafeSwitches fun (flags, _) => SafeRest flags) := by
      apply (Follows.check _).bind
      intro _
      apply Follows.pure
      rintro cs ⟨_, hplain, hsolid⟩
      exact ⟨hplain, fun h => hsolid (.inl h)⟩
    split
    . exact hend
    . exact hend
    . apply Follows.next_of_reject
      . intro c hc
        apply (Follows.check _).bind
        intro _
        split
        . next hminus =>
          apply Follows.pure
          rintro cs ⟨_, h⟩
          rw [hminus] at h ⊢
          exact h.minus
        . split
          . next flags' hswitch => exact .pure fun cs h => h.2.switched hswitch
          . exact .failure
      . intro c hc cs
        have hletters : ∀ c ∈ '\\' :: optionBlanks, c ∉ switchLetters ∧ c ≠ '-' :=
          Text.forall_mem_of_all (by decide)
        rw [outcome_check_bind, if_neg (hletters c hc).2, switch?_eq_none (hletters c hc).1]
        split <;> rfl

theorem follows_switches (flags : Flags) :
    Follows (SafeSwitches (flags, true, [])) (switches flags) (fun (flags, _) => SafeRest flags) :=
  Follows.loop follows_switches_step _

def State.KeepsBlanks (state : State) : Prop :=
  ∀ g ∈ state.inner :: state.outer, g.flags.verbose = false

/--
Where reading goes on behind a construct: blanks still stand for themselves, or there are none left
that would be escaped.
-/
def Resumes (state : State) (cs : List Char) : Prop :=
  (state.KeepsBlanks ∧ Plain cs) ∨ IsSolid cs

theorem SafeRest.tail {flags : Flags} {c : Char} {cs : List Char} (h : SafeRest flags (c :: cs))
    (hc : c ≠ '\\') : SafeRest flags cs :=
  ⟨h.1.tail hc, fun hverbose => (h.2 hverbose).tail⟩

theorem SafeRest.resumes {flags : Flags} {state : State} {cs : List Char} (h : SafeRest flags cs)
    (hstate : flags.verbose = false → state.KeepsBlanks) : Resumes state cs := by
  cases hverbose : flags.verbose with
  | false => exact .inl ⟨hstate hverbose, h.1⟩
  | true => exact .inr (h.2 hverbose)

def switchGroup (state : State) : Scan State := do
  char '?'
  let (flags', switched) ← switches state.inner.flags
  if ← accepts (char ')') then
    check switched
    let inner := { state.inner with flags := flags' }
    return { state with inner := inner.add .empty }
  else
    char ':'
    return state.enter flags' state.names

variable (classes : NamedClasses)

theorem outcome_step_blank (state : State) {c : Char} (hc : c ∈ optionBlanks) (cs : List Char) :
    outcome (step classes state) (c :: cs) =
      some (state.add (itemPattern state.inner.flags (.literal c)), true, cs) := by
  simp only [optionBlanks, List.mem_cons, List.not_mem_nil, or_false] at hc
  rcases hc with rfl | rfl | rfl | rfl <;> rfl

theorem outcome_step_escape (state : State) (cs : List Char) :
    outcome (step classes state) ('\\' :: cs) =
      (outcome (escape classes state.inner.flags) cs).map fun (item, _, cs') =>
        (state.add (itemPattern state.inner.flags item), true, cs') := by
  have hescape : outcome (step classes state) ('\\' :: cs) =
      (outcome ((fun item => state.add (itemPattern state.inner.flags item)) <$>
        escape classes state.inner.flags) cs).map fun r => (r.1, true, r.2.2) :=
    outcome_next_bind _ _ _
  rw [hescape, outcome_map, Option.map_map]
  rfl

section

variable {state : State} (hstate : state.KeepsBlanks)
include hstate

theorem State.KeepsBlanks.enter {flags : Flags} (hflags : flags.verbose = false)
    (names : List String) : (state.enter flags names).KeepsBlanks :=
  List.forall_mem_cons.2 ⟨hflags, hstate⟩

theorem State.KeepsBlanks.verbose_eq_false : state.inner.flags.verbose = false :=
  hstate _ List.mem_cons_self

theorem State.KeepsBlanks.of_inner {inner : OpenGroup} (hflags : inner.flags.verbose = false) :
    State.KeepsBlanks { state with inner := inner } :=
  List.forall_mem_cons.2 ⟨hflags, (List.forall_mem_cons.1 hstate).2⟩

theorem follows_enterNamed : Follows Plain (openGroup.enterNamed state) Resumes := by
  apply keeps_groupName.bind
  intro name
  apply (Follows.check _).bind
  intro _
  exact .pure fun _ h => .inl ⟨hstate.enter hstate.verbose_eq_false _, h⟩

theorem follows_switchGroup :
    Follows (fun cs => Plain ('(' :: cs)) (switchGroup state) Resumes := by
  apply (Follows.char (by decide) (by decide)).bind
  intro _
  apply ((follows_switches state.inner.flags).mono _ (fun _ _ h => h)).bind
  . rintro ⟨flags', switched⟩
    have hclosing : Follows (SafeRest flags') (accepts (char ')')) (fun _ => SafeRest flags') := by
      apply Follows.accepts
      apply (Follows.char (by decide) (by decide)).mono (fun _ h => h)
      intro _ cs h
      exact h.tail (by decide)
    apply hclosing.bind
    intro closing
    split
    . apply (Follows.check _).bind
      intro _
      apply Follows.pure
      intro cs h
      exact h.resumes fun hflags => hstate.of_inner hflags
    . apply (Follows.char (by decide) (by decide)).bind
      intro _
      apply Follows.pure
      intro cs h
      exact (h.tail (by decide)).resumes fun hflags => hstate.enter hflags _
  . intro cs h
    refine ⟨(h.tail (by decide)).tail (by decide), ?_⟩
    rintro (h' | ⟨_, h'⟩)
    . simp [hstate.verbose_eq_false] at h'
    . exact (h.isSolid_of_skipsBlanks (by simpa [skipsBlanks] using h')).tail

theorem follows_openGroup :
    Follows (fun cs => Plain ('(' :: cs)) (openGroup state) Resumes := by
  have hverbose := hstate.verbose_eq_false
  apply (follows_skipGaps hverbose).bind
  intro _
  apply Follows.ahead
  . intro cs _
    split
    . next h =>
      obtain ⟨cs', rfl, _⟩ := exists_eq_append_of_escapedText ['?', '='] (by decide) h
      rfl
    . next h =>
      obtain ⟨cs', rfl, _⟩ := exists_eq_append_of_escapedText ['?', '!'] (by decide) h
      rfl
    . next h =>
      obtain ⟨cs', rfl, _⟩ := exists_eq_append_of_escapedText ['?', '<', '='] (by decide) h
      rfl
    . next h =>
      obtain ⟨cs', rfl, _⟩ := exists_eq_append_of_escapedText ['?', '<', '!'] (by decide) h
      rfl
    . next h =>
      obtain ⟨cs', rfl, _⟩ := exists_eq_append_of_escapedText ['?', 'P', '<'] (by decide) h
      rfl
    . next h₁ h₂ h =>
      obtain ⟨cs', rfl, rfl⟩ := exists_eq_append_of_escapedText ['?', '<'] (by decide) h
      split
      . next heq => simp at heq
      . next heq => simp at heq
      . next heq =>
        obtain rfl := (List.append_right_inj ['?', '<']).1 heq
        exact absurd rfl (h₁ _)
      . next heq =>
        obtain rfl := (List.append_right_inj ['?', '<']).1 heq
        exact absurd rfl (h₂ _)
      . next heq => simp at heq
      . rfl
      . next h heq => exact absurd ((List.append_right_inj ['?']).1 heq).symm (h _)
      . next h => exact absurd rfl (h _)
    . next h₁ h₂ h₃ h₄ h₅ h₆ h =>
      obtain ⟨cs', rfl, rfl⟩ := exists_eq_append_of_escapedText ['?'] (by decide) h
      split
      . next heq =>
        obtain rfl := (List.append_right_inj ['?']).1 heq
        exact absurd rfl (h₁ _)
      . next heq =>
        obtain rfl := (List.append_right_inj ['?']).1 heq
        exact absurd rfl (h₂ _)
      . next heq =>
        obtain rfl := (List.append_right_inj ['?']).1 heq
        exact absurd rfl (h₃ _)
      . next heq =>
        obtain rfl := (List.append_right_inj ['?']).1 heq
        exact absurd rfl (h₄ _)
      . next heq =>
        obtain rfl := (List.append_right_inj ['?']).1 heq
        exact absurd rfl (h₅ _)
      . next heq =>
        obtain rfl := (List.append_right_inj ['?']).1 heq
        exact absurd rfl (h₆ _)
      . rfl
      . next h => exact absurd rfl (h _)
    . next h₁ h₂ h₃ h₄ h₅ h₆ h₇ =>
      split
      . exact absurd rfl (h₁ _)
      . exact absurd rfl (h₂ _)
      . exact absurd rfl (h₃ _)
      . exact absurd rfl (h₄ _)
      . exact absurd rfl (h₅ _)
      . exact absurd rfl (h₆ _)
      . exact absurd rfl (h₇ _)
      . rfl
  . intro ds
    have hplain : ∀ {x : Scan State}, Follows Plain x Resumes →
        Follows (fun cs => cs = ds ∧ Plain ('(' :: cs)) x Resumes := by
      intro x hx
      exact hx.mono (fun cs h => h.2.tail (by decide)) (fun _ _ h => h)
    split
    . exact .failure
    . exact .failure
    . exact .failure
    . exact .failure
    . exact hplain ((keeps_literal (Text.forall_mem_of_all (by decide))).bind fun _ => follows_enterNamed hstate)
    . exact hplain ((keeps_literal (Text.forall_mem_of_all (by decide))).bind fun _ => follows_enterNamed hstate)
    . exact (follows_switchGroup hstate).mono (fun _ h => h.2) (fun _ _ h => h)
    . exact hplain (.pure fun _ h => .inl ⟨hstate.enter hverbose _, h⟩)

theorem follows_closeGroup : Follows Plain (closeGroup state) Resumes := by
  unfold closeGroup
  split
  . exact .failure
  . next around outer houter =>
    have houter : ∀ g ∈ around :: outer, g.flags.verbose = false := by
      rw [← houter]
      exact (List.forall_mem_cons.1 hstate).2
    exact .pure fun _ h => .inl ⟨List.forall_mem_cons.2 (List.forall_mem_cons.1 houter), h⟩

theorem follows_repeatLast (least : Nat) (most : Option Nat) :
    Follows Plain (repeatLast state least most) Resumes := by
  have hflags : ∀ inner, state.inner.repeated? least most = some inner →
      inner.flags.verbose = false := by
    intro inner h
    have hverbose := hstate.verbose_eq_false
    unfold OpenGroup.repeated? at h
    split at h
    . simp at h
    . simp at h
    . obtain rfl := Option.some.inj h
      exact hverbose
  apply (keeps_char (by decide) (by decide)).accepts.bind
  intro _
  split
  . next inner h => exact .pure fun _ hcs => .inl ⟨hstate.of_inner (hflags inner h), hcs⟩
  . exact .failure

theorem follows_step : Follows Plain (step classes state) Resumes := by
  have hverbose := hstate.verbose_eq_false
  have hpure : ∀ {P : List Char → Prop} {inner : OpenGroup}, inner.flags = state.inner.flags →
      (∀ cs, P cs → Plain cs) → Follows P (pure { state with inner := inner }) Resumes := by
    intro P inner hinner hP
    exact .pure fun cs h => .inl ⟨hstate.of_inner (by rw [hinner, hverbose]), hP cs h⟩
  apply Follows.next
  . intro c hc
    have htail : c ≠ '\\' → ∀ {x : Scan State}, Follows Plain x Resumes →
        Follows (fun cs => Plain (c :: cs)) x Resumes := by
      intro hne x hx
      exact hx.mono (fun cs h => h.tail hne) (fun _ _ h => h)
    split
    . exact follows_openGroup hstate
    . exact htail (by decide) (follows_closeGroup hstate)
    . exact htail (by decide) (hpure rfl fun _ h => h)
    . exact htail (by decide) ((keeps_bracketClass classes hverbose).bind fun _ => hpure rfl fun _ h => h)
    . exact htail (by decide) (follows_repeatLast hstate _ _)
    . exact htail (by decide) (follows_repeatLast hstate _ _)
    . exact htail (by decide) (follows_repeatLast hstate _ _)
    . apply (follows_limits hverbose).bind
      intro limits
      exact (follows_skipGaps hverbose).bind fun _ => follows_repeatLast hstate _ _
    . exact (follows_escape classes hverbose).bind fun _ => hpure rfl fun _ h => h
    . exact htail (by decide) ((Follows.check _).bind fun _ => hpure rfl fun _ h => h)
    . exact htail (by decide) (hpure rfl fun _ h => h)
    . exact htail (by decide) (hpure rfl fun _ h => h)
    . next _ _ _ _ _ _ _ _ hne _ _ _ => exact htail hne (hpure rfl fun _ h => h)
  . intro c hc cs hcs
    have hne : c ≠ '\\' := ne_backslash_of_mem_optionBlanks hc
    obtain ⟨ds, htext, hescape⟩ := outcome_escape_blank classes hverbose hc cs
    constructor
    . calc
        outcome (step classes state) (escapedText (c :: cs)) =
            some (state.add (itemPattern state.inner.flags (.literal c)), true, escapedText cs) := by
          rw [htext, outcome_step_escape, hescape]
          rfl
        _ = escapedOutcome (outcome (step classes state) (c :: cs)) := by
          rw [outcome_step_blank classes state hc]
          rfl
    . intro state' took cs' h
      have hstep := (outcome_step_blank classes state hc cs).symm.trans h
      simp only [Option.some.injEq, Prod.mk.injEq] at hstep
      rw [← hstep.1, ← hstep.2.2]
      exact .inl ⟨hstate.of_inner hverbose, hcs.tail hne⟩

end

theorem run_turn_escapedText (n : Nat) {state : State} {cs : List Char} (hn : cs.length < n)
    (h : Resumes state cs) :
    (loop (whole.turn classes) state).run (escapedText cs) = (loop (whole.turn classes) state).run cs := by
  induction n generalizing state cs with
  | zero => omega
  | succ n ih =>
    -- Once blanks are skipped, none is left to be escaped, and both texts are the same.
    rcases h with ⟨hstate, hplain⟩ | hsolid
    . cases cs with
      | nil => rfl
      | cons c cs =>
        have hverbose := hstate.verbose_eq_false
        have hescaped := (follows_step classes hstate).outcome_escaped _ hplain
        rw [run_loop, run_loop, outcome_turn classes hverbose (escapedText_cons_ne_nil c cs),
          outcome_turn classes hverbose (List.cons_ne_nil c cs), hescaped]
        cases hstep : outcome (step classes state) (c :: cs) with
        | none => rfl
        | some r =>
          obtain ⟨state', took, cs'⟩ := r
          cases took with
          | false => rfl
          | true =>
            have hlength := length_lt_of_outcome hstep
            exact ih (by omega) ((follows_step classes hstate).rest hplain hstep)
    . rw [escapedText_eq_self hsolid]

theorem ofText?_escapeBlanks {pattern : String} (h : hasLiteralBlanks pattern.toList = true) :
    ofText? classes (escapeBlanks pattern) = ofText? classes pattern := by
  unfold ofText? whole
  rw [toList_escapeBlanks]
  apply run_turn_escapedText classes _ (Nat.lt_succ_self _)
  exact .inl ⟨by simp [State.KeepsBlanks], h⟩

end LogSieve.Pattern
