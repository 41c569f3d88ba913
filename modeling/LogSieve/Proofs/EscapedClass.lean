import LogSieve.Proofs.EscapedReading
import LogSieve.Proofs.LiteralPattern

/-!
This module contains which patterns are still the same after their blanks have been escaped, and why
escapes and classes in them are. A blank may not follow a backslash, nor stand in the limits of a
repetition or in the name of a class of Unicode, and none may follow the switch by which blanks are
skipped.
-/

namespace LogSieve.Pattern

open Scan

def isLimitPart (c : Char) : Bool := c.isDigit || c == ',' || Text.isBlank c

def hasBlankLimits (cs : List Char) : Bool :=
  let limits := cs.takeWhile isLimitPart
  limits.any optionBlanks.contains && limits.any Char.isDigit &&
    (cs.dropWhile isLimitPart).head? == some '\x7d'

def switchLetters : List Char := ['i', 'm', 's', 'R', 'x', 'u', 'U']

def skipsBlanks : List Char → Bool
  | '?' :: cs => (cs.takeWhile switchLetters.contains).contains 'x'
  | _ => false

def hasBlankName : List Char → Bool
  | [] => false
  | '\x7b' :: cs => (cs.takeWhile (· != '\x7d')).any optionBlanks.contains
  | c :: _ => optionBlanks.contains c

/--
Whether the blanks of a pattern stand for themselves wherever they would be escaped.
-/
def hasLiteralBlanks : List Char → Bool
  | [] => true
  | '\\' :: c :: cs =>
    !optionBlanks.contains c && !((c == 'p' || c == 'P') && hasBlankName cs) && hasLiteralBlanks cs
  | c :: cs =>
    !(c == '\x7b' && hasBlankLimits cs) &&
      !(c == '(' && skipsBlanks cs && cs.any optionBlanks.contains) && hasLiteralBlanks cs

/--
A rest of a pattern, outside of an escape, whose blanks stand for themselves.
-/
def Plain (cs : List Char) : Prop := hasLiteralBlanks cs = true

def IsSolid (cs : List Char) : Prop := ∀ c ∈ cs, c ∉ optionBlanks

theorem IsSolid.tail {c : Char} {cs : List Char} (h : IsSolid (c :: cs)) : IsSolid cs :=
  fun d hd => h d (List.mem_cons_of_mem c hd)

theorem hasBlankName_of_mem {c : Char} (h : c ∈ optionBlanks) (cs : List Char) :
    hasBlankName (c :: cs) = true := by
  simp only [optionBlanks, List.mem_cons, List.not_mem_nil, or_false] at h
  rcases h with rfl | rfl | rfl | rfl <;> rfl

namespace Plain

variable {c : Char} {cs : List Char}

theorem of_escape (h : Plain ('\\' :: c :: cs)) : c ∉ optionBlanks ∧ Plain cs := by
  unfold Plain at h ⊢
  simp only [hasLiteralBlanks, Bool.and_eq_true] at h
  exact ⟨by simpa using h.1.1, h.2⟩

theorem hasBlankName_eq_false (h : Plain ('\\' :: c :: cs)) (hc : c = 'p' ∨ c = 'P') :
    hasBlankName cs = false := by
  unfold Plain at h
  simp only [hasLiteralBlanks, Bool.and_eq_true] at h
  rcases hc with rfl | rfl <;> simpa using h.1.2

theorem eq_of_ne (hc : c ≠ '\\') :
    hasLiteralBlanks (c :: cs) =
      (!(c == '\x7b' && hasBlankLimits cs) &&
        !(c == '(' && skipsBlanks cs && cs.any optionBlanks.contains) && hasLiteralBlanks cs) := by
  rw [hasLiteralBlanks]
  rintro _ _ rfl
  exact absurd rfl hc

theorem tail (h : Plain (c :: cs)) (hc : c ≠ '\\') : Plain cs := by
  unfold Plain at h ⊢
  rw [eq_of_ne hc] at h
  simp only [Bool.and_eq_true] at h
  exact h.2

theorem hasBlankLimits_eq_false (h : Plain ('\x7b' :: cs)) : hasBlankLimits cs = false := by
  unfold Plain at h
  rw [eq_of_ne (by decide)] at h
  simp at h
  exact h.1

theorem isSolid_of_skipsBlanks (h : Plain ('(' :: cs)) (hskips : skipsBlanks cs = true) :
    IsSolid cs := by
  unfold Plain at h
  rw [eq_of_ne (by decide)] at h
  simp [hskips] at h
  exact h.1

theorem behind_brace {rest : List Char} :
    ∀ {cs}, Plain cs → cs.dropWhile (· != '\x7d') = '\x7d' :: rest → Plain rest
  | [], _, hdrop => by simp at hdrop
  | [c], _, hdrop => by
    by_cases hc : c = '\x7d'
    . obtain rfl : rest = [] := by simpa [hc, eq_comm] using hdrop
      rfl
    . simp [hc] at hdrop
  | c :: d :: cs, h, hdrop => by
    by_cases hc : c = '\x7d'
    . obtain rfl : rest = d :: cs := by simpa [hc, eq_comm] using hdrop
      exact h.tail (by simp [hc])
    . by_cases hbackslash : c = '\\'
      . subst hbackslash
        -- The escape of a brace is not read as an escape in a name, but nothing of it is left.
        by_cases hd : d = '\x7d'
        . obtain rfl : rest = cs := by simpa [hd, eq_comm] using hdrop
          exact h.of_escape.2
        . exact behind_brace h.of_escape.2 (by simpa [hc, hd] using hdrop)
      . exact behind_brace (h.tail hbackslash) (by simpa [hc] using hdrop)

end Plain

abbrev Keeps {α : Type} (x : Scan α) : Prop := Follows Plain x (fun _ => Plain)

theorem keeps_char {c : Char} (hc : c ∉ optionBlanks) (hc' : c ≠ '\\') : Keeps (char c) :=
  (Follows.char hc hc').mono (fun _ h => h) (fun _ _ h => h.tail hc')

theorem keeps_satisfy {p : Char → Bool} (hp : ∀ c ∈ '\\' :: optionBlanks, p c = false) :
    Keeps (satisfy p) := by
  apply (Follows.satisfy hp).mono (fun _ h => h)
  rintro c cs ⟨hc, hcs⟩
  apply hcs.tail
  rintro rfl
  simp [hp '\\' List.mem_cons_self] at hc

theorem keeps_takeWhile {p : Char → Bool} (hp : ∀ c ∈ '\\' :: optionBlanks, p c = false) :
    Keeps (Scan.takeWhile p) := by
  apply Follows.takeWhile (hp _ List.mem_cons_self)
  intro c cs h hc
  constructor
  . intro hblank
    simp [hp c (List.mem_cons_of_mem _ hblank)] at hc
  . apply h.tail
    rintro rfl
    simp [hp _ List.mem_cons_self] at hc

theorem keeps_literal {cs : List Char} (h : ∀ c ∈ cs, c ∉ optionBlanks ∧ c ≠ '\\') :
    Keeps (literal cs) := by
  induction cs with
  | nil => exact .result _
  | cons c cs ih =>
    rw [List.forall_mem_cons] at h
    exact (keeps_char h.1.1 h.1.2).bind fun _ => ih h.2

theorem follows_skipGaps {flags : Flags} (h : flags.verbose = false) {P : List Char → Prop} :
    Follows P (skipGaps flags) (fun _ => P) := by
  rw [skipGaps_eq_pure h]
  exact .result ()

theorem keeps_scalar (n : Nat) : Keeps (Text.scalar n) :=
  (Follows.check _).bind fun _ => .result _

theorem ne_backslash_of_mem_optionBlanks {c : Char} (h : c ∈ optionBlanks) : c ≠ '\\' := by
  have hall : ∀ c ∈ optionBlanks, c ≠ '\\' := Text.forall_mem_of_all (by decide)
  exact hall c h

theorem keeps_limit (flags : Flags) (item : Item) : Keeps (limit flags item) := by
  unfold limit
  split
  . exact (Follows.check _).bind fun _ => .result _
  . exact .failure

theorem isRangeAhead_escapedText {flags : Flags} (hverbose : flags.verbose = false)
    (cs : List Char) : isRangeAhead flags (escapedText cs) = isRangeAhead flags cs := by
  cases cs with
  | nil => rfl
  | cons c cs =>
    by_cases hc : c ∈ optionBlanks
    . have hdash : c ≠ '-' := by
        rintro rfl
        exact absurd hc (by decide)
      obtain ⟨ds, htext⟩ := escapedText_cons_of_mem hc cs
      simp [htext, isRangeAhead, hdash]
    . rw [escapedText_cons_of_not_mem hc]
      by_cases hdash : c = '-'
      . subst hdash
        simp only [isRangeAhead, hverbose, Bool.false_eq_true, if_false]
        cases cs with
        | nil => rfl
        | cons d cs =>
          by_cases hd : d ∈ optionBlanks
          . have hlimit : ∀ c ∈ optionBlanks, (c != ']' && c != '-') = true :=
              Text.forall_mem_of_all (by decide)
            obtain ⟨ds, htext⟩ := escapedText_cons_of_mem hd cs
            simp [htext, hlimit d hd]
          . rw [escapedText_cons_of_not_mem hd]
            rfl
      . simp [isRangeAhead, hdash]

theorem not_mem_of_ofName? {name : List Char} {set : CharClass}
    (h : CharClass.ofName? (String.ofList name) = some set) :
    ∀ c ∈ name, c ∉ optionBlanks ∧ c ≠ '\\' := by
  have hname : ∀ text : String, CharClass.ofName? text = some set →
      ∀ c ∈ text.toList, c ∉ optionBlanks ∧ c ≠ '\\' := by
    intro text h
    unfold CharClass.ofName? at h
    split at h
    case h_15 => simp at h
    all_goals exact Text.forall_mem_of_all (by decide)
  simpa using hname _ h

theorem takeWhile_ne_colon_escapedText (cs : List Char) :
    (escapedText cs).takeWhile (· != ':') = escapedText (cs.takeWhile (· != ':')) ∧
      (escapedText cs).dropWhile (· != ':') = escapedText (cs.dropWhile (· != ':')) := by
  have hescape : ∀ c ∈ optionBlanks,
      c ≠ ':' ∧ (escapeBlanks.escape c).all (· != ':') = true :=
    Text.forall_mem_of_all (by decide)
  induction cs with
  | nil => exact ⟨rfl, rfl⟩
  | cons c cs ih =>
    by_cases hc : c ∈ optionBlanks
    . have htext : escapedText (c :: cs) = escapeBlanks.escape c ++ escapedText cs := rfl
      have hcolon := List.all_eq_true.1 (hescape c hc).2
      rw [htext, List.takeWhile_append_of_pos hcolon, List.dropWhile_append_of_pos hcolon, ih.1, ih.2]
      simp [(hescape c hc).1, escapedText]
    . rw [escapedText_cons_of_not_mem hc]
      by_cases hcolon : c = ':'
      . rw [hcolon]
        exact ⟨rfl, rfl⟩
      . simp [hcolon, escapedText_cons_of_not_mem hc, ih]

theorem Plain.dropWhile_of_takeWhile {p : Char → Bool} {cs : List Char} (h : Plain cs)
    (hne : ∀ c ∈ cs.takeWhile p, c ≠ '\\') : Plain (cs.dropWhile p) := by
  induction cs with
  | nil => exact h
  | cons c cs ih =>
    cases hc : p c with
    | true =>
      simp only [List.takeWhile_cons, hc, if_true, List.forall_mem_cons] at hne
      simpa [hc] using ih (h.tail hne.1) hne.2
    | false => simpa [hc] using h

def nameEnd (negated : Bool) (name : List Char) : Scan (Bool × CharClass) := do
  literal [':', ']']
  match CharClass.ofName? (String.ofList name) with
  | some set => return (negated, set)
  | none => failure

theorem keeps_nameEnd (negated : Bool) (name : List Char) : Keeps (nameEnd negated name) := by
  apply (keeps_literal (Text.forall_mem_of_all (by decide))).bind
  intro _
  split
  . exact .result _
  . exact .failure

theorem outcome_nameEnd_eq_none (negated : Bool) {name : List Char}
    (h : CharClass.ofName? (String.ofList name) = none) (cs : List Char) :
    outcome (nameEnd negated name) cs = none := by
  unfold nameEnd
  rw [h, outcome_bind]
  cases outcome (literal [':', ']']) cs <;> simp

theorem ofName?_escapedText_eq_none {name : List Char}
    (h : CharClass.ofName? (String.ofList name) = none) :
    CharClass.ofName? (String.ofList (escapedText name)) = none := by
  rw [Option.eq_none_iff_forall_ne_some]
  intro set hset
  have hsolid : IsSolid name := by
    intro c hc hblank
    obtain ⟨before, behind, rfl⟩ := List.append_of_mem hc
    obtain ⟨ds, htext⟩ := escapedText_cons_of_mem hblank behind
    have hbackslash : '\\' ∈ escapedText (before ++ c :: behind) := by
      have happend : escapedText (before ++ c :: behind) =
          escapedText before ++ escapedText (c :: behind) := by simp [escapedText]
      simp [happend, htext]
    exact (not_mem_of_ofName? hset _ hbackslash).2 rfl
  rw [escapedText_eq_self hsolid, h] at hset
  simp at hset

theorem keeps_takeName (negated : Bool) :
    Keeps (Scan.takeWhile (· != ':') >>= nameEnd negated) := by
  have houtcome : ∀ cs, outcome (Scan.takeWhile (· != ':') >>= nameEnd negated) cs =
      (outcome (nameEnd negated (cs.takeWhile (· != ':'))) (cs.dropWhile (· != ':'))).map
        fun (set, took, cs') => (set, !(cs.takeWhile (· != ':')).isEmpty || took, cs') := by
    intro cs
    rw [outcome_bind, outcome_takeWhile]
    rfl
  have hplain : ∀ cs, Plain cs → ∀ set,
      CharClass.ofName? (String.ofList (cs.takeWhile (· != ':'))) = some set →
        Plain (cs.dropWhile (· != ':')) := by
    intro cs hcs set hset
    apply hcs.dropWhile_of_takeWhile
    intro c hc
    exact (not_mem_of_ofName? hset c hc).2
  constructor
  . intro cs hcs
    obtain ⟨htake, hdrop⟩ := takeWhile_ne_colon_escapedText cs
    rw [houtcome, houtcome, htake, hdrop]
    cases hname : CharClass.ofName? (String.ofList (cs.takeWhile (· != ':'))) with
    | none =>
      -- The name may have blanks and backslashes here, but then it is rejected anyway.
      rw [outcome_nameEnd_eq_none negated hname,
        outcome_nameEnd_eq_none negated (ofName?_escapedText_eq_none hname)]
      rfl
    | some set =>
      have hsolid : IsSolid (cs.takeWhile (· != ':')) := by
        intro c hc
        exact (not_mem_of_ofName? hname c hc).1
      have hescaped := (keeps_nameEnd negated (cs.takeWhile (· != ':'))).outcome_escaped _
        (hplain cs hcs _ hname)
      rw [escapedText_eq_self hsolid, hescaped, escapedOutcome, Option.map_map, Option.map_map]
      rfl
  . intro cs set took cs' hcs h
    rw [houtcome] at h
    obtain ⟨⟨set', took', cs''⟩, hend, heq⟩ := Option.map_eq_some_iff.1 h
    simp only [Prod.mk.injEq] at heq
    rw [← heq.2.2]
    cases hname : CharClass.ofName? (String.ofList (cs.takeWhile (· != ':'))) with
    | none => simp [outcome_nameEnd_eq_none negated hname] at hend
    | some set => exact (keeps_nameEnd negated _).rest (hplain cs hcs _ hname) hend

theorem keeps_namedClass : Keeps namedClass := by
  apply (keeps_literal (Text.forall_mem_of_all (by decide))).bind
  intro _
  apply (keeps_char (by decide) (by decide)).accepts.bind
  intro negated
  exact keeps_takeName negated

theorem keeps_operate (flags : Flags) (state : OpenClass × List OpenClass) (op : SetOp) {c : Char}
    (hc : c ∉ optionBlanks) (hc' : c ≠ '\\') (ds : List Char) :
    Follows (fun cs => cs = c :: c :: ds ∧ Plain cs) (classStep.operate flags state op)
      (fun _ => Plain) := by
  apply Follows.next
  . intro d _
    apply Follows.next
    . intro e _
      apply Follows.pure
      rintro cs ⟨heq, hcs⟩
      simp only [List.cons.injEq] at heq
      rw [heq.1, heq.2.1] at hcs
      exact (hcs.tail hc').tail hc'
    . rintro e he cs ⟨heq, _⟩
      simp only [List.cons.injEq] at heq
      exact absurd (heq.2.1 ▸ he) hc
  . rintro d hd cs ⟨heq, _⟩
    simp only [List.cons.injEq] at heq
    exact absurd (heq.1 ▸ hd) hc

/--
A rest of the name of a class in braces without blanks that would be escaped, and with a plain text
behind its closing brace.
-/
def InName (cs : List Char) : Prop :=
  IsSolid (cs.takeWhile (· != '\x7d')) ∧
    ∀ rest, cs.dropWhile (· != '\x7d') = '\x7d' :: rest → Plain rest

namespace InName

variable {c : Char} {cs : List Char}

theorem of_escape (h : Plain ('\\' :: c :: '\x7b' :: cs)) (hc : c = 'p' ∨ c = 'P') : InName cs := by
  constructor
  . have hname := h.hasBlankName_eq_false hc
    intro d hd hblank
    simp only [hasBlankName, List.any_eq_false] at hname
    exact hname d hd (List.contains_iff_mem.2 hblank)
  . intro rest hrest
    exact (h.of_escape.2.tail (by decide)).behind_brace hrest

theorem not_mem (h : InName (c :: cs)) : c ∉ optionBlanks := by
  intro hc
  have hbrace : c ≠ '\x7d' := by
    rintro rfl
    exact absurd hc (by decide)
  exact h.1 c (by simp [hbrace]) hc

theorem tail (h : InName (c :: cs)) (hc : c ≠ '\x7d') : InName cs := by
  obtain ⟨hsolid, hrest⟩ := h
  rw [List.takeWhile_cons_of_pos (by simpa using hc)] at hsolid
  rw [List.dropWhile_cons_of_pos (by simpa using hc)] at hrest
  exact ⟨hsolid.tail, hrest⟩

end InName

section

variable (classes : NamedClasses) {flags : Flags} (hverbose : flags.verbose = false)
include hverbose

theorem keeps_hexDigit : Keeps (hexDigit flags) := by
  have hdigit : Keeps Text.hexDigit := by
    apply Follows.next_of_reject
    . intro c hc
      split
      . next n hn =>
        apply Follows.pure
        intro cs hcs
        apply hcs.tail
        rintro rfl
        have hnone : Text.hexValue? '\\' = none := by decide
        simp [hnone] at hn
      . exact .failure
    . intro c hc cs
      have hnone : ∀ c ∈ '\\' :: optionBlanks, Text.hexValue? c = none :=
        Text.forall_mem_of_all (by decide)
      rw [hnone c hc]
      rfl
  exact hdigit.seqLeft fun _ => follows_skipGaps hverbose

theorem keeps_hexCode (count : Nat) : Keeps (hexCode flags count) := by
  have hopening : Keeps (accepts (char '\x7b')) := (keeps_char (by decide) (by decide)).accepts
  have hdigits : Keeps (Scan.many (hexDigit flags)) := (keeps_hexDigit hverbose).many
  have hclosing : Keeps (char '\x7d') := keeps_char (by decide) (by decide)
  apply (follows_skipGaps hverbose).bind
  intro _
  apply hopening.bind
  intro braces
  cases braces with
  | true =>
    apply (follows_skipGaps hverbose).bind
    intro _
    apply hdigits.bind
    intro digits
    apply (Follows.check _).bind
    intro _
    exact hclosing.bind fun _ => keeps_scalar _
  | false =>
    apply (Follows.foldlM _ _ _).bind
    . intro n
      exact (Follows.check _).bind fun _ => keeps_scalar n
    . intro n _
      exact (keeps_hexDigit hverbose).bind fun _ => .result _

theorem keeps_wordAssertion : Keeps (wordAssertion flags) := by
  have hletter : Keeps (satisfy fun c => c.isAlpha || c == '-') :=
    keeps_satisfy (Text.forall_mem_of_all (by decide))
  apply Follows.orElse _ (.result _)
  apply (keeps_char (by decide) (by decide)).bind
  intro _
  apply (follows_skipGaps hverbose).bind
  intro _
  apply (hletter.seqLeft fun _ => follows_skipGaps hverbose).many.bind
  intro name
  apply (keeps_char (by decide) (by decide)).bind
  intro _
  split
  . exact .result _
  . exact .result _
  . exact .result _
  . exact .result _
  . exact .failure

theorem follows_classNameBraces :
    Follows InName (Scan.many (satisfy (· != '\x7d') <* skipGaps flags)) (fun _ => InName) := by
  have hsatisfy : Follows InName (satisfy (· != '\x7d')) (fun _ => InName) := by
    apply (Follows.satisfy_of_blank _).mono (fun _ h => h)
    . rintro c cs ⟨hc, h⟩
      exact h.tail (by simpa using hc)
    . intro c cs h hblank
      exact absurd hblank h.not_mem
  exact (hsatisfy.seqLeft fun _ => follows_skipGaps hverbose).many

theorem follows_className {c : Char} (hc : c = 'p' ∨ c = 'P') :
    Follows (fun cs => Plain ('\\' :: c :: cs)) (className flags) (fun _ => Plain) := by
  apply (follows_skipGaps hverbose).bind
  intro _
  apply (Follows.accepts_char (by decide) (by decide)).bind
  intro braces
  cases braces with
  | true =>
    apply (follows_skipGaps hverbose).bind
    intro _
    apply ((follows_classNameBraces hverbose).mono _ (fun _ _ h => h)).bind
    . intro name
      apply (Follows.char (by decide) (by decide)).bind
      intro _
      exact .pure fun _ h => h.2 _ rfl
    . intro cs h
      exact .of_escape h hc
  | false =>
    apply (Follows.satisfy_of_blank _).bind
    . intro d
      apply Follows.pure
      rintro cs ⟨hd, h⟩
      exact h.of_escape.2.tail (by simpa using hd)
    . intro d cs h hd
      have hname := h.hasBlankName_eq_false hc
      simp [hasBlankName_of_mem hd] at hname

theorem follows_unicodeClass (negated : Bool) {c : Char} (hc : c = 'p' ∨ c = 'P') :
    Follows (fun cs => Plain ('\\' :: c :: cs)) (unicodeClass classes flags negated)
      (fun _ => Plain) := by
  apply (follows_className hverbose hc).bind
  intro name
  apply (Follows.check _).bind
  intro _
  split
  . exact .result _
  . exact .failure

theorem follows_escape :
    Follows (fun cs => Plain ('\\' :: cs)) (escape classes flags) (fun _ => Plain) := by
  apply Follows.next
  . intro c _
    have hkeeps : ∀ {x : Scan Item}, Keeps x →
        Follows (fun cs => Plain ('\\' :: c :: cs)) x (fun _ => Plain) := by
      intro x hx
      exact hx.mono (fun _ h => h.of_escape.2) (fun _ _ h => h)
    have hnamed : ∀ set, Keeps (do check (flags.allows set); return Item.set set) := by
      intro set
      exact (Follows.check _).bind fun _ => .result _
    split
    . exact hkeeps ((keeps_hexCode hverbose 2).map fun _ _ h => h)
    . exact hkeeps ((keeps_hexCode hverbose 4).map fun _ _ h => h)
    . exact hkeeps ((keeps_hexCode hverbose 8).map fun _ _ h => h)
    . exact hkeeps (hnamed _)
    . exact hkeeps (hnamed _)
    . exact hkeeps (hnamed _)
    . exact hkeeps (hnamed _)
    . exact hkeeps (hnamed _)
    . exact hkeeps (hnamed _)
    . exact follows_unicodeClass classes hverbose false (.inl rfl)
    . exact follows_unicodeClass classes hverbose true (.inr rfl)
    case h_20 => exact hkeeps ((keeps_wordAssertion hverbose).map fun _ _ h => h)
    case h_24 => exact hkeeps ((Follows.check _).bind fun _ => .result _)
    all_goals exact hkeeps (.result _)
  . intro c hc cs h
    exact absurd hc h.of_escape.1

theorem outcome_escape_blank {c : Char} (hc : c ∈ optionBlanks) (cs : List Char) :
    ∃ ds, escapedText (c :: cs) = '\\' :: ds ∧
      outcome (escape classes flags) ds = some (.literal c, true, escapedText cs) := by
  obtain ⟨_, _, _, _, _, unicode⟩ := flags
  subst hverbose
  simp only [optionBlanks, List.mem_cons, List.not_mem_nil, or_false] at hc
  rcases hc with rfl | rfl | rfl | rfl
  . exact ⟨_, rfl, by cases unicode <;> rfl⟩
  . exact ⟨_, rfl, rfl⟩
  . exact ⟨_, rfl, rfl⟩
  . exact ⟨_, rfl, rfl⟩

theorem keeps_classItem : Keeps (classItem classes flags) := by
  apply Follows.next
  . intro c _
    split
    . next hc =>
      rw [hc]
      exact follows_escape classes hverbose
    . next hc => exact .pure fun _ h => h.tail hc
  . -- The blank and its escape are the same item.
    intro c hc cs hcs
    have hne : c ≠ '\\' := ne_backslash_of_mem_optionBlanks hc
    obtain ⟨ds, htext, hescape⟩ := outcome_escape_blank classes hverbose hc cs
    rw [htext, outcome_next_bind, outcome_next_bind, if_pos rfl, hescape, if_neg hne]
    refine ⟨rfl, ?_⟩
    intro item took cs' h
    simp only [outcome_pure, Option.map_some, Option.some.injEq, Prod.mk.injEq] at h
    rw [← h.2.2]
    exact hcs.tail hne

theorem keeps_openClass : Keeps (openClass flags) := by
  have hchar : ∀ c, c ∉ optionBlanks → c ≠ '\\' → Keeps (char c *> skipGaps flags) := by
    intro c hc hc'
    exact (keeps_char hc hc').seqRight fun _ => follows_skipGaps hverbose
  apply (follows_skipGaps hverbose).bind
  intro _
  apply (hchar '^' (by decide) (by decide)).accepts.bind
  intro negated
  apply (hchar '-' (by decide) (by decide)).many.bind
  intro dashes
  split
  . apply (hchar ']' (by decide) (by decide)).accepts.bind
    intro closing
    split
    . exact .result _
    . exact .result _
  . exact .result _

theorem keeps_classRange : Keeps (classRange classes flags) := by
  apply (keeps_classItem classes hverbose).bind
  intro first
  apply (follows_skipGaps hverbose).bind
  intro _
  apply Follows.ahead
  . intro cs _
    rw [isRangeAhead_escapedText hverbose]
  . intro ds
    apply Follows.mono (P := Plain) _ (fun cs h => h.2) (fun _ _ h => h)
    split
    . apply (keeps_char (by decide) (by decide)).bind
      intro _
      apply (follows_skipGaps hverbose).bind
      intro _
      apply (keeps_classItem classes hverbose).bind
      intro second
      apply (keeps_limit flags first).bind
      intro lo
      apply (keeps_limit flags second).bind
      intro hi
      exact (Follows.check _).bind fun _ => .result _
    . split
      . exact (keeps_limit flags _).map fun _ _ h => h
      . exact .result _
      . exact .failure

theorem keeps_classStep (state : OpenClass × List OpenClass) : Keeps (classStep classes flags state) := by
  obtain ⟨inner, outer⟩ := state
  apply (follows_skipGaps hverbose).bind
  intro _
  apply Follows.ahead
  . intro cs _
    split
    . next h =>
      obtain ⟨cs', rfl, _⟩ := exists_eq_append_of_escapedText ['&', '&'] (by decide) h
      rfl
    . next h =>
      obtain ⟨cs', rfl, _⟩ := exists_eq_append_of_escapedText ['-', '-'] (by decide) h
      rfl
    . next h =>
      obtain ⟨cs', rfl, _⟩ := exists_eq_append_of_escapedText ['~', '~'] (by decide) h
      rfl
    . next h =>
      obtain ⟨cs', rfl, _⟩ := exists_eq_append_of_escapedText ['['] (by decide) h
      rfl
    . next h =>
      obtain ⟨cs', rfl, _⟩ := exists_eq_append_of_escapedText [']'] (by decide) h
      rfl
    . next h₁ h₂ h₃ h₄ h₅ =>
      split
      . exact absurd rfl (h₁ _)
      . exact absurd rfl (h₂ _)
      . exact absurd rfl (h₃ _)
      . exact absurd rfl (h₄ _)
      . exact absurd rfl (h₅ _)
      . rfl
  . intro ds
    have hplain : ∀ {x : Scan ((OpenClass × List OpenClass) ⊕ Nested)}, Keeps x →
        Follows (fun cs => cs = ds ∧ Plain cs) x (fun _ => Plain) := by
      intro x hx
      exact hx.mono (fun cs h => h.2) (fun _ _ h => h)
    split
    . exact keeps_operate flags _ _ (by decide) (by decide) _
    . exact keeps_operate flags _ _ (by decide) (by decide) _
    . exact keeps_operate flags _ _ (by decide) (by decide) _
    . apply hplain
      apply keeps_namedClass.option?.bind
      intro named?
      split
      . exact (Follows.check _).bind fun _ => .result _
      . apply (keeps_char (by decide) (by decide)).bind
        intro _
        exact (keeps_openClass hverbose).bind fun _ => .result _
    . apply hplain
      apply (keeps_char (by decide) (by decide)).bind
      intro _
      apply (Follows.check _).bind
      intro _
      split
      . exact .result _
      . exact .result _
    . apply hplain
      exact (keeps_classRange classes hverbose).bind fun _ => .result _

theorem keeps_bracketClass : Keeps (bracketClass classes flags) := by
  apply (keeps_openClass hverbose).bind
  intro start
  apply Follows.loop (I := fun _ => Plain)
  intro state
  apply (keeps_classStep classes hverbose state).mono (fun _ h => h)
  rintro (_ | _) cs h <;> exact h

end

end LogSieve.Pattern
