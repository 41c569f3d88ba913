import LogSieve.Expr.Steps
import LogSieve.Pattern.Reader
import LogSieve.Proofs.PatternSearch
import LogSieve.Proofs.ScanOutcome

/-!
This module contains what the patterns of literals are read as. A literal goes through two escapes,
one for its own characters and one for blanks, and every character comes back as itself.
-/

namespace LogSieve

def escapedChar (c : Char) : List Char :=
  if metaCharacters.contains c then ['\\', c] else escapeBlanks.escape c

theorem flatMap_escape_escaped (c : Char) :
    (if metaCharacters.contains c then ['\\', c] else [c]).flatMap escapeBlanks.escape =
      escapedChar c := by
  unfold escapedChar
  split
  . next h =>
    have hall : ∀ c ∈ metaCharacters, ['\\', c].flatMap escapeBlanks.escape = ['\\', c] := by
      simp [metaCharacters, escapeBlanks.escape]
    exact hall c (List.contains_iff_mem.1 h)
  . simp

theorem toList_escapeBlanks_escapeLiteral (opening s closing : String)
    (hopening : opening.toList.flatMap escapeBlanks.escape = opening.toList)
    (hclosing : closing.toList.flatMap escapeBlanks.escape = closing.toList) :
    (escapeBlanks (opening ++ escapeLiteral s ++ closing)).toList =
      opening.toList ++ s.toList.flatMap escapedChar ++ closing.toList := by
  unfold escapeBlanks escapeLiteral
  simp only [String.toList_ofList, String.toList_append, List.flatMap_append, hopening, hclosing,
    List.flatMap_assoc, flatMap_escape_escaped]

namespace Pattern

open Scan

variable (classes : NamedClasses)

def reading (items : List Pattern) : State := ⟨⟨{}, items, []⟩, [], []⟩

theorem outcome_step_escaped {c : Char} (hc : c ∈ metaCharacters) (items : List Pattern)
    (rest : List Char) :
    outcome (step classes (reading items)) ('\\' :: c :: rest) =
      some (reading (ofChar c :: items), true, rest) := by
  simp only [metaCharacters, List.mem_cons, List.not_mem_nil, or_false] at hc
  rcases hc with rfl | rfl | rfl | rfl | rfl | rfl | rfl | rfl | rfl | rfl | rfl | rfl | rfl | rfl |
    rfl | rfl | rfl | rfl <;> rfl

theorem outcome_step_plain {c : Char} (hc : c ∉ metaCharacters) (items : List Pattern)
    (rest : List Char) :
    outcome (step classes (reading items)) (c :: rest) = some (reading (ofChar c :: items), true, rest) := by
  simp only [metaCharacters, List.mem_cons, List.not_mem_nil, or_false, not_or] at hc
  unfold step
  rw [outcome_next_bind]
  split
  case h_13 => rfl
  all_goals simp at hc

theorem outcome_step_escapedChar (c : Char) (items : List Pattern) (rest : List Char) :
    outcome (step classes (reading items)) (escapedChar c ++ rest) =
      some (reading (ofChar c :: items), true, rest) := by
  unfold escapedChar
  split
  . next h => exact outcome_step_escaped classes (List.contains_iff_mem.1 h) items rest
  . next h =>
    unfold escapeBlanks.escape
    split
    case h_5 =>
      apply outcome_step_plain
      simpa using h
    all_goals rfl

theorem skipGaps_eq_pure {flags : Flags} (h : flags.verbose = false) : skipGaps flags = pure () := by
  simp [skipGaps, h]

theorem outcome_turn {state : State} (hverbose : state.inner.flags.verbose = false) {cs : List Char}
    (hcs : cs ≠ []) :
    outcome (whole.turn classes state) cs =
      (outcome (step classes state) cs).map fun (state', took, cs') => (.inl state', took, cs') := by
  unfold whole.turn
  cases h : outcome (step classes state) cs <;>
    simp [skipGaps_eq_pure hverbose, outcome_bind, hcs, h]

theorem run_turn_nil {items : List Pattern} {p : Pattern} (hp : OpenGroup.sequence items.reverse = p)
    (hdepth : p.depth ≤ maxDepth) : (loop (whole.turn classes) (reading items)).run [] = some p := by
  have hgaps : skipGaps (reading items).inner.flags = pure () := rfl
  have hclose : (reading items).inner.close = p := hp
  have houter : (reading items).outer = [] := rfl
  have hturn : outcome (whole.turn classes (reading items)) [] = some (.inr p, false, []) := by
    unfold whole.turn
    simp [hgaps, hclose, houter, outcome_bind, hdepth]
  exact run_loop_of_inr hturn

theorem escapedChar_ne_nil (c : Char) : escapedChar c ≠ [] := by
  unfold escapedChar
  split
  . simp
  . unfold escapeBlanks.escape
    split <;> simp

theorem run_turn_flatMap_escapedChar (s : List Char) (items : List Pattern) (rest : List Char) :
    (loop (whole.turn classes) (reading items)).run (s.flatMap escapedChar ++ rest) =
      (loop (whole.turn classes) (reading ((s.map ofChar).reverse ++ items))).run rest := by
  induction s generalizing items with
  | nil => rfl
  | cons c s ih =>
    have hturn : ∀ rest, outcome (whole.turn classes (reading items)) (escapedChar c ++ rest) =
        some (.inl (reading (ofChar c :: items)), true, rest) := by
      intro rest
      rw [outcome_turn classes rfl (by simp [escapedChar_ne_nil]), outcome_step_escapedChar]
      rfl
    rw [List.flatMap_cons, List.append_assoc, run_loop_of_inl (hturn _), ih]
    simp

theorem depthList_map_ofChar (s : List Char) : depthList (s.map ofChar) = 0 := by
  induction s with
  | nil => rfl
  | cons c s ih => simp [depthList, ofChar, depth, ih]

theorem depth_exactly (s : List Char) : (exactly s).depth = 1 := by
  have happend : ∀ ps qs : List Pattern,
      depthList (ps ++ qs) = max (depthList ps) (depthList qs) := by
    intro ps qs
    induction ps with
    | nil => simp [depthList]
    | cons p ps ih => simp [depthList, ih, Nat.max_assoc]
  simp [exactly, depth, depthList, happend, depthList_map_ofChar]

theorem ofText?_literal (s : String) :
    ofText? classes (escapeBlanks (escapeLiteral s)) = some (OpenGroup.sequence (s.toList.map ofChar)) := by
  have htext : (escapeBlanks (escapeLiteral s)).toList = s.toList.flatMap escapedChar ++ [] := by
    simpa using toList_escapeBlanks_escapeLiteral "" s "" rfl rfl
  have hdepth : (OpenGroup.sequence (s.toList.map ofChar)).depth ≤ maxDepth := by
    have hlist := depthList_map_ofChar s.toList
    unfold OpenGroup.sequence
    split
    . decide
    . next p hp =>
      simp [hp, depthList] at hlist
      simp [hlist]
    . simp [depth, hlist, maxDepth]
  calc (whole classes).run (escapeBlanks (escapeLiteral s)).toList
    _ = (loop (whole.turn classes) (reading [])).run (s.toList.flatMap escapedChar ++ []) := by
      rw [htext]
      rfl
    _ = (loop (whole.turn classes) (reading ((s.toList.map ofChar).reverse ++ []))).run [] :=
      run_turn_flatMap_escapedChar classes _ _ _
    _ = some (OpenGroup.sequence (s.toList.map ofChar)) := run_turn_nil classes (by simp) hdepth

theorem ofText?_exactly (s : String) :
    ofText? classes (escapeBlanks ("^" ++ escapeLiteral s ++ "$")) = some (exactly s.toList) := by
  have hstart : ∀ rest, outcome (whole.turn classes (reading [])) ("^".toList ++ rest) =
      some (.inl (reading [.look .textStart]), true, rest) := by
    intro rest
    rw [outcome_turn classes rfl (by simp)]
    rfl
  have hend : ∀ items, outcome (whole.turn classes (reading items)) "$".toList =
      some (.inl (reading (.look .textEnd :: items)), true, []) := by
    intro items
    rw [outcome_turn classes rfl (by simp)]
    rfl
  have hitems : OpenGroup.sequence
      (.look .textEnd :: ((s.toList.map ofChar).reverse ++ [.look .textStart])).reverse =
        exactly s.toList := by
    cases s.toList <;> simp [OpenGroup.sequence, exactly]
  calc (whole classes).run (escapeBlanks ("^" ++ escapeLiteral s ++ "$")).toList
    _ = (loop (whole.turn classes) (reading [])).run
          ("^".toList ++ (s.toList.flatMap escapedChar ++ "$".toList)) := by
      rw [toList_escapeBlanks_escapeLiteral "^" s "$" (by decide) (by decide), List.append_assoc]
      rfl
    _ = (loop (whole.turn classes) (reading [.look .textStart])).run
          (s.toList.flatMap escapedChar ++ "$".toList) := run_loop_of_inl (hstart _)
    _ = (loop (whole.turn classes) (reading ((s.toList.map ofChar).reverse ++ [.look .textStart]))).run
          "$".toList := run_turn_flatMap_escapedChar classes _ _ _
    _ = (loop (whole.turn classes)
          (reading (.look .textEnd :: ((s.toList.map ofChar).reverse ++ [.look .textStart])))).run
          [] := run_loop_of_inl (hend _)
    _ = some (exactly s.toList) := run_turn_nil classes hitems (by rw [depth_exactly]; decide)

end Pattern

end LogSieve
