import LogSieve.Pattern.Basic

/-!
This module contains which positions of a text a search marks, and from this where a literal between
anchors occurs: only in the text that it is itself.
-/

namespace LogSieve

theorem CharClass.has_single_iff {c d : Char} : (CharClass.single c).has d = true ↔ d = c := by
  simp only [CharClass.single, CharClass.has, Bool.and_eq_true, decide_eq_true_eq]
  constructor
  . rintro ⟨hle, hge⟩
    exact Char.le_antisymm hge hle
  . rintro rfl
    exact ⟨Char.le_refl d, Char.le_refl d⟩

namespace Pattern

def contextAt (text : List Char) (i : Nat) : Context :=
  ⟨if i = 0 then none else text[i - 1]?, text[i]?⟩

theorem contexts.getElem?_go (before : Option Char) (text : List Char) (i : Nat) :
    (go before text)[i]? =
      if i ≤ text.length then some ⟨if i = 0 then before else text[i - 1]?, text[i]?⟩ else none := by
  induction text generalizing before i with
  | nil => cases i <;> simp [go]
  | cons c cs ih =>
    cases i with
    | zero => simp [go]
    | succ i =>
      rw [go, List.getElem?_cons_succ, ih]
      cases i <;> simp

theorem getElem?_contexts (text : List Char) (i : Nat) :
    (contexts text)[i]? = if i ≤ text.length then some (contextAt text i) else none := by
  apply contexts.getElem?_go

namespace Marks

def Has (marks : Marks) (i : Nat) : Prop := marks[i]? = some true

variable {text : List Char} {marks : Marks}

theorem has_advance_iff {set : CharClass} {j : Nat} :
    (marks.advance text set).Has j ↔
      ∃ i c, j = i + 1 ∧ marks.Has i ∧ text[i]? = some c ∧ set.has c = true := by
  unfold Has advance
  cases j with
  | zero => simp
  | succ j =>
    rw [List.getElem?_cons_succ, List.getElem?_zipWith]
    cases htext : text[j]? <;> cases hmarks : marks[j]? <;> simp_all

theorem has_restrict_iff {assertion : Assertion} {i : Nat} :
    (marks.restrict text assertion).Has i ↔
      marks.Has i ∧ i ≤ text.length ∧ assertion.holds (contextAt text i) = true := by
  unfold Has restrict
  rw [List.getElem?_zipWith, getElem?_contexts]
  by_cases hi : i ≤ text.length
  . cases marks[i]? <;> simp [hi]
  . simp [hi]

theorem has_replicate_iff {n i : Nat} : Has (List.replicate n true) i ↔ i < n := by
  simp [Has, List.getElem?_replicate]

theorem any_eq_true_iff : marks.any id = true ↔ ∃ i, marks.Has i := by
  simp [Has, ← List.mem_iff_getElem?]

end Marks

theorem endsSeq_append (text : List Char) (ps qs : List Pattern) (marks : Marks) :
    endsSeq text (ps ++ qs) marks = endsSeq text qs (endsSeq text ps marks) := by
  induction ps generalizing marks with
  | nil => simp [endsSeq]
  | cons p ps ih => simp [endsSeq, ih]

def ofChar (c : Char) : Pattern := .chars (.single c)

theorem has_endsSeq_ofChar_iff {text s : List Char} {marks : Marks} {j : Nat} :
    (endsSeq text (s.map ofChar) marks).Has j ↔
      ∃ i, marks.Has i ∧ j = i + s.length ∧ s <+: text.drop i := by
  induction s generalizing marks j with
  | nil => simp [endsSeq]
  | cons c s ih =>
    simp only [List.map_cons, endsSeq, ih, ofChar, ends, Marks.has_advance_iff,
      CharClass.has_single_iff]
    constructor
    . rintro ⟨_, ⟨i, _, rfl, hmarks, hc, rfl⟩, rfl, hs⟩
      obtain ⟨hlt, rfl⟩ := List.getElem?_eq_some_iff.1 hc
      refine ⟨i, hmarks, by simp; omega, ?_⟩
      rw [List.drop_eq_getElem_cons hlt]
      exact List.cons_prefix_cons.2 ⟨rfl, hs⟩
    . rintro ⟨i, hmarks, rfl, hs⟩
      have hlt : i < text.length := by
        have := hs.length_le
        simp at this
        omega
      rw [List.drop_eq_getElem_cons hlt, List.cons_prefix_cons] at hs
      exact ⟨i + 1, ⟨i, c, rfl, hmarks, by simp [hlt, hs.1], rfl⟩, by simp; omega, hs.2⟩

def exactly (s : List Char) : Pattern :=
  .seq (.look .textStart :: s.map ofChar ++ [.look .textEnd])

theorem occursIn_exactly_iff {s text : List Char} :
    (exactly s).occursIn text = true ↔ text = s := by
  unfold occursIn exactly
  rw [Marks.any_eq_true_iff]
  simp only [ends, List.cons_append, endsSeq, endsSeq_append, Marks.has_restrict_iff,
    has_endsSeq_ofChar_iff, Marks.has_replicate_iff, Assertion.holds, contextAt]
  constructor
  . rintro ⟨j, ⟨i, ⟨_, _, hstart⟩, rfl, hs⟩, _, hend⟩
    -- The literal starts where nothing is before it, and ends where nothing is behind it.
    have hi : i = 0 := by
      cases i with
      | zero => rfl
      | succ i =>
        simp at hstart
        omega
    subst hi
    simp at hend hs
    exact (hs.eq_of_length_le (by omega)).symm
  . rintro rfl
    exact ⟨text.length, ⟨0, by simp⟩, by simp⟩

end Pattern

end LogSieve
