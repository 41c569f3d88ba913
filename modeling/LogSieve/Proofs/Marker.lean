import LogSieve.Expr.Steps

/-!
This module contains the names of markers. The markers that belong to a scope start with its name
and an underscore, and the scopes of different children have no marker in common.
-/

namespace LogSieve

def isMarkerPart (c : Char) : Bool := c.isAlphanum || c == '_'

def InScope (scope marker : String) : Prop :=
  ∃ rest : String, marker = scope ++ "_" ++ rest ∧ rest.toList.all isMarkerPart = true

def AtOrInScope (scope marker : String) : Prop := marker = scope ∨ InScope scope marker

theorem all_isMarkerPart_repr (i : Nat) : (Nat.repr i).toList.all isMarkerPart = true := by
  rw [Nat.toList_repr, List.all_eq_true]
  intro c hc
  have : c.isDigit = true := Nat.isDigit_of_mem_toDigits (by decide) (by decide) hc
  simp [isMarkerPart, Char.isAlphanum, this]

theorem inScope_childKey (scope : String) (i : Nat) : InScope scope (childKey scope i) :=
  ⟨Nat.repr i, rfl, all_isMarkerPart_repr i⟩

theorem inScope_failedKey (scope : String) : InScope scope (Expr.failedKey scope) :=
  ⟨"n", by simp [Expr.failedKey, String.append_assoc], by decide⟩

theorem InScope.of_childKey {scope marker : String} {i : Nat}
    (h : InScope (childKey scope i) marker) : InScope scope marker := by
  obtain ⟨rest, rfl, hrest⟩ := h
  refine ⟨Nat.repr i ++ "_" ++ rest, by simp [childKey, String.append_assoc], ?_⟩
  simp only [String.toList_append, List.all_append, all_isMarkerPart_repr, hrest]
  decide

theorem AtOrInScope.inScope {scope marker : String} {i : Nat}
    (h : AtOrInScope (childKey scope i) marker) : InScope scope marker := by
  cases h with
  | inl h =>
    rw [h]
    apply inScope_childKey
  | inr h => exact h.of_childKey

theorem not_inScope_self (scope : String) : ¬InScope scope scope := by
  rintro ⟨rest, h, _⟩
  have hlength := congrArg String.length h
  simp only [String.length_append] at hlength
  have : "_".length = 1 := rfl
  omega

theorem underscore_mem_of_inScope {scope marker : String} (h : InScope scope marker) :
    '_' ∈ marker.toList := by
  obtain ⟨rest, rfl, _⟩ := h
  simp

theorem not_inScope_nestField (scope : String) : ¬InScope scope Stage.nestField := by
  intro h
  have := underscore_mem_of_inScope h
  exact absurd this (by decide)

theorem childKey_ne_nestField (scope : String) (i : Nat) : childKey scope i ≠ Stage.nestField := by
  intro h
  apply not_inScope_nestField scope
  rw [← h]
  apply inScope_childKey

theorem failedKey_ne_nestField (scope : String) : Expr.failedKey scope ≠ Stage.nestField := by
  intro h
  apply not_inScope_nestField scope
  rw [← h]
  apply inScope_failedKey

def childDigits (scope marker : String) : List Char :=
  (marker.toList.drop (scope.toList.length + 1)).takeWhile Char.isDigit

theorem takeWhile_isDigit_toDigits (i : Nat) {rest : List Char}
    (h : rest.takeWhile Char.isDigit = []) :
    (Nat.toDigits 10 i ++ rest).takeWhile Char.isDigit = Nat.toDigits 10 i := by
  rw [List.takeWhile_append_of_pos]
  . rw [h, List.append_nil]
  . intro c hc
    exact Nat.isDigit_of_mem_toDigits (by decide) (by decide) hc

theorem childDigits_eq {scope marker : String} {i : Nat}
    (h : AtOrInScope (childKey scope i) marker) :
    childDigits scope marker = Nat.toDigits 10 i := by
  -- Behind the number of the child comes nothing or an underscore, so its digits end there.
  have hdigits : ∀ rest : String, rest.toList.takeWhile Char.isDigit = [] →
      childDigits scope (childKey scope i ++ rest) = Nat.toDigits 10 i := by
    intro rest hrest
    unfold childDigits
    have htext : (childKey scope i ++ rest).toList =
        (scope.toList ++ ['_']) ++ (Nat.toDigits 10 i ++ rest.toList) := by
      simp [childKey, Nat.toList_repr]
    have hdrop : (childKey scope i ++ rest).toList.drop (scope.toList.length + 1) =
        Nat.toDigits 10 i ++ rest.toList := by
      rw [htext]
      apply List.drop_left'
      simp
    rw [hdrop, takeWhile_isDigit_toDigits i hrest]
  rcases h with rfl | ⟨rest, rfl, _⟩
  . simpa using hdigits "" (by decide)
  . rw [String.append_assoc]
    apply hdigits
    simp

theorem eq_of_atOrInScope_childKey {scope marker : String} {i j : Nat}
    (hi : AtOrInScope (childKey scope i) marker) (hj : AtOrInScope (childKey scope j) marker) :
    i = j := by
  have hdigits : Nat.toDigits 10 i = Nat.toDigits 10 j := by
    rw [← childDigits_eq hi, ← childDigits_eq hj]
  have := congrArg (Nat.ofDigitChars 10 · 0) hdigits
  simpa using this

/--
Whether a marker belongs to one of the children from number `i` on.
-/
def InScopeFrom (scope : String) (i : Nat) (marker : String) : Prop :=
  ∃ j, i ≤ j ∧ AtOrInScope (childKey scope j) marker

theorem InScopeFrom.inScope {scope marker : String} {i : Nat} (h : InScopeFrom scope i marker) :
    InScope scope marker := by
  obtain ⟨j, _, hj⟩ := h
  exact hj.inScope

theorem AtOrInScope.inScopeFrom {scope marker : String} {i : Nat}
    (h : AtOrInScope (childKey scope i) marker) : InScopeFrom scope i marker :=
  ⟨i, Nat.le_refl i, h⟩

theorem InScopeFrom.of_succ {scope marker : String} {i : Nat}
    (h : InScopeFrom scope (i + 1) marker) : InScopeFrom scope i marker := by
  obtain ⟨j, hj, hmarker⟩ := h
  exact ⟨j, by omega, hmarker⟩

theorem not_inScopeFrom_succ {scope marker : String} {i : Nat}
    (h : AtOrInScope (childKey scope i) marker) : ¬InScopeFrom scope (i + 1) marker := by
  rintro ⟨j, hj, hmarker⟩
  have := eq_of_atOrInScope_childKey h hmarker
  omega

theorem not_atOrInScope_failedKey (scope : String) (i : Nat) :
    ¬AtOrInScope (childKey scope i) (Expr.failedKey scope) := by
  intro h
  have hdigits := childDigits_eq h
  have hnone : childDigits scope (Expr.failedKey scope) = [] := by
    simp [childDigits, Expr.failedKey]
  rw [hnone] at hdigits
  exact Nat.toDigits_ne_nil hdigits.symm

theorem InScope.not_mem {scope marker : String} {c : Char} (h : InScope scope marker)
    (hc : isMarkerPart c = false) (hscope : c ∉ scope.toList) : c ∉ marker.toList := by
  obtain ⟨rest, rfl, hrest⟩ := h
  intro hmem
  simp only [String.toList_append, List.mem_append] at hmem
  rcases hmem with (hmem | hmem) | hmem
  . exact hscope hmem
  . rw [List.mem_singleton.1 hmem] at hc
    exact absurd hc (by decide)
  . have := List.all_eq_true.1 hrest c hmem
    simp [hc] at this

theorem InScope.space_not_mem {scope marker : String} (h : InScope scope marker)
    (hscope : ' ' ∉ scope.toList) : ' ' ∉ marker.toList :=
  h.not_mem (by decide) hscope

end LogSieve
