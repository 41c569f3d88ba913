import LogSieve.Matcher
import LogSieve.Proofs.Grammar

/-!
This module contains the normal form of expressions, in which no list holds less than two of them.
-/

namespace LogSieve

namespace Expr

mutual

def normalized : Expr → Expr
  | .leaf c => .leaf c
  | .not e => .not (normalized e)
  | .all es => collapse .all (normalizedList es)
  | .any es => collapse .any (normalizedList es)

def normalizedList : List Expr → List Expr
  | [] => []
  | e :: es => normalized e :: normalizedList es

end

mutual

def hasEmpty : Expr → Bool
  | .leaf _ => false
  | .not e => hasEmpty e
  | .all es => es.isEmpty || hasEmptyList es
  | .any es => es.isEmpty || hasEmptyList es

def hasEmptyList : List Expr → Bool
  | [] => false
  | e :: es => hasEmpty e || hasEmptyList es

end

mutual

def isNormal : Expr → Bool
  | .leaf _ => true
  | .not e => isNormal e
  | .all es => decide (2 ≤ es.length) && isNormalList es
  | .any es => decide (2 ≤ es.length) && isNormalList es

def isNormalList : List Expr → Bool
  | [] => true
  | e :: es => isNormal e && isNormalList es

end

mutual

theorem holds_normalized (truth : Comparison → Bool) :
    (e : Expr) → e.normalized.holds truth = e.holds truth
  | .leaf c => rfl
  | .not e => by rw [normalized, holds, holds, holds_normalized truth e]
  | .all es => by
    rw [normalized, holds_collapse_all, holds, holdsAll_eq_all, all_normalizedList truth es]
  | .any es => by
    rw [normalized, holds_collapse_any, holds, holdsAny_eq_any, any_normalizedList truth es]

theorem all_normalizedList (truth : Comparison → Bool) :
    (es : List Expr) → (normalizedList es).all (holds truth) = es.all (holds truth)
  | [] => rfl
  | e :: es => by
    rw [normalizedList, List.all_cons, List.all_cons, holds_normalized truth e,
      all_normalizedList truth es]

theorem any_normalizedList (truth : Comparison → Bool) :
    (es : List Expr) → (normalizedList es).any (holds truth) = es.any (holds truth)
  | [] => rfl
  | e :: es => by
    rw [normalizedList, List.any_cons, List.any_cons, holds_normalized truth e,
      any_normalizedList truth es]

end

theorem leaves_collapse {wrap : List Expr → Expr} (h : ∀ es, leaves (wrap es) = leavesList es)
    (es : List Expr) : leaves (collapse wrap es) = leavesList es := by
  unfold collapse
  split
  . simp [leavesList]
  . exact h es

mutual

theorem leaves_normalized : (e : Expr) → e.normalized.leaves = e.leaves
  | .leaf c => rfl
  | .not e => by rw [normalized, leaves, leaves, leaves_normalized e]
  | .all es => by
    rw [normalized, leaves_collapse (fun _ => by rw [leaves]), leaves, leavesList_normalizedList es]
  | .any es => by
    rw [normalized, leaves_collapse (fun _ => by rw [leaves]), leaves, leavesList_normalizedList es]

theorem leavesList_normalizedList : (es : List Expr) → leavesList (normalizedList es) = leavesList es
  | [] => rfl
  | e :: es => by
    rw [normalizedList, leavesList, leavesList, leaves_normalized e, leavesList_normalizedList es]

end

theorem accepts_normalized (e : Expr) (language : PatternLanguage) (record : Value) :
    Filter.accepts ⟨e.normalized⟩ record language = Filter.accepts ⟨e⟩ record language := by
  have hentries : (Matcher.ofFilter ⟨e.normalized⟩ language).entries =
      (Matcher.ofFilter ⟨e⟩ language).entries := by
    simp only [Matcher.ofFilter, leaves_normalized]
  have hoccurs : (Matcher.ofFilter ⟨e.normalized⟩ language).occurs =
      (Matcher.ofFilter ⟨e⟩ language).occurs := by
    unfold Matcher.occurs
    rw [hentries]
  unfold Filter.accepts Matcher.accepts
  rw [hoccurs]
  exact holds_normalized _ e

mutual

theorem normalized_of_isNormal : {e : Expr} → e.isNormal = true → e.normalized = e
  | .leaf c, _ => rfl
  | .not e, h => by
    rw [isNormal] at h
    rw [normalized, normalized_of_isNormal h]
  | .all es, h => by
    simp only [isNormal, Bool.and_eq_true, decide_eq_true_eq] at h
    rw [normalized, normalizedList_of_isNormalList h.2, collapse_of_two_le h.1]
  | .any es, h => by
    simp only [isNormal, Bool.and_eq_true, decide_eq_true_eq] at h
    rw [normalized, normalizedList_of_isNormalList h.2, collapse_of_two_le h.1]

theorem normalizedList_of_isNormalList :
    {es : List Expr} → isNormalList es = true → normalizedList es = es
  | [], _ => rfl
  | e :: es, h => by
    simp only [isNormalList, Bool.and_eq_true] at h
    rw [normalizedList, normalized_of_isNormal h.1, normalizedList_of_isNormalList h.2]

end

theorem isEmpty_eq_false_of_two_le {es : List Expr} (h : 2 ≤ es.length) : es.isEmpty = false := by
  match es, h with
  | _ :: _, _ => rfl

mutual

theorem hasEmpty_of_isNormal : {e : Expr} → e.isNormal = true → e.hasEmpty = false
  | .leaf c, _ => rfl
  | .not e, h => by
    rw [isNormal] at h
    rw [hasEmpty, hasEmpty_of_isNormal h]
  | .all es, h => by
    simp only [isNormal, Bool.and_eq_true, decide_eq_true_eq] at h
    rw [hasEmpty, isEmpty_eq_false_of_two_le h.1, hasEmptyList_of_isNormalList h.2]
    rfl
  | .any es, h => by
    simp only [isNormal, Bool.and_eq_true, decide_eq_true_eq] at h
    rw [hasEmpty, isEmpty_eq_false_of_two_le h.1, hasEmptyList_of_isNormalList h.2]
    rfl

theorem hasEmptyList_of_isNormalList :
    {es : List Expr} → isNormalList es = true → hasEmptyList es = false
  | [], _ => rfl
  | e :: es, h => by
    simp only [isNormalList, Bool.and_eq_true] at h
    rw [hasEmptyList, hasEmpty_of_isNormal h.1, hasEmptyList_of_isNormalList h.2]
    rfl

end

theorem isNormalList_append {es fs : List Expr} (h : isNormalList es = true)
    (h' : isNormalList fs = true) : isNormalList (es ++ fs) = true := by
  induction es with
  | nil => exact h'
  | cons e es ih =>
    simp only [isNormalList, Bool.and_eq_true] at h
    rw [List.cons_append, isNormalList, h.1, ih h.2]
    rfl

end Expr

namespace Grammar

open LogSieve.Expr

mutual

theorem IsExpression.isNormal {ts : List Token} {e : Expr} :
    IsExpression ts e → e.isNormal = true
  | .single h => by
    have := h.isNormalList
    simpa [isNormalList] using this
  | .conjunction h hlength => by
    simp [Expr.isNormal, hlength, h.isNormalList]

theorem IsSequences.isNormalList {ts : List Token} {es : List Expr} :
    IsSequences ts es → isNormalList es = true
  | .one h => h.isNormalList
  | .and h _ h' => isNormalList_append h.isNormalList h'.isNormalList

theorem IsSequence.isNormalList {ts : List Token} {es : List Expr} :
    IsSequence ts es → isNormalList es = true
  | .one h => by simp [Expr.isNormalList, h.isNormal]
  | .cons h h' => by simp [Expr.isNormalList, h.isNormal, h'.isNormalList]

theorem IsFactor.isNormal {ts : List Token} {e : Expr} : IsFactor ts e → e.isNormal = true
  | .single h => by
    have := h.isNormalList
    simpa [isNormalList] using this
  | .disjunction h hlength => by
    simp [Expr.isNormal, hlength, h.isNormalList]

theorem IsTerms.isNormalList {ts : List Token} {es : List Expr} :
    IsTerms ts es → isNormalList es = true
  | .one h => by simp [Expr.isNormalList, h.isNormal]
  | .or h _ h' => by simp [Expr.isNormalList, h.isNormal, h'.isNormalList]

theorem IsTerm.isNormal {ts : List Token} {e : Expr} : IsTerm ts e → e.isNormal = true
  | .primitive h => h.isNormal
  | .negation _ h => by rw [Expr.isNormal, h.isNormal]

theorem IsPrimitive.isNormal {ts : List Token} {e : Expr} : IsPrimitive ts e → e.isNormal = true
  | .group _ h _ => h.isNormal
  | .comparison _ _ _ => rfl

end

end Grammar

end LogSieve
