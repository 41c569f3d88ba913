import LogSieve.Expr.Target
import LogSieve.Expr.Operator
import LogSieve.Number.Double
import LogSieve.Text.Blank

/-!
This module contains the boolean expressions that filters consist of, and their meaning for a given
truth of comparisons.
-/

namespace LogSieve

structure Comparison where
  target : Target
  operator : Operator
  literal : String
  deriving DecidableEq, Repr

def Comparison.number? (c : Comparison) : Option Double :=
  (Double.read? (Text.trim c.literal.toList)).filter (·.isFinite)

inductive Expr where
  | leaf (c : Comparison)
  | not (e : Expr)
  | all (es : List Expr)
  | any (es : List Expr)
  deriving Repr, Inhabited

namespace Expr

mutual

def decEq : (a b : Expr) → Decidable (a = b)
  | .leaf c, .leaf d => decidable_of_iff (c = d) (by simp)
  | .not a, .not b =>
    have := decEq a b
    decidable_of_iff (a = b) (by simp)
  | .all as, .all bs =>
    have := decEqList as bs
    decidable_of_iff (as = bs) (by simp)
  | .any as, .any bs =>
    have := decEqList as bs
    decidable_of_iff (as = bs) (by simp)
  | .leaf _, .not _ | .leaf _, .all _ | .leaf _, .any _ => isFalse nofun
  | .not _, .leaf _ | .not _, .all _ | .not _, .any _ => isFalse nofun
  | .all _, .leaf _ | .all _, .not _ | .all _, .any _ => isFalse nofun
  | .any _, .leaf _ | .any _, .not _ | .any _, .all _ => isFalse nofun

def decEqList : (as bs : List Expr) → Decidable (as = bs)
  | [], [] => isTrue rfl
  | a :: as, b :: bs =>
    have := decEq a b
    have := decEqList as bs
    decidable_of_iff (a = b ∧ as = bs) (by simp)
  | [], _ :: _ | _ :: _, [] => isFalse nofun

end

instance : DecidableEq Expr := decEq

mutual

def holds (truth : Comparison → Bool) : Expr → Bool
  | .leaf c => truth c
  | .not e => !holds truth e
  | .all es => holdsAll truth es
  | .any es => holdsAny truth es

def holdsAll (truth : Comparison → Bool) : List Expr → Bool
  | [] => true
  | e :: es => holds truth e && holdsAll truth es

def holdsAny (truth : Comparison → Bool) : List Expr → Bool
  | [] => false
  | e :: es => holds truth e || holdsAny truth es

end

theorem holdsAll_eq_all (truth : Comparison → Bool) (es : List Expr) :
    holdsAll truth es = es.all (holds truth) := by
  induction es with
  | nil => rfl
  | cons e es ih => simp [holdsAll, ih]

theorem holdsAny_eq_any (truth : Comparison → Bool) (es : List Expr) :
    holdsAny truth es = es.any (holds truth) := by
  induction es with
  | nil => rfl
  | cons e es ih => simp [holdsAny, ih]

mutual

def leaves : Expr → List Comparison
  | .leaf c => [c]
  | .not e => leaves e
  | .all es => leavesList es
  | .any es => leavesList es

def leavesList : List Expr → List Comparison
  | [] => []
  | e :: es => leaves e ++ leavesList es

end

def isLeaf : Expr → Bool
  | .leaf _ => true
  | _ => false

def isCompound : Expr → Bool
  | .all _ | .any _ => true
  | _ => false

def collapse (wrap : List Expr → Expr) : List Expr → Expr
  | [e] => e
  | es => wrap es

theorem holds_collapse_all (truth : Comparison → Bool) (es : List Expr) :
    holds truth (collapse .all es) = es.all (holds truth) := by
  unfold collapse
  split
  . simp
  . rw [holds, holdsAll_eq_all]

theorem holds_collapse_any (truth : Comparison → Bool) (es : List Expr) :
    holds truth (collapse .any es) = es.any (holds truth) := by
  unfold collapse
  split
  . simp
  . rw [holds, holdsAny_eq_any]

end Expr

end LogSieve
