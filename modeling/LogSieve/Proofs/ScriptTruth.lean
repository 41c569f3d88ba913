import LogSieve.Proofs.Lua.Meaning
import LogSieve.Proofs.ScriptTree
import LogSieve.Stage.Step

/-!
This module contains the truth of scripts: the tree of an expression has the value true if and only
if the expression holds, provided that the record tells the truth about its comparisons.
-/

namespace LogSieve

open Lua Script

namespace Lua.Val

theorem follow_nil (path : List String) : Val.nil.follow path = .nil := by
  cases path <;> rfl

theorem follow_ofValue (v : Value) (path : List String) :
    (ofValue v).follow path = ofValue? (v.at? path) := by
  induction path generalizing v with
  | nil => rfl
  | cons key path ih =>
    cases v with
    | object fields =>
      simp only [ofValue, follow, field?, Value.at?, Value.field?]
      cases valueAt? key fields with
      | none => exact follow_nil path
      | some v => exact ih v
    | list vs => exact follow_nil path
    | _ => rfl

theorem isNil_ofValue? (v? : Option Value) :
    (ofValue? v?).isNil = (v?.filter (!·.isNull)).isNone := by
  cases v? with
  | none => rfl
  | some v => cases v <;> rfl

theorem equals?_nil (v : Val) : v.equals? .nil = some v.isNil := by
  cases v <;> rfl

end Lua.Val

namespace Script

variable (closures : Exp → Exp → Val → Bool) (r : Record)

theorem path?_pathLoop (path : List String) :
    (Exp.function "v" (pathLoop path)).path? = some path := by
  have htexts : (path.map Exp.string).mapM Exp.text? = some path := by
    induction path with
    | nil => rfl
    | cons s path ih =>
      rw [List.map_cons, List.mapM_cons, ih]
      rfl
  exact htexts

theorem eval_fieldTree {path : List String} (h : path ≠ []) :
    (fieldTree path).eval closures r = some (.ofValue? ((Value.object r.entries).at? path)) := by
  rw [← Val.follow_ofValue]
  match path with
  | [s] => rfl
  | s :: s' :: path =>
    simp only [fieldTree, Exp.eval, path?_pathLoop]
    rfl

theorem eval_isSet {e : Exp} {v : Val} (h : e.eval closures r = some v) :
    (nilTree .differs e).eval closures r = some (.bool (!v.isNil)) := by
  simp only [nilTree, Exp.eval, h, Val.equals?_nil]
  rfl

theorem eval_isUnset {e : Exp} {v : Val} (h : e.eval closures r = some v) :
    (nilTree .equal e).eval closures r = some (.bool v.isNil) := by
  simp only [nilTree, Exp.eval, h, Val.equals?_nil]
  rfl

theorem eval_not {e : Exp} {b : Bool} (h : e.eval closures r = some (.bool b)) :
    (Exp.not e).eval closures r = some (.bool (!b)) := by
  simp only [Exp.eval, h]
  rfl

theorem eval_and {e e' : Exp} {b b' : Bool} (h : e.eval closures r = some (.bool b))
    (h' : e'.eval closures r = some (.bool b')) :
    (Exp.binary .and e e').eval closures r = some (.bool (b && b')) := by
  simp only [Exp.eval, h, h']
  cases b <;> rfl

theorem eval_or {e e' : Exp} {b b' : Bool} (h : e.eval closures r = some (.bool b))
    (h' : e'.eval closures r = some (.bool b')) :
    (Exp.binary .or e e').eval closures r = some (.bool (b || b')) := by
  simp only [Exp.eval, h, h']
  cases b <;> rfl

end Script

namespace Comparison

/--
The truth of a comparison for a record, as scripts and the stages before them decide it: a pattern by
a test of the stages, the presence of a field by the record itself, and everything else by a closure.
-/
def told (truth : String → Value → Bool) (closures : Exp → Exp → Val → Bool) (record : Value)
    (c : Comparison) : Bool :=
  let matched := truth (Condition.valueMatches c.target c.literal).text record
  let answer := closures c.closure (fieldTree c.target.segments)
    (.ofValue? (record.at? c.target.segments))
  match c.operator with
  | .like => matched
  | .unlike => !matched
  | .differs => !answer
  | .has => if c.literal = "*" then (record.lookup? c.target.segments).isSome else answer
  | _ => answer

theorem path?_closure (c : Comparison) : c.closure.path? = none := by
  unfold closure closureBody
  split
  . rfl
  . split
    . rfl
    . rfl
  . rfl

variable {truth : String → Value → Bool} {closures : Exp → Exp → Val → Bool} {r r' : Record}

theorem eval_tree {c : Comparison} {key : String}
    (hvalue : (Value.object r'.entries).at? c.target.segments =
      (Value.object r.entries).at? c.target.segments)
    (hmarker : c.operator.isPattern = true → r'.get? key =
      if truth (Condition.valueMatches c.target c.literal).text (.object r.entries) then
        some (.text "1") else none) :
    (c.tree key).eval closures r' = some (.bool (c.told truth closures (.object r.entries))) := by
  have hfield := eval_fieldTree closures r' c.target.segments_ne_nil
  rw [hvalue] at hfield
  have hcall : (Exp.call c.closure [fieldTree c.target.segments]).eval closures r' =
      some (.bool (closures c.closure (fieldTree c.target.segments)
        (.ofValue? ((Value.object r.entries).at? c.target.segments)))) := by
    have hclosure : c.closure.eval closures r' = some (.function c.closure) := rfl
    simp only [Exp.eval, hclosure, hfield, path?_closure]
  have hread : (markerTree key).eval closures r' = some (.ofValue? (r'.get? key)) := rfl
  unfold tree told
  cases hop : c.operator with
  | like =>
    -- A marker is a text or missing, and only the latter is `nil`.
    rw [hmarker (by rw [hop]; rfl)] at hread
    rw [eval_isSet closures r' hread]
    cases truth (Condition.valueMatches c.target c.literal).text (.object r.entries) <;> rfl
  | unlike =>
    rw [hmarker (by rw [hop]; rfl)] at hread
    rw [eval_isUnset closures r' hread]
    cases truth (Condition.valueMatches c.target c.literal).text (.object r.entries) <;> rfl
  | differs => exact eval_not closures r' hcall
  | has =>
    simp only
    split
    . rw [eval_isSet closures r' hfield, Val.isNil_ofValue?, Option.not_isNone]
      rfl
    . exact hcall
  | equal => exact hcall
  | order relation => exact hcall

end Comparison

namespace Expr

mutual

def EachLeaf (p : Comparison → String → Prop) (key : String) : Expr → Prop
  | .leaf c => p c key
  | .not e => EachLeaf p key e
  | .all es => EachLeafOf p key 0 es
  | .any es => EachLeafOf p key 0 es

def EachLeafOf (p : Comparison → String → Prop) (key : String) (i : Nat) : List Expr → Prop
  | [] => True
  | e :: es => EachLeaf p (childKey key i) e ∧ EachLeafOf p key (i + 1) es

end

section

variable {closures : Exp → Exp → Val → Bool} {r : Record} {told : Comparison → Bool}

mutual

theorem eval_tree (key : String) : (e : Expr) →
    e.EachLeaf (fun c key => (c.tree key).eval closures r = some (.bool (told c))) key →
      (e.tree key).eval closures r = some (.bool (e.holds told))
  | .leaf _, h => h
  | .not e, h => eval_not closures r (eval_tree key e h)
  | .all [], _ => rfl
  | .any [], _ => rfl
  | .all (e :: es), h => eval_foldl_and key 1 es h.2 (eval_tree (childKey key 0) e h.1)
  | .any (e :: es), h => eval_foldl_or key 1 es h.2 (eval_tree (childKey key 0) e h.1)

theorem eval_foldl_and (key : String) (i : Nat) : (es : List Expr) →
    EachLeafOf (fun c key => (c.tree key).eval closures r = some (.bool (told c))) key i es →
      {first : Exp} → {b : Bool} → first.eval closures r = some (.bool b) →
        ((trees key i es).foldl (.binary .and) first).eval closures r =
          some (.bool (b && holdsAll told es))
  | [], _, first, b, hfirst => by
    rw [holdsAll, Bool.and_true]
    exact hfirst
  | e :: es, h, first, b, hfirst => by
    have hnext := eval_and closures r hfirst (eval_tree (childKey key i) e h.1)
    rw [holdsAll, ← Bool.and_assoc]
    exact eval_foldl_and key (i + 1) es h.2 hnext

theorem eval_foldl_or (key : String) (i : Nat) : (es : List Expr) →
    EachLeafOf (fun c key => (c.tree key).eval closures r = some (.bool (told c))) key i es →
      {first : Exp} → {b : Bool} → first.eval closures r = some (.bool b) →
        ((trees key i es).foldl (.binary .or) first).eval closures r =
          some (.bool (b || holdsAny told es))
  | [], _, first, b, hfirst => by
    rw [holdsAny, Bool.or_false]
    exact hfirst
  | e :: es, h, first, b, hfirst => by
    have hnext := eval_or closures r hfirst (eval_tree (childKey key i) e h.1)
    rw [holdsAny, ← Bool.or_assoc]
    exact eval_foldl_or key (i + 1) es h.2 hnext

end

end

end Expr

end LogSieve
