import LogSieve.Proofs.ScriptLines

/-!
This module contains the markers of named filters. Every comparison with a pattern has a marker of its
own, which is set by the stage of the comparison and tested by its part of the script.
-/

namespace LogSieve

open Lua Script

def Lua.Exp.operands (op : BinaryOp) : Nat → Exp → List Exp
  | 0, _ => []
  | 1, tree => [tree]
  | n + 2, .binary op' a b => if op' = op then a.operands op (n + 1) ++ [b] else []
  | _ + 2, _ => []

theorem Lua.Exp.operands_foldl (op : BinaryOp) (n : Nat) (tree : Exp) (trees : List Exp) :
    (trees.foldl (.binary op) tree).operands op (n + 1 + trees.length) =
      tree.operands op (n + 1) ++ trees := by
  induction trees generalizing n tree with
  | nil => simp
  | cons next trees ih =>
    have hlength : n + 1 + (next :: trees).length = n + 1 + 1 + trees.length := by
      rw [List.length_cons]
      omega
    rw [hlength, List.foldl_cons, ih, operands, if_pos rfl, List.append_assoc, List.singleton_append]

theorem Script.operands_joinedTree (op : BinaryOp) (neutral : Exp) (trees : List Exp) :
    (joinedTree op neutral trees).operands op trees.length = trees := by
  cases trees with
  | nil => rfl
  | cons tree trees =>
    rw [List.length_cons, Nat.add_comm, ← Nat.zero_add 1]
    exact Exp.operands_foldl op 0 tree trees

def Comparison.testedMarker? (c : Comparison) (tree : Exp) : Option String :=
  match c.operator, tree with
  | .like, .binary .differs (.index (.name "record") (.string marker)) .nil => some marker
  | .unlike, .binary .equal (.index (.name "record") (.string marker)) .nil => some marker
  | _, _ => none

theorem Comparison.testedMarker?_tree {c : Comparison} (h : c.operator.isPattern = true)
    (marker : String) : c.testedMarker? (c.tree marker) = some marker := by
  unfold testedMarker? tree
  cases hop : c.operator with
  | like => rfl
  | unlike => rfl
  | _ => simp [hop, Operator.isPattern] at h

namespace Expr

def patterns (e : Expr) : List Comparison := e.leaves.filter (·.operator.isPattern)

mutual

def tests : Expr → Exp → List (Comparison × Exp)
  | .leaf c, tree => [(c, tree)]
  | .not e, .not tree => tests e tree
  | .not _, _ => []
  | .all es, tree => testsOf es (tree.operands .and es.length)
  | .any es, tree => testsOf es (tree.operands .or es.length)

def testsOf : List Expr → List Exp → List (Comparison × Exp)
  | e :: es, tree :: trees => tests e tree ++ testsOf es trees
  | _, _ => []

end

def testedMarkers? (e : Expr) (text : String) : Option (List String) := do
  let tree ← read? text
  ((e.tests tree).filter (·.1.operator.isPattern)).mapM fun t => t.1.testedMarker? t.2

mutual

/--
The comparisons of an expression from left to right, each with the marker that is reserved for it.
-/
def markedLeaves (key : String) : Expr → List (Comparison × String)
  | .leaf c => [(c, key)]
  | .not e => markedLeaves key e
  | .all es => markedLeavesOf key 0 es
  | .any es => markedLeavesOf key 0 es

def markedLeavesOf (key : String) (i : Nat) : List Expr → List (Comparison × String)
  | [] => []
  | e :: es => markedLeaves (childKey key i) e ++ markedLeavesOf key (i + 1) es

end

mutual

theorem map_fst_markedLeaves (key : String) (e : Expr) :
    (e.markedLeaves key).map (·.1) = e.leaves := by
  match e with
  | .leaf c => rfl
  | .not e => exact map_fst_markedLeaves key e
  | .all es => exact map_fst_markedLeavesOf key 0 es
  | .any es => exact map_fst_markedLeavesOf key 0 es

theorem map_fst_markedLeavesOf (key : String) (i : Nat) (es : List Expr) :
    (markedLeavesOf key i es).map (·.1) = leavesList es := by
  match es with
  | [] => rfl
  | e :: es =>
    rw [markedLeavesOf, List.map_append, map_fst_markedLeaves (childKey key i) e,
      map_fst_markedLeavesOf key (i + 1) es, leavesList]

end

mutual

theorem atOrInScope_of_mem_markedLeaves (key : String) (e : Expr) :
    ∀ l ∈ e.markedLeaves key, AtOrInScope key l.2 := by
  match e with
  | .leaf c => simp [markedLeaves, AtOrInScope]
  | .not e => exact atOrInScope_of_mem_markedLeaves key e
  | .all es =>
    intro l hl
    exact .inr (inScopeFrom_of_mem_markedLeavesOf key 0 es l hl).inScope
  | .any es =>
    intro l hl
    exact .inr (inScopeFrom_of_mem_markedLeavesOf key 0 es l hl).inScope

theorem inScopeFrom_of_mem_markedLeavesOf (key : String) (i : Nat) (es : List Expr) :
    ∀ l ∈ markedLeavesOf key i es, InScopeFrom key i l.2 := by
  match es with
  | [] => simp [markedLeavesOf]
  | e :: es =>
    rw [markedLeavesOf, List.forall_mem_append]
    refine ⟨?_, ?_⟩
    . intro l hl
      exact (atOrInScope_of_mem_markedLeaves (childKey key i) e l hl).inScopeFrom
    . intro l hl
      exact (inScopeFrom_of_mem_markedLeavesOf key (i + 1) es l hl).of_succ

end

mutual

theorem nodup_markedLeaves (key : String) (e : Expr) : ((e.markedLeaves key).map (·.2)).Nodup := by
  match e with
  | .leaf c => simp [markedLeaves]
  | .not e => exact nodup_markedLeaves key e
  | .all es => exact nodup_markedLeavesOf key 0 es
  | .any es => exact nodup_markedLeavesOf key 0 es

theorem nodup_markedLeavesOf (key : String) (i : Nat) (es : List Expr) :
    ((markedLeavesOf key i es).map (·.2)).Nodup := by
  match es with
  | [] => simp [markedLeavesOf]
  | e :: es =>
    rw [markedLeavesOf, List.map_append, List.nodup_append]
    refine ⟨nodup_markedLeaves (childKey key i) e, nodup_markedLeavesOf key (i + 1) es, ?_⟩
    -- The markers of the later children are in scopes with other numbers.
    simp only [List.mem_map]
    rintro _ ⟨l, hl, rfl⟩ _ ⟨l', hl', rfl⟩ heq
    have hscope := atOrInScope_of_mem_markedLeaves (childKey key i) e l hl
    apply not_inScopeFrom_succ hscope
    rw [heq]
    exact inScopeFrom_of_mem_markedLeavesOf key (i + 1) es l' hl'

end

def patternStep (l : Comparison × String) : Step := .mark (.valueMatches l.1.target l.1.literal) l.2

mutual

theorem scriptSteps_eq_map (key : String) (e : Expr) :
    e.scriptSteps key =
      ((e.markedLeaves key).filter (·.1.operator.isPattern)).map patternStep := by
  match e with
  | .leaf c =>
    simp only [scriptSteps, Comparison.scriptSteps, markedLeaves]
    cases hpattern : c.operator.isPattern <;> simp [hpattern, patternStep]
  | .not e => exact scriptSteps_eq_map key e
  | .all es => exact scriptStepsList_eq_map key 0 es
  | .any es => exact scriptStepsList_eq_map key 0 es

theorem scriptStepsList_eq_map (key : String) (i : Nat) (es : List Expr) :
    scriptStepsList key i es =
      ((markedLeavesOf key i es).filter (·.1.operator.isPattern)).map patternStep := by
  match es with
  | [] => rfl
  | e :: es =>
    rw [scriptStepsList, scriptSteps_eq_map (childKey key i) e, scriptStepsList_eq_map key (i + 1) es,
      markedLeavesOf, List.filter_append, List.map_append]

end

mutual

theorem tests_tree (key : String) (e : Expr) :
    e.tests (e.tree key) = (e.markedLeaves key).map fun l => (l.1, l.1.tree l.2) := by
  match e with
  | .leaf c => rfl
  | .not e => exact tests_tree key e
  | .all es =>
    rw [tree, tests, ← length_trees key 0 es, operands_joinedTree]
    exact testsOf_trees key 0 es
  | .any es =>
    rw [tree, tests, ← length_trees key 0 es, operands_joinedTree]
    exact testsOf_trees key 0 es

theorem testsOf_trees (key : String) (i : Nat) (es : List Expr) :
    testsOf es (trees key i es) = (markedLeavesOf key i es).map fun l => (l.1, l.1.tree l.2) := by
  match es with
  | [] => rfl
  | e :: es =>
    rw [trees, testsOf, tests_tree (childKey key i) e, testsOf_trees key (i + 1) es, markedLeavesOf,
      List.map_append]

theorem length_trees (key : String) (i : Nat) (es : List Expr) :
    (trees key i es).length = es.length := by
  match es with
  | [] => rfl
  | e :: es => rw [trees, List.length_cons, length_trees key (i + 1) es, List.length_cons]

end

theorem patterns_eq_map (key : String) (e : Expr) :
    e.patterns = ((e.markedLeaves key).filter (·.1.operator.isPattern)).map (·.1) := by
  rw [patterns, ← map_fst_markedLeaves key, List.filter_map]
  rfl

theorem mapM_testedMarker?_tree {ls : List (Comparison × String)}
    (h : ∀ l ∈ ls, l.1.operator.isPattern = true) :
    (ls.map fun l => (l.1, l.1.tree l.2)).mapM (fun t => t.1.testedMarker? t.2) =
      some (ls.map (·.2)) := by
  induction ls with
  | nil => rfl
  | cons l ls ih =>
    rw [List.forall_mem_cons] at h
    rw [List.map_cons, List.mapM_cons, Comparison.testedMarker?_tree h.1, ih h.2]
    rfl

theorem testedMarkers?_script (key : String) (e : Expr) :
    e.testedMarkers? (e.script key) =
      some (((e.markedLeaves key).filter (·.1.operator.isPattern)).map (·.2)) := by
  unfold testedMarkers?
  rw [(isScript_script key e).read?, Option.bind_eq_bind, Option.bind_some, tests_tree,
    List.filter_map]
  apply mapM_testedMarker?_tree
  intro l hl
  exact (List.mem_filter.1 hl).2

end Expr

namespace Pipeline

def namedLeaves (i : Nat) : List (String × Filter) → List (List (Comparison × String))
  | [] => []
  | (_, f) :: fs => f.expr.markedLeaves (namedKey i) :: namedLeaves (i + 1) fs

theorem flatten_namedLeaves (i : Nat) (fs : List (String × Filter)) :
    (namedLeaves i fs).flatten = Expr.markedLeavesOf namedScope i (fs.map (·.2.expr)) := by
  induction fs generalizing i with
  | nil => rfl
  | cons f fs ih =>
    rw [namedLeaves, List.flatten_cons, ih, namedKey_eq_childKey]
    rfl

def patternMarkers (i : Nat) (fs : List (String × Filter)) : List (List String) :=
  (namedLeaves i fs).map fun ls => (ls.filter (·.1.operator.isPattern)).map (·.2)

theorem flatten_patternMarkers (i : Nat) (fs : List (String × Filter)) :
    (patternMarkers i fs).flatten =
      ((namedLeaves i fs).flatten.filter (·.1.operator.isPattern)).map (·.2) := by
  simp [patternMarkers, List.filter_flatten, List.map_flatten, List.map_map, Function.comp_def]

theorem zipWith_testedMarkers? (i : Nat) (fs : List (String × Filter)) :
    List.zipWith (fun f b => f.2.expr.testedMarkers? b.2) fs (bindings i fs) =
      (patternMarkers i fs).map some := by
  induction fs generalizing i with
  | nil => rfl
  | cons f fs ih =>
    rw [bindings, List.zipWith_cons_cons, ih, Expr.testedMarkers?_script]
    rfl

theorem map_length_patternMarkers (i : Nat) (fs : List (String × Filter)) :
    (patternMarkers i fs).map List.length = fs.map (·.2.expr.patterns.length) := by
  induction fs generalizing i with
  | nil => rfl
  | cons f fs ih =>
    rw [List.map_cons, ← ih (i + 1), Expr.patterns_eq_map (namedKey i)]
    simp [patternMarkers, namedLeaves]

theorem flatMap_patterns (i : Nat) (fs : List (String × Filter)) :
    fs.flatMap (·.2.expr.patterns) =
      ((namedLeaves i fs).flatten.filter (·.1.operator.isPattern)).map (·.1) := by
  induction fs generalizing i with
  | nil => rfl
  | cons f fs ih =>
    rw [List.flatMap_cons, ih (i + 1), Expr.patterns_eq_map (namedKey i), namedLeaves,
      List.flatten_cons, List.filter_append, List.map_append]

theorem namedSteps_eq_zipWith (i : Nat) (fs : List (String × Filter)) :
    namedSteps i fs = List.zipWith (fun c m => .mark (.valueMatches c.target c.literal) m)
      (fs.flatMap (·.2.expr.patterns)) (patternMarkers i fs).flatten := by
  rw [flatMap_patterns i, flatten_patternMarkers, List.zipWith_map, List.zipWith_self,
    flatten_namedLeaves, namedSteps_eq_scriptStepsList, Expr.scriptStepsList_eq_map]
  rfl

theorem hasPattern_eq_true_iff (fs : List (String × Filter)) :
    hasPattern fs = true ↔ fs.flatMap (·.2.expr.patterns) ≠ [] := by
  simp [hasPattern, Expr.patterns, List.filter_eq_nil_iff]

/--
The stages between nesting and lifting are those of the patterns, by the names of the filters and then
from left to right. Each sets a marker of its own, which the cleanup removes, and which is the one that
the script tests on behalf of the same pattern.
-/
theorem exists_markers_named (tag : String) (filters : OrderedMap Filter) :
    let patterns := filters.entries.flatMap (·.2.expr.patterns)
    let bound := filters.entries.mapIdx fun i f => (f.1, f.2.expr.script (namedKey i))
    ∃ markers : List (List String),
      (named tag filters).1 =
        (if patterns = [] then [] else
          Stage.nest tag ::
            (List.zipWith (fun c m => (Step.mark (.valueMatches c.target c.literal) m).stage tag)
              patterns markers.flatten ++ [Stage.lift tag])) ∧
      (named tag filters).2 = String.join (bound.map bindingLine) ++
        (if patterns = [] then "" else cleanup) ∧
      List.zipWith (fun f b => f.2.expr.testedMarkers? b.2) filters.entries bound =
        markers.map some ∧
      markers.map List.length = filters.entries.map (·.2.expr.patterns.length) ∧
      markers.flatten.Nodup ∧
      ∀ m ∈ markers.flatten, isMarker m = true := by
  intro patterns bound
  have hbound : bound = bindings 0 filters.entries := by
    rw [bindings_eq_mapIdx]
    simp only [Nat.zero_add]
    rfl
  have hpattern : hasPattern filters.entries = !decide (patterns = []) := by
    rw [Bool.eq_iff_iff, hasPattern_eq_true_iff]
    simp [patterns]
  have hleaves : (patternMarkers 0 filters.entries).flatten.Sublist
      ((Expr.markedLeavesOf namedScope 0 (filters.entries.map (·.2.expr))).map (·.2)) := by
    rw [flatten_patternMarkers, flatten_namedLeaves]
    exact List.filter_sublist.map _
  refine ⟨patternMarkers 0 filters.entries, ?_, ?_, ?_, map_length_patternMarkers 0 _, ?_, ?_⟩
  . rw [named_eq_of_steps rfl, namedSteps_isEmpty, hpattern, namedSteps_eq_zipWith,
      List.map_zipWith]
    by_cases hnil : patterns = []
    . simp [hnil]
    . simp [hnil, patterns, Step.stage]
  . rw [named_script, hpattern, hbound]
    by_cases hnil : patterns = [] <;> simp [hnil]
  . rw [hbound]
    exact zipWith_testedMarkers? 0 filters.entries
  . exact hleaves.nodup (Expr.nodup_markedLeavesOf _ _ _)
  . intro m hm
    obtain ⟨l, hl, rfl⟩ := List.mem_map.1 (hleaves.subset hm)
    exact isMarker_of_inScopeFrom (Expr.inScopeFrom_of_mem_markedLeavesOf _ _ _ l hl)

end Pipeline

end LogSieve
