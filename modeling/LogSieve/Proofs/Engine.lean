import LogSieve.Proofs.Accessor
import LogSieve.Proofs.LiteralPattern
import LogSieve.Proofs.StepShape

/-!
This module contains an engine that runs stages by the texts of their options: it divides conditions
into their parts, follows accessors into the record and searches patterns in the values it finds,
whatever classes these can name. Scripts are beyond it.
-/

namespace LogSieve

/--
The text in which patterns are searched. Neither null nor a list or an object has one.
-/
def Value.scalar? (v : Value) : Option String :=
  match v with
  | .null | .list _ | .object _ => none
  | v => some v.plain

def conditionParts? (condition : String) : Option (String × String × Option String) :=
  (splitAtSpace? condition).map fun (rule, rest) =>
    match splitAtSpace? rest with
    | some (accessor, pattern) => (rule, accessor, some pattern)
    | none => (rule, rest, none)

namespace Record

def follow? (r : Record) (path : List Char) : Option Value :=
  match path.splitOn '[' with
  | [] => none
  | field :: parts => do
    let value ← r.get? (String.ofList field)
    let keys ← parts.mapM (between? ['\''] ['\'', ']'])
    value.at? (keys.map String.ofList)

def resolve? (r : Record) (accessor : String) : Option Value :=
  match accessor.toList with
  | '$' :: path => r.follow? path
  | _ => r.get? accessor

variable (classes : NamedClasses)

/--
The truth of a condition with the given text, unless the text is no condition.
-/
def evaluate? (r : Record) (condition : String) : Option Bool := do
  let (rule, accessor, pattern?) ← conditionParts? condition
  let value? := r.resolve? accessor
  if rule = "Key_exists" then
    return value?.isSome
  else if rule = "Key_does_not_exist" then
    return value?.isNone
  else if rule = "Key_value_matches" then
    let p ← Pattern.ofText? classes (← pattern?)
    return (value?.bind Value.scalar?).any fun s => p.occursIn s.toList
  else
    none

def matches? (r : Record) (rule : String) : Option Bool := do
  let (field, pattern) ← splitAtSpace? rule
  let p ← Pattern.ofText? classes pattern
  return ((r.get? field).bind Value.scalar?).any fun s => p.occursIn s.toList

end Record

namespace Stage

variable (classes : NamedClasses)

def executeModify (stage : Stage) (r : Record) : Outcome :=
  match (stage.get? "Condition").elim (some true) (r.evaluate? classes) with
  | some true => (runSet stage r).andThen (runRemove stage)
  | some false => .kept r
  | none => .stuck

def keepWhen (b : Bool) (rule? : Option String) (r : Record) : Outcome :=
  match rule?.elim (some b) (r.matches? classes) with
  | some b' => if b' = b then .kept r else .dropped
  | none => .stuck

def executeGrep (stage : Stage) (r : Record) : Outcome :=
  (keepWhen classes true (stage.get? "Regex") r).andThen
    (keepWhen classes false (stage.get? "Exclude"))

def execute (stage : Stage) (r : Record) : Outcome :=
  match stage.name? with
  | some "nest" => stage.runNest r
  | some "modify" => stage.executeModify classes r
  | some "grep" => stage.executeGrep classes r
  | _ => .stuck

def executeAll : List Stage → Record → Outcome
  | [], r => .kept r
  | stage :: stages, r => (stage.execute classes r).andThen (executeAll stages)

variable {classes}

theorem executeAll_cons_of_kept {stage : Stage} {stages : List Stage} {r r' : Record}
    (h : stage.execute classes r = .kept r') :
    executeAll classes (stage :: stages) r = executeAll classes stages r' := by
  rw [executeAll, h]
  rfl

theorem executeAll_cons_of_dropped {stage : Stage} {stages : List Stage} {r : Record}
    (h : stage.execute classes r = .dropped) :
    executeAll classes (stage :: stages) r = .dropped := by
  rw [executeAll, h]
  rfl

end Stage

theorem splitAtSpace?_eq_none {s : String} (h : ' ' ∉ s.toList) : splitAtSpace? s = none := by
  have hdrop : s.toList.dropWhile (· != ' ') = [] := by
    rw [← List.append_nil s.toList, List.dropWhile_append_of_pos]
    . rfl
    . intro c hc
      simp only [bne_iff_ne, ne_eq]
      rintro rfl
      exact h hc
  simp [splitAtSpace?, hdrop]

theorem conditionParts?_two {rule accessor : String} (hrule : ' ' ∉ rule.toList)
    (haccessor : ' ' ∉ accessor.toList) :
    conditionParts? (rule ++ (" " ++ accessor)) = some (rule, accessor, none) := by
  simp [conditionParts?, splitAtSpace?_append hrule, splitAtSpace?_eq_none haccessor]

theorem conditionParts?_three {rule accessor : String} (hrule : ' ' ∉ rule.toList)
    (haccessor : ' ' ∉ accessor.toList) (pattern : String) :
    conditionParts? (rule ++ (" " ++ (accessor ++ (" " ++ pattern)))) =
      some (rule, accessor, some pattern) := by
  simp [conditionParts?, splitAtSpace?_append hrule, splitAtSpace?_append haccessor]

namespace Target

def IsSeparable (target : Target) : Prop :=
  ∀ s ∈ target.segments, '[' ∉ s.toList ∧ ' ' ∉ s.toList

variable {target : Target}

theorem IsSeparable.space_not_mem (h : target.IsSeparable) : ' ' ∉ target.accessor.toList := by
  rw [not_mem_accessor_iff (by decide)]
  intro s hs
  exact (h s hs).2

theorem append_bracketed (cs : List Char) (segments : List String) :
    cs ++ bracketed segments =
      ['['].intercalate (cs :: segments.map fun s => ['\''] ++ s.toList ++ ['\'', ']']) := by
  induction segments generalizing cs with
  | nil => simp [bracketed]
  | cons s ss ih =>
    rw [List.map_cons, List.intercalate_cons_cons, ← ih]
    simp [bracketed]

theorem mapM_between? (segments : List String) :
    (segments.map fun s => ['\''] ++ s.toList ++ ['\'', ']']).mapM (between? ['\''] ['\'', ']']) =
      some (segments.map String.toList) := by
  induction segments with
  | nil => rfl
  | cons s ss ih =>
    rw [List.map_cons, List.mapM_cons, between?_append, ih]
    rfl

end Target

namespace Record

theorem bind_at?_eq_nested (r : Record) (target : Target) :
    ((r.get? Stage.nestField).bind fun v => v.at? target.segments) =
      r.nested.at? target.segments := by
  unfold nested
  cases r.get? Stage.nestField with
  | some v => rfl
  | none =>
    -- An empty object has no field at any path, and no path is empty.
    cases h : target.segments with
    | nil => exact absurd h target.segments_ne_nil
    | cons s ss => simp [Value.at?, Value.field?, valueAt?]

theorem resolve?_accessor {target : Target} (h : target.IsSeparable) (r : Record) :
    r.resolve? target.accessor = r.nested.at? target.segments := by
  have hsplit : ("record".toList ++ Target.bracketed target.segments).splitOn '[' =
      "record".toList :: target.segments.map fun s => ['\''] ++ s.toList ++ ['\'', ']'] := by
    rw [Target.append_bracketed]
    apply List.splitOn_intercalate
    . simp only [List.forall_mem_cons, List.forall_mem_map]
      refine ⟨by decide, ?_⟩
      intro s hs
      simp [(h s hs).1]
    . simp
  have hfollow : r.resolve? target.accessor =
      r.follow? ("record".toList ++ Target.bracketed target.segments) := by
    unfold resolve?
    rw [Target.toList_accessor]
    rfl
  have hkeys : (target.segments.map String.toList).map String.ofList = target.segments := by simp
  rw [hfollow, ← bind_at?_eq_nested, follow?, hsplit]
  simp only [Target.mapM_between?, String.ofList_toList, Stage.nestField]
  simp [hkeys]

variable {classes : NamedClasses}

theorem evaluate?_valueMatches {target : Target} (h : target.IsSeparable) {pattern : String}
    {p : Pattern} (hp : Pattern.ofText? classes (escapeBlanks pattern) = some p) (r : Record) :
    r.evaluate? classes (Condition.valueMatches target pattern).text =
      some (((r.nested.at? target.segments).bind Value.scalar?).any fun s => p.occursIn s.toList) := by
  have hparts : conditionParts? (Condition.valueMatches target pattern).text =
      some ("Key_value_matches", target.accessor, some (escapeBlanks pattern)) := by
    rw [Condition.text_eq_append]
    exact conditionParts?_three (Condition.space_not_mem_rule _) h.space_not_mem _
  simp [evaluate?, hparts, resolve?_accessor h, hp]

theorem evaluate?_keyExists {target : Target} (h : target.IsSeparable) (r : Record) :
    r.evaluate? classes (Condition.keyExists target).text =
      some (r.nested.at? target.segments).isSome := by
  have hparts : conditionParts? (Condition.keyExists target).text =
      some ("Key_exists", target.accessor, none) := by
    rw [Condition.text_eq_append]
    exact conditionParts?_two (Condition.space_not_mem_rule _) h.space_not_mem
  simp [evaluate?, hparts, resolve?_accessor h]

theorem evaluate?_unmarked {marker : String} (hspace : ' ' ∉ marker.toList)
    (hdollar : '$' ∉ marker.toList) (r : Record) :
    r.evaluate? classes (Condition.unmarked marker).text = some (!r.has marker) := by
  have hparts : conditionParts? (Condition.unmarked marker).text =
      some ("Key_does_not_exist", marker, none) := by
    rw [Condition.text_eq_append]
    exact conditionParts?_two (Condition.space_not_mem_rule _) hspace
  have hresolve : r.resolve? marker = r.get? marker := by
    unfold resolve?
    split
    . next path hpath => simp [hpath] at hdollar
    . rfl
  simp [evaluate?, hparts, hresolve, OrderedMap.has]

end Record

namespace Comparison

def IsBasic (c : Comparison) : Prop :=
  c.operator = .equal ∨ c.operator = .differs ∨ c.operator = .has ∧ c.literal = "*"

instance (c : Comparison) : Decidable c.IsBasic :=
  inferInstanceAs (Decidable (_ ∨ _ ∨ _ ∧ _))

def found (record : Value) (c : Comparison) : Bool :=
  let value? := record.at? c.target.segments
  match c.operator with
  | .has => value?.isSome
  | _ => (value?.bind Value.scalar?).any fun s => s = c.literal

def executed (record : Value) (c : Comparison) : Bool :=
  if c.operator.isNegative then !c.found record else c.found record

theorem exists_condition?_eq {c : Comparison} (hc : c.IsBasic) (h : c.target.IsSeparable) :
    ∃ condition, c.condition? = some condition ∧ condition.text = c.test ∧
      (∀ truth r, condition.holds truth r = truth c.test r.nested) ∧
      ∀ (classes : NamedClasses) (r : Record),
        r.evaluate? classes c.test = some (c.found r.nested) := by
  have hmatches : ∀ (classes : NamedClasses) (r : Record),
      r.evaluate? classes (Condition.valueMatches c.target ("^" ++ escapeLiteral c.literal ++ "$")).text =
        some (((r.nested.at? c.target.segments).bind Value.scalar?).any fun s => s = c.literal) := by
    intro classes r
    rw [Record.evaluate?_valueMatches h (Pattern.ofText?_exactly classes c.literal)]
    congr 2
    funext s
    rw [Bool.eq_iff_iff, Pattern.occursIn_exactly_iff, String.toList_inj, decide_eq_true_iff]
  rcases hc with hc | hc | ⟨hc, hstar⟩
  . refine ⟨.valueMatches c.target ("^" ++ escapeLiteral c.literal ++ "$"), ?_⟩
    simp [condition?, test, hc, Condition.holds, found, hmatches]
  . refine ⟨.valueMatches c.target ("^" ++ escapeLiteral c.literal ++ "$"), ?_⟩
    simp [condition?, test, hc, Condition.holds, found, hmatches]
  . refine ⟨.keyExists c.target, ?_⟩
    simp [condition?, test, hc, hstar, Condition.holds, found, Record.evaluate?_keyExists h]

end Comparison

variable (classes : NamedClasses)

def engineTruth (test : String) (nested : Value) : Bool :=
  (Record.evaluate? classes (OrderedMap.empty.insert Stage.nestField nested) test).getD false

theorem engineTruth_test {c : Comparison} (hc : c.IsBasic) (h : c.target.IsSeparable)
    (nested : Value) : engineTruth classes c.test nested = c.found nested := by
  obtain ⟨_, _, _, _, hevaluate⟩ := Comparison.exists_condition?_eq hc h
  simp [engineTruth, hevaluate, Record.nested, OrderedMap.get?_insert_self]

theorem decided_engineTruth {c : Comparison} (hc : c.IsBasic) (h : c.target.IsSeparable)
    (nested : Value) : c.decided (engineTruth classes · nested) = c.executed nested := by
  simp [Comparison.decided, Comparison.executed, engineTruth_test classes hc h]

namespace Step

open Stage

theorem execute_nest (tag : String) (r : Record) :
    (Step.nest.stage tag).execute classes r = .kept (r.nestUnder nestField) := by
  simp [stage, Stage.nest, execute, runNest, name?, get?_set, get?_filter]

theorem execute_lift (tag : String) (r : Record) :
    (Step.lift.stage tag).execute classes r = .kept (r.liftFrom nestField) := by
  simp [stage, Stage.lift, execute, runNest, name?, get?_set, get?_filter]

theorem execute_sweep (tag stem : String) (r : Record) :
    ((Step.sweep stem).stage tag).execute classes r = .kept (r.sweep stem) := by
  simp [stage, execute, executeModify, runSet, runRemove, Outcome.andThen, name?, get?_set,
    get?_filter]

theorem execute_mark (tag : String) {condition : Condition} {marker : String} {r : Record} {b : Bool}
    (hspace : ' ' ∉ marker.toList) (h : r.evaluate? classes condition.text = some b) :
    ((Step.mark condition marker).stage tag).execute classes r =
      .kept (if b then r.insert marker (.text "1") else r) := by
  have hset : splitAtSpace? (marker ++ " 1") = some (marker, "1") := splitAtSpace?_append hspace "1"
  simp only [stage, execute, executeModify, runSet, runRemove, name?, get?_set, get?_filter,
    String.reduceEq, if_true, if_false, Option.elim_some, h, hset, Outcome.andThen]
  cases b <;> rfl

theorem execute_eq_applyMark {cs : List Comparison} {p : String → Prop} {step : Step}
    (h : step.Decides cs p) (hcs : ∀ c ∈ cs, c.IsBasic ∧ c.target.IsSeparable)
    (hp : ∀ marker, p marker → ' ' ∉ marker.toList ∧ '$' ∉ marker.toList) (tag : String)
    (r : Record) :
    (step.stage tag).execute classes r = .kept (applyMark (engineTruth classes) r step) := by
  cases h with
  | comparison hc hmarker =>
    obtain ⟨hbasic, hseparable⟩ := hcs _ hc
    obtain ⟨condition, hcondition, htext, hholds, hevaluate⟩ :=
      Comparison.exists_condition?_eq hbasic hseparable
    simp only [Comparison.deciding, hcondition]
    rw [execute_mark classes tag (hp _ hmarker).1 (by rw [htext]; exact hevaluate classes r),
      applyMark, hholds, engineTruth_test classes hbasic hseparable]
  | missing hinner hmarker =>
    have hevaluate : r.evaluate? classes (Condition.unmarked _).text = some (!r.has _) :=
      Record.evaluate?_unmarked (hp _ hinner).1 (hp _ hinner).2 r
    rw [execute_mark classes tag (hp _ hmarker).1 hevaluate]
    rfl

theorem executeAll_marked {cs : List Comparison} {p : String → Prop} {steps : List Step}
    (h : ∀ step ∈ steps, step.Decides cs p) (hcs : ∀ c ∈ cs, c.IsBasic ∧ c.target.IsSeparable)
    (hp : ∀ marker, p marker → ' ' ∉ marker.toList ∧ '$' ∉ marker.toList) (tag : String)
    (stages : List Stage) (r : Record) :
    executeAll classes (steps.map (stage tag) ++ stages) r =
      executeAll classes stages (marked (engineTruth classes) steps r) := by
  induction steps generalizing r with
  | nil => rfl
  | cons step steps ih =>
    rw [List.forall_mem_cons] at h
    rw [List.map_cons, List.cons_append,
      executeAll_cons_of_kept (execute_eq_applyMark classes h.1 hcs hp tag r), marked_cons]
    exact ih h.2 _

theorem get?_marked_cases {truth : String → Value → Bool} {p : String → Prop} {steps : List Step}
    (h : SetsOnly p steps) (r : Record) (key : String) :
    (marked truth steps r).get? key = r.get? key ∨
      (marked truth steps r).get? key = some (.text "1") := by
  apply marked_induction
    (motive := fun r' => r'.get? key = r.get? key ∨ r'.get? key = some (.text "1")) h r (.inl rfl)
  intro r' marker _ hr'
  by_cases hkey : marker = key
  . rw [hkey, OrderedMap.get?_insert_self]
    exact .inr rfl
  . rw [OrderedMap.get?_insert_of_ne _ _ hkey]
    exact hr'

theorem execute_select (tag : String) (exclude : Bool) {marker : String} {r : Record}
    (hspace : ' ' ∉ marker.toList) (hvalue : ∀ v, r.get? marker = some v → v = .text "1") :
    ((Step.select exclude marker).stage tag).execute classes r =
      if r.has marker != exclude then .kept r else .dropped := by
  have hmatches : r.matches? classes (marker ++ " 1") = some (r.has marker) := by
    have hrule : splitAtSpace? (marker ++ " 1") = some (marker, "1") := splitAtSpace?_append hspace "1"
    have hpattern : Pattern.ofText? classes "1" = some (Pattern.ofChar '1') :=
      Pattern.ofText?_literal classes "1"
    have hoccurs : (Pattern.ofChar '1').occursIn ['1'] = true := by decide
    cases hget : r.get? marker with
    | none => simp [Record.matches?, hrule, hpattern, hget, OrderedMap.has]
    | some v =>
      rw [hvalue v hget] at hget
      simp [Record.matches?, hrule, hpattern, hget, OrderedMap.has, Value.scalar?, Value.plain,
        hoccurs]
  simp only [stage, execute, executeGrep, name?, get?_set, get?_filter]
  cases exclude <;> cases hhas : r.has marker <;>
    simp [parity, keepWhen, hmatches, hhas, Outcome.andThen]

end Step

end LogSieve
