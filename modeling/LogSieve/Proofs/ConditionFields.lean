import LogSieve.Proofs.Accessor
import LogSieve.Proofs.Rendering
import LogSieve.Proofs.StepShape

/-!
This module contains the fields into which spaces divide the conditions of stages. Patterns are
escaped and have no spaces, but an accessor has those of its segments.
-/

namespace LogSieve

namespace Condition

def fields : Condition → List String
  | .valueMatches target pattern => ["Key_value_matches", target.accessor, escapeBlanks pattern]
  | .keyExists target => ["Key_exists", target.accessor]
  | .unmarked marker => ["Key_does_not_exist", marker]

theorem text_eq_intercalate (condition : Condition) :
    condition.text = " ".intercalate condition.fields := by
  apply String.toList_inj.1
  cases condition with
  | valueMatches target pattern => simp [text_valueMatches, fields]
  | keyExists target => simp [text_keyExists, fields]
  | unmarked marker => simp [text_unmarked, fields]

end Condition

def Stage.conditionFields? (stage : Stage) : Option (List String) :=
  (stage.get? "Condition").map fun condition => (condition.toList.splitOn ' ').map String.ofList

theorem Step.conditionFields?_mark_iff (tag : String) (condition : Condition) (marker : String) :
    ((Step.mark condition marker).stage tag).conditionFields? = some condition.fields ↔
      ∀ field ∈ condition.fields, ' ' ∉ field.toList := by
  have hget : ((Step.mark condition marker).stage tag).get? "Condition" = some condition.text := by
    simp [stage, Stage.get?_set]
  have hne : condition.fields.map String.toList ≠ [] := by
    cases condition <;> simp [Condition.fields]
  have htext : condition.text.toList = [' '].intercalate (condition.fields.map String.toList) := by
    rw [condition.text_eq_intercalate, String.toList_intercalate]
    rfl
  have hparts := splitOn_intercalate_eq_iff (x := ' ') hne
  rw [← htext, List.forall_mem_map] at hparts
  rw [← hparts, Stage.conditionFields?, hget, Option.map_some, Option.some.injEq]
  constructor
  . intro h
    rw [← h, List.map_map]
    simp
  . intro h
    rw [h, List.map_map]
    simp

namespace Comparison

theorem space_not_mem_fields_iff {c : Comparison} {condition : Condition}
    (h : c.condition? = some condition) :
    (∀ field ∈ condition.fields, ' ' ∉ field.toList) ↔ ∀ s ∈ c.target.segments, ' ' ∉ s.toList := by
  rw [← Target.not_mem_accessor_iff (by decide)]
  rcases eq_of_condition?_eq_some h with ⟨pattern, rfl⟩ | rfl
  . have hpattern : ' ' ∉ (escapeBlanks pattern).toList := not_mem_escapeBlanks (by decide) pattern
    simp [Condition.fields, hpattern]
  . simp [Condition.fields]

/--
The conditions of a comparison that no script decides, in the stages of its own and in those before a
script, are divided at spaces into the rule, the accessor of the field and the pattern, or into the
rule and a marker, if and only if no segment of the field has a space.
-/
theorem conditionFields?_steps_iff {c : Comparison} (hc : ∀ relation, c.operator ≠ .order relation)
    {scope : String} (hscope : ' ' ∉ scope.toList) (tag key : String) :
    ∃ condition, c.condition? = some condition ∧
      ((c.steps key scope).map (fun step => (step.stage tag).conditionFields?) =
          (if c.operator.isNegative then
            [some condition.fields, some ["Key_does_not_exist", childKey scope 0]]
          else
            [some condition.fields]) ∧
        (c.scriptSteps key).map (fun step => (step.stage tag).conditionFields?) =
          (if c.operator.isPattern then [some condition.fields] else []) ↔
      ∀ s ∈ c.target.segments, ' ' ∉ s.toList) := by
  obtain ⟨condition, hcondition⟩ : ∃ condition, c.condition? = some condition := by
    rw [← Option.ne_none_iff_exists']
    intro hnone
    obtain ⟨relation, hrelation⟩ := condition?_eq_none_iff.1 hnone
    exact hc relation hrelation
  have hfields : ∀ marker, ((Step.mark condition marker).stage tag).conditionFields? =
      some condition.fields ↔ ∀ s ∈ c.target.segments, ' ' ∉ s.toList := by
    intro marker
    rw [Step.conditionFields?_mark_iff, space_not_mem_fields_iff hcondition]
  have hmissing : ((Step.mark (.unmarked (childKey scope 0)) key).stage tag).conditionFields? =
      some ["Key_does_not_exist", childKey scope 0] := by
    apply (Step.conditionFields?_mark_iff tag (.unmarked (childKey scope 0)) key).2
    have hmarker : ' ' ∉ (childKey scope 0).toList := (inScope_childKey scope 0).space_not_mem hscope
    simp [Condition.fields, hmarker]
  have hdeciding : ∀ marker, c.deciding marker = .mark condition marker := by
    intro marker
    simp only [deciding, hcondition]
  refine ⟨condition, hcondition, ?_⟩
  rw [steps_eq, scriptSteps_eq hcondition]
  cases hnegative : c.operator.isNegative <;> cases hpattern : c.operator.isPattern <;>
    simp [hdeciding, hfields, hmissing]

theorem conditionFields?_steps_spaces :
    let c : Comparison := ⟨⟨["log", "message"], by decide, by decide⟩, .unlike, " no  space "⟩
    (∀ relation, c.operator ≠ .order relation) ∧ ' ' ∉ "__match_t_0".toList ∧
      (c.steps "__match_t" "__match_t_0").map (fun step => (step.stage "t").conditionFields?) =
        [some ["Key_value_matches", "$record['log']['message']", "\\x20no\\x20\\x20space\\x20"],
          some ["Key_does_not_exist", "__match_t_0_0"]] := by
  intro c
  have hc : ∀ relation, c.operator ≠ .order relation := by
    intro relation h
    injection h
  have hscope : ' ' ∉ "__match_t_0".toList := by decide
  obtain ⟨condition, hcondition, hiff⟩ := conditionFields?_steps_iff hc hscope "t" "__match_t"
  refine ⟨hc, hscope, ?_⟩
  rw [(hiff.2 (by decide)).1, ← Option.some.inj hcondition]
  decide

/--
A space in a segment divides the accessor, so that a condition has four parts.
-/
theorem conditionFields?_steps_ne :
    let c : Comparison := ⟨⟨["a b"], by decide, by decide⟩, .equal, "1"⟩
    ' ' ∉ "t".toList ∧ ' ' ∉ "k".toList ∧ ' ' ∉ "s".toList ∧
      (c.steps "k" "s").map (fun step => (step.stage "t").conditionFields?) =
        [some ["Key_value_matches", "$record['a", "b']", "^1$"]] := by
  decide

end Comparison

end LogSieve
