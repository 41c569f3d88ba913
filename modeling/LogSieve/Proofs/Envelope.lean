import LogSieve.Proofs.Selection

/-!
This module contains the shape of the pipelines that select records: the options of their stages, and
what changes if records are dropped instead of kept.
-/

namespace LogSieve

theorem AtOrInScope.isPrefix {scope marker : String} (h : AtOrInScope scope marker) :
    scope.toList <+: marker.toList := by
  rcases h with rfl | ⟨rest, rfl, _⟩
  . exact List.prefix_refl _
  . simp [List.prefix_append]

namespace Step

def options (tag : String) : Step → List (String × String)
  | .nest =>
    [("Match", tag), ("Name", "nest"), ("Nest_under", Stage.nestField), ("Operation", "nest"),
      ("Wildcard", "*")]
  | .mark condition marker =>
    [("Condition", condition.text), ("Match", tag), ("Name", "modify"), ("Set", marker ++ " 1")]
  | .test c marker =>
    [("Match", tag), ("Name", "lua"), ("call", marker), ("code", testCode c marker)]
  | .select true marker => [("Exclude", marker ++ " 1"), ("Match", tag), ("Name", "grep")]
  | .select false marker => [("Match", tag), ("Name", "grep"), ("Regex", marker ++ " 1")]
  | .sweep stem => [("Match", tag), ("Name", "modify"), ("Remove_wildcard", stem)]
  | .lift =>
    [("Match", tag), ("Name", "nest"), ("Nested_under", Stage.nestField), ("Operation", "lift")]

theorem entries_stage (tag : String) (step : Step) :
    (step.stage tag).options.entries = step.options tag := by
  cases step with
  | select exclude marker => cases exclude <;> rfl
  | _ => rfl

theorem get?_stage (tag : String) (step : Step) (key : String) :
    (step.stage tag).get? key = valueAt? key (step.options tag) := by
  rw [← entries_stage]
  rfl

theorem get?_stage_match (tag : String) (step : Step) :
    (step.stage tag).get? "Match" = some tag := by
  rw [get?_stage]
  cases step with
  | select exclude marker => cases exclude <;> rfl
  | _ => rfl

theorem isNest_stage (tag : String) (step : Step) : (step.stage tag).isNest = (step == .nest) := by
  simp only [Stage.isNest, Stage.name?, get?_stage]
  cases step with
  | select exclude marker => cases exclude <;> rfl
  | _ => rfl

theorem isLift_stage (tag : String) (step : Step) : (step.stage tag).isLift = (step == .lift) := by
  simp only [Stage.isLift, Stage.name?, get?_stage]
  cases step with
  | select exclude marker => cases exclude <;> rfl
  | _ => rfl

theorem name?_stage_eq_grep (tag : String) (step : Step) :
    ((step.stage tag).name? == some "grep") = (step matches .select _ _) := by
  simp only [Stage.name?, get?_stage]
  cases step with
  | select exclude marker => cases exclude <;> rfl
  | _ => rfl

end Step

/--
A stage that sets a marker and does nothing else: either under a condition, or by a script.
-/
inductive Stage.Marks (tag marker : String) (stage : Stage) : Prop where
  | modify (condition : String) :
      stage.options.entries =
        [("Condition", condition), ("Match", tag), ("Name", "modify"), ("Set", marker ++ " 1")] →
      Marks tag marker stage
  | lua (code : String) :
      stage.options.entries =
        [("Match", tag), ("Name", "lua"), ("call", marker), ("code", code)] →
      Marks tag marker stage

theorem Step.marks_stage {step : Step} {marker : String} (h : step.marker? = some marker)
    (tag : String) : (step.stage tag).Marks tag marker := by
  cases step with
  | mark condition m =>
    cases h
    exact .modify condition.text (entries_stage tag (.mark condition marker))
  | test c m =>
    cases h
    exact .lua (testCode c marker) (entries_stage tag (.test c marker))
  | _ => simp [marker?] at h

namespace Pipeline

variable (tag : String) (filters : List Filter)

def tagStages : List Stage := (tagSteps tag filters).map (Step.stage tag)

theorem marks_of_mem_tagStages {stage : Stage} (h : stage ∈ tagStages tag filters) :
    ∃ marker, AtOrInScope (tagMarker tag) marker ∧ stage.Marks tag marker := by
  obtain ⟨step, hstep, rfl⟩ := List.mem_map.1 h
  obtain ⟨marker, hmarker, hscope⟩ := setsOnly_tagSteps tag filters step hstep
  exact ⟨marker, hscope, Step.marks_stage hmarker tag⟩

theorem filter_components {p : Stage → Bool} {q : Step → Bool}
    (hp : ∀ step, p (Step.stage tag step) = q step)
    (hq : ∀ step marker, step.marker? = some marker → q step = false) (exclude : Bool) :
    (components tag filters exclude).filter p =
      ([Step.nest, .select exclude (tagMarker tag), .sweep (tagMarker tag), .lift].filter q).map
        (Step.stage tag) := by
  have hsteps : (tagSteps tag filters).filter q = [] := by
    rw [List.filter_eq_nil_iff]
    intro step hstep
    obtain ⟨marker, hmarker, _⟩ := setsOnly_tagSteps tag filters step hstep
    simp [hq step marker hmarker]
  have hselection : selection tag filters exclude = [.nest] ++ (tagSteps tag filters ++
      [.select exclude (tagMarker tag), .sweep (tagMarker tag), .lift]) := rfl
  have hcomp : p ∘ Step.stage tag = q := funext hp
  rw [components, List.filter_map, hcomp, hselection, List.filter_append, List.filter_append, hsteps,
    List.nil_append, ← List.filter_append]
  rfl

theorem filter_isNest_components (exclude : Bool) :
    (components tag filters exclude).filter Stage.isNest = [Step.nest.stage tag] := by
  rw [filter_components tag filters (Step.isNest_stage tag)]
  . rfl
  . intro step marker hmarker
    cases step with
    | nest => simp [Step.marker?] at hmarker
    | _ => rfl

theorem filter_isLift_components (exclude : Bool) :
    (components tag filters exclude).filter Stage.isLift = [Step.lift.stage tag] := by
  rw [filter_components tag filters (Step.isLift_stage tag)]
  . rfl
  . intro step marker hmarker
    cases step with
    | lift => simp [Step.marker?] at hmarker
    | _ => rfl

theorem filter_grep_components (exclude : Bool) :
    (components tag filters exclude).filter (·.name? == some "grep") =
      [(Step.select exclude (tagMarker tag)).stage tag] := by
  rw [filter_components tag filters (Step.name?_stage_eq_grep tag)]
  . rfl
  . intro step marker hmarker
    cases step with
    | select exclude' marker' => simp [Step.marker?] at hmarker
    | _ => rfl

/--
The stages of the filters for a tag, which only set markers that are named after it, stand between
one that nests the record and three that select, remove the markers and lift the record. Whether the
selected records are kept or dropped changes nothing but the key of one option.
-/
theorem exists_envelope_components :
    ∃ (nest sweep lift : Stage) (grep : Bool → Stage),
      (∀ exclude, components tag filters exclude =
        nest :: (tagStages tag filters ++ [grep exclude, sweep, lift])) ∧
      (∀ exclude, (components tag filters exclude).filter Stage.isNest = [nest]) ∧
      (∀ exclude, (components tag filters exclude).filter Stage.isLift = [lift]) ∧
      (∀ exclude, (components tag filters exclude).filter (·.name? == some "grep") =
        [grep exclude]) ∧
      sweep.options.entries =
        [("Match", tag), ("Name", "modify"), ("Remove_wildcard", tagMarker tag)] ∧
      (∀ stage ∈ tagStages tag filters, ∃ marker,
        (tagMarker tag).toList <+: marker.toList ∧ stage.Marks tag marker) ∧
      (∀ exclude, ∀ stage ∈ components tag filters exclude,
        stage.kind = "FILTER" ∧ stage.get? "Match" = some tag) ∧
      (grep false).options.entries =
        [("Match", tag), ("Name", "grep"), ("Regex", tagMarker tag ++ " 1")] ∧
      (grep true).options.entries =
        [("Exclude", tagMarker tag ++ " 1"), ("Match", tag), ("Name", "grep")] ∧
      (components tag filters true).length = (components tag filters false).length ∧
      components tag filters true =
        (components tag filters false).set ((tagStages tag filters).length + 1) (grep true) := by
  have heq : ∀ exclude, components tag filters exclude =
      Step.nest.stage tag :: (tagStages tag filters ++ [(Step.select exclude (tagMarker tag)).stage tag,
        (Step.sweep (tagMarker tag)).stage tag, Step.lift.stage tag]) := components_eq tag filters
  refine ⟨_, _, _, fun exclude => (Step.select exclude (tagMarker tag)).stage tag, heq,
    filter_isNest_components tag filters, filter_isLift_components tag filters,
    filter_grep_components tag filters, Step.entries_stage tag (.sweep (tagMarker tag)), ?_, ?_,
    Step.entries_stage tag (.select false (tagMarker tag)),
    Step.entries_stage tag (.select true (tagMarker tag)), ?_, ?_⟩
  . intro stage hstage
    obtain ⟨marker, hscope, hmarks⟩ := marks_of_mem_tagStages tag filters hstage
    exact ⟨marker, hscope.isPrefix, hmarks⟩
  . intro exclude stage hstage
    obtain ⟨step, _, rfl⟩ := List.mem_map.1 hstage
    exact ⟨Step.stage_kind tag step, Step.get?_stage_match tag step⟩
  . simp [heq]
  . simp [heq]

end Pipeline

end LogSieve
