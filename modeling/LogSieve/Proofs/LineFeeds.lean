import LogSieve.Proofs.Accessor
import LogSieve.Proofs.FilterText
import LogSieve.Proofs.Lua.Lexer
import LogSieve.Proofs.Rendering
import LogSieve.Proofs.StepShape

/-!
This module contains where line feeds can get into the options of stages. Scripts and patterns
escape them, but the accessors of fields do not.
-/

namespace LogSieve

theorem not_mem_intercalate {c : Char} {separator : List Char} {parts : List (List Char)}
    (hseparator : c ∉ separator) (hparts : ∀ part ∈ parts, c ∉ part) :
    c ∉ separator.intercalate parts := by
  induction parts with
  | nil => simp
  | cons part parts ih =>
    rw [List.forall_mem_cons] at hparts
    cases parts with
    | nil => simpa using hparts.1
    | cons part' parts =>
      rw [List.intercalate_cons_cons]
      simp [hseparator, hparts.1, ih hparts.2]

namespace Script

theorem newline_not_mem_quoteChar (c : Char) : '\n' ∉ quoteChar c := by
  intro h
  exact absurd (isControl_of_mem_quoteChar h) (by decide)

theorem newline_not_mem_quote (s : String) : '\n' ∉ (quote s).toList := by
  simp [quote, newline_not_mem_quoteChar]

theorem newline_not_mem_field (path : List String) : '\n' ∉ (field path).toList := by
  unfold field
  split
  . simp [newline_not_mem_quote]
  . simp only [String.toList_append, String.toList_intercalate, List.mem_append, not_or]
    refine ⟨⟨by simp, ?_⟩, by simp⟩
    apply not_mem_intercalate (by simp)
    simp [newline_not_mem_quote]

theorem newline_not_mem_test {body value : String} (hbody : '\n' ∉ body.toList)
    (hvalue : '\n' ∉ value.toList) : '\n' ∉ (test body value).toList := by
  unfold test
  simp [hbody, hvalue]

end Script

theorem Double.newline_not_mem_plainText (number : Double) : '\n' ∉ number.plainText.toList := by
  have hsign : ∀ negative, '\n' ∉ (signText negative).toList := by decide
  unfold plainText
  split
  . simp [hsign]
  . next negative m q _ =>
    rw [String.toList_append, List.mem_append, not_or]
    refine ⟨hsign negative, ?_⟩
    intro h
    have := (Lua.isNumeral_positional _).parts _ h
    exact absurd this (by decide)
  . simp [hsign]
  . decide

namespace Comparison

theorem newline_not_mem_script (c : Comparison) (marker : String) :
    '\n' ∉ (c.script marker).toList := by
  have hvalue : '\n' ∉ c.target.script.toList := Script.newline_not_mem_field _
  have hequals : '\n' ∉ (Script.equals c.target.script c.literal).toList := by
    unfold Script.equals
    apply Script.newline_not_mem_test _ hvalue
    simp [Script.newline_not_mem_quote]
  unfold script
  split
  . simp [Script.markerIsSet, Script.newline_not_mem_quote]
  . simp [Script.markerIsUnset, Script.newline_not_mem_quote]
  . exact hequals
  . simp [Script.negated, hequals]
  . split
    . simp [hvalue]
    . unfold Script.contains
      apply Script.newline_not_mem_test _ hvalue
      simp [Script.newline_not_mem_quote]
  . next relation _ =>
    have hrelation : '\n' ∉ relation.text.toList := by
      cases relation <;> decide
    split
    . unfold Script.orderedNumber
      apply Script.newline_not_mem_test _ hvalue
      simp [hrelation, Double.newline_not_mem_plainText]
    . unfold Script.orderedText
      apply Script.newline_not_mem_test _ hvalue
      simp [hrelation, Script.newline_not_mem_quote]

theorem newline_not_mem_condition_iff {c : Comparison} {condition : Condition}
    (h : c.condition? = some condition) :
    '\n' ∉ condition.text.toList ↔ ∀ s ∈ c.target.segments, '\n' ∉ s.toList := by
  rw [← Target.not_mem_accessor_iff (by decide)]
  rcases eq_of_condition?_eq_some h with ⟨pattern, rfl⟩ | rfl
  . have hpattern : '\n' ∉ (escapeBlanks pattern).toList := not_mem_escapeBlanks (by decide) pattern
    simp [Condition.text_valueMatches, hpattern]
  . simp [Condition.text_keyExists]

end Comparison

namespace Stage

def IsLinewise (stage : Stage) : Prop := ∀ option ∈ stage.options.entries, '\n' ∉ option.2.toList

theorem isLinewise_filter {name tag : String} (hname : '\n' ∉ name.toList)
    (htag : '\n' ∉ tag.toList) : (filter name tag).IsLinewise := by
  intro option hoption
  rcases mem_insertAt hoption with rfl | hoption
  . exact htag
  . rcases mem_insertAt hoption with rfl | hoption
    . exact hname
    . simp [OrderedMap.empty] at hoption

theorem IsLinewise.set {stage : Stage} (h : stage.IsLinewise) (key : String) {value : String}
    (hvalue : '\n' ∉ value.toList) : (stage.set key value).IsLinewise := by
  intro option hoption
  rcases mem_insertAt hoption with rfl | hoption
  . exact hvalue
  . exact h option hoption

theorem IsLinewise.get? {stage : Stage} (h : stage.IsLinewise) {key value : String}
    (hvalue : stage.get? key = some value) : '\n' ∉ value.toList :=
  h (key, value) (OrderedMap.get?_eq_some_iff.1 hvalue)

def HasPlainKeys (stage : Stage) : Prop :=
  '\n' ∉ stage.kind.toList ∧ ∀ option ∈ stage.options.entries, '\n' ∉ option.1.toList

theorem hasPlainKeys_filter (name tag : String) : (filter name tag).HasPlainKeys := by
  refine ⟨by simp [filter], ?_⟩
  intro option hoption
  rcases mem_insertAt hoption with rfl | hoption
  . simp
  . rcases mem_insertAt hoption with rfl | hoption
    . simp
    . simp [OrderedMap.empty] at hoption

theorem HasPlainKeys.set {stage : Stage} (h : stage.HasPlainKeys) {key : String}
    (hkey : '\n' ∉ key.toList) (value : String) : (stage.set key value).HasPlainKeys := by
  refine ⟨h.1, ?_⟩
  intro option hoption
  rcases mem_insertAt hoption with rfl | hoption
  . exact hkey
  . exact h.2 option hoption

end Stage

def Comparison.IsLinewise (c : Comparison) : Prop :=
  (∀ relation, c.operator ≠ .order relation) → ∀ s ∈ c.target.segments, '\n' ∉ s.toList

namespace Step

open Stage

theorem hasPlainKeys_stage (tag : String) (step : Step) : (step.stage tag).HasPlainKeys := by
  cases step with
  | nest =>
    apply (((hasPlainKeys_filter _ _).set _ _).set _ _).set
    all_goals simp
  | mark condition marker =>
    apply ((hasPlainKeys_filter _ _).set _ _).set
    all_goals simp
  | test c marker =>
    apply ((hasPlainKeys_filter _ _).set _ _).set
    all_goals simp
  | select exclude marker =>
    apply (hasPlainKeys_filter _ _).set
    cases exclude <;> decide
  | sweep stem =>
    apply (hasPlainKeys_filter _ _).set
    simp
  | lift =>
    apply ((hasPlainKeys_filter _ _).set _ _).set
    all_goals simp

variable {tag marker : String}

theorem isLinewise_mark_iff {condition : Condition} (htag : '\n' ∉ tag.toList)
    (hmarker : '\n' ∉ marker.toList) :
    ((Step.mark condition marker).stage tag).IsLinewise ↔ '\n' ∉ condition.text.toList := by
  constructor
  . intro h
    have hget : ((Step.mark condition marker).stage tag).get? "Condition" = some condition.text := by
      simp [stage, get?_set]
    exact h.get? hget
  . intro h
    apply ((isLinewise_filter _ htag).set _ h).set
    . simp [hmarker]
    . decide

theorem isLinewise_frame (htag : '\n' ∉ tag.toList) (hmarker : '\n' ∉ marker.toList)
    (exclude : Bool) :
    (Step.nest.stage tag).IsLinewise ∧ ((Step.select exclude marker).stage tag).IsLinewise ∧
      ((Step.sweep marker).stage tag).IsLinewise ∧ (Step.lift.stage tag).IsLinewise := by
  have hfilter : ∀ name ∈ ["nest", "grep", "modify"], (filter name tag).IsLinewise := by
    intro name hname
    apply isLinewise_filter _ htag
    revert name
    decide
  refine ⟨?_, ?_, ?_, ?_⟩
  . apply (((hfilter _ (by simp)).set _ _).set _ _).set
    all_goals decide
  . apply (hfilter _ (by simp)).set
    simp [hmarker]
  . exact (hfilter _ (by simp)).set _ hmarker
  . apply ((hfilter _ (by simp)).set _ _).set
    all_goals decide

theorem newline_not_mem_testCode (c : Comparison) (hmarker : '\n' ∉ marker.toList) :
    '\n' ∉ (testCode c marker).toList := by
  have hscript := c.newline_not_mem_script marker
  unfold testCode
  simp only [String.toList_append, List.mem_append, hmarker, hscript, Script.newline_not_mem_quote,
    or_false]
  decide

theorem marker?_deciding (c : Comparison) (marker : String) :
    (c.deciding marker).marker? = some marker := by
  unfold Comparison.deciding
  split <;> rfl

theorem isLinewise_deciding_iff {c : Comparison} (htag : '\n' ∉ tag.toList)
    (hmarker : '\n' ∉ marker.toList) :
    ((c.deciding marker).stage tag).IsLinewise ↔ c.IsLinewise := by
  unfold Comparison.deciding Comparison.IsLinewise
  split
  . next condition h =>
    rw [isLinewise_mark_iff htag hmarker, Comparison.newline_not_mem_condition_iff h]
    have hrelation : ∀ relation, c.operator ≠ .order relation := by
      intro relation hrelation
      have := Comparison.condition?_eq_none_iff.2 ⟨relation, hrelation⟩
      simp [this] at h
    simp [hrelation]
  . next h =>
    obtain ⟨relation, hrelation⟩ := Comparison.condition?_eq_none_iff.1 h
    constructor
    . intro _ hnone
      exact absurd hrelation (hnone relation)
    . intro _
      apply ((isLinewise_filter _ htag).set _ hmarker).set
      . exact newline_not_mem_testCode c hmarker
      . decide

end Step

namespace Pipeline

variable {tag : String} {filters : List Filter}

theorem newline_not_mem_of_atOrInScope {marker : String} (h : AtOrInScope (tagMarker tag) marker) :
    '\n' ∉ marker.toList :=
  not_mem_of_atOrInScope h (by decide)

theorem isLinewise_tagSteps_iff (htag : '\n' ∉ tag.toList) :
    (∀ step ∈ tagSteps tag filters, (step.stage tag).IsLinewise) ↔
      ∀ f ∈ filters, ∀ c ∈ f.expr.leaves, c.IsLinewise := by
  constructor
  . intro h f hf c hc
    obtain ⟨marker, hstep⟩ := exists_deciding_mem_tagSteps tag filters hf hc
    obtain ⟨_, heq, hmarker⟩ := setsOnly_tagSteps tag filters _ hstep
    rw [Step.marker?_deciding, Option.some.injEq] at heq
    rw [← heq] at hmarker
    rw [← Step.isLinewise_deciding_iff htag (newline_not_mem_of_atOrInScope hmarker)]
    exact h _ hstep
  . intro h step hstep
    cases decides_of_mem_tagSteps tag filters hstep with
    | comparison hc hmarker =>
      rw [Expr.mem_leavesList] at hc
      obtain ⟨e, he, hc⟩ := hc
      obtain ⟨f, hf, rfl⟩ := List.mem_map.1 he
      rw [Step.isLinewise_deciding_iff htag (newline_not_mem_of_atOrInScope hmarker)]
      exact h f hf _ hc
    | missing hinner hmarker =>
      rw [Step.isLinewise_mark_iff htag (newline_not_mem_of_atOrInScope hmarker),
        Condition.text_unmarked]
      simp [newline_not_mem_of_atOrInScope hinner]

/--
For a tag on one line, the options of all stages have values on one line if and only if the fields of
all comparisons that no script decides have paths on one line. Exactly then, the text of the stages
has one line for each stage, one for each option, and a blank line between two stages.
-/
theorem isLinewise_components_iff (htag : '\n' ∉ tag.toList) (exclude : Bool) :
    ((∀ stage ∈ components tag filters exclude, stage.IsLinewise) ↔
      ∀ f ∈ filters, ∀ c ∈ f.expr.leaves, c.IsLinewise) ∧
    ((Stage.renderAll (components tag filters exclude)).toList.splitOn '\n' =
        (Stage.allLines (components tag filters exclude)).map String.toList ↔
      ∀ f ∈ filters, ∀ c ∈ f.expr.leaves, c.IsLinewise) ∧
    ∀ stage ∈ components tag filters exclude,
      stage.sectionLines.length = stage.options.size + 1 := by
  have hmarker : '\n' ∉ (tagMarker tag).toList := newline_not_mem_of_atOrInScope (.inl rfl)
  have hframe := Step.isLinewise_frame htag hmarker exclude
  have hlinewise : (∀ stage ∈ components tag filters exclude, stage.IsLinewise) ↔
      ∀ f ∈ filters, ∀ c ∈ f.expr.leaves, c.IsLinewise := by
    rw [← isLinewise_tagSteps_iff htag]
    simp only [components_eq, List.forall_mem_cons, List.forall_mem_append, List.forall_mem_map,
      hframe]
    simp
  have hkeys : ∀ stage ∈ components tag filters exclude, stage.HasPlainKeys := by
    intro stage hstage
    obtain ⟨step, _, rfl⟩ := List.mem_map.1 hstage
    apply Step.hasPlainKeys_stage
  refine ⟨hlinewise, ?_, fun stage _ => stage.length_sectionLines⟩
  rw [← hlinewise, Stage.splitOn_renderAll_iff (by simp [components_eq])]
  constructor
  . intro h stage hstage option hoption
    exact ((h stage hstage).2 option hoption).2
  . intro h stage hstage
    obtain ⟨hkind, hkey⟩ := hkeys stage hstage
    exact ⟨hkind, fun option hoption => ⟨hkey option hoption, h stage hstage option hoption⟩⟩

theorem isLinewise_components_literals :
    let text : Comparison := ⟨⟨["a"], by decide, by decide⟩, .like, "x\n[OUTPUT]"⟩
    let order : Comparison := ⟨⟨["b\nc", "d"], by decide, by decide⟩, .order .lt, "\n"⟩
    let f : Filter := ⟨.all [.leaf text, .not (.leaf order)]⟩
    '\n' ∉ "app.log".toList ∧ Filter.ofText f.text = .ok f ∧
      ∀ stage ∈ components "app.log" [f] true, stage.IsLinewise := by
  intro text order f
  have htag : '\n' ∉ "app.log".toList := by decide
  refine ⟨htag, Filter.ofText_text_eq_ok_iff_isNormal.2 rfl, ?_⟩
  apply (isLinewise_components_iff htag true).1.2
  simp only [f, text, order, Expr.leaves, Expr.leavesList, List.mem_singleton, forall_eq,
    List.cons_append, List.nil_append, List.append_nil, List.forall_mem_cons]
  exact ⟨fun _ => by decide, fun h => absurd rfl (h .lt)⟩

/--
The path of a filter brings a line feed into a condition.
-/
theorem newline_mem_components :
    let c : Comparison := ⟨⟨["a\nb"], by decide, by decide⟩, .equal, "1"⟩
    let f : Filter := ⟨.leaf c⟩
    '\n' ∉ "t".toList ∧ Filter.ofText f.text = .ok f ∧
      ¬ ∀ stage ∈ components "t" [f] false, stage.IsLinewise := by
  intro c f
  have htag : '\n' ∉ "t".toList := by decide
  refine ⟨htag, Filter.ofText_text_eq_ok_iff_isNormal.2 rfl, ?_⟩
  intro h
  have hsteps : ∀ step ∈ tagSteps "t" [f], (step.stage "t").IsLinewise := by
    intro step hstep
    apply h
    rw [components_eq]
    simp only [List.mem_cons, List.mem_append, List.mem_map]
    exact .inr (.inl ⟨step, hstep, rfl⟩)
  have hc := (isLinewise_tagSteps_iff htag).1 hsteps f (by simp) c (by simp [f, Expr.leaves])
  have := hc (by simp [c]) "a\nb" (by simp [c])
  exact this (by decide)

end Pipeline

end LogSieve
