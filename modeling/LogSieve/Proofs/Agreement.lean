import LogSieve.Proofs.Engine
import LogSieve.Proofs.PatternTable

/-!
This module contains where the engine and the matcher agree about records. Null is a value for the
engine but not for the matcher, and lists and objects have a text for the matcher but not for the
engine.
-/

namespace LogSieve

namespace Pipeline

open Step

variable (classes : NamedClasses) (tag : String) {filters : List Filter}

theorem executeAll_components_eq
    (hfilters : ∀ f ∈ filters, ∀ c ∈ f.expr.leaves, c.IsBasic ∧ c.target.IsSeparable)
    (exclude : Bool) (r : Record) :
    Stage.executeAll classes (components tag filters exclude) r =
      if (filters.any fun f => f.expr.holds (Comparison.executed (.object r.entries))) != exclude then
        .kept r
      else
        .dropped := by
  have hleaves : ∀ c ∈ Expr.leavesList (filters.map (·.expr)),
      c.IsBasic ∧ c.target.IsSeparable := by
    intro c hc
    obtain ⟨_, he, hc⟩ := Expr.mem_leavesList.1 hc
    obtain ⟨f, hf, rfl⟩ := List.mem_map.1 he
    exact hfilters f hf c hc
  have hmarkers : ∀ marker, AtOrInScope (tagMarker tag) marker →
      ' ' ∉ marker.toList ∧ '$' ∉ marker.toList := by
    intro marker hmarker
    exact ⟨not_mem_of_atOrInScope hmarker (by decide), not_mem_of_atOrInScope hmarker (by decide)⟩
  let inner := marked (engineTruth classes) (tagSteps tag filters) (r.nestUnder Stage.nestField)
  -- The nested record has no markers, so every marker has been set by a step.
  have hvalue : ∀ v, inner.get? (tagMarker tag) = some v → v = .text "1" := by
    intro v hv
    rcases get?_marked_cases (setsOnly_tagSteps tag filters) _ (tagMarker tag) with h | h
    . rw [h, Record.get?_nestUnder_of_ne _ _ (tagMarker_ne_nestField tag).symm] at hv
      simp at hv
    . rw [h, Option.some.injEq] at hv
      exact hv.symm
  have hselect : ((Step.select exclude (tagMarker tag)).stage tag).execute classes inner =
      if inner.has (tagMarker tag) != exclude then .kept inner else .dropped :=
    execute_select classes tag exclude (space_not_mem_tagMarker tag) hvalue
  have hholds : inner.has (tagMarker tag) =
      filters.any fun f => f.expr.holds (Comparison.executed (.object r.entries)) := by
    unfold inner
    rw [has_marked_tagSteps, Bool.eq_iff_iff, List.any_eq_true, List.any_eq_true]
    apply exists_congr
    intro f
    apply and_congr_right
    intro hf
    rw [f.expr.holds_congr fun c hc =>
      decided_engineTruth classes (hfilters f hf c hc).1 (hfilters f hf c hc).2 _]
  rw [hholds] at hselect
  rw [components_eq, Stage.executeAll_cons_of_kept (execute_nest classes tag r),
    executeAll_marked classes (fun step => decides_of_mem_tagSteps tag filters) hleaves hmarkers]
  split
  . next h =>
    rw [if_pos h] at hselect
    rw [Stage.executeAll_cons_of_kept hselect, Stage.executeAll_cons_of_kept (execute_sweep classes tag _ _),
      sweep_marked_tagSteps, Stage.executeAll_cons_of_kept (execute_lift classes tag _),
      Record.liftFrom_nestUnder, Stage.executeAll]
  . next h =>
    rw [if_neg h] at hselect
    exact Stage.executeAll_cons_of_dropped hselect

end Pipeline

def Target.IsWord (target : Target) : Prop :=
  ∀ s ∈ target.segments, s.toList.all (fun c => c.isAlphanum || c == '_') = true

instance (target : Target) : Decidable target.IsWord :=
  inferInstanceAs (Decidable (∀ s ∈ target.segments,
    s.toList.all (fun c => c.isAlphanum || c == '_') = true))

theorem Target.IsWord.isSeparable {target : Target} (h : target.IsWord) : target.IsSeparable := by
  intro s hs
  have hall := List.all_eq_true.1 (h s hs)
  constructor
  . intro hc
    exact absurd (hall _ hc) (by decide)
  . intro hc
    exact absurd (hall _ hc) (by decide)

namespace Comparison

/--
Whether the engine and the matcher see different things at the end of a path: a null where the
presence of a field is tested, or a list or an object that has the literal as its text.
-/
def Deviates (record : Value) (c : Comparison) : Prop :=
  ∃ v ∈ record.at? c.target.segments, v.scalar? = none ∧
    if c.operator = .has then v.isNull = true else v.isNull = false ∧ v.plain = c.literal

instance (record : Value) (c : Comparison) : Decidable (c.Deviates record) :=
  inferInstanceAs (Decidable (∃ v ∈ record.at? c.target.segments, v.scalar? = none ∧
    if c.operator = .has then v.isNull = true else v.isNull = false ∧ v.plain = c.literal))

theorem executed_eq_holds_iff {c : Comparison} (hc : c.IsBasic) (occurs : String → String → Bool)
    (record : Value) : c.executed record = c.holds occurs record ↔ ¬c.Deviates record := by
  unfold executed found holds Deviates Value.lookup?
  cases record.at? c.target.segments with
  | none => rcases hc with hc | hc | ⟨hc, hstar⟩ <;> simp [*, Operator.isNegative]
  | some v =>
    rcases hc with hc | hc | ⟨hc, hstar⟩
    . cases v <;> simp [hc, Operator.isNegative, Value.scalar?, Value.isNull]
    . cases v <;> simp [hc, Operator.isNegative, Value.scalar?, Value.isNull]
    . cases v <;> simp [hc, hstar, Operator.isNegative, Value.scalar?, Value.isNull]

end Comparison

namespace Pipeline

theorem executeAll_components_singleton (classes : NamedClasses) (tag : String) {f : Filter}
    (hf : ∀ c ∈ f.expr.leaves, c.IsBasic ∧ c.target.IsWord) (r : Record) :
    Stage.executeAll classes (components tag [f] false) r =
      if f.expr.holds (Comparison.executed (.object r.entries)) then .kept r else .dropped := by
  rw [executeAll_components_eq]
  . simp
  . intro f' hf' c hc
    rw [List.mem_singleton] at hf'
    rw [hf'] at hc
    exact ⟨(hf c hc).1, (hf c hc).2.isSeparable⟩

/--
For a filter of basic comparisons of fields with plain names, the engine keeps a record, and leaves
it unchanged, if and only if the filter holds by what the engine finds in the record. For each of the
comparisons this is the truth for the matcher unless the comparison deviates, so without deviations
the records that are kept are those that the matcher accepts.
-/
theorem executeAll_components (classes : NamedClasses) (language : PatternLanguage) (tag : String)
    {f : Filter} (hf : ∀ c ∈ f.expr.leaves, c.IsBasic ∧ c.target.IsWord) (r : Record) :
    let record := Value.object r.entries
    let outcome := Stage.executeAll classes (components tag [f] false) r
    outcome = (if f.expr.holds (Comparison.executed record) then .kept r else .dropped) ∧
    (∀ c ∈ f.expr.leaves, c.executed record = c.holds (Matcher.ofFilter f language).occurs record ↔
      ¬c.Deviates record) ∧
    ((∀ c ∈ f.expr.leaves, ¬c.Deviates record) →
      outcome = if f.accepts record language then .kept r else .dropped) := by
  intro record outcome
  have houtcome : outcome =
      if f.expr.holds (Comparison.executed record) then .kept r else .dropped :=
    executeAll_components_singleton classes tag hf r
  have hleaves : ∀ c ∈ f.expr.leaves,
      c.executed record = c.holds (Matcher.ofFilter f language).occurs record ↔
        ¬c.Deviates record := by
    intro c hc
    exact Comparison.executed_eq_holds_iff (hf c hc).1 _ record
  refine ⟨houtcome, hleaves, ?_⟩
  intro h
  rw [houtcome, f.expr.holds_congr fun c hc => (hleaves c hc).2 (h c hc)]
  rfl

theorem executeAll_components_kept_of_null :
    let present : Comparison := ⟨⟨["a"], by decide, by decide⟩, .has, "*"⟩
    let equal : Comparison := ⟨⟨["b", "c_1"], by decide, by decide⟩, .equal, "null"⟩
    let differs : Comparison := ⟨⟨["a"], by decide, by decide⟩, .differs, "2"⟩
    let f : Filter := ⟨.all [.leaf present, .any [.leaf equal, .leaf differs]]⟩
    let r : Record :=
      ⟨[("a", .list [.int 2]), ("b", .object [("c_1", .null)])], by unfold KeysIncrease; decide⟩
    (∀ c ∈ f.expr.leaves, c.IsBasic ∧ c.target.IsWord) ∧
      (∀ c ∈ f.expr.leaves, ¬c.Deviates (.object r.entries)) ∧
      Stage.executeAll .standard (components "app.log" [f] false) r = .kept r := by
  intro present equal differs f r
  have hf : ∀ c ∈ f.expr.leaves, c.IsBasic ∧ c.target.IsWord := by decide
  have hr : ∀ c ∈ f.expr.leaves, ¬c.Deviates (.object r.entries) := by decide
  have haccepts : f.accepts (.object r.entries) = true := by decide
  refine ⟨hf, hr, ?_⟩
  rw [(executeAll_components .standard .standard "app.log" hf r).2.2 hr, haccepts]
  rfl

/--
The engine keeps a record with a null in the place of a field whose presence is tested, and drops one
with a list whose text is the literal. The matcher does the opposite.
-/
theorem executeAll_components_ne_accepts :
    let present : Filter := ⟨.leaf ⟨⟨["a"], by decide, by decide⟩, .has, "*"⟩⟩
    let equal : Filter := ⟨.leaf ⟨⟨["a"], by decide, by decide⟩, .equal, "[1]"⟩⟩
    let null : Record := ⟨[("a", .null)], by unfold KeysIncrease; decide⟩
    let list : Record := ⟨[("a", .list [.int 1])], by unfold KeysIncrease; decide⟩
    Stage.executeAll .standard (components "t" [present] false) null = .kept null ∧
      present.accepts (.object null.entries) = false ∧
      Stage.executeAll .standard (components "t" [equal] false) list = .dropped ∧
      equal.accepts (.object list.entries) = true := by
  intro present equal null list
  have hpresent : ∀ c ∈ present.expr.leaves, c.IsBasic ∧ c.target.IsWord := by decide
  have hequal : ∀ c ∈ equal.expr.leaves, c.IsBasic ∧ c.target.IsWord := by decide
  refine ⟨?_, by decide, ?_, by decide⟩
  . rw [executeAll_components_singleton .standard "t" hpresent]
    rfl
  . rw [executeAll_components_singleton .standard "t" hequal]
    rfl

end Pipeline

end LogSieve
