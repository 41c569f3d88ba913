import LogSieve.Proofs.FieldReads

/-!
This module contains the order in which markers are set and tested, and the parts of filters to
which they belong. Whether a marker is missing is only tested behind all stages that set it, and
different parts of a filter have no marker in common but the one that a disjunction hands on to its
children.
-/

namespace LogSieve

namespace Step

def missing? : Step → Option String
  | .mark (.unmarked marker) _ => some marker
  | _ => none

def Spares (step later : Step) : Prop :=
  ∀ marker, step.missing? = some marker → later.marker? ≠ some marker

/--
Whether all markers whose absence is tested satisfy `p`, and none of them is set by the same step or
a later one.
-/
structure IsStratified (p : String → Prop) (steps : List Step) : Prop where
  tests : ∀ step ∈ steps, ∀ marker, step.missing? = some marker → p marker
  self : ∀ step ∈ steps, step.Spares step
  pairwise : steps.Pairwise Spares

theorem SetsOnly.of_mem {p : String → Prop} {steps : List Step} (h : SetsOnly p steps) {step : Step}
    {marker : String} (hstep : step ∈ steps) (hmarker : step.marker? = some marker) : p marker := by
  obtain ⟨marker', hmarker', hp⟩ := h step hstep
  rw [hmarker, Option.some.injEq] at hmarker'
  rw [hmarker']
  exact hp

theorem IsStratified.mono {p q : String → Prop} {steps : List Step} (h : IsStratified p steps)
    (hpq : ∀ marker, p marker → q marker) : IsStratified q steps := by
  refine ⟨?_, h.self, h.pairwise⟩
  intro step hstep marker hmarker
  apply hpq
  exact h.tests step hstep marker hmarker

theorem isStratified_of_missing?_eq_none {steps : List Step}
    (h : ∀ step ∈ steps, step.missing? = none) (p : String → Prop) : IsStratified p steps := by
  have hspares : ∀ step ∈ steps, ∀ later, step.Spares later := by
    intro step hstep later marker hmarker
    rw [h step hstep] at hmarker
    simp at hmarker
  refine ⟨?_, fun step hstep => hspares step hstep step, ?_⟩
  . intro step hstep marker hmarker
    rw [h step hstep] at hmarker
    simp at hmarker
  . rw [List.pairwise_iff_getElem]
    intro i j hi _ _
    exact hspares _ (List.getElem_mem hi) _

theorem isStratified_unmarked {p : String → Prop} {marker key : String} (hp : p marker)
    (hne : key ≠ marker) : IsStratified p [.mark (.unmarked marker) key] := by
  refine ⟨?_, ?_, List.pairwise_singleton _ _⟩
  . simpa [missing?] using hp
  . simpa [Spares, missing?, marker?] using hne

theorem IsStratified.append {p : String → Prop} {as bs : List Step} (ha : IsStratified p as)
    (hb : IsStratified p bs) (h : ∀ step ∈ as, ∀ later ∈ bs, step.Spares later) :
    IsStratified p (as ++ bs) := by
  refine ⟨?_, ?_, ?_⟩
  . rw [List.forall_mem_append]
    exact ⟨ha.tests, hb.tests⟩
  . rw [List.forall_mem_append]
    exact ⟨ha.self, hb.self⟩
  . rw [List.pairwise_append]
    exact ⟨ha.pairwise, hb.pairwise, h⟩

theorem IsStratified.append_setsOnly {p q : String → Prop} {as bs : List Step}
    (ha : IsStratified p as) (hb : IsStratified q bs) (hsets : SetsOnly (¬p ·) bs)
    (hpq : ∀ marker, p marker → q marker) : IsStratified q (as ++ bs) := by
  apply (ha.mono hpq).append hb
  intro step hstep later hlater marker hmissing hmarker
  apply hsets.of_mem hlater hmarker
  exact ha.tests step hstep marker hmissing

theorem IsStratified.lt {p : String → Prop} {steps : List Step} (h : IsStratified p steps)
    {i j : Nat} {test set : Step} {marker : String} (hi : steps[i]? = some test)
    (htest : test.missing? = some marker) (hj : steps[j]? = some set)
    (hset : set.marker? = some marker) : j < i := by
  obtain ⟨hi', rfl⟩ := List.getElem?_eq_some_iff.1 hi
  obtain ⟨hj', rfl⟩ := List.getElem?_eq_some_iff.1 hj
  apply Nat.lt_of_not_le
  intro hle
  cases Nat.eq_or_lt_of_le hle with
  | inl heq =>
    subst heq
    exact h.self _ (List.getElem_mem hi') marker htest hset
  | inr hlt => exact List.pairwise_iff_getElem.1 h.pairwise i j hi' hj' hlt marker htest hset

end Step

open Step

theorem Comparison.isStratified_deciding (p : String → Prop) (c : Comparison) (marker : String) :
    IsStratified p [c.deciding marker] := by
  have hmissing : (c.deciding marker).missing? = none := by
    unfold deciding
    cases hcondition : c.condition? with
    | none => rfl
    | some condition => rcases eq_of_condition?_eq_some hcondition with ⟨pattern, rfl⟩ | rfl <;> rfl
  apply isStratified_of_missing?_eq_none
  simpa using hmissing

theorem Comparison.isStratified_steps (c : Comparison) {key scope : String}
    (hkey : ¬InScope scope key) : IsStratified (InScope scope) (c.steps key scope) := by
  rw [steps_eq]
  split
  . have hinner := inScope_childKey scope 0
    have hne : key ≠ childKey scope 0 := by
      rintro rfl
      exact hkey hinner
    apply (c.isStratified_deciding (InScope scope) (childKey scope 0)).append_setsOnly
      (isStratified_unmarked hinner hne)
    . exact setsOnly_singleton rfl hkey
    . exact fun _ hm => hm
  . apply isStratified_deciding

namespace Expr

theorem setsOnly_stepsAny_from (key scope : String) (i : Nat) (es : List Expr) :
    SetsOnly (fun m => m = key ∨ InScopeFrom scope i m) (stepsAny key scope i es) := by
  induction es generalizing i with
  | nil => apply setsOnly_nil
  | cons e es ih =>
    apply SetsOnly.append
    . apply (setsOnly_steps key (childKey scope i) e).mono
      intro m hm
      exact hm.imp_right fun h => AtOrInScope.inScopeFrom (.inr h)
    . apply (ih (i + 1)).mono
      intro m hm
      exact hm.imp_right InScopeFrom.of_succ

theorem setsOnly_stepsAll_from (scope : String) (i : Nat) (es : List Expr) :
    SetsOnly (fun m => m = failedKey scope ∨ InScopeFrom scope i m) (stepsAll scope i es) := by
  induction es generalizing i with
  | nil => apply setsOnly_nil
  | cons e es ih =>
    apply SetsOnly.append
    . apply (setsOnly_steps (childKey scope i) (childKey scope i) e).mono
      intro m hm
      exact .inr (AtOrInScope.inScopeFrom hm)
    . apply setsOnly_cons rfl (.inl rfl)
      apply (ih (i + 1)).mono
      intro m hm
      exact hm.imp_right InScopeFrom.of_succ

mutual

theorem isStratified_steps (key scope : String) (e : Expr) (hkey : ¬InScope scope key) :
    IsStratified (InScope scope) (e.steps key scope) := by
  have hlast : ∀ m, InScope scope m →
      IsStratified (InScope scope) [.mark (.unmarked m) key] := by
    intro m hm
    apply isStratified_unmarked hm
    rintro rfl
    exact hkey hm
  cases e with
  | leaf c => exact c.isStratified_steps hkey
  | not e =>
    have hchild := isStratified_steps _ _ e (not_inScope_self (childKey scope 0))
    apply hchild.append_setsOnly (hlast _ (inScope_childKey scope 0))
    . exact setsOnly_singleton rfl fun h => hkey h.of_childKey
    . exact fun _ hm => hm.of_childKey
  | any es => exact isStratified_stepsAny key scope 0 es hkey
  | all es =>
    apply (isStratified_stepsAll scope 0 es).append_setsOnly (hlast _ (inScope_failedKey scope))
    . exact setsOnly_singleton rfl hkey
    . exact fun _ hm => hm

theorem isStratified_stepsAny (key scope : String) (i : Nat) (es : List Expr)
    (hkey : ¬InScope scope key) : IsStratified (InScope scope) (stepsAny key scope i es) := by
  cases es with
  | nil =>
    rw [stepsAny]
    exact isStratified_of_missing?_eq_none (by simp) _
  | cons e es =>
    have hchild := isStratified_steps key (childKey scope i) e fun h => hkey h.of_childKey
    apply hchild.append_setsOnly (isStratified_stepsAny key scope (i + 1) es hkey)
    . apply (setsOnly_stepsAny_from key scope (i + 1) es).mono
      rintro m (rfl | hm) h
      . exact hkey h.of_childKey
      . exact not_inScopeFrom_succ (.inr h) hm
    . exact fun _ hm => hm.of_childKey

theorem isStratified_stepsAll (scope : String) (i : Nat) (es : List Expr) :
    IsStratified (InScope scope) (stepsAll scope i es) := by
  cases es with
  | nil =>
    rw [stepsAll]
    exact isStratified_of_missing?_eq_none (by simp) _
  | cons e es =>
    let child := childKey scope i
    let first := steps child child e ++ [.mark (.unmarked child) (failedKey scope)]
    have hfailed : ¬AtOrInScope child (failedKey scope) := not_atOrInScope_failedKey scope i
    have hmark : IsStratified (AtOrInScope child) [.mark (.unmarked child) (failedKey scope)] :=
      isStratified_unmarked (.inl rfl) fun h => hfailed (.inl h)
    have hfirst : IsStratified (AtOrInScope child) first := by
      apply (isStratified_steps child child e (not_inScope_self child)).append_setsOnly hmark
      . exact setsOnly_singleton rfl fun h => hfailed (.inr h)
      . exact fun _ hm => .inr hm
    have hsteps : stepsAll scope i (e :: es) = first ++ stepsAll scope (i + 1) es := by
      simp [stepsAll, first, child]
    rw [hsteps]
    apply hfirst.append_setsOnly (isStratified_stepsAll scope (i + 1) es)
    . apply (setsOnly_stepsAll_from scope (i + 1) es).mono
      rintro m (rfl | hm) h
      . exact hfailed h
      . exact not_inScopeFrom_succ h hm
    . exact fun _ hm => hm.inScope

end

end Expr

namespace Stage

def Sets (stage : Stage) (marker : String) : Prop :=
  stage.get? "Set" = some (marker ++ " 1") ∨ stage.get? "call" = some marker

def TestsMissing (stage : Stage) (marker : String) : Prop :=
  stage.get? "Condition" = some ("Key_does_not_exist " ++ marker)

end Stage

namespace Step

theorem sets_stage_iff (tag : String) (step : Step) (marker : String) :
    (step.stage tag).Sets marker ↔ step.marker? = some marker := by
  simp only [Stage.Sets, get?_stage]
  cases step with
  | select exclude m => cases exclude <;> simp [options, valueAt?, marker?]
  | _ => simp [options, valueAt?, marker?]

theorem testsMissing_stage_iff (tag : String) (step : Step) (marker : String) :
    (step.stage tag).TestsMissing marker ↔ step.missing? = some marker := by
  simp only [Stage.TestsMissing, get?_stage]
  cases step with
  | select exclude m => cases exclude <;> simp [options, valueAt?, missing?]
  | mark condition m =>
    have hget : valueAt? "Condition" ((mark condition m).options tag) = some condition.text := rfl
    rw [hget, Option.some.injEq, Condition.text_eq_unmarked_iff]
    cases condition <;> simp [missing?]
  | _ => simp [options, valueAt?, missing?]

theorem name?_stage_ne_grep {step : Step} {marker : String} (h : step.marker? = some marker)
    (tag : String) : (step.stage tag).name? ≠ some "grep" := by
  rw [Stage.name?, get?_stage]
  cases step with
  | mark condition m => simp [options, valueAt?]
  | test c m => simp [options, valueAt?]
  | _ => simp [marker?] at h

end Step

theorem infix_of_getElem? {α β : Type} {block : Nat → α → List β} {whole : Nat → List α → List β}
    (hwhole : ∀ i a as, whole i (a :: as) = block i a ++ whole (i + 1) as) (i : Nat) {as : List α}
    {j : Nat} {a : α} (h : as[j]? = some a) : block (i + j) a <:+: whole i as := by
  induction as generalizing i j with
  | nil => simp at h
  | cons a' as ih =>
    rw [hwhole]
    cases j with
    | zero =>
      rw [List.getElem?_cons_zero, Option.some.injEq] at h
      rw [h]
      exact (List.prefix_append _ _).isInfix
    | succ j =>
      rw [List.getElem?_cons_succ] at h
      have hnext := ih (i + 1) h
      rw [Nat.add_right_comm, Nat.add_assoc] at hnext
      exact hnext.trans (List.suffix_append _ _).isInfix

namespace Expr

structure Node where
  expr : Expr
  key : String
  scope : String

namespace Node

def steps (n : Node) : List Step := n.expr.steps n.key n.scope

def stages (tag : String) (n : Node) : List Stage := n.steps.map (Step.stage tag)

def Sets (tag : String) (n : Node) (marker : String) : Prop :=
  ∃ stage ∈ n.stages tag, stage.Sets marker

def children (n : Node) : List Node :=
  match n.expr with
  | .leaf _ => []
  | .not e => [⟨e, childKey n.scope 0, childKey n.scope 0⟩]
  | .all es => es.mapIdx fun i e => ⟨e, childKey n.scope i, childKey n.scope i⟩
  | .any es => es.mapIdx fun i e => ⟨e, n.key, childKey n.scope i⟩

def sharedKey? (n : Node) : Option String :=
  match n.expr with
  | .any _ => some n.key
  | _ => none

variable {tag marker : String}

theorem Sets.eq_or_inScope {n : Node} (h : n.Sets tag marker) :
    marker = n.key ∨ InScope n.scope marker := by
  obtain ⟨stage, hstage, hsets⟩ := h
  obtain ⟨step, hstep, rfl⟩ := List.mem_map.1 hstage
  rw [sets_stage_iff] at hsets
  exact (setsOnly_steps n.key n.scope n.expr).of_mem hstep hsets

theorem Sets.eq_key {key scope : String} {i j : Nat} {e e' : Expr} (hij : i ≠ j)
    (hi : Sets tag ⟨e, key, childKey scope i⟩ marker)
    (hj : Sets tag ⟨e', key, childKey scope j⟩ marker) : marker = key := by
  rcases hi.eq_or_inScope with h | hi
  . exact h
  . rcases hj.eq_or_inScope with h | hj
    . exact h
    . exact absurd (eq_of_atOrInScope_childKey (.inr hi) (.inr hj)) hij

theorem pairwise_children (tag : String) (n : Node) :
    n.children.Pairwise fun a b =>
      ∀ marker, a.Sets tag marker → b.Sets tag marker → n.sharedKey? = some marker := by
  obtain ⟨e, key, scope⟩ := n
  cases e with
  | leaf c => exact List.Pairwise.nil
  | not e => exact List.pairwise_singleton _ _
  | all es =>
    simp only [children, List.pairwise_iff_getElem, List.getElem_mapIdx]
    intro i j _ _ hij marker hi hj
    -- The marker of each child is its scope.
    have := eq_of_atOrInScope_childKey hi.eq_or_inScope hj.eq_or_inScope
    omega
  | any es =>
    simp only [children, List.pairwise_iff_getElem, List.getElem_mapIdx]
    intro i j _ _ hij marker hi hj
    have hkey := hi.eq_key (by omega) hj
    rw [hkey]
    rfl

theorem steps_infix_of_mem_children {n c : Node} (h : c ∈ n.children) : c.steps <:+: n.steps := by
  obtain ⟨e, key, scope⟩ := n
  cases e with
  | leaf d => simp [children] at h
  | not e =>
    rw [children, List.mem_singleton] at h
    rw [h]
    exact (List.prefix_append _ _).isInfix
  | all es =>
    obtain ⟨i, hi, rfl⟩ := List.mem_mapIdx.1 h
    let block (i : Nat) (e : Expr) : List Step :=
      e.steps (childKey scope i) (childKey scope i) ++
        [.mark (.unmarked (childKey scope i)) (failedKey scope)]
    have hblocks : ∀ i e es,
        stepsAll scope i (e :: es) = block i e ++ stepsAll scope (i + 1) es := by
      intro i e es
      simp [stepsAll, block]
    have hblock := infix_of_getElem? hblocks 0 (List.getElem?_eq_getElem hi)
    rw [Nat.zero_add] at hblock
    exact (List.prefix_append _ _).isInfix.trans (hblock.trans (List.prefix_append _ _).isInfix)
  | any es =>
    obtain ⟨i, hi, rfl⟩ := List.mem_mapIdx.1 h
    have hblocks : ∀ i e es, stepsAny key scope i (e :: es) =
        e.steps key (childKey scope i) ++ stepsAny key scope (i + 1) es := by
      intro i e es
      rw [stepsAny]
    have hblock := infix_of_getElem? hblocks 0 (List.getElem?_eq_getElem hi)
    rw [Nat.zero_add] at hblock
    exact hblock

end Node

end Expr

namespace Pipeline

variable (tag : String) (filters : List Filter)

def filterNode (i : Nat) (f : Filter) : Expr.Node :=
  ⟨f.expr, tagMarker tag, childKey (tagMarker tag) i⟩

inductive IsPart : Expr.Node → Prop where
  | filter {i : Nat} {f : Filter} : filters[i]? = some f → IsPart (filterNode tag i f)
  | child {n c : Expr.Node} : IsPart n → c ∈ n.children → IsPart c

variable {tag filters}

theorem IsPart.steps_infix {n : Expr.Node} (h : IsPart tag filters n) :
    n.steps <:+: tagSteps tag filters := by
  induction h with
  | @filter i f hf =>
    have hblock := infix_of_getElem? (fun _ _ _ => rfl : ∀ i f fs,
      filterSteps (tagMarker tag) i (f :: fs) = f.expr.steps (tagMarker tag)
        (childKey (tagMarker tag) i) ++ filterSteps (tagMarker tag) (i + 1) fs) 0 hf
    rw [Nat.zero_add] at hblock
    exact hblock
  | child _ hc ih => exact (Expr.Node.steps_infix_of_mem_children hc).trans ih

variable (tag filters)

theorem selection_eq (exclude : Bool) :
    selection tag filters exclude =
      [.nest] ++ tagSteps tag filters ++
        [.select exclude (tagMarker tag), .sweep (tagMarker tag), .lift] :=
  rfl

theorem isStratified_selection (exclude : Bool) :
    IsStratified (InScope (tagMarker tag)) (selection tag filters exclude) := by
  have hsteps : IsStratified (InScope (tagMarker tag)) (tagSteps tag filters) := by
    unfold tagSteps
    rw [filterSteps_eq_stepsAny]
    exact Expr.isStratified_stepsAny _ _ 0 _ (not_inScope_self _)
  -- The steps around those of the filters neither test nor set a marker.
  have hfirst : IsStratified (InScope (tagMarker tag)) [.nest] :=
    isStratified_of_missing?_eq_none (by simp [missing?]) _
  have hlast : IsStratified (InScope (tagMarker tag))
      [.select exclude (tagMarker tag), .sweep (tagMarker tag), .lift] :=
    isStratified_of_missing?_eq_none (by simp [missing?]) _
  rw [selection_eq]
  apply (hfirst.append hsteps _).append hlast
  . simp [Spares, marker?]
  . simp [Spares, missing?]

theorem tagMarker_mem_fieldsRead_iff {exclude : Bool} {step : Step}
    (h : step ∈ selection tag filters exclude) :
    tagMarker tag ∈ (step.stage tag).fieldsRead ↔ (step.stage tag).name? = some "grep" := by
  have hmissing := (isStratified_selection tag filters exclude).tests step h
  rw [selection_eq, List.mem_append, List.mem_append] at h
  rcases h with (h | h) | h
  . rw [List.mem_singleton.1 h]
    simp [Stage.fieldsRead, Stage.name?, get?_stage, options, valueAt?]
  . obtain ⟨marker, hmarker, _⟩ := setsOnly_tagSteps tag filters step h
    rw [iff_false_right (name?_stage_ne_grep hmarker tag)]
    cases decides_of_mem_tagSteps tag filters h with
    | @comparison c marker _ hscope =>
      rw [fieldsRead_deciding tag c (isName_of_atOrInScope hscope)]
      simpa using tagMarker_ne_nestField tag
    | @missing inner marker hscope _ =>
      have hspace : ' ' ∉ inner.toList := not_mem_of_atOrInScope hscope (by decide)
      have hdollar : '$' ∉ inner.toList := not_mem_of_atOrInScope hscope (by decide)
      have hne : tagMarker tag ≠ inner := by
        rintro rfl
        exact not_inScope_self _ (hmissing _ rfl)
      rw [fieldsRead_mark tag (.unmarked inner) marker hspace hdollar]
      simpa [Condition.field] using hne
  . simp only [List.mem_cons, List.not_mem_nil, or_false] at h
    rcases h with rfl | rfl | rfl
    . rw [fieldsRead_select tag exclude (space_not_mem_tagMarker tag)]
      cases exclude <;> simp [Stage.name?, get?_stage, options, valueAt?]
    . simp [Stage.fieldsRead, Stage.name?, get?_stage, options, valueAt?]
    . simp [Stage.fieldsRead, Stage.name?, get?_stage, options, valueAt?]

/--
No stage sets a marker whose absence has been tested. The marker of the tag is read by the selection
of records and by nothing else. Two filters have no other marker in common, nor have two children of
one expression in them, apart from the marker that a disjunction hands on to its children.
-/
theorem stratified_components (exclude : Bool) :
    (∀ (i j : Nat) (test set : Stage) (marker : String),
      (components tag filters exclude)[i]? = some test → test.TestsMissing marker →
      (components tag filters exclude)[j]? = some set → set.Sets marker → j < i) ∧
    (∀ stage ∈ components tag filters exclude, ¬stage.TestsMissing (tagMarker tag)) ∧
    (∀ stage ∈ components tag filters exclude,
      tagMarker tag ∈ stage.fieldsRead ↔ stage.name? = some "grep") ∧
    (∀ (i j : Nat) (f g : Filter) (marker : String), i ≠ j → filters[i]? = some f →
      filters[j]? = some g → (filterNode tag i f).Sets tag marker →
      (filterNode tag j g).Sets tag marker → marker = tagMarker tag) ∧
    ∀ n, IsPart tag filters n →
      n.stages tag <:+: components tag filters exclude ∧
      n.children.Pairwise fun a b =>
        ∀ marker, a.Sets tag marker → b.Sets tag marker → n.sharedKey? = some marker := by
  have hstratified := isStratified_selection tag filters exclude
  refine ⟨?_, ?_, ?_, ?_, ?_⟩
  . intro i j test set marker hi htest hj hset
    rw [components, List.getElem?_map] at hi hj
    obtain ⟨step, hstep, rfl⟩ := Option.map_eq_some_iff.1 hi
    obtain ⟨later, hlater, rfl⟩ := Option.map_eq_some_iff.1 hj
    rw [testsMissing_stage_iff] at htest
    rw [sets_stage_iff] at hset
    exact hstratified.lt hstep htest hlater hset
  . intro stage hstage htest
    obtain ⟨step, hstep, rfl⟩ := List.mem_map.1 hstage
    rw [testsMissing_stage_iff] at htest
    exact not_inScope_self _ (hstratified.tests step hstep _ htest)
  . intro stage hstage
    obtain ⟨step, hstep, rfl⟩ := List.mem_map.1 hstage
    exact tagMarker_mem_fieldsRead_iff tag filters hstep
  . intro i j f g marker hij _ _ hi hj
    exact hi.eq_key hij hj
  . intro n hn
    refine ⟨?_, n.pairwise_children tag⟩
    have hsteps : n.steps <:+: selection tag filters exclude := by
      rw [selection_eq]
      exact hn.steps_infix.trans (List.infix_append _ _ _)
    exact hsteps.map (Step.stage tag)

-- The marker of what is negated is set by a script right before it is tested to be missing.
example :
    let less : Comparison := ⟨⟨["a"], by decide, by decide⟩, .order .lt, "2"⟩
    let marker := tagMarker "app" ++ "_0_0"
    (components "app" [⟨.not (.leaf less)⟩] false).filterMap
        (fun stage => (stage.get? "call").or (stage.get? "Condition")) =
      [marker, "Key_does_not_exist " ++ marker] := by
  decide

end Pipeline

end LogSieve
