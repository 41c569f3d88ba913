import LogSieve.Proofs.Marker
import LogSieve.Proofs.StageRun

/-!
This module contains the correctness of pipelines that select records: a record is kept if and only
if its filters hold for it, and then it comes out unchanged.
-/

namespace LogSieve

def Operator.isNegative : Operator → Bool
  | .differs | .unlike => true
  | _ => false

namespace Comparison

def test (c : Comparison) : String :=
  match c.operator with
  | .equal | .differs =>
    (Condition.valueMatches c.target ("^" ++ escapeLiteral c.literal ++ "$")).text
  | .has =>
    if c.literal = "*" then
      (Condition.keyExists c.target).text
    else
      (Condition.valueMatches c.target ("(?i)" ++ escapeLiteral c.literal)).text
  | .like | .unlike => (Condition.valueMatches c.target c.literal).text
  | .order relation =>
    match c.number? with
    | some number => Script.orderedNumber c.target.script relation number
    | none => Script.orderedText c.target.script relation c.literal

def decided (truth : String → Bool) (c : Comparison) : Bool :=
  if c.operator.isNegative then !truth c.test else truth c.test

theorem script_eq_test {c : Comparison} {relation : Relation} (h : c.operator = .order relation)
    (key : String) : c.script key = c.test := by
  cases hnumber : c.number? with
  | some number => simp [script, test, h, hnumber]
  | none => simp [script, test, h, hnumber]

end Comparison

open Step

namespace Step

variable {truth : String → Value → Bool}

theorem has_marked_mark (condition : Condition) (key : String) (r : Record) :
    (marked truth [.mark condition key] r).has key = (r.has key || condition.holds truth r) := by
  simp only [marked_cons, marked_nil, applyMark]
  split
  . next h => simp [h]
  . next h => simp [h]

theorem has_marked_unless {p : String → Prop} {steps : List Step} (hsets : SetsOnly p steps)
    {key inner : String} (hkey : ¬p key) {r : Record} {b : Bool}
    (hb : (marked truth steps r).has inner = b) :
    (marked truth (steps ++ [.mark (.unmarked inner) key]) r).has key = (r.has key || !b) := by
  rw [marked_append, has_marked_mark, has_marked hsets r hkey]
  simp only [Condition.holds, hb]

end Step

namespace Comparison

variable {truth : String → Value → Bool} {key scope : String}

theorem setsOnly_steps (c : Comparison) (key scope : String) :
    SetsOnly (fun m => m = key ∨ InScope scope m) (c.steps key scope) := by
  have hpositive : ∀ condition,
      SetsOnly (fun m => m = key ∨ InScope scope m) (positive condition key) := by
    intro condition
    exact setsOnly_singleton rfl (.inl rfl)
  have hnegative : ∀ condition,
      SetsOnly (fun m => m = key ∨ InScope scope m) (negative condition key scope) := by
    intro condition
    apply setsOnly_cons rfl (.inr (inScope_childKey scope 0))
    exact setsOnly_singleton rfl (.inl rfl)
  unfold steps
  split
  . apply hpositive
  . apply hnegative
  . split
    . apply hpositive
    . apply hpositive
  . apply hpositive
  . apply hnegative
  . exact setsOnly_singleton rfl (.inl rfl)

theorem has_marked_negative {condition : Condition} {r : Record} (hkey : ¬InScope scope key)
    (hfresh : ∀ m, InScope scope m → r.has m = false) :
    (marked truth (negative condition key scope) r).has key =
      (r.has key || !condition.holds truth r) := by
  have hinner : (marked truth [.mark condition (childKey scope 0)] r).has (childKey scope 0) =
      condition.holds truth r := by
    rw [has_marked_mark, hfresh _ (inScope_childKey scope 0)]
    simp
  apply has_marked_unless (p := InScope scope) _ hkey hinner
  exact setsOnly_singleton rfl (inScope_childKey scope 0)

theorem has_marked_steps (c : Comparison) {r : Record} (hkey : ¬InScope scope key)
    (hfresh : ∀ m, InScope scope m → r.has m = false) :
    (marked truth (c.steps key scope) r).has key =
      (r.has key || c.decided (truth · r.nested)) := by
  unfold steps decided
  split
  . next h =>
    rw [positive, has_marked_mark]
    simp [h, test, Operator.isNegative, Condition.holds]
  . next h =>
    rw [has_marked_negative hkey hfresh]
    simp [h, test, Operator.isNegative, Condition.holds]
  . next h =>
    split
    . next hstar =>
      rw [positive, has_marked_mark]
      simp [h, hstar, test, Operator.isNegative, Condition.holds]
    . next hstar =>
      rw [positive, has_marked_mark]
      simp [h, hstar, test, Operator.isNegative, Condition.holds]
  . next h =>
    rw [positive, has_marked_mark]
    simp [h, test, Operator.isNegative, Condition.holds]
  . next h =>
    rw [has_marked_negative hkey hfresh]
    simp [h, test, Operator.isNegative, Condition.holds]
  . next relation h =>
    simp only [marked_cons, marked_nil, applyMark, script_eq_test h, h, Operator.isNegative]
    split
    . next htruth => simp [htruth]
    . next htruth => simp [htruth]

end Comparison

namespace Expr

variable {truth : String → Value → Bool} {key scope : String}

mutual

theorem setsOnly_steps (key scope : String) (e : Expr) :
    SetsOnly (fun m => m = key ∨ InScope scope m) (e.steps key scope) := by
  cases e with
  | leaf c => exact c.setsOnly_steps key scope
  | not e =>
    apply SetsOnly.append
    . apply (setsOnly_steps _ _ e).mono
      intro m hm
      exact .inr (AtOrInScope.inScope hm)
    . exact setsOnly_singleton rfl (.inl rfl)
  | any es => exact setsOnly_stepsAny key scope 0 es
  | all es =>
    apply SetsOnly.append
    . apply (setsOnly_stepsAll scope 0 es).mono
      intro m hm
      exact .inr hm
    . exact setsOnly_singleton rfl (.inl rfl)

theorem setsOnly_stepsAny (key scope : String) (i : Nat) (es : List Expr) :
    SetsOnly (fun m => m = key ∨ InScope scope m) (stepsAny key scope i es) := by
  cases es with
  | nil => apply setsOnly_nil
  | cons e es =>
    apply SetsOnly.append
    . apply (setsOnly_steps key (childKey scope i) e).mono
      intro m hm
      exact hm.imp_right InScope.of_childKey
    . exact setsOnly_stepsAny key scope (i + 1) es

theorem setsOnly_stepsAll (scope : String) (i : Nat) (es : List Expr) :
    SetsOnly (InScope scope) (stepsAll scope i es) := by
  cases es with
  | nil => apply setsOnly_nil
  | cons e es =>
    apply SetsOnly.append
    . apply (setsOnly_steps _ _ e).mono
      intro m hm
      exact AtOrInScope.inScope hm
    . apply setsOnly_cons rfl (inScope_failedKey scope)
      exact setsOnly_stepsAll scope (i + 1) es

end

/--
No marker of the children from number `i` on is set.
-/
def FreshFrom (scope : String) (i : Nat) (r : Record) : Prop :=
  ∀ j m, i ≤ j → AtOrInScope (childKey scope j) m → r.has m = false

theorem freshFrom_zero {r : Record} (h : ∀ m, InScope scope m → r.has m = false) :
    FreshFrom scope 0 r := by
  intro j m _ hm
  exact h m hm.inScope

theorem FreshFrom.marked {i : Nat} {r : Record} (h : FreshFrom scope i r) {p : String → Prop}
    {steps : List Step} (hsets : SetsOnly p steps)
    (hp : ∀ m, p m → AtOrInScope (childKey scope i) m ∨ ∀ j, ¬AtOrInScope (childKey scope j) m) :
    FreshFrom scope (i + 1) (Step.marked truth steps r) := by
  intro j m hj hm
  rw [has_marked hsets]
  . exact h j m (by omega) hm
  . intro hpm
    cases hp m hpm with
    | inl hi =>
      have := eq_of_atOrInScope_childKey hi hm
      omega
    | inr hnone => exact hnone j hm

mutual

theorem has_marked_steps (truth : String → Value → Bool) (key scope : String) (e : Expr) (r : Record)
    (hkey : ¬InScope scope key) (hnest : key ≠ Stage.nestField)
    (hfresh : ∀ m, InScope scope m → r.has m = false) :
    (marked truth (e.steps key scope) r).has key =
      (r.has key || e.holds (Comparison.decided (truth · r.nested))) := by
  cases e with
  | leaf c => exact c.has_marked_steps hkey hfresh
  | not e =>
    -- The marker of the child is in the scope, so it is set by nothing but the steps of the child.
    have hinner := has_marked_steps truth (childKey scope 0) (childKey scope 0) e r
      (not_inScope_self _) (childKey_ne_nestField scope 0) (fun m hm => hfresh m hm.of_childKey)
    rw [hfresh _ (inScope_childKey scope 0), Bool.false_or] at hinner
    apply has_marked_unless (setsOnly_steps _ _ e) _ hinner
    intro h
    exact hkey (AtOrInScope.inScope h)
  | any es =>
    rw [holds, holdsAny_eq_any]
    exact has_marked_stepsAny truth key scope es 0 r hkey hnest (freshFrom_zero hfresh)
  | all es =>
    have hfailed := has_marked_stepsAll truth scope es 0 r (freshFrom_zero hfresh)
    rw [hfresh _ (inScope_failedKey scope), Bool.false_or] at hfailed
    rw [steps, has_marked_unless (setsOnly_stepsAll scope 0 es) hkey hfailed, Bool.not_not, holds,
      holdsAll_eq_all]

theorem has_marked_stepsAny (truth : String → Value → Bool) (key scope : String) (es : List Expr)
    (i : Nat) (r : Record) (hkey : ¬InScope scope key) (hnest : key ≠ Stage.nestField)
    (hfresh : FreshFrom scope i r) :
    (marked truth (stepsAny key scope i es) r).has key =
      (r.has key || es.any (holds (Comparison.decided (truth · r.nested)))) := by
  cases es with
  | nil => simp [stepsAny]
  | cons e es =>
    have hsets := setsOnly_steps key (childKey scope i) e
    have hchild := has_marked_steps truth key (childKey scope i) e r (fun h => hkey h.of_childKey)
      hnest (fun m hm => hfresh i m (Nat.le_refl i) (.inr hm))
    have hnested : (marked truth (steps key (childKey scope i) e) r).nested = r.nested := by
      apply nested_marked hsets
      rintro (h | h)
      . exact hnest h.symm
      . exact not_inScope_nestField _ h
    have hfresh' : FreshFrom scope (i + 1) (marked truth (steps key (childKey scope i) e) r) := by
      apply hfresh.marked hsets
      -- The key is outside of the scope, so it is a marker of no child.
      rintro m (rfl | hm)
      . exact .inr fun j hj => hkey hj.inScope
      . exact .inl (.inr hm)
    rw [stepsAny, marked_append, has_marked_stepsAny truth key scope es (i + 1) _ hkey hnest hfresh',
      hchild, hnested, List.any_cons, Bool.or_assoc]

theorem has_marked_stepsAll (truth : String → Value → Bool) (scope : String) (es : List Expr)
    (i : Nat) (r : Record) (hfresh : FreshFrom scope i r) :
    (marked truth (stepsAll scope i es) r).has (failedKey scope) =
      (r.has (failedKey scope) || !es.all (holds (Comparison.decided (truth · r.nested)))) := by
  cases es with
  | nil => simp [stepsAll]
  | cons e es =>
    let child := childKey scope i
    let first := steps child child e ++ [.mark (.unmarked child) (failedKey scope)]
    have hsets := setsOnly_steps child child e
    have hchild := has_marked_steps truth child child e r (not_inScope_self _)
      (childKey_ne_nestField scope i) (fun m hm => hfresh i m (Nat.le_refl i) (.inr hm))
    rw [hfresh i child (Nat.le_refl i) (.inl rfl), Bool.false_or] at hchild
    have hfailed := has_marked_unless hsets (not_atOrInScope_failedKey scope i) hchild
    have hsets' : SetsOnly (fun m => AtOrInScope child m ∨ m = failedKey scope) first := by
      apply SetsOnly.append
      . exact hsets.mono fun m hm => .inl hm
      . exact setsOnly_singleton rfl (.inr rfl)
    have hnested : (marked truth first r).nested = r.nested := by
      apply nested_marked hsets'
      rintro (h | h)
      . exact not_inScope_nestField _ h.inScope
      . exact failedKey_ne_nestField scope h.symm
    have hfresh' : FreshFrom scope (i + 1) (marked truth first r) := by
      apply hfresh.marked hsets'
      rintro m (hm | rfl)
      . exact .inl hm
      . exact .inr fun j hj => not_atOrInScope_failedKey scope j hj
    have hsteps : stepsAll scope i (e :: es) = first ++ stepsAll scope (i + 1) es := by
      simp [stepsAll, first, child]
    rw [hsteps, marked_append, has_marked_stepsAll truth scope es (i + 1) _ hfresh', hfailed, hnested,
      List.all_cons, Bool.not_and, Bool.or_assoc]

end

end Expr

namespace Pipeline

theorem filterSteps_eq_stepsAny (key : String) (i : Nat) (filters : List Filter) :
    filterSteps key i filters = Expr.stepsAny key key i (filters.map (·.expr)) := by
  induction filters generalizing i with
  | nil => rfl
  | cons f filters ih =>
    rw [filterSteps, ih]
    rfl

theorem not_mem_tagMarker (tag : String) {c : Char} (hc : isMarkerPart c = false) :
    c ∉ (tagMarker tag).toList := by
  intro h
  simp only [tagMarker, String.toList_append, List.mem_append, String.toList_ofList,
    List.mem_map] at h
  rcases h with h | ⟨d, _, rfl⟩
  . have hstem : markerStem.toList.all isMarkerPart = true := by decide
    simp [List.all_eq_true.1 hstem c h] at hc
  . simp only [isMarkerPart, Bool.or_eq_false_iff] at hc
    split at hc
    . next hd => simp [hd] at hc
    . simp at hc

theorem space_not_mem_tagMarker (tag : String) : ' ' ∉ (tagMarker tag).toList :=
  not_mem_tagMarker tag (by decide)

theorem not_mem_of_atOrInScope {tag marker : String} (h : AtOrInScope (tagMarker tag) marker)
    {c : Char} (hc : isMarkerPart c = false) : c ∉ marker.toList := by
  rcases h with rfl | h
  . exact not_mem_tagMarker tag hc
  . exact h.not_mem hc (not_mem_tagMarker tag hc)

theorem tagMarker_ne_nestField (tag : String) : tagMarker tag ≠ Stage.nestField := by
  intro h
  have : '_' ∈ Stage.nestField.toList := by
    rw [← h]
    simp [tagMarker, markerStem]
  exact absurd this (by decide)

variable (truth : String → Value → Bool) (tag : String) (filters : List Filter) (r : Record)

def tagSteps : List Step := filterSteps (tagMarker tag) 0 filters

theorem setsOnly_tagSteps :
    SetsOnly (AtOrInScope (tagMarker tag)) (tagSteps tag filters) := by
  unfold tagSteps
  rw [filterSteps_eq_stepsAny]
  exact Expr.setsOnly_stepsAny (tagMarker tag) (tagMarker tag) 0 (filters.map (·.expr))

theorem components_eq (exclude : Bool) :
    components tag filters exclude =
      Step.nest.stage tag :: ((tagSteps tag filters).map (Step.stage tag) ++
        [(Step.select exclude (tagMarker tag)).stage tag, (Step.sweep (tagMarker tag)).stage tag,
          Step.lift.stage tag]) := by
  simp [components, selection, tagSteps]

theorem has_marked_tagSteps :
    (marked truth (tagSteps tag filters) (r.nestUnder Stage.nestField)).has (tagMarker tag) =
      filters.any fun f => f.expr.holds (Comparison.decided (truth · (.object r.entries))) := by
  have hnone : ∀ m, Stage.nestField ≠ m → (r.nestUnder Stage.nestField).has m = false :=
    fun m hm => Record.has_nestUnder _ _ hm
  unfold tagSteps
  rw [filterSteps_eq_stepsAny, Expr.has_marked_stepsAny]
  . rw [hnone _ (tagMarker_ne_nestField tag).symm, Bool.false_or, Record.nested_nestUnder,
      List.any_map]
    rfl
  . apply not_inScope_self
  . apply tagMarker_ne_nestField
  . apply Expr.freshFrom_zero
    intro m hm
    apply hnone
    rintro rfl
    exact not_inScope_nestField _ hm

theorem sweep_marked_tagSteps :
    (marked truth (tagSteps tag filters) (r.nestUnder Stage.nestField)).sweep (tagMarker tag) =
      r.nestUnder Stage.nestField := by
  unfold Record.sweep
  rw [filterKeys_marked (setsOnly_tagSteps tag filters)]
  . apply Record.filterKeys_nestUnder
    simp only [Bool.not_eq_true', ← Bool.not_eq_true, List.isPrefixOf_iff_prefix, tagMarker,
      String.toList_append]
    intro hprefix
    exact absurd ((List.prefix_append _ _).trans hprefix) (by decide)
  . intro key hkey
    rw [Bool.not_eq_false', List.isPrefixOf_iff_prefix]
    rcases hkey with rfl | ⟨rest, rfl, _⟩
    . exact List.prefix_refl _
    . simp [List.prefix_append]

/--
The stages for a list of filters keep a record if and only if one of the filters holds for it, or
none of them with `exclude`, and a record that is kept comes out unchanged.
-/
theorem runAll_components (exclude : Bool) :
    Stage.runAll truth (components tag filters exclude) r =
      if (filters.any fun f => f.expr.holds (Comparison.decided (truth · (.object r.entries)))) !=
          exclude then
        .kept r
      else
        .dropped := by
  have hspaces : SetsOnly (' ' ∉ ·.toList) (tagSteps tag filters) := by
    apply (setsOnly_tagSteps tag filters).mono
    rintro m (rfl | hm)
    . exact space_not_mem_tagMarker tag
    . exact hm.space_not_mem (space_not_mem_tagMarker tag)
  -- The selection sees the marker as the steps of all filters leave it.
  let inner := marked truth (tagSteps tag filters) (r.nestUnder Stage.nestField)
  have hselect : ((Step.select exclude (tagMarker tag)).stage tag).run truth inner =
      if inner.has (tagMarker tag) != exclude then .kept inner else .dropped :=
    run_select tag exclude inner (space_not_mem_tagMarker tag)
  rw [has_marked_tagSteps] at hselect
  rw [components_eq, Stage.runAll_cons_of_kept (run_nest tag r), runAll_marked hspaces]
  split
  . next h =>
    rw [if_pos h] at hselect
    rw [Stage.runAll_cons_of_kept hselect, Stage.runAll_cons_of_kept (run_sweep tag _ _),
      sweep_marked_tagSteps, Stage.runAll_cons_of_kept (run_lift tag _), Record.liftFrom_nestUnder,
      Stage.runAll_nil]
  . next h =>
    rw [if_neg h] at hselect
    exact Stage.runAll_cons_of_dropped hselect

end Pipeline

end LogSieve
