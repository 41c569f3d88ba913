import LogSieve.Proofs.Marker
import LogSieve.Proofs.ScriptTruth
import LogSieve.Proofs.StageRun

/-!
This module contains the correctness of named filters: the stages set the markers of patterns, the
script binds each name to the truth of its filter, and its cleanup restores the record.
-/

namespace LogSieve

open Step Lua Script

namespace Expr

mutual

theorem setsOnly_scriptSteps (key : String) (e : Expr) :
    SetsOnly (AtOrInScope key) (e.scriptSteps key) := by
  match e with
  | .leaf c =>
    unfold scriptSteps Comparison.scriptSteps
    split
    . exact setsOnly_singleton rfl (.inl rfl)
    . exact setsOnly_nil _
  | .not e => exact setsOnly_scriptSteps key e
  | .all es => exact (setsOnly_scriptStepsList key 0 es).mono fun m hm => .inr hm.inScope
  | .any es => exact (setsOnly_scriptStepsList key 0 es).mono fun m hm => .inr hm.inScope

theorem setsOnly_scriptStepsList (key : String) (i : Nat) (es : List Expr) :
    SetsOnly (InScopeFrom key i) (scriptStepsList key i es) := by
  match es with
  | [] => exact setsOnly_nil _
  | e :: es =>
    apply SetsOnly.append
    . exact (setsOnly_scriptSteps (childKey key i) e).mono fun m hm => hm.inScopeFrom
    . exact (setsOnly_scriptStepsList key (i + 1) es).mono fun m hm => hm.of_succ

end

mutual

theorem eachLeaf_imp {p q : Comparison → String → Prop} (key : String) (e : Expr)
    (h : e.EachLeaf p key) (hpq : ∀ c ∈ e.leaves, ∀ m, AtOrInScope key m → p c m → q c m) :
    e.EachLeaf q key := by
  match e with
  | .leaf c => exact hpq c (by simp [leaves]) key (.inl rfl) h
  | .not e => exact eachLeaf_imp key e h hpq
  | .all es => exact eachLeafOf_imp key 0 es h fun c hc m hm => hpq c hc m (.inr hm.inScope)
  | .any es => exact eachLeafOf_imp key 0 es h fun c hc m hm => hpq c hc m (.inr hm.inScope)

theorem eachLeafOf_imp {p q : Comparison → String → Prop} (key : String) (i : Nat) (es : List Expr)
    (h : EachLeafOf p key i es)
    (hpq : ∀ c ∈ leavesList es, ∀ m, InScopeFrom key i m → p c m → q c m) :
    EachLeafOf q key i es := by
  match es with
  | [] => trivial
  | e :: es =>
    refine ⟨eachLeaf_imp (childKey key i) e h.1 ?_, eachLeafOf_imp key (i + 1) es h.2 ?_⟩
    . intro c hc m hm
      exact hpq c (by simp [leavesList, hc]) m hm.inScopeFrom
    . intro c hc m hm
      exact hpq c (by simp [leavesList, hc]) m hm.of_succ

end

/--
Whether the marker of a comparison with a pattern tells if the pattern occurs in a record.
-/
def MarkerTells (truth : String → Value → Bool) (record : Value) (r : Record) (c : Comparison)
    (key : String) : Prop :=
  c.operator.isPattern = true → r.get? key =
    if truth (Condition.valueMatches c.target c.literal).text record then some (.text "1") else none

mutual

theorem scriptSteps_eq_nil_iff (key : String) (e : Expr) :
    e.scriptSteps key = [] ↔ ∀ c ∈ e.leaves, c.operator.isPattern = false := by
  match e with
  | .leaf c =>
    simp only [scriptSteps, Comparison.scriptSteps, leaves, List.mem_singleton, forall_eq]
    cases c.operator.isPattern <;> simp
  | .not e => exact scriptSteps_eq_nil_iff key e
  | .all es => exact scriptStepsList_eq_nil_iff key 0 es
  | .any es => exact scriptStepsList_eq_nil_iff key 0 es

theorem scriptStepsList_eq_nil_iff (key : String) (i : Nat) (es : List Expr) :
    scriptStepsList key i es = [] ↔ ∀ c ∈ leavesList es, c.operator.isPattern = false := by
  match es with
  | [] => simp [scriptStepsList, leavesList]
  | e :: es =>
    simp only [scriptStepsList, leavesList, List.append_eq_nil_iff, List.mem_append, or_imp,
      forall_and]
    rw [scriptSteps_eq_nil_iff (childKey key i) e, scriptStepsList_eq_nil_iff key (i + 1) es]

end

variable (truth : String → Value → Bool)

mutual

theorem eachLeaf_marked (key : String) (e : Expr) (r : Record)
    (hfresh : ∀ m, AtOrInScope key m → r.get? m = none) :
    e.EachLeaf (MarkerTells truth r.nested (marked truth (e.scriptSteps key) r)) key := by
  match e with
  | .leaf c =>
    intro hpattern
    have hsteps : (Expr.leaf c).scriptSteps key = [.mark (.valueMatches c.target c.literal) key] := by
      simp [scriptSteps, Comparison.scriptSteps, hpattern]
    have hholds : (Condition.valueMatches c.target c.literal).holds truth r =
        truth (Condition.valueMatches c.target c.literal).text r.nested := rfl
    rw [hsteps, ← hholds, marked_cons, marked_nil, applyMark]
    split
    . exact OrderedMap.get?_insert_self _ _ _
    . exact hfresh key (.inl rfl)
  | .not e => exact eachLeaf_marked key e r hfresh
  | .all es =>
    apply eachLeafOf_marked key 0 es r
    intro m hm
    exact hfresh m (.inr hm.inScope)
  | .any es =>
    apply eachLeafOf_marked key 0 es r
    intro m hm
    exact hfresh m (.inr hm.inScope)

theorem eachLeafOf_marked (key : String) (i : Nat) (es : List Expr) (r : Record)
    (hfresh : ∀ m, InScopeFrom key i m → r.get? m = none) :
    EachLeafOf (MarkerTells truth r.nested (marked truth (scriptStepsList key i es) r)) key i es := by
  match es with
  | [] => trivial
  | e :: es =>
    have hsets := setsOnly_scriptSteps (childKey key i) e
    have hsets' := setsOnly_scriptStepsList key (i + 1) es
    let r' := marked truth (e.scriptSteps (childKey key i)) r
    have hnest : ¬AtOrInScope (childKey key i) Stage.nestField := by
      intro h
      exact not_inScope_nestField key h.inScope
    have hnested : r'.nested = r.nested := nested_marked hsets r hnest
    have hfirst : e.EachLeaf (MarkerTells truth r.nested r') (childKey key i) := by
      apply eachLeaf_marked (childKey key i) e r
      intro m hm
      exact hfresh m hm.inScopeFrom
    have hrest : EachLeafOf (MarkerTells truth r'.nested
        (marked truth (scriptStepsList key (i + 1) es) r')) key (i + 1) es := by
      apply eachLeafOf_marked key (i + 1) es r'
      intro m hm
      rw [get?_marked hsets r fun h => not_inScopeFrom_succ h hm]
      exact hfresh m hm.of_succ
    rw [scriptStepsList, marked_append]
    refine ⟨?_, ?_⟩
    . -- The later steps do not change the markers of the first expression.
      apply eachLeaf_imp (childKey key i) e hfirst
      intro c _ m hm htells hpattern
      rw [get?_marked hsets' r' (not_inScopeFrom_succ hm)]
      exact htells hpattern
    . rw [← hnested]
      exact hrest

end

end Expr

theorem Value.at?_congr {r r' : Record} {path : List String} (hne : path ≠ [])
    (h : ∀ s ∈ path.head?, r'.get? s = r.get? s) :
    (Value.object r'.entries).at? path = (Value.object r.entries).at? path := by
  match path with
  | s :: path =>
    have hfirst : valueAt? s r'.entries = valueAt? s r.entries := h s rfl
    simp only [Value.at?, Value.field?, hfirst]

def startsWithStem (key : String) : Bool := markerStem.toList.isPrefixOf key.toList

def isMarker (key : String) : Bool := startsWithStem key && decide (markerStem.length < key.length)

def Record.cleaned (r : Record) : Record := r.filterKeys fun key => !isMarker key

namespace Pipeline

def namedScope : String := "__match"

theorem namedKey_eq_childKey (i : Nat) : namedKey i = childKey namedScope i := by
  have hstem : markerStem = namedScope ++ "_" := rfl
  rw [namedKey, hstem, childKey]

theorem namedSteps_eq_scriptStepsList (i : Nat) (fs : List (String × Filter)) :
    namedSteps i fs = Expr.scriptStepsList namedScope i (fs.map (·.2.expr)) := by
  induction fs generalizing i with
  | nil => rfl
  | cons f fs ih =>
    rw [namedSteps, ih, namedKey_eq_childKey]
    rfl

theorem isMarker_of_inScopeFrom {m : String} (h : InScopeFrom namedScope 0 m) : isMarker m = true := by
  obtain ⟨j, _, hm⟩ := h
  have hmarker : ∃ rest : String, m = markerStem ++ (Nat.repr j ++ rest) := by
    rcases hm with rfl | ⟨rest, rfl, _⟩
    . exact ⟨"", by rw [← namedKey_eq_childKey, namedKey, String.append_empty]⟩
    . exact ⟨"_" ++ rest, by
        rw [← namedKey_eq_childKey, namedKey]
        simp only [String.append_assoc]⟩
  obtain ⟨rest, rfl⟩ := hmarker
  have hpos : 0 < (Nat.repr j).length := by
    rw [← String.length_toList, Nat.toList_repr]
    exact Nat.length_toDigits_pos
  simp only [isMarker, startsWithStem, String.toList_append, Bool.and_eq_true,
    List.isPrefixOf_iff_prefix, decide_eq_true_eq, String.length_append]
  exact ⟨List.prefix_append _ _, by omega⟩

theorem get?_nestUnder_of_inScopeFrom (r : Record) {m : String} (h : InScopeFrom namedScope 0 m) :
    (r.nestUnder Stage.nestField).get? m = none := by
  apply Record.get?_nestUnder_of_ne
  rintro rfl
  exact not_inScope_nestField _ h.inScope

theorem startsWithStem_of_isMarker {m : String} (h : isMarker m = true) : startsWithStem m = true := by
  simp only [isMarker, Bool.and_eq_true] at h
  exact h.1

section

variable (truth : String → Value → Bool) {steps : List Step} {r : Record}

def lifted (steps : List Step) (r : Record) : Record :=
  (marked truth steps (r.nestUnder Stage.nestField)).liftFrom Stage.nestField

theorem lifted_eq_insertAll (hsteps : SetsOnly (InScopeFrom namedScope 0) steps) :
    lifted truth steps r = ((marked truth steps (r.nestUnder Stage.nestField)).erase
      Stage.nestField).insertAll r.entries := by
  have hnest : (marked truth steps (r.nestUnder Stage.nestField)).get? Stage.nestField =
      some (.object r.entries) := by
    rw [get?_marked hsteps _ fun h => not_inScope_nestField _ h.inScope]
    exact OrderedMap.get?_insert_self _ _ _
  unfold lifted Record.liftFrom
  rw [hnest]

theorem cleaned_lifted (hsteps : SetsOnly (InScopeFrom namedScope 0) steps)
    (hrecord : ∀ key ∈ r.keys, startsWithStem key = false) :
    (lifted truth steps r).cleaned = r := by
  have hkeys : ∀ e ∈ r.entries, (!isMarker e.1) = true := by
    intro e he
    have hstem := hrecord e.1 (List.mem_map_of_mem he)
    simp [isMarker, hstem]
  -- What the stages leave beside the nested record are its markers.
  have hmarkers : ((marked truth steps (r.nestUnder Stage.nestField)).erase
      Stage.nestField).filterKeys (fun key => !isMarker key) = .empty := by
    rw [OrderedMap.filterKeys_erase, filterKeys_marked hsteps, Record.filterKeys_nestUnder,
      Record.erase_nestUnder]
    . decide
    . intro key hkey
      rw [isMarker_of_inScopeFrom hkey]
      rfl
  rw [lifted_eq_insertAll truth hsteps, Record.cleaned, OrderedMap.filterKeys_insertAll _ hkeys,
    hmarkers, OrderedMap.insertAll_empty_entries]

theorem get?_lifted_of_inScopeFrom (hsteps : SetsOnly (InScopeFrom namedScope 0) steps)
    (hrecord : ∀ key ∈ r.keys, startsWithStem key = false) {m : String}
    (hm : InScopeFrom namedScope 0 m) :
    (lifted truth steps r).get? m = (marked truth steps (r.nestUnder Stage.nestField)).get? m := by
  have hstem : startsWithStem m = true := startsWithStem_of_isMarker (isMarker_of_inScopeFrom hm)
  rw [lifted_eq_insertAll truth hsteps, OrderedMap.get?_insertAll_of_ne, OrderedMap.get?_erase_of_ne]
  . rintro rfl
    exact not_inScope_nestField _ hm.inScope
  . rintro e he rfl
    have := hrecord e.1 (List.mem_map_of_mem he)
    rw [hstem] at this
    simp at this

theorem get?_lifted_of_startsWithStem (hsteps : SetsOnly (InScopeFrom namedScope 0) steps)
    (hrecord : ∀ key ∈ r.keys, startsWithStem key = false) {key : String}
    (hkey : startsWithStem key = false) : (lifted truth steps r).get? key = r.get? key := by
  have hcleaned : ((lifted truth steps r).cleaned).get? key = (lifted truth steps r).get? key := by
    apply OrderedMap.get?_filterKeys
    simp [isMarker, hkey]
  rw [← hcleaned, cleaned_lifted truth hsteps hrecord]

end

def bindings (i : Nat) : List (String × Filter) → List (String × String)
  | [] => []
  | (name, f) :: fs => (name, f.expr.script (namedKey i)) :: bindings (i + 1) fs

def bindingLine (binding : String × String) : String :=
  "local " ++ binding.1 ++ " = " ++ binding.2 ++ "\n"

theorem localLines_eq_join (i : Nat) (fs : List (String × Filter)) :
    localLines i fs = String.join ((bindings i fs).map bindingLine) := by
  induction fs generalizing i with
  | nil => rfl
  | cons f fs ih =>
    rw [localLines, ih, bindings, List.map_cons, String.join_cons]
    rfl

section

variable (truth : String → Value → Bool) (closures : Exp → Exp → Val → Bool)

theorem map_value?_bindings {r r' : Record} (i : Nat) (fs : List (String × Filter))
    (hvalues : ∀ f ∈ fs, ∀ c ∈ f.2.expr.leaves, (Value.object r'.entries).at? c.target.segments =
      (Value.object r.entries).at? c.target.segments)
    (hmarkers : Expr.EachLeafOf (Expr.MarkerTells truth (.object r.entries) r') namedScope i
      (fs.map (·.2.expr))) :
    (bindings i fs).map (fun b => (b.1, value? closures r' b.2)) =
      fs.map fun f =>
        (f.1, some (.bool (f.2.expr.holds (Comparison.told truth closures (.object r.entries))))) := by
  induction fs generalizing i with
  | nil => rfl
  | cons f fs ih =>
    have hleaves : f.2.expr.EachLeaf (fun c key => (c.tree key).eval closures r' =
        some (.bool (c.told truth closures (.object r.entries)))) (namedKey i) := by
      rw [namedKey_eq_childKey]
      apply Expr.eachLeaf_imp _ _ hmarkers.1
      intro c hc m _ htells
      exact Comparison.eval_tree (hvalues f (by simp) c hc) htells
    have hvalue : value? closures r' (f.2.expr.script (namedKey i)) =
        some (.bool (f.2.expr.holds (Comparison.told truth closures (.object r.entries)))) := by
      unfold value?
      rw [(Expr.isScript_script (namedKey i) f.2.expr).read?]
      exact Expr.eval_tree (namedKey i) f.2.expr hleaves
    rw [bindings, List.map_cons, List.map_cons, hvalue, ih (i + 1) _ hmarkers.2]
    intro g hg
    exact hvalues g (List.mem_cons_of_mem f hg)

theorem named_eq_of_steps {tag : String} {filters : OrderedMap Filter} {steps : List Step}
    (h : namedSteps 0 filters.entries = steps) :
    named tag filters =
      if steps.isEmpty then
        ([], localLines 0 filters.entries)
      else
        (Step.nest.stage tag :: (steps.map (Step.stage tag) ++ [Step.lift.stage tag]),
          localLines 0 filters.entries ++ cleanup) := by
  simp only [named, h]
  split
  . rfl
  . simp

theorem runAll_lifted {steps : List Step} (hsteps : SetsOnly (InScopeFrom namedScope 0) steps)
    (tag : String) (r : Record) :
    Stage.runAll truth (Step.nest.stage tag :: (steps.map (Step.stage tag) ++ [Step.lift.stage tag]))
      r = .kept (lifted truth steps r) := by
  have hspaces : SetsOnly (' ' ∉ ·.toList) steps := by
    apply hsteps.mono
    intro m hm
    exact hm.inScope.space_not_mem (by decide)
  rw [Stage.runAll_cons_of_kept (run_nest tag r), runAll_marked hspaces,
    Stage.runAll_cons_of_kept (run_lift tag _), Stage.runAll_nil]
  rfl

theorem namedSteps_eq_nil_iff (fs : List (String × Filter)) :
    namedSteps 0 fs = [] ↔ ∀ f ∈ fs, ∀ c ∈ f.2.expr.leaves, c.operator.isPattern = false := by
  have hleaves : ∀ c, c ∈ Expr.leavesList (fs.map (·.2.expr)) ↔ ∃ f ∈ fs, c ∈ f.2.expr.leaves := by
    intro c
    induction fs with
    | nil => simp [Expr.leavesList]
    | cons f fs ih => simp [Expr.leavesList, ih]
  rw [namedSteps_eq_scriptStepsList, Expr.scriptStepsList_eq_nil_iff]
  simp only [hleaves]
  constructor
  . intro h f hf c hc
    exact h c ⟨f, hf, hc⟩
  . rintro h c ⟨f, hf, hc⟩
    exact h f hf c hc

theorem setsOnly_namedSteps (fs : List (String × Filter)) :
    SetsOnly (InScopeFrom namedScope 0) (namedSteps 0 fs) := by
  rw [namedSteps_eq_scriptStepsList]
  exact Expr.setsOnly_scriptStepsList namedScope 0 (fs.map (·.2.expr))

theorem map_value?_of_get? {r r' : Record} {fs : List (String × Filter)}
    (htargets : ∀ f ∈ fs, ∀ c ∈ f.2.expr.leaves, ∀ s ∈ c.target.segments.head?,
      startsWithStem s = false)
    (hmarkers : ∀ m, InScopeFrom namedScope 0 m →
      r'.get? m = (marked truth (namedSteps 0 fs) (r.nestUnder Stage.nestField)).get? m)
    (hfields : ∀ key, startsWithStem key = false → r'.get? key = r.get? key) :
    (bindings 0 fs).map (fun b => (b.1, value? closures r' b.2)) =
      fs.map fun f =>
        (f.1, some (.bool (f.2.expr.holds (Comparison.told truth closures (.object r.entries))))) := by
  apply map_value?_bindings
  . intro f hf c hc
    apply Value.at?_congr c.target.segments_ne_nil
    intro s hs
    exact hfields s (htargets f hf c hc s hs)
  . have htells := Expr.eachLeafOf_marked truth namedScope 0 (fs.map (·.2.expr))
      (r.nestUnder Stage.nestField) (fun m hm => get?_nestUnder_of_inScopeFrom r hm)
    rw [Record.nested_nestUnder, ← namedSteps_eq_scriptStepsList] at htells
    apply Expr.eachLeafOf_imp _ _ _ htells
    intro c _ m hm hc hpattern
    rw [hmarkers m hm]
    exact hc hpattern

/--
For a record without fields that are named like markers, and filters that do not ask for such
fields, the stages keep the record, and each text that the script binds to a name is an expression
whose value is the truth of the filter. There are stages if and only if there are patterns, and only
then the script ends with a cleanup, after which the record is what it was.
-/
theorem runAll_named (tag : String) (filters : OrderedMap Filter) (r : Record)
    (hrecord : ∀ key ∈ r.keys, startsWithStem key = false)
    (htargets : ∀ f ∈ filters.entries, ∀ c ∈ f.2.expr.leaves, ∀ s ∈ c.target.segments.head?,
      startsWithStem s = false) :
    ∃ (r' : Record) (texts : List (String × String)),
      Stage.runAll truth (named tag filters).1 r = .kept r' ∧
      (named tag filters).2 = String.join (texts.map bindingLine) ++
        (if (named tag filters).1 = [] then "" else cleanup) ∧
      texts.map (fun b => (b.1, value? closures r' b.2)) =
        (filters.entries.map fun f =>
          (f.1, some (.bool (f.2.expr.holds (Comparison.told truth closures (.object r.entries)))))) ∧
      (if (named tag filters).1 = [] then r' else r'.cleaned) = r ∧
      ((named tag filters).1 = [] ↔
        ∀ f ∈ filters.entries, ∀ c ∈ f.2.expr.leaves, c.operator.isPattern = false) := by
  have hsteps := setsOnly_namedSteps filters.entries
  rw [← namedSteps_eq_nil_iff, named_eq_of_steps rfl]
  cases hnil : (namedSteps 0 filters.entries).isEmpty with
  | true =>
    -- Without patterns nothing is run, and no comparison asks for its marker.
    rw [List.isEmpty_iff] at hnil
    refine ⟨r, bindings 0 filters.entries, rfl, ?_, ?_, rfl, by simp [hnil]⟩
    . simp [localLines_eq_join]
    . apply map_value?_of_get? truth closures htargets
      . intro m hm
        have hm' : m ∉ r.keys := by
          intro hmem
          have := startsWithStem_of_isMarker (isMarker_of_inScopeFrom hm)
          simp [hrecord m hmem] at this
        rw [hnil, marked_nil, get?_nestUnder_of_inScopeFrom r hm, OrderedMap.get?_eq_none hm']
      . intro key _
        rfl
  | false =>
    have hne : namedSteps 0 filters.entries ≠ [] := by
      intro h
      simp [h] at hnil
    refine ⟨lifted truth (namedSteps 0 filters.entries) r, bindings 0 filters.entries,
      runAll_lifted truth hsteps tag r, ?_, ?_, cleaned_lifted truth hsteps hrecord, by simp [hne]⟩
    . simp [localLines_eq_join]
    . apply map_value?_of_get? truth closures htargets
      . intro m hm
        exact get?_lifted_of_inScopeFrom truth hsteps hrecord hm
      . intro key hkey
        exact get?_lifted_of_startsWithStem truth hsteps hrecord hkey

end

theorem runAll_named_negated_pattern :
    let message : Comparison := ⟨⟨["message"], by decide, by decide⟩, .like, "error"⟩
    let user : Comparison := ⟨⟨["user", "id"], by decide, by decide⟩, .differs, "0"⟩
    let filters : OrderedMap Filter :=
      OrderedMap.empty.insert "seen" ⟨.all [.not (.leaf message), .leaf user]⟩
    let r : Record :=
      (OrderedMap.empty.insert "message" (.text "no error")).insert "record" (.bool true)
    let truth : String → Value → Bool := fun _ _ => false
    let closures : Exp → Exp → Val → Bool := fun _ _ _ => false
    (∀ key ∈ r.keys, startsWithStem key = false) ∧
    (∀ f ∈ filters.entries, ∀ c ∈ f.2.expr.leaves, ∀ s ∈ c.target.segments.head?,
      startsWithStem s = false) ∧
    ∃ (r' : Record) (texts : List (String × String)),
      Stage.runAll truth (named "app" filters).1 r = .kept r' ∧ r'.cleaned = r ∧
      texts.map (fun b => (b.1, value? closures r' b.2)) = [("seen", some (.bool true))] := by
  intro message user filters r truth closures
  have hrecord : ∀ key ∈ r.keys, startsWithStem key = false := by decide
  have htargets : ∀ f ∈ filters.entries, ∀ c ∈ f.2.expr.leaves, ∀ s ∈ c.target.segments.head?,
      startsWithStem s = false := by
    decide
  obtain ⟨r', texts, hrun, _, hvalues, hcleaned, _⟩ :=
    runAll_named truth closures "app" filters r hrecord htargets
  refine ⟨hrecord, htargets, r', texts, hrun, ?_, hvalues⟩
  rwa [if_neg (by decide)] at hcleaned

end Pipeline

end LogSieve
