import LogSieve.Proofs.Selection

/-!
This module contains what the steps for an expression can be. A step either decides a comparison of
the expression or tests that a marker is missing, and every comparison is decided by one of them.
-/

namespace LogSieve

namespace Comparison

def condition? (c : Comparison) : Option Condition :=
  match c.operator with
  | .equal | .differs => some (.valueMatches c.target ("^" ++ escapeLiteral c.literal ++ "$"))
  | .has =>
    if c.literal = "*" then
      some (.keyExists c.target)
    else
      some (.valueMatches c.target ("(?i)" ++ escapeLiteral c.literal))
  | .like | .unlike => some (.valueMatches c.target c.literal)
  | .order _ => none

def deciding (c : Comparison) (marker : String) : Step :=
  match c.condition? with
  | some condition => .mark condition marker
  | none => .test c marker

theorem condition?_eq_none_iff {c : Comparison} :
    c.condition? = none ↔ ∃ relation, c.operator = .order relation := by
  unfold condition?
  split
  . next h => simp [h]
  . next h => simp [h]
  . next h => split <;> simp [h]
  . next h => simp [h]
  . next h => simp [h]
  . next relation h => simp [h]

theorem eq_of_condition?_eq_some {c : Comparison} {condition : Condition}
    (h : c.condition? = some condition) :
    (∃ pattern, condition = .valueMatches c.target pattern) ∨ condition = .keyExists c.target := by
  unfold condition? at h
  split at h
  . exact .inl ⟨_, (Option.some.inj h).symm⟩
  . exact .inl ⟨_, (Option.some.inj h).symm⟩
  . split at h
    . exact .inr (Option.some.inj h).symm
    . exact .inl ⟨_, (Option.some.inj h).symm⟩
  . exact .inl ⟨_, (Option.some.inj h).symm⟩
  . exact .inl ⟨_, (Option.some.inj h).symm⟩
  . simp at h

theorem steps_eq (c : Comparison) (key scope : String) :
    c.steps key scope =
      if c.operator.isNegative then
        [c.deciding (childKey scope 0), .mark (.unmarked (childKey scope 0)) key]
      else
        [c.deciding key] := by
  unfold steps deciding condition?
  split
  . next h => simp [h, Operator.isNegative, positive]
  . next h => simp [h, Operator.isNegative, negative]
  . next h => split <;> simp [h, Operator.isNegative, positive]
  . next h => simp [h, Operator.isNegative, positive]
  . next h => simp [h, Operator.isNegative, negative]
  . next relation h => simp [h, Operator.isNegative]

theorem scriptSteps_eq {c : Comparison} {condition : Condition} (h : c.condition? = some condition)
    (key : String) :
    c.scriptSteps key = if c.operator.isPattern then [.mark condition key] else [] := by
  unfold scriptSteps
  split
  . next hpattern =>
    cases hop : c.operator <;> simp_all [condition?, Operator.isPattern]
  . rfl

end Comparison

/--
The steps that decide one of the comparisons or test that a marker is missing, where all markers
satisfy `p`.
-/
inductive Step.Decides (cs : List Comparison) (p : String → Prop) : Step → Prop where
  | comparison {c : Comparison} {marker : String} :
      c ∈ cs → p marker → Decides cs p (c.deciding marker)
  | missing {inner marker : String} :
      p inner → p marker → Decides cs p (.mark (.unmarked inner) marker)

theorem Step.Decides.mono {cs ds : List Comparison} {p q : String → Prop} {step : Step}
    (h : step.Decides cs p) (hcs : ∀ c ∈ cs, c ∈ ds) (hpq : ∀ marker, p marker → q marker) :
    step.Decides ds q := by
  cases h with
  | comparison hc hmarker => exact .comparison (hcs _ hc) (hpq _ hmarker)
  | missing hinner hmarker => exact .missing (hpq _ hinner) (hpq _ hmarker)

theorem Comparison.decides_of_mem_steps (c : Comparison) {key scope : String} {step : Step}
    (h : step ∈ c.steps key scope) : step.Decides [c] (fun m => m = key ∨ InScope scope m) := by
  rw [steps_eq] at h
  split at h
  . simp only [List.mem_cons, List.not_mem_nil, or_false] at h
    rcases h with rfl | rfl
    . exact .comparison (by simp) (.inr (inScope_childKey scope 0))
    . exact .missing (.inr (inScope_childKey scope 0)) (.inl rfl)
  . rw [List.mem_singleton] at h
    rw [h]
    exact .comparison (by simp) (.inl rfl)

namespace Expr

mutual

theorem decides_of_mem_steps (key scope : String) (e : Expr) {step : Step}
    (h : step ∈ e.steps key scope) :
    step.Decides e.leaves (fun m => m = key ∨ InScope scope m) := by
  cases e with
  | leaf c => exact c.decides_of_mem_steps h
  | not e =>
    rw [steps, List.mem_append, List.mem_singleton] at h
    cases h with
    | inl h =>
      apply (decides_of_mem_steps _ _ e h).mono (fun c hc => hc)
      intro m hm
      exact .inr (AtOrInScope.inScope hm)
    | inr h =>
      rw [h]
      exact .missing (.inr (inScope_childKey scope 0)) (.inl rfl)
  | any es => exact decides_of_mem_stepsAny key scope 0 es h
  | all es =>
    rw [steps, List.mem_append, List.mem_singleton] at h
    cases h with
    | inl h =>
      apply (decides_of_mem_stepsAll scope 0 es h).mono (fun c hc => hc)
      intro m hm
      exact .inr hm
    | inr h =>
      rw [h]
      exact .missing (.inr (inScope_failedKey scope)) (.inl rfl)

theorem decides_of_mem_stepsAny (key scope : String) (i : Nat) (es : List Expr) {step : Step}
    (h : step ∈ stepsAny key scope i es) :
    step.Decides (leavesList es) (fun m => m = key ∨ InScope scope m) := by
  cases es with
  | nil => simp [stepsAny] at h
  | cons e es =>
    rw [stepsAny, List.mem_append] at h
    cases h with
    | inl h =>
      apply (decides_of_mem_steps key (childKey scope i) e h).mono
      . intro c hc
        rw [leavesList]
        exact List.mem_append_left _ hc
      . intro m hm
        exact hm.imp_right InScope.of_childKey
    | inr h =>
      apply (decides_of_mem_stepsAny key scope (i + 1) es h).mono
      . intro c hc
        rw [leavesList]
        exact List.mem_append_right _ hc
      . intro m hm
        exact hm

theorem decides_of_mem_stepsAll (scope : String) (i : Nat) (es : List Expr) {step : Step}
    (h : step ∈ stepsAll scope i es) : step.Decides (leavesList es) (InScope scope) := by
  cases es with
  | nil => simp [stepsAll] at h
  | cons e es =>
    simp only [stepsAll, List.mem_append, List.mem_cons] at h
    rcases h with h | rfl | h
    . apply (decides_of_mem_steps _ _ e h).mono
      . intro c hc
        rw [leavesList]
        exact List.mem_append_left _ hc
      . intro m hm
        exact AtOrInScope.inScope hm
    . exact .missing (inScope_childKey scope i) (inScope_failedKey scope)
    . apply (decides_of_mem_stepsAll scope (i + 1) es h).mono
      . intro c hc
        rw [leavesList]
        exact List.mem_append_right _ hc
      . intro m hm
        exact hm

end

mutual

theorem exists_deciding_mem_steps (key scope : String) (e : Expr) {c : Comparison}
    (h : c ∈ e.leaves) : ∃ marker, c.deciding marker ∈ e.steps key scope := by
  cases e with
  | leaf d =>
    rw [leaves, List.mem_singleton] at h
    rw [h, steps, Comparison.steps_eq]
    split
    . exact ⟨childKey scope 0, by simp⟩
    . exact ⟨key, by simp⟩
  | not e =>
    obtain ⟨marker, hmarker⟩ := exists_deciding_mem_steps _ _ e h
    exact ⟨marker, List.mem_append_left _ hmarker⟩
  | any es => exact exists_deciding_mem_stepsAny key scope 0 es h
  | all es =>
    obtain ⟨marker, hmarker⟩ := exists_deciding_mem_stepsAll scope 0 es h
    exact ⟨marker, List.mem_append_left _ hmarker⟩

theorem exists_deciding_mem_stepsAny (key scope : String) (i : Nat) (es : List Expr) {c : Comparison}
    (h : c ∈ leavesList es) : ∃ marker, c.deciding marker ∈ stepsAny key scope i es := by
  cases es with
  | nil => simp [leavesList] at h
  | cons e es =>
    rw [leavesList, List.mem_append] at h
    cases h with
    | inl h =>
      obtain ⟨marker, hmarker⟩ := exists_deciding_mem_steps key (childKey scope i) e h
      exact ⟨marker, List.mem_append_left _ hmarker⟩
    | inr h =>
      obtain ⟨marker, hmarker⟩ := exists_deciding_mem_stepsAny key scope (i + 1) es h
      exact ⟨marker, List.mem_append_right _ hmarker⟩

theorem exists_deciding_mem_stepsAll (scope : String) (i : Nat) (es : List Expr) {c : Comparison}
    (h : c ∈ leavesList es) : ∃ marker, c.deciding marker ∈ stepsAll scope i es := by
  cases es with
  | nil => simp [leavesList] at h
  | cons e es =>
    rw [leavesList, List.mem_append] at h
    cases h with
    | inl h =>
      obtain ⟨marker, hmarker⟩ :=
        exists_deciding_mem_steps (childKey scope i) (childKey scope i) e h
      exact ⟨marker, List.mem_append_left _ hmarker⟩
    | inr h =>
      obtain ⟨marker, hmarker⟩ := exists_deciding_mem_stepsAll scope (i + 1) es h
      exact ⟨marker, List.mem_append_right _ (List.mem_cons_of_mem _ hmarker)⟩

end

theorem mem_leavesList {es : List Expr} {c : Comparison} :
    c ∈ leavesList es ↔ ∃ e ∈ es, c ∈ e.leaves := by
  induction es with
  | nil => simp [leavesList]
  | cons e es ih => simp [leavesList, ih]

end Expr

namespace Pipeline

variable (tag : String) (filters : List Filter)

theorem decides_of_mem_tagSteps {step : Step} (h : step ∈ tagSteps tag filters) :
    step.Decides (Expr.leavesList (filters.map (·.expr))) (AtOrInScope (tagMarker tag)) := by
  unfold tagSteps at h
  rw [filterSteps_eq_stepsAny] at h
  exact Expr.decides_of_mem_stepsAny (tagMarker tag) (tagMarker tag) 0 _ h

theorem exists_deciding_mem_tagSteps {f : Filter} {c : Comparison} (hf : f ∈ filters)
    (hc : c ∈ f.expr.leaves) : ∃ marker, c.deciding marker ∈ tagSteps tag filters := by
  unfold tagSteps
  rw [filterSteps_eq_stepsAny]
  apply Expr.exists_deciding_mem_stepsAny
  rw [Expr.mem_leavesList]
  exact ⟨f.expr, List.mem_map_of_mem hf, hc⟩

end Pipeline

end LogSieve
