import LogSieve.Text.Scan

/-!
This module contains readers without the bound on what they leave. The types of rests depend on the
text, so equations between readers are stated about outcomes, which do not.
-/

namespace LogSieve.Scan

variable {α β σ : Type}

def outcome (x : Scan α) (cs : List Char) : Option (α × Bool × List Char) :=
  (x cs).map fun (a, rest) => (a, rest.took, rest.text)

@[simp]
theorem outcome_pure (a : α) (cs : List Char) :
    outcome (pure a : Scan α) cs = some (a, false, cs) := rfl

theorem outcome_bind (x : Scan α) (f : α → Scan β) (cs : List Char) :
    outcome (x >>= f) cs =
      (outcome x cs).bind fun (a, took, cs') =>
        (outcome (f a) cs').map fun (b, took', cs'') => (b, took || took', cs'') := by
  unfold outcome
  simp only [bind]
  cases x cs with
  | none => rfl
  | some r =>
    simp only [Option.map_some, Option.bind_some]
    cases f r.1 r.2.text <;> rfl

theorem exists_of_outcome_bind {x : Scan α} {f : α → Scan β} {cs cs'' : List Char} {b : β} {took : Bool}
    (h : outcome (x >>= f) cs = some (b, took, cs'')) :
    ∃ a took₁ cs' took₂, outcome x cs = some (a, took₁, cs') ∧
      outcome (f a) cs' = some (b, took₂, cs'') := by
  rw [outcome_bind, Option.bind_eq_some_iff] at h
  obtain ⟨⟨a, took₁, cs'⟩, hx, hf⟩ := h
  obtain ⟨⟨b', took₂, cs'''⟩, hf, heq⟩ := Option.map_eq_some_iff.1 hf
  simp only [Prod.mk.injEq] at heq
  rw [heq.1, heq.2.2] at hf
  exact ⟨a, took₁, cs', took₂, hx, hf⟩

theorem outcome_map (f : α → β) (x : Scan α) (cs : List Char) :
    outcome (f <$> x) cs = (outcome x cs).map fun (a, took, cs') => (f a, took, cs') := by
  have hmap : f <$> x = x >>= fun a => pure (f a) := rfl
  rw [hmap, outcome_bind]
  cases outcome x cs <;> simp

theorem seqLeft_pure (x : Scan α) (b : β) : (x <* (pure b : Scan β)) = x := by
  have hseq : (x <* (pure b : Scan β)) = x >>= fun a => (pure b : Scan β) >>= fun _ => pure a := rfl
  funext cs
  rw [hseq]
  simp only [bind, pure]
  cases x cs <;> simp [Rest.trans, Rest.whole]

@[simp]
theorem outcome_check (b : Bool) (cs : List Char) :
    outcome (check b) cs = if b then some ((), false, cs) else none := by
  cases b <;> rfl

theorem outcome_pure_bind (a : α) (f : α → Scan β) (cs : List Char) :
    outcome (pure a >>= f) cs = outcome (f a) cs := by
  rw [outcome_bind]
  simp

theorem outcome_check_bind (b : Bool) (f : Unit → Scan β) (cs : List Char) :
    outcome (check b >>= f) cs = if b then outcome (f ()) cs else none := by
  cases b with
  | false => rfl
  | true => exact outcome_pure_bind () f cs

@[simp]
theorem outcome_atEnd (cs : List Char) : outcome atEnd cs = some (cs.isEmpty, false, cs) := rfl

theorem outcome_next_bind (f : Char → Scan α) (c : Char) (cs : List Char) :
    outcome (next >>= f) (c :: cs) = (outcome (f c) cs).map fun (a, _, cs') => (a, true, cs') := by
  rw [outcome_bind]
  rfl

@[simp]
theorem outcome_failure (cs : List Char) : outcome (failure : Scan α) cs = none := rfl

theorem outcome_orElse (x y : Scan α) (cs : List Char) :
    outcome (x <|> y) cs = (outcome x cs).or (outcome y cs) := by
  simp only [outcome, HOrElse.hOrElse, OrElse.orElse, Alternative.orElse]
  cases x cs <;> rfl

theorem outcome_ahead_bind (f : List Char → Scan α) (cs : List Char) :
    outcome (ahead >>= f) cs = outcome (f cs) cs := by
  have hahead : outcome ahead cs = some (cs, false, cs) := rfl
  rw [outcome_bind, hahead]
  simp

theorem outcome_next_nil : outcome next [] = none := rfl

theorem outcome_satisfy_nil (p : Char → Bool) : outcome (satisfy p) [] = none := rfl

theorem outcome_satisfy_cons (p : Char → Bool) (c : Char) (cs : List Char) :
    outcome (satisfy p) (c :: cs) = if p c then some (c, true, cs) else none := by
  unfold outcome satisfy
  cases hc : p c <;> simp [hc, Rest.tail]

theorem outcome_takeWhile (p : Char → Bool) (cs : List Char) :
    outcome (takeWhile p) cs =
      some (cs.takeWhile p, !(cs.takeWhile p).isEmpty, cs.dropWhile p) := by
  have hgo : (takeWhile.go p cs).took = !(cs.takeWhile p).isEmpty ∧
      (takeWhile.go p cs).text = cs.dropWhile p := by
    induction cs with
    | nil => exact ⟨rfl, rfl⟩
    | cons c cs ih =>
      unfold takeWhile.go
      cases hc : p c <;> simp [hc, Rest.whole, Rest.tail, Rest.trans, ih]
  simp [outcome, takeWhile, hgo]

theorem eq_cons_of_outcome_char {c : Char} {u : Unit} {took : Bool} {cs cs' : List Char}
    (h : outcome (char c) cs = some (u, took, cs')) : cs = c :: cs' := by
  unfold char at h
  rw [outcome_bind] at h
  cases cs with
  | nil => simp [outcome_satisfy_nil] at h
  | cons d cs =>
    rw [outcome_satisfy_cons] at h
    by_cases hd : d = c
    . simp [hd] at h
      rw [hd, h.2]
    . simp [hd] at h

theorem outcome_accepts (x : Scan α) (cs : List Char) :
    outcome (accepts x) cs =
      some (((outcome x cs).map fun (_, took, cs') => (true, took, cs')).getD (false, false, cs)) := by
  unfold accepts
  rw [outcome_orElse, outcome_map]
  cases outcome x cs <;> rfl

theorem outcome_option? (x : Scan α) (cs : List Char) :
    outcome (option? x) cs =
      some (((outcome x cs).map fun (a, took, cs') => (some a, took, cs')).getD (none, false, cs)) := by
  unfold option?
  rw [outcome_orElse, outcome_map]
  cases outcome x cs <;> rfl

theorem length_lt_of_outcome {x : Scan α} {cs cs' : List Char} {a : α}
    (h : outcome x cs = some (a, true, cs')) : cs'.length < cs.length := by
  obtain ⟨⟨_, rest⟩, _, hrest⟩ := Option.map_eq_some_iff.1 h
  simp only [Prod.mk.injEq] at hrest
  rw [← hrest.2.2]
  exact rest.length_lt hrest.2.1

theorem outcome_loop (step : σ → Scan (σ ⊕ α)) (s : σ) (cs : List Char) :
    outcome (loop step s) cs =
      (outcome (step s) cs).bind fun
        | (.inr a, took, cs') => some (a, took, cs')
        | (.inl s', took, cs') =>
          if took then (outcome (loop step s') cs').map fun (a, _, cs'') => (a, true, cs'') else none := by
  conv => lhs; unfold outcome loop
  unfold outcome
  cases step s cs with
  | none => rfl
  | some r =>
    obtain ⟨r | r, rest⟩ := r
    . cases htook : rest.took
      . simp [htook]
      . simp only [htook, dite_true, Option.map_some, Option.bind_some, if_true]
        cases loop step r rest.text <;> simp [Rest.trans, htook]
    . rfl

theorem outcome_many_satisfy (p : Char → Bool) (cs : List Char) :
    outcome (many (satisfy p)) cs =
      some (cs.takeWhile p, !(cs.takeWhile p).isEmpty, cs.dropWhile p) := by
  let step (found : List Char) : Scan (List Char ⊕ List Char) :=
    (do return .inl ((← satisfy p) :: found)) <|> pure (.inr found.reverse)
  have hloop : ∀ found, outcome (loop step found) cs =
      some (found.reverse ++ cs.takeWhile p, !(cs.takeWhile p).isEmpty, cs.dropWhile p) := by
    induction cs with
    | nil =>
      intro found
      rw [outcome_loop, outcome_orElse, outcome_bind, outcome_satisfy_nil]
      simp
    | cons c cs ih =>
      intro found
      rw [outcome_loop, outcome_orElse, outcome_bind, outcome_satisfy_cons]
      cases hc : p c <;> simp [hc, ih]
  exact hloop []

theorem run_eq_outcome (x : Scan α) (cs : List Char) :
    run x cs = (outcome x cs).bind fun (a, _, cs') => if cs'.isEmpty then some a else none := by
  unfold run outcome
  cases x cs <;> rfl

theorem run_loop (step : σ → Scan (σ ⊕ α)) (s : σ) (cs : List Char) :
    (loop step s).run cs =
      (outcome (step s) cs).bind fun
        | (.inr a, _, cs') => if cs'.isEmpty then some a else none
        | (.inl s', took, cs') => if took then (loop step s').run cs' else none := by
  rw [run_eq_outcome, outcome_loop]
  cases outcome (step s) cs with
  | none => rfl
  | some r =>
    obtain ⟨s' | a, took, cs'⟩ := r
    . cases took with
      | false => rfl
      | true =>
        simp only [Option.bind_some, if_true, run_eq_outcome]
        cases outcome (loop step s') cs' <;> rfl
    . rfl

variable {step : σ → Scan (σ ⊕ α)} {s s' : σ} {cs cs' : List Char}

theorem run_loop_of_inl (h : outcome (step s) cs = some (.inl s', true, cs')) :
    (loop step s).run cs = (loop step s').run cs' := by
  rw [run_loop, h]
  rfl

theorem run_loop_of_inr {a : α} {took : Bool} (h : outcome (step s) cs = some (.inr a, took, [])) :
    (loop step s).run cs = some a := by
  rw [run_loop, h]
  rfl

end LogSieve.Scan
