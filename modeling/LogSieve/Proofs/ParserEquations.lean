import LogSieve.Expr.Parser

/-!
This module contains equations for the readers of filters, in which a result is a value and the
tokens behind it, without a bound on their number.
-/

namespace LogSieve

namespace Reading

variable {α β : Type} {n : Nat}

def plain (x : Except ParseError (Reading α n)) : Except ParseError (α × List Token) :=
  match x with
  | .error e => .error e
  | .ok r => .ok (r.value, r.rest)

@[simp]
theorem plain_error (e : ParseError) : plain (.error e : Except ParseError (Reading α n)) = .error e :=
  rfl

@[simp]
theorem plain_ok (r : Reading α n) : plain (.ok r) = .ok (r.value, r.rest) := rfl

theorem length_lt_of_plain {x : Except ParseError (Reading α n)} {a : α} {rest : List Token}
    (h : plain x = .ok (a, rest)) : rest.length < n := by
  cases x with
  | error e => simp at h
  | ok r =>
    simp only [plain_ok, Except.ok.injEq, Prod.mk.injEq] at h
    rw [← h.2]
    exact r.rest_length_lt

def andThen (x : Except ParseError (α × List Token))
    (f : α → List Token → Except ParseError β) : Except ParseError β :=
  match x with
  | .error e => .error e
  | .ok (a, rest) => f a rest

@[simp]
theorem andThen_error (e : ParseError) (f : α → List Token → Except ParseError β) :
    andThen (.error e) f = .error e := rfl

@[simp]
theorem andThen_ok (a : α) (rest : List Token) (f : α → List Token → Except ParseError β) :
    andThen (.ok (a, rest)) f = f a rest := rfl

theorem andThen_eq_ok {x : Except ParseError (α × List Token)}
    {f : α → List Token → Except ParseError β} {b : β} (h : andThen x f = .ok b) :
    ∃ a rest, x = .ok (a, rest) ∧ f a rest = .ok b := by
  cases x with
  | error e => simp at h
  | ok r => exact ⟨r.1, r.2, rfl, h⟩

theorem andThen_andThen_eq_ok {γ : Type} {x : Except ParseError (α × List Token)}
    {y : List Token → Except ParseError (β × List Token)} {f : α → β → γ} {c : γ}
    {rest : List Token}
    (h : (andThen x fun a rest => andThen (y rest) fun b rest' => .ok (f a b, rest')) =
      .ok (c, rest)) :
    ∃ a rest₁ b, x = .ok (a, rest₁) ∧ y rest₁ = .ok (b, rest) ∧ c = f a b := by
  obtain ⟨a, rest₁, hx, h⟩ := andThen_eq_ok h
  obtain ⟨b, rest₂, hy, h⟩ := andThen_eq_ok h
  simp only [Except.ok.injEq, Prod.mk.injEq] at h
  obtain ⟨rfl, rfl⟩ := h
  exact ⟨a, rest₁, b, hx, hy, rfl⟩

theorem andThen_andThen_eq_error {γ δ ε : Type} {x : Except ParseError (α × List Token)}
    {y : List Token → Except ParseError (β × List Token)} {f : α → β → γ} {e : ParseError}
    (h : (andThen x fun a rest => andThen (y rest) fun b rest' => .ok (f a b, rest')) = .error e)
    (g : α → β → δ) (k : δ → ε) :
    (andThen (andThen x fun a rest => andThen (y rest) fun b rest' => .ok (g a b, rest'))
      fun d rest => .ok (k d, rest)) = .error e := by
  cases x with
  | error e' => simpa using h
  | ok r =>
    rw [andThen_ok] at h ⊢
    cases hy : y r.2 with
    | error e' => simpa [hy] using h
    | ok r' =>
      rw [hy] at h
      nomatch h

end Reading

namespace Parser

open Reading

theorem plain_path_nil : plain (path []) = .error (.unexpectedEnd .field) := rfl

theorem plain_path_cons (t : Token) (ts : List Token) :
    plain (path (t :: ts)) =
      if t.kind.isPathPart then
        match pathOfRun (t :: ts.takeWhile Token.isGlued) with
        | .error e => .error e
        | .ok target => .ok (target, ts.dropWhile Token.isGlued)
      else
        .error (t.unexpected .field) := by
  unfold path
  dsimp only
  split
  . cases pathOfRun (t :: ts.takeWhile Token.isGlued) <;> rfl
  . rfl

theorem plain_comparison (ts : List Token) :
    plain (comparison ts) =
      andThen (plain (path ts)) fun target rest =>
        match rest with
        | ⟨.comparator op, _, _⟩ :: rest =>
          andThen (plain (value rest)) fun literal rest' => .ok (⟨target, op, literal⟩, rest')
        | _ => .error (.bareField target.text) := by
  unfold comparison
  cases path ts with
  | error e => rfl
  | ok r =>
    obtain ⟨target, rest, h⟩ := r
    simp only [plain_ok, andThen_ok]
    cases rest with
    | nil => rfl
    | cons t rest =>
      obtain ⟨kind, pos, spaced⟩ := t
      cases kind with
      | comparator op =>
        dsimp only
        cases value rest with
        | error e => rfl
        | ok r => rfl
      | _ => rfl

theorem plain_expression (ts : List Token) :
    plain (expression ts) =
      andThen (plain (factor ts)) fun e rest =>
        andThen (plain (factors rest)) fun es rest' => .ok (.collapse .all (e :: es), rest') := by
  rw [expression]
  cases factor ts with
  | error e => rfl
  | ok r =>
    obtain ⟨e, rest, h⟩ := r
    simp only [plain_ok, andThen_ok]
    cases factors rest with
    | error e => rfl
    | ok r => rfl

theorem plain_factors_nil : plain (factors []) = .ok ([], []) := by
  rw [factors]
  rfl

theorem plain_factors_cons (t : Token) (ts : List Token) :
    plain (factors (t :: ts)) =
      if t.kind = .and then
        andThen (plain (factor ts)) fun e rest =>
          andThen (plain (factors rest)) fun es rest' => .ok (e :: es, rest')
      else if t.kind.startsTerm then
        andThen (plain (factor (t :: ts))) fun e rest =>
          andThen (plain (factors rest)) fun es rest' => .ok (e :: es, rest')
      else
        .ok ([], t :: ts) := by
  rw [factors]
  split
  . cases factor ts with
    | error e => rfl
    | ok r =>
      obtain ⟨e, rest, h⟩ := r
      simp only [plain_ok, andThen_ok]
      cases factors rest with
      | error e => rfl
      | ok r => rfl
  . split
    . cases factor (t :: ts) with
      | error e => rfl
      | ok r =>
        obtain ⟨e, rest, h⟩ := r
        simp only [plain_ok, andThen_ok]
        cases factors rest with
        | error e => rfl
        | ok r => rfl
    . rfl

theorem plain_factor (ts : List Token) :
    plain (factor ts) =
      andThen (plain (term ts)) fun e rest =>
        andThen (plain (terms rest)) fun es rest' => .ok (.collapse .any (e :: es), rest') := by
  rw [factor]
  cases term ts with
  | error e => rfl
  | ok r =>
    obtain ⟨e, rest, h⟩ := r
    simp only [plain_ok, andThen_ok]
    cases terms rest with
    | error e => rfl
    | ok r => rfl

theorem plain_terms_nil : plain (terms []) = .ok ([], []) := by
  rw [terms]
  rfl

theorem plain_terms_cons (t : Token) (ts : List Token) :
    plain (terms (t :: ts)) =
      if t.kind = .or then
        andThen (plain (term ts)) fun e rest =>
          andThen (plain (terms rest)) fun es rest' => .ok (e :: es, rest')
      else
        .ok ([], t :: ts) := by
  rw [terms]
  split
  . cases term ts with
    | error e => rfl
    | ok r =>
      obtain ⟨e, rest, h⟩ := r
      simp only [plain_ok, andThen_ok]
      cases terms rest with
      | error e => rfl
      | ok r => rfl
  . rfl

theorem plain_term_cons (t : Token) (ts : List Token) :
    plain (term (t :: ts)) =
      if t.kind = .not ∨ t.kind = .minus then
        andThen (plain (primitive ts)) fun e rest => .ok (.not e, rest)
      else
        plain (primitive (t :: ts)) := by
  rw [term]
  split
  . cases primitive ts with
    | error e => rfl
    | ok r => rfl
  . rfl

theorem plain_primitive_cons (t : Token) (ts : List Token) :
    plain (primitive (t :: ts)) =
      if t.kind = .opening then
        andThen (plain (expression ts)) fun e rest =>
          match rest with
          | [] => .error (.unexpectedEnd .closing)
          | u :: rest => if u.kind = .closing then .ok (e, rest) else .error (u.unexpected .closing)
      else
        andThen (plain (comparison (t :: ts))) fun c rest => .ok (.leaf c, rest) := by
  rw [primitive]
  split
  . cases expression ts with
    | error e => rfl
    | ok r =>
      obtain ⟨e, rest, h⟩ := r
      simp only [plain_ok, andThen_ok]
      cases rest with
      | nil => rfl
      | cons u rest =>
        dsimp only
        split <;> rfl
  . cases comparison (t :: ts) with
    | error e => rfl
    | ok r => rfl

end Parser

end LogSieve
