import LogSieve.Proofs.Positions

/-!
This module contains that a token which the grammar does not allow is the first one at fault. It is
rejected whatever comes behind it, and with what is expected in its place the tokens before it go on
to something that is accepted.
-/

namespace LogSieve

namespace Reading

variable {α β γ : Type}

theorem andThen_andThen_eq_error_iff {x : Except ParseError (α × List Token)}
    {y : List Token → Except ParseError (β × List Token)} {f : α → β → γ} {e : ParseError} :
    (andThen x fun a rest => andThen (y rest) fun b rest' => .ok (f a b, rest')) = .error e ↔
      x = .error e ∨ ∃ a rest, x = .ok (a, rest) ∧ y rest = .error e := by
  cases x with
  | error e' => simp
  | ok r =>
    obtain ⟨a, rest⟩ := r
    have hrest : (∃ a' rest', (.ok (a, rest) : Except ParseError _) = .ok (a', rest') ∧
        y rest' = .error e) ↔ y rest = .error e := by
      constructor
      . rintro ⟨_, _, h, hy⟩
        cases h
        exact hy
      . intro hy
        exact ⟨a, rest, rfl, hy⟩
    rw [andThen_ok, hrest]
    cases y rest <;> simp [andThen]

theorem andThen_ok_eq_error_iff {x : Except ParseError (α × List Token)} {f : α → β}
    {e : ParseError} :
    (andThen x fun a rest => .ok (f a, rest) : Except ParseError (β × List Token)) = .error e ↔
      x = .error e := by
  cases x <;> simp [andThen]

end Reading

namespace Parser

open Reading Grammar

variable {α β γ : Type}

/--
Tokens that are what is expected behind the tokens `before`. A word behind a minus must stand directly
behind it.
-/
def Fits (before : List Token) : Expected → List Token → Prop
  | .field, ts => ∃ e, IsPrimitive ts e
  | .value, ts => ∃ t text, ts = [t] ∧ t.kind = .word text ∧
      ∀ u ∈ before.getLast?, u.kind = .minus → t.spaced = false
  | .closing, ts => Token.IsOne .closing ts
  | .endOfInput, ts => ts = []

theorem Fits.of_append (start : List Token) {before ts : List Token} {expected : Expected}
    (h : Fits (start ++ before) expected ts) : Fits before expected ts := by
  cases expected with
  | value =>
    obtain ⟨t, text, hts, hkind, hspaced⟩ := h
    refine ⟨t, text, hts, hkind, ?_⟩
    intro u hu
    apply hspaced
    rw [Option.mem_def] at hu
    simp [List.getLast?_append, hu]
  | _ => exact h

def AreClosings (n : Nat) (ts : List Token) : Prop := ts.length = n ∧ ∀ t ∈ ts, t.kind = .closing

theorem AreClosings.eq_nil {ts : List Token} (h : AreClosings 0 ts) : ts = [] :=
  List.eq_nil_of_length_eq_zero h.1

theorem AreClosings.exists_append {n : Nat} {ts : List Token} (h : AreClosings (n + 1) ts) :
    ∃ us u, ts = us ++ [u] ∧ AreClosings n us ∧ u.kind = .closing := by
  obtain ⟨hlength, hkind⟩ := h
  rcases List.eq_nil_or_concat ts with rfl | ⟨us, u, rfl⟩
  . simp at hlength
  . simp only [List.concat_eq_append, List.forall_mem_append, List.forall_mem_singleton] at hkind
    exact ⟨us, u, by simp, ⟨by simpa using hlength, hkind.1⟩, hkind.2⟩

/--
The token `t` behind the tokens `used` is the first one that a reader does not allow. It is rejected
whatever comes behind it. With what is expected in its place, and with parentheses closed behind that,
the tokens are derived.
-/
structure IsFirstFault (read : List Token → Except ParseError α) (derives : List Token → Prop)
    (used : List Token) (t : Token) (expected : Expected) : Prop where
  eq_error : ∀ rest, read (used ++ t :: rest) = .error (t.unexpected expected)
  exists_closings : ∃ n, ∀ us vs, Fits used expected us → AreClosings n vs →
    derives (used ++ (us ++ vs))

def FaultsFirst (read : List Token → Except ParseError α) (derives : List Token → Prop)
    (ts : List Token) : Prop :=
  ∀ pos found expected, read ts = .error (.unexpectedToken pos found expected) →
    ∃ used t rest, ts = used ++ t :: rest ∧
      t.unexpected expected = .unexpectedToken pos found expected ∧
      IsFirstFault read derives used t expected

theorem faultsFirst_head {read : List Token → Except ParseError α} {derives : List Token → Prop}
    {t : Token} {ts : List Token} (expected : Expected)
    (hread : ∀ ts, read (t :: ts) = .error (t.unexpected expected))
    (hderives : ∀ us, Fits [] expected us → derives us) : FaultsFirst read derives (t :: ts) := by
  intro pos found expected' h
  rw [hread] at h
  cases h
  refine ⟨[], t, ts, rfl, rfl, hread, 0, ?_⟩
  intro us vs hus hvs
  rw [hvs.eq_nil, List.append_nil]
  exact hderives us hus

theorem faultsFirst_of_ne {read : List Token → Except ParseError α} {derives : List Token → Prop}
    {ts : List Token}
    (h : ∀ pos found expected, read ts ≠ .error (.unexpectedToken pos found expected)) :
    FaultsFirst read derives ts := by
  intro pos found expected h'
  exact absurd h' (h pos found expected)

theorem head?_append_cons (used : List Token) (t : Token) (rest rest' : List Token) :
    (used ++ t :: rest).head? = (used ++ t :: rest').head? := by
  cases used <;> rfl

theorem FaultsFirst.behind {read : List Token → Except ParseError α}
    {read' : List Token → Except ParseError β} {derives derives' : List Token → Prop}
    {ts : List Token} (h : FaultsFirst read derives ts) (start : List Token)
    (hread : ∀ us e, us.head? = ts.head? → (read' (start ++ us) = .error e ↔ read us = .error e))
    (hderives : ∀ us, derives us → derives' (start ++ us)) :
    FaultsFirst read' derives' (start ++ ts) := by
  intro pos found expected herror
  rw [hread ts _ rfl] at herror
  obtain ⟨used, t, rest, rfl, ht, hfault⟩ := h pos found expected herror
  refine ⟨start ++ used, t, rest, by simp, ht, ?_, ?_⟩
  . intro rest'
    rw [List.append_assoc, hread _ _ (head?_append_cons used t rest' rest)]
    exact hfault.eq_error rest'
  . obtain ⟨n, hn⟩ := hfault.exists_closings
    refine ⟨n, ?_⟩
    intro us vs hus hvs
    rw [List.append_assoc]
    exact hderives _ (hn us vs (hus.of_append start) hvs)

theorem FaultsFirst.andThen {x : List Token → Except ParseError (α × List Token)}
    {y : List Token → Except ParseError (β × List Token)} (f : α → β → γ)
    {dx dy derives : List Token → Prop} {ts : List Token} (hx : FaultsFirst x dx ts)
    (hdx : ∀ us, dx us → derives us)
    (hy : ∀ a rest, x ts = .ok (a, rest) → FaultsFirst y dy rest ∧
      ∃ start, ts = start ++ rest ∧ (∀ us, dy us → derives (start ++ us)) ∧
        ∀ us, us.head? = rest.head? → x (start ++ us) = .ok (a, us)) :
    FaultsFirst (fun ts => Reading.andThen (x ts) fun a rest =>
      Reading.andThen (y rest) fun b rest' => .ok (f a b, rest')) derives ts := by
  intro pos found expected herror
  rcases andThen_andThen_eq_error_iff.1 herror with hxerror | ⟨a, rest, hok, hyerror⟩
  . obtain ⟨used, t, rest, rfl, ht, hfault⟩ := hx pos found expected hxerror
    refine ⟨used, t, rest, rfl, ht, ?_, ?_⟩
    . intro rest'
      exact andThen_andThen_eq_error_iff.2 (.inl (hfault.eq_error rest'))
    . obtain ⟨n, hn⟩ := hfault.exists_closings
      exact ⟨n, fun us vs hus hvs => hdx _ (hn us vs hus hvs)⟩
  . obtain ⟨hfaults, start, rfl, hderives, hstart⟩ := hy a rest hok
    apply hfaults.behind start _ hderives pos found expected herror
    intro us e hus
    rw [hstart us hus, andThen_ok, andThen_ok_eq_error_iff]

theorem plain_value_minus {t u : Token} (ht : t.kind = .minus)
    (hu : ¬∃ text, u.kind = .word text ∧ u.spaced = false) (rest : List Token) :
    plain (value (t :: u :: rest)) = .error (u.unexpected .value) := by
  simp only [value, ht]
  split
  . next text hkind hspaced => exact absurd ⟨text, hkind, hspaced⟩ hu
  . rfl

theorem faultsFirst_value (ts : List Token) :
    FaultsFirst (fun ts => plain (value ts)) (fun us => ∃ literal, IsValue us literal) ts := by
  have hword : ∀ before us, Fits before .value us → ∃ literal, IsValue us literal := by
    rintro before us ⟨t, text, rfl, hkind, _⟩
    exact ⟨text, .word hkind⟩
  cases ts with
  | nil => exact faultsFirst_of_ne (by simp [value])
  | cons t ts =>
    cases hkind : t.kind with
    | word text => exact faultsFirst_of_ne (by simp [value, hkind])
    | quoted text => exact faultsFirst_of_ne (by simp [value, hkind])
    | minus =>
      cases ts with
      | nil => exact faultsFirst_of_ne (by simp [value, hkind])
      | cons u ts =>
        by_cases hu : ∃ text, u.kind = .word text ∧ u.spaced = false
        . obtain ⟨text, hword, hspaced⟩ := hu
          exact faultsFirst_of_ne (by simp [value, hkind, hword, hspaced])
        . have hread := plain_value_minus hkind hu
          intro pos found expected herror
          dsimp only at herror
          rw [hread] at herror
          cases herror
          refine ⟨[t], u, ts, rfl, rfl, hread, 0, ?_⟩
          rintro us vs ⟨v, text, rfl, hword, hspaced⟩ hvs
          rw [hvs.eq_nil]
          exact ⟨"-" ++ text, .negative hkind hword (hspaced t rfl hkind)⟩
    | _ => exact faultsFirst_head .value (fun _ => by simp [value, hkind]) (hword [])

theorem plain_comparison_append {used us : List Token} {t : Token} {target : Target} {op : Operator}
    (h : IsPath used target) (ht : t.kind = .comparator op) :
    plain (comparison (used ++ t :: us)) =
      Reading.andThen (plain (value us)) fun literal rest => .ok (⟨target, op, literal⟩, rest) := by
  have hends : EndsPath (t :: us) := by
    intro u hu
    simp only [List.head?_cons, Option.mem_some_iff] at hu
    simp [← hu, Token.isGlued, ht, Token.Kind.isPathPart]
  obtain ⟨kind, pos, spaced⟩ := t
  cases ht
  rw [plain_comparison, path_complete h hends, andThen_ok]

theorem faultsFirst_comparison (ts : List Token) :
    FaultsFirst (fun ts => plain (comparison ts)) (fun us => ∃ e, IsPrimitive us e) ts := by
  cases hpath : plain (path ts) with
  | error e =>
    cases ts with
    | nil => exact faultsFirst_of_ne (by simp [plain_comparison, plain_path_nil])
    | cons t ts =>
      by_cases hpart : t.kind.isPathPart = true
      . -- A run of words and strings that is no path is not the fault of one token.
        apply faultsFirst_of_ne
        rw [plain_path_cons, if_pos hpart] at hpath
        cases hrun : pathOfRun (t :: ts.takeWhile Token.isGlued) with
        | ok target => simp [hrun] at hpath
        | error e' =>
          obtain ⟨_, rfl⟩ := exists_of_pathOfRun_eq_error hrun
          simp [plain_comparison, plain_path_cons, hpart, hrun]
      . apply faultsFirst_head .field
        . intro ts
          simp [plain_comparison, plain_path_cons, hpart]
        . exact fun us hus => hus
  | ok r =>
    obtain ⟨target, rest⟩ := r
    by_cases hop : ∃ t us op, rest = t :: us ∧ t.kind = .comparator op
    . obtain ⟨t, us, op, rfl, ht⟩ := hop
      obtain ⟨used, rfl, hused⟩ := path_sound hpath
      rw [← List.singleton_append, ← List.append_assoc]
      apply (faultsFirst_value us).behind (used ++ [t])
      . intro vs e _
        rw [List.append_assoc, List.singleton_append, plain_comparison_append hused ht,
          andThen_ok_eq_error_iff]
      . rintro vs ⟨literal, hvs⟩
        rw [List.append_assoc, List.singleton_append]
        exact ⟨_, .comparison hused ht hvs⟩
    . apply faultsFirst_of_ne
      intro pos found expected
      rw [plain_comparison, hpath, andThen_ok]
      split
      . next op pos spaced us => exact absurd ⟨_, us, op, rfl, rfl⟩ hop
      . simp

theorem EndsFactor.of_head? {ts us : List Token} (h : EndsFactor ts) (hus : us.head? = ts.head?) :
    EndsFactor us := by
  unfold EndsFactor
  rw [hus]
  exact h

theorem EndsExpression.of_head? {ts us : List Token} (h : EndsExpression ts)
    (hus : us.head? = ts.head?) : EndsExpression us := by
  unfold EndsExpression
  rw [hus]
  exact h

theorem endsFactor_of_terms {ts rest : List Token} {es : List Expr}
    (h : plain (terms ts) = .ok (es, rest)) : EndsFactor rest := by
  induction hn : ts.length using Nat.strongRecOn generalizing ts es with
  | ind n ih =>
    cases ts with
    | nil =>
      simp only [plain_terms_nil, Except.ok.injEq, Prod.mk.injEq] at h
      rw [← h.2]
      intro t ht
      simp at ht
    | cons t ts =>
      rw [List.length_cons] at hn
      rw [plain_terms_cons] at h
      split at h
      . obtain ⟨_, rest₁, _, hterm, hterms, _⟩ := andThen_andThen_eq_ok h
        have hlength := length_lt_of_plain hterm
        exact ih rest₁.length (by omega) hterms rfl
      . next hor =>
        simp only [Except.ok.injEq, Prod.mk.injEq] at h
        rw [← h.2]
        intro u hu
        simp only [List.head?_cons, Option.mem_some_iff] at hu
        rw [← hu]
        exact hor

theorem endsFactor_of_factor {ts rest : List Token} {e : Expr}
    (h : plain (factor ts) = .ok (e, rest)) : EndsFactor rest := by
  rw [plain_factor] at h
  obtain ⟨_, _, _, _, hterms, _⟩ := andThen_andThen_eq_ok h
  exact endsFactor_of_terms hterms

theorem endsExpression_of_factors {ts rest : List Token} {es : List Expr} (hts : EndsFactor ts)
    (h : plain (factors ts) = .ok (es, rest)) : EndsExpression rest := by
  induction hn : ts.length using Nat.strongRecOn generalizing ts es with
  | ind n ih =>
    cases ts with
    | nil =>
      simp only [plain_factors_nil, Except.ok.injEq, Prod.mk.injEq] at h
      rw [← h.2]
      exact endsExpression_nil
    | cons t ts =>
      rw [List.length_cons] at hn
      rw [plain_factors_cons] at h
      split at h
      . obtain ⟨_, rest₁, _, hfactor, hfactors, _⟩ := andThen_andThen_eq_ok h
        have hlength := length_lt_of_plain hfactor
        exact ih rest₁.length (by omega) (endsFactor_of_factor hfactor) hfactors rfl
      . next hand =>
        split at h
        . obtain ⟨_, rest₁, _, hfactor, hfactors, _⟩ := andThen_andThen_eq_ok h
          have hlength : rest₁.length < ts.length + 1 := length_lt_of_plain hfactor
          exact ih rest₁.length (by omega) (endsFactor_of_factor hfactor) hfactors rfl
        . next hstarts =>
          simp only [Except.ok.injEq, Prod.mk.injEq] at h
          rw [← h.2]
          intro u hu
          have hor := hts u hu
          simp only [List.head?_cons, Option.mem_some_iff] at hu
          subst hu
          exact ⟨hor, hand, eq_false_of_ne_true hstarts⟩

theorem endsExpression_of_expression {ts rest : List Token} {e : Expr}
    (h : plain (expression ts) = .ok (e, rest)) : EndsExpression rest := by
  rw [plain_expression] at h
  obtain ⟨_, _, _, hfactor, hfactors, _⟩ := andThen_andThen_eq_ok h
  exact endsExpression_of_factors (endsFactor_of_factor hfactor) hfactors

theorem FaultsFirst.group {t : Token} {ts : List Token} (ht : t.kind = .opening)
    (h : FaultsFirst (fun ts => plain (expression ts)) (fun us => ∃ e, IsExpression us e) ts) :
    FaultsFirst (fun ts => plain (primitive ts)) (fun us => ∃ e, IsPrimitive us e) (t :: ts) := by
  intro pos found expected herror
  dsimp only at herror
  rw [plain_primitive_cons, if_pos ht] at herror
  cases hexpression : plain (expression ts) with
  | error e =>
    rw [hexpression, andThen_error] at herror
    cases herror
    obtain ⟨used, u, rest, rfl, hu, hfault⟩ := h pos found expected hexpression
    refine ⟨t :: used, u, rest, rfl, hu, ?_, ?_⟩
    . intro rest'
      rw [List.cons_append, plain_primitive_cons, if_pos ht, hfault.eq_error rest', andThen_error]
    . -- One more parenthesis is to be closed than inside.
      obtain ⟨n, hn⟩ := hfault.exists_closings
      refine ⟨n + 1, ?_⟩
      intro us vs hus hvs
      obtain ⟨vs, v, rfl, hvs, hv⟩ := hvs.exists_append
      obtain ⟨e, he⟩ := hn us vs (hus.of_append [t]) hvs
      refine ⟨e, ?_⟩
      have := IsPrimitive.group ht he hv
      simpa using this
  | ok r =>
    obtain ⟨e, rest⟩ := r
    rw [hexpression, andThen_ok] at herror
    obtain ⟨used, rfl, hused⟩ := expression_sound hexpression
    have hends := endsExpression_of_expression hexpression
    cases rest with
    | nil => simp at herror
    | cons u rest =>
      dsimp only at herror
      split at herror
      . simp at herror
      . next hu =>
        cases herror
        refine ⟨t :: used, u, rest, rfl, rfl, ?_, 0, ?_⟩
        . intro rest'
          have hends' : EndsExpression (u :: rest') := hends.of_head? rfl
          rw [List.cons_append, plain_primitive_cons, if_pos ht, expression_complete hused hends',
            andThen_ok]
          simp [hu]
        . rintro us vs ⟨v, rfl, hv⟩ hvs
          rw [hvs.eq_nil]
          exact ⟨e, .group ht hused hv⟩

mutual

theorem faultsFirst_expression (ts : List Token) :
    FaultsFirst (fun ts => plain (expression ts)) (fun us => ∃ e, IsExpression us e) ts := by
  simp only [plain_expression]
  apply (faultsFirst_factor ts).andThen
  . rintro us ⟨e, he⟩
    exact ⟨e, .single (.one (.one he))⟩
  . intro e rest hfactor
    have := length_lt_of_plain hfactor
    obtain ⟨start, hstart, he⟩ := factor_sound hfactor
    refine ⟨faultsFirst_factors rest, start, hstart, ?_, ?_⟩
    . rintro us ⟨es, hes⟩
      exact ⟨_, isExpression_collapse (.of_further he hes)⟩
    . intro us hus
      exact factor_complete he ((endsFactor_of_factor hfactor).of_head? hus)
termination_by (ts.length, 5)

theorem faultsFirst_nextFactors (ts : List Token) :
    FaultsFirst (fun ts => Reading.andThen (plain (factor ts)) fun e rest =>
        Reading.andThen (plain (factors rest)) fun es rest' => .ok (e :: es, rest'))
      (fun us => ∃ vs ws e es, us = vs ++ ws ∧ IsFactor vs e ∧ FurtherFactors ws es) ts := by
  apply (faultsFirst_factor ts).andThen
  . rintro us ⟨e, he⟩
    exact ⟨us, [], e, [], by simp, he, .nil⟩
  . intro e rest hfactor
    have := length_lt_of_plain hfactor
    obtain ⟨start, hstart, he⟩ := factor_sound hfactor
    refine ⟨faultsFirst_factors rest, start, hstart, ?_, ?_⟩
    . rintro us ⟨es, hes⟩
      exact ⟨start, us, e, es, rfl, he, hes⟩
    . intro us hus
      exact factor_complete he ((endsFactor_of_factor hfactor).of_head? hus)
termination_by (ts.length, 4)

theorem faultsFirst_factors (ts : List Token) :
    FaultsFirst (fun ts => plain (factors ts)) (fun us => ∃ es, FurtherFactors us es) ts := by
  match ts with
  | [] => exact faultsFirst_of_ne (by simp [plain_factors_nil])
  | t :: ts =>
    by_cases hand : t.kind = .and
    . apply (faultsFirst_nextFactors ts).behind [t]
      . intro us e _
        rw [List.singleton_append, plain_factors_cons, if_pos hand]
      . rintro us ⟨vs, ws, e, es, rfl, he, hes⟩
        have hfactors := FurtherFactors.and hand he hes
        exact ⟨e :: es, hfactors⟩
    . by_cases hstarts : t.kind.startsTerm = true
      . apply (faultsFirst_nextFactors (t :: ts)).behind []
        . intro us e hus
          cases us with
          | nil => simp at hus
          | cons u us =>
            simp only [List.head?_cons, Option.some.injEq] at hus
            rw [List.nil_append, plain_factors_cons, hus, if_neg hand, if_pos hstarts]
        . rintro us ⟨vs, ws, e, es, rfl, he, hes⟩
          have hfactors := FurtherFactors.next he hes
          exact ⟨e :: es, hfactors⟩
      . exact faultsFirst_of_ne (by simp [plain_factors_cons, hand, hstarts])
termination_by (ts.length, 5)

theorem faultsFirst_factor (ts : List Token) :
    FaultsFirst (fun ts => plain (factor ts)) (fun us => ∃ e, IsFactor us e) ts := by
  simp only [plain_factor]
  apply (faultsFirst_term ts).andThen
  . rintro us ⟨e, he⟩
    exact ⟨e, .single (.one he)⟩
  . intro e rest hterm
    have := length_lt_of_plain hterm
    obtain ⟨start, hstart, he⟩ := term_sound hterm
    refine ⟨faultsFirst_terms rest, start, hstart, ?_, fun us _ => term_complete he⟩
    rintro us ⟨es, hes⟩
    exact ⟨_, isFactor_collapse (.of_further he hes)⟩
termination_by (ts.length, 3)

theorem faultsFirst_terms (ts : List Token) :
    FaultsFirst (fun ts => plain (terms ts)) (fun us => ∃ es, FurtherTerms us es) ts := by
  match ts with
  | [] => exact faultsFirst_of_ne (by simp [plain_terms_nil])
  | t :: ts =>
    by_cases hor : t.kind = .or
    . have hnext : FaultsFirst (fun ts => Reading.andThen (plain (term ts)) fun e rest =>
          Reading.andThen (plain (terms rest)) fun es rest' => .ok (e :: es, rest'))
          (fun us => ∃ es, FurtherTerms (t :: us) es) ts := by
        apply (faultsFirst_term ts).andThen
        . rintro us ⟨e, he⟩
          exact ⟨[e], by simpa using FurtherTerms.cons hor he .nil⟩
        . intro e rest hterm
          have := length_lt_of_plain hterm
          obtain ⟨start, hstart, he⟩ := term_sound hterm
          refine ⟨faultsFirst_terms rest, start, hstart, ?_, fun us _ => term_complete he⟩
          rintro us ⟨es, hes⟩
          exact ⟨e :: es, .cons hor he hes⟩
      apply hnext.behind [t]
      . intro us e _
        rw [List.singleton_append, plain_terms_cons, if_pos hor]
      . exact fun us hus => hus
    . exact faultsFirst_of_ne (by simp [plain_terms_cons, hor])
termination_by (ts.length, 2)

theorem faultsFirst_term (ts : List Token) :
    FaultsFirst (fun ts => plain (term ts)) (fun us => ∃ e, IsTerm us e) ts := by
  match ts with
  | [] => exact faultsFirst_of_ne (by simp [term, primitive])
  | t :: ts =>
    by_cases hnot : t.kind = .not ∨ t.kind = .minus
    . apply (faultsFirst_primitive ts).behind [t]
      . intro us e _
        rw [List.singleton_append, plain_term_cons, if_pos hnot, andThen_ok_eq_error_iff]
      . rintro us ⟨e, he⟩
        exact ⟨.not e, .negation hnot he⟩
    . apply (faultsFirst_primitive (t :: ts)).behind []
      . intro us e hus
        cases us with
        | nil => simp at hus
        | cons u us =>
          simp only [List.head?_cons, Option.some.injEq] at hus
          rw [List.nil_append, plain_term_cons, hus, if_neg hnot]
      . rintro us ⟨e, he⟩
        exact ⟨e, .primitive he⟩
termination_by (ts.length, 1)

theorem faultsFirst_primitive (ts : List Token) :
    FaultsFirst (fun ts => plain (primitive ts)) (fun us => ∃ e, IsPrimitive us e) ts := by
  match ts with
  | [] => exact faultsFirst_of_ne (by simp [primitive])
  | t :: ts =>
    by_cases hopening : t.kind = .opening
    . exact (faultsFirst_expression ts).group hopening
    . apply (faultsFirst_comparison (t :: ts)).behind []
      . intro us e hus
        cases us with
        | nil => simp at hus
        | cons u us =>
          simp only [List.head?_cons, Option.some.injEq] at hus
          rw [List.nil_append, plain_primitive_cons, hus, if_neg hopening, andThen_ok_eq_error_iff]
      . exact fun us hus => hus
termination_by (ts.length, 0)

end

theorem parseTokens_of_expression_ne {ts : List Token} (hne : ts ≠ [])
    (h : ∀ target : Target, plain (expression ts) ≠ .error (.bareField target.text)) :
    parseTokens ts =
      match plain (expression ts) with
      | .error e => .error e
      | .ok (e, []) => .ok (.expression e)
      | .ok (_, t :: _) => .error (t.unexpected .endOfInput) := by
  rw [parseTokens_eq, if_neg hne]
  split
  . next target hpath =>
    obtain ⟨used, hts, hused⟩ := path_sound hpath
    rw [List.append_nil] at hts
    rw [← hts] at hused
    exact absurd (plain_expression_of_isPath hused) (h target)
  . rfl

theorem faultsFirst_parseTokens (ts : List Token) :
    FaultsFirst parseTokens (fun us => ∃ e, IsExpression us e) ts := by
  intro pos found expected herror
  have hne : ts ≠ [] := by
    rintro rfl
    rw [parseTokens_eq, if_pos rfl] at herror
    cases herror
  by_cases hbare : ∃ target : Target, plain (expression ts) = .error (.bareField target.text)
  . obtain ⟨target, hbare⟩ := hbare
    rw [parseTokens_eq, if_neg hne, hbare] at herror
    split at herror <;> cases herror
  . rw [parseTokens_of_expression_ne hne (not_exists.1 hbare)] at herror
    split at herror
    . next e hread =>
      cases herror
      obtain ⟨used, t, rest, rfl, ht, hfault⟩ := faultsFirst_expression ts pos found expected hread
      refine ⟨used, t, rest, rfl, ht, ?_, hfault.exists_closings⟩
      intro rest'
      have hread' : plain (expression (used ++ t :: rest')) = .error (t.unexpected expected) :=
        hfault.eq_error rest'
      rw [parseTokens_of_expression_ne (by simp) (by simp [hread', Token.unexpected]), hread']
    . cases herror
    . next e t rest hread =>
      cases herror
      obtain ⟨used, rfl, hused⟩ := expression_sound hread
      refine ⟨used, t, rest, rfl, rfl, ?_, 0, ?_⟩
      . intro rest'
        have hends : EndsExpression (t :: rest') :=
          (endsExpression_of_expression hread).of_head? rfl
        have hread' := expression_complete hused hends
        rw [parseTokens_of_expression_ne (by simp) (by simp [hread']), hread']
      . intro us vs hus hvs
        have hus : us = [] := hus
        rw [hus, hvs.eq_nil]
        exact ⟨e, by simpa using hused⟩

end Parser

end LogSieve
