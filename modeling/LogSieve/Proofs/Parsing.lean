import LogSieve.Proofs.Grammar

/-!
This module contains the correctness of the parser: it accepts exactly the lists of tokens that the
grammar derives, and gives what they stand for.
-/

namespace LogSieve

namespace PathPart

theorem ofWord.go_eq (current cs : List Char) :
    ofWord.go current cs =
      [.dot].intercalate (((cs.splitOn '.').modifyHead (current ++ ·)).map ofWord.ofSegment) := by
  induction cs generalizing current with
  | nil => simp [ofWord.go, List.splitOn_nil]
  | cons c cs ih =>
    rw [ofWord.go, List.splitOn_cons_eq_if_modifyHead]
    obtain ⟨piece, pieces, hpieces⟩ := List.exists_cons_of_ne_nil (List.splitOn_ne_nil '.' cs)
    split
    . next hdot =>
      rw [ih, hdot, hpieces]
      simp
    . next hdot =>
      rw [ih, hpieces]
      simp [hdot]

theorem ofKind_eq_parts (kind : Token.Kind) : ofKind kind = Grammar.parts kind := by
  cases kind with
  | word text =>
    have hsegment : ofWord.ofSegment = fun piece =>
        if piece = [] then [] else [.segment (String.ofList piece)] := by
      funext piece
      simp [ofWord.ofSegment]
    simp only [ofKind, Grammar.parts, ofWord, ofWord.go_eq, hsegment]
    obtain ⟨piece, pieces, hpieces⟩ :=
      List.exists_cons_of_ne_nil (List.splitOn_ne_nil '.' text.toList)
    rw [hpieces]
    simp
  | _ => rfl

theorem segments?_alternating (s : String) (segments : List String) :
    segments? (Grammar.alternating (s :: segments)) = some (s :: segments) := by
  induction segments generalizing s with
  | nil => rfl
  | cons s' segments ih =>
    have := ih s'
    simp only [Grammar.alternating, List.map_cons, List.intersperse_cons_cons, segments?] at this ⊢
    rw [this]
    rfl

theorem eq_alternating_of_segments? {parts : List PathPart} {segments : List String}
    (h : segments? parts = some segments) : parts = Grammar.alternating segments := by
  fun_induction segments? parts generalizing segments with
  | case1 s =>
    simp only [Option.some.injEq] at h
    rw [← h]
    rfl
  | case2 s parts ih =>
    simp only [Option.map_eq_some_iff] at h
    obtain ⟨segments', h, rfl⟩ := h
    have hparts := ih h
    cases segments' with
    | nil =>
      rw [hparts] at h
      simp [Grammar.alternating, segments?] at h
    | cons s' segments' =>
      rw [hparts]
      rfl
  | case3 => simp at h

end PathPart

namespace Parser

open Reading Grammar

theorem pathOfRun_eq_ok_iff {run : List Token} {target : Target} :
    pathOfRun run = .ok target ↔
      run.flatMap (fun t => Grammar.parts t.kind) = alternating target.segments := by
  have hparts : (run.flatMap fun t => PathPart.ofKind t.kind) =
      run.flatMap (fun t => Grammar.parts t.kind) := by
    simp only [PathPart.ofKind_eq_parts]
  unfold pathOfRun
  rw [hparts]
  constructor
  . intro h
    split at h
    . next segments hsegments =>
      rw [Target.ofSegments_eq_ok_iff] at h
      rw [h]
      exact PathPart.eq_alternating_of_segments? hsegments
    . simp at h
  . intro h
    obtain ⟨s, segments, hsegments⟩ := List.exists_cons_of_ne_nil target.segments_ne_nil
    rw [h, hsegments, PathPart.segments?_alternating, ← hsegments]
    exact Target.ofSegments_segments target

theorem isGlued_iff {t : Token} : t.isGlued = true ↔ t.spaced = false ∧ t.kind.isPathPart = true := by
  simp [Token.isGlued]

def EndsPath (ts : List Token) : Prop := ∀ t ∈ ts.head?, t.isGlued = false

theorem path_sound {ts rest : List Token} {target : Target} (h : plain (path ts) = .ok (target, rest)) :
    ∃ used, ts = used ++ rest ∧ IsPath used target := by
  cases ts with
  | nil => simp [plain_path_nil] at h
  | cons t ts =>
    rw [plain_path_cons] at h
    split at h
    . next hpart =>
      split at h
      . simp at h
      . next target' hrun =>
        simp only [Except.ok.injEq, Prod.mk.injEq] at h
        obtain ⟨rfl, rfl⟩ := h
        have hglued : ∀ u ∈ ts.takeWhile Token.isGlued, u.isGlued = true :=
          List.all_eq_true.1 List.all_takeWhile
        refine ⟨t :: ts.takeWhile Token.isGlued, by simp, by simp, ?_, ?_, ?_⟩
        . intro u hu
          cases List.mem_cons.1 hu with
          | inl h => rw [h, hpart]
          | inr h => exact (isGlued_iff.1 (hglued u h)).2
        . intro u hu
          exact (isGlued_iff.1 (hglued u hu)).1
        . exact pathOfRun_eq_ok_iff.1 hrun
    . simp at h

theorem path_complete {ts rest : List Token} {target : Target} (h : IsPath ts target)
    (hrest : EndsPath rest) : plain (path (ts ++ rest)) = .ok (target, rest) := by
  obtain ⟨t, ts, rfl⟩ := List.exists_cons_of_ne_nil h.ne_nil
  have hglued : ∀ u ∈ ts, u.isGlued = true := by
    intro u hu
    exact isGlued_iff.2 ⟨h.unspaced u hu, h.isPathPart u (List.mem_cons_of_mem t hu)⟩
  have htake : rest.takeWhile Token.isGlued = [] ∧ rest.dropWhile Token.isGlued = rest := by
    cases rest with
    | nil => simp
    | cons u rest =>
      have : u.isGlued = false := hrest u (by simp)
      simp [this]
  rw [List.cons_append, plain_path_cons, if_pos (h.isPathPart t (by simp)),
    List.takeWhile_append_of_pos hglued, List.dropWhile_append_of_pos hglued, htake.1, htake.2,
    List.append_nil, pathOfRun_eq_ok_iff.2 h.parts]

theorem value_sound {ts rest : List Token} {literal : String}
    (h : plain (value ts) = .ok (literal, rest)) :
    ∃ used, ts = used ++ rest ∧ IsValue used literal := by
  unfold value at h
  split at h
  . simp at h
  . next t ts =>
    split at h
    . next text hkind =>
      simp only [plain_ok, Except.ok.injEq, Prod.mk.injEq] at h
      obtain ⟨rfl, rfl⟩ := h
      exact ⟨[t], rfl, .word hkind⟩
    . next text hkind =>
      simp only [plain_ok, Except.ok.injEq, Prod.mk.injEq] at h
      obtain ⟨rfl, rfl⟩ := h
      exact ⟨[t], rfl, .quoted hkind⟩
    . next hkind =>
      split at h
      . simp at h
      . next u ts =>
        split at h
        . next text hword hspaced =>
          simp only [plain_ok, Except.ok.injEq, Prod.mk.injEq] at h
          obtain ⟨rfl, rfl⟩ := h
          exact ⟨[t, u], rfl, .negative hkind hword hspaced⟩
        . simp at h
    . simp at h

theorem value_complete {ts : List Token} {literal : String} (h : IsValue ts literal)
    (rest : List Token) : plain (value (ts ++ rest)) = .ok (literal, rest) := by
  cases h with
  | word h => simp [value, h]
  | quoted h => simp [value, h]
  | negative h hword hspaced => simp [value, h, hword, hspaced]

theorem comparison_sound {ts rest : List Token} {c : Comparison}
    (h : plain (comparison ts) = .ok (c, rest)) :
    ∃ used, ts = used ++ rest ∧ IsPrimitive used (.leaf c) := by
  rw [plain_comparison] at h
  obtain ⟨target, rest', hpath, h⟩ := andThen_eq_ok h
  split at h
  . next op pos spaced rest' =>
    obtain ⟨literal, rest'', hvalue, h⟩ := andThen_eq_ok h
    simp only [Except.ok.injEq, Prod.mk.injEq] at h
    obtain ⟨rfl, rfl⟩ := h
    obtain ⟨us, hts, hpath⟩ := path_sound hpath
    obtain ⟨vs, hrest, hvalue⟩ := value_sound hvalue
    refine ⟨us ++ ⟨.comparator op, pos, spaced⟩ :: vs, ?_, .comparison hpath rfl hvalue⟩
    rw [hts, hrest]
    simp
  . simp at h

theorem comparison_complete {ts us : List Token} {t : Token} {target : Target} {op : Operator}
    {literal : String} (h : IsPath ts target) (ht : t.kind = .comparator op)
    (h' : IsValue us literal) (rest : List Token) :
    plain (comparison (ts ++ t :: us ++ rest)) = .ok (⟨target, op, literal⟩, rest) := by
  have hends : EndsPath (t :: (us ++ rest)) := by
    intro u hu
    simp only [List.head?_cons, Option.mem_some_iff] at hu
    simp [← hu, Token.isGlued, ht, Token.Kind.isPathPart]
  obtain ⟨kind, pos, spaced⟩ := t
  cases ht
  rw [List.append_assoc, List.cons_append, plain_comparison, path_complete h hends, andThen_ok]
  dsimp only
  rw [value_complete h' rest, andThen_ok]

theorem isExpression_collapse {ts : List Token} {e : Expr} {es : List Expr}
    (h : IsSequences ts (e :: es)) : IsExpression ts (.collapse .all (e :: es)) := by
  cases es with
  | nil => exact .single h
  | cons e' es => exact .conjunction h (by simp)

theorem isFactor_collapse {ts : List Token} {e : Expr} {es : List Expr}
    (h : IsTerms ts (e :: es)) : IsFactor ts (.collapse .any (e :: es)) := by
  cases es with
  | nil => exact .single h
  | cons e' es => exact .disjunction h (by simp)

mutual

theorem expression_sound {ts rest : List Token} {e : Expr}
    (h : plain (expression ts) = .ok (e, rest)) :
    ∃ used, ts = used ++ rest ∧ IsExpression used e := by
  rw [plain_expression] at h
  obtain ⟨e₁, rest₁, es, hfactor, hfactors, rfl⟩ := andThen_andThen_eq_ok h
  have := length_lt_of_plain hfactor
  obtain ⟨us, hts, hus⟩ := factor_sound hfactor
  obtain ⟨vs, hrest, hvs⟩ := factors_sound hfactors
  exact ⟨us ++ vs, by rw [hts, hrest, List.append_assoc], isExpression_collapse (.of_further hus hvs)⟩
termination_by (ts.length, 5)

theorem factors_sound {ts rest : List Token} {es : List Expr}
    (h : plain (factors ts) = .ok (es, rest)) :
    ∃ used, ts = used ++ rest ∧ FurtherFactors used es := by
  match ts, h with
  | [], h =>
    simp only [plain_factors_nil, Except.ok.injEq, Prod.mk.injEq] at h
    obtain ⟨rfl, rfl⟩ := h
    exact ⟨[], rfl, .nil⟩
  | t :: ts, h =>
    rw [plain_factors_cons] at h
    split at h
    . next hand =>
      obtain ⟨e, rest₁, es, hfactor, hfactors, rfl⟩ := andThen_andThen_eq_ok h
      have := length_lt_of_plain hfactor
      obtain ⟨us, hts, hus⟩ := factor_sound hfactor
      obtain ⟨vs, hrest, hvs⟩ := factors_sound hfactors
      exact ⟨t :: (us ++ vs), by simp [hts, hrest], .and hand hus hvs⟩
    . split at h
      . obtain ⟨e, rest₁, es, hfactor, hfactors, rfl⟩ := andThen_andThen_eq_ok h
        have := length_lt_of_plain hfactor
        obtain ⟨us, hts, hus⟩ := factor_sound hfactor
        obtain ⟨vs, hrest, hvs⟩ := factors_sound hfactors
        exact ⟨us ++ vs, by simp [hts, hrest], .next hus hvs⟩
      . simp only [Except.ok.injEq, Prod.mk.injEq] at h
        obtain ⟨rfl, rfl⟩ := h
        exact ⟨[], rfl, .nil⟩
termination_by (ts.length, 4)

theorem factor_sound {ts rest : List Token} {e : Expr} (h : plain (factor ts) = .ok (e, rest)) :
    ∃ used, ts = used ++ rest ∧ IsFactor used e := by
  rw [plain_factor] at h
  obtain ⟨e₁, rest₁, es, hterm, hterms, rfl⟩ := andThen_andThen_eq_ok h
  have := length_lt_of_plain hterm
  obtain ⟨us, hts, hus⟩ := term_sound hterm
  obtain ⟨vs, hrest, hvs⟩ := terms_sound hterms
  exact ⟨us ++ vs, by rw [hts, hrest, List.append_assoc], isFactor_collapse (.of_further hus hvs)⟩
termination_by (ts.length, 3)

theorem terms_sound {ts rest : List Token} {es : List Expr} (h : plain (terms ts) = .ok (es, rest)) :
    ∃ used, ts = used ++ rest ∧ FurtherTerms used es := by
  match ts, h with
  | [], h =>
    simp only [plain_terms_nil, Except.ok.injEq, Prod.mk.injEq] at h
    obtain ⟨rfl, rfl⟩ := h
    exact ⟨[], rfl, .nil⟩
  | t :: ts, h =>
    rw [plain_terms_cons] at h
    split at h
    . next hor =>
      obtain ⟨e, rest₁, es, hterm, hterms, rfl⟩ := andThen_andThen_eq_ok h
      have := length_lt_of_plain hterm
      obtain ⟨us, hts, hus⟩ := term_sound hterm
      obtain ⟨vs, hrest, hvs⟩ := terms_sound hterms
      exact ⟨t :: (us ++ vs), by simp [hts, hrest], .cons hor hus hvs⟩
    . simp only [Except.ok.injEq, Prod.mk.injEq] at h
      obtain ⟨rfl, rfl⟩ := h
      exact ⟨[], rfl, .nil⟩
termination_by (ts.length, 2)

theorem term_sound {ts rest : List Token} {e : Expr} (h : plain (term ts) = .ok (e, rest)) :
    ∃ used, ts = used ++ rest ∧ IsTerm used e := by
  match ts, h with
  | [], h => simp [term, primitive] at h
  | t :: ts, h =>
    rw [plain_term_cons] at h
    split at h
    . next hnot =>
      obtain ⟨e, rest₁, hprimitive, h⟩ := andThen_eq_ok h
      simp only [Except.ok.injEq, Prod.mk.injEq] at h
      obtain ⟨rfl, rfl⟩ := h
      obtain ⟨us, hts, hus⟩ := primitive_sound hprimitive
      exact ⟨t :: us, by rw [hts, List.cons_append], .negation hnot hus⟩
    . obtain ⟨us, hts, hus⟩ := primitive_sound h
      exact ⟨us, hts, .primitive hus⟩
termination_by (ts.length, 1)

theorem primitive_sound {ts rest : List Token} {e : Expr} (h : plain (primitive ts) = .ok (e, rest)) :
    ∃ used, ts = used ++ rest ∧ IsPrimitive used e := by
  match ts, h with
  | [], h => simp [primitive] at h
  | t :: ts, h =>
    rw [plain_primitive_cons] at h
    split at h
    . next hopening =>
      obtain ⟨e, rest₁, hexpression, h⟩ := andThen_eq_ok h
      split at h
      . simp at h
      . next u rest₁ =>
        split at h
        . next hclosing =>
          simp only [Except.ok.injEq, Prod.mk.injEq] at h
          obtain ⟨rfl, rfl⟩ := h
          obtain ⟨us, hts, hus⟩ := expression_sound hexpression
          exact ⟨t :: (us ++ [u]), by simp [hts], .group hopening hus hclosing⟩
        . simp at h
    . obtain ⟨c, rest₁, hcomparison, h⟩ := andThen_eq_ok h
      simp only [Except.ok.injEq, Prod.mk.injEq] at h
      obtain ⟨rfl, rfl⟩ := h
      exact comparison_sound hcomparison
termination_by (ts.length, 0)

end

def EndsFactor (ts : List Token) : Prop := ∀ t ∈ ts.head?, t.kind ≠ .or

def EndsExpression (ts : List Token) : Prop :=
  ∀ t ∈ ts.head?, t.kind ≠ .or ∧ t.kind ≠ .and ∧ t.kind.startsTerm = false

theorem endsFactor_cons_of_startsTerm {t : Token} (h : t.kind.startsTerm = true) (ts : List Token) :
    EndsFactor (t :: ts) := by
  intro u hu
  simp only [List.head?_cons, Option.mem_some_iff] at hu
  rw [← hu]
  intro hor
  simp [hor, Token.Kind.startsTerm] at h

theorem exists_startsTerm_of_isPrimitive {ts : List Token} {e : Expr} (h : IsPrimitive ts e) :
    ∃ t us, ts = t :: us ∧ t.kind.startsTerm = true ∧ t.kind ≠ .not ∧ t.kind ≠ .minus := by
  cases h with
  | group ht => exact ⟨_, _, rfl, by simp [ht, Token.Kind.startsTerm]⟩
  | comparison hpath =>
    obtain ⟨t, us, rfl⟩ := List.exists_cons_of_ne_nil hpath.ne_nil
    have hpart := hpath.isPathPart t (by simp)
    refine ⟨t, _, rfl, ?_⟩
    cases hkind : t.kind <;> simp [hkind, Token.Kind.isPathPart, Token.Kind.startsTerm] at hpart ⊢

theorem exists_startsTerm_of_isTerm {ts : List Token} {e : Expr} (h : IsTerm ts e) :
    ∃ t us, ts = t :: us ∧ t.kind.startsTerm = true := by
  cases h with
  | primitive h =>
    obtain ⟨t, us, hts, hstarts, _⟩ := exists_startsTerm_of_isPrimitive h
    exact ⟨t, us, hts, hstarts⟩
  | negation ht =>
    refine ⟨_, _, rfl, ?_⟩
    rcases ht with ht | ht <;> simp [ht, Token.Kind.startsTerm]

theorem exists_terms_of_isFactor {ts : List Token} {e : Expr} (h : IsFactor ts e) :
    ∃ es, IsTerms ts es ∧ e = .collapse .any es := by
  cases h with
  | single h => exact ⟨_, h, rfl⟩
  | disjunction h hlength => exact ⟨_, h, (Expr.collapse_of_two_le hlength).symm⟩

theorem exists_sequences_of_isExpression {ts : List Token} {e : Expr} (h : IsExpression ts e) :
    ∃ es, IsSequences ts es ∧ e = .collapse .all es := by
  cases h with
  | single h => exact ⟨_, h, rfl⟩
  | conjunction h hlength => exact ⟨_, h, (Expr.collapse_of_two_le hlength).symm⟩

theorem exists_startsTerm_of_isFactor {ts : List Token} {e : Expr} (h : IsFactor ts e) :
    ∃ t us, ts = t :: us ∧ t.kind.startsTerm = true := by
  obtain ⟨es, hterms, _⟩ := exists_terms_of_isFactor h
  obtain ⟨us, vs, _, _, rfl, _, hterm, _⟩ := hterms.further
  obtain ⟨t, us, rfl, hstarts⟩ := exists_startsTerm_of_isTerm hterm
  exact ⟨t, us ++ vs, rfl, hstarts⟩

theorem endsFactor_of_furtherFactors {ts rest : List Token} {es : List Expr}
    (h : FurtherFactors ts es) (hrest : EndsExpression rest) : EndsFactor (ts ++ rest) := by
  cases h with
  | nil =>
    intro t ht
    exact (hrest t ht).1
  | and hand =>
    intro u hu
    simp only [List.cons_append, List.head?_cons, Option.mem_some_iff] at hu
    simp [← hu, hand]
  | next hfactor =>
    obtain ⟨t, us, rfl, hstarts⟩ := exists_startsTerm_of_isFactor hfactor
    exact endsFactor_cons_of_startsTerm hstarts _

mutual

theorem expression_complete {ts : List Token} {e : Expr} (h : IsExpression ts e) {rest : List Token}
    (hrest : EndsExpression rest) : plain (expression (ts ++ rest)) = .ok (e, rest) := by
  obtain ⟨es, hes, he⟩ := exists_sequences_of_isExpression h
  obtain ⟨us, vs, e₁, fs, hts, hfs, hfactor, hfurther⟩ := hes.further
  -- Sequences are not seen by the reader, which only knows a first factor and further ones.
  have hlength : ts.length = us.length + vs.length := by rw [hts, List.length_append]
  rw [hts, List.append_assoc, plain_expression,
    factor_complete hfactor (endsFactor_of_furtherFactors hfurther hrest), andThen_ok,
    factors_complete hfurther hrest, andThen_ok, he, hfs]
termination_by 6 * ts.length + 5

theorem factors_complete {ts : List Token} {es : List Expr} (h : FurtherFactors ts es)
    {rest : List Token} (hrest : EndsExpression rest) :
    plain (factors (ts ++ rest)) = .ok (es, rest) := by
  match ts, es, h with
  | _, _, .nil =>
    cases rest with
    | nil => exact plain_factors_nil
    | cons t rest =>
      obtain ⟨_, hand, hstarts⟩ := hrest t (by simp)
      simp [plain_factors_cons, hand, hstarts]
  | _, _, @FurtherFactors.and us vs t e fs hand hfactor hfurther =>
    have hlength : (t :: (us ++ vs)).length = us.length + vs.length + 1 := by simp
    rw [List.cons_append, List.append_assoc, plain_factors_cons, if_pos hand,
      factor_complete hfactor (endsFactor_of_furtherFactors hfurther hrest), andThen_ok,
      factors_complete hfurther hrest, andThen_ok]
  | _, _, @FurtherFactors.next us vs e fs hfactor hfurther =>
    obtain ⟨t, us', hus, hstarts⟩ := exists_startsTerm_of_isFactor hfactor
    -- A factor is not empty, so there are less tokens behind it.
    have hlength : (us ++ vs).length = us.length + vs.length := List.length_append
    have hpos : us.length = us'.length + 1 := by rw [hus, List.length_cons]
    have hand : t.kind ≠ .and := by
      intro hand
      simp [hand, Token.Kind.startsTerm] at hstarts
    have hfactor' := factor_complete hfactor (endsFactor_of_furtherFactors hfurther hrest)
    rw [hus, List.cons_append] at hfactor'
    rw [List.append_assoc, hus, List.cons_append, plain_factors_cons, if_neg hand, if_pos hstarts,
      hfactor', andThen_ok, factors_complete hfurther hrest, andThen_ok]
termination_by 6 * ts.length + 4

theorem factor_complete {ts : List Token} {e : Expr} (h : IsFactor ts e) {rest : List Token}
    (hrest : EndsFactor rest) : plain (factor (ts ++ rest)) = .ok (e, rest) := by
  obtain ⟨es, hes, he⟩ := exists_terms_of_isFactor h
  obtain ⟨us, vs, e₁, fs, hts, hfs, hterm, hfurther⟩ := hes.further
  have hlength : ts.length = us.length + vs.length := by rw [hts, List.length_append]
  rw [hts, List.append_assoc, plain_factor, term_complete hterm, andThen_ok,
    terms_complete hfurther hrest, andThen_ok, he, hfs]
termination_by 6 * ts.length + 3

theorem terms_complete {ts : List Token} {es : List Expr} (h : FurtherTerms ts es)
    {rest : List Token} (hrest : EndsFactor rest) :
    plain (terms (ts ++ rest)) = .ok (es, rest) := by
  match ts, es, h with
  | _, _, .nil =>
    cases rest with
    | nil => exact plain_terms_nil
    | cons t rest =>
      have hor := hrest t (by simp)
      simp [plain_terms_cons, hor]
  | _, _, @FurtherTerms.cons us vs t e fs hor hterm hfurther =>
    have hlength : (t :: (us ++ vs)).length = us.length + vs.length + 1 := by simp
    rw [List.cons_append, List.append_assoc, plain_terms_cons, if_pos hor, term_complete hterm,
      andThen_ok, terms_complete hfurther hrest, andThen_ok]
termination_by 6 * ts.length + 2

theorem term_complete {ts : List Token} {e : Expr} (h : IsTerm ts e) {rest : List Token} :
    plain (term (ts ++ rest)) = .ok (e, rest) := by
  match ts, e, h with
  | ts, e, .primitive h =>
    obtain ⟨t, us, hts, _, hnot, hminus⟩ := exists_startsTerm_of_isPrimitive h
    have hprimitive : plain (primitive (ts ++ rest)) = .ok (e, rest) := primitive_complete h
    rw [hts, List.cons_append] at hprimitive ⊢
    rw [plain_term_cons, if_neg (by simp [hnot, hminus]), hprimitive]
  | _, _, @IsTerm.negation us t e ht h =>
    rw [List.cons_append, plain_term_cons, if_pos ht, primitive_complete h, andThen_ok]
termination_by 6 * ts.length + 1

theorem primitive_complete {ts : List Token} {e : Expr} (h : IsPrimitive ts e) {rest : List Token} :
    plain (primitive (ts ++ rest)) = .ok (e, rest) := by
  match ts, e, h with
  | _, e, @IsPrimitive.group us t u _ ht h hu =>
    have hends : EndsExpression (u :: rest) := by
      intro v hv
      simp only [List.head?_cons, Option.mem_some_iff] at hv
      simp [← hv, hu, Token.Kind.startsTerm]
    have hlength : (t :: (us ++ [u])).length = us.length + 2 := by simp
    rw [List.cons_append, List.append_assoc, plain_primitive_cons, if_pos ht, List.singleton_append,
      expression_complete h hends, andThen_ok]
    simp [hu]
  | _, _, @IsPrimitive.comparison us vs t target op literal hpath ht hvalue =>
    obtain ⟨u, us', hus⟩ := List.exists_cons_of_ne_nil hpath.ne_nil
    have hopening : u.kind ≠ .opening := by
      have hpart := hpath.isPathPart u (by simp [hus])
      intro hopening
      simp [hopening, Token.Kind.isPathPart] at hpart
    have hcomparison := comparison_complete hpath ht hvalue rest
    rw [hus, List.cons_append, List.cons_append] at hcomparison ⊢
    rw [plain_primitive_cons, if_neg hopening, hcomparison, andThen_ok]
termination_by 6 * ts.length

end

theorem endsExpression_nil : EndsExpression [] := by
  intro t ht
  simp at ht

theorem plain_expression_of_isExpression {ts : List Token} {e : Expr} (h : IsExpression ts e) :
    plain (expression ts) = .ok (e, []) := by
  have := expression_complete h endsExpression_nil
  rwa [List.append_nil] at this

theorem plain_path_of_isPath {ts : List Token} {target : Target} (h : IsPath ts target) :
    plain (path ts) = .ok (target, []) := by
  have hends : EndsPath [] := by
    intro t ht
    simp at ht
  have := path_complete h hends
  rwa [List.append_nil] at this

theorem plain_expression_of_isPath {ts : List Token} {target : Target} (h : IsPath ts target) :
    plain (expression ts) = .error (.bareField target.text) := by
  obtain ⟨t, us, rfl⟩ := List.exists_cons_of_ne_nil h.ne_nil
  have hpart := h.isPathPart t (by simp)
  have hnot : ¬(t.kind = .not ∨ t.kind = .minus) := by
    rintro (hkind | hkind) <;> simp [hkind, Token.Kind.isPathPart] at hpart
  have hopening : t.kind ≠ .opening := by
    intro hkind
    simp [hkind, Token.Kind.isPathPart] at hpart
  rw [plain_expression, plain_factor, plain_term_cons, if_neg hnot, plain_primitive_cons,
    if_neg hopening, plain_comparison, plain_path_of_isPath h]
  rfl

theorem parseTokens_eq (ts : List Token) :
    parseTokens ts =
      if ts = [] then
        .error .empty
      else
        match plain (path ts) with
        | .ok (target, []) => .ok (.field target)
        | _ =>
          match plain (expression ts) with
          | .error e => .error e
          | .ok (e, []) => .ok (.expression e)
          | .ok (_, t :: _) => .error (t.unexpected .endOfInput) := by
  unfold parseTokens
  simp only [List.isEmpty_iff]
  split
  . rfl
  . rcases path ts with _ | ⟨target, _ | ⟨t, rest⟩, _⟩ <;>
      rcases expression ts with _ | ⟨e, _ | ⟨u, rest'⟩, _⟩ <;> rfl

theorem ne_nil_of_isExpression {ts : List Token} {e : Expr} (h : IsExpression ts e) : ts ≠ [] := by
  rintro rfl
  obtain ⟨es, hes, _⟩ := exists_sequences_of_isExpression h
  obtain ⟨us, vs, _, _, hts, _, hfactor, _⟩ := hes.further
  obtain ⟨t, us, rfl, _⟩ := exists_startsTerm_of_isFactor hfactor
  simp at hts

theorem parseTokens_eq_field_iff {ts : List Token} {target : Target} :
    parseTokens ts = .ok (.field target) ↔ IsPath ts target := by
  rw [parseTokens_eq]
  constructor
  . intro h
    split at h
    . simp at h
    . split at h
      . next target' hpath =>
        simp only [Except.ok.injEq, Parsed.field.injEq] at h
        obtain ⟨used, hts, hused⟩ := path_sound hpath
        rw [hts, List.append_nil, ← h]
        exact hused
      . split at h <;> simp at h
  . intro h
    rw [if_neg h.ne_nil, plain_path_of_isPath h]

theorem parseTokens_eq_expression_iff {ts : List Token} {e : Expr} :
    parseTokens ts = .ok (.expression e) ↔ IsExpression ts e := by
  rw [parseTokens_eq]
  constructor
  . intro h
    split at h
    . simp at h
    . split at h
      . simp at h
      . split at h
        . simp at h
        . next e' hexpression =>
          simp only [Except.ok.injEq, Parsed.expression.injEq] at h
          obtain ⟨used, hts, hused⟩ := expression_sound hexpression
          rw [hts, List.append_nil, ← h]
          exact hused
        . simp at h
  . intro h
    have hexpression := plain_expression_of_isExpression h
    rw [if_neg (ne_nil_of_isExpression h), hexpression]
    split
    . next target hpath =>
      -- A list of tokens that is an expression is not also a path.
      obtain ⟨used, hts, hused⟩ := path_sound hpath
      rw [List.append_nil] at hts
      rw [hts, plain_expression_of_isPath hused] at hexpression
      simp at hexpression
    . rfl

end Parser

open Grammar in
/--
A text is read as an expression or as a field if and only if the grammar derives it from the tokens
of the text, and the grammar is unambiguous.
-/
theorem parse_eq_ok_iff_derives (text : String) :
    (∀ e, parse text = .ok (.expression e) ↔
      ∃ ts, Token.tokenize text = .ok ts ∧ IsExpression ts e) ∧
    (∀ target, parse text = .ok (.field target) ↔
      ∃ ts, Token.tokenize text = .ok ts ∧ IsPath ts target) ∧
    (∀ ts e e', IsExpression ts e → IsExpression ts e' → e = e') ∧
    (∀ ts target target', IsPath ts target → IsPath ts target' → target = target') ∧
    (∀ ts target e, IsPath ts target → ¬IsExpression ts e) := by
  have hparse : ∀ parsed, parse text = .ok parsed ↔
      ∃ ts, Token.tokenize text = .ok ts ∧ Parser.parseTokens ts = .ok parsed := by
    intro parsed
    unfold parse
    cases Token.tokenize text <;> simp
  refine ⟨?_, ?_, ?_, ?_, ?_⟩
  . intro e
    simp only [hparse, Parser.parseTokens_eq_expression_iff]
  . intro target
    simp only [hparse, Parser.parseTokens_eq_field_iff]
  . intro ts e e' h h'
    rw [← Parser.parseTokens_eq_expression_iff] at h h'
    simpa [h] using h'
  . intro ts target target' h h'
    rw [← Parser.parseTokens_eq_field_iff] at h h'
    simpa [h] using h'
  . intro ts target e h h'
    rw [← Parser.parseTokens_eq_field_iff] at h
    rw [← Parser.parseTokens_eq_expression_iff] at h'
    simp [h] at h'

open Grammar in
theorem parse_eq_ok_iff_derives_minus :
    let target : Target := ⟨["a", "b"], by decide, by decide⟩
    let path : Token := ⟨.word "a.b", 0, true⟩
    let ts : List Token :=
      [path, ⟨.comparator .equal, 4, true⟩, ⟨.minus, 6, true⟩, ⟨.word "1", 7, false⟩]
    let e : Expr := .leaf ⟨target, .equal, "-1"⟩
    (Token.tokenize "a.b = -1" = .ok ts ∧ IsExpression ts e ∧ IsPath [path] target) ∧
      parse "a.b = -1" = .ok (.expression e) ∧
      (∀ target, parse "a.b = -1" ≠ .ok (.field target)) ∧
      (∀ e', IsExpression ts e' → e' = e) ∧
      (∀ target', IsPath [path] target' → target' = target) ∧
      ∀ e', ¬IsExpression [path] e' := by
  intro target path ts e
  have htokens : Token.tokenize "a.b = -1" = .ok ts := by
    have hsome : (Token.tokenize "a.b = -1").toOption = some ts := by decide +kernel
    cases h : Token.tokenize "a.b = -1" <;> simp_all [Except.toOption]
  have hpath : IsPath [path] target := ⟨by decide, by decide, by decide, by decide⟩
  have hvalue : IsValue ts.tail.tail ("-" ++ "1") := .negative rfl rfl rfl
  have hprimitive : IsPrimitive ([path] ++ ts.tail) e := .comparison hpath rfl hvalue
  have hexpression : IsExpression ts e :=
    .single (.one (.one (.single (.one (.primitive hprimitive)))))
  obtain ⟨hread, hfield, hunique, hpathUnique, hdisjoint⟩ := parse_eq_ok_iff_derives "a.b = -1"
  refine ⟨⟨htokens, hexpression, hpath⟩, (hread e).2 ⟨ts, htokens, hexpression⟩, ?_, ?_, ?_, ?_⟩
  . intro target' h
    obtain ⟨ts', htokens', hpath'⟩ := (hfield target').1 h
    obtain rfl : ts = ts' := Except.ok.inj (htokens.symm.trans htokens')
    exact hdisjoint ts target' e hpath' hexpression
  . intro e' h
    exact hunique ts e' e h hexpression
  . intro target' h
    exact hpathUnique [path] target' target h hpath
  . intro e'
    exact hdisjoint [path] target e' hpath

end LogSieve
