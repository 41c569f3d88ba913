import LogSieve.Proofs.NormalForm
import LogSieve.Proofs.Parsing
import LogSieve.Proofs.Scanning

/-!
This module contains what the texts of fields and expressions are read as: a field is read back as
itself, and an expression as its normal form. An empty list has no text that can be read.
-/

namespace LogSieve

namespace Parser

open Reading Grammar

def Stops {n : List Token → Nat} {α : Type}
    (read : (ts : List Token) → Except ParseError (Reading α (n ts))) (ts : List Token) : Prop :=
  ∀ rest, ∃ pos, plain (read (ts ++ rest)) = .error (.unexpectedToken pos ")" .field)

variable {ts us : List Token} {t u : Token} {e : Expr}

theorem stops_factor_of_term (h : Stops term ts) : Stops factor ts := by
  intro rest
  obtain ⟨pos, hpos⟩ := h rest
  exact ⟨pos, by rw [plain_factor, hpos, andThen_error]⟩

theorem stops_expression_of_factor (h : Stops factor ts) : Stops expression ts := by
  intro rest
  obtain ⟨pos, hpos⟩ := h rest
  exact ⟨pos, by rw [plain_expression, hpos, andThen_error]⟩

theorem stops_append {n : List Token → Nat} {α : Type}
    {read : (ts : List Token) → Except ParseError (Reading α (n ts))} (h : Stops read ts)
    (us : List Token) : Stops read (ts ++ us) := by
  intro rest
  rw [List.append_assoc]
  exact h (us ++ rest)

theorem stops_primitive_group (ht : t.kind = .opening) (h : Stops expression ts) :
    Stops primitive (t :: ts) := by
  intro rest
  obtain ⟨pos, hpos⟩ := h rest
  exact ⟨pos, by rw [List.cons_append, plain_primitive_cons, if_pos ht, hpos, andThen_error]⟩

theorem stops_term_group (ht : t.kind = .opening) (h : Stops expression ts) :
    Stops term (t :: ts) := by
  intro rest
  obtain ⟨pos, hpos⟩ := stops_primitive_group ht h rest
  refine ⟨pos, ?_⟩
  rw [List.cons_append] at hpos ⊢
  rw [plain_term_cons, if_neg (by simp [ht]), hpos]

theorem stops_term_not (ht : t.kind = .not) (h : Stops primitive ts) : Stops term (t :: ts) := by
  intro rest
  obtain ⟨pos, hpos⟩ := h rest
  exact ⟨pos, by rw [List.cons_append, plain_term_cons, if_pos (.inl ht), hpos, andThen_error]⟩

theorem stops_expression_closing (ht : t.kind = .closing) : Stops expression [t] := by
  intro rest
  refine ⟨t.pos, ?_⟩
  rw [List.singleton_append, plain_expression, plain_factor, plain_term_cons,
    if_neg (by simp [ht]), plain_primitive_cons, if_neg (by simp [ht]), plain_comparison,
    plain_path_cons, if_neg (by simp [ht, Token.Kind.isPathPart])]
  simp [Token.unexpected, ht, Token.Kind.text]

theorem stops_expression_empty (ht : t.kind = .opening) (hu : u.kind = .closing) :
    Stops expression [t, u] :=
  stops_expression_of_factor (stops_factor_of_term (stops_term_group ht (stops_expression_closing hu)))

theorem stops_factor_or (h : IsTerm ts e) (ht : t.kind = .or) (h' : Stops factor us) :
    Stops factor (ts ++ t :: us) := by
  intro rest
  obtain ⟨pos, hpos⟩ := h' rest
  refine ⟨pos, ?_⟩
  -- Behind `OR` the terms are read as those of a factor are.
  rw [plain_factor] at hpos
  rw [List.append_assoc, plain_factor, term_complete h, andThen_ok, List.cons_append,
    plain_terms_cons, if_pos ht]
  exact andThen_andThen_eq_error hpos _ _

theorem stops_expression_and (h : IsFactor ts e) (ht : t.kind = .and) (h' : Stops expression us) :
    Stops expression (ts ++ t :: us) := by
  intro rest
  obtain ⟨pos, hpos⟩ := h' rest
  refine ⟨pos, ?_⟩
  have hends : EndsFactor (t :: (us ++ rest)) := by
    intro v hv
    simp only [List.head?_cons, Option.mem_some_iff] at hv
    simp [← hv, ht]
  -- Behind `AND` the factors are read as those of an expression are.
  rw [plain_expression] at hpos
  rw [List.append_assoc, plain_expression, List.cons_append, factor_complete h hends, andThen_ok,
    plain_factors_cons, if_pos ht]
  exact andThen_andThen_eq_error hpos _ _

theorem parseTokens_of_stops (h : Stops expression ts) (hne : ts ≠ []) :
    ∃ pos, parseTokens ts = .error (.unexpectedToken pos ")" .field) := by
  obtain ⟨pos, hpos⟩ := h []
  rw [List.append_nil] at hpos
  refine ⟨pos, ?_⟩
  rw [parseTokens_eq, if_neg hne, hpos]
  split
  . next target hpath =>
    obtain ⟨used, hts, hused⟩ := path_sound hpath
    rw [List.append_nil] at hts
    rw [hts, plain_expression_of_isPath hused] at hpos
    simp at hpos
  . rfl

end Parser

namespace Expr

open LogSieve.Parser Grammar Token

/--
What the tokens of a text are at one level of the grammar: derived if the expression has no empty
list, and what stops the reader of that level otherwise.
-/
structure IsShown {n : List Token → Nat} {α : Type} (derives : List Token → Prop)
    (read : (ts : List Token) → Except ParseError (Reading α (n ts))) (empty : Bool)
    (ts : List Token) : Prop where
  derives : empty = false → derives ts
  stops : empty = true → Stops read ts

abbrev IsShownExpression (e : Expr) : List Token → Prop :=
  IsShown (IsExpression · e.normalized) expression e.hasEmpty

abbrev IsShownTerm (e : Expr) : List Token → Prop :=
  IsShown (IsTerm · e.normalized) term e.hasEmpty

abbrev IsShownPrimitive (e : Expr) : List Token → Prop :=
  IsShown (IsPrimitive · e.normalized) primitive e.hasEmpty

theorem isExpression_of_isTerm {ts : List Token} {e : Expr} (h : IsTerm ts e) : IsExpression ts e :=
  .single (.one (.one (.single (.one h))))

theorem isShownExpression_of_term {e : Expr} {ts : List Token} (h : e.IsShownTerm ts) :
    e.IsShownExpression ts where
  derives hempty := isExpression_of_isTerm (h.derives hempty)
  stops hempty := stops_expression_of_factor (stops_factor_of_term (h.stops hempty))

theorem reads_comparison (c : Comparison) : Reads c.text (IsPrimitive · (.leaf c)) := by
  have hvalue : Reads (quote c.literal) (IsValue · c.literal) := by
    apply (reads_quote c.literal).mono
    rintro ts ⟨t, rfl, ht⟩
    exact .quoted ht
  have hend : Reads (c.operator.text ++ " " ++ quote c.literal)
      (fun ts => ∃ t us, ts = t :: us ∧ t.kind = .comparator c.operator ∧ IsValue us c.literal) := by
    apply (reads_operator c.operator).append hvalue
    rintro us vs ⟨t, rfl, ht⟩ hvs
    exact ⟨t, vs, rfl, ht, hvs⟩
  have htext : c.text = c.target.text ++ " " ++ (c.operator.text ++ " " ++ quote c.literal) := by
    simp only [Comparison.text, String.append_assoc]
  rw [htext]
  apply (reads_target c.target).append hend
  rintro us vs hpath ⟨t, vs, rfl, ht, hvs⟩
  exact .comparison hpath ht hvs

theorem reads_parenthesized {e : Expr} (h : Reads e.text e.IsShownExpression) :
    Reads (parenthesized e.text) (fun ts => e.IsShownPrimitive ts ∧ e.IsShownTerm ts) := by
  have hend : Reads (e.text ++ ")") (fun ts => ∃ us u, ts = us ++ [u] ∧ e.IsShownExpression us ∧
      u.kind = .closing) := by
    apply h.append reads_closing
    rintro us _ hus ⟨u, rfl, hu⟩
    exact ⟨us, u, rfl, hus, hu⟩
  rw [parenthesized, String.append_assoc]
  apply reads_opening.append hend
  rintro _ _ ⟨t, rfl, ht⟩ ⟨us, u, rfl, hus, hu⟩
  refine ⟨⟨?_, ?_⟩, ⟨?_, ?_⟩⟩
  . intro hempty
    exact .group ht (hus.derives hempty) hu
  . intro hempty
    exact stops_primitive_group ht (stops_append (hus.stops hempty) [u])
  . intro hempty
    exact .primitive (.group ht (hus.derives hempty) hu)
  . intro hempty
    exact stops_term_group ht (stops_append (hus.stops hempty) [u])

theorem isShownPrimitive_leaf {c : Comparison} {ts : List Token} (h : IsPrimitive ts (.leaf c)) :
    (leaf c).IsShownPrimitive ts where
  derives _ := h
  stops hempty := by simp [hasEmpty] at hempty

theorem isShownTerm_leaf {c : Comparison} {ts : List Token} (h : IsPrimitive ts (.leaf c)) :
    (leaf c).IsShownTerm ts where
  derives _ := .primitive h
  stops hempty := by simp [hasEmpty] at hempty

theorem reads_negation {e : Expr} (h : Reads e.text e.IsShownExpression) :
    Reads (Expr.not e).text (Expr.not e).IsShownTerm := by
  have hoperand : Reads (if e.isLeaf then e.text else parenthesized e.text) e.IsShownPrimitive := by
    cases e with
    | leaf c =>
      apply (reads_comparison c).mono
      intro ts hts
      exact isShownPrimitive_leaf hts
    | _ =>
      apply (reads_parenthesized h).mono
      intro ts hts
      exact hts.1
  rw [text]
  apply reads_not.append hoperand
  rintro _ vs ⟨t, rfl, ht⟩ hvs
  refine ⟨?_, ?_⟩
  . intro hempty
    exact .negation (.inl ht) (hvs.derives hempty)
  . intro hempty
    exact stops_term_not ht (hvs.stops hempty)

abbrev IsShownSequences (es : List Expr) : List Token → Prop :=
  IsShown (IsSequences · (normalizedList es)) expression (hasEmptyList es)

abbrev IsShownTerms (es : List Expr) : List Token → Prop :=
  IsShown (IsTerms · (normalizedList es)) factor (hasEmptyList es)

theorem isShownSequences_one {e : Expr} {ts : List Token} (h : e.IsShownTerm ts) :
    IsShownSequences [e] ts := by
  refine ⟨?_, ?_⟩
  . intro hempty
    simp only [hasEmptyList, Bool.or_false] at hempty
    exact .one (.one (.single (.one (h.derives hempty))))
  . intro hempty
    simp only [hasEmptyList, Bool.or_false] at hempty
    exact stops_expression_of_factor (stops_factor_of_term (h.stops hempty))

theorem isShownTerms_one {e : Expr} {ts : List Token} (h : e.IsShownTerm ts) :
    IsShownTerms [e] ts := by
  refine ⟨?_, ?_⟩
  . intro hempty
    simp only [hasEmptyList, Bool.or_false] at hempty
    exact .one (h.derives hempty)
  . intro hempty
    simp only [hasEmptyList, Bool.or_false] at hempty
    exact stops_factor_of_term (h.stops hempty)

theorem isShownSequences_and {e : Expr} {es : List Expr} {ts us : List Token} {t : Token}
    (h : e.IsShownTerm ts) (ht : t.kind = .and) (h' : IsShownSequences es us) :
    IsShownSequences (e :: es) (ts ++ t :: us) := by
  refine ⟨?_, ?_⟩
  . intro hempty
    simp only [hasEmptyList, Bool.or_eq_false_iff] at hempty
    exact .and (.one (.single (.one (h.derives hempty.1)))) ht (h'.derives hempty.2)
  . intro hempty
    cases hfirst : e.hasEmpty with
    | false =>
      rw [hasEmptyList, hfirst, Bool.false_or] at hempty
      exact stops_expression_and (.single (.one (h.derives hfirst))) ht (h'.stops hempty)
    | true =>
      apply stops_append
      exact stops_expression_of_factor (stops_factor_of_term (h.stops hfirst))

theorem isShownTerms_or {e : Expr} {es : List Expr} {ts us : List Token} {t : Token}
    (h : e.IsShownTerm ts) (ht : t.kind = .or) (h' : IsShownTerms es us) :
    IsShownTerms (e :: es) (ts ++ t :: us) := by
  refine ⟨?_, ?_⟩
  . intro hempty
    simp only [hasEmptyList, Bool.or_eq_false_iff] at hempty
    exact .or (h.derives hempty.1) ht (h'.derives hempty.2)
  . intro hempty
    cases hfirst : e.hasEmpty with
    | false =>
      rw [hasEmptyList, hfirst, Bool.false_or] at hempty
      exact stops_factor_or (h.derives hfirst) ht (h'.stops hempty)
    | true =>
      apply stops_append
      exact stops_factor_of_term (h.stops hfirst)

theorem reads_empty : Reads "()" (Stops expression) := by
  apply reads_opening.append reads_closing
  rintro _ _ ⟨t, rfl, ht⟩ ⟨u, rfl, hu⟩
  exact stops_expression_empty ht hu

mutual

theorem reads_text : (e : Expr) → Reads e.text e.IsShownExpression
  | .leaf c => by
    rw [text]
    apply (reads_comparison c).mono
    intro ts hts
    exact isShownExpression_of_term (isShownTerm_leaf hts)
  | .not e => by
    apply (reads_negation (reads_text e)).mono
    intro ts hts
    exact isShownExpression_of_term hts
  | .all [] => by
    apply reads_empty.mono
    intro ts hts
    exact ⟨by simp [hasEmpty], fun _ => hts⟩
  | .any [] => by
    apply reads_empty.mono
    intro ts hts
    exact ⟨by simp [hasEmpty], fun _ => hts⟩
  | .all (e :: es) => by
    apply (reads_sequences e es).mono
    intro ts hts
    refine ⟨?_, hts.stops⟩
    intro hempty
    exact isExpression_collapse (hts.derives hempty)
  | .any (e :: es) => by
    apply (reads_terms e es).mono
    intro ts hts
    refine ⟨?_, ?_⟩
    . intro hempty
      exact .single (.one (.one (isFactor_collapse (hts.derives hempty))))
    . intro hempty
      exact stops_expression_of_factor (hts.stops hempty)
termination_by e => (sizeOf e, 0)

theorem reads_item (e : Expr) :
    Reads (if e.isCompound then parenthesized e.text else e.text) e.IsShownTerm := by
  match e with
  | .leaf c =>
    apply (reads_comparison c).mono
    intro ts hts
    exact isShownTerm_leaf hts
  | .not e => exact reads_negation (reads_text e)
  | .all es =>
    apply (reads_parenthesized (reads_text (.all es))).mono
    intro ts hts
    exact hts.2
  | .any es =>
    apply (reads_parenthesized (reads_text (.any es))).mono
    intro ts hts
    exact hts.2
termination_by (sizeOf e, 1)

theorem reads_sequences (e : Expr) (es : List Expr) :
    Reads (" AND ".intercalate (itemTexts (e :: es))) (IsShownSequences (e :: es)) := by
  match es with
  | [] =>
    apply (reads_item e).mono
    intro ts hts
    exact isShownSequences_one hts
  | e' :: es =>
    have hnext : Reads (" AND " ++ " AND ".intercalate (itemTexts (e' :: es)))
        (fun ts => ∃ t us, ts = t :: us ∧ t.kind = .and ∧ IsShownSequences (e' :: es) us) := by
      apply reads_and.append (reads_sequences e' es)
      rintro _ us ⟨t, rfl, ht⟩ hus
      exact ⟨t, us, rfl, ht, hus⟩
    simp only [itemTexts] at hnext ⊢
    rw [String.intercalate_cons_cons, String.append_assoc]
    apply (reads_item e).append hnext
    rintro ts _ hts ⟨t, us, rfl, ht, hus⟩
    exact isShownSequences_and hts ht hus
termination_by (sizeOf (e :: es), 0)

theorem reads_terms (e : Expr) (es : List Expr) :
    Reads (" OR ".intercalate (itemTexts (e :: es))) (IsShownTerms (e :: es)) := by
  match es with
  | [] =>
    apply (reads_item e).mono
    intro ts hts
    exact isShownTerms_one hts
  | e' :: es =>
    have hnext : Reads (" OR " ++ " OR ".intercalate (itemTexts (e' :: es)))
        (fun ts => ∃ t us, ts = t :: us ∧ t.kind = .or ∧ IsShownTerms (e' :: es) us) := by
      apply reads_or.append (reads_terms e' es)
      rintro _ us ⟨t, rfl, ht⟩ hus
      exact ⟨t, us, rfl, ht, hus⟩
    simp only [itemTexts] at hnext ⊢
    rw [String.intercalate_cons_cons, String.append_assoc]
    apply (reads_item e).append hnext
    rintro ts _ hts ⟨t, us, rfl, ht, hus⟩
    exact isShownTerms_or hts ht hus
termination_by (sizeOf (e :: es), 0)

end

theorem parse_text_of_hasEmpty_eq_false {e : Expr} (h : e.hasEmpty = false) :
    parse e.text = .ok (.expression e.normalized) := by
  obtain ⟨ts, hts, hshown⟩ := (reads_text e).tokenize
  unfold parse
  rw [hts]
  exact parseTokens_eq_expression_iff.2 (hshown.derives h)

theorem parse_text_of_hasEmpty {e : Expr} (h : e.hasEmpty = true) :
    ∃ pos, parse e.text = .error (.unexpectedToken pos ")" .field) := by
  obtain ⟨ts, hts, hshown⟩ := (reads_text e).tokenize
  have hstops := hshown.stops h
  have hne : ts ≠ [] := by
    rintro rfl
    -- Without tokens, the reader would be stopped by the end of the text.
    obtain ⟨pos, hpos⟩ := hstops []
    simp [plain_expression, plain_factor, term, primitive] at hpos
  unfold parse
  rw [hts]
  exact parseTokens_of_stops hstops hne

theorem isNormal_of_parse {text : String} {e : Expr} (h : parse text = .ok (.expression e)) :
    e.isNormal = true := by
  unfold parse at h
  split at h
  . simp at h
  . exact (parseTokens_eq_expression_iff.1 h).isNormal

end Expr

theorem Target.parse_text (target : Target) : parse target.text = .ok (.field target) := by
  obtain ⟨ts, hts, hpath⟩ := Token.tokenize_target target
  unfold parse
  rw [hts]
  exact Parser.parseTokens_eq_field_iff.2 hpath

/--
The text of a field is read back as that field. The text of an expression is read back as its
normal form, which accepts the same records, if there is no empty list in it, and it is refused at a
closing parenthesis otherwise. What a text is read as is in normal form, so its own text is read back
as the same.
-/
theorem parse_printed :
    (∀ target : Target, parse target.text = .ok (.field target)) ∧
    (∀ e : Expr, e.hasEmpty = false →
      parse e.text = .ok (.expression e.normalized) ∧
      (∀ truth, e.normalized.holds truth = e.holds truth) ∧
      ∀ language record,
        Filter.accepts ⟨e.normalized⟩ record language = Filter.accepts ⟨e⟩ record language) ∧
    (∀ e : Expr, e.hasEmpty = true →
      ∃ pos, parse e.text = .error (.unexpectedToken pos ")" .field)) ∧
    (∀ text e, parse text = .ok (.expression e) →
      e.isNormal = true ∧ parse e.text = .ok (.expression e)) ∧
    (∀ text target, parse text = .ok (.field target) → parse target.text = .ok (.field target)) := by
  refine ⟨Target.parse_text, ?_, ?_, ?_, ?_⟩
  . intro e hempty
    refine ⟨Expr.parse_text_of_hasEmpty_eq_false hempty, ?_, e.accepts_normalized⟩
    intro truth
    exact e.holds_normalized truth
  . intro e hempty
    exact Expr.parse_text_of_hasEmpty hempty
  . intro text e h
    have hnormal := Expr.isNormal_of_parse h
    have hparse := Expr.parse_text_of_hasEmpty_eq_false (Expr.hasEmpty_of_isNormal hnormal)
    rw [Expr.normalized_of_isNormal hnormal] at hparse
    exact ⟨hnormal, hparse⟩
  . intro text target _
    exact target.parse_text

theorem parse_printed_singles_and_empty :
    let target : Target := ⟨["a b", "c"], by decide, by decide⟩
    let c : Comparison := ⟨target, .equal, "1"⟩
    let single : Expr := .any [.all [.leaf c]]
    let empty : Expr := .not (.all [])
    parse target.text = .ok (.field target) ∧
    (single.hasEmpty = false ∧ parse single.text = .ok (.expression (.leaf c))) ∧
    (empty.hasEmpty = true ∧
      ∃ pos, parse empty.text = .error (.unexpectedToken pos ")" .field)) ∧
    parse (Expr.leaf c).text = .ok (.expression (.leaf c)) := by
  intro target c single empty
  obtain ⟨hfield, hprinted, hempty, hread, hreadField⟩ := parse_printed
  have hsingle : parse single.text = .ok (.expression (.leaf c)) := (hprinted single rfl).1
  exact ⟨hreadField _ target (hfield target), ⟨rfl, hsingle⟩, ⟨rfl, hempty empty rfl⟩,
    (hread single.text (.leaf c) hsingle).2⟩

end LogSieve
