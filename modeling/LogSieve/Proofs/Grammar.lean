import LogSieve.Proofs.ParserEquations

/-!
This module contains the grammar of filters: which lists of tokens stand for which paths, literals
and expressions.
-/

namespace LogSieve

theorem Expr.collapse_of_two_le {wrap : List Expr → Expr} {es : List Expr} (h : 2 ≤ es.length) :
    collapse wrap es = wrap es := by
  match es, h with
  | _ :: _ :: _, _ => rfl

namespace Grammar

def parts : Token.Kind → List PathPart
  | .word text =>
    [.dot].intercalate ((text.toList.splitOn '.').map fun piece =>
      if piece = [] then [] else [.segment (String.ofList piece)])
  | .quoted text => [.segment text]
  | _ => []

def alternating (segments : List String) : List PathPart :=
  (segments.map PathPart.segment).intersperse .dot

/--
A path is a run of words and strings without blanks between them, in which segments and dots
alternate.
-/
structure IsPath (ts : List Token) (target : Target) : Prop where
  ne_nil : ts ≠ []
  isPathPart : ∀ t ∈ ts, t.kind.isPathPart = true
  unspaced : ∀ t ∈ ts.tail, t.spaced = false
  parts : ts.flatMap (fun t => parts t.kind) = alternating target.segments

inductive IsValue : List Token → String → Prop where
  | word {t : Token} {text : String} (h : t.kind = .word text) : IsValue [t] text
  | quoted {t : Token} {text : String} (h : t.kind = .quoted text) : IsValue [t] text
  | negative {t u : Token} {text : String} (h : t.kind = .minus) (hword : u.kind = .word text)
    (hspaced : u.spaced = false) : IsValue [t, u] ("-" ++ text)

mutual

/--
An expression: the factors of all its sequences form one conjunction, unless there is only one.
-/
inductive IsExpression : List Token → Expr → Prop where
  | single {ts : List Token} {e : Expr} (h : IsSequences ts [e]) : IsExpression ts e
  | conjunction {ts : List Token} {es : List Expr} (h : IsSequences ts es) (hlength : 2 ≤ es.length) :
    IsExpression ts (.all es)

inductive IsSequences : List Token → List Expr → Prop where
  | one {ts : List Token} {es : List Expr} (h : IsSequence ts es) : IsSequences ts es
  | and {ts us : List Token} {t : Token} {es fs : List Expr} (h : IsSequence ts es)
    (hand : t.kind = .and) (h' : IsSequences us fs) : IsSequences (ts ++ t :: us) (es ++ fs)

inductive IsSequence : List Token → List Expr → Prop where
  | one {ts : List Token} {e : Expr} (h : IsFactor ts e) : IsSequence ts [e]
  | cons {ts us : List Token} {e : Expr} {es : List Expr} (h : IsFactor ts e)
    (h' : IsSequence us es) : IsSequence (ts ++ us) (e :: es)

inductive IsFactor : List Token → Expr → Prop where
  | single {ts : List Token} {e : Expr} (h : IsTerms ts [e]) : IsFactor ts e
  | disjunction {ts : List Token} {es : List Expr} (h : IsTerms ts es) (hlength : 2 ≤ es.length) :
    IsFactor ts (.any es)

inductive IsTerms : List Token → List Expr → Prop where
  | one {ts : List Token} {e : Expr} (h : IsTerm ts e) : IsTerms ts [e]
  | or {ts us : List Token} {t : Token} {e : Expr} {es : List Expr} (h : IsTerm ts e)
    (hor : t.kind = .or) (h' : IsTerms us es) : IsTerms (ts ++ t :: us) (e :: es)

inductive IsTerm : List Token → Expr → Prop where
  | primitive {ts : List Token} {e : Expr} (h : IsPrimitive ts e) : IsTerm ts e
  | negation {ts : List Token} {t : Token} {e : Expr} (ht : t.kind = .not ∨ t.kind = .minus)
    (h : IsPrimitive ts e) : IsTerm (t :: ts) (.not e)

inductive IsPrimitive : List Token → Expr → Prop where
  | group {ts : List Token} {t u : Token} {e : Expr} (ht : t.kind = .opening)
    (h : IsExpression ts e) (hu : u.kind = .closing) : IsPrimitive (t :: (ts ++ [u])) e
  | comparison {ts us : List Token} {t : Token} {target : Target} {op : Operator} {literal : String}
    (h : IsPath ts target) (ht : t.kind = .comparator op) (h' : IsValue us literal) :
    IsPrimitive (ts ++ t :: us) (.leaf ⟨target, op, literal⟩)

end

inductive FurtherTerms : List Token → List Expr → Prop where
  | nil : FurtherTerms [] []
  | cons {ts us : List Token} {t : Token} {e : Expr} {es : List Expr} (hor : t.kind = .or)
    (h : IsTerm ts e) (h' : FurtherTerms us es) : FurtherTerms (t :: (ts ++ us)) (e :: es)

inductive FurtherFactors : List Token → List Expr → Prop where
  | nil : FurtherFactors [] []
  | and {ts us : List Token} {t : Token} {e : Expr} {es : List Expr} (hand : t.kind = .and)
    (h : IsFactor ts e) (h' : FurtherFactors us es) : FurtherFactors (t :: (ts ++ us)) (e :: es)
  | next {ts us : List Token} {e : Expr} {es : List Expr} (h : IsFactor ts e)
    (h' : FurtherFactors us es) : FurtherFactors (ts ++ us) (e :: es)

theorem IsTerms.of_further {ts us : List Token} {e : Expr} {es : List Expr} (h : IsTerm ts e)
    (h' : FurtherTerms us es) : IsTerms (ts ++ us) (e :: es) := by
  induction h' generalizing ts e with
  | nil =>
    rw [List.append_nil]
    exact .one h
  | cons hor hterm _ ih => exact .or h hor (ih hterm)

theorem IsTerms.further {ts : List Token} {es : List Expr} :
    IsTerms ts es → ∃ us vs e fs, ts = us ++ vs ∧ es = e :: fs ∧ IsTerm us e ∧ FurtherTerms vs fs
  | .one h => ⟨ts, [], _, [], by simp, rfl, h, .nil⟩
  | .or (t := t) h hor h' => by
    obtain ⟨us, vs, e, fs, rfl, rfl, hterm, hfurther⟩ := IsTerms.further h'
    exact ⟨_, t :: (us ++ vs), _, e :: fs, rfl, rfl, h, .cons hor hterm hfurther⟩

theorem IsSequences.cons {ts us : List Token} {e : Expr} {es : List Expr} (h : IsFactor ts e)
    (h' : IsSequences us es) : IsSequences (ts ++ us) (e :: es) := by
  cases h' with
  | one hs => exact .one (.cons h hs)
  | and hs hand hs' =>
    rw [← List.append_assoc, ← List.cons_append]
    exact .and (.cons h hs) hand hs'

theorem IsSequences.of_further {ts us : List Token} {e : Expr} {es : List Expr} (h : IsFactor ts e)
    (h' : FurtherFactors us es) : IsSequences (ts ++ us) (e :: es) := by
  induction h' generalizing ts e with
  | nil =>
    rw [List.append_nil]
    exact .one (.one h)
  | and hand hfactor _ ih => exact .and (.one h) hand (ih hfactor)
  | next hfactor _ ih => exact .cons h (ih hfactor)

theorem FurtherFactors.append {us vs : List Token} {es fs : List Expr} (h : FurtherFactors us es)
    (h' : FurtherFactors vs fs) : FurtherFactors (us ++ vs) (es ++ fs) := by
  induction h with
  | nil => exact h'
  | and hand hfactor _ ih =>
    rw [List.cons_append, List.append_assoc]
    exact .and hand hfactor ih
  | next hfactor _ ih =>
    rw [List.append_assoc]
    exact .next hfactor ih

theorem IsSequence.further {ts : List Token} {es : List Expr} :
    IsSequence ts es →
      ∃ us vs e fs, ts = us ++ vs ∧ es = e :: fs ∧ IsFactor us e ∧ FurtherFactors vs fs
  | .one h => ⟨ts, [], _, [], by simp, rfl, h, .nil⟩
  | .cons h h' => by
    obtain ⟨us, vs, e, fs, rfl, rfl, hfactor, hfurther⟩ := IsSequence.further h'
    exact ⟨_, us ++ vs, _, e :: fs, rfl, rfl, h, .next hfactor hfurther⟩

theorem IsSequences.further {ts : List Token} {es : List Expr} :
    IsSequences ts es →
      ∃ us vs e fs, ts = us ++ vs ∧ es = e :: fs ∧ IsFactor us e ∧ FurtherFactors vs fs
  | .one h => h.further
  | .and (t := t) h hand h' => by
    obtain ⟨us, vs, e, fs, rfl, rfl, hfactor, hfurther⟩ := h.further
    obtain ⟨us', vs', e', fs', rfl, rfl, hfactor', hfurther'⟩ := IsSequences.further h'
    refine ⟨us, vs ++ t :: (us' ++ vs'), e, fs ++ e' :: fs', by simp, by simp, hfactor, ?_⟩
    exact hfurther.append (.and hand hfactor' hfurther')

end Grammar

end LogSieve
