import LogSieve.Proofs.Lua.Syntax

/-!
This module contains what the reader of Lua makes of the pieces that scripts are composed of,
whatever comes behind them.
-/

namespace LogSieve.Lua

/--
The tokens of a text that is followed by a blank, by a closing parenthesis or by nothing.
-/
structure Spells (text : String) (ts : List Token) : Prop where
  tokens_eq : tokens text = ts
  space : Scans .idle (text ++ " ") ts .idle
  closing : Scans .idle (text ++ ")") (ts ++ [.symbol ")"]) .idle

theorem Spells.of_scans {text : String} {ts : List Token} (h : Scans .idle text ts .idle) :
    Spells text ts where
  tokens_eq := h.tokens_eq
  space := by
    have hspace : Scans .idle " " [] .idle := by decide
    simpa using h.append hspace
  closing := h.append (by decide)

theorem Spells.append {a b : String} {ts us : List Token} (ha : Scans .idle a ts .idle)
    (hb : Spells b us) : Spells (a ++ b) (ts ++ us) where
  tokens_eq := by
    unfold Scans at ha
    rw [← hb.tokens_eq]
    simp only [tokens, String.toList_append, State.run_append, ha, List.append_assoc]
  space := by
    rw [String.append_assoc]
    exact ha.append hb.space
  closing := by
    rw [String.append_assoc, List.append_assoc]
    exact ha.append hb.closing

namespace Reader

def EndsSuffixes (ts : List Token) : Prop := ∀ n e, suffixes (n + 1) e ts = some (e, ts)

structure EndsExpression (ts : List Token) : Prop where
  endsSuffixes : EndsSuffixes ts
  operations_eq : ∀ n limit e, operations (n + 1) limit e ts = some (e, ts)

theorem endsSuffixes_keyword (text : String) (ts : List Token) :
    EndsSuffixes (.keyword text :: ts) := by
  intro n e
  rfl

theorem endsExpression_nil : EndsExpression [] := ⟨fun _ _ => rfl, fun _ _ _ => rfl⟩

theorem endsExpression_closing (ts : List Token) : EndsExpression (.symbol ")" :: ts) :=
  ⟨fun _ _ => rfl, fun _ _ _ => rfl⟩

theorem endsExpression_end (ts : List Token) : EndsExpression (.keyword "end" :: ts) :=
  ⟨endsSuffixes_keyword "end" ts, fun _ _ _ => rfl⟩

def IsOperand (ts : List Token) (e : Exp) : Prop :=
  ∀ n rest, 10 * ts.length ≤ n → EndsSuffixes rest → operand n (ts ++ rest) = some (e, rest)

def IsExpression (limit : Nat) (ts : List Token) (e : Exp) : Prop :=
  ∀ n rest, 10 * ts.length + 5 ≤ n → EndsExpression rest →
    expression n limit (ts ++ rest) = some (e, rest)

def IsBody (ts : List Token) (body : List Statement) : Prop :=
  ∀ n rest, 10 * ts.length ≤ n →
    block n (ts ++ .keyword "end" :: rest) = some (body, .keyword "end" :: rest)

structure IsComparison (symbol : String) (op : BinaryOp) : Prop where
  scans : Scans .idle (symbol ++ " ") [.symbol symbol] .idle
  ofToken? : BinaryOp.ofToken? (.symbol symbol) = some op
  priority : BinaryOp.and.priority < op.priority
  endsSuffixes : ∀ rest, EndsSuffixes (.symbol symbol :: rest)

theorem expression_of_operand {n limit : Nat} {ts rest : List Token} {e : Exp}
    (h : operand n ts = some (e, rest)) :
    expression (n + 1) limit ts = operations n limit e rest := by
  rw [expression, h]

theorem operations_unary (n : Nat) (e : Exp) (ts : List Token) :
    operations (n + 1) unaryPriority e ts = some (e, ts) := by
  cases ts with
  | nil => rfl
  | cons t ts =>
    rw [operations]
    split
    . next op _ =>
      have hpriority : op.priority ≤ unaryPriority := by
        cases op <;> decide
      rw [if_pos hpriority]
    . rfl

theorem operations_of_expression {n limit : Nat} {t : Token} {op : BinaryOp} {ts rest : List Token}
    {e e' : Exp} (ht : BinaryOp.ofToken? t = some op) (hlimit : limit < op.priority)
    (h : expression n op.priority ts = some (e', rest)) :
    operations (n + 1) limit e (t :: ts) = operations n limit (.binary op e e') rest := by
  rw [operations, ht]
  simp only [if_neg (Nat.not_le.2 hlimit), h]

namespace IsOperand

variable {ts us : List Token} {e e' : Exp}

theorem isExpression (h : IsOperand ts e) (limit : Nat) : IsExpression limit ts e := by
  intro n rest hn hrest
  obtain ⟨m, rfl⟩ : ∃ m, n = m + 2 := ⟨n - 2, by omega⟩
  rw [expression_of_operand (h (m + 1) rest (by omega) hrest.endsSuffixes), hrest.operations_eq]

theorem not (h : IsOperand ts e) : IsOperand (.keyword "not" :: ts) (.not e) := by
  intro n rest hn hrest
  rw [List.length_cons] at hn
  obtain ⟨m, rfl⟩ : ∃ m, n = m + 3 := ⟨n - 3, by omega⟩
  rw [List.cons_append, operand, expression_of_operand (h (m + 1) _ (by omega) hrest),
    operations_unary]
  rfl

theorem minus (h : IsOperand ts e) : IsOperand (.symbol "-" :: ts) (.minus e) := by
  intro n rest hn hrest
  rw [List.length_cons] at hn
  obtain ⟨m, rfl⟩ : ∃ m, n = m + 3 := ⟨n - 3, by omega⟩
  rw [List.cons_append, operand, expression_of_operand (h (m + 1) _ (by omega) hrest),
    operations_unary]
  rfl

theorem comparison {symbol : String} {op : BinaryOp} (h : IsOperand ts e)
    (hop : IsComparison symbol op) (h' : IsOperand us e') {limit : Nat}
    (hlimit : limit < op.priority) :
    IsExpression limit (ts ++ .symbol symbol :: us) (.binary op e e') := by
  intro n rest hn hrest
  simp only [List.length_append, List.length_cons] at hn
  obtain ⟨m, rfl⟩ : ∃ m, n = m + 3 := ⟨n - 3, by omega⟩
  have hnext := h'.isExpression op.priority (m + 1) rest (by omega) hrest
  rw [List.append_assoc, List.cons_append,
    expression_of_operand (h (m + 2) _ (by omega) (hop.endsSuffixes _)),
    operations_of_expression hop.ofToken? hlimit hnext, hrest.operations_eq]

end IsOperand

theorem IsExpression.isOperand {ts : List Token} {e : Exp} (h : IsExpression 0 ts e) :
    IsOperand (.symbol "(" :: (ts ++ [.symbol ")"])) e := by
  intro n rest hn hrest
  simp only [List.length_cons, List.length_append, List.length_nil] at hn
  obtain ⟨m, rfl⟩ : ∃ m, n = m + 3 := ⟨n - 3, by omega⟩
  rw [List.cons_append, List.append_assoc, List.singleton_append, operand, simple,
    h (m + 1) _ (by omega) (endsExpression_closing rest)]
  . exact hrest m e
  . simp
  . simp

theorem IsExpression.expressions {ts : List Token} {e : Exp} (h : IsExpression 0 ts e) {n : Nat}
    (hn : 10 * ts.length + 6 ≤ n) (rest : List Token) :
    Reader.expressions n (ts ++ .symbol ")" :: rest) = some ([e], .symbol ")" :: rest) := by
  obtain ⟨m, rfl⟩ : ∃ m, n = m + 1 := ⟨n - 1, by omega⟩
  rw [Reader.expressions, h m _ (by omega) (endsExpression_closing rest)]
  simp

structure AreOperands (t : Token) (op : BinaryOp) (ts : List Token) (e : Exp) (es : List Exp) :
    Prop where
  isExpression : IsExpression 0 ts (es.foldl (.binary op) e)
  operations_eq : ∀ n first rest, 10 * ts.length + 6 ≤ n → EndsExpression rest →
    operations n 0 first (t :: (ts ++ rest)) = some ((e :: es).foldl (.binary op) first, rest)

section

variable {t : Token} {op : BinaryOp}

theorem IsOperand.areOperands_one {ts : List Token} {e : Exp} (h : IsOperand ts e)
    (ht : BinaryOp.ofToken? t = some op) : AreOperands t op ts e [] := by
  refine ⟨h.isExpression 0, ?_⟩
  intro n first rest hn hrest
  obtain ⟨m, rfl⟩ : ∃ m, n = m + 2 := ⟨n - 2, by omega⟩
  have hoperand := h.isExpression op.priority (m + 1) rest (by omega) hrest
  rw [operations_of_expression ht op.priority_pos hoperand, hrest.operations_eq]
  rfl

theorem IsOperand.areOperands_cons {ts us : List Token} {e e' : Exp} {es : List Exp}
    (h : IsOperand ts e) (ht : BinaryOp.ofToken? t = some op)
    (hends : ∀ rest, EndsSuffixes (t :: rest)) (h' : AreOperands t op us e' es) :
    AreOperands t op (ts ++ t :: us) e (e' :: es) := by
  refine ⟨?_, ?_⟩
  . intro n rest hn hrest
    simp only [List.length_append, List.length_cons] at hn
    obtain ⟨m, rfl⟩ : ∃ m, n = m + 1 := ⟨n - 1, by omega⟩
    rw [List.append_assoc, List.cons_append, expression_of_operand (h m _ (by omega) (hends _)),
      h'.operations_eq m e rest (by omega) hrest]
  . intro n first rest hn hrest
    simp only [List.length_append, List.length_cons] at hn
    obtain ⟨m, rfl⟩ : ∃ m, n = m + 3 := ⟨n - 3, by omega⟩
    -- The operator behind the operand has the same priority, so it is not applied to it first.
    have hoperand : expression (m + 2) op.priority (ts ++ t :: (us ++ rest)) =
        some (e, t :: (us ++ rest)) := by
      rw [expression_of_operand (h (m + 1) _ (by omega) (hends _)), operations, ht]
      simp
    rw [List.append_assoc, List.cons_append,
      operations_of_expression ht op.priority_pos hoperand]
    exact h'.operations_eq (m + 2) (.binary op first e) rest (by omega) hrest

end

theorem IsBody.function {bs : List Token} {body : List Statement} (h : IsBody bs body)
    (parameter : String) :
    IsOperand (.keyword "function" :: .symbol "(" :: .name parameter :: .symbol ")" ::
      (bs ++ [.keyword "end"])) (.function parameter body) := by
  intro n rest hn _
  simp only [List.length_cons, List.length_append, List.length_nil] at hn
  obtain ⟨m, rfl⟩ : ∃ m, n = m + 2 := ⟨n - 2, by omega⟩
  have hblock := h m rest (by omega)
  simp only [List.cons_append, List.append_assoc, List.nil_append]
  rw [operand, simple, hblock]
  . rfl
  . simp
  . simp

theorem IsBody.isOperand {bs vs : List Token} {body : List Statement} {e : Exp} (h : IsBody bs body)
    (h' : IsOperand vs e) (parameter : String) :
    IsOperand (.symbol "(" :: .keyword "function" :: .symbol "(" :: .name parameter :: .symbol ")" ::
      (bs ++ .keyword "end" :: .symbol ")" :: .symbol "(" :: (vs ++ [.symbol ")"])))
      (.call (.function parameter body) [e]) := by
  intro n rest hn hrest
  simp only [List.length_cons, List.length_append, List.length_nil] at hn
  obtain ⟨m, rfl⟩ : ∃ m, n = m + 4 := ⟨n - 4, by omega⟩
  have hfunction := (h.function parameter).isExpression 0 (m + 2) _ (by simp; omega)
    (endsExpression_closing (.symbol "(" :: (vs ++ .symbol ")" :: rest)))
  have harguments : expressions (m + 1) (vs ++ .symbol ")" :: rest) =
      some ([e], .symbol ")" :: rest) :=
    (h'.isExpression 0).expressions (by omega) rest
  simp only [List.cons_append, List.append_assoc, List.nil_append] at hfunction ⊢
  rw [operand, simple, hfunction]
  . simp only [suffixes]
    rw [harguments]
    exact hrest m _
  . simp
  . simp

end Reader

end LogSieve.Lua
