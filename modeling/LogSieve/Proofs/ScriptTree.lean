import LogSieve.Expr.Script
import LogSieve.Proofs.Lua.Reading

/-!
This module contains the syntax trees of scripts: the script of an expression is read as its tree.
-/

namespace LogSieve

open Lua

namespace Script

def pathLoop (path : List String) : List Statement :=
  [.forIn "_" "k" (.call (.name "ipairs") [.table (path.map .string)])
    [.ifThen (.binary .differs (.call (.name "type") [.name "v"]) (.string "table")) [.giveBack .nil],
      .assign "v" (.index (.name "v") (.name "k"))],
    .giveBack (.name "v")]

def fieldTree : List String → Exp
  | [segment] => .index (.name "record") (.string segment)
  | path => .call (.function "v" (pathLoop path)) [.name "record"]

def nilTree (op : BinaryOp) (e : Exp) : Exp := .binary op e .nil

def markerTree (marker : String) : Exp := .index (.name "record") (.string marker)

def shown : Exp := .call (.name "tostring") [.name "v"]

def giveBackIf (e : Exp) : Statement := .giveBack (.binary .and (nilTree .differs (.name "v")) e)

def joinedTree (op : BinaryOp) (neutral : Exp) : List Exp → Exp
  | [] => neutral
  | e :: es => es.foldl (.binary op) e

end Script

open Script

def Relation.op : Relation → BinaryOp
  | .lt => .lt
  | .le => .le
  | .gt => .gt
  | .ge => .ge

def Double.tree : Double → Exp
  | .finite negative 0 _ => signedTree negative "0"
  | .finite negative m q => signedTree negative ((Decimal.ofNonzero .up m q).positional 0)
  | _ => .nil
where
  signedTree (negative : Bool) (text : String) : Exp :=
    if negative then .minus (.number text) else .number text

namespace Comparison

def closureBody (c : Comparison) : List Statement :=
  match c.operator with
  | .has =>
    let needle := String.ofList (Text.lower c.literal.toList)
    let lowered : Exp := .call (.index (.name "string") (.string "lower")) [shown]
    [giveBackIf (nilTree .differs (.call (.index (.name "string") (.string "find"))
      [lowered, .string needle, .number "1", .true]))]
  | .order relation =>
    match c.number? with
    | some number =>
      [.assign "v" (.call (.name "tonumber") [.name "v"]),
        giveBackIf (.binary relation.op (.name "v") number.tree)]
    | none => [giveBackIf (.binary relation.op shown (.string c.literal))]
  | _ => [giveBackIf (.binary .equal shown (.string c.literal))]

def closure (c : Comparison) : Exp := .function "v" c.closureBody

def tree (c : Comparison) (key : String) : Exp :=
  let value := fieldTree c.target.segments
  match c.operator with
  | .like => nilTree .differs (markerTree key)
  | .unlike => nilTree .equal (markerTree key)
  | .differs => .not (.call c.closure [value])
  | .has => if c.literal = "*" then nilTree .differs value else .call c.closure [value]
  | _ => .call c.closure [value]

end Comparison

namespace Expr

mutual

def tree (key : String) : Expr → Exp
  | .leaf c => c.tree key
  | .not e => .not (tree key e)
  | .all es => joinedTree .and .true (trees key 0 es)
  | .any es => joinedTree .or .false (trees key 0 es)

def trees (key : String) (i : Nat) : List Expr → List Exp
  | [] => []
  | e :: es => tree (childKey key i) e :: trees key (i + 1) es

end

end Expr

namespace Script

open Lua.Reader

def IsScript (text : String) (e : Exp) : Prop := ∃ ts, Spells text ts ∧ IsOperand ts e

/--
A text whose last token is complete is read as a tree wherever an operand may stand.
-/
def IsClosed (text : String) (e : Exp) : Prop := ∃ ts, Scans .idle text ts .idle ∧ IsOperand ts e

theorem IsClosed.isScript {text : String} {e : Exp} (h : IsClosed text e) : IsScript text e := by
  obtain ⟨ts, hts, hoperand⟩ := h
  exact ⟨ts, .of_scans hts, hoperand⟩

theorem IsScript.read? {text : String} {e : Exp} (h : IsScript text e) : read? text = some e := by
  obtain ⟨ts, hts, hoperand⟩ := h
  have hread := hoperand.isExpression 0 (10 * ts.length + 10) [] (by omega) endsExpression_nil
  rw [List.append_nil] at hread
  unfold Lua.read?
  rw [hts.tokens_eq]
  simp only [hread]

theorem isClosed_group {text : String} {ts : List Token} {e : Exp} (h : Spells text ts)
    (h' : IsExpression 0 ts e) : IsClosed ("(" ++ text ++ ")") e := by
  refine ⟨_, ?_, h'.isOperand⟩
  have hopening : Scans .idle "(" [.symbol "("] .idle := by decide
  rw [String.append_assoc]
  exact hopening.append h.closing

theorem isClosed_negated {text : String} {e : Exp} (h : IsScript text e) :
    IsClosed (negated text) (.not e) := by
  obtain ⟨ts, hts, hoperand⟩ := h
  have hnot : Scans .idle "not " [.keyword "not"] .idle := by decide
  have hclosed := isClosed_group (Spells.append hnot hts) (hoperand.not.isExpression 0)
  have htext : negated text = "(" ++ ("not " ++ text) ++ ")" := by
    simp only [negated, ← String.append_assoc]
    rfl
  rw [htext]
  exact hclosed

theorem isComparison_equal : IsComparison "==" .equal := by
  refine ⟨by decide, rfl, by decide, ?_⟩
  intro rest n e
  rfl

theorem isComparison_differs : IsComparison "~=" .differs := by
  refine ⟨by decide, rfl, by decide, ?_⟩
  intro rest n e
  rfl

theorem isComparison_relation (relation : Relation) : IsComparison relation.text relation.op := by
  cases relation <;> exact ⟨by decide, rfl, by decide, fun _ _ _ => rfl⟩

theorem isScript_constant {text : String} {e : Exp} (h : Spells text [.keyword text])
    (h' : ∀ n rest, operand (n + 2) (.keyword text :: rest) = some (e, rest)) : IsScript text e := by
  refine ⟨_, h, ?_⟩
  intro n rest hn _
  obtain ⟨m, rfl⟩ : ∃ m, n = m + 2 := ⟨n - 2, by simp at hn; omega⟩
  exact h' m rest

theorem isScript_nil : IsScript "nil" .nil :=
  isScript_constant ⟨by decide, by decide, by decide⟩ fun _ _ => rfl

theorem isScript_true : IsScript "true" .true :=
  isScript_constant ⟨by decide, by decide, by decide⟩ fun _ _ => rfl

theorem isScript_false : IsScript "false" .false :=
  isScript_constant ⟨by decide, by decide, by decide⟩ fun _ _ => rfl

theorem isScript_name {text : String} (h : Spells text [.name text]) : IsScript text (.name text) := by
  refine ⟨_, h, ?_⟩
  intro n rest hn hrest
  obtain ⟨m, rfl⟩ : ∃ m, n = m + 3 := ⟨n - 3, by simp at hn; omega⟩
  exact hrest m _

theorem isClosed_quote (s : String) : IsClosed (quote s) (.string s) := by
  refine ⟨[.string s], scans_quote s, ?_⟩
  intro n rest hn _
  obtain ⟨m, rfl⟩ : ∃ m, n = m + 2 := ⟨n - 2, by simp at hn; omega⟩
  rfl

theorem isClosed_nilTree {text ending symbol : String} {e : Exp} {op : BinaryOp}
    (h : IsClosed text e) (hop : IsComparison symbol op)
    (hending : ending = " " ++ symbol ++ " " ++ ("nil" ++ ")")) :
    IsClosed ("(" ++ text ++ ending) (nilTree op e) := by
  obtain ⟨ts, hts, hoperand⟩ := h
  obtain ⟨us, hus, hoperand'⟩ := isScript_nil
  have hspells := Spells.append ((Spells.of_scans hts).space.append hop.scans) hus
  rw [List.append_assoc, List.singleton_append] at hspells
  have hclosed := isClosed_group hspells (hoperand.comparison hop hoperand' op.priority_pos)
  rw [hending, nilTree]
  simpa only [String.append_assoc] using hclosed

theorem isClosed_isSet {text : String} {e : Exp} (h : IsClosed text e) :
    IsClosed ("(" ++ text ++ " ~= nil)") (nilTree .differs e) :=
  isClosed_nilTree h isComparison_differs rfl

theorem isClosed_record (s : String) :
    IsClosed ("record[" ++ quote s ++ "]") (.index (.name "record") (.string s)) := by
  refine ⟨[.name "record", .symbol "["] ++ [.string s] ++ [.symbol "]"], ?_, ?_⟩
  . apply Scans.append
    . apply Scans.append _ (scans_quote s)
      decide
    . decide
  . intro n rest hn hrest
    obtain ⟨m, rfl⟩ : ∃ m, n = m + 8 := ⟨n - 8, by simp at hn; omega⟩
    exact hrest (m + 4) _

def stringTokens : List String → List Token
  | [] => []
  | [s] => [.string s]
  | s :: ss => .string s :: .symbol "," :: stringTokens ss

theorem scans_strings (s : String) (ss : List String) :
    Scans .idle (", ".intercalate ((s :: ss).map quote)) (stringTokens (s :: ss)) .idle := by
  induction ss generalizing s with
  | nil => exact scans_quote s
  | cons s' ss ih =>
    have hcomma : Scans .idle ", " [.symbol ","] .idle := by decide
    rw [List.map_cons, List.map_cons, String.intercalate_cons_cons]
    exact ((scans_quote s).append hcomma).append (ih s')

theorem expressions_strings (s : String) (ss : List String) (n : Nat) (rest : List Token)
    (hn : 10 * (stringTokens (s :: ss)).length ≤ n) :
    expressions n (stringTokens (s :: ss) ++ .symbol "\x7d" :: rest) =
      some ((s :: ss).map .string, .symbol "\x7d" :: rest) := by
  induction ss generalizing s n with
  | nil =>
    obtain ⟨m, rfl⟩ : ∃ m, n = m + 6 := ⟨n - 6, by simp [stringTokens] at hn; omega⟩
    rfl
  | cons s' ss ih =>
    simp only [stringTokens, List.length_cons] at hn
    obtain ⟨m, rfl⟩ : ∃ m, n = m + 6 := ⟨n - 6, by omega⟩
    have hnext := ih s' (m + 5) (by omega)
    have hfirst : ∀ ts, expression (m + 5) 0 (.string s :: .symbol "," :: ts) =
        some (.string s, .symbol "," :: ts) := by
      intro ts
      rfl
    rw [stringTokens, List.cons_append, List.cons_append, expressions, hfirst]
    . simp only [hnext]
      rfl
    . simp

def loopStart : List Token :=
  [.keyword "for", .name "_", .symbol ",", .name "k", .keyword "in", .name "ipairs", .symbol "(",
    .symbol "\x7b"]

def loopEnd : List Token :=
  [.symbol "\x7d", .symbol ")", .keyword "do", .keyword "if", .name "type", .symbol "(", .name "v",
    .symbol ")", .symbol "~=", .string "table", .keyword "then", .keyword "return", .keyword "nil",
    .keyword "end", .name "v", .symbol "=", .name "v", .symbol "[", .name "k", .symbol "]",
    .keyword "end", .keyword "return", .name "v"]

theorem expression_ipairs (s : String) (ss : List String) {n : Nat} (ts : List Token)
    (hn : 10 * (stringTokens (s :: ss)).length ≤ n) :
    expression (n + 8) 0 (.name "ipairs" :: .symbol "(" :: .symbol "\x7b" ::
        (stringTokens (s :: ss) ++ .symbol "\x7d" :: .symbol ")" :: .keyword "do" :: ts)) =
      some (.call (.name "ipairs") [.table ((s :: ss).map .string)], .keyword "do" :: ts) := by
  have hstrings := expressions_strings s ss n (.symbol ")" :: .keyword "do" :: ts) hn
  have htable : operand (n + 2) (.symbol "\x7b" :: (stringTokens (s :: ss) ++
      .symbol "\x7d" :: .symbol ")" :: .keyword "do" :: ts)) =
      some (.table ((s :: ss).map .string), .symbol ")" :: .keyword "do" :: ts) := by
    rw [operand, simple, hstrings]
    . rfl
    . simp
    . simp
  have harguments : expressions (n + 4) (.symbol "\x7b" :: (stringTokens (s :: ss) ++
      .symbol "\x7d" :: .symbol ")" :: .keyword "do" :: ts)) =
      some ([.table ((s :: ss).map .string)], .symbol ")" :: .keyword "do" :: ts) := by
    rw [expressions, expression_of_operand htable, (endsExpression_closing _).operations_eq]
    rfl
  have hoperand : operand (n + 7) (.name "ipairs" :: .symbol "(" :: .symbol "\x7b" ::
      (stringTokens (s :: ss) ++ .symbol "\x7d" :: .symbol ")" :: .keyword "do" :: ts)) =
      some (.call (.name "ipairs") [.table ((s :: ss).map .string)], .keyword "do" :: ts) := by
    rw [operand, simple, suffixes, harguments]
    . rfl
    . simp
    . simp
  rw [expression_of_operand hoperand]
  rfl

theorem isBody_pathLoop (s : String) (ss : List String) :
    IsBody (loopStart ++ stringTokens (s :: ss) ++ loopEnd) (pathLoop (s :: ss)) := by
  intro n rest hn
  simp only [List.length_append, loopStart, loopEnd, List.length_cons, List.length_nil] at hn
  obtain ⟨m, rfl⟩ : ∃ m, n = m + 20 := ⟨n - 20, by omega⟩
  -- Only the list of the loop depends on the path, so the other tokens are read by computation.
  have htext : loopStart ++ stringTokens (s :: ss) ++ loopEnd ++ .keyword "end" :: rest =
      .keyword "for" :: .name "_" :: .symbol "," :: .name "k" :: .keyword "in" :: .name "ipairs" ::
        .symbol "(" :: .symbol "\x7b" :: (stringTokens (s :: ss) ++ .symbol "\x7d" :: .symbol ")" ::
          .keyword "do" :: (loopEnd.drop 3 ++ .keyword "end" :: rest)) := by
    simp [loopStart, loopEnd]
  rw [htext, block, expression_ipairs s ss _ (by omega)]
  rfl

theorem scans_pathLoop (s : String) (ss : List String) :
    Scans .idle ("for _, k in ipairs(\x7b" ++ ", ".intercalate ((s :: ss).map quote) ++
        "\x7d) do if type(v) ~= \"table\" then return nil end v = v[k] end return v" ++ " ")
      (loopStart ++ stringTokens (s :: ss) ++ loopEnd) .idle := by
  rw [String.append_assoc]
  apply Scans.append
  . apply Scans.append _ (scans_strings s ss)
    decide
  . decide

theorem test_eq (body value : String) :
    test body value = "(function(v) " ++ ((body ++ " ") ++ ("end)(" ++ (value ++ ")"))) := by
  -- The blank belongs to the body, as it ends the last token of it.
  have hspace : " end)(" = " " ++ "end)(" := rfl
  unfold test
  simp only [hspace, String.append_assoc, -String.reduceAppend]

theorem isClosed_test {body value : String} {bs : List Token} {statements : List Statement} {e : Exp}
    (hbody : Scans .idle (body ++ " ") bs .idle) (hstatements : IsBody bs statements)
    (hvalue : IsScript value e) :
    IsClosed (test body value) (.call (.function "v" statements) [e]) := by
  obtain ⟨vs, hvs, hoperand⟩ := hvalue
  have hstart : Scans .idle "(function(v) " [.symbol "(", .keyword "function", .symbol "(", .name "v",
    .symbol ")"] .idle := by decide
  have hcall : Scans .idle "end)(" [.keyword "end", .symbol ")", .symbol "("] .idle := by decide
  refine ⟨_, ?_, hstatements.isOperand hoperand "v"⟩
  rw [test_eq]
  exact hstart.append (hbody.append (hcall.append hvs.closing))

theorem field_cons_cons (s s' : String) (ss : List String) :
    field (s :: s' :: ss) =
      test ("for _, k in ipairs(\x7b" ++ ", ".intercalate ((s :: s' :: ss).map quote) ++
        "\x7d) do if type(v) ~= \"table\" then return nil end v = v[k] end return v") "record" := by
  have hstart : "(function(v) for _, k in ipairs(\x7b" =
      "(function(v) " ++ "for _, k in ipairs(\x7b" := rfl
  have hend : "\x7d) do if type(v) ~= \"table\" then return nil end v = v[k] end return v end)(record)" =
      "\x7d) do if type(v) ~= \"table\" then return nil end v = v[k] end return v" ++ (" end)(" ++
        ("record" ++ ")")) := rfl
  unfold field test
  simp only [hstart, hend, String.append_assoc]

theorem isClosed_field {path : List String} (h : path ≠ []) : IsClosed (field path) (fieldTree path) := by
  match path with
  | [s] => exact isClosed_record s
  | s :: s' :: ss =>
    have hrecord : IsScript "record" (.name "record") :=
      isScript_name ⟨by decide, by decide, by decide⟩
    rw [field_cons_cons]
    exact isClosed_test (scans_pathLoop s (s' :: ss)) (isBody_pathLoop s (s' :: ss)) hrecord

def IsBodyText (text : String) (body : List Statement) : Prop :=
  ∃ ts, Scans .idle (text ++ " ") ts .idle ∧ IsBody ts body

def guardTokens : List Token :=
  [.keyword "return", .name "v", .symbol "~=", .keyword "nil", .keyword "and"]

theorem isBody_giveBackIf {ts : List Token} {e : Exp} (h : IsExpression BinaryOp.and.priority ts e) :
    IsBody (guardTokens ++ ts) [giveBackIf e] := by
  intro n rest hn
  simp only [guardTokens, List.length_append, List.length_cons, List.length_nil] at hn
  obtain ⟨m, rfl⟩ : ∃ m, n = m + 6 := ⟨n - 6, by omega⟩
  -- The conjunction binds weaker than the comparison with `nil`, which is complete at its operator.
  have hguard : ∀ us, expression (m + 5) 0 (.name "v" :: .symbol "~=" :: .keyword "nil" ::
      .keyword "and" :: us) =
      operations (m + 3) 0 (nilTree .differs (.name "v")) (.keyword "and" :: us) := by
    intro us
    rfl
  have hconjunct := h (m + 2) _ (by omega) (endsExpression_end rest)
  rw [List.append_assoc]
  simp only [guardTokens, List.cons_append, List.nil_append]
  rw [block, hguard, operations_of_expression rfl (by decide) hconjunct,
    (endsExpression_end rest).operations_eq]
  rfl

def assignTokens : List Token :=
  [.name "v", .symbol "=", .name "tonumber", .symbol "(", .name "v", .symbol ")"]

theorem isBody_assign {ts : List Token} {e : Exp} (h : IsExpression BinaryOp.and.priority ts e) :
    IsBody (assignTokens ++ guardTokens ++ ts)
      [.assign "v" (.call (.name "tonumber") [.name "v"]), giveBackIf e] := by
  intro n rest hn
  rw [List.append_assoc, List.length_append] at hn
  simp only [assignTokens, List.length_cons, List.length_nil] at hn
  obtain ⟨m, rfl⟩ : ∃ m, n = m + 11 := ⟨n - 11, by omega⟩
  have hbody := isBody_giveBackIf h (m + 10) rest (by omega)
  -- The keyword behind the call cannot continue it.
  have hassign : ∀ us, block (m + 11) (.name "v" :: .symbol "=" :: .name "tonumber" ::
      .symbol "(" :: .name "v" :: .symbol ")" :: .keyword "return" :: us) =
      (block (m + 10) (.keyword "return" :: us)).map fun r =>
        (.assign "v" (.call (.name "tonumber") [.name "v"]) :: r.1, r.2) := by
    intro us
    rfl
  simp only [assignTokens, guardTokens, List.cons_append, List.nil_append] at hbody ⊢
  rw [hassign, hbody]
  rfl

def IsConjunctText (text : String) (e : Exp) : Prop :=
  ∃ ts, Scans .idle (text ++ " ") ts .idle ∧ IsExpression BinaryOp.and.priority ts e

theorem isConjunctText_comparison {a b symbol : String} {us : List Token} {e e' : Exp}
    {op : BinaryOp} (ha : IsScript a e) (hop : IsComparison symbol op)
    (hb : Scans .idle (b ++ " ") us .idle) (hoperand : IsOperand us e') :
    IsConjunctText (a ++ (" " ++ (symbol ++ (" " ++ b)))) (.binary op e e') := by
  obtain ⟨ts, hts, hoperand'⟩ := ha
  refine ⟨_, ?_, hoperand'.comparison hop hoperand hop.priority⟩
  have hscans := hts.space.append (hop.scans.append hb)
  simpa only [String.append_assoc, List.singleton_append] using hscans

theorem IsConjunctText.isBodyText {text : String} {e : Exp} (h : IsConjunctText text e) :
    IsBodyText ("return v ~= nil and " ++ text) [giveBackIf e] := by
  obtain ⟨ts, hts, hconjunct⟩ := h
  have hguard : Scans .idle "return v ~= nil and " guardTokens .idle := by decide
  refine ⟨guardTokens ++ ts, ?_, isBody_giveBackIf hconjunct⟩
  rw [String.append_assoc]
  exact hguard.append hts

theorem IsConjunctText.isBodyText_tonumber {text : String} {e : Exp} (h : IsConjunctText text e) :
    IsBodyText ("v = tonumber(v) return v ~= nil and " ++ text)
      [.assign "v" (.call (.name "tonumber") [.name "v"]), giveBackIf e] := by
  obtain ⟨ts, hts, hconjunct⟩ := h
  have hstart : Scans .idle "v = tonumber(v) return v ~= nil and " (assignTokens ++ guardTokens)
      .idle := by
    decide
  refine ⟨assignTokens ++ guardTokens ++ ts, ?_, isBody_assign hconjunct⟩
  rw [String.append_assoc]
  exact hstart.append hts

theorem isScript_shown : IsScript "tostring(v)" shown := by
  refine ⟨[.name "tostring", .symbol "(", .name "v", .symbol ")"],
    ⟨by decide, by decide, by decide⟩, ?_⟩
  intro n rest hn hrest
  obtain ⟨m, rfl⟩ : ∃ m, n = m + 8 := ⟨n - 8, by simp at hn; omega⟩
  exact hrest (m + 4) _

theorem isBodyText_literal {symbol : String} {op : BinaryOp} (hop : IsComparison symbol op)
    (literal : String) :
    IsBodyText ("return v ~= nil and tostring(v) " ++ symbol ++ " " ++ quote literal)
      [giveBackIf (.binary op shown (.string literal))] := by
  obtain ⟨ts, hts, hoperand⟩ := isClosed_quote literal
  have hbody := (isConjunctText_comparison isScript_shown hop (Spells.of_scans hts).space hoperand).isBodyText
  have htext : "return v ~= nil and tostring(v) " = "return v ~= nil and " ++ ("tostring(v)" ++ " ") :=
    rfl
  rw [htext]
  simpa only [String.append_assoc] using hbody

theorem isBodyText_equals (literal : String) :
    IsBodyText ("return v ~= nil and tostring(v) == " ++ quote literal)
      [giveBackIf (.binary .equal shown (.string literal))] := by
  have htext : "return v ~= nil and tostring(v) == " =
      "return v ~= nil and tostring(v) " ++ "==" ++ " " := rfl
  rw [htext]
  exact isBodyText_literal isComparison_equal literal

theorem isClosed_find (needle : String) :
    IsClosed ("string.find(string.lower(tostring(v)), " ++ quote needle ++ ", 1, true)")
      (.call (.index (.name "string") (.string "find"))
        [.call (.index (.name "string") (.string "lower")) [shown], .string needle, .number "1",
          .true]) := by
  refine ⟨[.name "string", .symbol ".", .name "find", .symbol "(", .name "string", .symbol ".",
    .name "lower", .symbol "(", .name "tostring", .symbol "(", .name "v", .symbol ")", .symbol ")",
    .symbol ","] ++ [.string needle] ++ [.symbol ",", .number "1", .symbol ",", .keyword "true",
    .symbol ")"], ?_, ?_⟩
  . apply Scans.append
    . apply Scans.append _ (scans_quote needle)
      decide
    . decide
  . intro n rest hn hrest
    obtain ⟨m, rfl⟩ : ∃ m, n = m + 30 := ⟨n - 30, by simp at hn; omega⟩
    exact hrest (m + 25) _

theorem isBodyText_contains (needle : String) :
    IsBodyText ("return v ~= nil and string.find(string.lower(tostring(v)), " ++ quote needle ++
        ", 1, true) ~= nil")
      [giveBackIf (nilTree .differs (.call (.index (.name "string") (.string "find"))
        [.call (.index (.name "string") (.string "lower")) [shown], .string needle, .number "1",
          .true]))] := by
  obtain ⟨ts, hts, hoperand⟩ := isScript_nil
  have hbody := (isConjunctText_comparison (isClosed_find needle).isScript isComparison_differs
    hts.space hoperand).isBodyText
  have hstart : "return v ~= nil and string.find(string.lower(tostring(v)), " =
      "return v ~= nil and " ++ "string.find(string.lower(tostring(v)), " := rfl
  have hend : ", 1, true) ~= nil" = ", 1, true)" ++ (" " ++ ("~=" ++ (" " ++ "nil"))) := rfl
  rw [hstart, hend, nilTree]
  simpa only [String.append_assoc] using hbody

theorem exists_numeral {number : Double} (h : number.isFinite = true) :
    ∃ negative text, number.plainText = Double.signText negative ++ text ∧
      number.tree = Double.tree.signedTree negative text ∧ IsNumeral text.toList := by
  cases number with
  | finite negative m q =>
    cases m with
    | zero =>
      refine ⟨negative, "0", rfl, rfl, ?_⟩
      exact isNumeral_of_digits (by decide) (List.all_eq_true.1 (by decide))
    | succ m => exact ⟨negative, _, rfl, rfl, isNumeral_positional _⟩
  | infinite negative => simp [Double.isFinite] at h
  | nan => simp [Double.isFinite] at h

theorem exists_operand_plainText {number : Double} (h : number.isFinite = true) :
    ∃ ts, Scans .idle (number.plainText ++ " ") ts .idle ∧ IsOperand ts number.tree := by
  obtain ⟨negative, text, htext, htree, hnumeral⟩ := exists_numeral h
  have hnumber : IsOperand [.number text] (.number text) := by
    intro n rest hn _
    obtain ⟨m, rfl⟩ : ∃ m, n = m + 2 := ⟨n - 2, by simp at hn; omega⟩
    rfl
  rw [htext, htree, String.append_assoc]
  refine ⟨_, scans_signed hnumeral negative, ?_⟩
  cases negative with
  | false => exact hnumber
  | true => exact hnumber.minus

theorem isBodyText_orderedNumber (relation : Relation) {number : Double}
    (h : number.isFinite = true) :
    IsBodyText ("v = tonumber(v) return v ~= nil and v " ++ relation.text ++ " " ++ number.plainText)
      [.assign "v" (.call (.name "tonumber") [.name "v"]),
        giveBackIf (.binary relation.op (.name "v") number.tree)] := by
  obtain ⟨ts, hts, hoperand⟩ := exists_operand_plainText h
  have hname : IsScript "v" (.name "v") := isScript_name ⟨by decide, by decide, by decide⟩
  have hbody := (isConjunctText_comparison hname (isComparison_relation relation) hts
    hoperand).isBodyText_tonumber
  have htext : "v = tonumber(v) return v ~= nil and v " =
      "v = tonumber(v) return v ~= nil and " ++ ("v" ++ " ") := rfl
  rw [htext]
  simpa only [String.append_assoc] using hbody

theorem IsBodyText.isClosed {text value : String} {body : List Statement} {e : Exp}
    (h : IsBodyText text body) (h' : IsClosed value e) :
    IsClosed (test text value) (.call (.function "v" body) [e]) := by
  obtain ⟨ts, hts, hbody⟩ := h
  exact isClosed_test hts hbody h'.isScript

theorem isClosed_marker {marker ending symbol : String} {op : BinaryOp} (hop : IsComparison symbol op)
    (hending : ending = "]" ++ (" " ++ symbol ++ " " ++ ("nil" ++ ")"))) :
    IsClosed ("(record[" ++ quote marker ++ ending) (nilTree op (markerTree marker)) := by
  have hclosed := isClosed_nilTree (isClosed_record marker) hop rfl
  have hstart : "(record[" = "(" ++ "record[" := rfl
  rw [hstart, hending, markerTree]
  simpa only [String.append_assoc] using hclosed

end Script

theorem Comparison.isFinite_of_number? {c : Comparison} {number : Double}
    (h : c.number? = some number) : number.isFinite = true := by
  unfold Comparison.number? at h
  exact (Option.filter_eq_some_iff.1 h).2

theorem Comparison.isClosed_script (c : Comparison) (key : String) :
    IsClosed (c.script key) (c.tree key) := by
  have hvalue : IsClosed c.target.script (fieldTree c.target.segments) :=
    isClosed_field c.target.segments_ne_nil
  have hequals : IsClosed (Script.equals c.target.script c.literal) (.call (.function "v"
      [giveBackIf (.binary .equal shown (.string c.literal))]) [fieldTree c.target.segments]) :=
    (isBodyText_equals c.literal).isClosed hvalue
  unfold Comparison.script Comparison.tree Comparison.closure Comparison.closureBody
  split
  . next h =>
    simp only [h]
    exact isClosed_marker isComparison_differs rfl
  . next h =>
    simp only [h]
    exact isClosed_marker isComparison_equal rfl
  . next h =>
    simp only [h]
    exact hequals
  . next h =>
    simp only [h]
    exact isClosed_negated hequals.isScript
  . next h =>
    simp only [h]
    split
    . exact isClosed_isSet hvalue
    . exact (isBodyText_contains _).isClosed hvalue
  . next relation h =>
    simp only [h]
    cases hnumber : c.number? with
    | some number =>
      exact (isBodyText_orderedNumber relation (isFinite_of_number? hnumber)).isClosed hvalue
    | none => exact (isBodyText_literal (isComparison_relation relation) c.literal).isClosed hvalue

namespace Expr

open Lua.Reader

structure IsConnective (word : String) (op : BinaryOp) : Prop where
  scans : Scans .idle (word ++ " ") [.keyword word] .idle
  ofToken? : BinaryOp.ofToken? (.keyword word) = some op

mutual

theorem isScript_script (key : String) : (e : Expr) → IsScript (e.script key) (e.tree key)
  | .leaf c => (c.isClosed_script key).isScript
  | .not e => (isClosed_negated (isScript_script key e)).isScript
  | .all [] => isScript_true
  | .any [] => isScript_false
  | .all (e :: es) => by
    have hconnective : IsConnective "and" .and := ⟨by decide, rfl⟩
    obtain ⟨ts, hts, hoperands⟩ := exists_operands_scripts hconnective key 0 e es
    exact (isClosed_group hts hoperands.isExpression).isScript
  | .any (e :: es) => by
    have hconnective : IsConnective "or" .or := ⟨by decide, rfl⟩
    obtain ⟨ts, hts, hoperands⟩ := exists_operands_scripts hconnective key 0 e es
    exact (isClosed_group hts hoperands.isExpression).isScript
termination_by e => sizeOf e

theorem exists_operands_scripts {word : String} {op : BinaryOp} (h : IsConnective word op)
    (key : String) (i : Nat) (e : Expr) : (es : List Expr) →
      ∃ ts, Spells ((" " ++ word ++ " ").intercalate (scripts key i (e :: es))) ts ∧
        AreOperands (.keyword word) op ts (e.tree (childKey key i)) (trees key (i + 1) es)
  | [] => by
    obtain ⟨ts, hts, hoperand⟩ := isScript_script (childKey key i) e
    exact ⟨ts, hts, hoperand.areOperands_one h.ofToken?⟩
  | e' :: es => by
    obtain ⟨ts, hts, hoperand⟩ := isScript_script (childKey key i) e
    obtain ⟨us, hus, hoperands⟩ := exists_operands_scripts h key (i + 1) e' es
    have hspells := Spells.append (hts.space.append h.scans) hus
    refine ⟨ts ++ .keyword word :: us, ?_,
      hoperand.areOperands_cons h.ofToken? (endsSuffixes_keyword word) hoperands⟩
    simp only [scripts, String.intercalate_cons_cons]
    simpa only [String.append_assoc, List.append_assoc, List.singleton_append, scripts] using hspells
termination_by es => sizeOf (e :: es)

end

end Expr

end LogSieve
