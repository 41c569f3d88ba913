import LogSieve.Expr.Printer
import LogSieve.Token.Lexer

/-!
This module contains the reading of filters from tokens. The loosest connective is `AND`, then comes
the mere sequence, which also means `AND`, then `OR`, and then `NOT` or `-`.
-/

namespace LogSieve

inductive Parsed where
  | field (target : Target)
  | expression (e : Expr)
  deriving DecidableEq, Repr

def Parsed.text : Parsed → String
  | .field target => "field " ++ target.text
  | .expression e => "expression " ++ e.text

inductive PathPart where
  | segment (s : String)
  | dot
  deriving DecidableEq, Repr

namespace PathPart

def ofWord (cs : List Char) : List PathPart := go [] cs
where
  go (current : List Char) : List Char → List PathPart
    | [] => ofSegment current
    | c :: cs => if c = '.' then ofSegment current ++ .dot :: go [] cs else go (current ++ [c]) cs
  ofSegment (current : List Char) : List PathPart :=
    if current.isEmpty then [] else [.segment (String.ofList current)]

def ofKind : Token.Kind → List PathPart
  | .word text => ofWord text.toList
  | .quoted text => [.segment text]
  | _ => []

def segments? : List PathPart → Option (List String)
  | [.segment s] => some [s]
  | .segment s :: .dot :: parts => (segments? parts).map (s :: ·)
  | _ => none

end PathPart

structure Reading (α : Type) (bound : Nat) where
  value : α
  rest : List Token
  rest_length_lt : rest.length < bound

namespace Parser

def pathOfRun (run : List Token) : Except ParseError Target :=
  match PathPart.segments? (run.flatMap fun t => PathPart.ofKind t.kind) with
  | some segments => Target.ofSegments segments
  | none => .error (.emptySegment (String.join (run.map (·.kind.text))))

def path (ts : List Token) : Except ParseError (Reading Target ts.length) :=
  match ts with
  | [] => .error (.unexpectedEnd .field)
  | t :: ts =>
    if t.kind.isPathPart then
      match pathOfRun (t :: ts.takeWhile Token.isGlued) with
      | .error e => .error e
      | .ok target =>
        have := (List.dropWhile_sublist (p := Token.isGlued) (l := ts)).length_le
        .ok ⟨target, ts.dropWhile Token.isGlued, by simp only [List.length_cons]; omega⟩
    else
      .error (t.unexpected .field)

def value (ts : List Token) : Except ParseError (Reading String ts.length) :=
  match ts with
  | [] => .error (.unexpectedEnd .value)
  | t :: ts =>
    match t.kind with
    | .word text => .ok ⟨text, ts, by simp⟩
    | .quoted text => .ok ⟨text, ts, by simp⟩
    | .minus =>
      match ts with
      | [] => .error (.unexpectedEnd .value)
      | u :: ts =>
        match u.kind, u.spaced with
        | .word text, false => .ok ⟨"-" ++ text, ts, by simp only [List.length_cons]; omega⟩
        | _, _ => .error (u.unexpected .value)
    | _ => .error (t.unexpected .value)

def comparison (ts : List Token) : Except ParseError (Reading Comparison ts.length) :=
  match path ts with
  | .error e => .error e
  | .ok ⟨target, rest, h⟩ =>
    match rest with
    | ⟨.comparator op, _, _⟩ :: rest =>
      match value rest with
      | .error e => .error e
      | .ok ⟨literal, rest', h'⟩ =>
        .ok ⟨⟨target, op, literal⟩, rest', by simp only [List.length_cons] at h; omega⟩
    | _ => .error (.bareField target.text)

mutual

def expression (ts : List Token) : Except ParseError (Reading Expr ts.length) :=
  match factor ts with
  | .error e => .error e
  | .ok ⟨e, rest, h⟩ =>
    match factors rest with
    | .error e => .error e
    | .ok ⟨es, rest', h'⟩ => .ok ⟨Expr.collapse .all (e :: es), rest', by omega⟩
termination_by (ts.length, 5)

def factors (ts : List Token) : Except ParseError (Reading (List Expr) (ts.length + 1)) :=
  match ts with
  | [] => .ok ⟨[], [], by simp⟩
  | t :: ts =>
    if t.kind = .and then
      match factor ts with
      | .error e => .error e
      | .ok ⟨e, rest, h⟩ =>
        match factors rest with
        | .error e => .error e
        | .ok ⟨es, rest', h'⟩ =>
          .ok ⟨e :: es, rest', by simp only [List.length_cons]; omega⟩
    else if t.kind.startsTerm then
      match factor (t :: ts) with
      | .error e => .error e
      | .ok ⟨e, rest, h⟩ =>
        match factors rest with
        | .error e => .error e
        | .ok ⟨es, rest', h'⟩ => .ok ⟨e :: es, rest', by omega⟩
    else
      .ok ⟨[], t :: ts, by simp⟩
termination_by (ts.length, 4)

def factor (ts : List Token) : Except ParseError (Reading Expr ts.length) :=
  match term ts with
  | .error e => .error e
  | .ok ⟨e, rest, h⟩ =>
    match terms rest with
    | .error e => .error e
    | .ok ⟨es, rest', h'⟩ => .ok ⟨Expr.collapse .any (e :: es), rest', by omega⟩
termination_by (ts.length, 3)

def terms (ts : List Token) : Except ParseError (Reading (List Expr) (ts.length + 1)) :=
  match ts with
  | [] => .ok ⟨[], [], by simp⟩
  | t :: ts =>
    if t.kind = .or then
      match term ts with
      | .error e => .error e
      | .ok ⟨e, rest, h⟩ =>
        match terms rest with
        | .error e => .error e
        | .ok ⟨es, rest', h'⟩ =>
          .ok ⟨e :: es, rest', by simp only [List.length_cons]; omega⟩
    else
      .ok ⟨[], t :: ts, by simp⟩
termination_by (ts.length, 2)

def term (ts : List Token) : Except ParseError (Reading Expr ts.length) :=
  match ts with
  | [] => primitive []
  | t :: ts =>
    if t.kind = .not ∨ t.kind = .minus then
      match primitive ts with
      | .error e => .error e
      | .ok ⟨e, rest, h⟩ => .ok ⟨.not e, rest, by simp only [List.length_cons]; omega⟩
    else
      primitive (t :: ts)
termination_by (ts.length, 1)

def primitive (ts : List Token) : Except ParseError (Reading Expr ts.length) :=
  match ts with
  | [] => .error (.unexpectedEnd .field)
  | t :: ts =>
    if t.kind = .opening then
      match expression ts with
      | .error e => .error e
      | .ok ⟨_, [], _⟩ => .error (.unexpectedEnd .closing)
      | .ok ⟨e, u :: rest, h⟩ =>
        if u.kind = .closing then
          .ok ⟨e, rest, by simp only [List.length_cons] at h ⊢; omega⟩
        else
          .error (u.unexpected .closing)
    else
      match comparison (t :: ts) with
      | .error e => .error e
      | .ok ⟨c, rest, h⟩ => .ok ⟨.leaf c, rest, h⟩
termination_by (ts.length, 0)

end

def parseTokens (ts : List Token) : Except ParseError Parsed :=
  if ts.isEmpty then
    .error .empty
  else
    match path ts with
    | .ok ⟨target, [], _⟩ => .ok (.field target)
    | _ =>
      match expression ts with
      | .error e => .error e
      | .ok ⟨e, [], _⟩ => .ok (.expression e)
      | .ok ⟨_, t :: _, _⟩ => .error (t.unexpected .endOfInput)

end Parser

def parse (text : String) : Except ParseError Parsed :=
  match Token.tokenize text with
  | .error e => .error e
  | .ok ts => Parser.parseTokens ts

end LogSieve
