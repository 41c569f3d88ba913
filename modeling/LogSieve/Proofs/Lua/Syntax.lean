import LogSieve.Proofs.Lua.Lexer

/-!
This module contains the part of the syntax of Lua that scripts use, and its reader. It descends
along the grammar, and binary operators are read by their priorities.
-/

namespace LogSieve.Lua

inductive BinaryOp where
  | or
  | and
  | equal
  | differs
  | lt
  | le
  | gt
  | ge
  deriving DecidableEq, Repr

namespace BinaryOp

def ofToken? : Token → Option BinaryOp
  | .keyword "or" => some .or
  | .keyword "and" => some .and
  | .symbol "==" => some .equal
  | .symbol "~=" => some .differs
  | .symbol "<" => some .lt
  | .symbol "<=" => some .le
  | .symbol ">" => some .gt
  | .symbol ">=" => some .ge
  | _ => none

def priority : BinaryOp → Nat
  | .or => 1
  | .and => 2
  | _ => 3

theorem priority_pos (op : BinaryOp) : 0 < op.priority := by
  cases op <;> decide

end BinaryOp

mutual

inductive Exp where
  | nil
  | true
  | false
  | number (text : String)
  | string (text : String)
  | name (text : String)
  | table (items : List Exp)
  | function (parameter : String) (body : List Statement)
  | index (e key : Exp)
  | call (f : Exp) (arguments : List Exp)
  | not (e : Exp)
  | minus (e : Exp)
  | binary (op : BinaryOp) (a b : Exp)

inductive Statement where
  | assign (name : String) (e : Exp)
  | ifThen (e : Exp) (body : List Statement)
  | forIn (key value : String) (e : Exp) (body : List Statement)
  | giveBack (e : Exp)

end

namespace Reader

def unaryPriority : Nat := 12

mutual

def expression : Nat → Nat → List Token → Option (Exp × List Token)
  | 0, _, _ => none
  | n + 1, limit, ts =>
    match operand n ts with
    | some (e, rest) => operations n limit e rest
    | none => none

def operations : Nat → Nat → Exp → List Token → Option (Exp × List Token)
  | 0, _, _, _ => none
  | _ + 1, _, e, [] => some (e, [])
  | n + 1, limit, e, t :: ts =>
    match BinaryOp.ofToken? t with
    | some op =>
      if op.priority ≤ limit then
        some (e, t :: ts)
      else
        match expression n op.priority ts with
        | some (e', rest) => operations n limit (.binary op e e') rest
        | none => none
    | none => some (e, t :: ts)

def operand : Nat → List Token → Option (Exp × List Token)
  | 0, _ => none
  | n + 1, .keyword "not" :: ts =>
    (expression n unaryPriority ts).map fun (e, rest) => (.not e, rest)
  | n + 1, .symbol "-" :: ts =>
    (expression n unaryPriority ts).map fun (e, rest) => (.minus e, rest)
  | n + 1, ts => simple n ts

def simple : Nat → List Token → Option (Exp × List Token)
  | 0, _ => none
  | n + 1, ts =>
    match ts with
    | .keyword "nil" :: ts => some (.nil, ts)
    | .keyword "true" :: ts => some (.true, ts)
    | .keyword "false" :: ts => some (.false, ts)
    | .number text :: ts => some (.number text, ts)
    | .string text :: ts => some (.string text, ts)
    | .symbol "\x7b" :: ts =>
      match expressions n ts with
      | some (es, .symbol "\x7d" :: rest) => some (.table es, rest)
      | _ => none
    | .keyword "function" :: .symbol "(" :: .name parameter :: .symbol ")" :: ts =>
      match block n ts with
      | some (body, .keyword "end" :: rest) => some (.function parameter body, rest)
      | _ => none
    | .symbol "(" :: ts =>
      match expression n 0 ts with
      | some (e, .symbol ")" :: rest) => suffixes n e rest
      | _ => none
    | .name text :: ts => suffixes n (.name text) ts
    | _ => none

def suffixes : Nat → Exp → List Token → Option (Exp × List Token)
  | 0, _, _ => none
  | n + 1, e, ts =>
    match ts with
    | .symbol "[" :: ts =>
      match expression n 0 ts with
      | some (key, .symbol "]" :: rest) => suffixes n (.index e key) rest
      | _ => none
    | .symbol "." :: .name key :: ts => suffixes n (.index e (.string key)) ts
    | .symbol "(" :: ts =>
      match expressions n ts with
      | some (es, .symbol ")" :: rest) => suffixes n (.call e es) rest
      | _ => none
    | .string _ :: _ => none
    | ts => some (e, ts)

def expressions : Nat → List Token → Option (List Exp × List Token)
  | 0, _ => none
  | n + 1, ts =>
    match expression n 0 ts with
    | some (e, .symbol "," :: rest) => (expressions n rest).map fun (es, rest) => (e :: es, rest)
    | some (e, rest) => some ([e], rest)
    | none => none

def block : Nat → List Token → Option (List Statement × List Token)
  | 0, _ => none
  | n + 1, ts =>
    match ts with
    | .keyword "return" :: ts => (expression n 0 ts).map fun (e, rest) => ([.giveBack e], rest)
    | .name name :: .symbol "=" :: ts =>
      match expression n 0 ts with
      | some (e, rest) => (block n rest).map fun (body, rest) => (.assign name e :: body, rest)
      | none => none
    | .keyword "if" :: ts =>
      match expression n 0 ts with
      | some (e, .keyword "then" :: rest) =>
        match block n rest with
        | some (body, .keyword "end" :: rest) =>
          (block n rest).map fun (next, rest) => (.ifThen e body :: next, rest)
        | _ => none
      | _ => none
    | .keyword "for" :: .name key :: .symbol "," :: .name value :: .keyword "in" :: ts =>
      match expression n 0 ts with
      | some (e, .keyword "do" :: rest) =>
        match block n rest with
        | some (body, .keyword "end" :: rest) =>
          (block n rest).map fun (next, rest) => (.forIn key value e body :: next, rest)
        | _ => none
      | _ => none
    | ts => some ([], ts)

end

end Reader

def read? (text : String) : Option Exp :=
  let ts := tokens text
  match Reader.expression (10 * ts.length + 10) 0 ts with
  | some (e, []) => some e
  | _ => none

end LogSieve.Lua
