import LogSieve.Proofs.Lua.Syntax
import LogSieve.Proofs.Record

/-!
This module contains the meaning of Lua expressions for a record. What the closures of scripts tell
about a value is left open, apart from the one that follows a path.
-/

namespace LogSieve.Lua

inductive Val where
  | nil
  | bool (b : Bool)
  | data (v : Value)
  | function (f : Exp)

namespace Val

def ofValue : Value → Val
  | .null => .nil
  | .bool b => .bool b
  | v => .data v

def ofValue? : Option Value → Val
  | none => .nil
  | some v => .ofValue v

def isTrue : Val → Bool
  | .nil => false
  | .bool b => b
  | _ => true

def isNil : Val → Bool
  | .nil => true
  | _ => false

def field? (key : String) : Val → Option Val
  | .data (.object fields) => some (.ofValue? (valueAt? key fields))
  | .data (.list _) => some .nil
  | _ => none

def follow (v : Val) : List String → Val
  | [] => v
  | key :: path =>
    match v.field? key with
    | some v => follow v path
    | none => .nil

def equals? : Val → Val → Option Bool
  | .nil, v => some v.isNil
  | v, .nil => some v.isNil
  | _, _ => none

end Val

namespace Exp

def text? : Exp → Option String
  | .string s => some s
  | _ => none

def path? : Exp → Option (List String)
  | .function "v" [.forIn "_" "k" (.call (.name "ipairs") [.table items])
      [.ifThen (.binary .differs (.call (.name "type") [.name "v"]) (.string "table"))
        [.giveBack .nil],
      .assign "v" (.index (.name "v") (.name "k"))],
      .giveBack (.name "v")] => items.mapM text?
  | _ => none

variable (closures : Exp → Exp → Val → Bool) (record : Record)

/--
The value of an expression for a record. A closure follows a path, or tells whether something holds
for the value of its argument.
-/
def eval : Exp → Option Val
  | .nil => some .nil
  | .true => some (.bool Bool.true)
  | .false => some (.bool Bool.false)
  | .string s => some (.data (.text s))
  | .name "record" => some (.data (.object record.entries))
  | .function parameter body => some (.function (.function parameter body))
  | .index e (.string key) =>
    match eval e with
    | some v => v.field? key
    | none => none
  | .call f [a] =>
    match eval f, eval a with
    | some (.function f), some v =>
      match f.path? with
      | some path => some (v.follow path)
      | none => some (.bool (closures f a v))
    | _, _ => none
  | .not e =>
    match eval e with
    | some v => some (.bool (!v.isTrue))
    | none => none
  | .binary .and a b =>
    match eval a with
    | some v => if v.isTrue then eval b else some v
    | none => none
  | .binary .or a b =>
    match eval a with
    | some v => if v.isTrue then some v else eval b
    | none => none
  | .binary .equal a b =>
    match eval a, eval b with
    | some v, some w => (v.equals? w).map .bool
    | _, _ => none
  | .binary .differs a b =>
    match eval a, eval b with
    | some v, some w => (v.equals? w).map fun equal => .bool (!equal)
    | _, _ => none
  | _ => none

end Exp

def value? (closures : Exp → Exp → Val → Bool) (record : Record) (text : String) : Option Val :=
  (read? text).bind (Exp.eval closures record)

end LogSieve.Lua
