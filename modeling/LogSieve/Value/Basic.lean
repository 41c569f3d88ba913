import LogSieve.Number.Decimal
import LogSieve.OrderedMap

/-!
This module contains the values that records consist of, and their text as JSON.
-/

namespace LogSieve

/--
A value of a record. Whole numbers of 64 bits are exact and all others have double precision.
-/
inductive Value where
  | null
  | bool (b : Bool)
  | int (i : Int)
  | double (d : Double)
  | text (s : String)
  | list (vs : List Value)
  | object (fields : List (String × Value))
  deriving Repr, Inhabited

namespace Value

def field? (key : String) : Value → Option Value
  | .object fields => valueAt? key fields
  | _ => none

def at? (v : Value) : List String → Option Value
  | [] => some v
  | key :: path =>
    match v.field? key with
    | some v => at? v path
    | none => none

def isNull : Value → Bool
  | .null => true
  | _ => false

/--
The value at the end of a path, unless it is null, which counts as missing.
-/
def lookup? (v : Value) (path : List String) : Option Value := (v.at? path).filter (!·.isNull)

def quoteChar (c : Char) : List Char :=
  match c with
  | '"' => ['\\', '"']
  | '\\' => ['\\', '\\']
  | '\x08' => ['\\', 'b']
  | '\x0c' => ['\\', 'f']
  | '\n' => ['\\', 'n']
  | '\r' => ['\\', 'r']
  | '\t' => ['\\', 't']
  | c =>
    if c.toNat < 32 then
      ['\\', 'u', '0', '0', Nat.digitChar (c.toNat / 16), Nat.digitChar (c.toNat % 16)]
    else
      [c]

def quote (s : String) : String := "\"" ++ String.ofList (s.toList.flatMap quoteChar) ++ "\""

def intText (i : Int) : String := if i < 0 then "-" ++ Nat.repr i.natAbs else Nat.repr i.natAbs

def boolText (b : Bool) : String := if b then "true" else "false"

def bracketed (opening closing : String) (items : List String) : String :=
  opening ++ ",".intercalate items ++ closing

mutual

def compact : Value → String
  | .null => "null"
  | .bool b => boolText b
  | .int i => intText i
  | .double d => d.recordText
  | .text s => quote s
  | .list vs => bracketed "[" "]" (compactList vs)
  | .object fields => bracketed "\x7b" "\x7d" (compactFields fields)

def compactList : List Value → List String
  | [] => []
  | v :: vs => compact v :: compactList vs

def compactFields : List (String × Value) → List String
  | [] => []
  | (key, v) :: fields => (quote key ++ ":" ++ compact v) :: compactFields fields

end

def newline (depth : Nat) : String :=
  "\n" ++ String.ofList (List.replicate (2 * depth) ' ')

def stacked (depth : Nat) (opening closing : String) (items : List String) : String :=
  if items.isEmpty then
    opening ++ closing
  else
    opening ++ newline (depth + 1) ++ ("," ++ newline (depth + 1)).intercalate items ++
      newline depth ++ closing

mutual

def pretty (depth : Nat) : Value → String
  | .list vs => stacked depth "[" "]" (prettyList (depth + 1) vs)
  | .object fields => stacked depth "\x7b" "\x7d" (prettyFields (depth + 1) fields)
  | .null => "null"
  | .bool b => boolText b
  | .int i => intText i
  | .double d => d.recordText
  | .text s => quote s

def prettyList (depth : Nat) : List Value → List String
  | [] => []
  | v :: vs => pretty depth v :: prettyList depth vs

def prettyFields (depth : Nat) : List (String × Value) → List String
  | [] => []
  | (key, v) :: fields => (quote key ++ ": " ++ pretty depth v) :: prettyFields depth fields

end

def plain : Value → String
  | .text s => s
  | v => v.compact

end Value

end LogSieve
