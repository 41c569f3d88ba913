import LogSieve.Proofs.Lua.Bytes
import LogSieve.Proofs.Lua.Meaning

/-!
This module contains what the closures of scripts that test a text tell about it, by the string
library of Lua.
-/

namespace LogSieve.Lua

/--
A value inside of a closure. Tables and fractions are left out.
-/
inductive Datum where
  | nil
  | bool (b : Bool)
  | number (n : Nat)
  | string (bs : List UInt8)
  deriving DecidableEq, Repr

namespace Datum

def ofVal? : Val → Option Datum
  | .nil => some .nil
  | .bool b => some (.bool b)
  | .data (.text s) => some (.string (bytes s.toList))
  | _ => none

def isTrue : Datum → Bool
  | .nil => false
  | .bool b => b
  | _ => true

def toString : Datum → List UInt8
  | .nil => bytes "nil".toList
  | .bool b => bytes (Value.boolText b).toList
  | .number n => bytes (Nat.repr n).toList
  | .string bs => bs

end Datum

namespace Exp

def evalIn (v : Datum) : Exp → Option Datum
  | .nil => some .nil
  | .true => some (.bool Bool.true)
  | .false => some (.bool Bool.false)
  | .string s => some (.string (bytes s.toList))
  | .name "v" => some v
  | .call (.name "tostring") [e] =>
    match evalIn v e with
    | some d => some (.string d.toString)
    | none => none
  | .call (.index (.name "string") (.string "lower")) [e] =>
    match evalIn v e with
    | some (.string bs) => some (.string (bs.map lowerByte))
    | _ => none
  -- A plain search from the first byte on, without the patterns of Lua.
  | .call (.index (.name "string") (.string "find")) [e, e', .number "1", .true] =>
    match evalIn v e, evalIn v e' with
    | some (.string bs), some (.string needle) => some ((find? needle 1 bs).elim .nil .number)
    | _, _ => none
  | .binary .differs e .nil =>
    match evalIn v e with
    | some d => some (.bool (d != .nil))
    | none => none
  | .binary .and e e' =>
    match evalIn v e with
    | some d => if d.isTrue then evalIn v e' else some d
    | none => none
  | _ => none

def answer? (f : Exp) (v : Val) : Option Bool :=
  match f, Datum.ofVal? v with
  | .function "v" [.giveBack e], some d =>
    match e.evalIn d with
    | some (.bool b) => some b
    | _ => none
  | _, _ => none

end Exp

def answers (f _argument : Exp) (v : Val) : Bool := f.answer? v == some true

end LogSieve.Lua
