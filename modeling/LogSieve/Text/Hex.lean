import LogSieve.Text.Scan

/-!
This module contains the reading of hexadecimal digits and of the characters whose codes they are.
-/

namespace LogSieve.Text

open Scan

def hexValue? (c : Char) : Option Nat :=
  if '0' ≤ c ∧ c ≤ '9' then some (c.toNat - '0'.toNat)
  else if 'a' ≤ c ∧ c ≤ 'f' then some (c.toNat - 'a'.toNat + 10)
  else if 'A' ≤ c ∧ c ≤ 'F' then some (c.toNat - 'A'.toNat + 10)
  else none

def hexDigit : Scan Nat := do
  match hexValue? (← next) with
  | some n => return n
  | none => failure

def hex (count : Nat) : Scan Nat :=
  (List.range count).foldlM (fun n _ => do return 16 * n + (← hexDigit)) 0

def scalar (n : Nat) : Scan Char := do
  check n.isValidChar
  return Char.ofNat n

end LogSieve.Text
