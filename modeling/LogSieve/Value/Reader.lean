import LogSieve.Text.Hex
import LogSieve.Value.Basic

/-!
This module contains the reading of values from JSON text.
-/

namespace LogSieve.Value

open Scan

def isGap (c : Char) : Bool := [' ', '\t', '\n', '\r'].contains c

def lexeme {α : Type} (x : Scan α) : Scan α := x <* takeWhile isGap

def symbol (c : Char) : Scan Unit := lexeme (char c)

def unicodeEscape : Scan Char := do
  let high ← Text.hex 4
  if 0xD800 ≤ high ∧ high < 0xDC00 then
    literal ['\\', 'u']
    let low ← Text.hex 4
    check (0xDC00 ≤ low && low < 0xE000)
    return Char.ofNat (0x10000 + (high - 0xD800) * 0x400 + (low - 0xDC00))
  else
    check (high < 0xDC00 || 0xE000 ≤ high)
    return Char.ofNat high

def escape : Scan Char := do
  match ← next with
  | '"' => return '"'
  | '\\' => return '\\'
  | '/' => return '/'
  | 'b' => return '\x08'
  | 'f' => return '\x0c'
  | 'n' => return '\n'
  | 'r' => return '\r'
  | 't' => return '\t'
  | 'u' => unicodeEscape
  | _ => failure

def stringChar : Scan Char := do
  let c ← satisfy fun c => c != '"' && 32 ≤ c.toNat
  if c = '\\' then escape else return c

def string : Scan String := do
  char '"'
  let cs ← many stringChar
  char '"'
  return String.ofList cs

def ofWhole (negative : Bool) (n : Nat) : Value :=
  if negative then
    if 0 < n ∧ n ≤ Nat.pow 2 63 then .int (-(n : Int)) else .double (Double.ofRatio true n 1)
  else
    .int n

def collect (n : Nat) : List Char → Nat × Nat
  | [] => (n, 0)
  | c :: cs =>
    let n' := Double.digitsValue n [c]
    if n' < Nat.pow 2 64 then
      let (m, used) := collect n' cs
      (m, used + 1)
    else
      (n, 0)

def exponent : Scan Int := do
  let _ ← satisfy fun c => c == 'e' || c == 'E'
  let sign ← option? (satisfy fun c => c == '+' || c == '-')
  let size : Int := (Double.digitsValue 0 (← takeWhile1 Char.isDigit) : Nat)
  return if sign = some '-' then -size else size

/--
The value of a number with the given digits before and behind its point. Digits before the point that
do not fit into 64 bits only count as places, and those behind it do not count at all.
-/
def ofDigits? (negative : Bool) (whole : List Char) (places? : Option (List Char))
    (power? : Option Int) : Option Value :=
  let (n, used) := collect 0 whole
  if used = whole.length ∧ places?.isNone ∧ power?.isNone then
    some (ofWhole negative n)
  else
    let (n, usedPlaces) := collect n (places?.getD [])
    let shift : Int := ((whole.length - used : Nat) : Int) - usedPlaces
    (Double.ofParts? negative n (power?.getD 0 + shift)).map .double

def number : Scan Value := do
  let negative ← accepts (char '-')
  let whole ← takeWhile1 Char.isDigit
  check (whole.length == 1 || whole.head? != some '0')
  let places? ← option? (char '.' *> takeWhile1 Char.isDigit)
  let power? ← option? exponent
  match ofDigits? negative whole places? power? with
  | some v => return v
  | none => failure

def scalar : Scan Value :=
  (literal "null".toList *> pure .null) <|>
    (literal "true".toList *> pure (.bool true)) <|>
    (literal "false".toList *> pure (.bool false)) <|>
    (.text <$> string) <|>
    number

def listOf (item : Scan Value) : Scan Value := do
  symbol '['
  let vs ← sepBy (lexeme item) (symbol ',')
  char ']'
  return .list vs

def fieldOf (item : Scan Value) : Scan (String × Value) := do
  let key ← lexeme string
  symbol ':'
  return (key, ← lexeme item)

def objectOf (item : Scan Value) : Scan Value := do
  symbol '\x7b'
  let fields ← sepBy (fieldOf item) (symbol ',')
  char '\x7d'
  return .object (fields.foldl (fun fs (key, v) => insertAt key v fs) [])

def value : Nat → Scan Value
  | 0 => scalar
  | depth + 1 => scalar <|> listOf (value depth) <|> objectOf (value depth)

def maxDepth : Nat := 127

def ofText? (text : String) : Option Value :=
  (takeWhile isGap *> lexeme (value maxDepth)).run text.toList

end LogSieve.Value
