import LogSieve.Config.Table
import LogSieve.Number.Double
import LogSieve.Text.Hex

/-!
This module contains the reading of configuration documents in the format TOML, version 1.0. A text
that is no document is rejected without a reason, as no answer shows one.
-/

namespace LogSieve.Config

open Scan

def isSpace (c : Char) : Bool := c == ' ' || c == '\t'

def spaces : Scan Unit := do let _ ← takeWhile isSpace

def newline : Scan Unit := char '\n' <|> literal ['\r', '\n']

def isVisible (c : Char) : Bool := c == '\t' || (32 ≤ c.toNat && c.toNat != 127)

def comment : Scan Unit := do
  char '#'
  let _ ← takeWhile isVisible

def lineRest : Scan Unit := do
  spaces
  let _ ← option? comment
  if ← atEnd then pure () else newline

def gaps : Scan Unit := do
  let _ ← many ((do let _ ← takeWhile1 isSpace) <|> newline <|> (comment *> newline))

/-! Strings -/

def escape : Scan Char := do
  match ← next with
  | 'b' => return '\x08'
  | 't' => return '\t'
  | 'n' => return '\n'
  | 'f' => return '\x0c'
  | 'r' => return '\r'
  | '"' => return '"'
  | '\\' => return '\\'
  | 'u' => Text.scalar (← Text.hex 4)
  | 'U' => Text.scalar (← Text.hex 8)
  | _ => failure

def basicString : Scan String := do
  char '"'
  let cs ← many do
    let c ← satisfy fun c => isVisible c && c != '"'
    if c = '\\' then escape else return c
  char '"'
  return String.ofList cs

def literalString : Scan String := do
  char '\''
  let cs ← takeWhile fun c => isVisible c && c != '\''
  char '\''
  return String.ofList cs

/--
Takes the contents of a string on several lines from behind its first quotes. Up to two quotes in a
row belong to the contents, and so do those beyond three at the end. A line end right at the start
does not count.
-/
def multiLine (quote : Char) (piece : Scan (List Char)) : Scan String := do
  let _ ← option? newline
  loop step []
where
  step (found : List Char) : Scan (List Char ⊕ String) := do
    let quotes ← takeWhile (· == quote)
    let n := quotes.length
    if n < 3 then
      let found := found ++ quotes
      match ← option? piece with
      | some cs => return .inl (found ++ cs)
      | none =>
        check (0 < n)
        return .inl found
    else
      check (n ≤ 5)
      return .inr (String.ofList (found ++ quotes.drop 3))

def basicPiece : Scan (List Char) :=
  skipped <|> escaped <|> (newline *> pure ['\n']) <|>
    takeWhile1 fun c => isVisible c && c != '"' && c != '\\'
where
  skipped : Scan (List Char) := do
    char '\\'
    spaces
    newline
    let _ ← many ((do let _ ← takeWhile1 isSpace) <|> newline)
    return []
  escaped : Scan (List Char) := do
    char '\\'
    return [← escape]

def literalPiece : Scan (List Char) :=
  (newline *> pure ['\n']) <|> takeWhile1 fun c => isVisible c && c != '\''

def string : Scan String :=
  (literal ['"', '"', '"'] *> multiLine '"' basicPiece) <|>
    (literal ['\'', '\'', '\''] *> multiLine '\'' literalPiece) <|>
    basicString <|>
    literalString

/-! Keys -/

def isBareKey (c : Char) : Bool := c.isAlphanum || c == '_' || c == '-'

def simpleKey : Scan String :=
  basicString <|> literalString <|> (String.ofList <$> takeWhile1 isBareKey)

def dottedKey : Scan (List String × String) := do
  let parts ← sepBy1 (spaces *> simpleKey <* spaces) (char '.')
  match parts.getLast? with
  | some last => return (parts.dropLast, last)
  | none => failure

/-! Numbers and moments -/

def digits (isDigit : Char → Bool) : Scan (List Char) := do
  let first ← satisfy isDigit
  let others ← many (satisfy isDigit <|> (char '_' *> satisfy isDigit))
  return first :: others

def decimalDigits : Scan (List Char) := do
  match ← ahead with
  | '0' :: _ =>
    char '0'
    return ['0']
  | _ => digits Char.isDigit

def sign : Scan Bool := do
  let c ← option? (satisfy fun c => c == '+' || c == '-')
  return c = some '-'

def basedInteger (mark : Char) (base : Nat) : Scan Setting := do
  literal ['0', mark]
  let cs ← digits fun c => (Text.hexValue? c).any (· < base)
  let n := cs.foldl (fun n c => base * n + (Text.hexValue? c).getD 0) 0
  check (n < Nat.pow 2 63)
  return .number

def decimalInteger : Scan Setting := do
  let negative ← sign
  let n := Double.digitsValue 0 (← decimalDigits)
  check (if negative then n ≤ Nat.pow 2 63 else n < Nat.pow 2 63)
  return .number

def integer : Scan Setting :=
  basedInteger 'x' 16 <|> basedInteger 'o' 8 <|> basedInteger 'b' 2 <|> decimalInteger

def float : Scan Setting := do
  let negative ← sign
  if ← accepts (literal ['i', 'n', 'f'] <|> literal ['n', 'a', 'n']) then
    return .number
  else
    let whole ← decimalDigits
    let places ← option? (char '.' *> digits Char.isDigit)
    let power ← option? power
    check (places.isSome || power.isSome)
    let places := places.getD []
    let value := Double.ofDecimal negative (Double.digitsValue 0 (whole ++ places))
      (power.getD 0 - (places.length : Int))
    check (negative || value.isFinite)
    return .number
where
  power : Scan Int := do
    let _ ← satisfy fun c => c == 'e' || c == 'E'
    let negative ← sign
    let size : Int := (Double.digitsValue 0 (← digits Char.isDigit) : Nat)
    return if negative then -size else size

def fixedDigits (count least most : Nat) : Scan Nat := do
  let cs ← (List.range count).mapM fun _ => satisfy Char.isDigit
  let n := Double.digitsValue 0 cs
  check (least ≤ n && n ≤ most)
  return n

def isLeapYear (year : Nat) : Bool := (year % 4 == 0 && year % 100 != 0) || year % 400 == 0

def daysOf (year month : Nat) : Nat :=
  if month = 2 then if isLeapYear year then 29 else 28
  else if [4, 6, 9, 11].contains month then 30
  else 31

def date : Scan Unit := do
  let year ← fixedDigits 4 0 9999
  char '-'
  let month ← fixedDigits 2 1 12
  char '-'
  let day ← fixedDigits 2 1 31
  check (day ≤ daysOf year month)

def time : Scan Unit := do
  let _ ← fixedDigits 2 0 23
  char ':'
  let _ ← fixedDigits 2 0 59
  char ':'
  let _ ← fixedDigits 2 0 60
  let _ ← option? (char '.' *> takeWhile1 Char.isDigit)

def offset : Scan Unit :=
  (do let _ ← satisfy fun c => c == 'Z' || c == 'z') <|> do
    let _ ← satisfy fun c => c == '+' || c == '-'
    let _ ← fixedDigits 2 0 23
    char ':'
    let _ ← fixedDigits 2 0 59

def moment : Scan Setting := dated <|> (time *> pure .number)
where
  dated : Scan Setting := do
    date
    let _ ← option? do
      let _ ← satisfy fun c => c == 'T' || c == 't' || c == ' '
      time
      option? offset
    return .number

/-! Values and documents -/

def scalar : Scan Setting :=
  (.text <$> string) <|>
    (literal "true".toList *> pure (.bool true)) <|>
    (literal "false".toList *> pure (.bool false)) <|>
    moment <|> float <|> integer

def listOf (item : Scan Setting) : Scan Setting := do
  char '['
  gaps
  let items ← sepBy (item <* gaps) (char ',' *> gaps)
  let _ ← option? (if items.isEmpty then failure else char ',' *> gaps)
  char ']'
  return .list items

def keyValueOf (item : Scan Setting) : Scan ((List String × String) × Setting) := do
  let key ← dottedKey
  char '='
  spaces
  return (key, ← item)

def inlineOf (item : Scan Setting) : Scan Setting := do
  char '\x7b'
  spaces
  let pairs ← sepBy (keyValueOf item <* spaces) (char ',')
  char '\x7d'
  let add (entries : Entries) (pair : (List String × String) × Setting) : Option Entries :=
    Entries.defineDotted? pair.1.2 pair.2 pair.1.1 entries
  match pairs.foldlM add [] with
  | some entries => return .table .inline entries
  | none => failure

def value : Nat → Scan Setting
  | 0 => scalar
  | depth + 1 => scalar <|> listOf (value depth) <|> inlineOf (value depth)

def maxDepth : Nat := 79

def ofOption {α : Type} : Option α → Scan α
  | some a => return a
  | none => failure

def header (doc : Document) : Scan Document := do
  if ← accepts (literal ['[', '[']) then
    let (path, key) ← dottedKey
    literal [']', ']']
    lineRest
    ofOption (doc.openListed? path key)
  else
    char '['
    let (path, key) ← dottedKey
    char ']'
    lineRest
    ofOption (doc.openTable? path key)

def keyValue (doc : Document) : Scan Document := do
  let ((path, key), v) ← keyValueOf (value maxDepth)
  lineRest
  ofOption (doc.define? path key v)

def document : Scan Entries := do
  let _ ← option? (char '\ufeff')
  loop turn .empty
where
  turn (doc : Document) : Scan (Document ⊕ Entries) := do
    spaces
    match ← ahead with
    | [] => return .inr doc.entries
    | '#' :: _ =>
      lineRest
      return .inl doc
    | '\n' :: _ | '\r' :: _ =>
      newline
      return .inl doc
    | '[' :: _ => .inl <$> header doc
    | _ => .inl <$> keyValue doc

def ofText? (text : String) : Option Entries := document.run text.toList

end LogSieve.Config
