/-!
This module contains binary floating point numbers of double precision as exact values, together
with their rounding from fractions, their order and their reading from decimal text.
-/

namespace LogSieve

/--
A number of double precision. `finite negative mantissa exponent` is the value
`mantissa * 2 ^ exponent`, with a minus sign if `negative` is set, so zero has two signs.
-/
inductive Double where
  | finite (negative : Bool) (mantissa : Nat) (exponent : Int)
  | infinite (negative : Bool)
  | nan
  deriving DecidableEq, Repr

namespace Double

def minExponent : Int := -1074

def maxExponent : Int := 971

def zero (negative : Bool) : Double := .finite negative 0 minExponent

def isFinite : Double → Bool
  | .finite .. => true
  | _ => false

def roundDiv (n d : Nat) : Nat :=
  let below := n / d
  let rest := n % d
  if d < 2 * rest || (2 * rest == d && below % 2 == 1) then below + 1 else below

def scale (n d : Nat) (exponent : Int) : Nat × Nat :=
  (n * Nat.pow 2 (-exponent).toNat, d * Nat.pow 2 exponent.toNat)

def ofRatio (negative : Bool) (n d : Nat) : Double :=
  if n = 0 then
    zero negative
  else
    -- `n / d` lies strictly between `2 ^ (guess + 52)` and `2 ^ (guess + 54)`.
    let guess : Int := (n.log2 : Int) - (d.log2 : Int) - 53
    let (a, b) := scale n d guess
    let exponent := max minExponent (if a / b < Nat.pow 2 53 then guess else guess + 1)
    let (a, b) := scale n d exponent
    let mantissa := roundDiv a b
    let (mantissa, exponent) :=
      if mantissa = Nat.pow 2 53 then (Nat.pow 2 52, exponent + 1) else (mantissa, exponent)
    if maxExponent < exponent then .infinite negative else .finite negative mantissa exponent

def ofDecimal (negative : Bool) (digits : Nat) (exponent : Int) : Double :=
  if digits = 0 then
    zero negative
  else if 400 < exponent then
    .infinite negative
  else if digits.log2 + 1100 < 3 * (-exponent).toNat then
    zero negative
  else
    ofRatio negative (digits * Nat.pow 10 exponent.toNat) (Nat.pow 10 (-exponent).toNat)

def ofInt (i : Int) : Double := ofRatio (i < 0) i.natAbs 1

def ofBinary (negative : Bool) (n d : Nat) (exponent : Int) : Double :=
  ofRatio negative (n * Nat.pow 2 exponent.toNat) (d * Nat.pow 2 (-exponent).toNat)

def isZero : Double → Bool
  | .finite _ mantissa _ => mantissa == 0
  | _ => false

def times : Double → Double → Double
  | .finite s m e, .finite t n f => ofBinary (s != t) (m * n) 1 (e + f)
  | _, _ => .nan

def dividedBy : Double → Double → Double
  | .finite s m e, .finite t n f => ofBinary (s != t) m n (e - f)
  | _, _ => .nan

def maxPower : Nat := 308

def powerOfTen (n : Nat) : Double := ofRatio false (Nat.pow 10 n) 1

/--
A number divided by `10 ^ n`, in steps of at most the largest power and rounded after each of them.
-/
def dividedByPower (d : Double) (n : Nat) : Double :=
  if n ≤ maxPower then d.dividedBy (powerOfTen n)
  else if d.isZero then d
  else dividedByPower (d.dividedBy (powerOfTen maxPower)) (n - maxPower)
termination_by n
decreasing_by
  have : 0 < maxPower := by decide
  omega

/--
The number `digits * 10 ^ exponent`, where the digits are rounded to a number first, and then what
becomes of it by the power is rounded again. Only finite numbers are given.
-/
def ofParts? (negative : Bool) (digits : Nat) (exponent : Int) : Option Double :=
  let d := ofRatio negative digits 1
  if exponent < 0 then
    some (d.dividedByPower exponent.natAbs)
  else if exponent.natAbs ≤ maxPower then
    some (d.times (powerOfTen exponent.natAbs)) |>.filter isFinite
  else if digits = 0 then
    some d
  else
    none

def signedAt (base : Int) (negative : Bool) (mantissa : Nat) (exponent : Int) : Int :=
  let size : Int := ((mantissa * Nat.pow 2 (exponent - base).toNat : Nat) : Int)
  if negative then -size else size

def compare? : Double → Double → Option Ordering
  | .nan, _ => none
  | _, .nan => none
  | .infinite s, .infinite t => some (if s = t then .eq else if s then .lt else .gt)
  | .infinite s, .finite .. => some (if s then .lt else .gt)
  | .finite .., .infinite t => some (if t then .gt else .lt)
  | .finite s m e, .finite t n f =>
    let base := min e f
    some (compare (signedAt base s m e) (signedAt base t n f))

def digitsValue (start : Nat) (cs : List Char) : Nat :=
  cs.foldl (fun n c => 10 * n + (c.toNat - '0'.toNat)) start

def splitSign : List Char → Bool × List Char
  | '-' :: cs => (true, cs)
  | '+' :: cs => (false, cs)
  | cs => (false, cs)

def readExponent? (cs : List Char) : Option Int :=
  let (negative, cs) := splitSign cs
  if cs.isEmpty || !cs.all Char.isDigit then
    none
  else
    let size : Int := (digitsValue 0 cs : Nat)
    some (if negative then -size else size)

def readUnsigned? (negative : Bool) (cs : List Char) : Option Double :=
  let whole := cs.takeWhile Char.isDigit
  let cs := cs.dropWhile Char.isDigit
  let (places, cs) :=
    match cs with
    | '.' :: cs => (cs.takeWhile Char.isDigit, cs.dropWhile Char.isDigit)
    | cs => ([], cs)
  if whole.isEmpty && places.isEmpty then
    none
  else
    let digits := digitsValue (digitsValue 0 whole) places
    let point : Int := -(places.length : Int)
    match cs with
    | [] => some (ofDecimal negative digits point)
    | c :: cs =>
      if c.toLower = 'e' then
        (readExponent? cs).map fun e => ofDecimal negative digits (e + point)
      else
        none

def read? (cs : List Char) : Option Double :=
  let (negative, cs) := splitSign cs
  let name := String.ofList (cs.map Char.toLower)
  if name = "inf" || name = "infinity" then
    some (.infinite negative)
  else if name = "nan" then
    some .nan
  else
    readUnsigned? negative cs

end Double

end LogSieve
