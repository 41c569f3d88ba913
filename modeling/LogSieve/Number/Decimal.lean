import LogSieve.Number.Double

/-!
This module contains the decimal text of numbers of double precision: the fewest digits that are
read back as the same number, and the two ways in which they are laid out.
-/

namespace LogSieve

inductive Tie where
  | up
  | even

structure Decimal where
  digits : Nat
  exponent : Int

namespace Decimal

/--
The number `m * 2 ^ q` measured by the decimal grid of the multiples of `10 ^ k`. In units of
`2 ^ (q - 2)` the number is `4 * m`, and `unit / grid` is the ratio of such a unit to the grid.
-/
structure Scale where
  unit : Nat
  grid : Nat

def Scale.of (q k : Int) : Scale where
  unit := Nat.pow 2 (q - 2).toNat * Nat.pow 10 (-k).toNat
  grid := Nat.pow 2 (2 - q).toNat * Nat.pow 10 k.toNat

/--
Whether the multiple `d` of the grid is rounded to `m * 2 ^ q`. The ends of the interval are rounded
to it iff `m` is even, and the interval is shorter below a power of two.
-/
def rounds (m : Nat) (q : Int) (scale : Scale) (d : Nat) : Bool :=
  let low := if m = Nat.pow 2 52 && Double.minExponent < q then 4 * m - 1 else 4 * m - 2
  let high := 4 * m + 2
  let point := d * scale.grid
  if m % 2 = 0 then
    low * scale.unit ≤ point && point ≤ high * scale.unit
  else
    low * scale.unit < point && point < high * scale.unit

def onGrid? (tie : Tie) (m : Nat) (q k : Int) : Option Decimal :=
  let scale := Scale.of q k
  let below := 4 * m * scale.unit / scale.grid
  let rest := 2 * (4 * m * scale.unit % scale.grid)
  let upper :=
    scale.grid < rest ||
      (scale.grid == rest && match tie with
        | .up => true
        | .even => below % 2 == 1)
  match rounds m q scale below, rounds m q scale (below + 1) with
  | true, true => some ⟨if upper then below + 1 else below, k⟩
  | true, false => some ⟨below, k⟩
  | false, true => some ⟨below + 1, k⟩
  | false, false => none

def pointOf (m : Nat) (q : Int) : Int :=
  let estimate := ((m.log2 : Int) + q) * 1233 / 4096 - 1
  let steps := (List.range 5).map fun (i : Nat) => estimate + i
  let isAbove (p : Int) : Bool :=
    let scale := Scale.of q p
    4 * m * scale.unit < scale.grid
  (steps.find? isAbove).getD (estimate + 4)

def shortest (tie : Tie) (m : Nat) (q : Int) : Decimal :=
  let point := pointOf m q
  let grids := (List.range 17).map fun (n : Nat) => point - n - 1
  (grids.findSome? (onGrid? tie m q)).getD ⟨m, q⟩

def strip (d : Decimal) : Decimal :=
  go (d.digits.log2 + 1) d
where
  go : Nat → Decimal → Decimal
    | 0, d => d
    | n + 1, d =>
      if d.digits ≠ 0 && d.digits % 10 = 0 then go n ⟨d.digits / 10, d.exponent + 1⟩ else d

def ofNonzero (tie : Tie) (m : Nat) (q : Int) : Decimal := (shortest tie m q).strip

def positional (d : Decimal) (places : Nat) : String :=
  let digits := Nat.toDigits 10 d.digits
  let digits := digits ++ List.replicate d.exponent.toNat '0'
  let after := (-d.exponent).toNat
  let digits := List.replicate (after + 1 - digits.length) '0' ++ digits
  let whole := digits.take (digits.length - after)
  let fraction := digits.drop (digits.length - after)
  let fraction := fraction ++ List.replicate (places - fraction.length) '0'
  String.ofList (if fraction.isEmpty then whole else whole ++ '.' :: fraction)

def magnitude (d : Decimal) : Int := (Nat.toDigits 10 d.digits).length - 1 + d.exponent

def scientific (d : Decimal) : String :=
  let power := d.magnitude
  let digits := positional ⟨d.digits, d.exponent - power⟩ 0
  let sign := if power < 0 then "-" else "+"
  digits ++ "e" ++ sign ++ Nat.repr power.natAbs

end Decimal

namespace Double

def signText (negative : Bool) : String := if negative then "-" else ""

def plainText : Double → String
  | .finite negative 0 _ => signText negative ++ "0"
  | .finite negative m q => signText negative ++ (Decimal.ofNonzero .up m q).positional 0
  | .infinite negative => signText negative ++ "inf"
  | .nan => "NaN"

/--
The text of a number in records: around the point with at least one decimal place from `0.00001` up
to below `1e+16`, and with a power of ten outside of that.
-/
def recordText : Double → String
  | .finite negative 0 _ => signText negative ++ "0.0"
  | .finite negative m q =>
    let d := Decimal.ofNonzero .even m q
    let text := if -5 ≤ d.magnitude ∧ d.magnitude < 16 then d.positional 1 else d.scientific
    signText negative ++ text
  | .infinite negative => signText negative ++ "inf"
  | .nan => "NaN"

end Double

end LogSieve
