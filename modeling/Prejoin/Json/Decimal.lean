import Prejoin.Text.Basic
import Prejoin.Json.Binary64

set_option autoImplicit false

namespace Prejoin

structure Decimal where
  digits : Nat
  exponent : Int
deriving DecidableEq, Repr

namespace Binary64

-- In units of a quarter of the last binary place: the lower end of the reals that round to the
-- double, the double, and the upper end. The lower gap is half as wide at a power of two.
def quarters (x : Binary64) : Nat × Nat × Nat :=
  let value := 4 * x.mantissa
  let below := if x.mantissa = leastMantissa ∧ leastExponent < x.exponent then 1 else 2
  (value - below, value, value + 2)

-- Whether `num / den` of those units rounds to the double; the ends do if the mantissa is even.
def holds (x : Binary64) (num den : Nat) : Bool :=
  let (low, _, high) := x.quarters
  if x.mantissa % 2 = 0 then low * den ≤ num && num ≤ high * den
  else low * den < num && num < high * den

def reaches (x : Binary64) (power : Int) : Bool :=
  let (num, den) := x.fraction
  den * tenTo power.toNat ≤ num * tenTo (-power).toNat

def magnitude (x : Binary64) : Int :=
  let (num, den) := x.fraction
  let guess : Int := (decimal num).length - (decimal den).length
  if x.reaches guess then guess else guess - 1

-- Of two multiples that round to the double the nearer, and on a tie the even one.
def onGrid? (x : Binary64) (power : Int) : Option Nat :=
  let scale := x.exponent - 2
  -- In units of the grid the value is `num / up`; `n` of these units are `n * up / down` quarters.
  let up := twoTo (-scale).toNat * tenTo power.toNat
  let down := twoTo scale.toNat * tenTo (-power).toNat
  let num := 4 * x.mantissa * down
  let lower := num / up
  let fits (n : Nat) : Bool := x.holds (n * up) down
  match fits lower, fits (lower + 1) with
  | true, true => some (roundDiv num up)
  | true, false => some lower
  | false, true => some (lower + 1)
  | false, false => none

def searchGrids (x : Binary64) (power : Int) : Nat → Decimal
  | 0 => ⟨0, 0⟩
  | tries + 1 =>
    match x.onGrid? power with
    | some digits => ⟨digits, power⟩
    | none => x.searchGrids (power - 1) tries

-- Seventeen digits always suffice.
def shortest (x : Binary64) : Decimal :=
  x.searchGrids x.magnitude 17

end Binary64

-- A number written in place has at least one digit after the point.
structure Layout where
  least : Int
  greatest : Int

def zeros (n : Nat) : Text :=
  List.replicate n '0'

def Layout.inPlace (digits : Text) (first : Int) : Text :=
  if first < 0 then "0.".toList ++ zeros (-first - 1).toNat ++ digits
  else
    let whole := first.toNat + 1
    let after := digits.drop whole
    digits.take whole ++ zeros (whole - digits.length) ++
      '.' :: (if after = [] then ['0'] else after)

def Layout.withExponent (digits : Text) (first : Int) : Text :=
  let power := if first < 0 then '-' :: decimal first.natAbs else '+' :: decimal first.natAbs
  match digits with
  | [] => []
  | [d] => d :: 'e' :: power
  | d :: more => d :: '.' :: more ++ 'e' :: power

def Decimal.parts (d : Decimal) : Text × Int :=
  let digits := decimal d.digits
  (((digits.reverse.dropWhile (· = '0')).reverse), d.exponent + digits.length - 1)

def Layout.write (layout : Layout) (x : Binary64) : Text :=
  if x.mantissa = 0 then "0.0".toList
  else
    let (digits, first) := x.shortest.parts
    if layout.least ≤ first ∧ first ≤ layout.greatest then Layout.inPlace digits first
    else Layout.withExponent digits first

end Prejoin
