set_option autoImplicit false

namespace Prejoin

def twoTo (n : Nat) : Nat := Nat.pow 2 n

def tenTo (n : Nat) : Nat := Nat.pow 10 n

structure Binary64 where
  mantissa : Nat
  exponent : Int
deriving DecidableEq, Repr

-- The integer nearest to `num / den`, the even one of two.
def roundDiv (num den : Nat) : Nat :=
  let quotient := num / den
  let twice := 2 * (num % den)
  if twice < den ∨ (twice = den ∧ quotient % 2 = 0) then quotient else quotient + 1

namespace Binary64

def leastExponent : Int := -1074

def greatestExponent : Int := 971

-- Mantissas have 53 binary digits unless the exponent is the least.
def leastMantissa : Nat := 0x10000000000000

def zero : Binary64 := ⟨0, leastExponent⟩

def scaled (num den : Nat) (exponent : Int) : Nat × Nat :=
  (num * twoTo (-exponent).toNat, den * twoTo exponent.toNat)

def exponentOf (num den : Nat) : Int :=
  let guess : Int := num.log2 - den.log2 - 52
  let (top, bottom) := scaled num den guess
  max (if leastMantissa * bottom ≤ top then guess else guess - 1) leastExponent

def nearest? (num den : Nat) : Option Binary64 :=
  if num = 0 then some zero
  else
    let exponent := exponentOf num den
    let (top, bottom) := scaled num den exponent
    let mantissa := roundDiv top bottom
    let rounded : Binary64 :=
      if mantissa = 2 * leastMantissa then ⟨leastMantissa, exponent + 1⟩ else ⟨mantissa, exponent⟩
    if rounded.exponent ≤ greatestExponent then some rounded else none

def fraction (x : Binary64) : Nat × Nat :=
  (x.mantissa * twoTo x.exponent.toNat, twoTo (-x.exponent).toNat)

def mul? (x y : Binary64) : Option Binary64 :=
  nearest? (x.fraction.1 * y.fraction.1) (x.fraction.2 * y.fraction.2)

def div? (x y : Binary64) : Option Binary64 :=
  nearest? (x.fraction.1 * y.fraction.2) (x.fraction.2 * y.fraction.1)

def ofNat? (n : Nat) : Option Binary64 :=
  nearest? n 1

def maxPower : Nat := 308

-- Rounds the significand, the power of ten and then their product or quotient.
def ofDecimal? (significand : Nat) (exponent : Int) : Option Binary64 := do
  let x ← ofNat? significand
  if x.mantissa = 0 then return zero
  let steps := exponent.natAbs
  if 0 ≤ exponent then
    if steps ≤ maxPower then x.mul? (← ofNat? (tenTo steps)) else none
  else if steps ≤ maxPower then
    x.div? (← ofNat? (tenTo steps))
  else if steps ≤ 2 * maxPower then
    (← x.div? (← ofNat? (tenTo maxPower))).div? (← ofNat? (tenTo (steps - maxPower)))
  else return zero

end Binary64

end Prejoin
