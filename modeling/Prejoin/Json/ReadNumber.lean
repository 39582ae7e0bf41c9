import Prejoin.Json.Read
import Prejoin.Json.Value

set_option autoImplicit false

namespace Prejoin.Json

def digitValue (c : Char) : Nat := c.toNat - '0'.toNat

def maxNat64 : Nat := 0xFFFFFFFFFFFFFFFF

def appendDigits (number : Nat) : Text → Nat × Text
  | [] => (number, [])
  | d :: rest =>
    let next := 10 * number + digitValue d
    if next ≤ maxNat64 then appendDigits next rest else (number, d :: rest)

structure Scientific where
  significand : Nat
  exponent : Int

def doubleOf (care : Care) (negative : Bool) (x : Scientific) : Read Number := fun rest =>
  match Binary64.ofDecimal? x.significand x.exponent with
  | some size => .ok (.double negative size, rest)
  | none =>
    if care = .keep then faultBefore .numberOutOfRange rest
    else .ok (.double negative .zero, rest)

theorem doubleOf_within (care : Care) (negative : Bool) (x : Scientific) :
    Within (doubleOf care negative x) := by
  intro s a rest done
  unfold doubleOf at done
  grind

def maxExponent : Nat := 0x7FFFFFFF

def exponentDigits (value : Nat) : Text → Nat × Text
  | [] => (value, [])
  | d :: rest =>
    let next := 10 * value + digitValue d
    if next ≤ maxExponent then exponentDigits next rest else (next, rest)

def unsign : Text → Bool × Text
  | '+' :: rest => (false, rest)
  | '-' :: rest => (true, rest)
  | rest => (false, rest)

theorem length_unsign (s : Text) : (unsign s).2.length ≤ s.length := by
  unfold unsign
  split <;> simp

theorem length_afterDigits (s : Text) : (s.dropWhile Char.isDigit).length ≤ s.length :=
  (List.dropWhile_sublist Char.isDigit).length_le

def noDigits {α : Type} (s : Text) : Except Fault α :=
  if s = [] then faultAt .endInValue s else faultAt .invalidNumber s

@[simp, grind =] theorem noDigits_ne_ok {α : Type} (s : Text) (a : α) :
    (noDigits s = .ok a) = False := by
  unfold noDigits
  split <;> simp

-- An exponent that is too large is refused as soon as that shows, unless the number is zero or
-- the exponent negative.
def readExponent (care : Care) (negative : Bool) (x : Scientific) : Read Number := fun s =>
  let (down, s) := unsign s
  let digits := s.takeWhile Char.isDigit
  let rest := s.dropWhile Char.isDigit
  if digits = [] then noDigits s
  else
    let (power, later) := exponentDigits 0 digits
    if maxExponent < power ∧ !down ∧ x.significand ≠ 0 ∧ care = .keep then
      faultBefore .numberOutOfRange (later ++ rest)
    else
      let exponent := if down then x.exponent - power else x.exponent + power
      doubleOf care negative ⟨x.significand, exponent⟩ rest

theorem readExponent_within (care : Care) (negative : Bool) (x : Scientific) :
    Within (readExponent care negative x) := by
  intro s a rest done
  have signed := length_unsign s
  have digits := length_afterDigits (unsign s).2
  have last := doubleOf_within care negative
  unfold Within at last
  unfold readExponent at done
  grind

def readTail (care : Care) (negative : Bool) (x : Scientific) : Read Number
  | 'e' :: rest | 'E' :: rest => readExponent care negative x rest
  | rest => doubleOf care negative x rest

theorem readTail_within (care : Care) (negative : Bool) (x : Scientific) :
    Within (readTail care negative x) := by
  intro s a rest done
  have exponent := readExponent_within care negative x
  have last := doubleOf_within care negative x
  unfold Within at exponent last
  unfold readTail at done
  grind

def readFraction (care : Care) (negative : Bool) (x : Scientific) : Read Number := fun s =>
  let digits := s.takeWhile Char.isDigit
  let rest := s.dropWhile Char.isDigit
  if digits = [] then noDigits s
  else
    let (significand, dropped) := appendDigits x.significand digits
    let places : Int := digits.length - dropped.length
    readTail care negative ⟨significand, x.exponent - places⟩ rest

theorem readFraction_within (care : Care) (negative : Bool) (x : Scientific) :
    Within (readFraction care negative x) := by
  intro s a rest done
  have digits := length_afterDigits s
  have last := readTail_within care negative
  unfold Within at last
  unfold readFraction at done
  grind

def maxNegative : Nat := 0x8000000000000000

-- An integer with a sign that 64 bits do not hold, and a negative zero, become doubles.
def integerOf (care : Care) (negative : Bool) (n : Nat) : Read Number := fun rest =>
  if !negative then .ok (.integer n, rest)
  else if n = 0 ∨ maxNegative < n then doubleOf care true ⟨n, 0⟩ rest
  else .ok (.integer (-n), rest)

theorem integerOf_within (care : Care) (negative : Bool) (n : Nat) :
    Within (integerOf care negative n) := by
  intro s a rest done
  have last := doubleOf_within care true ⟨n, 0⟩
  unfold Within at last
  unfold integerOf at done
  grind

-- What follows the digits before the point or exponent, of which those in `dropped` no longer
-- fit 64 bits.
def readAfter (care : Care) (negative : Bool) (significand : Nat) (dropped : Text) : Read Number
  | '.' :: rest => readFraction care negative ⟨significand, dropped.length⟩ rest
  | rest =>
    if dropped = [] ∧ rest.head? ≠ some 'e' ∧ rest.head? ≠ some 'E' then
      integerOf care negative significand rest
    else readTail care negative ⟨significand, dropped.length⟩ rest

theorem readAfter_within (care : Care) (negative : Bool) (significand : Nat) (dropped : Text) :
    Within (readAfter care negative significand dropped) := by
  intro s a rest done
  have fraction := readFraction_within care negative ⟨significand, dropped.length⟩
  have integer := integerOf_within care negative significand
  have last := readTail_within care negative ⟨significand, dropped.length⟩
  unfold Within at fraction integer last
  unfold readAfter at done
  grind

def readNumber (care : Care) (negative : Bool) : Read Number := fun s =>
  let rest := s.dropWhile Char.isDigit
  match s.takeWhile Char.isDigit with
  | [] => noDigits s
  | '0' :: d :: more => faultAt .invalidNumber (d :: more ++ rest)
  | digits =>
    let (significand, dropped) := appendDigits 0 digits
    readAfter care negative significand dropped rest

theorem readNumber_shrinks {care : Care} {negative : Bool} {s rest : Text} {n : Number}
    (done : readNumber care negative s = .ok (n, rest)) : rest.length < s.length := by
  have whole := congrArg List.length (List.takeWhile_append_dropWhile (p := Char.isDigit) (l := s))
  have after := readAfter_within care negative
  unfold Within at after
  unfold readNumber at done
  simp only [List.length_append] at whole
  split at done
  next => simp at done
  next => simp at done
  next digits empty _ =>
    have some : 0 < (s.takeWhile Char.isDigit).length := List.length_pos_iff.2 empty
    have := after _ _ _ _ _ done
    omega

end Prejoin.Json
