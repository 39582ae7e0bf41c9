import Prejoin.Text.Basic

set_option autoImplicit false

namespace Prejoin.Domain

def isAscii (c : Char) : Bool :=
  c.toNat < 0x80

def base : Nat := 36

def digitValue? (c : Char) : Option Nat :=
  if c.isAlpha then some (c.toLower.toNat - 'a'.toNat)
  else if c.isDigit then some (c.toNat - '0'.toNat + 26)
  else none

def digitOf (value : Nat) : Char :=
  if value < 26 then Char.ofNat ('a'.toNat + value) else Char.ofNat ('0'.toNat + (value - 26))

-- The lowest digit of a number is written first, and the first one below its threshold is the last.
def threshold (bias position : Nat) : Nat :=
  max 1 (min 26 (position - bias))

theorem threshold_pos (bias position : Nat) : 0 < threshold bias position := by
  simp only [threshold]
  omega

def scaleDown (steps position : Nat) : Nat × Nat :=
  if 455 < steps then scaleDown (steps / 35) (position + base) else (steps, position)
termination_by steps

def adapt (steps count : Nat) (isFirst : Bool) : Nat :=
  let damped := if isFirst then steps / 700 else steps / 2
  let (scaled, position) := scaleDown (damped + damped / count) 0
  position + base * scaled / (scaled + 38)

def firstBias : Nat := 72

def firstCodePoint : Nat := 0x80

-- Places and weights are kept in 32 bits.
def stepLimit : Nat := 0x100000000

def readSteps? (bias position weight place : Nat) : Text → Option (Nat × Text)
  | [] => none
  | c :: rest =>
    match digitValue? c with
    | none => none
    | some digit =>
      let reached := place + digit * weight
      let heavier := weight * (base - threshold bias position)
      if stepLimit ≤ reached then none
      else if digit < threshold bias position then some (reached, rest)
      else if stepLimit ≤ heavier then none
      else readSteps? bias (position + base) heavier reached rest

theorem readSteps?_shorter {bias position weight place reached : Nat} {s rest : Text}
    (h : readSteps? bias position weight place s = some (reached, rest)) :
    rest.length < s.length := by
  induction s generalizing position weight place with
  | nil => simp [readSteps?] at h
  | cons c tail ih =>
    simp only [readSteps?] at h
    split at h
    next => simp at h
    next =>
      split at h
      next => simp at h
      next =>
        split at h
        next => simp_all
        next =>
          split at h
          next => simp at h
          next => exact Nat.lt_succ_of_lt (ih h)

-- The steps go round the places of the text as it is so far, and to the next code point with each
-- round.
def insertChars? (bias codePoint place : Nat) (read s : Text) : Option Text :=
  if s = [] then some read
  else
    match found : readSteps? bias base 1 place s with
    | none => none
    | some (reached, rest) =>
      have := readSteps?_shorter found
      let count := read.length + 1
      let next := codePoint + reached / count
      if next.isValidChar then
        insertChars? (adapt (reached - place) count (place = 0)) next (reached % count + 1)
          (read.insertIdx (reached % count) (Char.ofNat next)) rest
      else none
termination_by s.length

def splitPlain (s : Text) : Text × Text :=
  let after := s.reverse.takeWhile (· ≠ '-')
  match s.reverse.dropWhile (· ≠ '-') with
  | _ :: c :: before => ((c :: before).reverse, after.reverse)
  | _ => ([], s)

def decode? (s : Text) : Option Text :=
  let (plain, rest) := splitPlain s
  insertChars? firstBias firstCodePoint 0 (foldCase plain) rest

def writeSteps (bias position steps : Nat) : Text :=
  let low := threshold bias position
  if steps < low then [digitOf steps]
  else
    digitOf (low + (steps - low) % (base - low)) ::
      writeSteps bias (position + base) ((steps - low) / (base - low))
termination_by steps
decreasing_by
  have positive := threshold_pos bias position
  exact Nat.lt_of_le_of_lt (Nat.div_le_self _ _) (by omega)

structure Written where
  bias : Nat
  count : Nat
  steps : Nat
  text : Text

def Written.pass (plain codePoint : Nat) (w : Written) (c : Char) : Written :=
  if c.toNat < codePoint then { w with steps := w.steps + 1 }
  else if c.toNat = codePoint then
    { bias := adapt w.steps (w.count + 1) (w.count = plain)
      count := w.count + 1
      steps := 0
      text := w.text ++ writeSteps w.bias base w.steps }
  else w

def writeRounds (plain : Nat) (s : Text) (reached : Nat) (w : Written) : List Nat → Written
  | [] => w
  | codePoint :: rest =>
    let start := { w with steps := w.steps + (codePoint - reached) * (w.count + 1) }
    let round := s.foldl (Written.pass plain codePoint) start
    writeRounds plain s (codePoint + 1) { round with steps := round.steps + 1 } rest

def encode (s : Text) : Text :=
  let plain := s.filter isAscii
  let others := (s.filter fun c => !isAscii c).map Char.toNat
  let codePoints := (others.mergeSort (· ≤ ·)).eraseDups
  let rounds :=
    writeRounds plain.length s firstCodePoint ⟨firstBias, plain.length, 0, []⟩ codePoints
  (if plain = [] then [] else plain ++ ['-']) ++ rounds.text

end Prejoin.Domain
