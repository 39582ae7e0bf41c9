import Prejoin.Text.Basic
import Prejoin.Text.Ranges

set_option autoImplicit false

namespace Prejoin

def hexNumber (s : Text) : Nat :=
  s.foldl (fun n c => 16 * n + (hexDigit? c).getD 0) 0

def words (line : String) : List Text :=
  splitOn ' ' line.toList

-- The word `41-5A` is a range, and `AA` a range of one code point.
def rangeOfWord (word : Text) : Nat × Nat :=
  match splitOn '-' word with
  | [first, last] => (hexNumber first, hexNumber last)
  | _ => (hexNumber word, hexNumber word)

def Ranges.ofLines (lines : List String) : Ranges :=
  (lines.flatMap words).map rangeOfWord

-- The code points of the target move along with those from the first to the last.
structure Row where
  first : Nat
  last : Nat
  step : Nat
  target : List Nat
deriving DecidableEq, Repr

def Row.target? (row : Row) (c : Char) : Option Text :=
  let n := c.toNat
  if row.first ≤ n ∧ n ≤ row.last ∧ (n - row.first) % row.step = 0 then
    some (row.target.map fun m => Char.ofNat (m + (n - row.first)))
  else none

def lookup? (table : List Row) (c : Char) : Option Text :=
  table.findSome? fun row => row.target? c

def targetOfWord (word : Text) : List Nat :=
  (splitOn '.' word).map hexNumber

-- The word `C0:41.300` is a row of one code point, `41-5A:61` one of a range, and `100=12E:101`
-- one of every other code point; without a place the row is of the given code point.
def Row.ofWord (next : Nat) (word : Text) : Row :=
  match splitOn ':' word with
  | [place, target] =>
    match splitOn '-' place, splitOn '=' place with
    | [first, last], _ => ⟨hexNumber first, hexNumber last, 1, targetOfWord target⟩
    | _, [first, last] => ⟨hexNumber first, hexNumber last, 2, targetOfWord target⟩
    | _, _ => ⟨hexNumber place, hexNumber place, 1, targetOfWord target⟩
  | _ => ⟨next, next, 1, targetOfWord word⟩

def Row.ofWords (next : Nat) : List Text → List Row
  | [] => []
  | word :: rest =>
    let row := Row.ofWord next word
    row :: Row.ofWords (row.last + 1) rest

def Row.ofLines (lines : List String) : List Row :=
  lines.flatMap fun line => Row.ofWords 0 (words line)

end Prejoin
