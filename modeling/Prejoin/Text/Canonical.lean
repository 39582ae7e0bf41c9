import Prejoin.Text.CombiningClass
import Prejoin.Text.Composite

set_option autoImplicit false

namespace Prejoin

def firstSyllable : Nat := 0xAC00

def firstLead : Nat := 0x1100

def firstVowel : Nat := 0x1161

-- The code point before the first trailing consonant stands for none.
def noTail : Nat := 0x11A7

def leads : Nat := 19

def vowels : Nat := 21

def tails : Nat := 28

def syllableNumber? (c : Char) : Option Nat :=
  if firstSyllable ≤ c.toNat ∧ c.toNat < firstSyllable + leads * vowels * tails then
    some (c.toNat - firstSyllable)
  else none

def decomposeSyllable (n : Nat) : Text :=
  let lead := Char.ofNat (firstLead + n / (vowels * tails))
  let vowel := Char.ofNat (firstVowel + n / tails % vowels)
  if n % tails = 0 then [lead, vowel] else [lead, vowel, Char.ofNat (noTail + n % tails)]

def composeSyllable? (a b : Char) : Option Char :=
  match syllableNumber? a with
  | some n =>
    if n % tails = 0 ∧ noTail < b.toNat ∧ b.toNat < noTail + tails then
      some (Char.ofNat (a.toNat + (b.toNat - noTail)))
    else none
  | none =>
    if firstLead ≤ a.toNat ∧ a.toNat < firstLead + leads ∧
        firstVowel ≤ b.toNat ∧ b.toNat < firstVowel + vowels then
      let n := ((a.toNat - firstLead) * vowels + (b.toNat - firstVowel)) * tails
      some (Char.ofNat (firstSyllable + n))
    else none

def decomposeChar (c : Char) : Text :=
  match syllableNumber? c with
  | some n => decomposeSyllable n
  | none => ((lookup? composites c).or (lookup? alwaysDecomposed c)).getD [c]

def decompose (s : Text) : Text :=
  s.flatMap decomposeChar

def insertMark (c : Char) : Text → Text
  | [] => [c]
  | d :: rest =>
    if 0 < combiningClass d ∧ combiningClass d < combiningClass c then d :: insertMark c rest
    else c :: d :: rest

def orderMarks (s : Text) : Text :=
  s.foldr insertMark []

def composite? (a b : Char) : Option Char :=
  let sequence := (decomposeChar a ++ [b]).map Char.toNat
  (composeSyllable? a b).or
    ((composites.find? fun row => row.target = sequence).map fun row => Char.ofNat row.first)

def isBlocked (marks : Text) (c : Char) : Bool :=
  marks.getLast?.any fun mark => combiningClass c ≤ combiningClass mark

def composeFrom (letter : Char) (marks : Text) : Text → Text
  | [] => letter :: marks
  | c :: rest =>
    match if isBlocked marks c then none else composite? letter c with
    | some composed => composeFrom composed marks rest
    | none =>
      if combiningClass c = 0 then letter :: marks ++ composeFrom c [] rest
      else composeFrom letter (marks ++ [c]) rest

def compose : Text → Text
  | [] => []
  | c :: rest => if combiningClass c = 0 then composeFrom c [] rest else c :: compose rest

def canonical (s : Text) : Text :=
  compose (orderMarks (decompose s))

end Prejoin
