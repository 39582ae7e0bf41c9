import Prejoin.Domain.Direction
import Prejoin.Domain.Joiner
import Prejoin.Domain.Mapping
import Prejoin.Domain.Punycode
import Prejoin.Text.Canonical

set_option autoImplicit false

namespace Prejoin.Domain

def isForbidden (c : Char) : Bool :=
  c.toNat ≤ 0x20 || c.toNat = 0x7F || "%#/:<>?@[\\]^|".toList.contains c

def encodedMark : Text := "xn--".toList

def isEncoded (label : Text) : Bool :=
  encodedMark.isPrefixOf label

def plainForm? (s : Text) : Option Text :=
  (mapText? s).map canonical

def maxEncodedLength : Nat := 2000

def decodeLabel? (encoded : Text) : Option Text :=
  if encoded.getLast?.all (· = '-') ∨ maxEncodedLength < encoded.length ∨ !encoded.all isAscii then
    none
  else
    match decode? encoded with
    | some label => if plainForm? label = some label then some label else none
    | none => none

def readLabel? (label : Text) : Option Text :=
  if isEncoded label then decodeLabel? (label.drop encodedMark.length) else some label

def maxLabelLength : Nat := 1000

def isWellFormed (label : Text) : Bool :=
  !label.head?.any isCombining && joinersFit [] label &&
    (label.all isAscii || label.length ≤ maxLabelLength)

-- If any label is partly written to the left, all labels are held to the rules of direction.
def areWellFormed (labels : List Text) : Bool :=
  labels.all isWellFormed && (!labels.any (·.any turnsLeft) || labels.all isInOrder)

def writeLabel (label : Text) : Text :=
  if label.all isAscii then label else encodedMark ++ encode label

def labelsOf? (name : Text) : Option (List Text) := do
  let plain ← plainForm? name
  if plain.any isForbidden then none
  else
    let labels ← (splitOn '.' plain).mapM readLabel?
    if areWellFormed labels then some labels else none

-- In a name of ASCII alone only encoded labels need to be looked into.
def isPlain (name : Text) : Bool :=
  name.all isAscii && !(splitOn '.' (foldCase name)).any isEncoded

def toAscii? (name : Text) : Option Text :=
  if isPlain name then
    if name.any isForbidden then none else some (foldCase name)
  else (labelsOf? name).map fun labels => ['.'].intercalate (labels.map writeLabel)

end Prejoin.Domain
