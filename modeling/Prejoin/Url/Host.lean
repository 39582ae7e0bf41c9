import Prejoin.Domain.Name
import Prejoin.Url.Error
import Prejoin.Url.Percent

set_option autoImplicit false

namespace Prejoin.Url

inductive Host where
  | name (text : Text)
  | ipv4 (address : Nat)
  | ipv6 (groups : List Nat)
deriving DecidableEq, Repr

def digitsValue? (base : Nat) (digits : Text) : Option Nat :=
  digits.foldl (fun value c => do
    let value ← value
    let digit ← hexDigit? c
    if digit < base then some (base * value + digit) else none) (some 0)

def ipv4Part? (part : Text) : Option Nat :=
  match part with
  | [] => none
  | '0' :: 'x' :: digits | '0' :: 'X' :: digits => digitsValue? 16 digits
  | '0' :: d :: digits => digitsValue? 8 (d :: digits)
  | digits => digitsValue? 10 digits

def withoutLastEmpty (parts : List Text) : List Text :=
  if parts.getLast? = some [] then parts.dropLast else parts

def endsInNumber (name : Text) : Bool :=
  match (withoutLastEmpty (splitOn '.' name)).getLast? with
  | none => false
  | some last => (last ≠ [] && last.all Char.isDigit) || (ipv4Part? last).isSome

def bytesTo (n : Nat) : Nat := Nat.pow 256 n

-- All parts but the last are bytes; the last fills the bytes that are left.
def ipv4? (name : Text) : Option Nat := do
  let parts := withoutLastEmpty (splitOn '.' name)
  let numbers ← parts.mapM ipv4Part?
  let last ← numbers.getLast?
  let bytes := numbers.dropLast
  let limit := bytesTo (4 - bytes.length)
  if bytes.length < 4 ∧ bytes.all (· ≤ 255) ∧ last < limit then
    some (bytes.foldl (fun address byte => 256 * address + byte) 0 * limit + last)
  else none

def ipv4Text (address : Nat) : Text :=
  let byte (n : Nat) : Text := decimal (address / bytesTo n % 256)
  byte 3 ++ '.' :: byte 2 ++ '.' :: byte 1 ++ '.' :: byte 0

def ipv6Group? (group : Text) : Option Nat :=
  if group = [] ∨ 4 < group.length then none else digitsValue? 16 group

def plainByte? (part : Text) : Option Nat :=
  if part = [] ∨ (part.head? = some '0' ∧ part ≠ ['0']) then none
  else (digitsValue? 10 part).filter (· ≤ 255)

def ipv6Tail? (group : Text) : Option (List Nat) :=
  match splitOn '.' group with
  | [_] => (ipv6Group? group).map fun n => [n]
  | [a, b, c, d] => do
    return [256 * (← plainByte? a) + (← plainByte? b), 256 * (← plainByte? c) + (← plainByte? d)]
  | _ => none

def ipv6Groups? (last : Text → Option (List Nat)) (groups : List Text) : Option (List Nat) := do
  match groups.getLast? with
  | none => return []
  | some group => return (← groups.dropLast.mapM ipv6Group?) ++ (← last group)

def splitGap? : Text → Option (Text × Text)
  | ':' :: ':' :: rest => some ([], rest)
  | [] => none
  | c :: rest => (splitGap? rest).map fun (before, after) => (c :: before, after)

def groupTexts (s : Text) : List Text :=
  if s = [] then [] else splitOn ':' s

-- A gap stands for one zero group or more, as many as are missing.
def ipv6? (s : Text) : Option (List Nat) := do
  match splitGap? s with
  | some (before, after) =>
    let left ← ipv6Groups? (fun group => (ipv6Group? group).map fun n => [n]) (groupTexts before)
    let right ← ipv6Groups? ipv6Tail? (groupTexts after)
    let missing := 8 - (left.length + right.length)
    if missing = 0 then none else return left ++ List.replicate missing 0 ++ right
  | none =>
    let groups ← ipv6Groups? ipv6Tail? (groupTexts s)
    if groups.length = 8 then return groups else none

def zeroRun (groups : List Nat) : Nat :=
  (groups.takeWhile (· = 0)).length

def longestZeroRun : List Nat → Nat × Nat
  | [] => (0, 0)
  | group :: rest =>
    let here := zeroRun (group :: rest)
    let (start, length) := longestZeroRun rest
    if length ≤ here then (0, here) else (start + 1, length)

def hexText (n : Nat) : Text :=
  Nat.toDigits 16 n

def joinGroups (groups : List Nat) : Text :=
  [':'].intercalate (groups.map hexText)

-- The longest run of at least two zero groups becomes a gap.
def ipv6Text (groups : List Nat) : Text :=
  let (start, length) := longestZeroRun groups
  if length < 2 then joinGroups groups
  else joinGroups (groups.take start) ++ [':', ':'] ++ joinGroups (groups.drop (start + length))

def isForbiddenInName (c : Char) : Bool :=
  "\x00\t\n\r #/:<>?@[\\]^|".toList.contains c

def bracketed? (s : Text) : Option (Option Text) :=
  match s with
  | '[' :: rest => some (if rest.getLast? = some ']' then some rest.dropLast else none)
  | _ => none

def Host.ofBracketed? (inside : Option Text) : Except UrlError Host :=
  match inside.bind ipv6? with
  | some groups => .ok (.ipv6 groups)
  | none => .error .invalidIpv6

def Host.ofDomain? (s : Text) : Except UrlError Host :=
  match bracketed? s with
  | some inside => Host.ofBracketed? inside
  | none =>
    match ofBytes? (percentDecode s) with
    | none => .error .invalidDomain
    | some decoded =>
      match Domain.toAscii? decoded with
      | none => .error .invalidDomain
      | some domain =>
        if domain = [] then .error .emptyHost
        else if endsInNumber domain then
          match ipv4? domain with
          | some address => .ok (.ipv4 address)
          | none => .error .invalidIpv4
        else .ok (.name domain)

def Host.ofName? (s : Text) : Except UrlError Host :=
  match bracketed? s with
  | some inside => Host.ofBracketed? inside
  | none =>
    if s.any isForbiddenInName then .error .invalidHostCharacter
    else .ok (.name (percentEncode inControls s))

def Host.toText : Host → Text
  | .name text => text
  | .ipv4 address => ipv4Text address
  | .ipv6 groups => '[' :: ipv6Text groups ++ [']']

end Prejoin.Url
