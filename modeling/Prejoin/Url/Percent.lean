import Prejoin.Text.Basic

set_option autoImplicit false

namespace Prejoin.Url

def upperHex (n : Nat) : Char :=
  (Nat.digitChar (n % 16)).toUpper

def percentByte (byte : UInt8) : Text :=
  ['%', upperHex (byte.toNat / 16), upperHex byte.toNat]

def percentChar (c : Char) : Text :=
  (String.utf8EncodeChar c).flatMap percentByte

def percentEncode (encodes : Char → Bool) (s : Text) : Text :=
  s.flatMap fun c => if encodes c then percentChar c else [c]

def inControls (c : Char) : Bool :=
  c.toNat ≤ 0x1F || 0x7F ≤ c.toNat

def inFragment (c : Char) : Bool :=
  inControls c || c = ' ' || c = '"' || c = '<' || c = '>' || c = '`'

def inQuery (c : Char) : Bool :=
  inControls c || c = ' ' || c = '"' || c = '#' || c = '<' || c = '>'

def inSpecialQuery (c : Char) : Bool :=
  inQuery c || c = '\''

def inPath (c : Char) : Bool :=
  inFragment c || c = '#' || c = '?' || c = '\x7b' || c = '\x7d'

def inUserInfo (c : Char) : Bool :=
  inPath c || c = '/' || c = ':' || c = ';' || c = '=' || c = '@' || c = '[' || c = '\\' ||
    c = ']' || c = '^' || c = '|'

def escapedByte? : Text → Option UInt8
  | '%' :: high :: low :: _ => do
    let high ← hexDigit? high
    let low ← hexDigit? low
    return UInt8.ofNat (16 * high + low)
  | _ => none

-- The bytes of a text with its escapes resolved; a percent sign that starts none is kept.
def percentDecode : Text → List UInt8
  | [] => []
  | c :: rest =>
    match escapedByte? (c :: rest) with
    | some byte => byte :: percentDecode (rest.drop 2)
    | none => String.utf8EncodeChar c ++ percentDecode rest
termination_by s => s.length

def ofBytes? (bytes : List UInt8) : Option Text :=
  (String.fromUTF8? ⟨bytes.toArray⟩).map String.toList

end Prejoin.Url
