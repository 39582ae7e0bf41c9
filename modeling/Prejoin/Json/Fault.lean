import Prejoin.Text.Basic

set_option autoImplicit false

namespace Prejoin.Json

inductive Cause where
  | endInValue | endInObject | endInList | endInString
  | expectedValue | expectedIdent | expectedColon
  | expectedListEnd | expectedObjectEnd
  | keyNotText | trailingComma | trailingCharacters
  | invalidNumber | numberOutOfRange
  | invalidEscape | controlCharacter | endOfHexEscape | loneSurrogate
  | tooDeep
deriving DecidableEq, Repr

def Cause.message : Cause → String
  | .endInValue => "EOF while parsing a value"
  | .endInObject => "EOF while parsing an object"
  | .endInList => "EOF while parsing a list"
  | .endInString => "EOF while parsing a string"
  | .expectedValue => "expected value"
  | .expectedIdent => "expected ident"
  | .expectedColon => "expected `:`"
  | .expectedListEnd => "expected `,` or `]`"
  | .expectedObjectEnd => "expected `,` or `\x7d`"
  | .keyNotText => "key must be a string"
  | .trailingComma => "trailing comma"
  | .trailingCharacters => "trailing characters"
  | .invalidNumber => "invalid number"
  | .numberOutOfRange => "number out of range"
  | .invalidEscape => "invalid escape"
  | .controlCharacter => "control character (\\u0000-\\u001F) found while parsing a string"
  | .endOfHexEscape => "unexpected end of hex escape"
  | .loneSurrogate => "lone leading surrogate in hex escape"
  | .tooDeep => "recursion limit exceeded"

structure Fault where
  cause : Cause
  unread : Nat
deriving DecidableEq, Repr

structure ReadError where
  cause : Cause
  line : Nat
  column : Nat
deriving DecidableEq, Repr

def position (line column : Nat) : Nat → Text → Nat × Nat
  | n, [] => (line, column + n)
  | n, c :: rest =>
    if n < c.utf8Size then (line, column + n)
    else if c = '\n' then position (line + 1) 0 (n - c.utf8Size) rest
    else position line (column + c.utf8Size) (n - c.utf8Size) rest

def Fault.locate (source : Text) (fault : Fault) : ReadError :=
  let (line, column) := position 1 0 (byteLength source - fault.unread) source
  ⟨fault.cause, line, column⟩

def ReadError.message (e : ReadError) : Text :=
  e.cause.message.toList ++ " at line ".toList ++ decimal e.line ++
    " column ".toList ++ decimal e.column

end Prejoin.Json
