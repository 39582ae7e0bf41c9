import Prejoin.Json.Value

set_option autoImplicit false

namespace Prejoin.Json

def hexChar (n : Nat) : Char :=
  Nat.digitChar (n % 16)

def unicodeEscape (n : Nat) : Text :=
  ['\\', 'u', hexChar (n / 0x1000), hexChar (n / 0x100), hexChar (n / 0x10), hexChar n]

def renderChar (c : Char) : Text :=
  match c with
  | '"' => ['\\', '"']
  | '\\' => ['\\', '\\']
  | '\n' => ['\\', 'n']
  | '\r' => ['\\', 'r']
  | '\t' => ['\\', 't']
  | c =>
    let n := c.toNat
    if n < 0x20 ∨ n = 0x85 ∨ n = 0x2028 ∨ n = 0x2029 then unicodeEscape n else [c]

def renderText (s : Text) : Text :=
  '"' :: s.flatMap renderChar ++ ['"']

def separated : List Text → Text
  | [] => []
  | [part] => part
  | part :: rest => part ++ ',' :: separated rest

mutual

def render : Json → Text
  | .null => "null".toList
  | .bool true => "true".toList
  | .bool false => "false".toList
  | .number n => n.toText
  | .text s => renderText s
  | .list items => '[' :: separated (renderItems items) ++ [']']
  | .object members => '\x7b' :: separated (renderMembers members) ++ ['\x7d']

def renderItems : List Json → List Text
  | [] => []
  | item :: rest => render item :: renderItems rest

def renderMembers : List (Text × Json) → List Text
  | [] => []
  | (name, value) :: rest => (renderText name ++ ':' :: render value) :: renderMembers rest

end

end Prejoin.Json
