import Prejoin.Dict
import Prejoin.Json.Decimal

set_option autoImplicit false

namespace Prejoin

inductive Number where
  | integer (value : Int)
  | double (negative : Bool) (size : Binary64)
deriving DecidableEq, Repr

inductive Json where
  | null
  | bool (value : Bool)
  | number (value : Number)
  | text (value : Text)
  | list (items : List Json)
  | object (members : List (Text × Json))

def integerText : Int → Text
  | .ofNat n => decimal n
  | .negSucc n => '-' :: decimal (n + 1)

-- Doubles are written in place from `0.00001` up to sixteen digits before the point.
def Number.layout : Layout := ⟨-5, 15⟩

def Number.toText : Number → Text
  | .integer n => integerText n
  | .double negative size => (if negative then ['-'] else []) ++ Number.layout.write size

namespace Json

def nat (n : Nat) : Json :=
  .number (.integer n)

def ofText? : Option Text → Json
  | none => .null
  | some s => .text s

def ofNat? : Option Nat → Json
  | none => .null
  | some n => .nat n

def asText? : Json → Option Text
  | .text s => some s
  | _ => none

def asNat? : Json → Option Nat
  | .number (.integer (.ofNat n)) => some n
  | _ => none

def asOptional? {α : Type} (read : Json → Option α) : Json → Option (Option α)
  | .null => some none
  | value => (read value).map some

def member? (name : Text) : Json → Option Json
  | .object members => members.lookup name
  | _ => none

def either? (name other : Text) (value : Json) : Option Json :=
  (value.member? name).or (value.member? other)

-- The member of the name as it is spelled, or else the first that is the same but for case.
def field? (name : Text) : Json → Option Json
  | .object members =>
    (members.lookup name).or ((members.find? fun named => sameName named.1 name).map Prod.snd)
  | _ => none

def items? : Json → Option (List Json)
  | .list items => some items
  | _ => none

def isNull : Json → Bool
  | .null => true
  | _ => false

end Json

end Prejoin
