import Prejoin.Json.Value
import Prejoin.Text.Blank

set_option autoImplicit false

namespace Prejoin

inductive ShapeError where
  | noMembers
  | membersNotList
  | noKeys (count : Nat) (field : Text)
deriving DecidableEq, Repr

def ShapeError.message : ShapeError → Text
  | .noMembers => "missing member collection".toList
  | .membersNotList => "member is not an array".toList
  | .noKeys count field =>
    decimal count ++ " members returned but none carries key field ".toList ++ field

def spiField (field : Text) : Text :=
  "spi:".toList ++ field

-- The other name counts only where the first is missing, whatever the value under the first is.
def recordKey? (field : Text) (record : Json) : Option Text :=
  match (record.field? field).or (record.field? (spiField field)) with
  | some (.text value) => trimmed? value
  | some (.number value) => some value.toText
  | _ => none

def extractKeys (field : Text) (body : Json) : Except ShapeError (List Text) :=
  match body.either? "member".toList "rdfs:member".toList with
  | none => .error .noMembers
  | some (.list records) =>
    let keys := records.filterMap (recordKey? field)
    if keys = [] ∧ records ≠ [] then .error (.noKeys records.length field) else .ok keys
  | some _ => .error .membersNotList

def hasNextPage (body : Json) : Bool :=
  match (body.either? "responseInfo".toList "oslc:responseInfo".toList).bind
    (Json.either? "nextPage".toList "oslc:nextPage".toList) with
  | some next => !next.isNull
  | none => false

structure Keys where
  returned : Nat
  kept : List Text
  truncated : Bool
deriving DecidableEq, Repr

def Keys.ofBody (field : Text) (maxKeys : Nat) (body : Json) : Except ShapeError Keys :=
  (extractKeys field body).map fun keys =>
    { returned := keys.length
      kept := keys.take maxKeys
      truncated := maxKeys < keys.length || hasNextPage body }

end Prejoin
