import Prejoin.Json.Value
import Prejoin.Text.Blank

set_option autoImplicit false

namespace Prejoin

structure Entry where
  relatedResource : Text := []
  rootJoinField : Text := []
  relatedKeyField : Text := []
  relatedSiteField : Option Text := none
  maxKeys : Option Nat := none
  pageSize : Option Nat := none
  select : Option Text := none
deriving DecidableEq, Repr

structure Relation where
  relatedResource : Text
  rootJoinField : Text
  relatedKeyField : Text
  relatedSiteField : Option Text
  maxKeys : Nat
  pageSize : Nat
  select : Text
deriving DecidableEq, Repr

def defaultMaxKeys : Nat := 50

def defaultPageSize : Nat := 200

def positive? (n : Nat) : Option Nat :=
  if 0 < n then some n else none

def Entry.relation? (entry : Entry) : Option Relation := do
  let relatedResource ← trimmed? entry.relatedResource
  let rootJoinField ← trimmed? entry.rootJoinField
  let relatedKeyField ← trimmed? entry.relatedKeyField
  return {
    relatedResource, rootJoinField, relatedKeyField
    relatedSiteField := entry.relatedSiteField.bind trimmed?
    maxKeys := (entry.maxKeys.bind positive?).getD defaultMaxKeys
    pageSize := (entry.pageSize.bind positive?).getD defaultPageSize
    select := (entry.select.bind trimmed?).getD relatedKeyField }

def readField {α : Type} (read : Json → Option α) (default : α) : Option Json → Option α
  | none => some default
  | some value => read value

def Entry.ofFields? (field : Text → Option Json) : Option Entry := do
  let text := Json.asText?
  let natural := Json.asNat?
  return {
    relatedResource := ← readField text [] (field "relatedResource".toList)
    rootJoinField := ← readField text [] (field "rootJoinField".toList)
    relatedKeyField := ← readField text [] (field "relatedKeyField".toList)
    relatedSiteField := ← readField (Json.asOptional? text) none (field "relatedSiteField".toList)
    maxKeys := ← readField (Json.asOptional? natural) none (field "maxKeys".toList)
    pageSize := ← readField (Json.asOptional? natural) none (field "pageSize".toList)
    select := ← readField (Json.asOptional? text) none (field "select".toList) }

def Entry.fieldNames : List Text :=
  ["relatedResource", "rootJoinField", "relatedKeyField", "relatedSiteField", "maxKeys",
    "pageSize", "select"].map String.toList

-- An object gives the fields by name, a list gives them by place.
def Entry.ofJson? : Json → Option Entry
  | .object members => Entry.ofFields? fun name => members.lookup name
  | .list items =>
    if items.length ≤ Entry.fieldNames.length then
      Entry.ofFields? fun name => (Entry.fieldNames.zip items).lookup name
    else none
  | _ => none

def Entry.toJson (entry : Entry) : Json :=
  .object [
    ("maxKeys".toList, .ofNat? entry.maxKeys),
    ("pageSize".toList, .ofNat? entry.pageSize),
    ("relatedKeyField".toList, .text entry.relatedKeyField),
    ("relatedResource".toList, .text entry.relatedResource),
    ("relatedSiteField".toList, .ofText? entry.relatedSiteField),
    ("rootJoinField".toList, .text entry.rootJoinField),
    ("select".toList, .ofText? entry.select)]

def Relation.toEntry (relation : Relation) : Entry where
  relatedResource := relation.relatedResource
  rootJoinField := relation.rootJoinField
  relatedKeyField := relation.relatedKeyField
  relatedSiteField := relation.relatedSiteField
  maxKeys := some relation.maxKeys
  pageSize := some relation.pageSize
  select := some relation.select

def Relation.toJson (relation : Relation) : Json :=
  relation.toEntry.toJson

end Prejoin
