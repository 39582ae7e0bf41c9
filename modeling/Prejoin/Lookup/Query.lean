import Prejoin.Filter.Clause
import Prejoin.Filter.Predicate
import Prejoin.Relation.Entry

set_option autoImplicit false

namespace Prejoin

structure Query where
  relatedResource : Text
  whereClause : Text
  select : Text
  pageSize : Nat
  siteScoped : Bool
deriving DecidableEq, Repr

def Predicate.clause (predicate : Predicate) : Text :=
  predicate.field ++ ' ' :: predicate.operator.symbol ++ ' ' :: quoteLiteral predicate.value

def siteClause? (predicate : Predicate) (relation : Relation) (site? : Option Text) :
    Option Text :=
  match relation.relatedSiteField, site?.bind trimmed? with
  | some field, some site =>
    if sameName predicate.field field then none else some (comparison field site)
  | _, _ => none

-- Room for one record more than there may be keys, so that too many of them show. The sum is one
-- of 64 bits and wraps around.
def Relation.room (relation : Relation) : Nat :=
  (relation.maxKeys + 1) % 0x10000000000000000

def Query.build (predicate : Predicate) (relation : Relation) (site? : Option Text) : Query :=
  let siteClause? := siteClause? predicate relation site?
  { relatedResource := relation.relatedResource
    whereClause :=
      match siteClause? with
      | some clause => clause ++ " and ".toList ++ predicate.clause
      | none => predicate.clause
    select := relation.select
    pageSize := max relation.pageSize relation.room
    siteScoped := siteClause?.isSome }

end Prejoin
