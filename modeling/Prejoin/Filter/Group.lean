import Prejoin.Filter.Predicate

set_option autoImplicit false

namespace Prejoin

structure Group where
  predicate : Predicate
  spans : List Span
deriving DecidableEq, Repr

def Group.insert (predicate : Predicate) : List Group → List Group
  | [] => [⟨predicate, [predicate.span]⟩]
  | group :: rest =>
    if group.predicate.sameClause predicate then
      { group with spans := group.spans ++ [predicate.span] } :: rest
    else group :: Group.insert predicate rest

def Group.ofPredicates (predicates : List Predicate) : List Group :=
  predicates.foldl (fun groups predicate => Group.insert predicate groups) []

end Prejoin
