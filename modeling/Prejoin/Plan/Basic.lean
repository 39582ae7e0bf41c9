import Prejoin.Filter.Predicate
import Prejoin.Lookup.Keys
import Prejoin.Lookup.Query

set_option autoImplicit false

namespace Prejoin

inductive Step where
  | prefetch (relation field : Text) (operator : Operator) (query : Query)
  | fetched (relation field : Text) (returned used : Nat) (truncated : Bool)
  | replaced (relation field before after : Text) (occurrences : Nat)
  | failure (relation field message : Text)
deriving DecidableEq, Repr

def Step.isPrefetch : Step → Bool
  | .prefetch .. => true
  | _ => false

structure Problem where
  relation : Option Text
  message : Text
deriving DecidableEq, Repr

structure Plan where
  root : Text
  correlationId : Option Text
  detected : List Predicate
  steps : List Step
  truncated : Bool
  problems : List Problem
deriving DecidableEq, Repr

inductive Mode where
  | none | prefetch | error
deriving DecidableEq, Repr

def Plan.mode (plan : Plan) : Mode :=
  if plan.problems ≠ [] then .error
  else if plan.steps.any Step.isPrefetch then .prefetch
  else .none

inductive Event where
  | detected (predicates : List Predicate)
  | prefetch (predicate : Predicate) (query : Query)
  | fetched (predicate : Predicate) (keys : Keys)
  | replaced (predicate : Predicate) (before after : Text) (occurrences : Nat)
  | failed (predicate : Predicate) (message : Text)
  | aborted (message : Text)
deriving DecidableEq, Repr

def Plan.start (root : Text) (correlationId : Option Text) : Plan :=
  ⟨root, correlationId, [], [], false, []⟩

def Plan.step (plan : Plan) (step : Step) : Plan :=
  { plan with steps := plan.steps ++ [step] }

def Plan.problem (plan : Plan) (problem : Problem) : Plan :=
  { plan with problems := plan.problems ++ [problem] }

-- A lookup that failed is both a step and a problem; an abort is a problem only.
def Plan.record (plan : Plan) : Event → Plan
  | .detected predicates => { plan with detected := plan.detected ++ predicates }
  | .prefetch p query => plan.step (.prefetch p.relation p.field p.operator query)
  | .fetched p keys =>
    { plan with truncated := plan.truncated || keys.truncated }.step
      (.fetched p.relation p.field keys.returned keys.kept.length keys.truncated)
  | .replaced p before after occurrences =>
    plan.step (.replaced p.relation p.field before after occurrences)
  | .failed p message =>
    (plan.step (.failure p.relation p.field message)).problem ⟨some p.relation, message⟩
  | .aborted message => plan.problem ⟨none, message⟩

def Plan.ofEvents (root : Text) (correlationId : Option Text) (events : List Event) : Plan :=
  events.foldl Plan.record (.start root correlationId)

end Prejoin
