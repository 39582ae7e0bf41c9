import Prejoin.Filter.Group
import Prejoin.Filter.Substitution
import Prejoin.Lookup.Resolve
import Prejoin.Plan.Basic
import Prejoin.Relation.Catalog

set_option autoImplicit false

namespace Prejoin

structure Call where
  caller : Caller
  params : Dict Text
  site : Option Text

def whereParam : Text := "where".toList

def Call.filter? (call : Call) : Option Text :=
  (call.params.lookup whereParam).filter fun filter => !isBlankText filter

structure Target where
  group : Group
  relation : Relation
  query : Query
  request? : Except LookupError Request

def Target.ofGroup? (backend : Backend) (call : Call) (relations : Dict Relation) (group : Group) :
    Option Target :=
  (relations.lookup (foldCase group.predicate.relation)).map fun relation =>
    let query := Query.build group.predicate relation call.site
    { group, relation, query
      request? := query.request? backend call.caller group.predicate.relation }

def targets (backend : Backend) (call : Call) (relations : Dict Relation)
    (predicates : List Predicate) : List Target :=
  (Group.ofPredicates predicates).filterMap (Target.ofGroup? backend call relations)

structure Block where
  target : Target
  outcome : Except LookupError Keys

def resolveAll {σ ε : Type} (channel : Channel σ ε) (tenant : Text) :
    List Target → σ → Except ε (List Block × σ)
  | [], state => .ok ([], state)
  | target :: rest, state =>
    match resolve channel tenant target.relation target.request? state with
    | .error fault => .error fault
    | .ok (outcome, state) =>
      match resolveAll channel tenant rest state with
      | .error fault => .error fault
      | .ok (blocks, state) => .ok (⟨target, outcome⟩ :: blocks, state)

def Target.replacement (target : Target) (keys : Keys) : Text :=
  replacementFor target.relation.rootJoinField keys.kept

def Block.substitutions (block : Block) : List Substitution :=
  match block.outcome with
  | .error _ => []
  | .ok keys => block.target.group.spans.map fun span => ⟨span, block.target.replacement keys⟩

def Block.events (filter : Text) (block : Block) : List Event :=
  let predicate := block.target.group.predicate
  .prefetch predicate block.target.query ::
    match block.outcome with
    | .error error => [.failed predicate error.message]
    | .ok keys =>
      [.fetched predicate keys,
        .replaced predicate ((predicate.span.slice filter).getD [])
          (block.target.replacement keys) block.target.group.spans.length]

def resolvedFilter (filter : Text) (blocks : List Block) : Except SubstitutionError Text :=
  substitute filter (blocks.flatMap Block.substitutions)

inductive PlanningError where
  | scan (error : ScanError)
  | substitution (error : SubstitutionError)
deriving DecidableEq, Repr

def PlanningError.message : PlanningError → Text
  | .scan error => "Filter could not be tokenized: ".toList ++ error.message
  | .substitution error => "Filter could not be rewritten: ".toList ++ error.message

structure Outcome where
  plan : Plan
  params : Dict Text

def Call.planOf (call : Call) (events : List Event) : Plan :=
  Plan.ofEvents call.caller.root call.caller.correlationId events

def Call.unchanged (call : Call) (events : List Event) : Outcome :=
  ⟨call.planOf events, call.params⟩

-- The filter is put back only if it has become another one.
def Call.conclude (call : Call) (filter : Text) (predicates : List Predicate)
    (blocks : List Block) : Outcome :=
  let events := .detected predicates :: blocks.flatMap (Block.events filter)
  match resolvedFilter filter blocks with
  | .error error =>
    call.unchanged (events ++ [.aborted (PlanningError.substitution error).message])
  | .ok resolved =>
    { plan := call.planOf events
      params := if resolved = filter then call.params else put whereParam resolved call.params }

-- Only the channel can keep a call from an outcome.
def planWith {σ ε : Type} (channel : Channel σ ε) (backend : Backend) (relations : Dict Relation)
    (call : Call) (state : σ) : Except ε (Outcome × σ) :=
  match call.filter? with
  | none => .ok (call.unchanged [], state)
  | some filter =>
    match detectIn filter with
    | .error error =>
      .ok (call.unchanged [.aborted (PlanningError.scan error).message], state)
    | .ok predicates =>
      let targets := targets backend call relations predicates
      match resolveAll channel call.caller.tenant targets state with
      | .error fault => .error fault
      | .ok (blocks, state) => .ok (call.conclude filter predicates blocks, state)

def plan {σ ε : Type} (channel : Channel σ ε) (backend : Backend) (files : Files) (call : Call)
    (state : σ) : Except ε (Outcome × σ) :=
  planWith channel backend (loadRelations files call.caller.tenant call.caller.root) call state

end Prejoin
