import Prejoin.Proofs.Replay
import Prejoin.Proofs.Turns

set_option autoImplicit false

namespace Prejoin

def lookupsOf (relations : Dict Relation) (predicates : List Predicate) :
    List (Predicate × Relation) :=
  (firstOfClauses predicates).filterMap fun p =>
    (relations.lookup (foldCase p.relation)).map fun relation => (p, relation)

def Call.query (call : Call) (p : Predicate) (relation : Relation) : Query :=
  Query.build p relation call.site

def Call.request? (call : Call) (backend : Backend) (p : Predicate) (relation : Relation) :
    Except LookupError Request :=
  (call.query p relation).request? backend call.caller p.relation

def Call.target (call : Call) (backend : Backend) (predicates : List Predicate)
    (lookup : Predicate × Relation) : Target where
  group := ⟨lookup.1, (predicates.filter lookup.1.sameClause).map Predicate.span⟩
  relation := lookup.2
  query := call.query lookup.1 lookup.2
  request? := call.request? backend lookup.1 lookup.2

theorem request?_target (call : Call) (backend : Backend) (predicates : List Predicate)
    (lookup : Predicate × Relation) :
    (call.target backend predicates lookup).request? =
      call.request? backend lookup.1 lookup.2 := by
  rw [Call.target]

theorem mem_of_mem_lookupsOf {relations : Dict Relation} {predicates : List Predicate}
    {lookup : Predicate × Relation} (member : lookup ∈ lookupsOf relations predicates) :
    lookup.1 ∈ predicates := by
  obtain ⟨p, first, found⟩ := List.mem_filterMap.1 member
  obtain ⟨relation, -, rfl⟩ := Option.map_eq_some_iff.1 found
  exact List.mem_of_mem_filter first

theorem targets_eq {predicates : List Predicate} (distinct : predicates.Nodup) (backend : Backend)
    (call : Call) (relations : Dict Relation) :
    targets backend call relations predicates =
      (lookupsOf relations predicates).map (call.target backend predicates) := by
  rw [targets, Group.ofPredicates_eq distinct, List.filterMap_map, lookupsOf, List.map_filterMap]
  apply List.filterMap_congr
  intro p _
  simp only [Function.comp_apply, Target.ofGroup?, Option.map_map]
  rfl

theorem nodup_of_detectIn {filter : Text} {predicates : List Predicate}
    (found : detectIn filter = .ok predicates) : predicates.Nodup := by
  obtain ⟨reading, parts, layout, rfl⟩ := exists_layout_of_detectIn found
  exact layout.nodup

/-- The blocks of steps tell of the lookups once `n` requests have been sent. The requests are those
that have been sent for them. -/
inductive Told (backend : Backend) (call : Call) (filter : Text) (predicates : List Predicate)
    (answers : Nat → Answer) :
    Nat → List (Predicate × Relation) → List (List Step) → List Request → Prop
  | nil {n : Nat} : Told backend call filter predicates answers n [] [] []
  | unasked {n : Nat} {p : Predicate} {relation : Relation} {error : LookupError}
      {lookups : List (Predicate × Relation)} {blocks : List (List Step)} {requests : List Request}
      (address : call.request? backend p relation = .error error)
      (rest : Told backend call filter predicates answers n lookups blocks requests) :
      Told backend call filter predicates answers n ((p, relation) :: lookups)
        ([.prefetch p.relation p.field p.operator (call.query p relation),
          .failure p.relation p.field error.message] :: blocks)
        requests
  | failed {n : Nat} {p : Predicate} {relation : Relation} {request : Request}
      {error : LookupError} {lookups : List (Predicate × Relation)} {blocks : List (List Step)}
      {requests : List Request}
      (address : call.request? backend p relation = .ok request)
      (answer : relation.keys? (answers n) = .error error)
      (rest : Told backend call filter predicates answers (n + 1) lookups blocks requests) :
      Told backend call filter predicates answers n ((p, relation) :: lookups)
        ([.prefetch p.relation p.field p.operator (call.query p relation),
          .failure p.relation p.field error.message] :: blocks)
        (request :: requests)
  | resolved {n : Nat} {p : Predicate} {relation : Relation} {request : Request} {keys : Keys}
      {before : Text} {lookups : List (Predicate × Relation)} {blocks : List (List Step)}
      {requests : List Request}
      (address : call.request? backend p relation = .ok request)
      (answer : relation.keys? (answers n) = .ok keys)
      (stands : p.span.slice filter = some before)
      (rest : Told backend call filter predicates answers (n + 1) lookups blocks requests) :
      Told backend call filter predicates answers n ((p, relation) :: lookups)
        ([.prefetch p.relation p.field p.operator (call.query p relation),
          .fetched p.relation p.field keys.returned keys.kept.length keys.truncated,
          .replaced p.relation p.field before (replacementFor relation.rootJoinField keys.kept)
            (predicates.countP p.sameClause)] :: blocks)
        (request :: requests)

def Block.steps (filter : Text) (block : Block) : List Step :=
  (block.events filter).filterMap Event.step?

theorem steps_failed (filter : Text) (target : Target) (error : LookupError) :
    Block.steps filter ⟨target, .error error⟩ =
      [.prefetch target.group.predicate.relation target.group.predicate.field
          target.group.predicate.operator target.query,
        .failure target.group.predicate.relation target.group.predicate.field error.message] :=
  rfl

theorem steps_resolved {filter before : Text} {target : Target}
    (stands : target.group.predicate.span.slice filter = some before) (keys : Keys) :
    Block.steps filter ⟨target, .ok keys⟩ =
      [.prefetch target.group.predicate.relation target.group.predicate.field
          target.group.predicate.operator target.query,
        .fetched target.group.predicate.relation target.group.predicate.field keys.returned
          keys.kept.length keys.truncated,
        .replaced target.group.predicate.relation target.group.predicate.field before
          (replacementFor target.relation.rootJoinField keys.kept) target.group.spans.length] := by
  simp [Block.steps, Block.events, Event.step?, stands, Target.replacement]

theorem told_blocksFrom {filter : Text} {predicates : List Predicate}
    (found : detectIn filter = .ok predicates) {lookups : List (Predicate × Relation)}
    (within : ∀ lookup ∈ lookups, lookup.1 ∈ predicates) (backend : Backend) (call : Call)
    (answers : Nat → Answer) (n : Nat) :
    Told backend call filter predicates answers n lookups
      ((blocksFrom answers n (lookups.map (call.target backend predicates))).map
        (Block.steps filter))
      (requestsOf (lookups.map (call.target backend predicates))) := by
  induction lookups generalizing n with
  | nil => exact .nil
  | cons lookup rest ih =>
    obtain ⟨p, relation⟩ := lookup
    obtain ⟨inside, within⟩ := List.forall_mem_cons.1 within
    rw [List.map_cons]
    cases address : call.request? backend p relation with
    | error error =>
      have unasked := (request?_target call backend predicates (p, relation)).trans address
      rw [blocksFrom_cons_unasked unasked, requestsOf_cons_unasked unasked, List.map_cons,
        steps_failed]
      exact .unasked address (ih within n)
    | ok request =>
      have asked := (request?_target call backend predicates (p, relation)).trans address
      rw [blocksFrom_cons_asked asked, requestsOf_cons_asked asked, List.map_cons]
      have next := ih within (n + 1)
      cases answer : relation.keys? (answers n) with
      | error error =>
        have failed : (call.target backend predicates (p, relation)).relation.keys? (answers n) =
            .error error := answer
        rw [failed, steps_failed]
        exact .failed address answer next
      | ok keys =>
        have resolved : (call.target backend predicates (p, relation)).relation.keys? (answers n) =
            .ok keys := answer
        have stands := slice_of_mem found inside
        have count : (call.target backend predicates (p, relation)).group.spans.length =
            predicates.countP p.sameClause := by
          simp [Call.target, List.countP_eq_length_filter]
        rw [resolved, steps_resolved stands, count]
        exact .resolved address answer stands next

def Step.problem? : Step → Option Problem
  | .failure relation _ message => some ⟨some relation, message⟩
  | _ => none

def Step.truncates : Step → Bool
  | .fetched _ _ _ _ truncated => truncated
  | _ => false

section

variable (filter : Text) (block : Block)

theorem predicates_events : (block.events filter).flatMap Event.predicates = [] := by
  unfold Block.events
  cases block.outcome <;> rfl

theorem problems_events :
    (block.events filter).filterMap Event.problem? =
      (block.steps filter).filterMap Step.problem? := by
  unfold Block.steps Block.events
  cases block.outcome <;> rfl

theorem truncates_events :
    (block.events filter).any Event.truncates = (block.steps filter).any Step.truncates := by
  unfold Block.steps Block.events
  cases block.outcome <;> rfl

theorem any_isPrefetch_steps : (block.steps filter).any Step.isPrefetch = true := by
  unfold Block.steps Block.events
  cases block.outcome <;> rfl

end

def stepsOf (filter : Text) (blocks : List Block) : List Step :=
  blocks.flatMap (Block.steps filter)

theorem planOf_eventsOf (call : Call) (filter : Text) (predicates : List Predicate)
    (blocks : List Block) :
    call.planOf (eventsOf filter predicates blocks) =
      { root := call.caller.root
        correlationId := call.caller.correlationId
        detected := predicates
        steps := stepsOf filter blocks
        truncated := (stepsOf filter blocks).any Step.truncates
        problems := (stepsOf filter blocks).filterMap Step.problem? } := by
  rw [Call.planOf, ofEvents_eq]
  have detected : (eventsOf filter predicates blocks).flatMap Event.predicates = predicates := by
    simp [eventsOf, List.flatMap_assoc, predicates_events, Event.predicates]
  have steps : (eventsOf filter predicates blocks).filterMap Event.step? =
      stepsOf filter blocks := by
    rw [eventsOf, List.filterMap_cons_none rfl, List.filterMap_flatMap]
    rfl
  have truncated : (eventsOf filter predicates blocks).any Event.truncates =
      (stepsOf filter blocks).any Step.truncates := by
    simp [eventsOf, Event.truncates, stepsOf, List.any_flatMap, truncates_events]
  have problems : (eventsOf filter predicates blocks).filterMap Event.problem? =
      (stepsOf filter blocks).filterMap Step.problem? := by
    rw [eventsOf, List.filterMap_cons_none rfl, stepsOf, List.filterMap_flatMap,
      List.filterMap_flatMap]
    simp only [problems_events]
  rw [detected, steps, truncated, problems]

theorem plan_conclude {filter : Text} {predicates : List Predicate} {blocks : List Block}
    (found : detectIn filter = .ok predicates) (answers : Answers blocks predicates)
    (call : Call) :
    (call.conclude filter predicates blocks).plan =
      call.planOf (eventsOf filter predicates blocks) := by
  rw [conclude_eq found answers]

theorem steps_conclude {filter : Text} {predicates : List Predicate} {blocks : List Block}
    (found : detectIn filter = .ok predicates) (answers : Answers blocks predicates)
    (call : Call) :
    (call.conclude filter predicates blocks).plan.steps =
      (blocks.map (Block.steps filter)).flatten := by
  rw [plan_conclude found answers, planOf_eventsOf, stepsOf, List.flatMap_def]

theorem mode_planOf (call : Call) (filter : Text) (predicates : List Predicate)
    (blocks : List Block) :
    (call.planOf (eventsOf filter predicates blocks)).mode =
      if (call.planOf (eventsOf filter predicates blocks)).problems ≠ [] then .error
      else if blocks ≠ [] then .prefetch else .none := by
  have announced : (stepsOf filter blocks).any Step.isPrefetch ↔ blocks ≠ [] := by
    cases blocks with
    | nil => simp [stepsOf]
    | cons block rest => simp [stepsOf, any_isPrefetch_steps]
  simp only [Plan.mode, planOf_eventsOf, announced]

/-- One request for each clause of a known relation that has an address, and one block of steps for
each such clause. -/
theorem told_by_clauses {call : Call} {filter : Text} {predicates : List Predicate}
    (present : call.filter? = some filter) (found : detectIn filter = .ok predicates)
    (answers : Nat → Answer) (backend : Backend) (relations : Dict Relation) :
    ∃ outcome blocks requests,
      planWith (.inTurn answers) backend relations call [] =
        .ok (outcome, requests.map (Sent.mk call.caller.tenant)) ∧
      Told backend call filter predicates answers 0 (lookupsOf relations predicates) blocks
        requests ∧
      outcome.plan.detected = predicates ∧ outcome.plan.steps = blocks.flatten ∧
      outcome.plan.problems = outcome.plan.steps.filterMap Step.problem? ∧
      outcome.plan.truncated = outcome.plan.steps.any Step.truncates ∧
      outcome.plan.mode =
        if outcome.plan.problems ≠ [] then .error
        else if blocks ≠ [] then .prefetch else .none := by
  have within (lookup : Predicate × Relation) (inside : lookup ∈ lookupsOf relations predicates) :
      lookup.1 ∈ predicates := mem_of_mem_lookupsOf inside
  have told := told_blocksFrom found within backend call answers 0
  rw [← targets_eq (nodup_of_detectIn found)] at told
  have plan_eq :=
    plan_conclude found (answers_blocksFrom answers backend call relations predicates) call
  refine ⟨_, _, _, planWith_inTurn present found answers backend relations, told, ?_⟩
  rw [plan_eq, mode_planOf, planOf_eventsOf]
  refine ⟨rfl, rfl, rfl, rfl, ?_⟩
  simp

def plantRelations : Dict Relation :=
  assetRelations ++ [("location".toList,
    { relatedResource := "mxapioperloc".toList
      rootJoinField := "location".toList
      relatedKeyField := "location".toList
      relatedSiteField := none
      maxKeys := defaultMaxKeys
      pageSize := defaultPageSize
      select := "location".toList })]

def plantFilter : Text :=
  "asset.kind=\"PUMP\" or vendor.name='V' or (location.type != \"YARD\" and Asset.Kind = 'PUMP')".toList

def plantAnswers : Nat → Answer
  | 0 => .ok (.decoded (.object [("member".toList,
      .list [.object [("assetnum".toList, .text "A1".toList)]])]))
  | _ => .error (.failed "down".toList)

def plantTokens : List Token :=
  place 0 (scan .escaped plantFilter).1

def plantRequests : List Request :=
  requestsOf (targets assetBackend (assetCall plantFilter) plantRelations (detect plantTokens))

theorem read_plant :
    (assetCall plantFilter).filter? = some plantFilter ∧
      tokenizeAs .escaped plantFilter = .ok plantTokens ∧ (detect plantTokens).length = 4 ∧
      plantRequests.length = 2 := by
  decide +kernel

theorem detectIn_plant : detectIn plantFilter = .ok (detect plantTokens) := by
  rw [detectIn, tokenize_eq_ok_iff.2 (.inl read_plant.2.1)]
  rfl

theorem length_requests_plant {answers : Nat → Answer} {outcome : Outcome}
    {requests : List Request}
    (planned : planWith (.inTurn answers) assetBackend plantRelations (assetCall plantFilter) [] =
      .ok (outcome, requests.map (Sent.mk "acme".toList))) : requests.length = 2 := by
  obtain ⟨filter, -, -, two⟩ := read_plant
  have run := planWith_inTurn filter detectIn_plant answers assetBackend plantRelations
  obtain ⟨-, sent⟩ := Prod.mk.inj (Except.ok.inj (planned.symm.trans run))
  have count := congrArg List.length sent
  simpa [← two, plantRequests] using count

theorem told_by_clauses_plant :
    ∃ outcome blocks requests,
      planWith (.inTurn plantAnswers) assetBackend plantRelations (assetCall plantFilter) [] =
        .ok (outcome, requests.map (Sent.mk "acme".toList)) ∧
      Told assetBackend (assetCall plantFilter) plantFilter (detect plantTokens) plantAnswers 0
        (lookupsOf plantRelations (detect plantTokens)) blocks requests ∧
      outcome.plan.detected.length = 4 ∧ outcome.plan.steps = blocks.flatten ∧
      requests.length = 2 := by
  obtain ⟨filter, -, four, -⟩ := read_plant
  obtain ⟨outcome, blocks, requests, planned, told, detected, steps, -⟩ :=
    told_by_clauses filter detectIn_plant plantAnswers assetBackend plantRelations
  exact ⟨outcome, blocks, requests, planned, told, by rw [detected, four], steps,
    length_requests_plant planned⟩

end Prejoin
