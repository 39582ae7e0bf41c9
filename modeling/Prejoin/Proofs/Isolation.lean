import Prejoin.Proofs.Trace

set_option autoImplicit false

namespace Prejoin

def Predicate.textIn (filter : Text) (p : Predicate) : Text :=
  (p.span.slice filter).getD []

inductive Stretch where
  | plain (text : Text)
  | clause (predicate : Predicate)

def Stretch.predicate? : Stretch → Option Predicate
  | .plain _ => none
  | .clause p => some p

def Stretch.filled (fill : Predicate → Text) : Stretch → Text
  | .plain text => text
  | .clause p => fill p

def fillIn (fill : Predicate → Text) (stretches : List Stretch) : Text :=
  stretches.flatMap (Stretch.filled fill)

-- From the offset on, each predicate starts and stops where its span says.
inductive Placed : Nat → List Stretch → Prop
  | nil {offset : Nat} : Placed offset []
  | plain {offset : Nat} {text : Text} {rest : List Stretch}
      (tail : Placed (offset + byteLength text) rest) : Placed offset (.plain text :: rest)
  | clause {p : Predicate} {rest : List Stretch} (tail : Placed p.span.stop rest) :
      Placed p.span.start (.clause p :: rest)

structure Frame (filter : Text) (predicates : List Predicate) (stretches : List Stretch) :
    Prop where
  source : fillIn (Predicate.textIn filter) stretches = filter
  clauses : stretches.filterMap Stretch.predicate? = predicates
  placed : Placed 0 stretches

def Part.stretch : Part → Stretch
  | .loose piece => .plain piece.source
  | .clause p _ => .clause p

theorem placed_stretches {afterDot : Bool} {offset : Nat} {parts : List Part}
    (arranged : Arranged afterDot offset parts) : Placed offset (parts.map Part.stretch) := by
  induction arranged with
  | nil => exact .nil
  | blank blank tail ih => exact .plain ih
  | token found alone tail ih => exact .plain ih
  | @clause offset p pieces rest spelled tail ih =>
    have stop : p.span.stop = offset + byteLength (joined pieces) := by rw [spelled.span_eq]
    have start : p.span.start = offset := by rw [spelled.span_eq]
    rw [← stop] at ih
    exact start ▸ .clause ih

theorem fillIn_stretches {reading : Reading} {filter : Text} {parts : List Part}
    (layout : IsLayout reading filter parts) {fill : Predicate → Text}
    {find : Predicate → Option Resolution}
    (agree : ∀ p ∈ predicatesOf parts,
      fill p = ((find p).map Resolution.text).getD (p.textIn filter)) :
    fillIn fill (parts.map Part.stretch) = joined (resolvedPieces find parts) := by
  have each (part : Part) (inside : part ∈ parts) :
      part.stretch.filled fill = joined (part.resolved find) := by
    cases part with
    | loose piece => simp [Part.stretch, Stretch.filled, Part.resolved]
    | clause p pieces =>
      have stands := layout.slice_clause inside
      rw [Part.stretch, Stretch.filled, agree p (List.mem_filterMap.2 ⟨_, inside, rfl⟩)]
      cases found : find p with
      | none => simp [Part.resolved, found, Predicate.textIn, stands]
      | some resolution => simp [Part.resolved, found, joined_clausePieces, Resolution.text]
  rw [fillIn, List.flatMap_map, List.flatMap_congr each, resolvedPieces]
  simp only [joined, List.flatMap_assoc]

theorem frame_stretches {reading : Reading} {filter : Text} {parts : List Part}
    (layout : IsLayout reading filter parts) :
    Frame filter (predicatesOf parts) (parts.map Part.stretch) where
  source := by
    have kept : fillIn (Predicate.textIn filter) (parts.map Part.stretch) =
        joined (resolvedPieces (fun _ => none) parts) := fillIn_stretches layout fun _ _ => rfl
    rw [kept, resolvedPieces_none, layout.source]
  clauses := by
    rw [List.filterMap_map]
    exact List.filterMap_congr fun part _ => by cases part <;> rfl
  placed := placed_stretches layout.arranged

def Step.written? : Step → Option Text
  | .replaced _ _ _ after _ => some after
  | _ => none

def standing (filter : Text) (steps : List Step) (p : Predicate) : Text :=
  (steps.findSome? Step.written?).getD (p.textIn filter)

def textBy (filter : Text) (predicates : List Predicate) (steps : List Step) (p : Predicate) :
    Text :=
  (replacementBy filter predicates steps p).getD (p.textIn filter)

-- The occurrences of one clause have a text of their own, all others what the other steps say.
def textAround (filter : Text) (predicates : List Predicate) (p : Predicate)
    (own : Predicate → Text) (others : List Step) (q : Predicate) : Text :=
  if p.sameClause q then own q else textBy filter predicates others q

theorem findSome?_written_steps (filter : Text) (block : Block) :
    (block.steps filter).findSome? Step.written? = block.resolution?.map Resolution.text := by
  unfold Block.steps Block.events Block.resolution?
  cases block.outcome <;> rfl

theorem resolutionOf_other {block : Block} {q : Predicate}
    (other : block.predicate.sameClause q = false) (before after : List Block) :
    resolutionOf (before ++ block :: after) q = resolutionOf (before ++ after) q := by
  simp [resolutionOf, List.find?_append, other]

theorem textAround_eq {filter : Text} {predicates : List Predicate}
    (found : detectIn filter = .ok predicates) {before after : List Block} {block : Block}
    (answers : Answers (before ++ block :: after) predicates) (call : Call) (q : Predicate) :
    textAround filter predicates block.predicate (standing filter (block.steps filter))
        (stepsOf filter (before ++ after)) q =
      ((resolutionOf (before ++ block :: after) q).map Resolution.text).getD (q.textIn filter) := by
  cases same : block.predicate.sameClause q with
  | true =>
    rw [textAround, same, if_pos rfl, standing, findSome?_written_steps,
      answers.resolutionOf_eq (by simp) same]
  | false =>
    have others : Answers (before ++ after) predicates :=
      answers.sublist ((List.sublist_cons_self block after).append_left before)
    have told := replacementBy_steps found others call q
    rw [planOf_eventsOf] at told
    rw [textAround, same, if_neg (by simp), textBy, told, resolutionOf_other same]

theorem exists_frame {call : Call} {filter : Text} {predicates : List Predicate}
    (present : call.filter? = some filter) (found : detectIn filter = .ok predicates) :
    ∃ stretches, Frame filter predicates stretches ∧
      ∀ {before after : List Block} {block : Block},
        Answers (before ++ block :: after) predicates →
          (call.conclude filter predicates (before ++ block :: after)).params.lookup whereParam =
            some (fillIn (textAround filter predicates block.predicate
              (standing filter (block.steps filter)) (stepsOf filter (before ++ after)))
              stretches) := by
  obtain ⟨reading, parts, layout, rfl⟩ := exists_layout_of_detectIn found
  refine ⟨_, frame_stretches layout, fun {before after block} answers => ?_⟩
  rw [lookup_conclude present found answers, layout.splice,
    fillIn_stretches layout fun q _ => textAround_eq found answers call q]

/-- Two outcomes that are the same but for the steps that tell of one clause, and for what stands at
its occurrences. -/
structure DifferAt (filter : Text) (predicates : List Predicate) (p : Predicate)
    (earlier later : List (List Step)) (own own' : List Step) (first second : Outcome) : Prop where
  steps : first.plan.steps = (earlier ++ own :: later).flatten
  steps' : second.plan.steps = (earlier ++ own' :: later).flatten
  text : ∃ stretches, Frame filter predicates stretches ∧
    first.params.lookup whereParam = some (fillIn (textAround filter predicates p
      (standing filter own) (earlier ++ later).flatten) stretches) ∧
    second.params.lookup whereParam = some (fillIn (textAround filter predicates p
      (standing filter own') (earlier ++ later).flatten) stretches)

theorem flatten_steps (filter : Text) (before after : List Block) :
    (before.map (Block.steps filter) ++ after.map (Block.steps filter)).flatten =
      stepsOf filter (before ++ after) := by
  rw [← List.map_append, stepsOf, List.flatMap_def]

theorem differAt_conclude {call : Call} {filter : Text} {predicates : List Predicate}
    (present : call.filter? = some filter) (found : detectIn filter = .ok predicates)
    {before after : List Block} {block block' : Block}
    (answers : Answers (before ++ block :: after) predicates)
    (answers' : Answers (before ++ block' :: after) predicates)
    (same : block.predicate = block'.predicate) :
    DifferAt filter predicates block.predicate (before.map (Block.steps filter))
      (after.map (Block.steps filter)) (block.steps filter) (block'.steps filter)
      (call.conclude filter predicates (before ++ block :: after))
      (call.conclude filter predicates (before ++ block' :: after)) := by
  constructor
  case steps => simpa using steps_conclude found answers call
  case steps' => simpa using steps_conclude found answers' call
  case text =>
    obtain ⟨stretches, frame, stands⟩ := exists_frame present found
    rw [flatten_steps]
    refine ⟨stretches, frame, stands answers, ?_⟩
    rw [stands answers', same]

theorem told_asked {call : Call} {backend : Backend} {filter : Text} {predicates : List Predicate}
    (found : detectIn filter = .ok predicates) {p : Predicate} {relation : Relation}
    {request : Request} (inside : p ∈ predicates)
    (address : call.request? backend p relation = .ok request) (answers : Nat → Answer) (n : Nat) :
    Told backend call filter predicates answers n [(p, relation)]
      [Block.steps filter ⟨call.target backend predicates (p, relation), relation.keys? (answers n)⟩]
      [request] := by
  have asked := (request?_target call backend predicates (p, relation)).trans address
  have within : ∀ lookup ∈ [(p, relation)], lookup.1 ∈ predicates := by simpa using inside
  have told := told_blocksFrom found within backend call answers n
  rw [List.map_singleton, blocksFrom_cons_asked asked, requestsOf_cons_asked asked] at told
  exact told

theorem exists_lookup {call : Call} {backend : Backend} {relations : Dict Relation}
    {predicates : List Predicate} (distinct : predicates.Nodup) {j : Nat}
    (asked : j < (requestsOf (targets backend call relations predicates)).length) :
    ∃ before p relation after request,
      lookupsOf relations predicates = before ++ (p, relation) :: after ∧
      (requestsOf (before.map (call.target backend predicates))).length = j ∧
      call.request? backend p relation = .ok request := by
  obtain ⟨_, _, _, request, split, count, address⟩ := exists_asked asked
  rw [targets_eq distinct] at split
  obtain ⟨before, _, looked, rfl, others⟩ := List.map_eq_append_iff.1 split
  obtain ⟨⟨p, relation⟩, after, rfl, rfl, rfl⟩ := List.map_eq_cons_iff.1 others
  rw [request?_target] at address
  exact ⟨before, p, relation, after, request, looked, count, address⟩

/-- Two runs in which only the `j`th request is answered differently send the same requests. If
there is such a request, it is the one for a clause, and the outcomes differ there only. -/
theorem differ_at_clause {answers answers' : Nat → Answer} {j : Nat}
    (same : ∀ i, i ≠ j → answers i = answers' i) (backend : Backend) (relations : Dict Relation)
    (call : Call) :
    ∃ first second requests,
      planWith (.inTurn answers) backend relations call [] =
        .ok (first, requests.map (Sent.mk call.caller.tenant)) ∧
      planWith (.inTurn answers') backend relations call [] =
        .ok (second, requests.map (Sent.mk call.caller.tenant)) ∧
      (requests.length ≤ j ∧ first = second ∨
        ∃ filter predicates before p relation after asked request rest earlier own own' later,
          call.filter? = some filter ∧ detectIn filter = .ok predicates ∧
          lookupsOf relations predicates = before ++ (p, relation) :: after ∧
          requests = asked ++ request :: rest ∧ asked.length = j ∧
          Told backend call filter predicates answers 0 before earlier asked ∧
          Told backend call filter predicates answers j [(p, relation)] [own] [request] ∧
          Told backend call filter predicates answers' j [(p, relation)] [own'] [request] ∧
          Told backend call filter predicates answers (j + 1) after later rest ∧
          DifferAt filter predicates p earlier later own own' first second) := by
  cases present : call.filter? with
  | none =>
    exact ⟨_, _, [], planWith_absent _ backend relations [] present,
      planWith_absent _ backend relations [] present, .inl ⟨Nat.zero_le j, rfl⟩⟩
  | some filter =>
    cases found : detectIn filter with
    | error error =>
      exact ⟨_, _, [], planWith_unreadable _ backend relations [] present found,
        planWith_unreadable _ backend relations [] present found, .inl ⟨Nat.zero_le j, rfl⟩⟩
    | ok predicates =>
      have distinct := nodup_of_detectIn found
      have known := answers_blocksFrom answers backend call relations predicates
      have known' := answers_blocksFrom answers' backend call relations predicates
      refine ⟨_, _, _, planWith_inTurn present found answers backend relations,
        planWith_inTurn present found answers' backend relations, ?_⟩
      by_cases few : (requestsOf (targets backend call relations predicates)).length ≤ j
      · rw [blocksFrom_congr fun i _ below => same i (by omega)]
        exact .inl ⟨few, rfl⟩
      · obtain ⟨before, p, relation, after, request, looked, count, address⟩ :=
          exists_lookup distinct (Nat.not_le.1 few)
        have within : ∀ lookup ∈ before ++ (p, relation) :: after, lookup.1 ∈ predicates := by
          rw [← looked]
          exact fun lookup => mem_of_mem_lookupsOf
        obtain ⟨early, others⟩ := List.forall_mem_append.1 within
        obtain ⟨inside, late⟩ := List.forall_mem_cons.1 others
        have asked := (request?_target call backend predicates (p, relation)).trans address
        -- What is asked before and after the `j`th request has the same answers in both runs.
        have earlier : blocksFrom answers' 0 (before.map (call.target backend predicates)) =
            blocksFrom answers 0 (before.map (call.target backend predicates)) :=
          blocksFrom_congr fun i _ below => (same i (by omega)).symm
        have later : blocksFrom answers' (j + 1) (after.map (call.target backend predicates)) =
            blocksFrom answers (j + 1) (after.map (call.target backend predicates)) :=
          blocksFrom_congr fun i above _ => (same i (by omega)).symm
        rw [targets_eq distinct, looked, List.map_append, List.map_cons,
          blocksFrom_around count asked] at known known' ⊢
        rw [blocksFrom_around count asked, requestsOf_append, requestsOf_cons_asked asked]
        rw [earlier, later] at known' ⊢
        exact .inr ⟨filter, predicates, before, p, relation, after, _, request, _, _, _, _, _, rfl,
          found, looked, rfl, count, told_blocksFrom found early backend call answers 0,
          told_asked found inside address answers j, told_asked found inside address answers' j,
          told_blocksFrom found late backend call answers (j + 1),
          differAt_conclude present found known known' rfl⟩

def outage (_ : Nat) : Answer :=
  .error (.failed "down".toList)

theorem differ_at_clause_plant :
    (∀ i, i ≠ 0 → plantAnswers i = outage i) ∧
      ∃ (first second : Outcome) (requests : List Request) (p : Predicate) (relation : Relation)
          (earlier later : List (List Step)) (own own' : List Step) (request : Request),
        planWith (.inTurn plantAnswers) assetBackend plantRelations (assetCall plantFilter) [] =
          .ok (first, requests.map (Sent.mk "acme".toList)) ∧
        planWith (.inTurn outage) assetBackend plantRelations (assetCall plantFilter) [] =
          .ok (second, requests.map (Sent.mk "acme".toList)) ∧
        requests.length = 2 ∧
        Told assetBackend (assetCall plantFilter) plantFilter (detect plantTokens) plantAnswers 0
          [(p, relation)] [own] [request] ∧
        Told assetBackend (assetCall plantFilter) plantFilter (detect plantTokens) outage 0
          [(p, relation)] [own'] [request] ∧
        DifferAt plantFilter (detect plantTokens) p earlier later own own' first second := by
  have same (i : Nat) (other : i ≠ 0) : plantAnswers i = outage i := by
    cases i with
    | zero => exact absurd rfl other
    | succ i => rfl
  obtain ⟨first, second, requests, planned, again, ⟨few, -⟩ | ⟨filter, predicates, before, p,
    relation, after, asked, request, rest, earlier, own, own', later, present, found, -, -, -, -,
    told, told', -, differ⟩⟩ :=
    differ_at_clause same assetBackend plantRelations (assetCall plantFilter)
  · have two := length_requests_plant planned
    omega
  · obtain rfl := Option.some.inj (read_plant.1.symm.trans present)
    obtain rfl := Except.ok.inj (detectIn_plant.symm.trans found)
    exact ⟨same, first, second, requests, p, relation, earlier, later, own, own', request, planned,
      again, length_requests_plant planned, told, told', differ⟩

end Prejoin
