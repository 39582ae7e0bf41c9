import Prejoin.Proofs.Respelling
import Prejoin.Proofs.Trace

set_option autoImplicit false

namespace Prejoin

theorem Predicate.Alike.sameClause {p p' q q' : Predicate} (first : p.Alike p')
    (second : q.Alike q') : p.sameClause q = p'.sameClause q' := by
  simp [Predicate.sameClause, sameName, first.relation, first.field, first.operator, first.value,
    second.relation, second.field, second.operator, second.value]

theorem Predicate.Alike.query {p p' : Predicate} (alike : p.Alike p') (relation : Relation)
    (site : Option Text) : Query.build p relation site = Query.build p' relation site := by
  simp [Query.build, siteClause?, Predicate.clause, alike.field, alike.operator, alike.value]

structure Group.Alike (group group' : Group) : Prop where
  predicate : group.predicate.Alike group'.predicate
  spans : group.spans = group'.spans

theorem insert_alike {p p' : Predicate} (alike : p.Alike p') {groups groups' : List Group}
    (known : List.Forall₂ Group.Alike groups groups') :
    List.Forall₂ Group.Alike (Group.insert p groups) (Group.insert p' groups') := by
  induction known with
  | nil => exact .cons ⟨alike, by rw [alike.span]⟩ .nil
  | @cons group group' rest rest' first others ih =>
    have same := first.predicate.sameClause alike
    cases found : group.predicate.sameClause p with
    | true =>
      rw [found] at same
      simp only [Group.insert, found, ← same, if_true]
      exact .cons ⟨first.predicate, by rw [first.spans, alike.span]⟩ others
    | false =>
      rw [found] at same
      simp only [Group.insert, found, ← same, Bool.false_eq_true, if_false]
      exact .cons first ih

theorem ofPredicates_alike {ps ps' : List Predicate}
    (alike : List.Forall₂ Predicate.Alike ps ps') :
    List.Forall₂ Group.Alike (Group.ofPredicates ps) (Group.ofPredicates ps') := by
  have run (groups groups' : List Group) (known : List.Forall₂ Group.Alike groups groups') :
      List.Forall₂ Group.Alike (ps.foldl (fun groups p => Group.insert p groups) groups)
        (ps'.foldl (fun groups p => Group.insert p groups) groups') := by
    induction alike generalizing groups groups' with
    | nil => exact known
    | cons first rest ih => exact ih _ _ (insert_alike first known)
  exact run [] [] .nil

structure Call.Alike (call call' : Call) : Prop where
  tenant : call.caller.tenant = call'.caller.tenant
  root : rootName call.caller.root = rootName call'.caller.root
  site : call.site = call'.site

structure Request.Alike (request request' : Request) : Prop where
  method : request.method = request'.method
  url : request.url = request'.url
  headers : request.headers = request'.headers

inductive AskedAlike : Except LookupError Request → Except LookupError Request → Prop
  | unasked (error : LookupError) : AskedAlike (.error error) (.error error)
  | asked {request request' : Request} (alike : request.Alike request') :
      AskedAlike (.ok request) (.ok request')

structure Target.Alike (target target' : Target) : Prop where
  group : target.group.Alike target'.group
  relation : target.relation = target'.relation
  query : target.query = target'.query
  asked : AskedAlike target.request? target'.request?

theorem request?_alike (query : Query) (backend : Backend) {caller caller' : Caller}
    (same : caller.tenant = caller'.tenant) (relation relation' : Text) :
    AskedAlike (query.request? backend caller relation)
      (query.request? backend caller' relation') := by
  unfold Query.request?
  rw [same]
  dsimp only
  cases Url.parse? (resourceUrl (backend.baseUrl caller'.tenant) query.relatedResource) with
  | error error => exact .unasked _
  | ok url => exact .asked ⟨rfl, rfl, rfl⟩

theorem targets_alike {call call' : Call} (calls : call.Alike call') (backend : Backend)
    (relations : Dict Relation) {ps ps' : List Predicate}
    (alike : List.Forall₂ Predicate.Alike ps ps') :
    List.Forall₂ Target.Alike (targets backend call relations ps)
      (targets backend call' relations ps') := by
  apply List.rel_filterMap _ (ofPredicates_alike alike)
  intro group group' same
  have query (relation : Relation) := same.predicate.query relation call.site
  rw [Target.ofGroup?, Target.ofGroup?, same.predicate.relation]
  cases relations.lookup (foldCase group'.predicate.relation) with
  | none => exact .none
  | some relation =>
    refine .some ⟨same, rfl, ?_, ?_⟩
    · dsimp only
      rw [query, calls.site]
    · dsimp only
      rw [query, calls.site]
      exact request?_alike _ backend calls.tenant _ _

theorem AskedAlike.toOption {asked asked' : Except LookupError Request}
    (alike : AskedAlike asked asked') : Option.Rel Request.Alike asked.toOption asked'.toOption := by
  cases alike with
  | unasked => exact .none
  | asked alike => exact .some alike

theorem requestsOf_alike {ts ts' : List Target} (alike : List.Forall₂ Target.Alike ts ts') :
    List.Forall₂ Request.Alike (requestsOf ts) (requestsOf ts') :=
  List.rel_filterMap (fun _ _ same => same.asked.toOption) alike

structure Block.Alike (block block' : Block) : Prop where
  target : block.target.Alike block'.target
  outcome : block.outcome = block'.outcome

theorem blocksFrom_alike (answers : Nat → Answer) (n : Nat) {ts ts' : List Target}
    (alike : List.Forall₂ Target.Alike ts ts') :
    List.Forall₂ Block.Alike (blocksFrom answers n ts) (blocksFrom answers n ts') := by
  induction alike generalizing n with
  | nil => exact .nil
  | @cons target target' rest rest' first others ih =>
    have asked := first.asked
    cases address : target.request? with
    | error error =>
      rw [address] at asked
      generalize address' : target'.request? = other at asked
      cases asked
      rw [blocksFrom_cons_unasked address, blocksFrom_cons_unasked address']
      exact .cons ⟨first, rfl⟩ (ih n)
    | ok request =>
      rw [address] at asked
      generalize address' : target'.request? = other at asked
      cases asked
      rw [blocksFrom_cons_asked address, blocksFrom_cons_asked address']
      exact .cons ⟨first, by rw [first.relation]⟩ (ih (n + 1))

theorem Block.Alike.predicate {block block' : Block} (alike : block.Alike block') :
    block.predicate.Alike block'.predicate :=
  alike.target.group.predicate

theorem Block.Alike.resolution? {block block' : Block} (alike : block.Alike block') :
    block.resolution? = block'.resolution? := by
  unfold Block.resolution?
  rw [alike.outcome, alike.target.relation]

theorem resolutionOf_alike {blocks blocks' : List Block}
    (alike : List.Forall₂ Block.Alike blocks blocks') {p p' : Predicate} (same : p.Alike p') :
    resolutionOf blocks p = resolutionOf blocks' p' := by
  induction alike with
  | nil => rfl
  | @cons block block' rest rest' first others ih =>
    have equal := first.predicate.sameClause same
    unfold resolutionOf at ih ⊢
    rw [List.find?_cons, List.find?_cons, ← equal]
    cases block.predicate.sameClause p with
    | true => exact first.resolution?
    | false => exact ih

theorem substitutionsBy_alike {blocks blocks' : List Block}
    (alike : List.Forall₂ Block.Alike blocks blocks') {ps ps' : List Predicate}
    (same : List.Forall₂ Predicate.Alike ps ps') :
    substitutionsBy (resolutionOf blocks) ps = substitutionsBy (resolutionOf blocks') ps' := by
  induction same with
  | nil => rfl
  | cons first rest ih =>
    unfold substitutionsBy at ih ⊢
    rw [List.filterMap_cons, List.filterMap_cons, ih, resolutionOf_alike alike first, first.span]

inductive Step.Alike : Step → Step → Prop
  | prefetch {relation relation' : Text} (same : foldCase relation = foldCase relation')
      (field : Text) (operator : Operator) (query : Query) :
      Step.Alike (.prefetch relation field operator query) (.prefetch relation' field operator query)
  | fetched {relation relation' : Text} (same : foldCase relation = foldCase relation')
      (field : Text) (returned used : Nat) (truncated : Bool) :
      Step.Alike (.fetched relation field returned used truncated)
        (.fetched relation' field returned used truncated)
  | replaced {relation relation' before before' : Text}
      (same : foldCase relation = foldCase relation') (stood : foldCase before = foldCase before')
      (field after : Text) (occurrences : Nat) :
      Step.Alike (.replaced relation field before after occurrences)
        (.replaced relation' field before' after occurrences)
  | failure {relation relation' : Text} (same : foldCase relation = foldCase relation')
      (field message : Text) :
      Step.Alike (.failure relation field message) (.failure relation' field message)

structure Problem.Alike (problem problem' : Problem) : Prop where
  relation : problem.relation.map foldCase = problem'.relation.map foldCase
  message : problem.message = problem'.message

theorem takeBytes_foldCase (n : Nat) (s : Text) :
    takeBytes n (foldCase s) = foldCase (takeBytes n s) := by
  unfold foldCase
  induction s generalizing n with
  | nil => rfl
  | cons c rest ih =>
    rw [List.map_cons, takeBytes, takeBytes, utf8Size_toLower, ih]
    split <;> rfl

theorem dropBytes_foldCase (n : Nat) (s : Text) :
    dropBytes n (foldCase s) = foldCase (dropBytes n s) := by
  unfold foldCase
  induction s generalizing n with
  | nil => rfl
  | cons c rest ih =>
    rw [List.map_cons, dropBytes, dropBytes, utf8Size_toLower, ih]
    split <;> rfl

theorem slice_foldCase (span : Span) (s : Text) :
    span.slice (foldCase s) = (span.slice s).map foldCase := by
  have boundary (n : Nat) : isBoundary n (foldCase s) = isBoundary n s := by
    rw [isBoundary, takeBytes_foldCase, byteLength_foldCase, isBoundary]
  have fits : span.fits (foldCase s) = span.fits s := by
    rw [Span.fits, Span.fits, boundary, boundary]
  rw [Span.slice, Span.slice, fits, dropBytes_foldCase, takeBytes_foldCase]
  split <;> rfl

theorem slice_alike {filter filter' : Text} (same : foldCase filter = foldCase filter')
    (span : Span) :
    foldCase ((span.slice filter).getD []) = foldCase ((span.slice filter').getD []) := by
  have equal : (span.slice filter).map foldCase = (span.slice filter').map foldCase := by
    rw [← slice_foldCase, same, slice_foldCase]
  have each (slice : Option Text) : foldCase (slice.getD []) = (slice.map foldCase).getD [] := by
    cases slice <;> rfl
  rw [each, equal, each]

theorem steps_alike {filter filter' : Text} (same : foldCase filter = foldCase filter')
    {block block' : Block} (alike : block.Alike block') :
    List.Forall₂ Step.Alike (block.steps filter) (block'.steps filter') := by
  obtain ⟨⟨group, relation, query, _⟩, outcome⟩ := block
  obtain ⟨⟨group', _, _, _⟩, _⟩ := block'
  have p : group.predicate.Alike group'.predicate := alike.predicate
  have spans : group.spans = group'.spans := alike.target.group.spans
  obtain ⟨⟨-, rfl, rfl, -⟩, rfl⟩ := alike
  have stood := slice_alike same group'.predicate.span
  cases outcome with
  | error error =>
    simp only [Block.steps, Block.events, List.filterMap_cons, List.filterMap_nil, Event.step?,
      p.field, p.operator]
    exact .cons (.prefetch p.relation _ _ _) (.cons (.failure p.relation _ _) .nil)
  | ok keys =>
    simp only [Block.steps, Block.events, List.filterMap_cons, List.filterMap_nil, Event.step?,
      p.field, p.operator, p.span, spans, Target.replacement]
    exact .cons (.prefetch p.relation _ _ _) (.cons (.fetched p.relation _ _ _ _)
      (.cons (.replaced p.relation stood _ _ _) .nil))

def Plan.substitutions (plan : Plan) (filter : Text) : List Substitution :=
  plan.detected.filterMap fun p =>
    (replacementBy filter plan.detected plan.steps p).map fun text => ⟨p.span, text⟩

/-- The same texts are put at the same places of two filters that differ in the case of letters. -/
structure OutcomesAlike (filter filter' : Text) (first second : Outcome) : Prop where
  detected : List.Forall₂ Predicate.Alike first.plan.detected second.plan.detected
  steps : List.Forall₂ Step.Alike first.plan.steps second.plan.steps
  problems : List.Forall₂ Problem.Alike first.plan.problems second.plan.problems
  truncated : first.plan.truncated = second.plan.truncated
  mode : first.plan.mode = second.plan.mode
  substitutions : first.plan.substitutions filter = second.plan.substitutions filter'
  text : first.params.lookup whereParam = some (splice filter (first.plan.substitutions filter))
  text' : second.params.lookup whereParam =
    some (splice filter' (second.plan.substitutions filter'))

theorem map_eq_of_alike {α : Type} {alike : α → α → Prop} {β : Type} {f : α → β}
    (each : ∀ a b, alike a b → f a = f b) {as bs : List α} (all : List.Forall₂ alike as bs) :
    as.map f = bs.map f := by
  induction all with
  | nil => rfl
  | cons first rest ih => rw [List.map_cons, List.map_cons, each _ _ first, ih]

theorem problem?_alike {step step' : Step} (alike : step.Alike step') :
    Option.Rel Problem.Alike step.problem? step'.problem? := by
  cases alike with
  | failure same => exact .some ⟨congrArg some same, rfl⟩
  | _ => exact .none

theorem mode_alike {plan plan' : Plan} (steps : List.Forall₂ Step.Alike plan.steps plan'.steps)
    (problems : List.Forall₂ Problem.Alike plan.problems plan'.problems) :
    plan.mode = plan'.mode := by
  have asked : plan.steps.map Step.isPrefetch = plan'.steps.map Step.isPrefetch :=
    map_eq_of_alike (fun _ _ alike => by cases alike <;> rfl) steps
  have none : plan.problems = [] ↔ plan'.problems = [] := by
    rw [← List.length_eq_zero_iff, problems.length_eq, List.length_eq_zero_iff]
  unfold Plan.mode
  rw [← Function.id_comp Step.isPrefetch, ← List.any_map, asked, List.any_map]
  simp only [ne_eq, none]

theorem substitutions_planOf {filter : Text} {ps : List Predicate} {blocks : List Block}
    (found : detectIn filter = .ok ps) (answers : Answers blocks ps) (call : Call) :
    (call.planOf (eventsOf filter ps blocks)).substitutions filter =
      substitutionsBy (resolutionOf blocks) ps := by
  have detected : (call.planOf (eventsOf filter ps blocks)).detected = ps := by
    rw [planOf_eventsOf]
  rw [Plan.substitutions, detected]
  simp only [replacementBy_steps found answers, Option.map_map]
  rfl

theorem outcomesAlike_conclude {call call' : Call} {filter filter' : Text}
    {ps ps' : List Predicate} {blocks blocks' : List Block}
    (present : call.filter? = some filter) (present' : call'.filter? = some filter')
    (found : detectIn filter = .ok ps) (found' : detectIn filter' = .ok ps')
    (answers : Answers blocks ps) (answers' : Answers blocks' ps')
    (same : foldCase filter = foldCase filter') (predicates : List.Forall₂ Predicate.Alike ps ps')
    (alike : List.Forall₂ Block.Alike blocks blocks') :
    OutcomesAlike filter filter' (call.conclude filter ps blocks)
      (call'.conclude filter' ps' blocks') := by
  have told := substitutions_planOf found answers call
  have told' := substitutions_planOf found' answers' call'
  rw [← plan_conclude found answers call] at told
  rw [← plan_conclude found' answers' call'] at told'
  have steps : List.Forall₂ Step.Alike (stepsOf filter blocks) (stepsOf filter' blocks') :=
    List.rel_flatMap alike fun _ _ each => steps_alike same each
  have problems : List.Forall₂ Problem.Alike ((stepsOf filter blocks).filterMap Step.problem?)
      ((stepsOf filter' blocks').filterMap Step.problem?) :=
    List.rel_filterMap (fun _ _ each => problem?_alike each) steps
  have truncates : (stepsOf filter blocks).map Step.truncates =
      (stepsOf filter' blocks').map Step.truncates :=
    map_eq_of_alike (fun _ _ each => by cases each <;> rfl) steps
  have plan_eq := plan_conclude found answers call
  have plan_eq' := plan_conclude found' answers' call'
  rw [planOf_eventsOf] at plan_eq plan_eq'
  constructor
  case substitutions => rw [told, told', substitutionsBy_alike alike predicates]
  case text => rw [told, lookup_conclude present found answers]
  case text' => rw [told', lookup_conclude present' found' answers']
  case truncated =>
    rw [plan_eq, plan_eq']
    dsimp only
    rw [← Function.id_comp Step.truncates, ← List.any_map, truncates, List.any_map]
  case mode =>
    rw [plan_eq, plan_eq']
    exact mode_alike steps problems
  all_goals rw [plan_eq, plan_eq']; assumption

theorem filter?_of_lookup {call : Call} {filter : Text}
    (given : call.params.lookup whereParam = some filter) :
    call.filter? = if isBlankText filter then none else some filter := by
  unfold Call.filter?
  rw [given]
  cases blank : isBlankText filter <;> simp [blank]

theorem isBlankText_foldCase (s : Text) : isBlankText (foldCase s) = isBlankText s := by
  simp [isBlankText, foldCase, List.all_map, Function.comp_def, isBlank_toLower]

theorem outcomesAlike_unchanged {call call' : Call} {filter filter' : Text}
    (given : call.params.lookup whereParam = some filter)
    (given' : call'.params.lookup whereParam = some filter') :
    OutcomesAlike filter filter' (call.unchanged []) (call'.unchanged []) where
  detected := .nil
  steps := .nil
  problems := .nil
  truncated := rfl
  mode := rfl
  substitutions := rfl
  text := given
  text' := given'

/-- It makes no difference in which case the root is spelled, or relations and words for
operators. -/
theorem alike_in_any_case {call call' : Call} {filter filter' : Text} (calls : call.Alike call')
    (given : call.params.lookup whereParam = some filter)
    (given' : call'.params.lookup whereParam = some filter') (respells : Respells filter filter')
    (answers : Nat → Answer) (backend : Backend) (files : Files) :
    ∃ outcome outcome' requests requests',
      plan (.inTurn answers) backend files call [] =
        .ok (outcome, requests.map (Sent.mk call.caller.tenant)) ∧
      plan (.inTurn answers) backend files call' [] =
        .ok (outcome', requests'.map (Sent.mk call'.caller.tenant)) ∧
      List.Forall₂ Request.Alike requests requests' ∧
      OutcomesAlike filter filter' outcome outcome' := by
  have same := respells.foldCase
  have relations : loadRelations files call.caller.tenant call.caller.root =
      loadRelations files call'.caller.tenant call'.caller.root := by
    rw [loadRelations, loadRelations, calls.tenant, calls.root]
  have present := filter?_of_lookup given
  have present' := filter?_of_lookup given'
  have blanks : isBlankText filter = isBlankText filter' := by
    rw [← isBlankText_foldCase, same, isBlankText_foldCase]
  unfold plan
  rw [relations]
  by_cases blank : isBlankText filter
  next =>
    rw [if_pos blank] at present
    rw [if_pos (blanks ▸ blank)] at present'
    exact ⟨_, _, [], [], planWith_absent _ backend _ [] present,
      planWith_absent _ backend _ [] present', .nil, outcomesAlike_unchanged given given'⟩
  next =>
    rw [if_neg blank] at present
    rw [if_neg (blanks ▸ blank)] at present'
    obtain ⟨ps, ps', found, found', predicates⟩ := respells.detectIn
    have targets := targets_alike calls backend
      (loadRelations files call'.caller.tenant call'.caller.root) predicates
    exact ⟨_, _, _, _, planWith_inTurn present found answers backend _,
      planWith_inTurn present' found' answers backend _, requestsOf_alike targets,
      outcomesAlike_conclude present present' found found' (answers_blocksFrom answers backend call _ _)
        (answers_blocksFrom answers backend call' _ _) same predicates
        (blocksFrom_alike answers 0 targets)⟩

def spelling (word : Text) : Piece := ⟨word, some (.name word)⟩

def pumpGap : Piece := ⟨[' '], none⟩

def pumpField : List Piece :=
  [⟨['.'], some .dot⟩, spelling "kind".toList, pumpGap]

def pumpLiteral : Piece := ⟨"'P%'".toList, some (.literal "P%".toList .single)⟩

def pumpPieces (relation word : Text) : List Piece :=
  spelling relation :: (pumpField ++ spelling word :: [pumpGap] ++ [pumpLiteral])

def pumpPredicate : Predicate :=
  ⟨"asset".toList, "kind".toList, .like, "P%".toList, .single, ⟨0, 20⟩⟩

def pumpPart : Part :=
  .clause pumpPredicate (pumpPieces "asset".toList "like".toList)

def pumpFilter : Text :=
  "asset.kind like 'P%'".toList

theorem layout_pump : IsLayout .escaped pumpFilter [pumpPart] := by
  have scanned : scan .escaped pumpFilter = (pumpPieces "asset".toList "like".toList, []) := by
    decide +kernel
  obtain ⟨source, scanned⟩ := scan_eq_iff.1 scanned
  exact ⟨source, scanned, .clause (.intro rfl rfl rfl rfl rfl) .nil⟩

def loudFilter : Text :=
  "ASSET.kind LIKE 'P%'".toList

theorem respells_pump : Respells pumpFilter loudFilter := by
  have part : Part.Respelled pumpPart ("ASSET".toList ++ joined pumpField ++ "LIKE".toList ++
      joined [pumpGap] ++ pumpLiteral.source) :=
    .clause rfl rfl rfl (.inr ⟨rfl, rfl⟩)
  exact .intro layout_pump (.inl rfl) (.cons part .nil)

def loudCall : Call :=
  ⟨⟨"acme".toList, " MXAPIWO ".toList, none, none⟩, [(whereParam, loudFilter)], none⟩

theorem alike_in_any_case_pump :
    Respells pumpFilter loudFilter ∧ (assetCall pumpFilter).Alike loudCall ∧
      ∃ outcome outcome' requests requests',
        plan (.inTurn plantAnswers) assetBackend [] (assetCall pumpFilter) [] =
          .ok (outcome, requests.map (Sent.mk "acme".toList)) ∧
        plan (.inTurn plantAnswers) assetBackend [] loudCall [] =
          .ok (outcome', requests'.map (Sent.mk "acme".toList)) ∧
        List.Forall₂ Request.Alike requests requests' ∧
        OutcomesAlike pumpFilter loudFilter outcome outcome' := by
  have calls : (assetCall pumpFilter).Alike loudCall := ⟨rfl, by decide, rfl⟩
  exact ⟨respells_pump, calls, alike_in_any_case calls rfl rfl respells_pump plantAnswers
    assetBackend []⟩

end Prejoin
