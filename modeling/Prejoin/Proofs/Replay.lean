import Prejoin.Proofs.Outcome

set_option autoImplicit false

namespace Prejoin

/-- A step is made for the predicate with its relation, its field and its text in the filter, and
speaks of all of the same clause. -/
def Step.replacement? (filter : Text) (predicates : List Predicate) (p : Predicate) :
    Step → Option Text
  | .replaced relation field before after _ =>
    if predicates.any fun q => q.relation = relation && q.field = field &&
        q.span.slice filter = some before && q.sameClause p then some after
    else none
  | _ => none

def replacementBy (filter : Text) (predicates : List Predicate) (steps : List Step)
    (p : Predicate) : Option Text :=
  steps.findSome? (Step.replacement? filter predicates p)

def filterBy (filter : Text) (predicates : List Predicate) (steps : List Step) : Text :=
  splice filter (predicates.filterMap fun p =>
    (replacementBy filter predicates steps p).map fun text => ⟨p.span, text⟩)

theorem replacement?_eq_some_iff {filter : Text} {predicates : List Predicate} {p : Predicate}
    {step : Step} {text : Text} :
    step.replacement? filter predicates p = some text ↔
      ∃ q ∈ predicates, ∃ before occurrences,
        step = .replaced q.relation q.field before text occurrences ∧
        q.span.slice filter = some before ∧ q.sameClause p := by
  cases step with
  | replaced relation field before after occurrences =>
    simp only [Step.replacement?, Option.ite_none_right_eq_some, List.any_eq_true,
      Bool.and_eq_true, decide_eq_true_eq, Option.some.injEq, Step.replaced.injEq]
    constructor
    · rintro ⟨⟨q, inside, ⟨⟨⟨rfl, rfl⟩, slice⟩, same⟩⟩, rfl⟩
      exact ⟨q, inside, before, occurrences, ⟨rfl, rfl, rfl, rfl, rfl⟩, slice, same⟩
    · rintro ⟨q, inside, _, _, ⟨rfl, rfl, rfl, rfl, rfl⟩, slice, same⟩
      exact ⟨⟨q, inside, ⟨⟨⟨rfl, rfl⟩, slice⟩, same⟩⟩, rfl⟩
  | _ => simp [Step.replacement?]

section

variable {filter : Text} {predicates : List Predicate} {blocks : List Block}

theorem slice_of_mem (found : detectIn filter = .ok predicates) {p : Predicate}
    (inside : p ∈ predicates) :
    p.span.slice filter = some ((p.span.slice filter).getD []) := by
  obtain ⟨reading, parts, layout, rfl⟩ := exists_layout_of_detectIn found
  obtain ⟨_, pieces, slice, -⟩ := layout.slice inside
  simp [slice]

theorem resolution_of_told (found : detectIn filter = .ok predicates)
    (answers : Answers blocks predicates) (call : Call) {p : Predicate} {step : Step} {text : Text}
    (member : step ∈ (call.planOf (eventsOf filter predicates blocks)).steps)
    (told : step.replacement? filter predicates p = some text) :
    (resolutionOf blocks p).map Resolution.text = some text := by
  obtain ⟨q, inside, before, occurrences, rfl, stands, same⟩ := replacement?_eq_some_iff.1 told
  obtain ⟨block, known, resolution, answer, -, -, before_eq, rfl, -⟩ :=
    (mem_steps_iff call).1 member
  have owner := answers.mem_predicates known
  have alike : block.predicate.span.slice filter = q.span.slice filter := by
    rw [slice_of_mem found owner, stands, before_eq]
  obtain ⟨reading, parts, layout, rfl⟩ := exists_layout_of_detectIn found
  have equal := layout.sameClause_of_slice owner inside alike
  rw [answers.resolutionOf_eq known (Predicate.sameClause_trans equal same), answer]
  rfl

theorem exists_step_of_resolutionOf (found : detectIn filter = .ok predicates)
    (answers : Answers blocks predicates) (call : Call) {p : Predicate} {resolution : Resolution}
    (resolves : resolutionOf blocks p = some resolution) :
    ∃ step ∈ (call.planOf (eventsOf filter predicates blocks)).steps,
      step.replacement? filter predicates p = some resolution.text := by
  obtain ⟨block, known, same, answer⟩ := exists_block_of_resolutionOf resolves
  have owner := answers.mem_predicates known
  have member : Step.replaced block.predicate.relation block.predicate.field _ resolution.text
      block.target.group.spans.length ∈ (call.planOf (eventsOf filter predicates blocks)).steps :=
    (mem_steps_iff call).2 ⟨block, known, resolution, answer, rfl, rfl, rfl, rfl, rfl⟩
  refine ⟨_, member, ?_⟩
  exact replacement?_eq_some_iff.2
    ⟨block.predicate, owner, _, _, rfl, slice_of_mem found owner, same⟩

theorem replacementBy_steps (found : detectIn filter = .ok predicates)
    (answers : Answers blocks predicates) (call : Call) (p : Predicate) :
    replacementBy filter predicates (call.planOf (eventsOf filter predicates blocks)).steps p =
      (resolutionOf blocks p).map Resolution.text := by
  cases first : replacementBy filter predicates
      (call.planOf (eventsOf filter predicates blocks)).steps p with
  | some text =>
    obtain ⟨step, member, told⟩ := List.exists_of_findSome?_eq_some first
    exact (resolution_of_told found answers call member told).symm
  | none =>
    cases resolves : resolutionOf blocks p with
    | none => rfl
    | some resolution =>
      obtain ⟨step, member, told⟩ := exists_step_of_resolutionOf found answers call resolves
      have silent := List.findSome?_eq_none_iff.1 first step member
      simp [silent] at told

variable {σ ε : Type} {channel : Channel σ ε} {backend : Backend} {relations : Dict Relation}
  {call : Call} {state next : σ}

/-- Once the channel has answered, with keys or errors, the filter is what the steps of the plan
say. -/
theorem resolved_by_steps (present : call.filter? = some filter)
    (found : detectIn filter = .ok predicates)
    (looked : resolveAll channel call.caller.tenant
      (targets backend call relations predicates) state = .ok (blocks, next)) :
    ∃ outcome, planWith channel backend relations call state = .ok (outcome, next) ∧
      (∀ problem ∈ outcome.plan.problems, problem.relation ≠ none) ∧
      (∀ p ∈ predicates, p.span.fits filter) ∧
      (predicates.Pairwise fun p q => p.span.stop ≤ q.span.start) ∧
      (∀ relation field before after occurrences,
        .replaced relation field before after occurrences ∈ outcome.plan.steps →
          ∃ q, predicates.find? q.sameClause = some q ∧
            q.relation = relation ∧ q.field = field ∧ q.span.slice filter = some before ∧
            predicates.countP q.sameClause = occurrences ∧
            ∀ p ∈ predicates, q.sameClause p →
              replacementBy filter predicates outcome.plan.steps p = some after) ∧
      outcome.params.lookup whereParam =
        some (filterBy filter predicates outcome.plan.steps) := by
  have answers := answers_of_resolveAll looked
  obtain ⟨reading, parts, layout, rfl⟩ := exists_layout_of_detectIn found
  have plan_eq : (call.conclude filter (predicatesOf parts) blocks).plan =
      call.planOf (eventsOf filter (predicatesOf parts) blocks) := by
    rw [conclude_eq found answers]
  refine ⟨_, planWith_eq present found looked, ?_, fun p => layout.fits, layout.arranged.apart,
    ?_, ?_⟩
  · intro problem member
    rw [plan_eq] at member
    obtain ⟨block, -, error, -, rfl⟩ := problem_of_mem call member
    simp
  · intro relation field before after occurrences member
    rw [plan_eq] at member ⊢
    obtain ⟨block, known, resolution, answer, rfl, rfl, rfl, rfl, rfl⟩ :=
      (mem_steps_iff call).1 member
    have slice := slice_of_mem found (answers.mem_predicates known)
    refine ⟨block.predicate, answers.first block known, rfl, rfl, slice, ?_, ?_⟩
    · rw [answers.spans block known, List.length_map, List.countP_eq_length_filter]
    · intro p _ same
      rw [replacementBy_steps found answers, answers.resolutionOf_eq known same, answer]
      rfl
  · rw [lookup_conclude present found answers, plan_eq, filterBy]
    simp only [replacementBy_steps found answers, Option.map_map]
    rfl

end

def assetRelations : Dict Relation :=
  [("asset".toList,
    { relatedResource := "mxapiasset".toList
      rootJoinField := "assetnum".toList
      relatedKeyField := "assetnum".toList
      relatedSiteField := none
      maxKeys := defaultMaxKeys
      pageSize := defaultPageSize
      select := "assetnum".toList })]

def assetBackend : Backend :=
  ⟨fun _ => "https://acme.example.com/maximo/api".toList, fun _ => []⟩

def assetCall (filter : Text) : Call :=
  ⟨⟨"acme".toList, "mxapiwo".toList, none, none⟩, [(whereParam, filter)], none⟩

def assetScript (keys : List Text) : Script :=
  Script.empty.expect
    { resource := some "mxapiasset".toList
      answer := .ok (.decoded (.object [("member".toList,
        .list (keys.map fun key => .object [("assetnum".toList, .text key)]))])) }

def assetRun (filter : Text) (keys : List Text) (predicates : List Predicate) :
    Except ScriptFault (List Block × Script) :=
  resolveAll Script.channel (assetCall filter).caller.tenant
    (targets assetBackend (assetCall filter) assetRelations predicates) (assetScript keys)

def assetFindings (filter : Text) (keys : List Text) (predicates : List Predicate) :
    Option (List (Option Resolution)) :=
  (assetRun filter keys predicates).toOption.map fun run =>
    predicates.map (resolutionOf run.1)

theorem exists_assetRun {filter : Text} {keys : List Text} {predicates : List Predicate}
    {findings : List (Option Resolution)}
    (found : assetFindings filter keys predicates = some findings) :
    ∃ blocks next, assetRun filter keys predicates = .ok (blocks, next) ∧
      predicates.map (resolutionOf blocks) = findings := by
  unfold assetFindings at found
  cases run : assetRun filter keys predicates with
  | error fault => simp [run, Except.toOption] at found
  | ok result => exact ⟨result.1, result.2, rfl, by simpa [run, Except.toOption] using found⟩

theorem answers_of_assetRun {filter : Text} {keys : List Text} {predicates : List Predicate}
    {blocks : List Block} {next : Script}
    (looked : assetRun filter keys predicates = .ok (blocks, next)) :
    Answers blocks predicates := by
  unfold assetRun at looked
  exact answers_of_resolveAll looked

def sensorFilter : Text :=
  "asset.kind=\"SENSOR\" or (x=1 and Asset.Kind = 'SENSOR')".toList

def sensorKeys : List Text :=
  ["A1".toList, "A\"2".toList]

def sensorTokens : List Token :=
  place 0 (scan .escaped sensorFilter).1

theorem read_sensor :
    (assetCall sensorFilter).filter? = some sensorFilter ∧
      tokenizeAs .escaped sensorFilter = .ok sensorTokens ∧
      assetFindings sensorFilter sensorKeys (detect sensorTokens) =
        some [some ⟨"assetnum".toList, sensorKeys⟩, some ⟨"assetnum".toList, sensorKeys⟩] := by
  decide +kernel

theorem detectIn_sensor : detectIn sensorFilter = .ok (detect sensorTokens) := by
  rw [detectIn, tokenize_eq_ok_iff.2 (.inl read_sensor.2.1)]
  rfl

theorem exists_sensorRun :
    ∃ blocks next, assetRun sensorFilter sensorKeys (detect sensorTokens) = .ok (blocks, next) ∧
      (detect sensorTokens).map (resolutionOf blocks) =
        [some ⟨"assetnum".toList, sensorKeys⟩, some ⟨"assetnum".toList, sensorKeys⟩] :=
  exists_assetRun read_sensor.2.2

theorem resolved_by_steps_sensor :
    ∃ blocks next, assetRun sensorFilter sensorKeys (detect sensorTokens) = .ok (blocks, next) ∧
      (detect sensorTokens).map (resolutionOf blocks) =
        [some ⟨"assetnum".toList, sensorKeys⟩, some ⟨"assetnum".toList, sensorKeys⟩] ∧
      ∃ outcome, planWith Script.channel assetBackend assetRelations (assetCall sensorFilter)
          (assetScript sensorKeys) = .ok (outcome, next) ∧
        outcome.params.lookup whereParam =
          some (filterBy sensorFilter (detect sensorTokens) outcome.plan.steps) := by
  obtain ⟨blocks, next, looked, findings⟩ := exists_sensorRun
  obtain ⟨outcome, planned, -, -, -, -, resolved⟩ :=
    resolved_by_steps read_sensor.1 detectIn_sensor looked
  exact ⟨blocks, next, looked, findings, outcome, planned, resolved⟩

end Prejoin
