import Prejoin.Proofs.Events
import Prejoin.Proofs.Resolved

set_option autoImplicit false

namespace Prejoin

section

variable {σ ε : Type} {channel : Channel σ ε} {backend : Backend} {relations : Dict Relation}
  {call : Call} {state next : σ} {filter : Text} {predicates : List Predicate} {blocks : List Block}

theorem lookup_filter (present : call.filter? = some filter) :
    call.params.lookup whereParam = some filter := by
  obtain ⟨found, -⟩ := Option.filter_eq_some_iff.1 present
  exact found

theorem planWith_eq (present : call.filter? = some filter)
    (found : detectIn filter = .ok predicates)
    (looked : resolveAll channel call.caller.tenant
      (targets backend call relations predicates) state = .ok (blocks, next)) :
    planWith channel backend relations call state =
      .ok (call.conclude filter predicates blocks, next) := by
  simp [planWith, present, found, looked]

theorem exists_blocks_of_planWith {outcome : Outcome} (present : call.filter? = some filter)
    (found : detectIn filter = .ok predicates)
    (planned : planWith channel backend relations call state = .ok (outcome, next)) :
    ∃ blocks, resolveAll channel call.caller.tenant
        (targets backend call relations predicates) state = .ok (blocks, next) ∧
      outcome = call.conclude filter predicates blocks := by
  cases looked : resolveAll channel call.caller.tenant
      (targets backend call relations predicates) state with
  | error fault => simp [planWith, present, found, looked] at planned
  | ok run =>
    have concluded := planWith_eq present found looked
    obtain ⟨rfl, rfl⟩ := Prod.mk.inj (Except.ok.inj (planned.symm.trans concluded))
    exact ⟨run.1, rfl, rfl⟩

theorem planWith_absent (channel : Channel σ ε) (backend : Backend) (relations : Dict Relation)
    (state : σ) (absent : call.filter? = none) :
    planWith channel backend relations call state = .ok (call.unchanged [], state) := by
  simp [planWith, absent]

theorem planWith_unreadable (channel : Channel σ ε) (backend : Backend) (relations : Dict Relation)
    (state : σ) {error : ScanError} (present : call.filter? = some filter)
    (unread : detectIn filter = .error error) :
    planWith channel backend relations call state =
      .ok (call.unchanged [.aborted (PlanningError.scan error).message], state) := by
  simp [planWith, present, unread]

theorem resolvedFilter_eq (found : detectIn filter = .ok predicates)
    (answers : Answers blocks predicates) :
    resolvedFilter filter blocks =
      .ok (splice filter (substitutionsBy (resolutionOf blocks) predicates)) := by
  obtain ⟨reading, parts, layout, rfl⟩ := exists_layout_of_detectIn found
  exact layout.substitute answers.substitutions_perm

def eventsOf (filter : Text) (predicates : List Predicate) (blocks : List Block) : List Event :=
  .detected predicates :: blocks.flatMap (Block.events filter)

theorem conclude_eq (found : detectIn filter = .ok predicates) (answers : Answers blocks predicates)
    (call : Call) :
    call.conclude filter predicates blocks =
      let resolved := splice filter (substitutionsBy (resolutionOf blocks) predicates)
      { plan := call.planOf (eventsOf filter predicates blocks)
        params :=
          if resolved = filter then call.params else put whereParam resolved call.params } := by
  simp [Call.conclude, resolvedFilter_eq found answers, eventsOf]

theorem lookup_conclude (present : call.filter? = some filter)
    (found : detectIn filter = .ok predicates) (answers : Answers blocks predicates) :
    (call.conclude filter predicates blocks).params.lookup whereParam =
      some (splice filter (substitutionsBy (resolutionOf blocks) predicates)) := by
  rw [conclude_eq found answers]
  by_cases unchanged : splice filter (substitutionsBy (resolutionOf blocks) predicates) = filter
  · simp [unchanged, lookup_filter present]
  · simp [unchanged, lookup_put]

theorem exists_outcome {reading : Reading} {parts : List Part}
    (layout : IsLayout reading filter parts) (present : call.filter? = some filter)
    (found : detectIn filter = .ok (predicatesOf parts))
    (looked : resolveAll channel call.caller.tenant
      (targets backend call relations (predicatesOf parts)) state = .ok (blocks, next)) :
    ∃ outcome, planWith channel backend relations call state = .ok (outcome, next) ∧
      outcome.params.lookup whereParam =
        some (joined (resolvedPieces (resolutionOf blocks) parts)) := by
  refine ⟨_, planWith_eq present found looked, ?_⟩
  rw [lookup_conclude present found (answers_of_resolveAll looked), layout.splice]

theorem mem_events_iff {event : Event} :
    event ∈ eventsOf filter predicates blocks ↔
      event = .detected predicates ∨ ∃ block ∈ blocks, event ∈ block.events filter := by
  simp [eventsOf]

theorem problem_of_mem (call : Call) {problem : Problem}
    (member : problem ∈ (call.planOf (eventsOf filter predicates blocks)).problems) :
    ∃ block ∈ blocks, ∃ error, block.outcome = .error error ∧
      problem = ⟨some block.predicate.relation, error.message⟩ := by
  rw [Call.planOf, ofEvents_eq] at member
  obtain ⟨event, inside, noted⟩ := List.mem_filterMap.1 member
  rcases mem_events_iff.1 inside with rfl | ⟨block, known, inside⟩
  · simp [Event.problem?] at noted
  · unfold Block.events at inside
    cases outcome : block.outcome with
    | error error =>
      simp only [outcome, List.mem_cons, List.not_mem_nil, or_false] at inside
      rcases inside with rfl | rfl
      · simp [Event.problem?] at noted
      · exact ⟨block, known, error, outcome, (Option.some.inj noted).symm⟩
    | ok keys =>
      simp only [outcome, List.mem_cons, List.not_mem_nil, or_false] at inside
      rcases inside with rfl | rfl | rfl <;> simp [Event.problem?] at noted

theorem mem_steps_iff (call : Call) {relation field before after : Text} {occurrences : Nat} :
    .replaced relation field before after occurrences ∈
        (call.planOf (eventsOf filter predicates blocks)).steps ↔
      ∃ block ∈ blocks, ∃ resolution, block.resolution? = some resolution ∧
        relation = block.predicate.relation ∧ field = block.predicate.field ∧
        before = (block.predicate.span.slice filter).getD [] ∧ after = resolution.text ∧
        occurrences = block.target.group.spans.length := by
  rw [Call.planOf, ofEvents_eq]
  constructor
  · intro member
    obtain ⟨event, inside, recorded⟩ := List.mem_filterMap.1 member
    rcases mem_events_iff.1 inside with rfl | ⟨block, known, inside⟩
    · simp [Event.step?] at recorded
    · unfold Block.events at inside
      cases outcome : block.outcome with
      | error error =>
        simp only [outcome, List.mem_cons, List.not_mem_nil, or_false] at inside
        rcases inside with rfl | rfl <;> simp [Event.step?] at recorded
      | ok keys =>
        simp only [outcome, List.mem_cons, List.not_mem_nil, or_false] at inside
        rcases inside with rfl | rfl | rfl
        · simp [Event.step?] at recorded
        · simp [Event.step?] at recorded
        · simp only [Event.step?, Option.some.injEq, Step.replaced.injEq] at recorded
          obtain ⟨rfl, rfl, rfl, rfl, rfl⟩ := recorded
          exact ⟨block, known, _, by rw [Block.resolution?, outcome], rfl, rfl, rfl, rfl, rfl⟩
  · rintro ⟨block, known, resolution, answer, rfl, rfl, rfl, rfl, rfl⟩
    refine List.mem_filterMap.2 ⟨.replaced block.predicate
      ((block.predicate.span.slice filter).getD []) resolution.text
      block.target.group.spans.length, mem_events_iff.2 (.inr ⟨block, known, ?_⟩), rfl⟩
    unfold Block.resolution? at answer
    cases outcome : block.outcome with
    | error error => simp [outcome] at answer
    | ok keys =>
      obtain rfl : _ = resolution := by simpa [outcome] using answer
      simp [Block.events, outcome, Block.predicate, Resolution.text, Target.replacement]

end

end Prejoin
