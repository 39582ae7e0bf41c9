import Prejoin.Proofs.Readback
import Prejoin.Proofs.Rereading

set_option autoImplicit false

namespace Prejoin

theorem detectIn_rendered {filter : Text} {parts : List Part}
    {find : Predicate → Option Resolution} (layout : IsLayout .escaped filter parts)
    (named : ∀ p resolution, find p = some resolution → isName resolution.field) :
    ∃ remaining, detectIn (joined (resolvedPieces find parts)) = .ok remaining ∧
      remaining.map Predicate.content =
        ((predicatesOf parts).filter fun p => find p = none).map Predicate.content := by
  obtain ⟨pieces, rendered, source, scanned⟩ := layout.arranged.exists_rendered layout.scanned named
  have read : tokenize (joined (resolvedPieces find parts)) = .ok (place 0 pieces) := by
    rw [← source]
    exact tokenize_eq_ok_iff.2 (.inl (tokenizeAs_joined scanned))
  refine ⟨_, detectIn_of_tokenize read, ?_⟩
  rw [detect, contents_detectAfter, map_lexeme_place, layout.arranged.contents_rendered rendered]

theorem filter_unresolved_eq_nil {find : Predicate → Option Resolution}
    {predicates : List Predicate} (all : ∀ p ∈ predicates, (find p).isSome) :
    (predicates.filter fun p => find p = none) = [] := by
  apply List.filter_eq_nil_iff.2
  intro p inside
  have resolved := all p inside
  cases found : find p <;> simp_all

theorem planWith_clean {σ ε : Type} (channel : Channel σ ε) (backend : Backend)
    (relations : Dict Relation) {call : Call} (state : σ)
    (clean : ∀ filter, call.filter? = some filter → detectIn filter = .ok []) :
    ∃ plan, planWith channel backend relations call state = .ok (⟨plan, call.params⟩, state) ∧
      plan.mode = .none := by
  cases present : call.filter? with
  | none =>
    refine ⟨call.planOf [], planWith_absent channel backend relations state present, ?_⟩
    rw [Call.planOf, ofEvents_eq]
    rfl
  | some filter =>
    have found := clean filter present
    have same : resolvedFilter filter [] = .ok filter := by
      simp [resolvedFilter, substitute, inOrder, check, Except.map]
    refine ⟨call.planOf [.detected []], ?_, ?_⟩
    · rw [planWith_eq present found rfl]
      simp [Call.conclude, same]
    · rw [Call.planOf, ofEvents_eq]
      rfl

section

variable {σ ε : Type} {channel : Channel σ ε} {backend : Backend} {relations : Dict Relation}
  {call : Call} {state next : σ} {filter : Text} {tokens : List Token} {blocks : List Block}

/-- A second call may have another caller, other relations and another channel. -/
theorem detectIn_resolved (present : call.filter? = some filter)
    (read : tokenizeAs .escaped filter = .ok tokens)
    (joins : ∀ entry ∈ relations, isName entry.2.rootJoinField)
    (looked : resolveAll channel call.caller.tenant
      (targets backend call relations (detect tokens)) state = .ok (blocks, next)) :
    ∃ outcome resolved remaining, planWith channel backend relations call state =
        .ok (outcome, next) ∧
      outcome.params.lookup whereParam = some resolved ∧ detectIn resolved = .ok remaining ∧
      remaining.map Predicate.content =
        ((detect tokens).filter fun p => resolutionOf blocks p = none).map Predicate.content ∧
      ((∀ p ∈ detect tokens, (resolutionOf blocks p).isSome) →
        ∀ (τ δ : Type) (channel' : Channel τ δ) (backend' : Backend) (relations' : Dict Relation)
          (again : Call) (state' : τ), again.params = outcome.params →
          ∃ plan, planWith channel' backend' relations' again state' =
              .ok (⟨plan, outcome.params⟩, state') ∧
            plan.mode = .none) := by
  have found := detectIn_of_tokenize (tokenize_eq_ok_iff.2 (.inl read))
  obtain ⟨parts, layout, rfl⟩ := exists_layout read
  rw [layout.detect] at found looked ⊢
  obtain ⟨outcome, planned, resolved⟩ := exists_outcome layout present found looked
  obtain ⟨remaining, again, contents⟩ := detectIn_rendered layout (isName_field joins looked)
  refine ⟨outcome, _, remaining, planned, resolved, again, contents, ?_⟩
  intro all τ δ channel' backend' relations' second state' same
  have none : remaining = [] := by simpa [filter_unresolved_eq_nil all] using contents
  rw [← same]
  apply planWith_clean channel' backend' relations' state'
  intro filter' present'
  have held := lookup_filter present'
  rw [same, resolved] at held
  rw [← Option.some.inj held, again, none]

end

theorem detectIn_resolved_sensor :
    ∃ blocks next, assetRun sensorFilter sensorKeys (detect sensorTokens) = .ok (blocks, next) ∧
      (detect sensorTokens).map (resolutionOf blocks) =
        [some ⟨"assetnum".toList, sensorKeys⟩, some ⟨"assetnum".toList, sensorKeys⟩] ∧
      ∃ outcome resolved plan, planWith Script.channel assetBackend assetRelations
          (assetCall sensorFilter) (assetScript sensorKeys) = .ok (outcome, next) ∧
        outcome.params.lookup whereParam = some resolved ∧ detectIn resolved = .ok [] ∧
        planWith Script.channel assetBackend assetRelations
          { assetCall sensorFilter with params := outcome.params } Script.empty =
            .ok (⟨plan, outcome.params⟩, Script.empty) ∧
        plan.mode = .none := by
  obtain ⟨blocks, next, looked, findings⟩ := exists_sensorRun
  obtain ⟨outcome, resolved, remaining, planned, held, again, contents, clean⟩ :=
    detectIn_resolved read_sensor.1 read_sensor.2.1 isName_assetRelations looked
  have all : ∀ p ∈ detect sensorTokens, (resolutionOf blocks p).isSome := by
    have each : ∀ found ∈ (detect sensorTokens).map (resolutionOf blocks), found.isSome := by
      simp [findings]
    exact fun p inside => each _ (List.mem_map_of_mem inside)
  obtain ⟨plan, second, mode⟩ := clean all Script ScriptFault Script.channel assetBackend
    assetRelations { assetCall sensorFilter with params := outcome.params } Script.empty rfl
  have none : remaining = [] := by simpa [filter_unresolved_eq_nil all] using contents
  rw [none] at again
  exact ⟨blocks, next, looked, findings, outcome, resolved, plan, planned, held, again, second,
    mode⟩

end Prejoin
