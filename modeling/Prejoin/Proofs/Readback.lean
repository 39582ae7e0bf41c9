import Prejoin.Proofs.Boundaries
import Prejoin.Proofs.Replay

set_option autoImplicit false

namespace Prejoin

def Part.kept (find : Predicate → Option Resolution) : Part → List Piece
  | .loose piece => [piece]
  | .clause p pieces => if (find p).isSome then [] else pieces

def keptPieces (find : Predicate → Option Resolution) (parts : List Part) : List Piece :=
  parts.flatMap (Part.kept find)

theorem mem_piecesOf_of_mem_keptPieces {find : Predicate → Option Resolution} {parts : List Part}
    {piece : Piece} (member : piece ∈ keptPieces find parts) : piece ∈ piecesOf parts := by
  obtain ⟨part, inside, kept⟩ := List.mem_flatMap.1 member
  refine List.mem_flatMap.2 ⟨part, inside, ?_⟩
  cases part with
  | loose other => exact kept
  | clause p pieces =>
    simp only [Part.kept] at kept
    split at kept
    next => simp at kept
    next => exact kept

theorem forall_mem_resolvedPieces {find : Predicate → Option Resolution} {parts : List Part}
    {property : Piece → Prop} :
    (∀ piece ∈ resolvedPieces find parts, property piece) ↔
      (∀ piece ∈ keptPieces find parts, property piece) ∧
        ∀ p ∈ predicatesOf parts, ∀ resolution, find p = some resolution →
          ∀ piece ∈ clausePieces resolution.field resolution.keys, property piece := by
  induction parts with
  | nil => simp [keptPieces]
  | cons part rest ih =>
    rw [keptPieces, List.flatMap_cons, List.forall_mem_append]
    cases part with
    | loose piece =>
      rw [resolvedPieces_loose, List.forall_mem_cons, predicatesOf_loose, Part.kept,
        List.forall_mem_singleton, ih, and_assoc]
      rfl
    | clause p pieces =>
      rw [predicatesOf_clause, List.forall_mem_cons]
      cases found : find p with
      | none =>
        rw [resolvedPieces_kept found, List.forall_mem_append, ih]
        simp [Part.kept, found, keptPieces, and_assoc]
      | some resolution =>
        rw [resolvedPieces_replaced found, List.forall_mem_append, ih]
        simp only [Part.kept, found, keptPieces, Option.isSome_some, if_true, List.not_mem_nil,
          false_implies, implies_true, true_and, Option.some.injEq, forall_eq']
        tauto

theorem tokenizeAs_joined {reading : Reading} {pieces : List Piece}
    (scanned : Scanned reading pieces []) :
    tokenizeAs reading (joined pieces) = .ok (place 0 pieces) :=
  tokenizeAs_eq_ok_iff.2 ⟨pieces, rfl, scanned, rfl⟩

section

variable {σ ε : Type} {channel : Channel σ ε} {backend : Backend} {relations : Dict Relation}
  {call : Call} {state next : σ} {filter : Text} {tokens : List Token} {blocks : List Block}

theorem isName_field (joins : ∀ entry ∈ relations, isName entry.2.rootJoinField)
    {predicates : List Predicate}
    (looked : resolveAll channel call.caller.tenant
      (targets backend call relations predicates) state = .ok (blocks, next))
    (p : Predicate) (resolution : Resolution) (found : resolutionOf blocks p = some resolution) :
    isName resolution.field := by
  obtain ⟨block, known, -, answer⟩ := exists_block_of_resolutionOf found
  obtain ⟨before, after, split, -⟩ :=
    List.lookup_eq_some_iff.1 (exists_relation_of_mem_blocks looked known)
  unfold Block.resolution? at answer
  split at answer
  next => simp at answer
  next =>
    obtain rfl := Option.some.inj answer
    exact joins (foldCase block.predicate.relation, block.target.relation) (by rw [split]; simp)

/-- No key can close its literal, add a clause or change how another part is read. -/
theorem tokenize_resolved (present : call.filter? = some filter)
    (read : tokenizeAs .escaped filter = .ok tokens)
    (joins : ∀ entry ∈ relations, isName entry.2.rootJoinField)
    (looked : resolveAll channel call.caller.tenant
      (targets backend call relations (detect tokens)) state = .ok (blocks, next))
    (apart : ∀ token ∈ tokens, token.lexeme.isNumber → ∀ p ∈ detect tokens,
      (resolutionOf blocks p).isSome → token.span.stop ≠ p.span.start) :
    ∃ outcome resolved read', planWith channel backend relations call state =
        .ok (outcome, next) ∧
      outcome.params.lookup whereParam = some resolved ∧ tokenize resolved = .ok read' ∧
      read'.map Token.lexeme = resolvedLexemes (resolutionOf blocks) (detect tokens) tokens := by
  have found := detectIn_of_tokenize (tokenize_eq_ok_iff.2 (.inl read))
  have named := isName_field joins looked
  obtain ⟨parts, layout, rfl⟩ := exists_layout read
  rw [layout.detect] at apart found looked ⊢
  have fused : ¬ Fused (resolutionOf blocks) (predicatesOf parts) (place 0 (piecesOf parts)) := by
    rintro ⟨token, member, number, p, inside, same, resolution, resolved, -⟩
    exact apart token member number p inside (by rw [resolved]; rfl) same.symm
  have separated := (layout.arranged.separated_iff layout.scanned named).2 fused
  have reads : ∀ piece ∈ resolvedPieces (resolutionOf blocks) parts, piece.Reads .escaped := by
    refine forall_mem_resolvedPieces.2 ⟨fun piece member => ?_, fun p _ resolution resolved => ?_⟩
    · exact (scanned_iff.1 layout.scanned).1 piece (mem_piecesOf_of_mem_keptPieces member)
    · exact (scanned_iff.1 (scanned_clausePieces (named p resolution resolved) _ [])).1
  obtain ⟨outcome, planned, resolved⟩ := exists_outcome layout present found looked
  have back := tokenizeAs_joined (scanned_iff.2 ⟨reads, separated⟩)
  refine ⟨outcome, _, _, planned, resolved, tokenize_eq_ok_iff.2 (.inl back), ?_⟩
  rw [map_lexeme_place, layout.lexemes_resolved]

end

theorem isName_assetRelations : ∀ entry ∈ assetRelations, isName entry.2.rootJoinField := by
  decide

theorem tokenize_resolved_sensor :
    ∃ blocks next, assetRun sensorFilter sensorKeys (detect sensorTokens) = .ok (blocks, next) ∧
      (detect sensorTokens).map (resolutionOf blocks) =
        [some ⟨"assetnum".toList, sensorKeys⟩, some ⟨"assetnum".toList, sensorKeys⟩] ∧
      ∃ outcome resolved read', planWith Script.channel assetBackend assetRelations
          (assetCall sensorFilter) (assetScript sensorKeys) = .ok (outcome, next) ∧
        outcome.params.lookup whereParam = some resolved ∧ tokenize resolved = .ok read' ∧
        read'.map Token.lexeme =
          resolvedLexemes (resolutionOf blocks) (detect sensorTokens) sensorTokens := by
  have apart : ∀ token ∈ sensorTokens, token.lexeme.isNumber → ∀ p ∈ detect sensorTokens,
      token.span.stop ≠ p.span.start := by
    decide +kernel
  obtain ⟨blocks, next, looked, findings⟩ := exists_sensorRun
  exact ⟨blocks, next, looked, findings,
    tokenize_resolved read_sensor.1 read_sensor.2.1 isName_assetRelations looked
      fun token member number p inside _ => apart token member number p inside⟩

end Prejoin
