import Prejoin.Proofs.Readback
import Prejoin.Proofs.Readings

set_option autoImplicit false

namespace Prejoin

def keptLexemes (find : Predicate → Option Resolution) (predicates : List Predicate)
    (tokens : List Token) : List Lexeme :=
  spliceLexemes (fun p => (find p).map fun _ => []) predicates tokens

theorem IsLayout.lexemes_kept {reading : Reading} {filter : Text} {parts : List Part}
    (layout : IsLayout reading filter parts) (find : Predicate → Option Resolution) :
    lexemes (keptPieces find parts) =
      keptLexemes find (predicatesOf parts) (place 0 (piecesOf parts)) := by
  rw [keptLexemes, layout.arranged.spliceLexemes_eq layout.scanned]
  clear layout
  induction parts with
  | nil => rfl
  | cons part rest ih =>
    rw [keptPieces, List.flatMap_cons, lexemes_append, List.flatMap_cons]
    refine congrArg₂ _ ?_ ih
    cases part with
    | loose piece => rfl
    | clause p pieces => cases found : find p <;> simp [Part.kept, Part.spliced, found]

theorem tokenize_joined_iff {pieces : List Piece}
    (each : ∀ piece ∈ pieces, ∃ reading, piece.Reads reading) :
    (∃ tokens, tokenize (joined pieces) = .ok tokens ∧
        tokens.map Token.lexeme = lexemes pieces) ↔
      Scanned .escaped pieces [] ∨
        (∃ error, tokenizeAs .escaped (joined pieces) = .error error) ∧
          Scanned .plain pieces [] := by
  rw [← tokenizeAs_joined_iff each, ← tokenizeAs_joined_iff each]
  simp only [tokenize_eq_ok_iff]
  constructor
  · rintro ⟨tokens, escaped | ⟨failed, plain⟩, same⟩
    · exact .inl ⟨tokens, escaped, same⟩
    · exact .inr ⟨failed, tokens, plain, same⟩
  · rintro (⟨tokens, escaped, same⟩ | ⟨failed, tokens, plain, same⟩)
    · exact ⟨tokens, .inl escaped, same⟩
    · exact ⟨tokens, .inr ⟨failed, plain⟩, same⟩

section

variable {filter : Text} {parts : List Part} {find : Predicate → Option Resolution}

theorem reads_kept (layout : IsLayout .plain filter parts) {piece : Piece}
    (member : piece ∈ keptPieces find parts) : piece.Reads .plain :=
  (scanned_iff.1 layout.scanned).1 piece (mem_piecesOf_of_mem_keptPieces member)

theorem reads_resolved_escaped_iff (layout : IsLayout .plain filter parts)
    (named : ∀ p resolution, find p = some resolution → isName resolution.field) :
    (∀ piece ∈ resolvedPieces find parts, piece.Reads .escaped) ↔
      ∀ value quote, .literal value quote ∈
        keptLexemes find (predicatesOf parts) (place 0 (piecesOf parts)) → '\\' ∉ value := by
  rw [forall_mem_resolvedPieces, ← layout.lexemes_kept find]
  constructor
  · rintro ⟨kept, -⟩ value quote member
    obtain ⟨piece, inside, found⟩ := List.mem_filterMap.1 member
    exact (reads_escaped_iff (reads_kept layout inside)).1 (kept piece inside) value quote found
  · intro plain
    refine ⟨fun piece inside => ?_, fun p _ resolution found => ?_⟩
    · apply (reads_escaped_iff (reads_kept layout inside)).2
      intro value quote found
      exact plain value quote (List.mem_filterMap.2 ⟨piece, inside, found⟩)
    · exact (scanned_iff.1 (scanned_clausePieces (named p resolution found) _ [])).1

theorem reads_resolved_plain_iff (layout : IsLayout .plain filter parts)
    (named : ∀ p resolution, find p = some resolution → isName resolution.field) :
    (∀ piece ∈ resolvedPieces find parts, piece.Reads .plain) ↔
      ∀ p ∈ predicatesOf parts, ∀ resolution, find p = some resolution →
        ∀ key ∈ resolution.keys, isUnescaped key := by
  have kept : ∀ piece ∈ keptPieces find parts, piece.Reads .plain := fun piece inside =>
    reads_kept layout inside
  rw [forall_mem_resolvedPieces, and_iff_right kept]
  refine forall₂_congr fun p _ => forall₂_congr fun resolution found => ?_
  rw [reads_clausePieces_iff (named p resolution found)]
  exact forall₂_congr fun key _ => reads_keyPiece_plain_iff

theorem exists_reads (layout : IsLayout .plain filter parts)
    (named : ∀ p resolution, find p = some resolution → isName resolution.field) :
    ∀ piece ∈ resolvedPieces find parts, ∃ reading, piece.Reads reading := by
  refine forall_mem_resolvedPieces.2 ⟨fun piece inside => ⟨_, reads_kept layout inside⟩, ?_⟩
  intro p _ resolution found piece inside
  exact ⟨.escaped,
    (scanned_iff.1 (scanned_clausePieces (named p resolution found) _ [])).1 piece inside⟩

end

section

variable {σ ε : Type} {channel : Channel σ ε} {backend : Backend} {relations : Dict Relation}
  {call : Call} {state next : σ} {filter : Text} {tokens : List Token} {blocks : List Block}

/-- No literal outside the resolved clauses may hold a backslash, unless no key needs an escape and
the resolved filter, too, cannot be read with escapes. -/
theorem tokenize_resolved_plain_iff (present : call.filter? = some filter) {error : ScanError}
    (failed : tokenizeAs .escaped filter = .error error)
    (read : tokenizeAs .plain filter = .ok tokens)
    (joins : ∀ entry ∈ relations, isName entry.2.rootJoinField)
    (looked : resolveAll channel call.caller.tenant
      (targets backend call relations (detect tokens)) state = .ok (blocks, next)) :
    ∃ outcome resolved, planWith channel backend relations call state = .ok (outcome, next) ∧
      outcome.params.lookup whereParam = some resolved ∧
      ((∃ read', tokenize resolved = .ok read' ∧
          read'.map Token.lexeme =
            resolvedLexemes (resolutionOf blocks) (detect tokens) tokens) ↔
        ¬ Fused (resolutionOf blocks) (detect tokens) tokens ∧
          ((∀ value quote, .literal value quote ∈
              keptLexemes (resolutionOf blocks) (detect tokens) tokens → '\\' ∉ value) ∨
            (∀ p ∈ detect tokens, ∀ resolution, resolutionOf blocks p = some resolution →
              ∀ key ∈ resolution.keys, isUnescaped key) ∧
            ∃ error, tokenizeAs .escaped resolved = .error error)) := by
  have found := detectIn_of_tokenize (tokenize_eq_ok_iff.2 (.inr ⟨⟨error, failed⟩, read⟩))
  have named := isName_field joins looked
  obtain ⟨parts, layout, rfl⟩ := exists_layout read
  rw [layout.detect] at found looked ⊢
  obtain ⟨outcome, planned, resolved⟩ := exists_outcome layout present found looked
  refine ⟨outcome, _, planned, resolved, ?_⟩
  rw [← layout.lexemes_resolved, tokenize_joined_iff (exists_reads layout named), scanned_iff,
    scanned_iff, layout.arranged.separated_iff layout.scanned named,
    reads_resolved_escaped_iff layout named, reads_resolved_plain_iff layout named]
  tauto

end

def pathFilter : Text :=
  "path=\"C:\\\" and asset.assettype=\"SENSOR\"".toList

def pathTokens : List Token :=
  place 0 (scan .plain pathFilter).1

def pathPredicate : Predicate :=
  ⟨"asset".toList, "assettype".toList, .equal, "SENSOR".toList, .double, ⟨15, 39⟩⟩

theorem read_path :
    (assetCall pathFilter).filter? = some pathFilter ∧
      tokenizeAs .escaped pathFilter = .error (.unterminated 38) ∧
      tokenizeAs .plain pathFilter = .ok pathTokens ∧ detect pathTokens = [pathPredicate] := by
  decide +kernel

theorem detect_path : detect pathTokens = [pathPredicate] :=
  read_path.2.2.2

theorem detectIn_path : detectIn pathFilter = .ok (detect pathTokens) :=
  detectIn_of_tokenize (tokenize_eq_ok_iff.2 (.inr ⟨⟨_, read_path.2.1⟩, read_path.2.2.1⟩))

theorem lookup_path {keys : List Text} {blocks : List Block} {next : Script}
    (looked : assetRun pathFilter keys (detect pathTokens) = .ok (blocks, next))
    {resolution : Resolution} (resolves : resolutionOf blocks pathPredicate = some resolution) :
    ∃ outcome, planWith Script.channel assetBackend assetRelations (assetCall pathFilter)
        (assetScript keys) = .ok (outcome, next) ∧
      outcome.params.lookup whereParam =
        some (splice pathFilter [⟨pathPredicate.span, resolution.text⟩]) := by
  refine ⟨_, planWith_eq read_path.1 detectIn_path looked, ?_⟩
  rw [lookup_conclude read_path.1 detectIn_path (answers_of_assetRun looked), detect_path,
    substitutionsBy_replaced resolves]
  rfl

theorem tokenize_resolved_plain_path :
    ∃ blocks next, assetRun pathFilter ["A1".toList] (detect pathTokens) = .ok (blocks, next) ∧
      (detect pathTokens).map (resolutionOf blocks) =
        [some ⟨"assetnum".toList, ["A1".toList]⟩] ∧
      ∃ outcome resolved read', planWith Script.channel assetBackend assetRelations
          (assetCall pathFilter) (assetScript ["A1".toList]) = .ok (outcome, next) ∧
        outcome.params.lookup whereParam = some resolved ∧ tokenize resolved = .ok read' ∧
        read'.map Token.lexeme =
          resolvedLexemes (resolutionOf blocks) (detect pathTokens) pathTokens := by
  let resolution : Resolution := ⟨"assetnum".toList, ["A1".toList]⟩
  have findings : assetFindings pathFilter ["A1".toList] (detect pathTokens) =
      some [some resolution] := by
    decide +kernel
  obtain ⟨blocks, next, looked, findings⟩ := exists_assetRun findings
  have resolves : resolutionOf blocks pathPredicate = some resolution := by
    rw [detect_path] at findings
    simpa using findings
  have unfused : ¬ Fused (resolutionOf blocks) (detect pathTokens) pathTokens := by
    have unnumbered : ∀ token ∈ pathTokens, token.lexeme.isNumber = false := by decide +kernel
    rintro ⟨token, member, number, -⟩
    simp [unnumbered token member] at number
  have unescaped : ∀ p ∈ detect pathTokens, ∀ found, resolutionOf blocks p = some found →
      ∀ key ∈ found.keys, isUnescaped key := by
    rw [detect_path]
    intro p inside found same key member
    obtain rfl := List.mem_singleton.1 inside
    obtain rfl := Option.some.inj (resolves.symm.trans same)
    obtain rfl := List.mem_singleton.1 member
    decide
  obtain ⟨outcome, resolved, planned, held, exactly⟩ := tokenize_resolved_plain_iff read_path.1
    read_path.2.1 read_path.2.2.1 isName_assetRelations looked
  have failed : ∃ error, tokenizeAs .escaped resolved = .error error := by
    obtain ⟨again, same, text⟩ := lookup_path looked resolves
    obtain ⟨rfl, -⟩ := Prod.mk.inj (Except.ok.inj (planned.symm.trans same))
    obtain rfl := Option.some.inj (held.symm.trans text)
    exact ⟨.unterminated 28, by decide +kernel⟩
  obtain ⟨read', read, tokens⟩ := exactly.2 ⟨unfused, .inr ⟨unescaped, failed⟩⟩
  exact ⟨blocks, next, looked, findings, outcome, resolved, read', planned, held, read, tokens⟩

theorem resolvedLexemes_single {find : Predicate → Option Resolution} {p : Predicate}
    {resolution : Resolution} (found : find p = some resolution) (tokens : List Token) :
    resolvedLexemes find [p] tokens = resolvedLexemes (fun _ => some resolution) [p] tokens := by
  simp [resolvedLexemes, spliceLexemes, found]

def quotedFilter : Text :=
  "path=\"C:\\\" and (assetnum=\"a\\\"b\")".toList

def quotedTokens : List Token :=
  place 0 (scan .escaped quotedFilter).1

-- The key is written with its quote escaped, and so the resolved filter can be read with escapes:
-- the first literal ends where that of the key was to start.
theorem tokenize_resolved_path_quoted :
    ∃ blocks next outcome,
      assetRun pathFilter ["a\"b".toList] (detect pathTokens) = .ok (blocks, next) ∧
      planWith Script.channel assetBackend assetRelations (assetCall pathFilter)
        (assetScript ["a\"b".toList]) = .ok (outcome, next) ∧
      outcome.params.lookup whereParam = some quotedFilter ∧
      tokenize quotedFilter = .ok quotedTokens ∧
      quotedTokens.map Token.lexeme =
        [.name "path".toList, .comparison .equal,
          .literal "C:\" and (assetnum=".toList .double, .name "a".toList, .other '\\',
          .literal "b".toList .double, .closing] ∧
      resolvedLexemes (resolutionOf blocks) (detect pathTokens) pathTokens =
        [.name "path".toList, .comparison .equal, .literal "C:\\".toList .double,
          .name "and".toList, .opening, .name "assetnum".toList, .comparison .equal,
          .literal "a\"b".toList .double, .closing] ∧
      ¬ ∃ read', tokenize quotedFilter = .ok read' ∧
        read'.map Token.lexeme =
          resolvedLexemes (resolutionOf blocks) (detect pathTokens) pathTokens := by
  let resolution : Resolution := ⟨"assetnum".toList, ["a\"b".toList]⟩
  have findings : assetFindings pathFilter ["a\"b".toList] (detect pathTokens) =
      some [some resolution] := by
    decide +kernel
  obtain ⟨blocks, next, looked, findings⟩ := exists_assetRun findings
  have resolves : resolutionOf blocks pathPredicate = some resolution := by
    rw [detect_path] at findings
    simpa using findings
  have written : splice pathFilter [⟨pathPredicate.span, resolution.text⟩] = quotedFilter := by
    decide +kernel
  obtain ⟨outcome, planned, held⟩ := lookup_path looked resolves
  rw [written] at held
  have read : tokenize quotedFilter = .ok quotedTokens := by decide +kernel
  have expected : resolvedLexemes (resolutionOf blocks) (detect pathTokens) pathTokens =
      [.name "path".toList, .comparison .equal, .literal "C:\\".toList .double,
        .name "and".toList, .opening, .name "assetnum".toList, .comparison .equal,
        .literal "a\"b".toList .double, .closing] := by
    rw [detect_path, resolvedLexemes_single resolves]
    decide +kernel
  refine ⟨blocks, next, outcome, looked, planned, held, read, by decide +kernel, expected, ?_⟩
  rintro ⟨read', again, same⟩
  obtain rfl : quotedTokens = read' := Except.ok.inj (read.symm.trans again)
  rw [expected] at same
  exact absurd same (by decide +kernel)

end Prejoin
