import Prejoin.Proofs.Readback
import Prejoin.Proofs.Readings
import Prejoin.Proofs.Trace

set_option autoImplicit false

namespace Prejoin

theorem exists_stop_of_spelled {p : Predicate} {offset : Nat} {pieces : List Piece}
    {reading : Reading} {after : Text} (spelled : p.SpelledBy offset pieces)
    (scanned : Scanned reading pieces after) :
    isName p.relation ∧
      ∃ c rest, joined pieces = p.relation ++ c :: rest ∧ (isBlank c ∨ c = '.') := by
  obtain @⟨⟨source, _⟩, last, middle, sign, rfl, comparison, -, -, -⟩ := spelled
  obtain ⟨rfl, named⟩ := reads_name_iff.1 scanned.1
  refine ⟨named, ?_⟩
  cases middle with
  | nil => cases comparison
  | cons piece more =>
    have reads : piece.Reads reading := scanned.2.2.1
    obtain ⟨c, rest, same⟩ := List.exists_cons_of_ne_nil reads.source_ne_nil
    refine ⟨c, rest ++ joined (more ++ [last]), by simp [same], ?_⟩
    cases found : piece.lexeme with
    | none => exact .inl ((lexeme_eq_none_iff reads same).1 found)
    | some lexeme =>
      rw [lexemes_cons found] at comparison
      obtain ⟨rfl, -⟩ := List.cons.inj comparison
      rcases source_eq_of_reads reads found with written | ⟨_, _, literal⟩
      · rw [same] at written
        exact .inr (List.cons.inj (Option.some.inj written)).1.symm
      · cases literal

theorem stop_eq_of_append {p : Char → Bool} {first second s t : Text} {c d : Char}
    (left : ∀ x ∈ first, p x) (right : ∀ x ∈ second, p x) (stop : p c = false)
    (stop' : p d = false) (same : first ++ c :: s = second ++ d :: t) : c = d := by
  have ends := takeWhile_append_stop left (t := c :: s) (by simpa using stop)
  have ends' := takeWhile_append_stop right (t := d :: t) (by simpa using stop')
  obtain rfl : second = first := by rw [← ends, ← ends', same]
  exact (List.cons.inj (List.append_cancel_left same)).1

-- Behind the first name of a written comparison stands an equals sign, behind that of a predicate a
-- dot or a blank.
theorem text_ne_of_spelled {p : Predicate} {offset : Nat} {pieces : List Piece} {reading : Reading}
    {after : Text} {resolution : Resolution} (named : isName resolution.field)
    (spelled : p.SpelledBy offset pieces) (scanned : Scanned reading pieces after) (s t : Text) :
    resolution.text ++ s ≠ joined pieces ++ t := by
  obtain ⟨relation, c, rest, stands, stop⟩ := exists_stop_of_spelled spelled scanned
  rw [stands]
  have unequal : c ≠ '=' := by
    rintro rfl
    exact absurd stop (by decide)
  have stops : continuesName c = false := by
    rcases stop with blank | rfl
    · by_contra continues
      have solid := isBlank_of_continuesName (by simpa using continues)
      simp [blank] at solid
    · decide
  unfold Resolution.text replacementFor
  split
  next =>
    intro same
    have texts : resolution.field ++ '=' :: (quoteLiteral unmatchedKey ++ s) =
        p.relation ++ c :: (rest ++ t) := by
      simpa [noMatch, comparison] using same
    exact unequal (stop_eq_of_append (fun _ => continuesName_of_isName named)
      (fun _ => continuesName_of_isName relation) (by decide) stops texts).symm
  next =>
    obtain ⟨d, word, name, starts, -⟩ := isName_iff.1 relation
    rw [name, disjunction]
    intro same
    obtain ⟨rfl, -⟩ := List.cons.inj same
    exact absurd starts (by decide)

theorem Arranged.joined_resolved_iff {afterDot : Bool} {offset : Nat} {parts : List Part}
    {reading : Reading} {find : Predicate → Option Resolution}
    (arranged : Arranged afterDot offset parts) (scanned : Scanned reading (piecesOf parts) [])
    (named : ∀ p resolution, find p = some resolution → isName resolution.field) :
    joined (resolvedPieces find parts) = joined (piecesOf parts) ↔
      ∀ p ∈ predicatesOf parts, find p = none := by
  induction arranged with
  | nil => simp
  | blank blank tail ih | token found alone tail ih =>
    have rest := ih scanned.2.2
    simpa using rest
  | @clause offset p pieces rest spelled tail ih =>
    rw [piecesOf_clause, scanned_append] at scanned
    have rest := ih scanned.2
    rw [piecesOf_clause, joined_append, predicatesOf_clause, List.forall_mem_cons]
    cases found : find p with
    | none => simpa [resolvedPieces_kept found] using rest
    | some resolution =>
      have other := text_ne_of_spelled (named p resolution found) spelled scanned.1
      rw [resolvedPieces_replaced found, joined_append, joined_clausePieces]
      simpa [Resolution.text] using other _ _

theorem splice_eq_self_iff {filter : Text} {predicates : List Predicate}
    {find : Predicate → Option Resolution} (found : detectIn filter = .ok predicates)
    (named : ∀ p resolution, find p = some resolution → isName resolution.field) :
    splice filter (substitutionsBy find predicates) = filter ↔
      ∀ p ∈ predicates, find p = none := by
  obtain ⟨reading, parts, layout, rfl⟩ := exists_layout_of_detectIn found
  have resolved := layout.arranged.joined_resolved_iff layout.scanned named
  rwa [layout.source, ← layout.splice] at resolved

def Step.isReplaced : Step → Bool
  | .replaced .. => true
  | _ => false

theorem any_isReplaced_iff {filter : Text} {predicates : List Predicate} {blocks : List Block}
    (answers : Answers blocks predicates) (call : Call) :
    (call.planOf (eventsOf filter predicates blocks)).steps.any Step.isReplaced ↔
      ∃ p ∈ predicates, resolutionOf blocks p ≠ none := by
  rw [List.any_eq_true]
  constructor
  · rintro ⟨step, member, replaced⟩
    cases step with
    | replaced relation field before after occurrences =>
      obtain ⟨block, known, resolution, answer, -⟩ := (mem_steps_iff call).1 member
      refine ⟨block.predicate, answers.mem_predicates known, ?_⟩
      rw [answers.resolutionOf_eq known (Predicate.sameClause_refl _), answer]
      simp
    | _ => cases replaced
  · rintro ⟨p, -, resolves⟩
    obtain ⟨resolution, found⟩ := Option.ne_none_iff_exists'.1 resolves
    obtain ⟨block, known, -, answer⟩ := exists_block_of_resolutionOf found
    exact ⟨_, (mem_steps_iff call).2 ⟨block, known, resolution, answer, rfl, rfl, rfl, rfl, rfl⟩,
      rfl⟩

theorem lookup_conclude_other {name : Text} (other : name ≠ whereParam) (call : Call)
    (filter : Text) (predicates : List Predicate) (blocks : List Block) :
    (call.conclude filter predicates blocks).params.lookup name = call.params.lookup name := by
  unfold Call.conclude
  cases resolvedFilter filter blocks with
  | error error => rfl
  | ok resolved => by_cases same : resolved = filter <;> simp [same, lookup_put, other]

theorem filter?_eq_none_iff {call : Call} :
    call.filter? = none ↔
      ∀ filter, call.params.lookup whereParam = some filter → isBlankText filter := by
  simp [Call.filter?]

/-- However the requests are answered, no parameter but the filter changes, and the filter changes
just if something was put in place of a clause. -/
theorem changed_iff_replaced (answers : Nat → Answer) (backend : Backend)
    (relations : Dict Relation) (call : Call) :
    ∃ outcome sent,
      planWith (.inTurn answers) backend relations call [] = .ok (outcome, sent) ∧
      (∀ name, name ≠ whereParam → outcome.params.lookup name = call.params.lookup name) ∧
      (call.params.lookup whereParam = none → outcome.params.lookup whereParam = none) ∧
      ((∀ filter, call.params.lookup whereParam = some filter → isBlankText filter) →
        outcome = ⟨.start call.caller.root call.caller.correlationId, call.params⟩ ∧
          outcome.plan.mode = .none ∧ sent = []) ∧
      (∀ filter error, call.filter? = some filter → tokenize filter = .error error →
        outcome = ⟨{ Plan.start call.caller.root call.caller.correlationId with
            problems := [⟨none, (PlanningError.scan error).message⟩] }, call.params⟩ ∧
          outcome.plan.mode = .error ∧ sent = []) ∧
      ∀ filter tokens, call.filter? = some filter → tokenize filter = .ok tokens →
        (∀ entry ∈ relations, isName entry.2.rootJoinField) →
          (outcome.params.lookup whereParam ≠ some filter ↔
            outcome.plan.steps.any Step.isReplaced) := by
  cases present : call.filter? with
  | none =>
    refine ⟨_, _, planWith_absent _ backend relations [] present, fun _ _ => rfl, id,
      fun _ => ⟨rfl, rfl, rfl⟩, ?_, ?_⟩ <;> simp
  | some filter =>
    have stands := lookup_filter present
    have solid : ¬ ∀ filter, call.params.lookup whereParam = some filter → isBlankText filter := by
      rw [← filter?_eq_none_iff, present]
      simp
    cases read : tokenize filter with
    | error error =>
      have unread := detectIn_of_error read
      refine ⟨_, _, planWith_unreadable _ backend relations [] present unread, fun _ _ => rfl, id,
        fun blank => absurd blank solid, ?_, ?_⟩
      · rintro _ other ⟨⟩ again
        obtain rfl : error = other := Except.error.inj (read.symm.trans again)
        exact ⟨rfl, rfl, rfl⟩
      · rintro _ tokens ⟨⟩ again
        cases read.symm.trans again
    | ok tokens =>
      have found := detectIn_of_tokenize read
      have known := answers_blocksFrom answers backend call relations (detect tokens)
      refine ⟨_, _, planWith_inTurn present found answers backend relations,
        fun name other => lookup_conclude_other other call filter _ _,
        fun absent => absurd stands (by simp [absent]), fun blank => absurd blank solid, ?_, ?_⟩
      · rintro _ error ⟨⟩ again
        cases read.symm.trans again
      · rintro _ _ ⟨⟩ - joins
        have looked := resolveAll_inTurn answers call.caller.tenant
          (targets backend call relations (detect tokens)) []
        have same := splice_eq_self_iff found (isName_field joins looked)
        rw [lookup_conclude present found known, plan_conclude found known,
          any_isReplaced_iff known, ne_eq, Option.some_inj]
        simpa using not_congr same

def plantBlocks : List Block :=
  blocksFrom plantAnswers 0
    (targets assetBackend (assetCall plantFilter) plantRelations (detect plantTokens))

theorem answered_plant :
    (∀ entry ∈ plantRelations, isName entry.2.rootJoinField) ∧
      (assetCall "x = '".toList).filter? = some "x = '".toList ∧
      tokenize "x = '".toList = .error (.unterminated 4) ∧
      ∃ p ∈ detect plantTokens, resolutionOf plantBlocks p ≠ none := by
  decide +kernel

theorem changed_iff_replaced_plant :
    (∃ outcome sent,
      planWith (.inTurn plantAnswers) assetBackend plantRelations (assetCall " ".toList) [] =
        .ok (outcome, sent) ∧ outcome.plan.mode = .none ∧ sent = []) ∧
    (∃ outcome sent,
      planWith (.inTurn plantAnswers) assetBackend plantRelations (assetCall "x = '".toList) [] =
        .ok (outcome, sent) ∧ outcome.plan.mode = .error ∧ sent = []) ∧
    ∃ outcome sent,
      planWith (.inTurn plantAnswers) assetBackend plantRelations (assetCall plantFilter) [] =
        .ok (outcome, sent) ∧ outcome.plan.steps.any Step.isReplaced ∧
      outcome.params.lookup whereParam ≠ some plantFilter := by
  obtain ⟨named, broken, unread, resolved⟩ := answered_plant
  obtain ⟨filter, read, -⟩ := read_plant
  refine ⟨?_, ?_, ?_⟩
  · obtain ⟨outcome, sent, planned, -, -, blank, -⟩ :=
      changed_iff_replaced plantAnswers assetBackend plantRelations (assetCall " ".toList)
    exact ⟨outcome, sent, planned, (blank (by decide)).2⟩
  · obtain ⟨outcome, sent, planned, -, -, -, unreadable, -⟩ :=
      changed_iff_replaced plantAnswers assetBackend plantRelations (assetCall "x = '".toList)
    exact ⟨outcome, sent, planned, (unreadable _ _ broken unread).2⟩
  · obtain ⟨outcome, sent, planned, -, -, -, -, changed⟩ :=
      changed_iff_replaced plantAnswers assetBackend plantRelations (assetCall plantFilter)
    have run := planWith_inTurn filter detectIn_plant plantAnswers assetBackend plantRelations
    have known := answers_blocksFrom plantAnswers assetBackend (assetCall plantFilter)
      plantRelations (detect plantTokens)
    have replaced : outcome.plan.steps.any Step.isReplaced := by
      obtain ⟨rfl, -⟩ := Prod.mk.inj (Except.ok.inj (planned.symm.trans run))
      rw [plan_conclude detectIn_plant known]
      exact (any_isReplaced_iff known _).2 resolved
    exact ⟨outcome, sent, planned, replaced,
      (changed _ _ filter (tokenize_eq_ok_iff.2 (.inl read)) named).2 replaced⟩

end Prejoin
