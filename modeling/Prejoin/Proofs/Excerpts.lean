import Prejoin.Proofs.Effect

set_option autoImplicit false

namespace Prejoin

def Predicate.alone (p : Predicate) (text : Text) : Predicate :=
  { p with span := ⟨0, byteLength text⟩ }

theorem Predicate.SpelledBy.alone {p : Predicate} {offset : Nat} {pieces : List Piece}
    (spelled : p.SpelledBy offset pieces) : (p.alone (joined pieces)).SpelledBy 0 pieces := by
  obtain ⟨relation, comparison, operator, value, -⟩ := spelled
  exact .intro relation comparison operator value (by simp [Predicate.alone])

theorem Predicate.SpelledBy.isLayout {p : Predicate} {offset : Nat} {pieces : List Piece}
    {reading : Reading} (spelled : p.SpelledBy offset pieces)
    (scanned : Scanned reading pieces []) :
    IsLayout reading (joined pieces) [.clause (p.alone (joined pieces)) pieces] where
  source := by simp
  scanned := by simpa using scanned
  arranged := .clause spelled.alone .nil

theorem detectIn_joined {p : Predicate} {offset : Nat} {pieces : List Piece}
    (spelled : p.SpelledBy offset pieces) (scanned : Scanned .escaped pieces []) :
    detectIn (joined pieces) = .ok [p.alone (joined pieces)] := by
  have layout := spelled.isLayout scanned
  have read : tokenizeAs .escaped (joined pieces) = .ok (place 0 (piecesOf _)) :=
    tokenizeAs_eq_ok_iff.2 ⟨_, layout.source, layout.scanned, rfl⟩
  rw [detectIn_of_tokenize (tokenize_eq_ok_iff.2 (.inl read)), layout.detect]
  rfl

theorem exists_excerpt {filter : Text} {tokens : List Token}
    (read : tokenizeAs .escaped filter = .ok tokens) {p : Predicate} (member : p ∈ detect tokens) :
    ∃ text, p.span.slice filter = some text ∧ detectIn text = .ok [p.alone text] := by
  obtain ⟨parts, layout, rfl⟩ := exists_layout read
  rw [layout.detect] at member
  obtain ⟨_, pieces, slice, spelled, scanned⟩ := layout.slice member
  exact ⟨joined pieces, slice, detectIn_joined spelled scanned⟩

inductive Block.Replaces (filter : Text) (block : Block) : List Step → Step → Prop
  | intro (front : List Step) (keys : Keys) :
      Block.Replaces filter block
        (front ++ [.prefetch block.predicate.relation block.predicate.field
            block.predicate.operator block.target.query,
          .fetched block.predicate.relation block.predicate.field keys.returned keys.kept.length
            keys.truncated])
        (.replaced block.predicate.relation block.predicate.field
          ((block.predicate.span.slice filter).getD []) (block.target.replacement keys)
          block.target.group.spans.length)

theorem Block.Replaces.prepend {filter : Text} {block : Block} {earlier : List Step} {step : Step}
    (replaces : block.Replaces filter earlier step) (first : List Step) :
    block.Replaces filter (first ++ earlier) step := by
  obtain ⟨front, keys⟩ := replaces
  rw [← List.append_assoc]
  exact .intro (first ++ front) keys

theorem steps_looked (filter : Text) (target : Target) (keys : Keys) :
    Block.steps filter ⟨target, .ok keys⟩ =
      [.prefetch target.group.predicate.relation target.group.predicate.field
          target.group.predicate.operator target.query,
        .fetched target.group.predicate.relation target.group.predicate.field keys.returned
          keys.kept.length keys.truncated,
        .replaced target.group.predicate.relation target.group.predicate.field
          ((target.group.predicate.span.slice filter).getD []) (target.replacement keys)
          target.group.spans.length] :=
  rfl

theorem replaces_of_steps {filter : Text} {block : Block} {earlier later : List Step} {step : Step}
    (told : block.steps filter = earlier ++ step :: later) (replaced : step.isReplaced) :
    block.Replaces filter earlier step := by
  obtain ⟨target, outcome⟩ := block
  cases outcome with
  | error error =>
    have inside : step ∈ Block.steps filter ⟨target, .error error⟩ := by simp [told]
    rw [steps_failed, List.mem_pair] at inside
    rcases inside with rfl | rfl <;> cases replaced
  | ok keys =>
    rw [steps_looked] at told
    match earlier with
    | [] =>
      obtain ⟨rfl, -⟩ := List.cons.inj told
      cases replaced
    | [announced] =>
      simp only [List.cons_append, List.nil_append, List.cons.injEq] at told
      obtain ⟨-, rfl, -⟩ := told
      cases replaced
    | [announced, fetched] =>
      simp only [List.cons_append, List.nil_append, List.cons.injEq] at told
      obtain ⟨rfl, rfl, rfl, -⟩ := told
      exact .intro [] keys
    | _ :: _ :: _ :: more => simp at told

theorem exists_block_of_stepsOf {filter : Text} {blocks : List Block} {earlier later : List Step}
    {step : Step} (told : stepsOf filter blocks = earlier ++ step :: later)
    (replaced : step.isReplaced) : ∃ block ∈ blocks, block.Replaces filter earlier step := by
  induction blocks generalizing earlier with
  | nil => simp [stepsOf] at told
  | cons block rest ih =>
    have split : stepsOf filter (block :: rest) = block.steps filter ++ stepsOf filter rest :=
      List.flatMap_cons
    have further (others : List Step) (tail : stepsOf filter rest = others ++ step :: later) :
        ∃ block' ∈ block :: rest, block'.Replaces filter (block.steps filter ++ others) step := by
      obtain ⟨found, inside, replaces⟩ := ih tail
      exact ⟨found, List.mem_cons_of_mem _ inside, replaces.prepend _⟩
    rw [split] at told
    rcases List.append_eq_append_iff.1 told with ⟨others, rfl, tail⟩ | ⟨others, own, tail⟩
    · exact further others tail
    · cases others with
      | nil =>
        rw [List.append_nil] at own
        simpa [own] using further [] tail.symm
      | cons first more =>
        obtain ⟨rfl, -⟩ := List.cons.inj tail
        exact ⟨block, List.mem_cons_self, replaces_of_steps own replaced⟩

/-- A clause reads the same outside its filter, and what a step says has been replaced is the
clause that was looked up just before it. -/
theorem detectIn_excerpt {filter : Text} {tokens : List Token}
    (read : tokenizeAs .escaped filter = .ok tokens) :
    detectIn filter = .ok (detect tokens) ∧
      (∀ p ∈ detect tokens,
        ∃ text, p.span.slice filter = some text ∧ detectIn text = .ok [p.alone text]) ∧
      ∀ {σ ε : Type} (channel : Channel σ ε) (backend : Backend) (relations : Dict Relation)
        (call : Call) (state next : σ) (outcome : Outcome), call.filter? = some filter →
        planWith channel backend relations call state = .ok (outcome, next) →
        ∀ earlier relation field before after occurrences later,
          outcome.plan.steps =
              earlier ++ .replaced relation field before after occurrences :: later →
            ∃ p ∈ detect tokens, ∃ (known : Relation) (front : List Step) (keys : Keys),
              relations.lookup (foldCase p.relation) = some known ∧
              earlier = front ++
                [.prefetch p.relation p.field p.operator (Query.build p known call.site),
                  .fetched p.relation p.field keys.returned keys.kept.length keys.truncated] ∧
              relation = p.relation ∧ field = p.field ∧ p.span.slice filter = some before ∧
              detectIn before = .ok [p.alone before] := by
  have found := detectIn_of_tokenize (tokenize_eq_ok_iff.2 (.inl read))
  refine ⟨found, fun p member => exists_excerpt read member, ?_⟩
  intro σ ε channel backend relations call state next outcome present planned earlier relation field
    before after occurrences later told
  obtain ⟨blocks, looked, rfl⟩ := exists_blocks_of_planWith present found planned
  have answers := answers_of_resolveAll looked
  rw [plan_conclude found answers, planOf_eventsOf] at told
  obtain ⟨block, inside, replaces⟩ := exists_block_of_stepsOf told rfl
  obtain ⟨text, slice, alone⟩ := exists_excerpt read (answers.mem_predicates inside)
  have known := exists_relation_of_mem_blocks looked inside
  have query := (query_of_mem_targets (target_of_mem_blocks looked inside)).1
  cases replaces with
  | intro front keys =>
    rw [slice, Option.getD_some, query]
    exact ⟨block.predicate, answers.mem_predicates inside, block.target.relation, front, keys,
      known, rfl, rfl, rfl, slice, alone⟩

def asideFilter : Text :=
  "site.area.code=\"N\" and (Asset . note LIKE 'it\\'s \\\\ok')".toList

def asideTokens : List Token :=
  place 0 (scan .escaped asideFilter).1

theorem read_aside :
    (assetCall asideFilter).filter? = some asideFilter ∧
      tokenizeAs .escaped asideFilter = .ok asideTokens ∧
      (detect asideTokens).map Predicate.value = ["it's \\ok".toList] ∧
      ((planWith (.inTurn plantAnswers) assetBackend assetRelations (assetCall asideFilter)
        []).toOption.map fun run => run.1.plan.steps.map Step.isReplaced) =
        some [false, false, true] := by
  decide +kernel

theorem exists_replaced_aside :
    ∃ outcome sent earlier relation field before after occurrences,
      planWith (.inTurn plantAnswers) assetBackend assetRelations (assetCall asideFilter) [] =
        .ok (outcome, sent) ∧
      outcome.plan.steps = earlier ++ [.replaced relation field before after occurrences] := by
  obtain ⟨-, -, -, told⟩ := read_aside
  cases planned : planWith (.inTurn plantAnswers) assetBackend assetRelations
      (assetCall asideFilter) [] with
  | error fault => nomatch fault
  | ok run =>
    rw [planned] at told
    have kinds : run.1.plan.steps.map Step.isReplaced = [false, false] ++ [true] :=
      Option.some.inj told
    obtain ⟨earlier, others, steps, -, last⟩ := List.map_eq_append_iff.1 kinds
    obtain ⟨step, rfl, replaced⟩ := List.map_eq_singleton_iff.1 last
    cases step with
    | replaced relation field before after occurrences =>
      exact ⟨run.1, run.2, earlier, relation, field, before, after, occurrences, rfl, steps⟩
    | _ => cases replaced

theorem detectIn_excerpt_aside :
    tokenizeAs .escaped asideFilter = .ok asideTokens ∧
      (∃ p ∈ detect asideTokens, p.value = "it's \\ok".toList ∧
        ∃ text, p.span.slice asideFilter = some text ∧ detectIn text = .ok [p.alone text]) ∧
      ∃ outcome sent earlier relation field before after occurrences,
        planWith (.inTurn plantAnswers) assetBackend assetRelations (assetCall asideFilter) [] =
          .ok (outcome, sent) ∧
        outcome.plan.steps = earlier ++ [.replaced relation field before after occurrences] ∧
        ∃ p ∈ detect asideTokens, detectIn before = .ok [p.alone before] := by
  obtain ⟨present, read, values, -⟩ := read_aside
  obtain ⟨outcome, sent, earlier, relation, field, before, after, occurrences, planned, steps⟩ :=
    exists_replaced_aside
  obtain ⟨-, excerpts, replaced⟩ := detectIn_excerpt read
  obtain ⟨p, found, value⟩ := List.map_eq_singleton_iff.1 values
  have member : p ∈ detect asideTokens := by simp [found]
  obtain ⟨q, inside, -, -, -, -, -, -, -, -, alone⟩ :=
    replaced (.inTurn plantAnswers) assetBackend assetRelations (assetCall asideFilter) [] sent
      outcome present planned earlier relation field before after occurrences [] steps
  exact ⟨read, ⟨p, member, value, excerpts p member⟩, outcome, sent, earlier, relation, field,
    before, after, occurrences, planned, steps, q, inside, alone⟩

end Prejoin
