import Prejoin.Planning
import Prejoin.Proofs.Grouping
import Prejoin.Proofs.Splice

set_option autoImplicit false

namespace Prejoin

structure Resolution where
  field : Text
  keys : List Text
deriving DecidableEq, Repr

def Resolution.text (resolution : Resolution) : Text :=
  replacementFor resolution.field resolution.keys

def Block.predicate (block : Block) : Predicate :=
  block.target.group.predicate

def Block.resolution? (block : Block) : Option Resolution :=
  match block.outcome with
  | .error _ => none
  | .ok keys => some ⟨block.target.relation.rootJoinField, keys.kept⟩

def resolutionOf (blocks : List Block) (p : Predicate) : Option Resolution :=
  (blocks.find? fun block => block.predicate.sameClause p).bind Block.resolution?

def substitutionsBy (find : Predicate → Option Resolution) (predicates : List Predicate) :
    List Substitution :=
  predicates.filterMap fun p => (find p).map fun resolution => ⟨p.span, resolution.text⟩

structure Answers (blocks : List Block) (predicates : List Predicate) : Prop where
  distinct : blocks.Pairwise fun a b => a.predicate.sameClause b.predicate = false
  first : ∀ b ∈ blocks, predicates.find? b.predicate.sameClause = some b.predicate
  spans : ∀ b ∈ blocks,
    b.target.group.spans = (predicates.filter b.predicate.sameClause).map Predicate.span

theorem exists_of_resolveAll_cons {σ ε : Type} {channel : Channel σ ε} {tenant : Text}
    {target : Target} {rest : List Target} {state next : σ} {blocks : List Block}
    (looked : resolveAll channel tenant (target :: rest) state = .ok (blocks, next)) :
    ∃ outcome after later,
      resolve channel tenant target.relation target.request? state = .ok (outcome, after) ∧
      resolveAll channel tenant rest after = .ok (later, next) ∧
      blocks = ⟨target, outcome⟩ :: later := by
  rw [resolveAll] at looked
  split at looked
  next => cases looked
  next outcome after first =>
    split at looked
    next => cases looked
    next later final others =>
      obtain ⟨rfl, rfl⟩ := Prod.mk.inj (Except.ok.inj looked)
      exact ⟨outcome, after, later, first, others, rfl⟩

theorem resolveAll_targets {σ ε : Type} {channel : Channel σ ε} {tenant : Text}
    {targets : List Target} {state next : σ} {blocks : List Block}
    (looked : resolveAll channel tenant targets state = .ok (blocks, next)) :
    blocks.map Block.target = targets := by
  induction targets generalizing state blocks with
  | nil =>
    obtain ⟨rfl, -⟩ := Prod.mk.inj (Except.ok.inj looked)
    rfl
  | cons target rest ih =>
    obtain ⟨outcome, after, later, -, others, rfl⟩ := exists_of_resolveAll_cons looked
    rw [List.map_cons, ih others]

theorem targets_groups_sublist (backend : Backend) (call : Call) (relations : Dict Relation)
    (predicates : List Predicate) :
    ((targets backend call relations predicates).map Target.group).Sublist
      (Group.ofPredicates predicates) := by
  unfold targets
  induction Group.ofPredicates predicates with
  | nil => simp
  | cons group rest ih =>
    cases found : Target.ofGroup? backend call relations group with
    | none => simpa [found] using ih.cons group
    | some target =>
      have same : target.group = group := by
        obtain ⟨relation, -, rfl⟩ := Option.map_eq_some_iff.1 found
        rfl
      simpa [found, same] using ih

theorem exists_relation_of_mem_targets {backend : Backend} {call : Call}
    {relations : Dict Relation} {predicates : List Predicate} {target : Target}
    (member : target ∈ targets backend call relations predicates) :
    relations.lookup (foldCase target.group.predicate.relation) = some target.relation := by
  obtain ⟨group, -, found⟩ := List.mem_filterMap.1 member
  obtain ⟨relation, known, rfl⟩ := Option.map_eq_some_iff.1 found
  exact known

theorem query_of_mem_targets {backend : Backend} {call : Call} {relations : Dict Relation}
    {predicates : List Predicate} {target : Target}
    (member : target ∈ targets backend call relations predicates) :
    target.query = Query.build target.group.predicate target.relation call.site ∧
      target.request? =
        target.query.request? backend call.caller target.group.predicate.relation := by
  obtain ⟨group, -, found⟩ := List.mem_filterMap.1 member
  obtain ⟨relation, -, rfl⟩ := Option.map_eq_some_iff.1 found
  exact ⟨rfl, rfl⟩

section

variable {σ ε : Type} {channel : Channel σ ε} {backend : Backend} {call : Call}
  {relations : Dict Relation} {predicates : List Predicate} {state next : σ} {blocks : List Block}

theorem answers_of_resolveAll (looked : resolveAll channel call.caller.tenant
    (targets backend call relations predicates) state = .ok (blocks, next)) :
    Answers blocks predicates := by
  have partitions := Group.partitions_ofPredicates predicates
  have sublist := targets_groups_sublist backend call relations predicates
  rw [← resolveAll_targets looked, List.map_map] at sublist
  have group (b : Block) (member : b ∈ blocks) :
      b.target.group ∈ Group.ofPredicates predicates :=
    sublist.subset (List.mem_map_of_mem (f := Target.group ∘ Block.target) member)
  constructor
  case distinct =>
    have apart := partitions.distinct.sublist (sublist.map Group.predicate)
    rw [List.map_map] at apart
    exact List.pairwise_map.1 apart
  case first => exact fun b member => partitions.first _ (group b member)
  case spans => exact fun b member => partitions.spans _ (group b member)

theorem target_of_mem_blocks (looked : resolveAll channel call.caller.tenant
    (targets backend call relations predicates) state = .ok (blocks, next))
    {block : Block} (member : block ∈ blocks) :
    block.target ∈ targets backend call relations predicates := by
  rw [← resolveAll_targets looked]
  exact List.mem_map_of_mem member

theorem exists_relation_of_mem_blocks (looked : resolveAll channel call.caller.tenant
    (targets backend call relations predicates) state = .ok (blocks, next))
    {block : Block} (member : block ∈ blocks) :
    relations.lookup (foldCase block.predicate.relation) = some block.target.relation :=
  exists_relation_of_mem_targets (target_of_mem_blocks looked member)

end

theorem resolutionOf_congr (blocks : List Block) {p q : Predicate} (same : p.sameClause q) :
    resolutionOf blocks p = resolutionOf blocks q := by
  have equal (b : Block) : b.predicate.sameClause p = b.predicate.sameClause q := by
    rw [Predicate.sameClause_comm, Predicate.sameClause_congr same, Predicate.sameClause_comm]
  simp only [resolutionOf, equal]

theorem exists_block_of_resolutionOf {blocks : List Block} {p : Predicate} {resolution : Resolution}
    (found : resolutionOf blocks p = some resolution) :
    ∃ block ∈ blocks, block.predicate.sameClause p ∧ block.resolution? = some resolution := by
  obtain ⟨block, first, answer⟩ := Option.bind_eq_some_iff.1 found
  exact ⟨block, List.mem_of_find?_eq_some first, by simpa using List.find?_some first, answer⟩

namespace Answers

variable {blocks : List Block} {predicates : List Predicate}

theorem sublist (answers : Answers blocks predicates) {some : List Block}
    (within : some.Sublist blocks) : Answers some predicates where
  distinct := answers.distinct.sublist within
  first b member := answers.first b (within.subset member)
  spans b member := answers.spans b (within.subset member)

theorem mem_predicates (answers : Answers blocks predicates) {b : Block} (member : b ∈ blocks) :
    b.predicate ∈ predicates :=
  List.mem_of_find?_eq_some (answers.first b member)

theorem split (answers : Answers blocks predicates) {b : Block} (member : b ∈ blocks) :
    ∃ before after, blocks = before ++ b :: after ∧
      (∀ a ∈ before, a.predicate.sameClause b.predicate = false) ∧
      ∀ a ∈ after, a.predicate.sameClause b.predicate = false := by
  obtain ⟨before, after, rfl⟩ := List.append_of_mem member
  have distinct := answers.distinct
  rw [List.pairwise_append, List.pairwise_cons] at distinct
  refine ⟨before, after, rfl, fun a inside => distinct.2.2 a inside b List.mem_cons_self, ?_⟩
  intro a inside
  rw [Predicate.sameClause_comm]
  exact distinct.2.1.1 a inside

theorem resolutionOf_eq (answers : Answers blocks predicates) {b : Block} (member : b ∈ blocks)
    {p : Predicate} (same : b.predicate.sameClause p) :
    resolutionOf blocks p = b.resolution? := by
  rw [← resolutionOf_congr blocks same]
  obtain ⟨before, after, rfl, others, -⟩ := answers.split member
  have missing : before.find? (fun a => a.predicate.sameClause b.predicate) = none := by
    simpa using others
  simp [resolutionOf, List.find?_append, missing]

theorem substitutions_eq (answers : Answers blocks predicates) {b : Block} (member : b ∈ blocks) :
    b.substitutions =
      substitutionsBy (resolutionOf blocks) (predicates.filter b.predicate.sameClause) := by
  have own : substitutionsBy (resolutionOf blocks) (predicates.filter b.predicate.sameClause) =
      substitutionsBy (fun _ => b.resolution?) (predicates.filter b.predicate.sameClause) := by
    apply List.filterMap_congr
    intro p inside
    rw [answers.resolutionOf_eq member (List.mem_filter.1 inside).2]
  rw [own]
  unfold Block.substitutions substitutionsBy
  cases found : b.outcome with
  | error error => simp [Block.resolution?, found]
  | ok keys =>
    simp [answers.spans b member, Block.resolution?, found, Resolution.text, Target.replacement]

theorem substitutions_perm (answers : Answers blocks predicates) :
    (blocks.flatMap Block.substitutions).Perm
      (substitutionsBy (resolutionOf blocks) predicates) := by
  have split : blocks.flatMap Block.substitutions =
      substitutionsBy (resolutionOf blocks)
        ((blocks.map Block.predicate).flatMap fun r => predicates.filter r.sameClause) := by
    rw [substitutionsBy, List.filterMap_flatMap, List.flatMap_map]
    exact List.flatMap_congr fun b member => answers.substitutions_eq member
  -- A predicate of no block's class is not resolved.
  have covered : substitutionsBy (resolutionOf blocks) predicates =
      substitutionsBy (resolutionOf blocks)
        (predicates.filter fun p => (blocks.map Block.predicate).any fun r => r.sameClause p) := by
    rw [substitutionsBy, substitutionsBy, List.filterMap_filter]
    apply List.filterMap_congr
    intro p _
    cases any : (blocks.map Block.predicate).any fun r => r.sameClause p with
    | true => rfl
    | false =>
      have missing : blocks.find? (fun b => b.predicate.sameClause p) = none := by
        simpa using any
      simp [resolutionOf, missing]
  rw [split, covered]
  exact (classes_perm predicates (List.pairwise_map.2 answers.distinct)).filterMap _

end Answers

end Prejoin
