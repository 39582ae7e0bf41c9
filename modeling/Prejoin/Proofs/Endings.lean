import Prejoin.Proofs.Isolation
import Prejoin.Proofs.Normal
import Prejoin.Proofs.Paging

set_option autoImplicit false

namespace Prejoin

inductive KeysOf (field : Text) : List Json → List Text → Prop
  | nil : KeysOf field [] []
  | keyed {record : Json} {key : Text} {records : List Json} {keys : List Text}
      (carries : Carries field record key) (rest : KeysOf field records keys) :
      KeysOf field (record :: records) (key :: keys)
  | unkeyed {record : Json} {records : List Json} {keys : List Text}
      (lacks : ∀ key, ¬ Carries field record key) (rest : KeysOf field records keys) :
      KeysOf field (record :: records) keys

section

variable {field key : Text} {record : Json} {records : List Json} {keys : List Text}

theorem carries_iff : Carries field record key ↔ recordKey? field record = some key := by
  refine ⟨recordKey?_eq_some, fun found => ?_⟩
  unfold recordKey? at found
  split at found
  next value stands =>
    obtain ⟨solid, rfl⟩ := trimmed?_eq_some_iff.1 found
    exact ⟨_, stands, .text solid⟩
  next value stands => exact ⟨_, stands, Option.some.inj found ▸ .number value⟩
  next => cases found

theorem Carries.tight (carries : Carries field record key) : Tight key := by
  obtain ⟨_, -, usable⟩ := carries
  cases usable with
  | number value => exact tight_toText value
  | text solid => exact tight_of_trimmed? (trimmed?_eq_some_iff.2 ⟨solid, rfl⟩)

theorem keysOf_iff : KeysOf field records keys ↔ records.filterMap (recordKey? field) = keys := by
  constructor
  · intro listed
    induction listed with
    | nil => rfl
    | keyed carries rest ih => rw [List.filterMap_cons_some (carries_iff.1 carries), ih]
    | @unkeyed record records keys lacks rest ih =>
      have none : recordKey? field record = none :=
        Option.eq_none_iff_forall_ne_some.2 fun key found => lacks key (carries_iff.2 found)
      rw [List.filterMap_cons_none none, ih]
  · rintro rfl
    induction records with
    | nil => exact .nil
    | cons record rest ih =>
      cases found : recordKey? field record with
      | none =>
        rw [List.filterMap_cons_none found]
        exact .unkeyed (fun key carries => by simp [carries_iff.1 carries] at found) ih
      | some key =>
        rw [List.filterMap_cons_some found]
        exact .keyed (carries_iff.2 found) ih

theorem KeysOf.tight (listed : KeysOf field records keys) (inside : key ∈ keys) : Tight key := by
  induction listed with
  | nil => cases inside
  | keyed carries rest ih =>
    rcases List.mem_cons.1 inside with rfl | later
    · exact carries.tight
    · exact ih later
  | unkeyed lacks rest ih => exact ih inside

end

inductive Ending where
  | refused (error : ShapeError)
  | unmatched
  | matched (kept : List Text) (returned : Nat)

def members? (body : Json) : Option Json :=
  body.either? "member".toList "rdfs:member".toList

inductive Ends (field : Text) (maxKeys : Nat) (body : Json) : Ending → Prop
  | absent (missing : members? body = none) : Ends field maxKeys body (.refused .noMembers)
  | notList {value : Json} (found : members? body = some value)
      (other : ∀ records, value ≠ .list records) : Ends field maxKeys body (.refused .membersNotList)
  | unkeyed {records : List Json} (found : members? body = some (.list records))
      (some : records ≠ []) (lacking : ∀ record ∈ records, ∀ key, ¬ Carries field record key) :
      Ends field maxKeys body (.refused (.noKeys records.length field))
  | empty (found : members? body = some (.list [])) : Ends field maxKeys body .unmatched
  | keyed {records : List Json} {keys : List Text} (found : members? body = some (.list records))
      (listed : KeysOf field records keys) (some : keys ≠ []) :
      Ends field maxKeys body (.matched (keys.take maxKeys) keys.length)

section

variable {field : Text} {maxKeys : Nat} {body : Json} {ending : Ending}

theorem exists_ending (field : Text) (maxKeys : Nat) (body : Json) :
    ∃ ending, Ends field maxKeys body ending := by
  cases found : members? body with
  | none => exact ⟨_, .absent found⟩
  | some value =>
    cases value with
    | list records =>
      have listed : KeysOf field records (records.filterMap (recordKey? field)) := keysOf_iff.2 rfl
      by_cases nothing : records.filterMap (recordKey? field) = []
      next =>
        rw [nothing] at listed
        by_cases members : records = []
        next => exact ⟨_, .empty (members ▸ found)⟩
        next =>
          refine ⟨_, .unkeyed found members fun record inside key carries => ?_⟩
          have lacks := List.filterMap_eq_nil_iff.1 nothing record inside
          simp [carries_iff.1 carries] at lacks
      next => exact ⟨_, .keyed found listed nothing⟩
    | _ => exact ⟨_, .notList found (by simp)⟩

def Ending.keys? (truncated : Bool) : Ending → Except ShapeError Keys
  | .refused error => .error error
  | .unmatched => .ok ⟨0, [], truncated⟩
  | .matched kept returned => .ok ⟨returned, kept, truncated⟩

theorem extractKeys_of_members {records : List Json}
    (found : members? body = some (.list records)) :
    extractKeys field body =
      if records.filterMap (recordKey? field) = [] ∧ records ≠ [] then
        .error (.noKeys records.length field)
      else .ok (records.filterMap (recordKey? field)) := by
  rw [members?] at found
  rw [extractKeys, found]

theorem ofBody_ends (ends : Ends field maxKeys body ending) :
    ∃ truncated, Keys.ofBody field maxKeys body = ending.keys? truncated := by
  cases ends with
  | absent missing =>
    rw [members?] at missing
    rw [Keys.ofBody, extractKeys, missing]
    exact ⟨false, rfl⟩
  | @notList value found other =>
    rw [members?] at found
    rw [Keys.ofBody, extractKeys, found]
    cases value with
    | list records => exact absurd rfl (other records)
    | _ => exact ⟨false, rfl⟩
  | @unkeyed records found members lacking =>
    have none : records.filterMap (recordKey? field) = [] :=
      List.filterMap_eq_nil_iff.2 fun record inside => Option.eq_none_iff_forall_ne_some.2
        fun key stands => lacking record inside key (carries_iff.2 stands)
    rw [Keys.ofBody, extractKeys_of_members found, if_pos ⟨none, members⟩]
    exact ⟨false, rfl⟩
  | empty found =>
    rw [Keys.ofBody, extractKeys_of_members found]
    exact ⟨hasNextPage body, by simp [Except.map, Ending.keys?]⟩
  | @keyed records keys found listed members =>
    rw [Keys.ofBody, extractKeys_of_members found, keysOf_iff.1 listed,
      if_neg fun none => members none.1]
    exact ⟨_, rfl⟩

theorem Ends.of_matched {kept : List Text} {returned : Nat}
    (ends : Ends field maxKeys body (.matched kept returned)) :
    kept.length = min returned maxKeys ∧ 0 < returned ∧ ∀ key ∈ kept, Tight key := by
  cases ends with
  | keyed found listed members =>
    refine ⟨?_, List.length_pos_iff.2 members, fun key inside => ?_⟩
    · rw [List.length_take, Nat.min_comm]
    · exact listed.tight (List.mem_of_mem_take inside)

theorem Ends.unique {other : Ending} (first : Ends field maxKeys body ending)
    (second : Ends field maxKeys body other) : ending = other := by
  obtain ⟨_, read⟩ := ofBody_ends first
  obtain ⟨_, again⟩ := ofBody_ends second
  have same := read.symm.trans again
  cases ending with
  | refused error =>
    cases other with
    | refused error' => rw [Except.error.inj same]
    | unmatched => cases same
    | matched kept returned => cases same
  | unmatched =>
    cases other with
    | refused error => cases same
    | unmatched => rfl
    | matched kept returned =>
      obtain ⟨none, -⟩ := Keys.mk.inj (Except.ok.inj same)
      have some := second.of_matched.2.1
      omega
  | matched kept returned =>
    cases other with
    | refused error => cases same
    | unmatched =>
      obtain ⟨none, -⟩ := Keys.mk.inj (Except.ok.inj same)
      have some := first.of_matched.2.1
      omega
    | matched kept' returned' =>
      obtain ⟨rfl, rfl, -⟩ := Keys.mk.inj (Except.ok.inj same)
      rfl

end

theorem mem_of_lookupsOf {relations : Dict Relation} {predicates : List Predicate} {p : Predicate}
    {relation : Relation} (looked : (p, relation) ∈ lookupsOf relations predicates) :
    (foldCase p.relation, relation) ∈ relations := by
  obtain ⟨p', -, kept⟩ := List.mem_filterMap.1 looked
  obtain ⟨relation', found, same⟩ := Option.map_eq_some_iff.1 kept
  obtain ⟨rfl, rfl⟩ := Prod.mk.inj same
  obtain ⟨before, after, split, -⟩ := List.lookup_eq_some_iff.1 found
  rw [split]
  exact List.mem_append_right _ List.mem_cons_self

def Ending.text (join before : Text) : Ending → Text
  | .refused _ => before
  | .unmatched => noMatch join
  | .matched kept _ => disjunction join kept

def Ending.steps (call : Call) (p : Predicate) (relation : Relation) (before : Text)
    (occurrences : Nat) (truncated : Bool) (ending : Ending) : List Step :=
  .prefetch p.relation p.field p.operator (call.query p relation) ::
    match ending with
    | .refused error => [.failure p.relation p.field (LookupError.shape error).message]
    | .unmatched =>
      [.fetched p.relation p.field 0 0 truncated,
        .replaced p.relation p.field before (noMatch relation.rootJoinField) occurrences]
    | .matched kept returned =>
      [.fetched p.relation p.field returned kept.length truncated,
        .replaced p.relation p.field before (disjunction relation.rootJoinField kept) occurrences]

theorem disjunction_ne_noMatch (join other : Text) (keys : List Text) :
    disjunction join keys ≠ noMatch other := by
  have closing : (disjunction join keys).getLast? = some ')' := List.getLast?_concat
  have quote : (noMatch other).getLast? = some '"' := by
    rw [noMatch, comparison, quoteLiteral, ← List.cons_append, ← List.append_assoc]
    exact List.getLast?_concat
  intro same
  rw [same, quote] at closing
  cases closing

theorem keys?_ends {relation : Relation} {answer : Answer} {body : Json} {ending : Ending}
    (read : answer.body? = .ok body)
    (ends : Ends relation.relatedKeyField relation.maxKeys body ending) :
    ∃ truncated, relation.keys? answer = (ending.keys? truncated).mapError .shape := by
  obtain ⟨truncated, found⟩ := ofBody_ends ends
  refine ⟨truncated, ?_⟩
  unfold Relation.keys?
  rw [read]
  dsimp only
  rw [found]
  cases ending.keys? truncated <;> rfl

theorem steps_ends {filter before : Text} {p : Predicate} {relation : Relation} {body : Json}
    {ending : Ending} (call : Call) (backend : Backend) (predicates : List Predicate)
    (stands : p.span.slice filter = some before) (positive : 0 < relation.maxKeys)
    (ends : Ends relation.relatedKeyField relation.maxKeys body ending) (truncated : Bool) :
    Block.steps filter ⟨call.target backend predicates (p, relation),
        (ending.keys? truncated).mapError .shape⟩ =
      ending.steps call p relation before (predicates.countP p.sameClause) truncated := by
  have count : (call.target backend predicates (p, relation)).group.spans.length =
      predicates.countP p.sameClause := by
    simp [Call.target, List.countP_eq_length_filter]
  cases ending with
  | refused error => rfl
  | unmatched =>
    exact (steps_resolved stands _).trans (by rw [count]; rfl)
  | matched kept returned =>
    obtain ⟨length, some, -⟩ := ends.of_matched
    have members : kept ≠ [] := List.length_pos_iff.1 (by omega)
    refine (steps_resolved stands _).trans ?_
    rw [count, replacementFor, if_neg members]
    rfl

theorem standing_steps (filter : Text) (call : Call) (p : Predicate) (relation : Relation)
    (before : Text) (occurrences : Nat) (truncated : Bool) (ending : Ending) :
    standing filter (ending.steps call p relation before occurrences truncated) =
      fun q => ending.text relation.rootJoinField (q.textIn filter) := by
  cases ending <;> rfl

structure ClauseEnds (call : Call) (filter : Text) (predicates : List Predicate) (p : Predicate)
    (relation : Relation) (ending : Ending) (earlier later : List (List Step)) (outcome : Outcome) :
    Prop where
  told : ∃ before truncated, p.span.slice filter = some before ∧
    outcome.plan.steps =
      (earlier ++ ending.steps call p relation before (predicates.countP p.sameClause) truncated ::
        later).flatten
  text : ∃ stretches, Frame filter predicates stretches ∧
    outcome.params.lookup whereParam = some (fillIn (textAround filter predicates p
      (fun q => ending.text relation.rootJoinField (q.textIn filter)) (earlier ++ later).flatten)
      stretches)

theorem clauseEnds_conclude {call : Call} {filter : Text} {predicates : List Predicate}
    {backend : Backend} {p : Predicate} {relation : Relation} {body : Json} {ending : Ending}
    {truncated : Bool} {earlier later : List Block} (present : call.filter? = some filter)
    (found : detectIn filter = .ok predicates) (inside : p ∈ predicates)
    (positive : 0 < relation.maxKeys)
    (ends : Ends relation.relatedKeyField relation.maxKeys body ending)
    (answers : Answers (earlier ++ ⟨call.target backend predicates (p, relation),
      (ending.keys? truncated).mapError .shape⟩ :: later) predicates) :
    ClauseEnds call filter predicates p relation ending (earlier.map (Block.steps filter))
      (later.map (Block.steps filter))
      (call.conclude filter predicates (earlier ++ ⟨call.target backend predicates (p, relation),
        (ending.keys? truncated).mapError .shape⟩ :: later)) := by
  have stands := slice_of_mem found inside
  have own := steps_ends call backend predicates stands positive ends truncated
  constructor
  case told =>
    refine ⟨_, truncated, stands, ?_⟩
    rw [← own, steps_conclude found answers, List.map_append, List.map_cons]
  case text =>
    obtain ⟨stretches, frame, text⟩ := exists_frame present found
    refine ⟨stretches, frame, ?_⟩
    rw [text answers, own, standing_steps, flatten_steps]
    rfl

/-- The lookup for a clause that has been answered with a body ends in one way only. No record is
said to match just if the list of the members is empty. -/
theorem lookup_ends {call : Call} {filter : Text} {predicates : List Predicate}
    {backend : Backend} {files : Files} {answers : Nat → Answer}
    {before after : List (Predicate × Relation)} {p : Predicate} {relation : Relation}
    {request : Request} {body : Json} (present : call.filter? = some filter)
    (found : detectIn filter = .ok predicates)
    (looked : lookupsOf (loadRelations files call.caller.tenant call.caller.root) predicates =
      before ++ (p, relation) :: after)
    (address : call.request? backend p relation = .ok request)
    (read : (answers (requestsOf (before.map (call.target backend predicates))).length).body? =
      .ok body) :
    ∃ ending earlier later outcome sent,
      plan (.inTurn answers) backend files call [] = .ok (outcome, sent) ∧
      ClauseEnds call filter predicates p relation ending earlier later outcome ∧
      (∀ other, Ends relation.relatedKeyField relation.maxKeys body other ↔ other = ending) ∧
      (ending = .unmatched ↔ members? body = some (.list [])) ∧
      ∀ kept returned, ending = .matched kept returned →
        kept.length = min returned relation.maxKeys ∧ 1 ≤ kept.length ∧
        (∀ key ∈ kept, Tight key) ∧
        disjunction relation.rootJoinField kept ≠ noMatch relation.rootJoinField := by
  have lookup : (p, relation) ∈
      lookupsOf (loadRelations files call.caller.tenant call.caller.root) predicates := by
    rw [looked]
    exact List.mem_append_right _ List.mem_cons_self
  have positive : 0 < relation.maxKeys := (normal_of_mem (mem_of_lookupsOf lookup)).maxKeys
  obtain ⟨ending, ends⟩ := exists_ending relation.relatedKeyField relation.maxKeys body
  obtain ⟨truncated, answered⟩ := keys?_ends read ends
  have known := answers_blocksFrom answers backend call
    (loadRelations files call.caller.tenant call.caller.root) predicates
  have planned := planWith_inTurn present found answers backend
    (loadRelations files call.caller.tenant call.caller.root)
  have asked := (request?_target call backend predicates (p, relation)).trans address
  have outcome : (call.target backend predicates (p, relation)).relation.keys?
      (answers (requestsOf (before.map (call.target backend predicates))).length) =
      (ending.keys? truncated).mapError .shape := answered
  rw [targets_eq (nodup_of_detectIn found), looked, List.map_append, List.map_cons,
    blocksFrom_around rfl asked, outcome] at known planned
  refine ⟨ending, _, _, _, _, planned,
    clauseEnds_conclude present found (mem_of_mem_lookupsOf lookup) positive ends known,
    fun other => ⟨fun again => again.unique ends, fun same => same ▸ ends⟩, ?_, ?_⟩
  · constructor
    · rintro rfl
      cases ends with
      | empty found => exact found
    · exact fun none => ends.unique (.empty none)
  · rintro kept returned rfl
    obtain ⟨length, some, tight⟩ := ends.of_matched
    exact ⟨length, by omega, tight, disjunction_ne_noMatch _ _ _⟩

def plantPredicate : Predicate :=
  ⟨"asset".toList, "kind".toList, .equal, "PUMP".toList, .double, ⟨0, 17⟩⟩

def assetRelation : Relation where
  relatedResource := "mxapiasset".toList
  rootJoinField := "assetnum".toList
  relatedKeyField := "assetnum".toList
  relatedSiteField := some "siteid".toList
  maxKeys := defaultMaxKeys
  pageSize := defaultPageSize
  select := "assetnum".toList

theorem looked_plant :
    (lookupsOf (loadRelations [] "acme".toList "mxapiwo".toList) (detect plantTokens)).head? =
        some (plantPredicate, assetRelation) ∧
      ((assetCall plantFilter).request? assetBackend plantPredicate
        assetRelation).toOption.isSome := by
  decide +kernel

theorem lookup_ends_plant :
    ∃ earlier later outcome sent,
      plan (.inTurn plantAnswers) assetBackend [] (assetCall plantFilter) [] =
        .ok (outcome, sent) ∧
      ClauseEnds (assetCall plantFilter) plantFilter (detect plantTokens) plantPredicate
        assetRelation (.matched ["A1".toList] 1) earlier later outcome := by
  obtain ⟨first, asked⟩ := looked_plant
  obtain ⟨after, looked⟩ := List.head?_eq_some_iff.1 first
  cases address : (assetCall plantFilter).request? assetBackend plantPredicate assetRelation with
  | error error =>
    rw [address] at asked
    cases asked
  | ok request =>
    have looked : lookupsOf (loadRelations [] "acme".toList "mxapiwo".toList)
        (detect plantTokens) = [] ++ (plantPredicate, assetRelation) :: after := looked
    have read : (plantAnswers (requestsOf (List.map ((assetCall plantFilter).target assetBackend
        (detect plantTokens)) [])).length).body? = .ok (.object [("member".toList,
          .list [.object [("assetnum".toList, .text "A1".toList)]])]) := rfl
    obtain ⟨ending, earlier, later, outcome, sent, planned, clause, ends, -⟩ :=
      lookup_ends read_plant.1 detectIn_plant looked address read
    have carries : Carries "assetnum".toList
        (.object [("assetnum".toList, .text "A1".toList)]) "A1".toList := ⟨_, rfl, .text rfl⟩
    have one := (ends (.matched ["A1".toList] 1)).1 (.keyed rfl (.keyed carries .nil) (by decide))
    exact ⟨earlier, later, outcome, sent, planned, one ▸ clause⟩

end Prejoin
