import Mathlib.Data.List.Forall2
import Prejoin.Proofs.Replay
import Prejoin.Proofs.Trimmed
import Prejoin.Proofs.Turns

set_option autoImplicit false

namespace Prejoin

inductive Json.IsKey : Json → Text → Prop
  | number (value : Number) : IsKey (.number value) value.toText
  | text {value : Text} (solid : isBlankText value = false) : IsKey (.text value) (trim value)

def Carries (field : Text) (record : Json) (key : Text) : Prop :=
  ∃ value, (record.field? field).or (record.field? (spiField field)) = some value ∧ value.IsKey key

theorem recordKey?_eq_some {field key : Text} {record : Json} (carries : Carries field record key) :
    recordKey? field record = some key := by
  obtain ⟨value, found, usable⟩ := carries
  unfold recordKey?
  rw [found]
  cases usable with
  | number value => rfl
  | text solid => exact trimmed?_eq_some_iff.2 ⟨solid, rfl⟩

theorem filterMap_recordKey? {field : Text} {records : List Json} {keys : List Text}
    (carries : List.Forall₂ (Carries field) records keys) :
    records.filterMap (recordKey? field) = keys := by
  induction carries with
  | nil => rfl
  | cons first rest ih => rw [List.filterMap_cons_some (recordKey?_eq_some first), ih]

def TellsOfMore (body : Json) : Prop :=
  ∃ outer ∈ ["responseInfo".toList, "oslc:responseInfo".toList],
    ∃ inner ∈ ["nextPage".toList, "oslc:nextPage".toList],
      ∃ info next, body.member? outer = some info ∧ info.member? inner = some next ∧
        next.isNull = false

/-- If the records on the page are all of them, the body tells of no others. If they are not, it may
or may not tell so. -/
structure ShowsFirst (field : Text) (pageSize : Nat) (records : List Json) (keys : List Text)
    (body : Json) : Prop where
  carries : List.Forall₂ (Carries field) records keys
  members : body.either? "member".toList "rdfs:member".toList =
    some (.list (records.take pageSize))
  marked : TellsOfMore body → pageSize < records.length

theorem either?_eq_some {name other : Text} {value found : Json}
    (holds : value.either? name other = some found) :
    ∃ asked ∈ [name, other], value.member? asked = some found := by
  rcases Option.or_eq_some_iff.1 holds with first | ⟨-, second⟩
  · exact ⟨name, by simp, first⟩
  · exact ⟨other, by simp, second⟩

theorem tellsOfMore_of_hasNextPage {body : Json} (more : hasNextPage body) : TellsOfMore body := by
  unfold hasNextPage at more
  split at more
  next next found =>
    obtain ⟨info, outer, inner⟩ := Option.bind_eq_some_iff.1 found
    obtain ⟨outerName, known, at_outer⟩ := either?_eq_some outer
    obtain ⟨innerName, known', at_inner⟩ := either?_eq_some inner
    exact ⟨outerName, known, innerName, known', info, next, at_outer, at_inner, by simpa using more⟩
  next => cases more

section

variable {field : Text} {pageSize maxKeys : Nat} {records : List Json} {keys : List Text}
  {body : Json}

theorem extractKeys_showsFirst (shows : ShowsFirst field pageSize records keys body) :
    extractKeys field body = .ok (keys.take pageSize) := by
  have page := List.forall₂_take pageSize shows.carries
  unfold extractKeys
  rw [shows.members]
  simp only [filterMap_recordKey? page]
  rw [if_neg]
  rintro ⟨none, some⟩
  rw [none] at page
  exact some (List.forall₂_nil_right_iff.1 page)

theorem ofBody_showsFirst (shows : ShowsFirst field pageSize records keys body)
    (room : maxKeys < pageSize) :
    ∃ found, Keys.ofBody field maxKeys body = .ok found ∧ found.kept = keys.take maxKeys ∧
      (found.truncated ↔ maxKeys < records.length) := by
  have same : records.length = keys.length := shows.carries.length_eq
  rw [Keys.ofBody, extractKeys_showsFirst shows]
  refine ⟨_, rfl, ?_, ?_⟩
  · simp [List.take_take, Nat.le_of_lt room]
  · simp only [Bool.or_eq_true, decide_eq_true_eq, List.length_take]
    constructor
    · rintro (many | more)
      · omega
      · have left := shows.marked (tellsOfMore_of_hasNextPage more)
        omega
    · intro many
      exact .inl (by omega)

end

theorem room_eq {relation : Relation} (few : relation.maxKeys < Json.maxNat64) :
    relation.room = relation.maxKeys + 1 :=
  Nat.mod_eq_of_lt (Nat.succ_lt_succ few)

/-- A related resource need not say that there are more records than it shows: that is told just if
there are more of them than keys may be kept. -/
theorem truncated_iff_more {σ ε : Type} {channel : Channel σ ε} {backend : Backend}
    {caller : Caller} {predicate : Predicate} {relation : Relation} {site : Option Text}
    {request : Request} {state next : σ} {answer : Answer} {body : Json} {records : List Json}
    {keys : List Text}
    (few : relation.maxKeys < Json.maxNat64)
    (address : (Query.build predicate relation site).request? backend caller predicate.relation =
      .ok request)
    (sent : channel.send caller.tenant request state = .ok (answer, next))
    (read : answer.body? = .ok body)
    (shows : ShowsFirst relation.relatedKeyField (Query.build predicate relation site).pageSize
      records keys body) :
    ∃ found,
      resolve channel caller.tenant relation
          ((Query.build predicate relation site).request? backend caller predicate.relation) state =
        .ok (.ok found, next) ∧
      found.kept = keys.take relation.maxKeys ∧
      (found.truncated ↔ relation.maxKeys < records.length) ∧
      (Query.build predicate relation site).pageSize =
        max relation.pageSize (relation.maxKeys + 1) ∧
      (relation.pageSize ≤ Json.maxNat64 →
        (Query.build predicate relation site).pageSize ≤ Json.maxNat64) := by
  have size : (Query.build predicate relation site).pageSize =
      max relation.pageSize (relation.maxKeys + 1) :=
    congrArg (max relation.pageSize) (room_eq few)
  have room : relation.maxKeys < (Query.build predicate relation site).pageSize := by omega
  obtain ⟨found, kept, first, more⟩ := ofBody_showsFirst shows room
  refine ⟨found, ?_, first, more, size, fun small => ?_⟩
  · simp [resolve, address, sent, Relation.keys?, read, kept]
  · omega

def pagedRelation : Relation where
  relatedResource := "mxapiasset".toList
  rootJoinField := "assetnum".toList
  relatedKeyField := "assetnum".toList
  relatedSiteField := none
  maxKeys := 2
  pageSize := 1
  select := "assetnum".toList

def pagedPredicate : Predicate :=
  ⟨"asset".toList, "kind".toList, .equal, "SENSOR".toList, .double, ⟨0, 19⟩⟩

def pagedQuery : Query :=
  Query.build pagedPredicate pagedRelation none

def pagedRecords : List Json :=
  [.object [("assetnum".toList, .text " A1 ".toList)], .object [("ASSETNUM".toList, .nat 42)],
    .object [("spi:assetnum".toList, .text "A3".toList)],
    .object [("assetnum".toList, .text "A4".toList)]]

def pagedKeys : List Text :=
  ["A1".toList, "42".toList, "A3".toList, "A4".toList]

def pagedBody : Json :=
  .object [("member".toList, .list (pagedRecords.take 3)),
    ("responseInfo".toList, .object [("nextPage".toList, .text "?pageno=2".toList)])]

theorem showsFirst_paged :
    ShowsFirst "assetnum".toList pagedQuery.pageSize pagedRecords pagedKeys pagedBody where
  carries :=
    .cons ⟨_, rfl, .text rfl⟩ (.cons ⟨_, rfl, .number _⟩ (.cons ⟨_, rfl, .text rfl⟩
      (.cons ⟨_, rfl, .text rfl⟩ .nil)))
  members := rfl
  marked _ := by decide

theorem address_paged :
    (pagedQuery.request? assetBackend (assetCall []).caller
      pagedPredicate.relation).toOption.isSome := by
  decide +kernel

theorem truncated_iff_more_paged :
    ∃ request found sent,
      pagedQuery.request? assetBackend (assetCall []).caller pagedPredicate.relation =
        .ok request ∧
      resolve (.inTurn fun _ => .ok (.decoded pagedBody)) "acme".toList pagedRelation (.ok request)
        [] = .ok (.ok found, sent) ∧
      found.kept = ["A1".toList, "42".toList] ∧ found.truncated := by
  cases address : pagedQuery.request? assetBackend (assetCall []).caller
    pagedPredicate.relation with
  | error error =>
    have asked := address_paged
    rw [address] at asked
    cases asked
  | ok request =>
    have sent : (Channel.inTurn fun _ => .ok (.decoded pagedBody)).send
        (assetCall []).caller.tenant request [] =
      .ok (.ok (.decoded pagedBody), [⟨"acme".toList, request⟩]) := rfl
    have read : Answer.body? (.ok (.decoded pagedBody)) = .ok pagedBody := rfl
    obtain ⟨found, looked, kept, truncated, -⟩ :=
      truncated_iff_more (by decide) address sent read showsFirst_paged
    exact ⟨request, found, _, rfl, address ▸ looked, kept, truncated.2 (by decide)⟩

end Prejoin
