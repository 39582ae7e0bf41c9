import Prejoin.Proofs.Endings

set_option autoImplicit false

namespace Prejoin

-- In the order in which they are looked for.
def spellings (field : Text) : List (Text → Bool) :=
  [fun name => name = field, fun name => sameName name field,
    fun name => name = spiField field, fun name => sameName name (spiField field)]

def namesKey (field name : Text) : Bool :=
  sameName name field || sameName name (spiField field)

theorem namesKey_of_spelling {field name : Text} {fits : Text → Bool}
    (known : fits ∈ spellings field) (spelled : fits name) : namesKey field name := by
  simp only [spellings, List.mem_cons, List.not_mem_nil, or_false] at known
  rcases known with rfl | rfl | rfl | rfl
  · simp_all [namesKey, sameName]
  · simp_all [namesKey]
  · simp_all [namesKey, sameName]
  · simp_all [namesKey]

/-- The value is the first one of the record under the earliest spelling that the record has. -/
def Settles (field : Text) (record value : Json) : Prop :=
  ∃ members earlier fits later before name after,
    record = .object members ∧ spellings field = earlier ++ fits :: later ∧
    members = before ++ (name, value) :: after ∧ fits name ∧
    (∀ other ∈ before, fits other.1 = false) ∧
    ∀ passed ∈ earlier, ∀ other ∈ members, passed other.1 = false

theorem lookup_eq_find? (name : Text) (members : List (Text × Json)) :
    members.lookup name = (members.find? fun named => named.1 = name).map Prod.snd := by
  induction members with
  | nil => rfl
  | cons first rest ih =>
    obtain ⟨other, value⟩ := first
    rw [lookup_pair]
    by_cases same : name = other
    next => simp [same]
    next => simp [same, Ne.symm same, ih]

theorem found_eq_findSome? (field : Text) (members : List (Text × Json)) :
    (Json.field? field (.object members)).or (Json.field? (spiField field) (.object members)) =
      ((spellings field).findSome? fun fits => members.find? fun named => fits named.1).map
        Prod.snd := by
  simp only [Json.field?, lookup_eq_find?, spellings, List.findSome?_cons, List.findSome?_nil]
  cases members.find? fun named => decide (named.1 = field) with
  | some named => rfl
  | none =>
    cases members.find? fun named => sameName named.1 field with
    | some named => rfl
    | none =>
      cases members.find? fun named => decide (named.1 = spiField field) with
      | some named => rfl
      | none => cases members.find? fun named => sameName named.1 (spiField field) <;> rfl

theorem found_iff_settles {field : Text} {record value : Json} :
    (record.field? field).or (record.field? (spiField field)) = some value ↔
      Settles field record value := by
  constructor
  · intro found
    cases record with
    | object members =>
      rw [found_eq_findSome?] at found
      obtain ⟨⟨name, _⟩, first, rfl⟩ := Option.map_eq_some_iff.1 found
      obtain ⟨earlier, fits, later, split, at_last, passed⟩ := List.findSome?_eq_some_iff.1 first
      obtain ⟨spelled, before, after, rfl, others⟩ := List.find?_eq_some_iff_append.1 at_last
      refine ⟨_, earlier, fits, later, before, name, after, rfl, split, rfl, spelled, ?_, ?_⟩
      · simpa using others
      · intro other known named member
        simpa using List.find?_eq_none.1 (passed other known) named member
    | _ => cases found
  · rintro ⟨members, earlier, fits, later, before, name, after, rfl, split, source, spelled, others,
      passed⟩
    have at_last : (members.find? fun named => fits named.1) = some (name, value) :=
      List.find?_eq_some_iff_append.2 ⟨spelled, before, after, source, by simpa using others⟩
    rw [found_eq_findSome?, List.findSome?_eq_some_iff.2 ⟨earlier, fits, later, split, at_last, ?_⟩]
    · rfl
    · intro other known
      exact List.find?_eq_none.2 fun named member => by simp [passed other known named member]

def Json.isUsable : Json → Bool
  | .number _ => true
  | .text value => !isBlankText value
  | _ => false

theorem isUsable_iff {value : Json} : value.isUsable ↔ ∃ key, value.IsKey key := by
  constructor
  · intro usable
    cases value with
    | number number => exact ⟨_, .number number⟩
    | text text => exact ⟨_, .text (by simpa [Json.isUsable] using usable)⟩
    | _ => cases usable
  · rintro ⟨key, holds⟩
    cases holds with
    | number number => rfl
    | text solid => simp [Json.isUsable, solid]

def Offers (field : Text) (record : Json) (key : Text) : Prop :=
  ∃ members name value, record = .object members ∧ (name, value) ∈ members ∧
    namesKey field name ∧ value.IsKey key

def offersKey (field : Text) : Json → Bool
  | .object members => members.any fun named => namesKey field named.1 && named.2.isUsable
  | _ => false

theorem offersKey_iff {field : Text} {record : Json} :
    offersKey field record ↔ ∃ key, Offers field record key := by
  constructor
  · intro offers
    cases record with
    | object members =>
      obtain ⟨⟨name, value⟩, member, holds⟩ := List.any_eq_true.1 offers
      obtain ⟨named, usable⟩ := Bool.and_eq_true_iff.1 holds
      obtain ⟨key, key_of⟩ := isUsable_iff.1 usable
      exact ⟨key, members, name, value, rfl, member, named, key_of⟩
    | _ => cases offers
  · rintro ⟨key, members, name, value, rfl, member, named, key_of⟩
    have usable := isUsable_iff.2 ⟨key, key_of⟩
    exact List.any_eq_true.2 ⟨(name, value), member, Bool.and_eq_true_iff.2 ⟨named, usable⟩⟩

theorem Carries.offers {field key : Text} {record : Json} (carries : Carries field record key) :
    Offers field record key := by
  obtain ⟨value, found, key_of⟩ := carries
  obtain ⟨members, earlier, fits, later, before, name, after, rfl, split, rfl, spelled, -, -⟩ :=
    found_iff_settles.1 found
  have known : fits ∈ spellings field := by simp [split]
  exact ⟨_, name, value, rfl, by simp, namesKey_of_spelling known spelled, key_of⟩

theorem isSome_recordKey?_iff {field : Text} {record : Json} :
    (recordKey? field record).isSome ↔ ∃ value, Settles field record value ∧ value.isUsable := by
  constructor
  · intro some
    obtain ⟨key, found⟩ := Option.isSome_iff_exists.1 some
    obtain ⟨value, stands, key_of⟩ := carries_iff.2 found
    exact ⟨value, found_iff_settles.1 stands, isUsable_iff.2 ⟨key, key_of⟩⟩
  · rintro ⟨value, settles, usable⟩
    obtain ⟨key, key_of⟩ := isUsable_iff.1 usable
    exact Option.isSome_iff_exists.2
      ⟨key, carries_iff.1 ⟨value, found_iff_settles.2 settles, key_of⟩⟩

theorem offersKey_of_isSome {field : Text} {record : Json}
    (some : (recordKey? field record).isSome) : offersKey field record := by
  obtain ⟨key, found⟩ := Option.isSome_iff_exists.1 some
  exact offersKey_iff.2 ⟨key, (carries_iff.2 found).offers⟩

section

variable {field : Text} {records : List Json}

theorem forall₂_offers
    (settled : ∀ record ∈ records, offersKey field record → (recordKey? field record).isSome) :
    List.Forall₂ (Offers field) (records.filter (offersKey field))
      (records.filterMap (recordKey? field)) := by
  induction records with
  | nil => exact .nil
  | cons record rest ih =>
    obtain ⟨own, others⟩ := List.forall_mem_cons.1 settled
    cases found : recordKey? field record with
    | none =>
      have offers : ¬ offersKey field record := by
        intro offers
        have stands := own offers
        rw [found] at stands
        cases stands
      rw [List.filter_cons_of_neg offers, List.filterMap_cons_none found]
      exact ih others
    | some key =>
      have offers := offersKey_of_isSome (Option.isSome_iff_exists.2 ⟨key, found⟩)
      rw [List.filter_cons_of_pos offers, List.filterMap_cons_some found]
      exact .cons (carries_iff.2 found).offers (ih others)

theorem isSome_of_length_eq
    (same : (records.filter (offersKey field)).length =
      (records.filterMap (recordKey? field)).length) :
    ∀ record ∈ records, offersKey field record → (recordKey? field record).isSome := by
  have within : (records.filter fun record => (recordKey? field record).isSome).Sublist
      (records.filter (offersKey field)) :=
    List.monotone_filter_right records fun record some => offersKey_of_isSome some
  have count : (records.filterMap (recordKey? field)).length =
      (records.filter fun record => (recordKey? field record).isSome).length := by
    rw [List.length_filterMap_eq_countP, List.countP_eq_length_filter]
  have whole := within.eq_of_length (count.symm.trans same.symm)
  intro record inside offers
  have member : record ∈ records.filter (offersKey field) := List.mem_filter.2 ⟨inside, offers⟩
  rw [← whole] at member
  exact (List.mem_filter.1 member).2

/-- One key is read for each record that holds a usable one, just if the value that is looked at in
each of them is usable. -/
theorem extractKeys_each_iff {body : Json} (found : members? body = some (.list records))
    (some : ∃ record ∈ records, offersKey field record) :
    (∃ keys, extractKeys field body = .ok keys ∧
        List.Forall₂ (Offers field) (records.filter (offersKey field)) keys) ↔
      ∀ record ∈ records, offersKey field record →
        ∃ value, Settles field record value ∧ value.isUsable := by
  simp only [← isSome_recordKey?_iff]
  rw [extractKeys_of_members found]
  constructor
  · rintro ⟨keys, read, each⟩
    split at read
    next => cases read
    next =>
      obtain rfl := Except.ok.inj read
      exact isSome_of_length_eq each.length_eq
  · intro settled
    obtain ⟨record, inside, offers⟩ := some
    have key : records.filterMap (recordKey? field) ≠ [] := by
      intro none
      have passed := List.filterMap_eq_nil_iff.1 none record inside
      have stands := settled record inside offers
      rw [passed] at stands
      cases stands
    rw [if_neg fun none => key none.1]
    exact ⟨_, rfl, forall₂_offers settled⟩

end

def casedRecords : List Json :=
  [.object [("ASSETNUM".toList, .null), ("assetnum".toList, .text " A1 ".toList)],
    .object [("assetnum".toList, .text " ".toList)],
    .object [("SPI:Assetnum".toList, .nat 7), ("other".toList, .text "B".toList)]]

def casedBody : Json :=
  .object [("rdfs:member".toList, .list casedRecords)]

theorem extractKeys_each_iff_cased :
    members? casedBody = some (.list casedRecords) ∧
      (∃ record ∈ casedRecords, offersKey "assetnum".toList record) ∧
      (∀ record ∈ casedRecords, offersKey "assetnum".toList record →
        ∃ value, Settles "assetnum".toList record value ∧ value.isUsable) ∧
      ∃ keys, extractKeys "assetnum".toList casedBody = .ok keys ∧
        List.Forall₂ (Offers "assetnum".toList)
          (casedRecords.filter (offersKey "assetnum".toList)) keys := by
  have found : members? casedBody = some (.list casedRecords) := rfl
  have some : ∃ record ∈ casedRecords, offersKey "assetnum".toList record :=
    ⟨_, List.mem_cons_self, rfl⟩
  have settled : ∀ record ∈ casedRecords, offersKey "assetnum".toList record →
      ∃ value, Settles "assetnum".toList record value ∧ value.isUsable := by
    intro record inside offers
    rw [← isSome_recordKey?_iff]
    simp only [casedRecords, List.mem_cons, List.not_mem_nil, or_false] at inside
    rcases inside with rfl | rfl | rfl
    · rfl
    · cases offers
    · rfl
  exact ⟨found, some, settled, (extractKeys_each_iff found some).2 settled⟩

def hiddenRecord : Json :=
  .object [("assetnum".toList, .null), ("spi:assetnum".toList, .text "spi".toList)]

def hiddenBody : Json :=
  .object [("member".toList, .list [hiddenRecord])]

-- A usable value under the other name is passed over for a useless one under the first.
theorem extractKeys_hidden :
    members? hiddenBody = some (.list [hiddenRecord]) ∧
      (∃ record ∈ [hiddenRecord], offersKey "assetnum".toList record) ∧
      ¬ ∃ keys, extractKeys "assetnum".toList hiddenBody = .ok keys ∧
        List.Forall₂ (Offers "assetnum".toList)
          ([hiddenRecord].filter (offersKey "assetnum".toList)) keys := by
  refine ⟨rfl, ⟨hiddenRecord, List.mem_cons_self, rfl⟩, ?_⟩
  rintro ⟨keys, read, -⟩
  have refused : extractKeys "assetnum".toList hiddenBody =
      .error (.noKeys 1 "assetnum".toList) := rfl
  cases refused.symm.trans read

end Prejoin
