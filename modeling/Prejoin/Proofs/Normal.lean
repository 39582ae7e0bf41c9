import Prejoin.Relation.Catalog
import Prejoin.Proofs.Trimmed

set_option autoImplicit false

namespace Prejoin

theorem tight_of_bind {given : Option Text} {s : Text} (found : given.bind trimmed? = some s) :
    Tight s := by
  obtain ⟨_, -, found⟩ := Option.bind_eq_some_iff.1 found
  exact tight_of_trimmed? found

theorem positive?_eq_some_iff {n m : Nat} : positive? n = some m ↔ 0 < n ∧ n = m := by
  simp [positive?, Option.ite_none_right_eq_some]

theorem limit_pos {default : Nat} (positive : 0 < default) (given : Option Nat) :
    0 < (given.bind positive?).getD default := by
  cases kept : given.bind positive? with
  | none => exact positive
  | some n =>
    obtain ⟨m, -, found⟩ := Option.bind_eq_some_iff.1 kept
    obtain ⟨above, rfl⟩ := positive?_eq_some_iff.1 found
    exact above

structure Entry.Describes (entry : Entry) (relation : Relation) : Prop where
  relatedResource : trimmed? entry.relatedResource = some relation.relatedResource
  rootJoinField : trimmed? entry.rootJoinField = some relation.rootJoinField
  relatedKeyField : trimmed? entry.relatedKeyField = some relation.relatedKeyField
  relatedSiteField : entry.relatedSiteField.bind trimmed? = relation.relatedSiteField
  maxKeys : (entry.maxKeys.bind positive?).getD defaultMaxKeys = relation.maxKeys
  pageSize : (entry.pageSize.bind positive?).getD defaultPageSize = relation.pageSize
  select : (entry.select.bind trimmed?).getD relation.relatedKeyField = relation.select

theorem Entry.relation?_eq_some_iff {entry : Entry} {relation : Relation} :
    entry.relation? = some relation ↔ entry.Describes relation := by
  unfold Entry.relation?
  simp only [Option.bind_eq_bind, Option.bind_eq_some_iff]
  constructor
  · rintro ⟨_, resource, _, join, _, key, built⟩
    obtain rfl := Option.some.inj built
    exact ⟨resource, join, key, rfl, rfl, rfl, rfl⟩
  · intro describes
    refine ⟨_, describes.relatedResource, _, describes.rootJoinField, _,
      describes.relatedKeyField, ?_⟩
    rw [describes.relatedSiteField, describes.maxKeys, describes.pageSize, describes.select]
    rfl

structure Relation.Normal (relation : Relation) : Prop where
  relatedResource : Tight relation.relatedResource
  rootJoinField : Tight relation.rootJoinField
  relatedKeyField : Tight relation.relatedKeyField
  relatedSiteField : ∀ field, relation.relatedSiteField = some field → Tight field
  maxKeys : 0 < relation.maxKeys
  pageSize : 0 < relation.pageSize
  select : Tight relation.select

theorem Entry.Describes.normal {entry : Entry} {relation : Relation}
    (describes : entry.Describes relation) : relation.Normal := by
  have key := tight_of_trimmed? describes.relatedKeyField
  constructor
  case relatedResource => exact tight_of_trimmed? describes.relatedResource
  case rootJoinField => exact tight_of_trimmed? describes.rootJoinField
  case relatedKeyField => exact key
  case relatedSiteField =>
    intro field stands
    exact tight_of_bind (describes.relatedSiteField.trans stands)
  case maxKeys =>
    rw [← describes.maxKeys]
    exact limit_pos (by decide) entry.maxKeys
  case pageSize =>
    rw [← describes.pageSize]
    exact limit_pos (by decide) entry.pageSize
  case select =>
    rw [← describes.select]
    cases kept : entry.select.bind trimmed? with
    | none => exact key
    | some select => exact tight_of_bind kept

theorem Relation.Normal.describes_toEntry {relation : Relation} (normal : relation.Normal) :
    relation.toEntry.Describes relation := by
  have limit {n default : Nat} (positive : 0 < n) :
      ((some n).bind positive?).getD default = n := by
    rw [Option.bind_some, positive?_eq_some_iff.2 ⟨positive, rfl⟩, Option.getD_some]
  constructor
  case relatedResource => exact trimmed?_eq_self_iff.2 normal.relatedResource
  case rootJoinField => exact trimmed?_eq_self_iff.2 normal.rootJoinField
  case relatedKeyField => exact trimmed?_eq_self_iff.2 normal.relatedKeyField
  case relatedSiteField =>
    change relation.relatedSiteField.bind trimmed? = relation.relatedSiteField
    cases given : relation.relatedSiteField with
    | none => rfl
    | some field => exact trimmed?_eq_self_iff.2 (normal.relatedSiteField field given)
  case maxKeys => exact limit normal.maxKeys
  case pageSize => exact limit normal.pageSize
  case select =>
    change (trimmed? relation.select).getD relation.relatedKeyField = relation.select
    rw [trimmed?_eq_self_iff.2 normal.select, Option.getD_some]

theorem relation?_toEntry_iff {relation : Relation} :
    relation.toEntry.relation? = some relation ↔ relation.Normal := by
  rw [Entry.relation?_eq_some_iff]
  exact ⟨Entry.Describes.normal, Relation.Normal.describes_toEntry⟩

theorem normal_of_mem {files : Files} {tenant root name : Text} {relation : Relation}
    (known : (name, relation) ∈ loadRelations files tenant root) : relation.Normal := by
  obtain ⟨⟨_, entry⟩, -, kept⟩ := List.mem_filterMap.1 known
  obtain ⟨relation', found, same⟩ := Option.map_eq_some_iff.1 kept
  obtain ⟨-, rfl⟩ := Prod.mk.inj same
  exact (Entry.relation?_eq_some_iff.1 found).normal

theorem Entry.isSome_relation? {entry : Entry} :
    entry.relation?.isSome ↔
      trim entry.relatedResource ≠ [] ∧ trim entry.rootJoinField ≠ [] ∧
        trim entry.relatedKeyField ≠ [] := by
  rw [← isSome_trimmed?, ← isSome_trimmed?, ← isSome_trimmed?]
  unfold Entry.relation?
  cases trimmed? entry.relatedResource <;> cases trimmed? entry.rootJoinField <;>
    cases trimmed? entry.relatedKeyField <;> simp

/-- Normal relations, and no others, come out unchanged when described anew. -/
theorem Entry.relation_normalized (entry : Entry) :
    (entry.relation?.isSome ↔
      trim entry.relatedResource ≠ [] ∧ trim entry.rootJoinField ≠ [] ∧
        trim entry.relatedKeyField ≠ []) ∧
      (∀ relation, entry.relation? = some relation →
        relation.Normal ∧ relation.toEntry.relation? = some relation) ∧
      ∀ relation : Relation, relation.toEntry.relation? = some relation ↔ relation.Normal := by
  refine ⟨entry.isSome_relation?, fun relation found => ?_, fun relation => relation?_toEntry_iff⟩
  have normal := (relation?_eq_some_iff.1 found).normal
  exact ⟨normal, relation?_toEntry_iff.2 normal⟩

def paddedEntry : Entry where
  relatedResource := "\u00a0mxapiasset\t".toList
  rootJoinField := "assetnum\u3000".toList
  relatedKeyField := "\n assetnum".toList
  relatedSiteField := some "\u2003siteid\r".toList
  maxKeys := some 0
  pageSize := some 25
  select := some " ".toList

def paddedRelation : Relation where
  relatedResource := "mxapiasset".toList
  rootJoinField := "assetnum".toList
  relatedKeyField := "assetnum".toList
  relatedSiteField := some "siteid".toList
  maxKeys := 50
  pageSize := 25
  select := "assetnum".toList

theorem Entry.relation_normalized_padded :
    paddedEntry.relation? = some paddedRelation ∧ paddedRelation.Normal ∧
      paddedRelation.toEntry.relation? = some paddedRelation := by
  have found : paddedEntry.relation? = some paddedRelation := by decide
  exact ⟨found, (Entry.relation_normalized paddedEntry).2.1 paddedRelation found⟩

end Prejoin
