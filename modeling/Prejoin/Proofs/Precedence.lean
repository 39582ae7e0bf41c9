import Prejoin.Proofs.Spellings

set_option autoImplicit false

namespace Prejoin.Layer

variable {layer other : Layer} {root name : Text}

theorem lookup_entries_of_ne (unfolded : foldCase name ≠ name) :
    (layer.entries root).lookup name = none := by
  rw [List.lookup_eq_none_iff]
  intro named member
  have other : name ≠ named.1 := fun same => unfolded (same ▸ foldCase_of_mem_entries member)
  simpa using other

theorem lookup_entries_eq_none (folded : foldCase name = name) :
    (layer.entries root).lookup name = none ↔
      ∀ spelling entry, layer.Gives spelling entry → ¬ Spells root name spelling := by
  rw [lookup_entries_eq, Option.map_eq_none_iff, List.getLast?_eq_none_iff,
    List.eq_nil_iff_forall_not_mem]
  constructor
  · intro absent spelling entry gives spells
    exact absent (spelling, entry) ((mem_candidates_iff folded).2 ⟨gives, spells⟩)
  · rintro absent ⟨spelling, entry⟩ member
    obtain ⟨gives, spells⟩ := (mem_candidates_iff folded).1 member
    exact absent spelling entry gives spells

theorem entries_congr (distinct : layer.Distinct) (distinct' : other.Distinct)
    (same : ∀ spelling entry, layer.Gives spelling entry ↔ other.Gives spelling entry)
    (root : Text) : layer.entries root = other.entries root := by
  refine (ordered_ofPairs _).ext (ordered_ofPairs _) fun name => ?_
  by_cases folded : foldCase name = name
  next =>
    apply Option.ext
    intro entry
    have holds : layer.Holds root name entry ↔ other.Holds root name entry := by
      simp only [Holds, same]
    exact (lookup_entries distinct folded).trans
      (holds.trans (lookup_entries distinct' folded).symm)
  next => exact (lookup_entries_of_ne folded).trans (lookup_entries_of_ne folded).symm

structure Reordered (layer other : Layer) : Prop where
  roots : (layer.roots.map Prod.fst).Perm (other.roots.map Prod.fst)
  aliases : ∀ root values, (root, values) ∈ layer.roots →
    ∃ values', (root, values') ∈ other.roots ∧ values.Perm values'

namespace Reordered

theorem once (reordered : layer.Reordered other) (distinct : layer.Distinct) : Once other.roots :=
  reordered.roots.nodup_iff.1 distinct.roots

theorem exists_values (reordered : layer.Reordered other) (distinct : layer.Distinct)
    {values' : Dict Json} (member : (root, values') ∈ other.roots) :
    ∃ values, (root, values) ∈ layer.roots ∧ values.Perm values' := by
  have named : root ∈ layer.roots.map Prod.fst :=
    reordered.roots.mem_iff.2 (List.mem_map_of_mem member)
  obtain ⟨⟨root, values⟩, inside, rfl⟩ := List.mem_map.1 named
  obtain ⟨found, again, perm⟩ := reordered.aliases root values inside
  have first := (reordered.once distinct).lookup_eq_some_iff.2 member
  rw [(reordered.once distinct).lookup_eq_some_iff.2 again] at first
  exact ⟨values, inside, Option.some.inj first ▸ perm⟩

theorem distinct (reordered : layer.Reordered other) (distinct : layer.Distinct) :
    other.Distinct where
  roots := reordered.once distinct
  aliases named member := by
    obtain ⟨values, inside, perm⟩ := reordered.exists_values distinct member
    exact (perm.map Prod.fst).nodup_iff.1 (distinct.aliases _ inside)

theorem gives_iff (reordered : layer.Reordered other) (distinct : layer.Distinct)
    (spelling : Text × Text) (entry : Entry) :
    layer.Gives spelling entry ↔ other.Gives spelling entry := by
  constructor
  · rintro ⟨values, value, inside, member, read⟩
    obtain ⟨values', inside', perm⟩ := reordered.aliases _ _ inside
    exact ⟨values', value, inside', perm.mem_iff.1 member, read⟩
  · rintro ⟨values', value, inside', member, read⟩
    obtain ⟨values, inside, perm⟩ := reordered.exists_values distinct inside'
    exact ⟨values, value, inside, perm.mem_iff.2 member, read⟩

end Reordered

/-- Of all entries that a layer gives for a relation the one counts whose spellings count most. -/
theorem entries_by_precedence (root : Text) :
    (∀ source layer, parse? source = some layer → layer.Distinct) ∧
    ∀ layer : Layer, layer.Distinct →
      (∀ name entry, foldCase name = name →
        ((layer.entries root).lookup name = some entry ↔ layer.Holds root name entry)) ∧
      (∀ name, foldCase name = name →
        ((layer.entries root).lookup name = none ↔
          ∀ spelling entry, layer.Gives spelling entry → ¬ Spells root name spelling)) ∧
      (∀ named ∈ layer.entries root, foldCase named.1 = named.1) ∧
      (∀ other : Layer, other.Distinct →
        (∀ spelling entry, layer.Gives spelling entry ↔ other.Gives spelling entry) →
        other.entries root = layer.entries root) ∧
      ∀ other : Layer, layer.Reordered other → other.entries root = layer.entries root := by
  refine ⟨fun source layer read => (ordered_of_parse? read).distinct, fun layer distinct => ?_⟩
  refine ⟨fun name entry folded => lookup_entries distinct folded,
    fun name folded => lookup_entries_eq_none folded, fun named => foldCase_of_mem_entries,
    fun other distinct' same => (entries_congr distinct distinct' same root).symm,
    fun other reordered => ?_⟩
  have same := reordered.gives_iff distinct
  exact (entries_congr distinct (reordered.distinct distinct) same root).symm

def namedResource (name : String) : Json :=
  .object [("relatedResource".toList, .text name.toList)]

def spelledLayer : Layer where
  roots := [
    ("MXAPIWO".toList, [("asset".toList, namedResource "other")]),
    ("mxapiwo".toList, [("ASSET".toList, namedResource "upper"),
      ("Asset".toList, namedResource "title"), ("asset".toList, .null)])]

def titleEntry : Entry where
  relatedResource := "title".toList

theorem distinct_spelledLayer : spelledLayer.Distinct where
  roots := by simp [Once, spelledLayer]
  aliases := by simp [Once, spelledLayer]

theorem holds_spelledLayer : spelledLayer.Holds "mxapiwo".toList "asset".toList titleEntry := by
  refine ⟨("mxapiwo".toList, "Asset".toList), ?_, ⟨by decide, by decide⟩, ?_⟩
  · exact ⟨_, _, .tail _ (.head _), .tail _ (.head _), rfl⟩
  · rintro ⟨r, x⟩ entry ⟨values, value, inside, member, read⟩ -
    simp only [spelledLayer, List.mem_cons, List.not_mem_nil, or_false, Prod.mk.injEq] at inside
    rcases inside with ⟨rfl, rfl⟩ | ⟨rfl, rfl⟩ <;>
      simp only [List.mem_cons, List.not_mem_nil, or_false, Prod.mk.injEq] at member
    · obtain ⟨rfl, rfl⟩ := member
      decide
    · rcases member with ⟨rfl, rfl⟩ | ⟨rfl, rfl⟩ | ⟨rfl, rfl⟩
      · decide
      · decide
      · cases read

def backwards (layer : Layer) : Layer where
  roots := layer.roots.reverse.map fun named => (named.1, named.2.reverse)

theorem reordered_backwards (layer : Layer) : layer.Reordered layer.backwards where
  roots := by
    rw [backwards, List.map_map]
    exact ((List.reverse_perm layer.roots).map Prod.fst).symm
  aliases root values inside :=
    ⟨values.reverse, List.mem_map.2 ⟨(root, values), List.mem_reverse.2 inside, rfl⟩,
      (List.reverse_perm values).symm⟩

theorem entries_by_precedence_title :
    spelledLayer.Distinct ∧
      (spelledLayer.entries "mxapiwo".toList).lookup "asset".toList = some titleEntry ∧
      (spelledLayer.backwards.entries "mxapiwo".toList).lookup "asset".toList =
        some titleEntry := by
  obtain ⟨found, -, -, -, reordered⟩ :=
    (entries_by_precedence "mxapiwo".toList).2 spelledLayer distinct_spelledLayer
  have title := (found "asset".toList titleEntry rfl).2 holds_spelledLayer
  refine ⟨distinct_spelledLayer, title, ?_⟩
  rw [reordered spelledLayer.backwards (reordered_backwards spelledLayer)]
  exact title

end Prejoin.Layer
