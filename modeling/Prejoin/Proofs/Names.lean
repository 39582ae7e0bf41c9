import Mathlib.Data.Char
import Mathlib.Data.List.Lex
import Prejoin.Dict

set_option autoImplicit false

namespace Prejoin

variable {α β : Type}

def Ordered (dict : Dict α) : Prop :=
  dict.Pairwise fun a b => a.1 < b.1

instance (dict : Dict α) : Decidable (Ordered dict) :=
  inferInstanceAs (Decidable (dict.Pairwise fun a b => a.1 < b.1))

def Once (dict : Dict α) : Prop :=
  (dict.map Prod.fst).Nodup

theorem mem_put {name : Text} {value : α} {dict : Dict α} {pair : Text × α}
    (member : pair ∈ put name value dict) : pair = (name, value) ∨ pair ∈ dict := by
  induction dict with
  | nil => exact .inl (by simpa [put] using member)
  | cons head rest ih =>
    obtain ⟨other, held⟩ := head
    unfold put at member
    split at member
    next =>
      rcases List.mem_cons.1 member with first | later
      · exact .inl first
      · exact .inr (List.mem_cons_of_mem _ later)
    next =>
      split at member
      next => simpa using member
      next =>
        rcases List.mem_cons.1 member with first | later
        · exact .inr (first ▸ List.mem_cons_self)
        · exact (ih later).imp_right (List.mem_cons_of_mem _)

theorem Ordered.put {dict : Dict α} (ordered : Ordered dict) (name : Text) (value : α) :
    Ordered (put name value dict) := by
  induction dict with
  | nil => exact List.pairwise_singleton _ _
  | cons head rest ih =>
    obtain ⟨other, held⟩ := head
    obtain ⟨first, later⟩ := List.pairwise_cons.1 ordered
    unfold Prejoin.put
    by_cases same : name = other
    next =>
      rw [if_pos same]
      exact List.pairwise_cons.2 ⟨same ▸ first, later⟩
    next =>
      rw [if_neg same]
      by_cases less : name < other
      next =>
        rw [if_pos less]
        refine List.pairwise_cons.2 ⟨fun pair member => ?_, ordered⟩
        rcases List.mem_cons.1 member with rfl | inside
        · exact less
        · exact lt_trans less (first pair inside)
      next =>
        rw [if_neg less]
        have greater : other < name := lt_of_le_of_ne (not_lt.1 less) (Ne.symm same)
        refine List.pairwise_cons.2 ⟨fun pair member => ?_, ih later⟩
        rcases mem_put member with rfl | inside
        · exact greater
        · exact first pair inside

theorem Ordered.foldl_put {dict : Dict α} (ordered : Ordered dict) (pairs : List (Text × α)) :
    Ordered (pairs.foldl (fun dict pair => Prejoin.put pair.1 pair.2 dict) dict) := by
  induction pairs generalizing dict with
  | nil => exact ordered
  | cons pair rest ih => exact ih (ordered.put pair.1 pair.2)

theorem ordered_ofPairs (pairs : List (Text × α)) : Ordered (Dict.ofPairs pairs) :=
  Ordered.foldl_put List.Pairwise.nil pairs

theorem mem_foldl_put {pairs : List (Text × α)} {dict : Dict α} {pair : Text × α}
    (member : pair ∈ pairs.foldl (fun dict pair => put pair.1 pair.2 dict) dict) :
    pair ∈ pairs ∨ pair ∈ dict := by
  induction pairs generalizing dict with
  | nil => exact .inr member
  | cons first rest ih =>
    rcases ih member with inside | before
    · exact .inl (List.mem_cons_of_mem _ inside)
    · rcases mem_put before with rfl | held
      · exact .inl List.mem_cons_self
      · exact .inr held

theorem mem_ofPairs {pairs : List (Text × α)} {pair : Text × α}
    (member : pair ∈ Dict.ofPairs pairs) : pair ∈ pairs :=
  (mem_foldl_put member).resolve_right List.not_mem_nil

theorem Ordered.extendedBy {dict : Dict α} (ordered : Ordered dict) (more : Dict α) :
    Ordered (dict.extendedBy more) :=
  ordered.foldl_put more

theorem Once.lookup_eq_some_iff {dict : Dict α} (once : Once dict) {name : Text} {value : α} :
    dict.lookup name = some value ↔ (name, value) ∈ dict := by
  induction dict with
  | nil => simp
  | cons head rest ih =>
    obtain ⟨other, held⟩ := head
    obtain ⟨first, later⟩ := List.nodup_cons.1 once
    rw [lookup_pair, List.mem_cons]
    by_cases same : name = other
    next =>
      rw [if_pos same, Option.some_inj, Prod.mk.injEq]
      constructor
      · intro value
        exact .inl ⟨same, value.symm⟩
      · rintro (⟨-, value⟩ | inside)
        · exact value.symm
        · exact absurd (List.mem_map_of_mem inside) (same ▸ first)
    next => simp [same, ih later]

theorem Ordered.once {dict : Dict α} (ordered : Ordered dict) : Once dict :=
  List.pairwise_map.2 (ordered.imp fun less => ne_of_lt less)

theorem Ordered.lookup_eq_some_iff {dict : Dict α} (ordered : Ordered dict) {name : Text}
    {value : α} : dict.lookup name = some value ↔ (name, value) ∈ dict :=
  ordered.once.lookup_eq_some_iff

theorem Ordered.ext {dict other : Dict α} (ordered : Ordered dict) (ordered' : Ordered other)
    (same : ∀ name, dict.lookup name = other.lookup name) : dict = other := by
  have nodup {dict : Dict α} (ordered : Ordered dict) : dict.Nodup :=
    List.Pairwise.of_map Prod.fst (fun _ _ => mt (congrArg Prod.fst)) ordered.once
  have perm : dict.Perm other := by
    refine (List.perm_ext_iff_of_nodup (nodup ordered) (nodup ordered')).2 fun pair => ?_
    rw [← ordered.lookup_eq_some_iff, same, ordered'.lookup_eq_some_iff]
  exact perm.eq_of_pairwise (fun a b _ _ less more => absurd less (lt_asymm more)) ordered ordered'

theorem lookup_foldl_put (name : Text) (pairs : List (Text × α)) (dict : Dict α) :
    (pairs.foldl (fun dict pair => put pair.1 pair.2 dict) dict).lookup name =
      ((pairs.filter fun pair => pair.1 = name).getLast?.map Prod.snd).or (dict.lookup name) := by
  induction pairs generalizing dict with
  | nil => rfl
  | cons pair rest ih =>
    rw [List.foldl_cons, ih, lookup_put]
    by_cases same : pair.1 = name
    next =>
      rw [List.filter_cons_of_pos (by simpa using same), if_pos same.symm, List.getLast?_cons]
      cases (rest.filter fun pair => pair.1 = name).getLast? <;> rfl
    next => rw [List.filter_cons_of_neg (by simpa using same), if_neg (Ne.symm same)]

theorem lookup_ofPairs (name : Text) (pairs : List (Text × α)) :
    (Dict.ofPairs pairs).lookup name =
      (pairs.filter fun pair => pair.1 = name).getLast?.map Prod.snd := by
  rw [Dict.ofPairs, lookup_foldl_put, List.lookup_nil, Option.or_none]

end Prejoin
