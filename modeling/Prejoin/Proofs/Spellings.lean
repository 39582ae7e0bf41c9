import Mathlib.Data.Prod.Lex
import Prejoin.Proofs.LetterCase
import Prejoin.Proofs.Names
import Prejoin.Relation.Layer

set_option autoImplicit false

namespace Prejoin.Layer

open Json

structure Ordered (layer : Layer) : Prop where
  roots : Prejoin.Ordered layer.roots
  aliases : ∀ named ∈ layer.roots, Prejoin.Ordered named.2

structure Distinct (layer : Layer) : Prop where
  roots : Once layer.roots
  aliases : ∀ named ∈ layer.roots, Once named.2

theorem Ordered.distinct {layer : Layer} (ordered : layer.Ordered) : layer.Distinct :=
  ⟨ordered.roots.once, fun named inside => (ordered.aliases named inside).once⟩

def Part.Ordered : Part → Prop
  | .roots given => Layer.Ordered ⟨given⟩
  | _ => True

theorem map_eq_ok {α β : Type} {f : α → β} {read : Read α} {s rest : Text} {b : β}
    (done : read.map f s = .ok (b, rest)) : ∃ a, read s = .ok (a, rest) ∧ f a = b := by
  unfold Read.map at done
  split at done
  next => cases done
  next a after taken =>
    obtain ⟨rfl, rfl⟩ := Prod.mk.inj (Except.ok.inj done)
    exact ⟨a, taken, rfl⟩

theorem forall_of_readItems {α : Type} {P : α → Prop} {item : Nat → Reader α} {place : Nat}
    {earlier items : List α} {s rest : Text}
    (each : ∀ place s a rest, (item place).read s = .ok (a, rest) → P a)
    (before : ∀ a ∈ earlier, P a) (done : readItems item place earlier s = .ok (items, rest)) :
    ∀ a ∈ items, P a := by
  fun_induction readItems item place earlier s with
  | case1 => cases done
  | case2 =>
    obtain ⟨rfl, -⟩ := Prod.mk.inj (Except.ok.inj done)
    simpa using before
  | case3 => cases done
  | case4 place earlier _ _ _ a _ taken _ _ ih =>
    exact ih (List.forall_mem_cons.2 ⟨each _ _ _ _ taken, before⟩) done

theorem forall_of_readMembers {α : Type} {P : α → Prop} {care : Care} {member : Text → Reader α}
    {earlier members : List (Text × α)} {s rest : Text}
    (each : ∀ name s a rest, (member name).read s = .ok (a, rest) → P a)
    (before : ∀ named ∈ earlier, P named.2)
    (done : readMembers care member earlier s = .ok (members, rest)) :
    ∀ named ∈ members, P named.2 := by
  fun_induction readMembers care member earlier s with
  | case1 => cases done
  | case2 =>
    obtain ⟨rfl, -⟩ := Prod.mk.inj (Except.ok.inj done)
    simpa using before
  | case3 => cases done
  | case4 => cases done
  | case5 earlier _ _ _ name _ _ a _ taken _ _ _ ih =>
    exact ih (List.forall_mem_cons.2 ⟨each _ _ _ _ taken, before⟩) done

theorem forall_of_readObject {α : Type} {P : α → Prop} {member : Text → Reader α} {s rest : Text}
    {members : List (Text × α)}
    (each : ∀ name s a rest, (member name).read s = .ok (a, rest) → P a)
    (done : (readObject member).read s = .ok (members, rest)) : ∀ named ∈ members, P named.2 := by
  unfold readObject readBraced at done
  simp only at done
  split at done
  next => cases done
  next =>
    split at done
    next => exact forall_of_readMembers each (by simp) done
    next => cases done

theorem ordered_readRoots {s rest : Text} {part : Part} (done : readRoots.read s = .ok (part, rest)) :
    part.Ordered := by
  obtain ⟨members, read, rfl⟩ := map_eq_ok done
  have each := forall_of_readObject (P := Prejoin.Ordered) (fun name s given rest taken => by
    obtain ⟨pairs, -, rfl⟩ := map_eq_ok taken
    exact ordered_ofPairs pairs) read
  exact ⟨ordered_ofPairs members, fun named inside => each named (mem_ofPairs inside)⟩

theorem ordered_readVersion {s rest : Text} {part : Part}
    (done : readVersion.read s = .ok (part, rest)) : part.Ordered := by
  obtain ⟨value, -, rfl⟩ := map_eq_ok done
  trivial

theorem ordered_partOfName (name s : Text) (part : Part) (rest : Text)
    (done : (partOfName name).read s = .ok (part, rest)) : part.Ordered := by
  unfold partOfName at done
  split at done
  next => exact ordered_readVersion done
  next =>
    split at done
    next => exact ordered_readRoots done
    next =>
      obtain ⟨value, -, rfl⟩ := map_eq_ok done
      trivial

theorem ordered_partOfPlace (place : Nat) (s : Text) (part : Part) (rest : Text)
    (done : (partOfPlace place).read s = .ok (part, rest)) : part.Ordered := by
  unfold partOfPlace at done
  split at done
  next => exact ordered_readVersion done
  next => exact ordered_readRoots done
  next => cases done

theorem ordered_readParts {s rest : Text} {parts : List Part}
    (done : readParts s = .ok (parts, rest)) : ∀ part ∈ parts, part.Ordered := by
  unfold readParts at done
  split at done
  next => cases done
  next =>
    split at done
    next =>
      obtain ⟨members, read, rfl⟩ := map_eq_ok done
      intro part inside
      obtain ⟨named, member, rfl⟩ := List.mem_map.1 inside
      exact forall_of_readMembers ordered_partOfName (by simp) read named member
    next =>
      split at done
      next => exact forall_of_readItems ordered_partOfPlace (by simp) done
      next => cases done

theorem ordered_ofParts? {parts : List Part} {layer : Layer} (each : ∀ part ∈ parts, part.Ordered)
    (found : ofParts? parts = some layer) : layer.Ordered := by
  unfold ofParts? at found
  split at found
  next => cases found
  next =>
    split at found
    next =>
      obtain rfl := Option.some.inj found
      exact ⟨List.Pairwise.nil, by simp⟩
    next given only =>
      obtain rfl := Option.some.inj found
      have inside : given ∈ parts.filterMap Part.roots? := by simp [only]
      obtain ⟨part, member, same⟩ := List.mem_filterMap.1 inside
      cases part with
      | roots other =>
        obtain rfl : other = given := Option.some.inj same
        exact each _ member
      | version => cases same
      | other => cases same
    next => cases found

theorem exists_of_readWhole {α : Type} {read : Read α} {source : Text} {a : α}
    (whole : readWhole read source = .ok a) : ∃ rest, read source = .ok (a, rest) := by
  unfold readWhole at whole
  split at whole
  next => cases whole
  next value rest taken =>
    split at whole
    next =>
      obtain rfl := Except.ok.inj whole
      exact ⟨rest, taken⟩
    next => cases whole

theorem ordered_of_parse? {source : Text} {layer : Layer} (read : parse? source = some layer) :
    layer.Ordered := by
  unfold parse? at read
  split at read
  next parts whole =>
    obtain ⟨rest, done⟩ := exists_of_readWhole whole
    exact ordered_ofParts? (ordered_readParts done) read
  next => cases read

def precedence (canonical spelling : Text) : Bool ×ₗ Text :=
  toLex (decide (spelling = canonical), spelling)

def rank (root name : Text) (spelling : Text × Text) : (Bool ×ₗ Text) ×ₗ (Bool ×ₗ Text) :=
  toLex (precedence root spelling.1, precedence name spelling.2)

theorem rank_injective (root name : Text) : Function.Injective (rank root name) := by
  intro a b same
  obtain ⟨roots, aliases⟩ := Prod.mk.inj same
  exact Prod.ext (Prod.mk.inj roots).2 (Prod.mk.inj aliases).2

theorem noLaterThan_iff (canonical : Text → Bool) (a b : Text) :
    noLaterThan canonical a b ↔ toLex (canonical a, a) ≤ toLex (canonical b, b) := by
  rw [Prod.Lex.toLex_le_toLex]
  unfold noLaterThan
  cases canonical a <;> cases canonical b <;> simp

theorem pairwise_inOrder {α : Type} (canonical : Text → Bool) (named : List (Text × α)) :
    (inOrder canonical named).Pairwise fun a b =>
      toLex (canonical a.1, a.1) ≤ toLex (canonical b.1, b.1) := by
  have trans (a b c : Text × α) (first : noLaterThan canonical a.1 b.1)
      (second : noLaterThan canonical b.1 c.1) : noLaterThan canonical a.1 c.1 := by
    rw [noLaterThan_iff] at first second ⊢
    exact le_trans first second
  have total (a b : Text × α) : noLaterThan canonical a.1 b.1 || noLaterThan canonical b.1 a.1 := by
    rw [Bool.or_eq_true, noLaterThan_iff, noLaterThan_iff]
    exact le_total _ _
  have sorted := List.pairwise_mergeSort trans total named
  exact sorted.imp fun {a b} less => (noLaterThan_iff canonical a.1 b.1).1 less

theorem inOrder_perm {α : Type} (canonical : Text → Bool) (named : List (Text × α)) :
    (inOrder canonical named).Perm named :=
  List.mergeSort_perm named _

def Gives (layer : Layer) (spelling : Text × Text) (entry : Entry) : Prop :=
  ∃ values value, (spelling.1, values) ∈ layer.roots ∧ (spelling.2, value) ∈ values ∧
    Entry.ofJson? value = some entry

def Spells (root name : Text) (spelling : Text × Text) : Prop :=
  sameName spelling.1 root ∧ sameName spelling.2 name

-- Of all entries that the layer gives for the relation this one has the spellings that count most.
def Holds (layer : Layer) (root name : Text) (entry : Entry) : Prop :=
  ∃ spelling, layer.Gives spelling entry ∧ Spells root name spelling ∧
    ∀ other entry', layer.Gives other entry' → Spells root name other →
      rank root name other ≤ rank root name spelling

def candidates (layer : Layer) (root name : Text) : List ((Text × Text) × Entry) :=
  (inOrder (· = root) (layer.roots.filter fun named => sameName named.1 root)).flatMap fun named =>
    ((inOrder (fun spelling => spelling = foldCase spelling) named.2).filter fun pair =>
        foldCase pair.1 = name).filterMap fun pair =>
      (Entry.ofJson? pair.2).map fun entry => ((named.1, pair.1), entry)

theorem lookup_entries_eq (layer : Layer) (root name : Text) :
    (layer.entries root).lookup name =
      (layer.candidates root name).getLast?.map Prod.snd := by
  have given : layer.entries root = Dict.ofPairs ((layer.aliases root).filterMap fun pair =>
      (Entry.ofJson? pair.2).map fun entry => (foldCase pair.1, entry)) := rfl
  have same : ((layer.aliases root).filterMap fun pair =>
      (Entry.ofJson? pair.2).map fun entry => (foldCase pair.1, entry)).filter
        (fun pair => pair.1 = name) =
      (layer.candidates root name).map fun found => (name, found.2) := by
    simp only [aliases, candidates, List.filterMap_flatMap, List.filter_flatMap, List.map_flatMap,
      List.filter_filterMap, List.map_filterMap, List.filterMap_filter]
    refine List.flatMap_congr fun named _ => List.filterMap_congr fun pair _ => ?_
    cases Entry.ofJson? pair.2 with
    | none => by_cases same : foldCase pair.1 = name <;> simp
    | some entry => by_cases same : foldCase pair.1 = name <;> simp [same]
  rw [given, lookup_ofPairs, same, List.getLast?_map, Option.map_map]
  rfl

theorem mem_candidates_iff {layer : Layer} {root name : Text} (folded : foldCase name = name)
    {spelling : Text × Text} {entry : Entry} :
    (spelling, entry) ∈ layer.candidates root name ↔
      layer.Gives spelling entry ∧ Spells root name spelling := by
  simp only [candidates, List.mem_flatMap, List.mem_filterMap, (inOrder_perm _ _).mem_iff,
    List.mem_filter, Option.map_eq_some_iff, Spells, sameName_iff, folded, Gives]
  constructor
  · rintro ⟨⟨r, values⟩, ⟨inside, root⟩, ⟨x, value⟩, ⟨member, name⟩, entry, read, same⟩
    obtain ⟨rfl, rfl⟩ := Prod.mk.inj same
    exact ⟨⟨values, value, inside, member, read⟩, root, by simpa using name⟩
  · rintro ⟨⟨values, value, inside, member, read⟩, root, name⟩
    exact ⟨(spelling.1, values), ⟨inside, root⟩, (spelling.2, value),
      ⟨member, by simpa using name⟩, entry, read, rfl⟩

theorem pairwise_candidates {layer : Layer} (distinct : layer.Distinct) (root name : Text) :
    (layer.candidates root name).Pairwise fun a b => rank root name a.1 ≤ rank root name b.1 := by
  unfold candidates
  apply List.pairwise_flatMap.2
  constructor
  next =>
    intro named _
    apply List.pairwise_filterMap.2
    have sorted := pairwise_inOrder (fun spelling => spelling = foldCase spelling) named.2
    refine (sorted.filter _).imp_of_mem fun {a b} left right less => ?_
    have first : foldCase a.1 = name := by simpa using (List.mem_filter.1 left).2
    have second : foldCase b.1 = name := by simpa using (List.mem_filter.1 right).2
    rw [first, second] at less
    intro found given other given'
    obtain ⟨_, -, rfl⟩ := Option.map_eq_some_iff.1 given
    obtain ⟨_, -, rfl⟩ := Option.map_eq_some_iff.1 given'
    exact Prod.Lex.toLex_le_toLex.2 (.inr ⟨rfl, less⟩)
  next =>
    -- No root is spelled the same way twice, so the order of the roots alone decides.
    have once : (inOrder (· = root) (layer.roots.filter fun named =>
        sameName named.1 root)).Pairwise fun a b => a.1 ≠ b.1 := by
      apply ((inOrder_perm _ _).pairwise_iff fun different => different.symm).2
      exact (List.pairwise_map.1 distinct.roots).filter _
    refine ((pairwise_inOrder (· = root) _).and once).imp fun {a b} both => ?_
    have less : precedence root a.1 < precedence root b.1 :=
      lt_of_le_of_ne both.1 fun same => both.2 (Prod.mk.inj same).2
    intro found inside other inside'
    obtain ⟨_, -, given⟩ := List.mem_filterMap.1 inside
    obtain ⟨_, -, given'⟩ := List.mem_filterMap.1 inside'
    obtain ⟨_, -, rfl⟩ := Option.map_eq_some_iff.1 given
    obtain ⟨_, -, rfl⟩ := Option.map_eq_some_iff.1 given'
    exact Prod.Lex.toLex_le_toLex.2 (.inl less)

theorem Gives.unique {layer : Layer} (distinct : layer.Distinct) {spelling : Text × Text}
    {entry entry' : Entry} (gives : layer.Gives spelling entry)
    (again : layer.Gives spelling entry') : entry = entry' := by
  obtain ⟨values, value, root, member, read⟩ := gives
  obtain ⟨values', value', root', member', read'⟩ := again
  have first := distinct.roots.lookup_eq_some_iff.2 root
  rw [distinct.roots.lookup_eq_some_iff.2 root'] at first
  obtain rfl := Option.some.inj first
  have aliases := distinct.aliases _ root
  have second := aliases.lookup_eq_some_iff.2 member
  rw [aliases.lookup_eq_some_iff.2 member'] at second
  obtain rfl := Option.some.inj second
  exact Option.some.inj (read.symm.trans read')

theorem foldCase_of_mem_entries {layer : Layer} {root : Text} {named : Text × Entry}
    (member : named ∈ layer.entries root) : foldCase named.1 = named.1 := by
  obtain ⟨pair, -, found⟩ := List.mem_filterMap.1 (mem_ofPairs member)
  obtain ⟨entry, -, rfl⟩ := Option.map_eq_some_iff.1 found
  exact foldCase_foldCase pair.1

theorem lookup_entries {layer : Layer} (distinct : layer.Distinct) {root name : Text}
    (folded : foldCase name = name) {entry : Entry} :
    (layer.entries root).lookup name = some entry ↔ layer.Holds root name entry := by
  rw [lookup_entries_eq, Option.map_eq_some_iff]
  have sorted := pairwise_candidates distinct root name
  have last (found : (Text × Text) × Entry)
      (ends : (layer.candidates root name).getLast? = some found) :
      ∀ other ∈ layer.candidates root name, rank root name other.1 ≤ rank root name found.1 := by
    obtain ⟨before, split⟩ := List.getLast?_eq_some_iff.1 ends
    rw [split] at sorted ⊢
    intro other member
    rcases List.mem_append.1 member with inside | final
    · exact (List.pairwise_append.1 sorted).2.2 other inside found (by simp)
    · rw [List.mem_singleton.1 final]
  constructor
  · rintro ⟨⟨spelling, entry⟩, ends, rfl⟩
    have member := List.mem_of_getLast? ends
    obtain ⟨gives, spells⟩ := (mem_candidates_iff folded).1 member
    refine ⟨spelling, gives, spells, fun other entry' given spelled => ?_⟩
    exact last _ ends _ ((mem_candidates_iff folded).2 ⟨given, spelled⟩)
  · rintro ⟨spelling, gives, spells, greatest⟩
    have member := (mem_candidates_iff folded).2 ⟨gives, spells⟩
    obtain ⟨found, ends⟩ := Option.isSome_iff_exists.1
      (List.getLast?_isSome.2 (List.ne_nil_of_mem member))
    obtain ⟨given, spelled⟩ := (mem_candidates_iff folded).1 (List.mem_of_getLast? ends)
    have same : found.1 = spelling := rank_injective root name
      (le_antisymm (greatest _ _ given spelled) (last _ ends _ member))
    exact ⟨found, ends, Gives.unique distinct (same ▸ given) gives⟩

end Prejoin.Layer
