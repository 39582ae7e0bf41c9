import Mathlib.Data.List.Induction
import Mathlib.Data.List.Pairwise
import Prejoin.Proofs.Grouping

set_option autoImplicit false

namespace Prejoin

theorem Group.ofPredicates_concat (seen : List Predicate) (p : Predicate) :
    Group.ofPredicates (seen ++ [p]) = Group.insert p (Group.ofPredicates seen) := by
  simp [Group.ofPredicates]

theorem Group.map_predicate_insert (p : Predicate) (groups : List Group) :
    (Group.insert p groups).map Group.predicate =
      if groups.any fun g => g.predicate.sameClause p then groups.map Group.predicate
      else groups.map Group.predicate ++ [p] := by
  induction groups with
  | nil => rfl
  | cons g rest ih =>
    by_cases same : g.predicate.sameClause p
    next => simp [Group.insert, same]
    next =>
      rw [Group.insert, if_neg same, List.map_cons, ih, List.any_cons, eq_false_of_ne_true same,
        Bool.false_or]
      split <;> rfl

theorem Group.leaders_in_order (predicates : List Predicate) :
    ((Group.ofPredicates predicates).map Group.predicate).Pairwise fun p q =>
      predicates.findIdx p.sameClause < predicates.findIdx q.sameClause := by
  -- On the predicates from their end on, as the groups are built.
  induction predicates using List.reverseRecOn with
  | nil => exact .nil
  | append_singleton seen p ih =>
    have partitions := Group.partitions_ofPredicates seen
    have within : ∀ r ∈ (Group.ofPredicates seen).map Group.predicate,
        seen.findIdx r.sameClause < seen.length := by
      intro r member
      obtain ⟨g, grouped, rfl⟩ := List.mem_map.1 member
      have found := partitions.first g grouped
      exact List.findIdx_lt_length.2 ⟨_, List.mem_of_find?_eq_some found, List.find?_some found⟩
    have kept : ∀ r ∈ (Group.ofPredicates seen).map Group.predicate,
        (seen ++ [p]).findIdx r.sameClause = seen.findIdx r.sameClause := by
      intro r member
      rw [List.findIdx_append, if_pos (within r member)]
    have earlier : ((Group.ofPredicates seen).map Group.predicate).Pairwise fun r s =>
        (seen ++ [p]).findIdx r.sameClause < (seen ++ [p]).findIdx s.sameClause := by
      apply ih.imp_of_mem
      intro r s first second before
      rw [kept r first, kept s second]
      exact before
    rw [Group.ofPredicates_concat, Group.map_predicate_insert]
    split
    next known => exact earlier
    next unknown =>
      have unseen : ¬ seen.findIdx p.sameClause < seen.length := by
        intro before
        obtain ⟨q, inside, same⟩ := List.findIdx_lt_length.1 before
        obtain ⟨r, member, leads⟩ := partitions.covers q inside
        obtain ⟨g, grouped, rfl⟩ := List.mem_map.1 member
        have known := Predicate.sameClause_trans leads (Predicate.sameClause_symm same)
        exact unknown (List.any_eq_true.2 ⟨g, grouped, known⟩)
      refine List.pairwise_append.2 ⟨earlier, List.pairwise_singleton _ _, ?_⟩
      intro r member q last
      obtain rfl := List.mem_singleton.1 last
      have before := within r member
      rw [kept r member, List.findIdx_append, if_neg unseen]
      omega

structure Group.Classes (groups : List Group) (predicates : List Predicate) : Prop where
  distinct : groups.Pairwise fun g h => g.predicate.sameClause h.predicate = false
  first : ∀ g ∈ groups, ∃ before after, predicates = before ++ g.predicate :: after ∧
    ∀ p ∈ before, g.predicate.sameClause p = false
  ordered : groups.Pairwise fun g h =>
    predicates.findIdx g.predicate.sameClause < predicates.findIdx h.predicate.sameClause
  spans : ∀ g ∈ groups, g.spans = (predicates.filter g.predicate.sameClause).map Predicate.span
  whole : (groups.flatMap Group.spans).Perm (predicates.map Predicate.span)
  once : ∀ p ∈ predicates, ∃! g, g ∈ groups ∧ g.predicate.sameClause p

theorem Group.Partitions.whole {groups : List Group} {predicates : List Predicate}
    (partitions : Group.Partitions groups predicates) :
    (groups.flatMap Group.spans).Perm (predicates.map Predicate.span) := by
  have covered : (predicates.filter fun p =>
      (groups.map Group.predicate).any fun r => r.sameClause p) = predicates := by
    refine List.filter_eq_self.2 fun p inside => ?_
    obtain ⟨r, member, same⟩ := partitions.covers p inside
    exact List.any_eq_true.2 ⟨r, member, same⟩
  have members := classes_perm predicates partitions.distinct
  rw [covered] at members
  have spans : groups.flatMap Group.spans = ((groups.map Group.predicate).flatMap fun r =>
      predicates.filter r.sameClause).map Predicate.span := by
    rw [List.map_flatMap, List.flatMap_map]
    exact List.flatMap_congr fun g grouped => partitions.spans g grouped
  rw [spans]
  exact members.map Predicate.span

theorem Group.Partitions.once {groups : List Group} {predicates : List Predicate}
    (partitions : Group.Partitions groups predicates) {p : Predicate} (inside : p ∈ predicates) :
    ∃! g, g ∈ groups ∧ g.predicate.sameClause p := by
  obtain ⟨r, member, leads⟩ := partitions.covers p inside
  obtain ⟨g, grouped, rfl⟩ := List.mem_map.1 member
  refine ⟨g, ⟨grouped, leads⟩, ?_⟩
  rintro h ⟨grouped', leads'⟩
  by_contra other
  have symm : Std.Symm fun g h : Group => g.predicate.sameClause h.predicate = false :=
    ⟨fun g h apart => by rwa [Predicate.sameClause_comm]⟩
  have apart := (List.pairwise_map.1 partitions.distinct).forall grouped grouped' (Ne.symm other)
  have same := Predicate.sameClause_trans leads (Predicate.sameClause_symm leads')
  rw [apart] at same
  cases same

theorem Group.classes_ofPredicates (predicates : List Predicate) :
    Group.Classes (Group.ofPredicates predicates) predicates := by
  have partitions := Group.partitions_ofPredicates predicates
  constructor
  case distinct => exact List.pairwise_map.1 partitions.distinct
  case first =>
    intro g grouped
    obtain ⟨-, before, after, split, others⟩ :=
      List.find?_eq_some_iff_append.1 (partitions.first g grouped)
    exact ⟨before, after, split, by simpa using others⟩
  case ordered =>
    have led := Group.leaders_in_order predicates
    rw [List.pairwise_map] at led
    exact led
  case spans => exact partitions.spans
  case whole => exact partitions.whole
  case once => exact fun p inside => partitions.once inside

end Prejoin
