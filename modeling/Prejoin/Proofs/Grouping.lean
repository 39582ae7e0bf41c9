import Mathlib.Data.List.Perm.Basic
import Mathlib.Tactic.Common
import Prejoin.Filter.Group

set_option autoImplicit false

namespace Prejoin

theorem Predicate.sameClause_comm (p q : Predicate) : p.sameClause q = q.sameClause p :=
  Bool.eq_iff_iff.2 ⟨Predicate.sameClause_symm, Predicate.sameClause_symm⟩

theorem Predicate.sameClause_congr {p q : Predicate} (same : p.sameClause q) (r : Predicate) :
    p.sameClause r = q.sameClause r :=
  Bool.eq_iff_iff.2 ⟨Predicate.sameClause_trans (Predicate.sameClause_symm same),
    Predicate.sameClause_trans same⟩

structure Group.Partitions (groups : List Group) (predicates : List Predicate) : Prop where
  distinct : (groups.map Group.predicate).Pairwise fun p q => p.sameClause q = false
  first : ∀ g ∈ groups, predicates.find? g.predicate.sameClause = some g.predicate
  spans : ∀ g ∈ groups, g.spans = (predicates.filter g.predicate.sameClause).map Predicate.span
  covers : ∀ p ∈ predicates, ∃ r ∈ groups.map Group.predicate, r.sameClause p
  ordered : (groups.map Group.predicate).Sublist predicates

theorem Group.insert_new {p : Predicate} {groups : List Group}
    (others : ∀ g ∈ groups, g.predicate.sameClause p = false) :
    Group.insert p groups = groups ++ [⟨p, [p.span]⟩] := by
  induction groups with
  | nil => rfl
  | cons g rest ih =>
    have other := others g List.mem_cons_self
    rw [Group.insert, other, ih fun h inside => others h (List.mem_cons_of_mem g inside)]
    rfl

theorem Group.insert_known {p : Predicate} {before after : List Group} {group : Group}
    (others : ∀ g ∈ before, g.predicate.sameClause p = false)
    (same : group.predicate.sameClause p) :
    Group.insert p (before ++ group :: after) =
      before ++ { group with spans := group.spans ++ [p.span] } :: after := by
  induction before with
  | nil => simp [Group.insert, same]
  | cons g rest ih =>
    have other := others g List.mem_cons_self
    rw [List.cons_append, Group.insert, other,
      ih fun h inside => others h (List.mem_cons_of_mem g inside)]
    rfl

theorem Group.Partitions.insert_new {groups : List Group} {predicates : List Predicate}
    (partitions : Group.Partitions groups predicates) {p : Predicate}
    (others : ∀ g ∈ groups, g.predicate.sameClause p = false) :
    Group.Partitions (Group.insert p groups) (predicates ++ [p]) := by
  -- A predicate of the same clause would have left a group behind.
  have unseen : ∀ q ∈ predicates, p.sameClause q = false := by
    intro q inside
    obtain ⟨r, member, same⟩ := partitions.covers q inside
    obtain ⟨g, grouped, rfl⟩ := List.mem_map.1 member
    rw [Predicate.sameClause_comm, ← Predicate.sameClause_congr same]
    exact others g grouped
  rw [Group.insert_new others]
  constructor
  case distinct =>
    rw [List.map_append, List.pairwise_append]
    exact ⟨partitions.distinct, by simp, by simpa using others⟩
  case first =>
    intro g member
    rcases List.mem_append.1 member with member | member
    · simp [List.find?_append, partitions.first g member]
    · obtain rfl := List.mem_singleton.1 member
      have missing : predicates.find? p.sameClause = none := by simpa using unseen
      simp [List.find?_append, missing]
  case spans =>
    intro g member
    rcases List.mem_append.1 member with member | member
    · simp [partitions.spans g member, others g member]
    · obtain rfl := List.mem_singleton.1 member
      have missing : predicates.filter p.sameClause = [] := by simpa using unseen
      simp [missing]
  case covers =>
    intro q inside
    rcases List.mem_append.1 inside with inside | inside
    · obtain ⟨r, member, same⟩ := partitions.covers q inside
      exact ⟨r, by simp [member], same⟩
    · obtain rfl := List.mem_singleton.1 inside
      exact ⟨q, by simp, by simp⟩
  case ordered =>
    simpa using partitions.ordered.append (List.Sublist.refl [p])

theorem Group.Partitions.insert_known {before after : List Group} {group : Group}
    {predicates : List Predicate}
    (partitions : Group.Partitions (before ++ group :: after) predicates) {p : Predicate}
    (others : ∀ g ∈ before, g.predicate.sameClause p = false)
    (same : group.predicate.sameClause p) :
    Group.Partitions (Group.insert p (before ++ group :: after)) (predicates ++ [p]) := by
  have later : ∀ g ∈ after, g.predicate.sameClause p = false := by
    intro g inside
    have distinct := partitions.distinct
    rw [List.map_append, List.map_cons, List.pairwise_append, List.pairwise_cons] at distinct
    have apart := distinct.2.1.1 g.predicate (List.mem_map_of_mem inside)
    rwa [Predicate.sameClause_comm, ← Predicate.sameClause_congr same]
  have names : (before ++ { group with spans := group.spans ++ [p.span] } :: after).map
      Group.predicate = (before ++ group :: after).map Group.predicate := by
    simp
  have untouched : ∀ g, g ∈ before ∨ g ∈ after →
      g ∈ before ++ group :: after ∧ g.predicate.sameClause p = false := by
    rintro g (inside | inside)
    · exact ⟨by simp [inside], others g inside⟩
    · exact ⟨by simp [inside], later g inside⟩
  rw [Group.insert_known others same]
  constructor
  case distinct =>
    rw [names]
    exact partitions.distinct
  case first =>
    intro g member
    rw [List.find?_append]
    rcases List.mem_append.1 member with inside | inside
    · simp [partitions.first g (untouched g (.inl inside)).1]
    rcases List.mem_cons.1 inside with rfl | inside
    · simp [partitions.first group (by simp)]
    · simp [partitions.first g (untouched g (.inr inside)).1]
  case spans =>
    intro g member
    rw [List.filter_append, List.map_append]
    rcases List.mem_append.1 member with inside | inside
    · obtain ⟨member, other⟩ := untouched g (.inl inside)
      simp [partitions.spans g member, other]
    rcases List.mem_cons.1 inside with rfl | inside
    · simp [partitions.spans group (by simp), same]
    · obtain ⟨member, other⟩ := untouched g (.inr inside)
      simp [partitions.spans g member, other]
  case covers =>
    intro q inside
    rw [names]
    rcases List.mem_append.1 inside with inside | inside
    · exact partitions.covers q inside
    · obtain rfl := List.mem_singleton.1 inside
      exact ⟨group.predicate, by simp, same⟩
  case ordered =>
    rw [names]
    exact partitions.ordered.trans (List.sublist_append_left _ _)

theorem Group.Partitions.insert {groups : List Group} {predicates : List Predicate}
    (partitions : Group.Partitions groups predicates) (p : Predicate) :
    Group.Partitions (Group.insert p groups) (predicates ++ [p]) := by
  cases found : groups.find? fun g => g.predicate.sameClause p with
  | none =>
    exact partitions.insert_new (by simpa using found)
  | some group =>
    obtain ⟨same, before, after, rfl, others⟩ := List.find?_eq_some_iff_append.1 found
    exact partitions.insert_known (by simpa using others) same

theorem Group.partitions_ofPredicates (predicates : List Predicate) :
    Group.Partitions (Group.ofPredicates predicates) predicates := by
  have run (seen more : List Predicate) (groups : List Group)
      (partitions : Group.Partitions groups seen) :
      Group.Partitions (more.foldl (fun groups p => Group.insert p groups) groups)
        (seen ++ more) := by
    induction more generalizing seen groups with
    | nil => simpa using partitions
    | cons p rest ih => simpa using ih (seen ++ [p]) _ (partitions.insert p)
  exact run [] predicates [] ⟨by simp, by simp, by simp, by simp, by simp⟩

def firstOfClauses (predicates : List Predicate) : List Predicate :=
  predicates.filter fun p => predicates.find? p.sameClause = some p

theorem Group.Partitions.map_predicate {groups : List Group} {predicates : List Predicate}
    (partitions : Group.Partitions groups predicates) (distinct : predicates.Nodup) :
    groups.map Group.predicate = firstOfClauses predicates := by
  have first : ∀ p ∈ groups.map Group.predicate, predicates.find? p.sameClause = some p := by
    intro p member
    obtain ⟨g, grouped, rfl⟩ := List.mem_map.1 member
    exact partitions.first g grouped
  have within : (groups.map Group.predicate).Sublist (firstOfClauses predicates) := by
    have filtered := partitions.ordered.filter fun p => predicates.find? p.sameClause = some p
    rwa [List.filter_eq_self.2 fun p member => by simpa using first p member] at filtered
  have covered : firstOfClauses predicates ⊆ groups.map Group.predicate := by
    intro p member
    obtain ⟨inside, leads⟩ := List.mem_filter.1 member
    obtain ⟨r, grouped, same⟩ := partitions.covers p inside
    have alike : r.sameClause = p.sameClause := funext (Predicate.sameClause_congr same)
    have found := first r grouped
    rw [alike, of_decide_eq_true leads] at found
    rwa [Option.some.inj found]
  have alone : (firstOfClauses predicates).Nodup := distinct.filter _
  exact within.eq_of_length_le (List.subperm_of_subset alone covered).length_le

theorem Group.ofPredicates_eq {predicates : List Predicate} (distinct : predicates.Nodup) :
    Group.ofPredicates predicates = (firstOfClauses predicates).map fun p =>
      ⟨p, (predicates.filter p.sameClause).map Predicate.span⟩ := by
  have partitions := Group.partitions_ofPredicates predicates
  have each : ∀ g ∈ Group.ofPredicates predicates,
      g = ⟨g.predicate, (predicates.filter g.predicate.sameClause).map Predicate.span⟩ := by
    intro g grouped
    rw [← partitions.spans g grouped]
  rw [← partitions.map_predicate distinct, List.map_map]
  calc Group.ofPredicates predicates
    _ = (Group.ofPredicates predicates).map id := (List.map_id _).symm
    _ = _ := List.map_congr_left each

theorem classes_perm {representatives : List Predicate} (predicates : List Predicate)
    (distinct : representatives.Pairwise fun p q => p.sameClause q = false) :
    (representatives.flatMap fun r => predicates.filter r.sameClause).Perm
      (predicates.filter fun p => representatives.any fun r => r.sameClause p) := by
  induction representatives with
  | nil => simp
  | cons r rest ih =>
    obtain ⟨apart, distinct⟩ := List.pairwise_cons.1 distinct
    have others (p : Predicate) (same : r.sameClause p) :
        (rest.any fun s => s.sameClause p) = false := by
      simp only [List.any_eq_false, Bool.not_eq_true]
      intro s member
      rw [Predicate.sameClause_comm, ← Predicate.sameClause_congr same]
      exact apart s member
    let taken (p : Predicate) : Bool := (r :: rest).any fun s => s.sameClause p
    have own : (predicates.filter taken).filter r.sameClause = predicates.filter r.sameClause := by
      rw [List.filter_filter]
      exact List.filter_congr fun p _ => by cases same : r.sameClause p <;> simp [taken, same]
    have foreign : (predicates.filter taken).filter (fun p => !r.sameClause p) =
        predicates.filter fun p => rest.any fun s => s.sameClause p := by
      rw [List.filter_filter]
      apply List.filter_congr
      intro p _
      cases same : r.sameClause p with
      | false => simp [taken, same]
      | true => simp [others p same]
    have split := List.filter_append_perm r.sameClause (predicates.filter taken)
    rw [own, foreign] at split
    exact (List.Perm.append_left _ (ih distinct)).trans split

end Prejoin
