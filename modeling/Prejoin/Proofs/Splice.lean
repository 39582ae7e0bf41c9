import Mathlib.Data.List.Pairwise
import Mathlib.Tactic.Common
import Prejoin.Filter.Substitution

set_option autoImplicit false

namespace Prejoin

def spliceFrom (offset : Nat) (rest : Text) : List Substitution → Text
  | [] => rest
  | s :: later =>
    takeBytes (s.span.start - offset) rest ++ s.replacement ++
      spliceFrom s.span.stop (dropBytes (s.span.stop - offset) rest) later

def splice (filter : Text) (substitutions : List Substitution) : Text :=
  spliceFrom 0 filter substitutions

theorem start_le_stop {span : Span} {source : Text} (fits : span.fits source) :
    span.start ≤ span.stop := by
  simp only [Span.fits, Bool.and_eq_true, decide_eq_true_eq] at fits
  exact fits.1.1

theorem isBoundary_append {before rest : Text} {n : Nat} (beyond : byteLength before ≤ n) :
    isBoundary n (before ++ rest) ↔
      ∃ a b, rest = a ++ b ∧ byteLength before + byteLength a = n := by
  rw [isBoundary_iff]
  constructor
  · rintro ⟨s, t, same, rfl⟩
    rcases List.append_eq_append_iff.1 same with ⟨a, rfl, rfl⟩ | ⟨c, rfl, rfl⟩
    · exact ⟨a, t, rfl, by simp⟩
    · have empty : c = [] := byteLength_eq_zero_iff.1 (by simp at beyond; omega)
      exact ⟨[], rest, rfl, by simp [empty]⟩
  · rintro ⟨a, b, rfl, rfl⟩
    exact ⟨before ++ a, b, by simp, by simp⟩

theorem fits_append {before rest : Text} {span : Span} (beyond : byteLength before ≤ span.start) :
    span.fits (before ++ rest) ↔ ∃ a b c, rest = a ++ b ++ c ∧
      span = ⟨byteLength before + byteLength a, byteLength before + byteLength (a ++ b)⟩ := by
  obtain ⟨start, stop⟩ := span
  constructor
  · intro fits
    simp only [Span.fits, Bool.and_eq_true, decide_eq_true_eq] at fits
    obtain ⟨⟨forward, starts⟩, stops⟩ := fits
    obtain ⟨a, tail, rfl, rfl⟩ := (isBoundary_append beyond).1 starts
    rw [← List.append_assoc] at stops
    obtain ⟨b, c, rfl, rfl⟩ := (isBoundary_append (by simpa using forward)).1 stops
    exact ⟨a, b, c, by simp, by simp [Nat.add_assoc]⟩
  · rintro ⟨a, b, c, rfl, same⟩
    obtain ⟨rfl, rfl⟩ := Span.mk.inj same
    simp only [Span.fits, Bool.and_eq_true, decide_eq_true_eq]
    refine ⟨⟨by simp, (isBoundary_append (by simp)).2 ⟨a, b ++ c, by simp, rfl⟩⟩,
      (isBoundary_append (by simp)).2 ⟨a ++ b, c, rfl, rfl⟩⟩

theorem check_cons_iff {filter : Text} {previous : Nat} {s : Substitution}
    {later : List Substitution} :
    check filter previous (s :: later) = .ok () ↔
      s.span.fits filter ∧ previous ≤ s.span.start ∧ check filter s.span.stop later = .ok () := by
  rw [check]
  cases s.span.fits filter with
  | false => simp
  | true =>
    by_cases early : s.span.start < previous
    · have beyond : ¬ previous ≤ s.span.start := Nat.not_le.2 early
      simp [early, beyond]
    · simp [early, Nat.not_lt.1 early]

theorem check_of_pairwise {filter : Text} {previous : Nat} {substitutions : List Substitution}
    (fits : ∀ s ∈ substitutions, s.span.fits filter)
    (beyond : ∀ s ∈ substitutions, previous ≤ s.span.start)
    (apart : substitutions.Pairwise fun a b => a.span.stop ≤ b.span.start) :
    check filter previous substitutions = .ok () := by
  induction substitutions generalizing previous with
  | nil => rfl
  | cons s later ih =>
    obtain ⟨after, apart⟩ := List.pairwise_cons.1 apart
    rw [check_cons_iff]
    exact ⟨fits s List.mem_cons_self, beyond s List.mem_cons_self,
      ih (fun t inside => fits t (List.mem_cons_of_mem s inside)) after apart⟩

theorem pairwise_of_check {filter : Text} {previous : Nat} {substitutions : List Substitution}
    (checked : check filter previous substitutions = .ok ()) :
    (∀ s ∈ substitutions, s.span.fits filter ∧ previous ≤ s.span.start) ∧
      substitutions.Pairwise fun a b => a.span.stop ≤ b.span.start := by
  -- Each is checked against the one before it only; that none runs backwards does the rest.
  induction substitutions generalizing previous with
  | nil => exact ⟨by simp, .nil⟩
  | cons s later ih =>
    obtain ⟨fits, beyond, checked⟩ := check_cons_iff.1 checked
    obtain ⟨each, apart⟩ := ih checked
    have forward := start_le_stop fits
    refine ⟨List.forall_mem_cons.2 ⟨⟨fits, beyond⟩, fun t inside => ?_⟩,
      List.pairwise_cons.2 ⟨fun t inside => (each t inside).2, apart⟩⟩
    have := (each t inside).2
    exact ⟨(each t inside).1, by omega⟩

theorem foldr_write {before rest : Text} {substitutions : List Substitution}
    (checked : check (before ++ rest) (byteLength before) substitutions = .ok ()) :
    substitutions.foldr Substitution.write (before ++ rest) =
      before ++ spliceFrom (byteLength before) rest substitutions := by
  -- The later ones are written first, and leave what stands before the first in place.
  induction substitutions generalizing before rest with
  | nil => rfl
  | cons s later ih =>
    obtain ⟨fits, beyond, checked⟩ := check_cons_iff.1 checked
    obtain ⟨a, b, c, rfl, place⟩ := (fits_append beyond).1 fits
    have start : s.span.start = byteLength (before ++ a) := by simp [place]
    have stop : s.span.stop = byteLength (before ++ a ++ b) := by simp [place]
    have source : before ++ (a ++ b ++ c) = (before ++ a ++ b) ++ c := by simp
    rw [stop, source] at checked
    have skipped : dropBytes (s.span.stop - byteLength before) (a ++ b ++ c) = c := by
      have size : s.span.stop - byteLength before = byteLength (a ++ b) := by simp [place]
      rw [size, dropBytes_byteLength_append]
    have kept : takeBytes (s.span.start - byteLength before) (a ++ b ++ c) = a := by
      have size : s.span.start - byteLength before = byteLength a := by simp [place]
      rw [size, List.append_assoc, takeBytes_byteLength_append]
    rw [List.foldr_cons, source, ih checked, Substitution.write, spliceFrom, skipped, kept]
    rw [stop, dropBytes_byteLength_append, start, List.append_assoc (before ++ a),
      takeBytes_byteLength_append]
    simp

theorem inOrder_perm (substitutions : List Substitution) :
    (inOrder substitutions).Perm substitutions :=
  List.mergeSort_perm _ _

theorem inOrder_sorted (substitutions : List Substitution) :
    (inOrder substitutions).Pairwise fun a b => a.span.start ≤ b.span.start := by
  have := @List.pairwise_mergeSort Substitution (fun a b => a.span.start ≤ b.span.start)
    (by intro a b c; simp; omega) (by intro a b; simp; omega) substitutions
  simpa [inOrder] using this

theorem inOrder_eq {substitutions ordered : List Substitution} (perm : substitutions.Perm ordered)
    (increasing : ordered.Pairwise fun a b => a.span.start < b.span.start) :
    inOrder substitutions = ordered := by
  have same : (inOrder substitutions).Perm ordered := (inOrder_perm substitutions).trans perm
  have apart : ordered.Pairwise fun a b => a.span.start ≠ b.span.start :=
    increasing.imp fun less => Nat.ne_of_lt less
  have : Std.Symm fun a b : Substitution => a.span.start ≠ b.span.start := ⟨fun _ _ => Ne.symm⟩
  refine List.Perm.eq_of_pairwise ?_ (inOrder_sorted substitutions) (increasing.imp Nat.le_of_lt) same
  intro a b left right upper lower
  by_contra other
  exact apart.forall (same.mem_iff.1 left) right other (Nat.le_antisymm upper lower)

theorem substitute_eq_splice {filter : Text} {substitutions ordered : List Substitution}
    (perm : substitutions.Perm ordered)
    (increasing : ordered.Pairwise fun a b => a.span.start < b.span.start)
    (checked : check filter 0 ordered = .ok ()) :
    substitute filter substitutions = .ok (splice filter ordered) := by
  have written : ordered.foldr Substitution.write ([] ++ filter) = _ := foldr_write checked
  simp only [List.nil_append, byteLength_nil] at written
  simp [substitute, inOrder_eq perm increasing, checked, Except.map, written, splice]

def Span.Apart (a b : Span) : Prop :=
  a.stop ≤ b.start ∨ b.stop ≤ a.start

theorem Span.Apart.symm {a b : Span} (apart : a.Apart b) : b.Apart a :=
  Or.symm apart

theorem checked_of_substitute {filter result : Text} {substitutions : List Substitution}
    (done : substitute filter substitutions = .ok result) :
    check filter 0 (inOrder substitutions) = .ok () := by
  unfold substitute at done
  cases checked : check filter 0 (inOrder substitutions) with
  | ok => rfl
  | error error => simp [checked, Except.map] at done

section

variable {filter : Text} {substitutions : List Substitution}

theorem apart_of_substitute {result : Text}
    (solid : ∀ s ∈ substitutions, s.span.start ≠ s.span.stop)
    (done : substitute filter substitutions = .ok result) :
    (∀ s ∈ substitutions, s.span.start < s.span.stop ∧ s.span.fits filter) ∧
      substitutions.Pairwise fun a b => a.span.Apart b.span := by
  have perm := inOrder_perm substitutions
  obtain ⟨each, ordered⟩ := pairwise_of_check (checked_of_substitute done)
  refine ⟨fun s inside => ?_, (perm.pairwise_iff Span.Apart.symm).1 (ordered.imp .inl)⟩
  have fits := (each s (perm.mem_iff.2 inside)).1
  exact ⟨Nat.lt_of_le_of_ne (start_le_stop fits) (solid s inside), fits⟩

theorem inOrder_apart (solid : ∀ s ∈ substitutions, s.span.start < s.span.stop)
    (apart : substitutions.Pairwise fun a b => a.span.Apart b.span) :
    (inOrder substitutions).Pairwise fun a b => a.span.stop ≤ b.span.start := by
  have perm := inOrder_perm substitutions
  have apart := (perm.pairwise_iff Span.Apart.symm).2 apart
  refine ((inOrder_sorted substitutions).and apart).imp_of_mem ?_
  rintro a b - right ⟨sorted, before | behind⟩
  · exact before
  · have := solid b (perm.mem_iff.1 right)
    omega

theorem substitute_of_apart
    (fits : ∀ s ∈ substitutions, s.span.start < s.span.stop ∧ s.span.fits filter)
    (apart : substitutions.Pairwise fun a b => a.span.Apart b.span) :
    ∃ ordered, substitutions.Perm ordered ∧
      (ordered.Pairwise fun a b => a.span.stop ≤ b.span.start) ∧
      ∀ others, others.Perm substitutions →
        substitute filter others = .ok (splice filter ordered) := by
  have perm := inOrder_perm substitutions
  have ordered := inOrder_apart (fun s inside => (fits s inside).1) apart
  have fits (s : Substitution) (inside : s ∈ inOrder substitutions) :=
    fits s (perm.mem_iff.1 inside)
  have checked : check filter 0 (inOrder substitutions) = .ok () :=
    check_of_pairwise (fun s inside => (fits s inside).2) (fun _ _ => Nat.zero_le _) ordered
  have increasing : (inOrder substitutions).Pairwise fun a b => a.span.start < b.span.start :=
    ordered.imp_of_mem fun {a b} left _ before => Nat.lt_of_lt_of_le (fits a left).1 before
  exact ⟨inOrder substitutions, perm.symm, ordered, fun others same =>
    substitute_eq_splice (same.trans perm.symm) increasing checked⟩

end

/-- Stretches that are not empty are replaced if and only if each lies in the filter, runs forward
and splits no character, and no two share a byte. -/
theorem substitute_iff_apart {filter : Text} {substitutions : List Substitution}
    (solid : ∀ s ∈ substitutions, s.span.start ≠ s.span.stop) :
    ((∃ result, substitute filter substitutions = .ok result) ↔
      (∀ s ∈ substitutions, s.span.start < s.span.stop ∧ s.span.fits filter) ∧
        substitutions.Pairwise fun a b => a.span.Apart b.span) ∧
    ∀ result, substitute filter substitutions = .ok result →
      (∃ ordered, substitutions.Perm ordered ∧
        (ordered.Pairwise fun a b => a.span.stop ≤ b.span.start) ∧
        result = splice filter ordered) ∧
      ∀ others, others.Perm substitutions → substitute filter others = .ok result := by
  refine ⟨⟨fun ⟨result, done⟩ => apart_of_substitute solid done, fun ⟨fits, apart⟩ => ?_⟩,
    fun result done => ?_⟩
  · obtain ⟨ordered, -, -, same⟩ := substitute_of_apart fits apart
    exact ⟨splice filter ordered, same substitutions (.refl _)⟩
  · obtain ⟨fits, apart⟩ := apart_of_substitute solid done
    obtain ⟨ordered, perm, before, same⟩ := substitute_of_apart fits apart
    obtain rfl : result = splice filter ordered :=
      Except.ok.inj (done.symm.trans (same substitutions (.refl _)))
    exact ⟨⟨ordered, perm, before, rfl⟩, same⟩

def touching : List Substitution :=
  [⟨⟨2, 4⟩, []⟩, ⟨⟨0, 2⟩, "xyz".toList⟩]

theorem substitute_iff_apart_touching :
    (∀ s ∈ touching, s.span.start ≠ s.span.stop) ∧
      substitute "abécd".toList touching = .ok "xyzcd".toList ∧
      substitute "abécd".toList touching.reverse = .ok "xyzcd".toList := by
  have solid : ∀ s ∈ touching, s.span.start ≠ s.span.stop := by simp [touching]
  have increasing : touching.reverse.Pairwise fun a b => a.span.start < b.span.start := by
    simp [touching]
  have done : substitute "abécd".toList touching = .ok "xyzcd".toList :=
    substitute_eq_splice (List.reverse_perm touching).symm increasing (by rfl)
  exact ⟨solid, done,
    ((substitute_iff_apart solid).2 _ done).2 touching.reverse (List.reverse_perm touching)⟩

end Prejoin
