import Prejoin.Proofs.Pieces

set_option autoImplicit false

namespace Prejoin

def backslashesAtEnd (s : Text) : Nat :=
  (s.reverse.takeWhile (· = '\\')).length

def endsInEscape (reading : Reading) (s : Text) : Bool :=
  reading = .escaped && backslashesAtEnd s % 2 = 1

structure ClosesBehind (reading : Reading) (mark : Char) (body : Text) : Prop where
  inside : ∀ before after, body = before ++ mark :: after → endsInEscape reading before
  behind : endsInEscape reading body = false

theorem backslashesAtEnd_of_forall {s : Text} (all : ∀ c ∈ s, c = '\\') :
    backslashesAtEnd s = s.length := by
  rw [backslashesAtEnd, List.takeWhile_eq_self_iff.2 (by simpa using all), List.length_reverse]

theorem backslashesAtEnd_cons {c : Char} {s : Text} (some : ¬ ∀ d ∈ c :: s, d = '\\') :
    backslashesAtEnd (c :: s) = backslashesAtEnd s := by
  unfold backslashesAtEnd
  rw [List.reverse_cons, List.takeWhile_append]
  split
  next whole =>
    have all : ∀ d ∈ s, d = '\\' := by
      have same := List.takeWhile_eq_self_iff.1
        (List.Sublist.eq_of_length (List.takeWhile_sublist _) whole)
      simpa using same
    have other : c ≠ '\\' := fun same => some (List.forall_mem_cons.2 ⟨same, all⟩)
    rw [List.takeWhile_cons_of_neg (by simpa using other), List.append_nil, List.length_reverse,
      whole, List.length_reverse]
  next => rfl

theorem endsInEscape_cons {reading : Reading} {c : Char}
    (plain : ¬ (reading = .escaped ∧ c = '\\')) (s : Text) :
    endsInEscape reading (c :: s) = endsInEscape reading s := by
  cases reading with
  | plain => rfl
  | escaped =>
    have some : ¬ ∀ d ∈ c :: s, d = '\\' := fun all => plain ⟨rfl, all c List.mem_cons_self⟩
    rw [endsInEscape, endsInEscape, backslashesAtEnd_cons some]

-- A backslash and the character it escapes do not count, even if that is a backslash itself.
theorem endsInEscape_escape (c : Char) (s : Text) :
    endsInEscape .escaped ('\\' :: c :: s) = endsInEscape .escaped s := by
  by_cases all : ∀ d ∈ c :: s, d = '\\'
  next =>
    have longer : backslashesAtEnd ('\\' :: c :: s) = s.length + 2 :=
      backslashesAtEnd_of_forall (List.forall_mem_cons.2 ⟨rfl, all⟩)
    have length := backslashesAtEnd_of_forall (List.forall_mem_cons.1 all).2
    simp [endsInEscape, longer, length]
  next =>
    have longer : backslashesAtEnd ('\\' :: c :: s) = backslashesAtEnd s := by
      rw [backslashesAtEnd_cons fun whole => all (List.forall_mem_cons.1 whole).2,
        backslashesAtEnd_cons all]
    simp [endsInEscape, longer]

theorem closesBehind_nil (reading : Reading) (mark : Char) : ClosesBehind reading mark [] where
  inside before after source := by simp at source
  behind := by cases reading <;> rfl

theorem closesBehind_cons_iff {reading : Reading} {mark c : Char}
    (plain : ¬ (reading = .escaped ∧ c = '\\')) {s : Text} :
    ClosesBehind reading mark (c :: s) ↔ c ≠ mark ∧ ClosesBehind reading mark s := by
  have alone : endsInEscape reading [] = false := (closesBehind_nil reading mark).behind
  constructor
  · rintro ⟨inside, behind⟩
    refine ⟨?_, fun before after source => ?_, by rwa [← endsInEscape_cons plain]⟩
    · rintro rfl
      simpa [alone] using inside [] s rfl
    · rw [← endsInEscape_cons plain]
      exact inside (c :: before) after (by rw [source]; rfl)
  · rintro ⟨other, inside, behind⟩
    refine ⟨fun before after source => ?_, by rwa [endsInEscape_cons plain]⟩
    cases before with
    | nil => exact absurd (List.cons.inj source).1 other
    | cons d more =>
      obtain ⟨rfl, rest⟩ := List.cons.inj source
      rw [endsInEscape_cons plain]
      exact inside more after rest

theorem closesBehind_escape_iff {mark c : Char} {s : Text} :
    ClosesBehind .escaped mark ('\\' :: c :: s) ↔ '\\' ≠ mark ∧ ClosesBehind .escaped mark s := by
  constructor
  · rintro ⟨inside, behind⟩
    refine ⟨?_, fun before after source => ?_, by rwa [← endsInEscape_escape c]⟩
    · rintro rfl
      exact absurd (inside [] (c :: s) rfl) (by decide)
    · rw [← endsInEscape_escape c]
      exact inside ('\\' :: c :: before) after (by rw [source]; rfl)
  · rintro ⟨other, inside, behind⟩
    refine ⟨fun before after source => ?_, by rwa [endsInEscape_escape]⟩
    match before with
    | [] => exact absurd (List.cons.inj source).1 other
    | [d] =>
      obtain ⟨rfl, -⟩ := List.cons.inj source
      decide
    | d :: e :: more =>
      simp only [List.cons_append, List.cons.injEq] at source
      obtain ⟨rfl, rfl, rest⟩ := source
      rw [endsInEscape_escape]
      exact inside more after rest

theorem encloses_iff_closesBehind {reading : Reading} {mark : Char} {body : Text} :
    Encloses reading mark body ↔ ClosesBehind reading mark body := by
  fun_induction Encloses reading mark body with
  | case1 => exact iff_of_true trivial (closesBehind_nil reading mark)
  | case2 c =>
    by_cases escape : reading = .escaped ∧ c = '\\'
    next =>
      obtain ⟨rfl, rfl⟩ := escape
      refine iff_of_false (by simp) fun closes => ?_
      exact absurd closes.behind (by decide)
    next => simp [closesBehind_cons_iff escape, escape, closesBehind_nil]
  | case3 c d rest skipped next =>
    by_cases escape : reading = .escaped ∧ c = '\\'
    next =>
      obtain ⟨rfl, rfl⟩ := escape
      rw [if_pos ⟨rfl, rfl⟩, skipped, closesBehind_escape_iff]
    next => rw [if_neg escape, next, closesBehind_cons_iff escape]

end Prejoin
