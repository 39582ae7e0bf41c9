import Mathlib.Data.List.TakeWhile
import Mathlib.Tactic.Common
import Prejoin.Json.Value
import Prejoin.Proofs.Characters

set_option autoImplicit false

namespace Prejoin

structure Tight (s : Text) : Prop where
  nonempty : s ≠ []
  first : ∀ c, s.head? = some c → isBlank c = false
  last : ∀ c, s.getLast? = some c → isBlank c = false

theorem getLast?_dropWhile {drop : Char → Bool} {s : Text} (rest : s.dropWhile drop ≠ []) :
    (s.dropWhile drop).getLast? = s.getLast? := by
  obtain ⟨before, split⟩ := List.dropWhile_suffix drop (l := s)
  conv_rhs => rw [← split, List.getLast?_append, List.getLast?_eq_some_getLast rest]
  rw [List.getLast?_eq_some_getLast rest, Option.some_or]

theorem trim_eq_nil_iff {s : Text} : trim s = [] ↔ isBlankText s := by
  rw [trim, trimEnd, List.reverse_eq_nil_iff, List.dropWhile_eq_nil_iff, isBlankText,
    List.all_eq_true]
  constructor
  · intro blank
    by_contra solid
    have rest : s.dropWhile isBlank ≠ [] := fun none => solid (List.dropWhile_eq_nil_iff.1 none)
    obtain ⟨c, more, stands⟩ := List.exists_cons_of_ne_nil rest
    have first : isBlank c = false := head?_dropWhile (s := s) (by simp [stands])
    simp [blank c (by simp [stands])] at first
  · intro blank c inside
    exact blank c ((List.dropWhile_sublist isBlank).subset (List.mem_reverse.1 inside))

theorem trimmed?_eq (s : Text) : trimmed? s = if isBlankText s then none else some (trim s) := by
  simp only [trimmed?, trim_eq_nil_iff]

theorem trimmed?_eq_some_iff {s t : Text} :
    trimmed? s = some t ↔ isBlankText s = false ∧ trim s = t := by
  simp [trimmed?_eq]

theorem isSome_trimmed? {s : Text} : (trimmed? s).isSome ↔ trim s ≠ [] := by
  unfold trimmed?
  by_cases nothing : trim s = [] <;> simp [nothing]

theorem tight_of_trimmed? {s t : Text} (found : trimmed? s = some t) : Tight t := by
  obtain ⟨solid, rfl⟩ := trimmed?_eq_some_iff.1 found
  have left : trim s ≠ [] := isSome_trimmed?.1 (by rw [found, Option.isSome_some])
  constructor
  case nonempty => exact left
  case first =>
    intro c first
    have rest : (s.dropWhile isBlank).reverse.dropWhile isBlank ≠ [] :=
      fun none => left (List.reverse_eq_nil_iff.2 none)
    rw [trim, trimEnd, List.head?_reverse, getLast?_dropWhile rest, List.getLast?_reverse] at first
    exact head?_dropWhile first
  case last =>
    intro c last
    rw [trim, trimEnd, List.getLast?_reverse] at last
    exact head?_dropWhile last

theorem dropWhile_eq_self {drop : Char → Bool} {s : Text}
    (first : ∀ c, s.head? = some c → drop c = false) : s.dropWhile drop = s := by
  cases s with
  | nil => rfl
  | cons c rest => exact List.dropWhile_cons_of_neg (by simp [first c rfl])

theorem Tight.trim_eq {s : Text} (tight : Tight s) : trim s = s := by
  have last : ∀ c, s.reverse.head? = some c → isBlank c = false := by
    simpa only [List.head?_reverse] using tight.last
  rw [trim, dropWhile_eq_self tight.first, trimEnd, dropWhile_eq_self last, List.reverse_reverse]

theorem trimmed?_eq_self_iff {s : Text} : trimmed? s = some s ↔ Tight s := by
  refine ⟨tight_of_trimmed?, fun tight => ?_⟩
  rw [trimmed?, tight.trim_eq, if_neg tight.nonempty]

def Solid (s : Text) : Prop :=
  ∀ c ∈ s, isBlank c = false

namespace Solid

variable {s t : Text}

theorem nil : Solid [] :=
  fun _ inside => nomatch inside

theorem cons {c : Char} (first : isBlank c = false) (rest : Solid s) : Solid (c :: s) :=
  List.forall_mem_cons.2 ⟨first, rest⟩

theorem append (first : Solid s) (second : Solid t) : Solid (s ++ t) :=
  List.forall_mem_append.2 ⟨first, second⟩

theorem tight (solid : Solid s) (nonempty : s ≠ []) : Tight s where
  nonempty := nonempty
  first c first := solid c (List.mem_of_head? first)
  last c last := solid c (List.mem_of_getLast? last)

end Solid

theorem solid_decimal (n : Nat) : Solid (decimal n) :=
  fun _ inside => isBlank_of_isDigit (Nat.isDigit_of_mem_toDigits (by decide) (by decide) inside)

theorem ofDigitChars_eq_zero {s : Text} (zeros : ∀ c ∈ s, c = '0') :
    Nat.ofDigitChars 10 s 0 = 0 := by
  induction s with
  | nil => rfl
  | cons c rest ih =>
    obtain rfl := zeros c List.mem_cons_self
    exact ih fun d inside => zeros d (List.mem_cons_of_mem _ inside)

theorem exists_digit_ne_zero {n : Nat} (positive : 0 < n) : ∃ c ∈ decimal n, c ≠ '0' := by
  by_contra none
  have zeros : ∀ c ∈ decimal n, c = '0' := by simpa using none
  have value : Nat.ofDigitChars 10 (decimal n) 0 = n :=
    Nat.ofDigitChars_toDigits (by decide) (by decide)
  rw [ofDigitChars_eq_zero zeros] at value
  omega

namespace Decimal

theorem solid_parts (d : Decimal) : Solid d.parts.1 := by
  intro c inside
  have kept := (List.dropWhile_sublist _).subset (List.mem_reverse.1 inside)
  exact solid_decimal d.digits c (List.mem_reverse.1 kept)

theorem parts_ne_nil {d : Decimal} (positive : 0 < d.digits) : d.parts.1 ≠ [] := by
  obtain ⟨c, inside, other⟩ := exists_digit_ne_zero positive
  intro none
  have zeros := List.dropWhile_eq_nil_iff.1 (List.reverse_eq_nil_iff.1 none)
  exact other (by simpa using zeros c (List.mem_reverse.2 inside))

end Decimal

namespace Binary64

variable {x : Binary64}

theorem pos_of_holds {num den : Nat} (nonzero : x.mantissa ≠ 0) (positive : 0 < den)
    (within : x.holds num den) : 0 < num := by
  have low : 0 < x.quarters.1 := by
    unfold quarters
    dsimp only
    split <;> omega
  have least : 0 < x.quarters.1 * den := Nat.mul_pos low positive
  unfold holds at within
  dsimp only at within
  split at within
  all_goals
    simp only [Bool.and_eq_true, decide_eq_true_eq] at within
    omega

theorem le_roundDiv (num den : Nat) : num / den ≤ roundDiv num den := by
  unfold roundDiv
  dsimp only
  split <;> omega

theorem pos_of_onGrid? {power : Int} {digits : Nat} (nonzero : x.mantissa ≠ 0)
    (found : x.onGrid? power = some digits) : 0 < digits := by
  have down : 0 < twoTo (x.exponent - 2).toNat * tenTo (-power).toNat :=
    Nat.mul_pos (Nat.pow_pos (by decide)) (Nat.pow_pos (by decide))
  have lower {up n : Nat} (fits : x.holds (n * up)
      (twoTo (x.exponent - 2).toNat * tenTo (-power).toNat)) : 0 < n :=
    Nat.pos_of_mul_pos_right (pos_of_holds nonzero down fits)
  unfold onGrid? at found
  dsimp only at found
  split at found
  next fits _ =>
    obtain rfl := Option.some.inj found
    exact Nat.lt_of_lt_of_le (lower fits) (le_roundDiv _ _)
  next fits _ =>
    obtain rfl := Option.some.inj found
    exact lower fits
  next =>
    obtain rfl := Option.some.inj found
    exact Nat.succ_pos _
  next => cases found

theorem shortest_digits (nonzero : x.mantissa ≠ 0) :
    x.shortest = ⟨0, 0⟩ ∨ 0 < x.shortest.digits := by
  have search (tries : Nat) (power : Int) :
      x.searchGrids power tries = ⟨0, 0⟩ ∨ 0 < (x.searchGrids power tries).digits := by
    induction tries generalizing power with
    | zero => exact .inl rfl
    | succ tries ih =>
      unfold searchGrids
      split
      next digits found => exact .inr (pos_of_onGrid? nonzero found)
      next => exact ih (power - 1)
  exact search 17 x.magnitude

end Binary64

namespace Layout

variable {digits : Text} (first : Int)

theorem solid_zeros (n : Nat) : Solid (zeros n) := by
  intro c inside
  rw [List.eq_of_mem_replicate inside]
  decide

theorem solid_start : Solid "0.".toList :=
  .cons (by decide) (.cons (by decide) .nil)

theorem solid_inPlace (solid : Solid digits) : Solid (inPlace digits first) := by
  unfold inPlace
  by_cases small : first < 0
  next =>
    rw [if_pos small]
    exact (solid_start.append (solid_zeros _)).append solid
  next =>
    rw [if_neg small]
    have whole : Solid (digits.take (first.toNat + 1)) :=
      fun c inside => solid c (List.mem_of_mem_take inside)
    have after : Solid (digits.drop (first.toNat + 1)) :=
      fun c inside => solid c (List.mem_of_mem_drop inside)
    have zero : Solid ['0'] := .cons (by decide) .nil
    apply (whole.append (solid_zeros _)).append
    apply Solid.cons (by decide)
    split
    next => exact zero
    next => exact after

theorem inPlace_ne_nil : inPlace digits first ≠ [] := by
  unfold inPlace
  split <;> simp

theorem solid_withExponent (solid : Solid digits) : Solid (withExponent digits first) := by
  have power : Solid (if first < 0 then '-' :: decimal first.natAbs
      else '+' :: decimal first.natAbs) := by
    split <;> exact Solid.cons (by decide) (solid_decimal _)
  unfold withExponent
  dsimp only
  split
  next => exact solid
  next d =>
    exact Solid.cons (solid d List.mem_cons_self) (Solid.cons (by decide) power)
  next d more _ =>
    obtain ⟨one, others⟩ := List.forall_mem_cons.1 solid
    have tail : Solid more := others
    exact Solid.cons one (Solid.cons (by decide) (tail.append (Solid.cons (by decide) power)))

theorem withExponent_ne_nil (nonempty : digits ≠ []) : withExponent digits first ≠ [] := by
  unfold withExponent
  dsimp only
  split
  next => exact absurd rfl nonempty
  next => simp
  next => simp

theorem solid_write (layout : Layout) (x : Binary64) : Solid (layout.write x) := by
  have solid : Solid x.shortest.parts.1 := x.shortest.solid_parts
  unfold write
  split
  next => exact solid_start.append (.cons (by decide) .nil)
  next =>
    dsimp only
    split
    next => exact solid_inPlace _ solid
    next => exact solid_withExponent _ solid

-- A search for digits that fails leaves no digits, but the power 0, so that zeros stand in place.
theorem write_ne_nil {layout : Layout} (bounds : layout.least ≤ 0 ∧ 0 ≤ layout.greatest)
    (x : Binary64) : layout.write x ≠ [] := by
  unfold write
  split
  next => simp
  next nonzero =>
    dsimp only
    split
    next => exact inPlace_ne_nil _
    next outside =>
      rcases Binary64.shortest_digits nonzero with none | positive
      · rw [none] at outside
        exact absurd bounds outside
      · exact withExponent_ne_nil _ (Decimal.parts_ne_nil positive)

end Layout

theorem solid_toText (value : Number) : Solid value.toText := by
  have minus : isBlank '-' = false := by decide
  cases value with
  | integer n =>
    cases n with
    | ofNat n => exact solid_decimal n
    | negSucc n => exact Solid.cons minus (solid_decimal (n + 1))
  | double negative size =>
    have size := Number.layout.solid_write size
    cases negative with
    | false => exact size
    | true => exact Solid.cons minus size

theorem toText_ne_nil (value : Number) : value.toText ≠ [] := by
  cases value with
  | integer n =>
    cases n with
    | ofNat n => exact Nat.toDigits_ne_nil
    | negSucc n => exact List.cons_ne_nil _ _
  | double negative size =>
    exact List.append_ne_nil_of_right_ne_nil _ (Layout.write_ne_nil (by decide) size)

theorem tight_toText (value : Number) : Tight value.toText :=
  (solid_toText value).tight (toText_ne_nil value)

end Prejoin
