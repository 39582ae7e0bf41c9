import Mathlib.Tactic.Common
import Prejoin.Filter.Token
import Prejoin.Text.Blank

set_option autoImplicit false

namespace Prejoin

def blanks : List Nat :=
  [0x09, 0x0A, 0x0B, 0x0C, 0x0D, 0x20, 0x85, 0xA0, 0x1680, 0x2000, 0x2001, 0x2002, 0x2003, 0x2004,
    0x2005, 0x2006, 0x2007, 0x2008, 0x2009, 0x200A, 0x2028, 0x2029, 0x202F, 0x205F, 0x3000]

theorem mem_blanks_of_isBlank {c : Char} (blank : isBlank c) : c.toNat ∈ blanks := by
  simp only [isBlank, Bool.or_eq_true, Bool.and_eq_true, decide_eq_true_eq, beq_iff_eq] at blank
  simp only [blanks, List.mem_cons, List.not_mem_nil, or_false]
  omega

-- The tables of letters and numerals are asked for each blank in turn.
theorem isBlank_of_continuesName {c : Char} (continues : continuesName c) : isBlank c = false := by
  have none : ∀ n ∈ blanks, letters.holds n = false ∧ numerals.holds n = false ∧ n ≠ 0x5F := by
    decide +kernel
  by_contra blank
  obtain ⟨letter, numeral, underscore⟩ := none _ (mem_blanks_of_isBlank (by simpa using blank))
  have other : c ≠ '_' := by
    rintro rfl
    exact underscore rfl
  simp [continuesName, isLetterOrNumeral, isLetter, isNumeral, letter, numeral, other] at continues

theorem isBlank_of_continuesNumber {c : Char} (continues : continuesNumber c) :
    isBlank c = false := by
  have none : ∀ n ∈ blanks, continuesNumber (Char.ofNat n) = false := by decide
  by_contra blank
  have stops := none _ (mem_blanks_of_isBlank (by simpa using blank))
  rw [Char.ofNat_toNat, continues] at stops
  cases stops

theorem continuesName_of_startsName {c : Char} (starts : startsName c) : continuesName c := by
  rcases Bool.or_eq_true _ _ ▸ starts with letter | underscore
  · simp [continuesName, isLetterOrNumeral, letter]
  · simp [continuesName, underscore]

theorem isBlank_of_startsName {c : Char} (starts : startsName c) : isBlank c = false :=
  isBlank_of_continuesName (continuesName_of_startsName starts)

theorem ne_of_continuesName {c d : Char} (continues : continuesName c)
    (stops : continuesName d = false) : c ≠ d := by
  rintro rfl
  simp [stops] at continues

theorem ofMark?_of_continuesName {c : Char} (continues : continuesName c) :
    Quote.ofMark? c = none := by
  have double := ne_of_continuesName continues (d := '"') (by decide)
  have single := ne_of_continuesName continues (d := '\'') (by decide)
  simp [Quote.ofMark?, double, single]

theorem unquoted_of_isBlank {c : Char} (blank : isBlank c) : Quote.ofMark? c = none := by
  have double : c ≠ '"' := by rintro rfl; exact absurd blank (by decide)
  have single : c ≠ '\'' := by rintro rfl; exact absurd blank (by decide)
  simp [Quote.ofMark?, double, single]

theorem isLetter_of_lt {c : Char} (below : c.toNat < 0x41) : isLetter c = false := by
  unfold isLetter letters
  rw [Ranges.holds, if_pos below]

theorem isDigit_bounds {c : Char} (digit : c.isDigit) : 0x30 ≤ c.toNat ∧ c.toNat ≤ 0x39 :=
  Char.isDigit_iff_toNat.1 digit

theorem isBlank_of_isDigit {c : Char} (digit : c.isDigit) : isBlank c = false := by
  have bounds := isDigit_bounds digit
  simp only [isBlank, Bool.or_eq_false_iff, Bool.and_eq_false_iff, decide_eq_false_iff_not,
    beq_eq_false_iff_ne]
  omega

theorem startsName_of_isDigit {c : Char} (digit : c.isDigit) : startsName c = false := by
  have bounds := isDigit_bounds digit
  have low : c ≠ '_' := by rintro rfl; exact absurd digit (by decide)
  simp [startsName, isLetter_of_lt (Nat.lt_of_le_of_lt bounds.2 (by decide)), low]

theorem unquoted_of_isDigit {c : Char} (digit : c.isDigit) : Quote.ofMark? c = none := by
  have double : c ≠ '"' := by rintro rfl; exact absurd digit (by decide)
  have single : c ≠ '\'' := by rintro rfl; exact absurd digit (by decide)
  simp [Quote.ofMark?, double, single]

def isName : Text → Bool
  | [] => false
  | c :: rest => startsName c && rest.all continuesName

theorem isName_iff {name : Text} :
    isName name ↔ ∃ c rest, name = c :: rest ∧ startsName c ∧ ∀ d ∈ rest, continuesName d := by
  cases name <;> simp [isName, and_assoc]

theorem continuesName_of_isName {name : Text} (named : isName name) {c : Char} (inside : c ∈ name) :
    continuesName c := by
  obtain ⟨first, rest, rfl, starts, continues⟩ := isName_iff.1 named
  rcases List.mem_cons.1 inside with rfl | inside
  · exact continuesName_of_startsName starts
  · exact continues c inside

end Prejoin
