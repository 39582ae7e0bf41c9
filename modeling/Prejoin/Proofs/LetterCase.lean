import Mathlib.Tactic.Common
import Prejoin.Proofs.Characters

set_option autoImplicit false

namespace Prejoin

theorem isUpper_bounds {c : Char} (upper : c.isUpper) : 0x41 ≤ c.toNat ∧ c.toNat ≤ 0x5A := by
  have within : 'A'.val ≤ c.val ∧ c.val ≤ 'Z'.val := of_decide_eq_true upper
  exact ⟨UInt32.le_iff_toNat_le.1 within.1, UInt32.le_iff_toNat_le.1 within.2⟩

theorem isLower_bounds {c : Char} (lower : c.isLower) : 0x61 ≤ c.toNat ∧ c.toNat ≤ 0x7A := by
  have within : 'a'.val ≤ c.val ∧ c.val ≤ 'z'.val :=
    (Bool.and_eq_true_iff.1 lower).imp of_decide_eq_true of_decide_eq_true
  exact ⟨UInt32.le_iff_toNat_le.1 within.1, UInt32.le_iff_toNat_le.1 within.2⟩

-- Only the letters of ASCII, here by their place in the alphabet, have another case.
theorem toLower_cases (c : Char) :
    c.toLower = c ∨ ∃ n < 26, c = Char.ofNat (0x41 + n) ∧ c.toLower = Char.ofNat (0x61 + n) := by
  have lower : ∀ n < 26, (Char.ofNat (0x41 + n)).toLower = Char.ofNat (0x61 + n) := by decide
  by_cases upper : c.isUpper
  next =>
    have bounds := isUpper_bounds upper
    have place : 0x41 + (c.toNat - 0x41) = c.toNat := by omega
    have same : Char.ofNat (0x41 + (c.toNat - 0x41)) = c := by rw [place, Char.ofNat_toNat]
    have other := lower (c.toNat - 0x41) (by omega)
    rw [same] at other
    exact .inr ⟨c.toNat - 0x41, by omega, same.symm, other⟩
  next => exact .inl (dif_neg fun within => upper (decide_eq_true within))

theorem eq_toLower_of_forall {α : Type} {f : Char → α}
    (letters : ∀ n < 26, f (Char.ofNat (0x41 + n)) = f (Char.ofNat (0x61 + n))) (c : Char) :
    f c.toLower = f c := by
  obtain same | ⟨n, inside, rfl, lower⟩ := toLower_cases c
  · rw [same]
  · rw [lower, letters n inside]

theorem isBlank_toLower (c : Char) : isBlank c.toLower = isBlank c :=
  eq_toLower_of_forall (by decide) c

theorem startsName_toLower (c : Char) : startsName c.toLower = startsName c :=
  eq_toLower_of_forall (by decide +kernel) c

theorem continuesName_toLower (c : Char) : continuesName c.toLower = continuesName c :=
  eq_toLower_of_forall (by decide +kernel) c

theorem continuesNumber_toLower (c : Char) : continuesNumber c.toLower = continuesNumber c :=
  eq_toLower_of_forall (by decide) c

theorem isDigit_toLower (c : Char) : c.toLower.isDigit = c.isDigit :=
  eq_toLower_of_forall (by decide) c

theorem utf8Size_toLower (c : Char) : c.toLower.utf8Size = c.utf8Size :=
  eq_toLower_of_forall (by decide) c

theorem isAlpha_toLower (c : Char) : c.toLower.isAlpha = c.isAlpha :=
  eq_toLower_of_forall (by decide) c

theorem toLower_toLower (c : Char) : c.toLower.toLower = c.toLower :=
  eq_toLower_of_forall (by decide) c

theorem toLower_of_not_isAlpha {c : Char} (plain : c.isAlpha = false) : c.toLower = c := by
  have letter : ∀ n < 26, (Char.ofNat (0x41 + n)).isAlpha := by decide
  obtain same | ⟨n, inside, rfl, -⟩ := toLower_cases c
  · exact same
  · cases plain.symm.trans (letter n inside)

theorem eq_of_toLower_eq {c d : Char} (plain : c.isAlpha = false)
    (same : c.toLower = d.toLower) : c = d := by
  have plain' : d.isAlpha = false := by rw [← isAlpha_toLower, ← same, isAlpha_toLower, plain]
  rwa [toLower_of_not_isAlpha plain, toLower_of_not_isAlpha plain'] at same

theorem foldCase_foldCase (name : Text) : foldCase (foldCase name) = foldCase name := by
  rw [foldCase, foldCase, List.map_map]
  exact List.map_congr_left fun c _ => toLower_toLower c

@[simp] theorem foldCase_append (s t : Text) : foldCase (s ++ t) = foldCase s ++ foldCase t :=
  List.map_append

end Prejoin
