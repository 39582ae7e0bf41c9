import Mathlib.Data.List.Basic
import Mathlib.Tactic.Common
import Prejoin.Domain.Name
import Prejoin.Proofs.Recasing
import Prejoin.Url.Path

set_option autoImplicit false

namespace Prejoin

def Bare (s : Text) : Prop :=
  ∀ c ∈ s, Url.endsPath c = false

instance (s : Text) : Decidable (Bare s) :=
  decidable_of_iff (s.all fun c => !Url.endsPath c) (by simp [Bare])

namespace Bare

variable {s t : Text}

theorem nil : Bare [] :=
  fun _ inside => nomatch inside

theorem cons {c : Char} (first : Url.endsPath c = false) (rest : Bare s) : Bare (c :: s) :=
  List.forall_mem_cons.2 ⟨first, rest⟩

theorem append (first : Bare s) (second : Bare t) : Bare (s ++ t) :=
  List.forall_mem_append.2 ⟨first, second⟩

theorem mono (bare : Bare s) (within : t ⊆ s) : Bare t :=
  fun c inside => bare c (within inside)

theorem ite {p : Prop} [Decidable p] (first : Bare s) (second : Bare t) :
    Bare (if p then s else t) := by
  split
  next => exact first
  next => exact second

theorem flatMap {α : Type} {items : List α} {f : α → Text} (each : ∀ item ∈ items, Bare (f item)) :
    Bare (items.flatMap f) := by
  intro c inside
  obtain ⟨item, member, inside⟩ := List.mem_flatMap.1 inside
  exact each item member c inside

theorem intercalate {separator : Text} {parts : List Text} (between : Bare separator)
    (each : ∀ part ∈ parts, Bare part) : Bare (separator.intercalate parts) := by
  induction parts with
  | nil => exact nil
  | cons first rest ih =>
    obtain ⟨own, others⟩ := List.forall_mem_cons.1 each
    cases rest with
    | nil => simpa using own
    | cons second more =>
      rw [List.intercalate_cons_cons]
      exact (own.append between).append (ih others)

theorem of_mem_parts {keeps : Char → Bool} {parts : List Text} (bare : Bare s)
    (parted : parts.flatten = s.filter keeps) {part : Text} (member : part ∈ parts) :
    Bare part := by
  intro c inside
  have kept : c ∈ s.filter keeps := by
    rw [← parted]
    exact List.mem_flatten.2 ⟨part, member, inside⟩
  exact bare c (List.mem_of_mem_filter kept)

theorem foldCase (bare : Bare s) : Bare (foldCase s) := by
  intro c inside
  obtain ⟨d, member, rfl⟩ := List.mem_map.1 inside
  have mark {m : Char} (plain : m.isAlpha = false) : (d.toLower = m) = (d = m) :=
    propext (toLower_eq_iff plain)
  have kept := bare d member
  simp only [Url.endsPath] at kept ⊢
  simpa only [mark (m := '?') (by decide), mark (m := '#') (by decide)] using kept

end Bare

theorem endsPath_eq_false {p : Char → Bool} (question : p '?' = false) (number : p '#' = false)
    {c : Char} (holds : p c) : Url.endsPath c = false := by
  have other {mark : Char} (excluded : p mark = false) : c ≠ mark := by
    rintro rfl
    exact Bool.false_ne_true (excluded.symm.trans holds)
  simp [Url.endsPath, other question, other number]

namespace Domain

theorem endsPath_digitOf {value : Nat} (small : value < base) :
    Url.endsPath (digitOf value) = false := by
  have each : ∀ v ∈ List.range base, Url.endsPath (digitOf v) = false := by decide
  exact each value (List.mem_range.2 small)

theorem threshold_lt (bias position : Nat) : threshold bias position < base := by
  simp only [threshold, base]
  omega

theorem bare_writeSteps (bias position steps : Nat) : Bare (writeSteps bias position steps) := by
  induction position, steps using writeSteps.induct bias with
  | case1 position steps low last =>
    rw [writeSteps, if_pos last]
    exact .cons (endsPath_digitOf (Nat.lt_trans last (threshold_lt bias position))) .nil
  | case2 position steps low more ih =>
    have room : low < base := threshold_lt bias position
    have above : (steps - low) % (base - low) < base - low := Nat.mod_lt _ (by omega)
    have digit : low + (steps - low) % (base - low) < base := by omega
    rw [writeSteps, if_neg more]
    exact .cons (endsPath_digitOf digit) ih

theorem bare_pass {w : Written} (bare : Bare w.text) (plain codePoint : Nat) (c : Char) :
    Bare (w.pass plain codePoint c).text := by
  unfold Written.pass
  by_cases below : c.toNat < codePoint
  next => simpa [below] using bare
  next =>
    by_cases same : c.toNat = codePoint
    next => simpa [same] using bare.append (bare_writeSteps w.bias base w.steps)
    next => simpa [below, same] using bare

theorem bare_foldl_pass {w : Written} (bare : Bare w.text) (plain codePoint : Nat) (s : Text) :
    Bare (s.foldl (Written.pass plain codePoint) w).text := by
  induction s generalizing w with
  | nil => exact bare
  | cons c rest ih => exact ih (bare_pass bare plain codePoint c)

theorem bare_writeRounds {w : Written} (bare : Bare w.text) (plain reached : Nat) (s : Text)
    (codePoints : List Nat) : Bare (writeRounds plain s reached w codePoints).text := by
  induction codePoints generalizing reached w with
  | nil => exact bare
  | cons codePoint rest ih =>
    have round := bare_foldl_pass (w := { w with
      steps := w.steps + (codePoint - reached) * (w.count + 1) }) bare plain codePoint s
    apply ih
    exact round

theorem bare_encode {s : Text} (bare : Bare s) : Bare (encode s) := by
  have plain : Bare (s.filter isAscii) := bare.mono (List.filter_subset_self s)
  have rounds := bare_writeRounds (w := ⟨firstBias, (s.filter isAscii).length, 0, []⟩) .nil
  exact (Bare.nil.ite (plain.append (.cons (by decide) .nil))).append (rounds _ _ _ _)

theorem endsPath_of_le {c : Char} (high : firstCodePoint ≤ c.toNat) : Url.endsPath c = false :=
  endsPath_eq_false (p := fun c => firstCodePoint ≤ c.toNat) rfl rfl (decide_eq_true high)

theorem bare_insertChars? {bias codePoint place : Nat} {read s found : Text} (bare : Bare read)
    (high : firstCodePoint ≤ codePoint)
    (inserted : insertChars? bias codePoint place read s = some found) : Bare found := by
  fun_induction insertChars? bias codePoint place read s with
  | case1 =>
    obtain rfl := Option.some.inj inserted
    exact bare
  | case2 => nomatch inserted
  | case3 bias codePoint place read s more reached rest steps _ count next valid ih =>
    have higher : firstCodePoint ≤ next := Nat.le_trans high (Nat.le_add_right _ _)
    have within : reached % count ≤ read.length := Nat.lt_succ_iff.1 (Nat.mod_lt _ (by omega))
    have added : (Char.ofNat next).toNat = next := by
      rw [Char.ofNat, dif_pos valid]
      rfl
    refine ih (fun c inside => ?_) higher inserted
    -- No ASCII character is ever inserted.
    rcases (List.mem_insertIdx within).1 inside with rfl | old
    · exact endsPath_of_le (by omega)
    · exact bare c old
  | case4 => nomatch inserted

theorem splitPlain_subset (s : Text) : (splitPlain s).1 ⊆ s := by
  unfold splitPlain
  dsimp only
  split
  next d c before split =>
    intro e inside
    have kept : e ∈ s.reverse.dropWhile (· ≠ '-') := by
      rw [split]
      exact List.mem_cons_of_mem _ (List.mem_reverse.1 inside)
    exact List.mem_reverse.1 ((List.dropWhile_subset _) kept)
  next => exact List.nil_subset s

theorem bare_decode? {s found : Text} (bare : Bare s) (decoded : decode? s = some found) :
    Bare found := by
  have plain : Bare (splitPlain s).1 := bare.mono (splitPlain_subset s)
  exact bare_insertChars? plain.foldCase (Nat.le_refl _) decoded

theorem bare_of_any_isForbidden {s : Text} (allowed : s.any isForbidden = false) : Bare s := by
  intro c inside
  have other : isForbidden c = false := by simpa using List.any_eq_false.1 allowed c inside
  exact endsPath_eq_false (p := fun c => !isForbidden c) (by decide) (by decide) (by simp [other])

theorem bare_decodeLabel? {encoded label : Text} (bare : Bare encoded)
    (decoded : decodeLabel? encoded = some label) : Bare label := by
  unfold decodeLabel? at decoded
  split at decoded
  next => nomatch decoded
  next =>
    split at decoded
    next label' read =>
      split at decoded
      next =>
        obtain rfl := Option.some.inj decoded
        exact bare_decode? bare read
      next => nomatch decoded
    next => nomatch decoded

theorem bare_readLabel? {s label : Text} (bare : Bare s) (read : readLabel? s = some label) :
    Bare label := by
  unfold readLabel? at read
  split at read
  next => exact bare_decodeLabel? (bare.mono (List.drop_subset _ _)) read
  next => exact Option.some.inj read ▸ bare

theorem bare_writeLabel {label : Text} (bare : Bare label) : Bare (writeLabel label) := by
  have mark : Bare encodedMark := by decide
  exact bare.ite (mark.append (bare_encode bare))

theorem bare_of_mapM_readLabel? {parts labels : List Text} (bare : ∀ part ∈ parts, Bare part)
    (read : parts.mapM readLabel? = some labels) : ∀ label ∈ labels, Bare label := by
  induction parts generalizing labels with
  | nil => simp_all
  | cons part rest ih =>
    obtain ⟨own, others⟩ := List.forall_mem_cons.1 bare
    simp only [List.mapM_cons, Option.pure_def, Option.bind_eq_bind,
      Option.bind_eq_some_iff, Option.some_inj] at read
    obtain ⟨label, first, more, later, rfl⟩ := read
    exact List.forall_mem_cons.2 ⟨bare_readLabel? own first, ih others later⟩

theorem bare_of_labelsOf? {name : Text} {labels : List Text} (read : labelsOf? name = some labels) :
    ∀ label ∈ labels, Bare label := by
  obtain ⟨plain, -, read⟩ := Option.bind_eq_some_iff.1 read
  split at read
  next => nomatch read
  next allowed =>
    have bare : Bare plain := bare_of_any_isForbidden (by simpa using allowed)
    obtain ⟨all, each, read⟩ := Option.bind_eq_some_iff.1 read
    split at read
    next =>
      obtain rfl := Option.some.inj read
      exact bare_of_mapM_readLabel? (fun part => bare.of_mem_parts (flatten_splitOn '.' plain)) each
    next => nomatch read

theorem bare_of_toAscii? {name domain : Text} (found : toAscii? name = some domain) :
    Bare domain := by
  unfold toAscii? at found
  split at found
  next =>
    split at found
    next => nomatch found
    next allowed =>
      obtain rfl := Option.some.inj found
      exact (bare_of_any_isForbidden (by simpa using allowed)).foldCase
  next =>
    obtain ⟨labels, read, rfl⟩ := Option.map_eq_some_iff.1 found
    refine .intercalate (by decide) fun part written => ?_
    obtain ⟨label, member, rfl⟩ := List.mem_map.1 written
    exact bare_writeLabel (bare_of_labelsOf? read label member)

end Domain

end Prejoin
