import Mathlib.Data.List.TakeWhile
import Mathlib.Tactic.Common
import Prejoin.Url.Form

set_option autoImplicit false

namespace Prejoin.Url

theorem ofBytes?_utf8 (s : Text) : ofBytes? (s.flatMap String.utf8EncodeChar) = some s := by
  have whole : (⟨(s.flatMap String.utf8EncodeChar).toArray⟩ : ByteArray) = s.utf8Encode :=
    ByteArray.ext (by simp [List.utf8Encode])
  rw [ofBytes?, whole, String.fromUTF8?, dif_pos ByteArray.isValidUTF8_utf8Encode]
  exact congrArg some (String.toList_ofList (l := s))

theorem hexDigit?_upperHex (n : Nat) : hexDigit? (upperHex n) = some (n % 16) := by
  have each : ∀ digit < 16, hexDigit? (Nat.digitChar digit).toUpper = some digit := by decide
  exact each (n % 16) (Nat.mod_lt n (by decide))

theorem escapedByte?_percentByte (byte : UInt8) (rest : Text) :
    escapedByte? (percentByte byte ++ rest) = some byte := by
  have small : byte.toNat < 256 := byte.toNat_lt
  have high : byte.toNat / 16 % 16 = byte.toNat / 16 := Nat.mod_eq_of_lt (by omega)
  have whole : 16 * (byte.toNat / 16) + byte.toNat % 16 = byte.toNat := Nat.div_add_mod _ _
  have read : escapedByte? (percentByte byte ++ rest) =
      some (UInt8.ofNat (16 * (byte.toNat / 16 % 16) + byte.toNat % 16)) := by
    simp only [percentByte, escapedByte?, List.cons_append, hexDigit?_upperHex]
    rfl
  rw [read, high, whole, UInt8.ofNat_toNat]

theorem percentDecode_percentByte (byte : UInt8) (rest : Text) :
    percentDecode (percentByte byte ++ rest) = byte :: percentDecode rest := by
  have escaped := escapedByte?_percentByte byte rest
  simp only [percentByte, List.cons_append, List.nil_append] at escaped ⊢
  rw [percentDecode, escaped]
  rfl

theorem percentDecode_bytes (bytes : List UInt8) (rest : Text) :
    percentDecode (bytes.flatMap percentByte ++ rest) = bytes ++ percentDecode rest := by
  induction bytes with
  | nil => rfl
  | cons byte more ih =>
    rw [List.flatMap_cons, List.append_assoc, percentDecode_percentByte, ih, List.cons_append]

theorem percentDecode_cons {c : Char} (plain : c ≠ '%') (rest : Text) :
    percentDecode (c :: rest) = String.utf8EncodeChar c ++ percentDecode rest := by
  have unescaped : escapedByte? (c :: rest) = none := by simp [escapedByte?, plain]
  rw [percentDecode, unescaped]

theorem percentDecode_percentEncode {encodes : Char → Bool} (escapes : encodes '%') (s : Text) :
    percentDecode (percentEncode encodes s) = s.flatMap String.utf8EncodeChar := by
  induction s with
  | nil => rw [percentEncode, List.flatMap_nil, percentDecode, List.flatMap_nil]
  | cons c rest ih =>
    rw [percentEncode, List.flatMap_cons, ← percentEncode, List.flatMap_cons, ← ih]
    by_cases encoded : encodes c
    next => rw [if_pos encoded, percentChar, percentDecode_bytes]
    next =>
      have plain : c ≠ '%' := fun same => encoded (same ▸ escapes)
      rw [if_neg encoded, List.singleton_append, percentDecode_cons plain]

theorem isFormChar_upperHex (n : Nat) : isFormChar (upperHex n) := by
  have each : ∀ digit < 16, isFormChar (Nat.digitChar digit).toUpper := by decide
  exact each (n % 16) (Nat.mod_lt n (by decide))

theorem mem_percentChar {c d : Char} (inside : d ∈ percentChar c) : d = '%' ∨ isFormChar d := by
  obtain ⟨byte, -, inside⟩ := List.mem_flatMap.1 inside
  simp only [percentByte, List.mem_cons, List.not_mem_nil, or_false] at inside
  rcases inside with rfl | rfl | rfl
  · exact .inl rfl
  · exact .inr (isFormChar_upperHex _)
  · exact .inr (isFormChar_upperHex _)

theorem mem_formEncode {s : Text} {c : Char} (inside : c ∈ formEncode s) :
    c = '%' ∨ c = '+' ∨ isFormChar c := by
  obtain ⟨d, -, inside⟩ := List.mem_flatMap.1 inside
  split at inside
  next plain =>
    obtain rfl := List.mem_singleton.1 inside
    exact .inr (.inr plain)
  next =>
    split at inside
    next => exact .inr (.inl (List.mem_singleton.1 inside))
    next => exact (mem_percentChar inside).imp_right .inr

-- A plus sign stands for a blank; this is seen before escapes are resolved.
def plusAsBlank (c : Char) : Char :=
  if c = '+' then ' ' else c

def formText? (s : Text) : Option Text :=
  ofBytes? (percentDecode (s.map plusAsBlank))

def inForm (c : Char) : Bool :=
  !(isFormChar c || c = ' ')

theorem plusAsBlank_of_isFormChar {c : Char} (plain : isFormChar c) : plusAsBlank c = c := by
  have other : c ≠ '+' := fun same => absurd (same ▸ plain) (by decide)
  rw [plusAsBlank, if_neg other]

theorem map_plusAsBlank_percentChar (c : Char) :
    (percentChar c).map plusAsBlank = percentChar c := by
  conv_rhs => rw [← List.map_id (percentChar c)]
  apply List.map_congr_left
  intro d inside
  rcases mem_percentChar inside with rfl | plain
  · rfl
  · exact plusAsBlank_of_isFormChar plain

theorem map_plusAsBlank_formEncode (s : Text) :
    (formEncode s).map plusAsBlank = percentEncode inForm s := by
  rw [formEncode, percentEncode, List.map_flatMap]
  congr 1
  funext c
  by_cases plain : isFormChar c
  next => simp [inForm, plain, plusAsBlank_of_isFormChar plain]
  next =>
    by_cases blank : c = ' '
    next =>
      subst blank
      rfl
    next => simp [inForm, plain, blank, map_plusAsBlank_percentChar]

theorem formText?_formEncode (s : Text) : formText? (formEncode s) = some s := by
  rw [formText?, map_plusAsBlank_formEncode, percentDecode_percentEncode (by decide), ofBytes?_utf8]

def formPair? (part : Text) : Option (Text × Text) := do
  let name ← formText? (part.takeWhile (· ≠ '='))
  let value ← formText? ((part.dropWhile (· ≠ '=')).drop 1)
  return (name, value)

def formPairs? (query : Text) : Option (List (Text × Text)) :=
  ((splitOn '&' query).filter (· ≠ [])).mapM formPair?

theorem formPair?_formPair (pair : Text × Text) : formPair? (formPair pair) = some pair := by
  have name : ∀ c ∈ formEncode pair.1, decide (c ≠ '=') = true := by
    intro c inside
    rcases mem_formEncode inside with rfl | rfl | plain
    · rfl
    · rfl
    · exact decide_eq_true fun same => absurd (same ▸ plain) (by decide)
  rw [formPair?, formPair, List.takeWhile_append_of_pos name, List.dropWhile_append_of_pos name]
  simp [formText?_formEncode]

theorem mem_formPair {pair : Text × Text} {c : Char} (inside : c ∈ formPair pair) :
    c = '=' ∨ c = '%' ∨ c = '+' ∨ isFormChar c := by
  rcases List.mem_append.1 inside with name | value
  · exact .inr (mem_formEncode name)
  · exact (List.mem_cons.1 value).imp_right mem_formEncode

theorem mem_appendPairs {query : Text} {pairs : List (Text × Text)} {c : Char}
    (inside : c ∈ appendPairs query pairs) :
    c ∈ query ∨ c = '&' ∨ c = '=' ∨ c = '%' ∨ c = '+' ∨ isFormChar c := by
  induction pairs generalizing query with
  | nil => exact .inl inside
  | cons pair rest ih =>
    rcases ih inside with before | new
    · rcases List.mem_append.1 before with old | own
      · split at old
        next => nomatch old
        next => exact (List.mem_append.1 old).imp_right fun mark => .inl (List.mem_singleton.1 mark)
      · exact .inr (.inr (mem_formPair own))
    · exact .inr new

theorem formPairs?_formPair_append (query : Text) (pair : Text × Text) :
    formPairs? ((if query = [] then [] else query ++ ['&']) ++ formPair pair) =
      (formPairs? query).map (· ++ [pair]) := by
  have last : (splitOn '&' (formPair pair)).filter (· ≠ []) = [formPair pair] := by
    have absent : '&' ∉ formPair pair := fun inside => absurd (mem_formPair inside) (by decide)
    rw [splitOn_of_not_mem absent]
    simp [formPair]
  have alone : formPairs? (formPair pair) = some [pair] := by
    rw [formPairs?, last]
    simp [formPair?_formPair]
  by_cases empty : query = []
  next =>
    subst empty
    exact alone
  next =>
    rw [if_neg empty, List.append_assoc, List.singleton_append, formPairs?, splitOn_joined,
      List.filter_append, List.mapM_append, ← formPairs?, ← formPairs?, alone]
    cases formPairs? query <;> rfl

theorem formPairs?_appendPairs (query : Text) (pairs : List (Text × Text)) :
    formPairs? (appendPairs query pairs) = (formPairs? query).map (· ++ pairs) := by
  induction pairs generalizing query with
  | nil => simp [appendPairs]
  | cons pair rest ih =>
    rw [appendPairs, List.foldl_cons, ← appendPairs, ih, formPairs?_formPair_append]
    simp [Option.map_map, Function.comp_def]

end Prejoin.Url
