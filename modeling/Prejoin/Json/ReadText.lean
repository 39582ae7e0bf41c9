import Prejoin.Json.Read

set_option autoImplicit false

namespace Prejoin.Json

def hexValue? (digits : Text) : Option Nat :=
  digits.foldl (fun value c => return 16 * (← value) + (← hexDigit? c)) (some 0)

-- Four hexadecimal digits; the escape takes four bytes whatever they are.
def readHex : Read Nat := fun s =>
  if byteLength (s.take 4) < 4 then faultBefore .endInString []
  else
    match hexValue? (s.take 4) with
    | some value => .ok (value, s.drop 4)
    | none => .error ⟨.invalidEscape, byteLength s - 4⟩

def isHighSurrogate (n : Nat) : Bool := 0xD800 ≤ n && n ≤ 0xDBFF

def isLowSurrogate (n : Nat) : Bool := 0xDC00 ≤ n && n ≤ 0xDFFF

theorem readHex_within : Within readHex := by
  intro s a rest done
  unfold readHex at done
  grind

-- The second half of a surrogate pair has to follow its first half at once.
def readLowSurrogate (high : Nat) : Read Char
  | '\\' :: 'u' :: rest =>
    match readHex rest with
    | .error fault => .error fault
    | .ok (low, rest) =>
      if isLowSurrogate low then
        .ok (Char.ofNat (0x10000 + (high - 0xD800) * 0x400 + (low - 0xDC00)), rest)
      else faultBefore .loneSurrogate rest
  | [] | ['\\'] => faultBefore .endInString []
  | '\\' :: rest => faultAt .endOfHexEscape rest
  | rest => faultAt .endOfHexEscape rest

theorem readLowSurrogate_within (high : Nat) : Within (readLowSurrogate high) := by
  intro s a rest done
  unfold readLowSurrogate at done
  have := readHex_within
  unfold Within at this
  grind

def readUnicode (care : Care) : Read Char := fun s =>
  match readHex s with
  | .error fault => .error fault
  | .ok (unit, rest) =>
    if care = .skim then .ok (Char.ofNat unit, rest)
    else if isLowSurrogate unit then faultBefore .loneSurrogate rest
    else if isHighSurrogate unit then readLowSurrogate unit rest
    else .ok (Char.ofNat unit, rest)

theorem readUnicode_within (care : Care) : Within (readUnicode care) := by
  intro s a rest done
  unfold readUnicode at done
  have := readHex_within
  have := readLowSurrogate_within
  unfold Within at *
  grind

def plainEscape? (c : Char) : Option Char :=
  match c with
  | '"' => some '"'
  | '\\' => some '\\'
  | '/' => some '/'
  | 'b' => some '\x08'
  | 'f' => some '\x0c'
  | 'n' => some '\n'
  | 'r' => some '\r'
  | 't' => some '\t'
  | _ => none

def readEscape (care : Care) : Read Char
  | [] => faultBefore .endInString []
  | c :: rest =>
    if c = 'u' then readUnicode care rest
    else
      match plainEscape? c with
      | some meant => .ok (meant, rest)
      | none => faultAt .invalidEscape (c :: rest)

theorem readEscape_within (care : Care) : Within (readEscape care) := by
  intro s a rest done
  unfold readEscape at done
  have := readUnicode_within care
  unfold Within at this
  grind

def readText (care : Care) (earlier : Text) (s : Text) : Except Fault (Text × Text) :=
  match s with
  | [] => faultBefore .endInString []
  | c :: rest =>
    if c = '"' then .ok (earlier.reverse, rest)
    else if c = '\\' then
      match taken : readEscape care rest with
      | .error fault => .error fault
      | .ok (meant, after) =>
        have := readEscape_within care _ _ _ taken
        readText care (meant :: earlier) after
    else if c.toNat < 0x20 then faultAt .controlCharacter (c :: rest)
    else readText care (c :: earlier) rest
termination_by s.length
decreasing_by all_goals grind

theorem readText_within (care : Care) (earlier : Text) : Within (readText care earlier) := by
  intro s a rest done
  fun_induction readText care earlier s <;> grind

end Prejoin.Json
