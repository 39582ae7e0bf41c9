set_option autoImplicit false

namespace Prejoin

abbrev Text := List Char

def byteLength : Text → Nat
  | [] => 0
  | c :: rest => c.utf8Size + byteLength rest

@[simp] theorem byteLength_nil : byteLength [] = 0 := rfl

@[simp] theorem byteLength_cons (c : Char) (rest : Text) :
    byteLength (c :: rest) = c.utf8Size + byteLength rest := rfl

@[simp] theorem byteLength_append (s t : Text) :
    byteLength (s ++ t) = byteLength s + byteLength t := by
  induction s with
  | nil => simp
  | cons c rest ih => simp [ih, Nat.add_assoc]

theorem byteLength_eq_zero_iff {s : Text} : byteLength s = 0 ↔ s = [] := by
  cases s with
  | nil => simp
  | cons c rest => simp [Nat.ne_of_gt c.utf8Size_pos]

def takeBytes : Nat → Text → Text
  | _, [] => []
  | n, c :: rest => if c.utf8Size ≤ n then c :: takeBytes (n - c.utf8Size) rest else []

def dropBytes : Nat → Text → Text
  | _, [] => []
  | n, c :: rest => if c.utf8Size ≤ n then dropBytes (n - c.utf8Size) rest else c :: rest

@[simp] theorem takeBytes_append_dropBytes (n : Nat) (s : Text) :
    takeBytes n s ++ dropBytes n s = s := by
  induction s generalizing n with
  | nil => rfl
  | cons c rest ih =>
    simp only [takeBytes, dropBytes]
    split <;> simp [ih]

@[simp] theorem takeBytes_byteLength_append (s t : Text) :
    takeBytes (byteLength s) (s ++ t) = s := by
  induction s with
  | nil =>
    cases t with
    | nil => rfl
    | cons c rest => simp [takeBytes, Nat.ne_of_gt c.utf8Size_pos]
  | cons c rest ih => simp [takeBytes, ih]

@[simp] theorem dropBytes_byteLength_append (s t : Text) :
    dropBytes (byteLength s) (s ++ t) = t := by
  induction s with
  | nil =>
    cases t with
    | nil => rfl
    | cons c rest => simp [dropBytes, Nat.ne_of_gt c.utf8Size_pos]
  | cons c rest ih => simp [dropBytes, ih]

def isBoundary (n : Nat) (s : Text) : Bool :=
  byteLength (takeBytes n s) = n

theorem isBoundary_iff {n : Nat} {s : Text} :
    isBoundary n s ↔ ∃ before after, s = before ++ after ∧ byteLength before = n := by
  constructor
  · intro h
    exact ⟨takeBytes n s, dropBytes n s, by simp, by simpa [isBoundary] using h⟩
  · rintro ⟨before, after, rfl, rfl⟩
    simp [isBoundary]

def foldCase (s : Text) : Text :=
  s.map Char.toLower

def sameName (a b : Text) : Bool :=
  foldCase a = foldCase b

theorem sameName_iff {a b : Text} : sameName a b ↔ foldCase a = foldCase b := by
  simp [sameName]

def splitOn (separator : Char) : Text → List Text
  | [] => [[]]
  | c :: rest =>
    let parts := splitOn separator rest
    if c = separator then [] :: parts
    else (c :: parts.headD []) :: parts.tail

theorem splitOn_ne_nil (separator : Char) (s : Text) : splitOn separator s ≠ [] := by
  cases s with
  | nil => simp [splitOn]
  | cons c rest => by_cases same : c = separator <;> simp [splitOn, same]

theorem splitOn_of_not_mem {separator : Char} {s : Text} (absent : separator ∉ s) :
    splitOn separator s = [s] := by
  induction s with
  | nil => rfl
  | cons c rest ih =>
    have other : c ≠ separator := fun same => absent (same ▸ List.mem_cons_self)
    have later : separator ∉ rest := fun inside => absent (List.mem_cons_of_mem c inside)
    simp [splitOn, ih later, other]

theorem splitOn_joined (separator : Char) (s t : Text) :
    splitOn separator (s ++ separator :: t) = splitOn separator s ++ splitOn separator t := by
  induction s with
  | nil => simp [splitOn]
  | cons c rest ih =>
    obtain ⟨first, more, parts⟩ := List.exists_cons_of_ne_nil (splitOn_ne_nil separator rest)
    by_cases same : c = separator <;> simp [splitOn, ih, parts, same]

theorem splitOn_append {separator : Char} {s : Text} (absent : separator ∉ s) (t : Text) :
    splitOn separator (s ++ separator :: t) = s :: splitOn separator t := by
  rw [splitOn_joined, splitOn_of_not_mem absent, List.singleton_append]

theorem flatten_splitOn (separator : Char) (s : Text) :
    (splitOn separator s).flatten = s.filter (· ≠ separator) := by
  induction s with
  | nil => rfl
  | cons c rest ih =>
    obtain ⟨first, more, parts⟩ := List.exists_cons_of_ne_nil (splitOn_ne_nil separator rest)
    rw [parts, List.flatten_cons] at ih
    by_cases same : c = separator <;> simp [splitOn, parts, ih, same]

def decimal (n : Nat) : Text :=
  Nat.toDigits 10 n

def hexDigit? (c : Char) : Option Nat :=
  if c.isDigit then some (c.toNat - '0'.toNat)
  else if 'a' ≤ c ∧ c ≤ 'f' then some (c.toNat - 'a'.toNat + 10)
  else if 'A' ≤ c ∧ c ≤ 'F' then some (c.toNat - 'A'.toNat + 10)
  else none

end Prejoin
