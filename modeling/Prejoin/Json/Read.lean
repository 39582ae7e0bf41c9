import Prejoin.Json.Fault

set_option autoImplicit false

namespace Prejoin.Json

abbrev Read (α : Type) := Text → Except Fault (α × Text)

def Within {α : Type} (read : Read α) : Prop :=
  ∀ s a rest, read s = .ok (a, rest) → rest.length ≤ s.length

-- A reader that takes at least one character can be repeated.
structure Reader (α : Type) where
  read : Read α
  shrinks : ∀ s a rest, read s = .ok (a, rest) → rest.length < s.length

def Read.map {α β : Type} (f : α → β) (read : Read α) : Read β := fun s =>
  match read s with
  | .error fault => .error fault
  | .ok (a, rest) => .ok (f a, rest)

theorem Within.map {α β : Type} {f : α → β} {read : Read α} (within : Within read) :
    Within (read.map f) := by
  intro s b rest done
  unfold Read.map at done
  split at done
  next => simp at done
  next a after taken =>
    obtain ⟨rfl, rfl⟩ : f a = b ∧ after = rest := by simpa using done
    exact within _ _ _ taken

theorem Reader.map_shrinks {α β : Type} (f : α → β) (reader : Reader α) (s : Text) (b : β)
    (rest : Text) (done : reader.read.map f s = .ok (b, rest)) : rest.length < s.length := by
  unfold Read.map at done
  split at done
  next => simp at done
  next a after taken =>
    obtain ⟨rfl, rfl⟩ : f a = b ∧ after = rest := by simpa using done
    exact reader.shrinks _ _ _ taken

def Reader.map {α β : Type} (f : α → β) (reader : Reader α) : Reader β :=
  ⟨reader.read.map f, reader.map_shrinks f⟩

-- What is passed over may hold numbers that are too large and halves of surrogate pairs, and may
-- nest as deep as it likes.
inductive Care where
  | keep | skim
deriving DecidableEq, Repr

-- The first byte of the text is the offending one; at its end there is none.
def faultAt {α : Type} (cause : Cause) (rest : Text) : Except Fault α :=
  .error ⟨cause, byteLength rest - 1⟩

-- The byte before the text is the offending one.
def faultBefore {α : Type} (cause : Cause) (rest : Text) : Except Fault α :=
  .error ⟨cause, byteLength rest⟩

@[simp, grind =] theorem faultAt_ne_ok {α : Type} (cause : Cause) (rest : Text) (a : α) :
    (faultAt cause rest = .ok a) = False := by simp [faultAt]

@[simp, grind =] theorem faultBefore_ne_ok {α : Type} (cause : Cause) (rest : Text) (a : α) :
    (faultBefore cause rest = .ok a) = False := by simp [faultBefore]

def isSpace (c : Char) : Bool :=
  c = ' ' || c = '\t' || c = '\n' || c = '\r'

def skipSpace (s : Text) : Text :=
  s.dropWhile isSpace

theorem length_skipSpace (s : Text) : (skipSpace s).length ≤ s.length :=
  (List.dropWhile_sublist isSpace).length_le

end Prejoin.Json
