import Prejoin.Json.ReadValue
import Prejoin.Relation.Entry

set_option autoImplicit false

namespace Prejoin

-- The values are kept as they are until a root resource is asked for.
structure Layer where
  roots : Dict (Dict Json)

namespace Layer

open Json

def readOnly {α : Type} (passes : α → Bool) (reader : Reader α) : Read α := fun s =>
  match reader.read s with
  | .error fault => .error fault
  | .ok (a, rest) => if passes a then .ok (a, rest) else faultAt .expectedValue rest

theorem readOnly_shrinks {α : Type} (passes : α → Bool) (reader : Reader α) (s : Text) (a : α)
    (rest : Text) (done : readOnly passes reader s = .ok (a, rest)) : rest.length < s.length := by
  unfold readOnly at done
  split at done
  next => simp at done
  next taken =>
    split at done
    next =>
      have := reader.shrinks _ _ _ taken
      grind
    next => simp at done

def only {α : Type} (passes : α → Bool) (reader : Reader α) : Reader α :=
  ⟨readOnly passes reader, readOnly_shrinks passes reader⟩

theorem faultAt_shrinks {α : Type} (cause : Cause) (s : Text) (a : α) (rest : Text)
    (done : faultAt cause s = .ok (a, rest)) : rest.length < s.length := by
  simp at done

def refuse {α : Type} : Reader α :=
  ⟨faultAt .expectedValue, faultAt_shrinks .expectedValue⟩

def readBraced {α : Type} (member : Text → Reader α) : Read (List (Text × α)) := fun s =>
  match skipSpace s with
  | [] => faultAt .endInValue []
  | c :: rest =>
    if c = '\x7b' then readMembers .keep member [] rest else faultAt .expectedValue (c :: rest)

theorem readBraced_shrinks {α : Type} (member : Text → Reader α) (s : Text)
    (members : List (Text × α)) (after : Text)
    (done : readBraced member s = .ok (members, after)) : after.length < s.length := by
  have start := length_skipSpace s
  unfold readBraced at done
  split at done
  next => simp at done
  next spaces =>
    split at done
    next => have := readMembers_within _ _ _ _ _ _ done; grind
    next => simp at done

def readObject {α : Type} (member : Text → Reader α) : Reader (List (Text × α)) :=
  ⟨readBraced member, readBraced_shrinks member⟩

def maxVersion : Nat := 0xFFFFFFFF

def isVersion : Json → Bool
  | .null => true
  | value => (value.asNat?).any (· ≤ maxVersion)

inductive Part where
  | version
  | roots (given : Dict (Dict Json))
  | other

def readVersion : Reader Part :=
  (only isVersion (readValue .keep 0)).map fun _ => .version

-- Three levels of the file are outside the values of the entries.
def readEntryValue : Reader Json :=
  readValue .keep (maxDepth - 3)

def readRoots : Reader Part :=
  (readObject fun _ => (readObject fun _ => readEntryValue).map Dict.ofPairs).map
    (.roots ∘ Dict.ofPairs)

-- Other names may hold whatever reads as a value.
def partOfName (name : Text) : Reader Part :=
  if name = "version".toList then readVersion
  else if name = "relationships".toList then readRoots
  else skipValue.map fun _ => .other

def partOfPlace : Nat → Reader Part
  | 0 => readVersion
  | 1 => readRoots
  | _ => refuse

def readParts : Read (List Part) := fun s =>
  match skipSpace s with
  | [] => faultAt .endInValue []
  | c :: rest =>
    if c = '\x7b' then Read.map (List.map Prod.snd) (readMembers .keep partOfName []) rest
    else if c = '[' then readItems partOfPlace 0 [] rest
    else faultAt .expectedValue (c :: rest)

def Part.isVersion : Part → Bool
  | .version => true
  | _ => false

def Part.roots? : Part → Option (Dict (Dict Json))
  | .roots given => some given
  | _ => none

-- Neither the version nor the roots may be given twice; both may be missing.
def ofParts? (parts : List Part) : Option Layer :=
  if 1 < (parts.filter Part.isVersion).length then none
  else
    match parts.filterMap Part.roots? with
    | [] => some ⟨[]⟩
    | [given] => some ⟨given⟩
    | _ => none

def parse? (source : Text) : Option Layer :=
  match readWhole readParts source with
  | .ok parts => ofParts? parts
  | .error _ => none

-- Whether the first spelling comes before the second or is the same: the canonical one is last,
-- the others are in order.
def noLaterThan (canonical : Text → Bool) (a b : Text) : Bool :=
  if canonical a = canonical b then !(b < a) else canonical b

def inOrder {α : Type} (canonical : Text → Bool) (named : List (Text × α)) : List (Text × α) :=
  named.mergeSort fun a b => noLaterThan canonical a.1 b.1

def aliases (layer : Layer) (root : Text) : List (Text × Json) :=
  (inOrder (· = root) (layer.roots.filter fun named => sameName named.1 root)).flatMap
    fun named => inOrder (fun spelling => spelling = foldCase spelling) named.2

-- A value that is no entry neither counts nor hides one that is.
def entries (layer : Layer) (root : Text) : Dict Entry :=
  Dict.ofPairs <| (layer.aliases root).filterMap fun (spelling, value) =>
    (Entry.ofJson? value).map fun entry => (foldCase spelling, entry)

end Layer

end Prejoin
