import Prejoin.Text.Basic

set_option autoImplicit false

namespace Prejoin

abbrev Dict (α : Type) := List (Text × α)

variable {α : Type}

def put (name : Text) (value : α) : Dict α → Dict α
  | [] => [(name, value)]
  | (other, held) :: rest =>
    if name = other then (name, value) :: rest
    else if name < other then (name, value) :: (other, held) :: rest
    else (other, held) :: put name value rest

def Dict.ofPairs (pairs : List (Text × α)) : Dict α :=
  pairs.foldl (fun dict pair => put pair.1 pair.2 dict) []

def Dict.extendedBy (dict more : Dict α) : Dict α :=
  more.foldl (fun dict pair => put pair.1 pair.2 dict) dict

theorem lookup_pair (asked other : Text) (held : α) (rest : Dict α) :
    ((other, held) :: rest).lookup asked =
      if asked = other then some held else rest.lookup asked := by
  by_cases same : asked = other
  next => simp [same]
  next =>
    have : (asked == other) = false := by simpa using same
    simp [List.lookup_cons, this, same]

theorem lookup_put (name asked : Text) (value : α) (dict : Dict α) :
    (put name value dict).lookup asked =
      if asked = name then some value else dict.lookup asked := by
  induction dict with
  | nil => simp [put, lookup_pair]
  | cons head rest ih =>
    obtain ⟨other, held⟩ := head
    simp only [put]
    split
    next taken => by_cases same : asked = name <;> simp_all [lookup_pair]
    next free =>
      split
      next => simp [lookup_pair]
      next =>
        by_cases found : asked = other
        next =>
          have : other ≠ name := fun h => free h.symm
          simp [found, this]
        next => simp [lookup_pair, found, ih]

end Prejoin
