import Prejoin.Json.ReadNumber
import Prejoin.Json.ReadText

set_option autoImplicit false

namespace Prejoin.Json

def readWord (value : Json) : (word : Text) → Read Json
  | [], rest => .ok (value, rest)
  | _ :: _, [] => faultAt .endInValue []
  | expected :: word, c :: rest =>
    if c = expected then readWord value word rest else faultAt .expectedIdent (c :: rest)

theorem readWord_within (value : Json) (word : Text) : Within (readWord value word) := by
  intro s a rest done
  fun_induction readWord value word s with
  | case1 => simp_all
  | case2 => simp at done
  | case3 word c tail ih => have := ih done; simp only [List.length_cons]; omega
  | case4 => simp at done

def nextItem (first : Bool) : Read Bool := fun s =>
  match skipSpace s with
  | [] => faultAt .endInList []
  | c :: rest =>
    if c = ']' then .ok (false, rest)
    else if first then .ok (true, c :: rest)
    else if c = ',' then
      match skipSpace rest with
      | [] => faultAt .endInValue []
      | d :: rest =>
        if d = ']' then faultAt .trailingComma (d :: rest) else .ok (true, d :: rest)
    else faultAt .expectedListEnd (c :: rest)

theorem nextItem_within (first : Bool) : Within (nextItem first) := by
  intro s a rest done
  unfold nextItem at done
  have := length_skipSpace
  grind

def readItems {α : Type} (item : Nat → Reader α) (place : Nat) (earlier : List α) (s : Text) :
    Except Fault (List α × Text) :=
  match next : nextItem (place = 0) s with
  | .error fault => .error fault
  | .ok (false, rest) => .ok (earlier.reverse, rest)
  | .ok (true, rest) =>
    match taken : (item place).read rest with
    | .error fault => .error fault
    | .ok (a, after) =>
      have := nextItem_within _ _ _ _ next
      have := (item place).shrinks _ _ _ taken
      readItems item (place + 1) (a :: earlier) after
termination_by s.length

theorem readItems_within {α : Type} (item : Nat → Reader α) (place : Nat) (earlier : List α) :
    Within (readItems item place earlier) := by
  intro s a rest done
  fun_induction readItems item place earlier s with
  | case1 => simp at done
  | case2 _ _ _ _ next => have := nextItem_within _ _ _ _ next; simp_all
  | case3 => simp at done
  | case4 => grind

def nextMember (first : Bool) : Read Bool := fun s =>
  match skipSpace s with
  | [] => faultAt .endInObject []
  | c :: rest =>
    if c = '\x7d' then .ok (false, rest)
    else if first then
      if c = '"' then .ok (true, rest) else faultAt .keyNotText (c :: rest)
    else if c = ',' then
      match skipSpace rest with
      | [] => faultAt .endInValue []
      | d :: rest =>
        if d = '"' then .ok (true, rest)
        else if d = '\x7d' then faultAt .trailingComma (d :: rest)
        else faultAt .keyNotText (d :: rest)
    else faultAt .expectedObjectEnd (c :: rest)

theorem nextMember_within (first : Bool) : Within (nextMember first) := by
  intro s a rest done
  unfold nextMember at done
  have := length_skipSpace
  grind

def readName (care : Care) : Read Text := fun s =>
  match readText care [] s with
  | .error fault => .error fault
  | .ok (name, rest) =>
    match skipSpace rest with
    | [] => faultAt .endInObject []
    | c :: rest => if c = ':' then .ok (name, rest) else faultAt .expectedColon (c :: rest)

theorem readName_within (care : Care) : Within (readName care) := by
  intro s a rest done
  unfold readName at done
  have spaces := length_skipSpace
  have texts := readText_within care []
  unfold Within at texts
  grind

def readMembers {α : Type} (care : Care) (member : Text → Reader α) (earlier : List (Text × α))
    (s : Text) : Except Fault (List (Text × α) × Text) :=
  match next : nextMember earlier.isEmpty s with
  | .error fault => .error fault
  | .ok (false, rest) => .ok (earlier.reverse, rest)
  | .ok (true, rest) =>
    match named : readName care rest with
    | .error fault => .error fault
    | .ok (name, start) =>
      match taken : (member name).read start with
      | .error fault => .error fault
      | .ok (a, after) =>
        have := nextMember_within _ _ _ _ next
        have := readName_within _ _ _ _ named
        have := (member name).shrinks _ _ _ taken
        readMembers care member ((name, a) :: earlier) after
termination_by s.length

theorem readMembers_within {α : Type} (care : Care) (member : Text → Reader α)
    (earlier : List (Text × α)) : Within (readMembers care member earlier) := by
  intro s a rest done
  fun_induction readMembers care member earlier s with
  | case1 => simp at done
  | case2 _ _ _ next => have := nextMember_within _ _ _ _ next; simp_all
  | case3 => simp at done
  | case4 => simp at done
  | case5 => grind

def readFrom (care : Care) (inner : Option (Reader Json)) (c : Char) : Option (Read Json) :=
  match c, inner with
  | 'n', _ => some (readWord .null "ull".toList)
  | 't', _ => some (readWord (.bool true) "rue".toList)
  | 'f', _ => some (readWord (.bool false) "alse".toList)
  | '"', _ => some (Read.map .text (readText care []))
  | '[', some inner => some (Read.map .list (readItems (fun _ => inner) 0 []))
  | '\x7b', some inner =>
    some (Read.map (fun members => .object (Dict.ofPairs members))
      (readMembers care (fun _ => inner) []))
  | _, _ => none

theorem readFrom_within {care : Care} {inner : Option (Reader Json)} {c : Char} {read : Read Json}
    (found : readFrom care inner c = some read) : Within read := by
  unfold readFrom at found
  split at found <;> simp only [Option.some.injEq, reduceCtorEq] at found <;> subst found
  next => exact readWord_within _ _
  next => exact readWord_within _ _
  next => exact readWord_within _ _
  next => exact (readText_within _ _).map
  next => exact (readItems_within _ _ _).map
  next => exact (readMembers_within _ _ _).map

def readOne (care : Care) (inner : Option (Reader Json)) : Read Json := fun s =>
  match skipSpace s with
  | [] => faultAt .endInValue []
  | c :: rest =>
    match readFrom care inner c with
    | some read => read rest
    | none =>
      if c = '-' then Read.map .number (readNumber care true) rest
      else if c.isDigit then Read.map .number (readNumber care false) (c :: rest)
      else if c = '[' ∨ c = '\x7b' then faultAt .tooDeep (c :: rest)
      else faultAt .expectedValue (c :: rest)

theorem readOne_shrinks (care : Care) (inner : Option (Reader Json)) (s : Text) (a : Json)
    (after : Text) (done : readOne care inner s = .ok (a, after)) : after.length < s.length := by
  have start := length_skipSpace s
  unfold readOne at done
  split at done
  next => simp at done
  next c rest spaces =>
    rw [spaces, List.length_cons] at start
    split at done
    next read found => have := readFrom_within found _ _ _ done; omega
    next =>
      simp only [Read.map] at done
      split at done
      next =>
        split at done
        next => simp at done
        next taken => have := readNumber_shrinks taken; grind
      next =>
        split at done
        next =>
          split at done
          next => simp at done
          next taken => have := readNumber_shrinks taken; grind
        next => split at done <;> simp at done

def readValueWith (care : Care) (inner : Option (Reader Json)) : Reader Json :=
  ⟨readOne care inner, readOne_shrinks care inner⟩

def readValue (care : Care) : (depth : Nat) → Reader Json
  | 0 => readValueWith care none
  | depth + 1 => readValueWith care (some (readValue care depth))

def maxDepth : Nat := 127

def skipOne : Read Json := fun s =>
  (readValue .skim s.length).read s

theorem skipOne_shrinks (s : Text) (a : Json) (rest : Text) (done : skipOne s = .ok (a, rest)) :
    rest.length < s.length :=
  (readValue .skim s.length).shrinks s a rest done

def skipValue : Reader Json :=
  ⟨skipOne, skipOne_shrinks⟩

def readWhole {α : Type} (read : Read α) (source : Text) : Except Fault α :=
  match read source with
  | .error fault => .error fault
  | .ok (value, rest) =>
    match skipSpace rest with
    | [] => .ok value
    | c :: rest => faultAt .trailingCharacters (c :: rest)

def parse (source : Text) : Except ReadError Json :=
  match readWhole (readValue .keep maxDepth).read source with
  | .ok value => .ok value
  | .error fault => .error (fault.locate source)

end Prejoin.Json
