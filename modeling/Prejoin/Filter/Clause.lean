import Prejoin.Filter.Scan

set_option autoImplicit false

namespace Prejoin

def escape (value : Text) : Text :=
  value.flatMap fun c => if c = '"' ∨ c = '\\' then ['\\', c] else [c]

def quoteLiteral (value : Text) : Text :=
  '"' :: escape value ++ ['"']

@[simp] theorem escape_nil : escape [] = [] := rfl

theorem escape_cons (c : Char) (rest : Text) :
    escape (c :: rest) =
      (if c = '"' ∨ c = '\\' then ['\\', c] else [c]) ++ escape rest := by
  simp [escape]

theorem unescape_escape (value : Text) : unescape (escape value) = value := by
  induction value with
  | nil => rfl
  | cons c rest ih =>
    rw [escape_cons]
    split
    next => simp [unescape, ih]
    next plain =>
      cases tail : escape rest with
      | nil => simp_all [unescape]
      | cons d more => simp_all [unescape]

theorem splitLiteral_escape (value after : Text) :
    splitLiteral .escaped '"' (escape value ++ '"' :: after) = some (escape value, after) := by
  induction value with
  | nil => cases after <;> simp [splitLiteral]
  | cons c rest ih =>
    rw [escape_cons]
    split
    next => simp [splitLiteral, ih]
    next plain =>
      cases tail : escape rest ++ '"' :: after with
      | nil => simp at tail
      | cons d more => simp_all [splitLiteral]

def comparison (field value : Text) : Text :=
  field ++ '=' :: quoteLiteral value

def disjunction (field : Text) (keys : List Text) : Text :=
  '(' :: (List.intersperse " or ".toList (keys.map (comparison field))).flatten ++ [')']

def unmatchedKey : Text :=
  "__NO_MATCH__".toList

def noMatch (field : Text) : Text :=
  comparison field unmatchedKey

def replacementFor (field : Text) (keys : List Text) : Text :=
  if keys = [] then noMatch field else disjunction field keys

end Prejoin
