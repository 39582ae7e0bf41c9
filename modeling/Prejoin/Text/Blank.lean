import Prejoin.Text.Basic

set_option autoImplicit false

namespace Prejoin

-- The characters with the Unicode property `White_Space`.
def isBlank (c : Char) : Bool :=
  let n := c.toNat
  (0x09 ≤ n && n ≤ 0x0D) || n == 0x20 || n == 0x85 || n == 0xA0 || n == 0x1680 ||
    (0x2000 ≤ n && n ≤ 0x200A) || n == 0x2028 || n == 0x2029 || n == 0x202F ||
    n == 0x205F || n == 0x3000

theorem head?_dropWhile {drop : Char → Bool} {s : Text} {c : Char}
    (first : (s.dropWhile drop).head? = some c) : drop c = false := by
  have stops := List.head?_dropWhile_not drop s
  rw [first] at stops
  simpa using stops

def trimEnd (drop : Char → Bool) (s : Text) : Text :=
  (s.reverse.dropWhile drop).reverse

def trim (s : Text) : Text :=
  trimEnd isBlank (s.dropWhile isBlank)

def trimmed? (s : Text) : Option Text :=
  let s := trim s
  if s = [] then none else some s

def isBlankText (s : Text) : Bool :=
  s.all isBlank

end Prejoin
