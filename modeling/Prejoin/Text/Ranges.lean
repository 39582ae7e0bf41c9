set_option autoImplicit false

namespace Prejoin

abbrev Ranges := List (Nat × Nat)

-- Stops at the first range that starts beyond `n`.
def Ranges.holds : Ranges → Nat → Bool
  | [], _ => false
  | (first, last) :: later, n =>
    if n < first then false else n ≤ last || Ranges.holds later n

end Prejoin
