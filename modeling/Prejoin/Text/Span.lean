import Prejoin.Text.Basic

set_option autoImplicit false

namespace Prejoin

-- The bytes from `start` up to but not including `stop`.
structure Span where
  start : Nat
  stop : Nat
deriving DecidableEq, Repr

def Span.fits (span : Span) (source : Text) : Bool :=
  span.start ≤ span.stop && isBoundary span.start source && isBoundary span.stop source

def Span.slice (span : Span) (source : Text) : Option Text :=
  if span.fits source then
    some (takeBytes (span.stop - span.start) (dropBytes span.start source))
  else none

end Prejoin
