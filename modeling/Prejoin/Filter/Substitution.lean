import Prejoin.Text.Span

set_option autoImplicit false

namespace Prejoin

structure Substitution where
  span : Span
  replacement : Text
deriving DecidableEq, Repr

inductive SubstitutionError where
  | invalidSpan (span : Span)
  | overlap (span : Span)
deriving DecidableEq, Repr

def Span.describe (span : Span) : Text :=
  "Span ".toList ++ decimal span.start ++ "..".toList ++ decimal span.stop

def SubstitutionError.message : SubstitutionError → Text
  | .invalidSpan span => span.describe ++ " is outside the filter or splits a character".toList
  | .overlap span => span.describe ++ " overlaps another substitution".toList

def inOrder (substitutions : List Substitution) : List Substitution :=
  substitutions.mergeSort fun a b => a.span.start ≤ b.span.start

def check (filter : Text) (previous : Nat) : List Substitution → Except SubstitutionError Unit
  | [] => .ok ()
  | s :: rest =>
    if !s.span.fits filter then .error (.invalidSpan s.span)
    else if s.span.start < previous then .error (.overlap s.span)
    else check filter s.span.stop rest

def Substitution.write (s : Substitution) (filter : Text) : Text :=
  takeBytes s.span.start filter ++ s.replacement ++ dropBytes s.span.stop filter

-- Written from the last to the first, so that the offsets of those still to be written stay right.
def substitute (filter : Text) (substitutions : List Substitution) :
    Except SubstitutionError Text :=
  let ordered := inOrder substitutions
  (check filter 0 ordered).map fun _ => ordered.foldr Substitution.write filter

end Prejoin
