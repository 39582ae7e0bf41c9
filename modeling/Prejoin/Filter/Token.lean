import Prejoin.Text.Numeral
import Prejoin.Text.Span

set_option autoImplicit false

namespace Prejoin

inductive Comparison where
  | equal | unequal | less | atMost | greater | atLeast
deriving DecidableEq, Repr

inductive Quote where
  | double | single
deriving DecidableEq, Repr

def Quote.mark : Quote → Char
  | .double => '"'
  | .single => '\''

def Quote.ofMark? (c : Char) : Option Quote :=
  if c = '"' then some .double else if c = '\'' then some .single else none

theorem Quote.ofMark?_eq_some_iff {c : Char} {quote : Quote} :
    Quote.ofMark? c = some quote ↔ c = quote.mark := by
  unfold Quote.ofMark?
  cases quote <;> split <;> simp_all [Quote.mark]

inductive Lexeme where
  | name (text : Text)
  | number (text : Text)
  | literal (value : Text) (quote : Quote)
  | comparison (sign : Comparison)
  | dot | comma | opening | closing
  | other (c : Char)
deriving DecidableEq, Repr

structure Token where
  lexeme : Lexeme
  span : Span
deriving DecidableEq, Repr

def startsName (c : Char) : Bool :=
  isLetter c || c = '_'

def continuesName (c : Char) : Bool :=
  isLetterOrNumeral c || c = '_'

-- Numbers are loose: letters and points after the first digit belong to them.
def continuesNumber (c : Char) : Bool :=
  c.isAlphanum || c = '.'

end Prejoin
