import Prejoin.Filter.Scan

set_option autoImplicit false

namespace Prejoin

inductive Operator where
  | equal | unequal | like
deriving DecidableEq, Repr

def Operator.symbol : Operator → Text
  | .equal => "=".toList
  | .unequal => "!=".toList
  | .like => "like".toList

def Operator.ofLexeme? : Lexeme → Option Operator
  | .comparison .equal => some .equal
  | .comparison .unequal => some .unequal
  | .name word => if sameName word Operator.like.symbol then some .like else none
  | _ => none

-- The span runs from the relation name to the closing quote.
structure Predicate where
  relation : Text
  field : Text
  operator : Operator
  value : Text
  quote : Quote
  span : Span
deriving DecidableEq, Repr

def Predicate.sameClause (p q : Predicate) : Bool :=
  sameName p.relation q.relation && sameName p.field q.field &&
    p.operator = q.operator && p.value = q.value

@[simp] theorem Predicate.sameClause_refl (p : Predicate) : p.sameClause p := by
  simp [Predicate.sameClause, sameName]

theorem Predicate.sameClause_symm {p q : Predicate} (same : p.sameClause q) : q.sameClause p := by
  simp_all [Predicate.sameClause, sameName]

theorem Predicate.sameClause_trans {p q r : Predicate} (left : p.sameClause q)
    (right : q.sameClause r) : p.sameClause r := by
  simp_all [Predicate.sameClause, sameName]

def Predicate.ofTokens? : List Token → Option Predicate
  | ⟨.name relation, first⟩ :: ⟨.dot, _⟩ :: ⟨.name field, _⟩ :: ⟨sign, _⟩ ::
      ⟨.literal value quote, last⟩ :: _ =>
    (Operator.ofLexeme? sign).map fun operator =>
      { relation, field, operator, value, quote, span := ⟨first.start, last.stop⟩ }
  | _ => none

-- A name after a dot continues a longer path, so it starts no predicate.
def detectAfter (afterDot : Bool) : List Token → List Predicate
  | [] => []
  | token :: rest =>
    match if afterDot then none else Predicate.ofTokens? (token :: rest) with
    | some predicate => predicate :: detectAfter false (rest.drop 4)
    | none => detectAfter (token.lexeme = .dot) rest
termination_by tokens => tokens.length

def detect (tokens : List Token) : List Predicate :=
  detectAfter false tokens

def detectIn (filter : Text) : Except ScanError (List Predicate) :=
  (tokenize filter).map detect

end Prejoin
