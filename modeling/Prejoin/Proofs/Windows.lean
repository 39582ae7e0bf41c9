import Prejoin.Proofs.Boundaries

set_option autoImplicit false

namespace Prejoin

structure Content where
  relation : Text
  field : Text
  operator : Operator
  value : Text
  quote : Quote
deriving DecidableEq, Repr

def Predicate.content (p : Predicate) : Content :=
  ⟨p.relation, p.field, p.operator, p.value, p.quote⟩

def Content.ofLexemes? : List Lexeme → Option Content
  | .name relation :: .dot :: .name field :: sign :: .literal value quote :: _ =>
    (Operator.ofLexeme? sign).map fun operator => ⟨relation, field, operator, value, quote⟩
  | _ => none

def contentsAfter (afterDot : Bool) : List Lexeme → List Content
  | [] => []
  | lexeme :: rest =>
    match if afterDot then none else Content.ofLexemes? (lexeme :: rest) with
    | some content => content :: contentsAfter false (rest.drop 4)
    | none => contentsAfter (lexeme = .dot) rest
termination_by lexemes => lexemes.length

theorem content_ofTokens? (tokens : List Token) :
    (Predicate.ofTokens? tokens).map Predicate.content =
      Content.ofLexemes? (tokens.map Token.lexeme) := by
  unfold Predicate.ofTokens?
  split
  next => simp [Content.ofLexemes?, Function.comp_def, Predicate.content]
  next other =>
    rw [Option.map_none]
    symm
    unfold Content.ofLexemes?
    split
    next same =>
      simp only [List.map_eq_cons_iff] at same
      obtain ⟨⟨_, _⟩, _, rfl, rfl, ⟨_, _⟩, _, rfl, rfl, ⟨_, _⟩, _, rfl, rfl, ⟨_, _⟩, _, rfl, rfl,
        ⟨_, _⟩, _, rfl, rfl, rfl⟩ := same
      exact absurd rfl (other _ _ _ _ _ _ _ _ _ _ _)
    next => rfl

theorem contents_detectAfter (afterDot : Bool) (tokens : List Token) :
    (detectAfter afterDot tokens).map Predicate.content =
      contentsAfter afterDot (tokens.map Token.lexeme) := by
  fun_induction detectAfter afterDot tokens with
  | case1 => simp [contentsAfter]
  | case2 afterDot token rest p found ih =>
    cases afterDot with
    | true => simp at found
    | false =>
      have content := content_ofTokens? (token :: rest)
      have found : Predicate.ofTokens? (token :: rest) = some p := by simpa using found
      rw [found, List.map_cons] at content
      rw [List.map_cons, List.map_cons, contentsAfter, if_neg (by simp), ← content, ih,
        List.map_drop]
      rfl
  | case3 afterDot token rest missing ih =>
    have content := content_ofTokens? (token :: rest)
    rw [List.map_cons, contentsAfter]
    cases afterDot with
    | true => simpa using ih
    | false =>
      have missing : Predicate.ofTokens? (token :: rest) = none := by simpa using missing
      rw [missing, List.map_cons] at content
      rw [if_neg (by simp), ← content]
      exact ih

theorem isSome_ofLexemes? (found : List Lexeme) :
    (Content.ofLexemes? found).isSome = opensClause found := by
  unfold Content.ofLexemes? opensClause
  split <;> simp

theorem contentsAfter_cons {afterDot : Bool} {lexeme : Lexeme} {rest : List Lexeme}
    (alone : afterDot = false → opensClause (lexeme :: rest) = false) :
    contentsAfter afterDot (lexeme :: rest) = contentsAfter (lexeme = .dot) rest := by
  rw [contentsAfter]
  cases afterDot with
  | true => rfl
  | false =>
    have closed := alone rfl
    rw [← isSome_ofLexemes?] at closed
    have none : Content.ofLexemes? (lexeme :: rest) = none := by simpa using closed
    simp [none]

theorem contentsAfter_spelled {p : Predicate} {offset : Nat} {pieces : List Piece}
    (spelled : p.SpelledBy offset pieces) (rest : List Lexeme) :
    contentsAfter false (lexemes pieces ++ rest) = p.content :: contentsAfter false rest := by
  obtain ⟨sign, tokens, operator⟩ := spelled.lexemes_eq
  rw [tokens]
  simp only [List.cons_append, List.nil_append]
  rw [contentsAfter]
  simp [Content.ofLexemes?, operator, Predicate.content]

def Lexeme.isName : Lexeme → Bool
  | .name _ => true
  | _ => false

def Lexeme.isLiteral : Lexeme → Bool
  | .literal _ _ => true
  | _ => false

def Inert (found : List Lexeme) : Prop :=
  .dot ∉ found ∧ ∃ first last, found = first ++ [last] ∧ last.isName = false

theorem Inert.contentsAfter_append {found : List Lexeme} (inert : Inert found) (afterDot : Bool)
    (rest : List Lexeme) :
    contentsAfter afterDot (found ++ rest) = contentsAfter false rest := by
  obtain ⟨undotted, first, last, rfl, unnamed⟩ := inert
  -- Each lexeme before the last has one behind it that is no dot.
  induction first generalizing afterDot with
  | nil =>
    have other : last ≠ .dot := fun same => undotted (by simp [same])
    have alone : opensClause (last :: rest) = false := by
      unfold opensClause
      split
      next same =>
        obtain ⟨rfl, -⟩ := List.cons.inj same
        simp [Lexeme.isName] at unnamed
      next => rfl
    rw [List.nil_append, List.singleton_append, contentsAfter_cons fun _ => alone]
    simp [other]
  | cons lexeme more ih =>
    simp only [List.cons_append, List.mem_cons, not_or] at undotted
    have alone : opensClause (lexeme :: (more ++ [last] ++ rest)) = false := by
      unfold opensClause
      split
      next same =>
        have dotted : Lexeme.dot ∈ more ++ [last] := by
          cases more <;> simp_all
        exact absurd dotted undotted.2
      next => rfl
    rw [List.cons_append, List.cons_append, contentsAfter_cons fun _ => alone]
    exact ih _ undotted.2

def Blunt : List Lexeme → Prop
  | first :: second :: _ =>
    first ≠ .dot ∧ first.isLiteral = false ∧ second.isLiteral = false
  | _ => False

-- The rows are the same up to where the second goes on bluntly, and not with a name behind a dot.
inductive Agrees : Bool → List Lexeme → List Lexeme → Prop
  | nil {afterDot : Bool} : Agrees afterDot [] []
  | same {afterDot : Bool} {lexeme : Lexeme} {old new : List Lexeme}
      (tail : Agrees (lexeme = .dot) old new) : Agrees afterDot (lexeme :: old) (lexeme :: new)
  | blunt {afterDot : Bool} {old new : List Lexeme} (blunt : Blunt new)
      (unnamed : afterDot → ∀ lexeme ∈ new.head?, lexeme.isName = false) : Agrees afterDot old new

theorem Agrees.append_same {found old new : List Lexeme} (undotted : ∀ l ∈ found.getLast?, l ≠ .dot)
    (solid : found ≠ []) {afterDot : Bool} (tail : Agrees false old new) :
    Agrees afterDot (found ++ old) (found ++ new) := by
  induction found generalizing afterDot with
  | nil => exact absurd rfl solid
  | cons lexeme rest ih =>
    apply Agrees.same
    cases rest with
    | nil =>
      have other : lexeme ≠ .dot := undotted lexeme rfl
      simpa [other] using tail
    | cons next more => exact ih (by simpa using undotted) (List.cons_ne_nil _ _)

theorem Agrees.opensClause {lexeme : Lexeme} {old new : List Lexeme}
    (agrees : Agrees (lexeme = .dot) old new) (opens : opensClause (lexeme :: new)) :
    opensClause (lexeme :: old) := by
  obtain ⟨relation, field, sign, operator, value, quote, more, same, signs⟩ :=
    opensClause_iff.1 opens
  obtain ⟨rfl, rfl⟩ := List.cons.inj same
  -- Wherever the rows may part, what the second goes on with ends no predicate.
  cases agrees with
  | blunt blunt => exact absurd rfl blunt.1
  | same agrees =>
    cases agrees with
    | blunt blunt unnamed =>
      have other := unnamed rfl _ rfl
      simp [Lexeme.isName] at other
    | same agrees =>
      cases agrees with
      | blunt blunt => simp [Blunt, Lexeme.isLiteral] at blunt
      | same agrees =>
        cases agrees with
        | blunt blunt =>
          cases more <;> simp [Blunt, Lexeme.isLiteral] at blunt
        | same agrees => exact opens

end Prejoin
