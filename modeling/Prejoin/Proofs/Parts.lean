import Prejoin.Filter.Predicate
import Prejoin.Proofs.Pieces

set_option autoImplicit false

namespace Prejoin

def lexemes (pieces : List Piece) : List Lexeme :=
  pieces.filterMap Piece.lexeme

@[simp] theorem lexemes_nil : lexemes [] = [] := rfl

@[simp] theorem lexemes_append (ps qs : List Piece) :
    lexemes (ps ++ qs) = lexemes ps ++ lexemes qs := by
  simp [lexemes]

theorem lexemes_cons_blank {piece : Piece} (blank : piece.lexeme = none) (rest : List Piece) :
    lexemes (piece :: rest) = lexemes rest := by
  simp [lexemes, blank]

theorem lexemes_cons {piece : Piece} {lexeme : Lexeme} (found : piece.lexeme = some lexeme)
    (rest : List Piece) : lexemes (piece :: rest) = lexeme :: lexemes rest := by
  simp [lexemes, found]

theorem place_cons_blank {piece : Piece} (blank : piece.lexeme = none) (offset : Nat)
    (rest : List Piece) :
    place offset (piece :: rest) = place (offset + byteLength piece.source) rest := by
  simp [place, blank]

theorem place_cons {piece : Piece} {lexeme : Lexeme} (found : piece.lexeme = some lexeme)
    (offset : Nat) (rest : List Piece) :
    place offset (piece :: rest) =
      ⟨lexeme, ⟨offset, offset + byteLength piece.source⟩⟩ ::
        place (offset + byteLength piece.source) rest := by
  simp [place, found]

theorem place_append (offset : Nat) (ps qs : List Piece) :
    place offset (ps ++ qs) = place offset ps ++ place (offset + byteLength (joined ps)) qs := by
  induction ps generalizing offset with
  | nil => simp [place]
  | cons p rest ih =>
    cases found : p.lexeme with
    | none => simp [place_cons_blank found, ih, Nat.add_assoc]
    | some lexeme => simp [place_cons found, ih, Nat.add_assoc]

theorem map_lexeme_place (offset : Nat) (pieces : List Piece) :
    (place offset pieces).map Token.lexeme = lexemes pieces := by
  induction pieces generalizing offset with
  | nil => rfl
  | cons p rest ih =>
    cases found : p.lexeme with
    | none => rw [place_cons_blank found, lexemes_cons_blank found, ih]
    | some lexeme => rw [place_cons found, lexemes_cons found, List.map_cons, ih]

def opensClause : List Lexeme → Bool
  | .name _ :: .dot :: .name _ :: sign :: .literal _ _ :: _ => (Operator.ofLexeme? sign).isSome
  | _ => false

theorem opensClause_iff {found : List Lexeme} :
    opensClause found ↔ ∃ relation field sign operator value quote more,
      found = .name relation :: .dot :: .name field :: sign :: .literal value quote :: more ∧
        Operator.ofLexeme? sign = some operator := by
  constructor
  · intro opens
    unfold opensClause at opens
    split at opens
    next relation field sign value quote more =>
      obtain ⟨operator, signs⟩ := Option.isSome_iff_exists.1 opens
      exact ⟨relation, field, sign, operator, value, quote, more, rfl, signs⟩
    next => simp at opens
  · rintro ⟨relation, field, sign, operator, value, quote, more, rfl, signs⟩
    simp [opensClause, signs]

theorem isSome_ofTokens? (tokens : List Token) :
    (Predicate.ofTokens? tokens).isSome = opensClause (tokens.map Token.lexeme) := by
  unfold Predicate.ofTokens?
  split
  next => simp [opensClause]
  next other =>
    symm
    rw [Option.isSome_none, ← Bool.not_eq_true, opensClause_iff]
    rintro ⟨relation, field, sign, operator, value, quote, more, same, -⟩
    simp only [List.map_eq_cons_iff] at same
    obtain ⟨⟨_, _⟩, _, rfl, rfl, ⟨_, _⟩, _, rfl, rfl, ⟨_, _⟩, _, rfl, rfl, ⟨_, _⟩, _, rfl, rfl,
      ⟨_, _⟩, _, rfl, rfl, rfl⟩ := same
    exact other _ _ _ _ _ _ _ _ _ _ _ rfl

/-- The tokens of the predicate from the offset on, with blanks only between them. -/
inductive Predicate.SpelledBy (p : Predicate) (offset : Nat) : List Piece → Prop
  | intro {first last : Piece} {middle : List Piece} {sign : Lexeme}
      (relation : first.lexeme = some (.name p.relation))
      (comparison : lexemes middle = [.dot, .name p.field, sign])
      (operator : Operator.ofLexeme? sign = some p.operator)
      (value : last.lexeme = some (.literal p.value p.quote))
      (span : p.span = ⟨offset, offset + byteLength (joined (first :: (middle ++ [last])))⟩) :
      Predicate.SpelledBy p offset (first :: (middle ++ [last]))

inductive Part where
  | loose (piece : Piece)
  | clause (predicate : Predicate) (pieces : List Piece)

def Part.pieces : Part → List Piece
  | .loose piece => [piece]
  | .clause _ pieces => pieces

def Part.predicate? : Part → Option Predicate
  | .loose _ => none
  | .clause predicate _ => some predicate

def piecesOf (parts : List Part) : List Piece :=
  parts.flatMap Part.pieces

def predicatesOf (parts : List Part) : List Predicate :=
  parts.filterMap Part.predicate?

@[simp] theorem piecesOf_nil : piecesOf [] = [] := rfl

@[simp] theorem piecesOf_loose (piece : Piece) (rest : List Part) :
    piecesOf (.loose piece :: rest) = piece :: piecesOf rest := rfl

@[simp] theorem piecesOf_clause (p : Predicate) (pieces : List Piece) (rest : List Part) :
    piecesOf (.clause p pieces :: rest) = pieces ++ piecesOf rest := rfl

@[simp] theorem piecesOf_append (parts others : List Part) :
    piecesOf (parts ++ others) = piecesOf parts ++ piecesOf others := by
  simp [piecesOf]

@[simp] theorem predicatesOf_nil : predicatesOf [] = [] := rfl

@[simp] theorem predicatesOf_loose (piece : Piece) (rest : List Part) :
    predicatesOf (.loose piece :: rest) = predicatesOf rest := rfl

@[simp] theorem predicatesOf_clause (p : Predicate) (pieces : List Piece) (rest : List Part) :
    predicatesOf (.clause p pieces :: rest) = p :: predicatesOf rest := rfl

/-- A token that stands by itself starts no predicate, and no predicate stands behind a dot. -/
inductive Arranged : Bool → Nat → List Part → Prop
  | nil {afterDot : Bool} {offset : Nat} : Arranged afterDot offset []
  | blank {afterDot : Bool} {offset : Nat} {piece : Piece} {rest : List Part}
      (blank : piece.lexeme = none)
      (tail : Arranged afterDot (offset + byteLength piece.source) rest) :
      Arranged afterDot offset (.loose piece :: rest)
  | token {afterDot : Bool} {offset : Nat} {piece : Piece} {lexeme : Lexeme} {rest : List Part}
      (found : piece.lexeme = some lexeme)
      (alone : afterDot = false → opensClause (lexeme :: lexemes (piecesOf rest)) = false)
      (tail : Arranged (lexeme = .dot) (offset + byteLength piece.source) rest) :
      Arranged afterDot offset (.loose piece :: rest)
  | clause {offset : Nat} {p : Predicate} {pieces : List Piece} {rest : List Part}
      (spelled : p.SpelledBy offset pieces)
      (tail : Arranged false (offset + byteLength (joined pieces)) rest) :
      Arranged false offset (.clause p pieces :: rest)

theorem Predicate.SpelledBy.lexemes_eq {p : Predicate} {offset : Nat} {pieces : List Piece}
    (spelled : p.SpelledBy offset pieces) :
    ∃ sign, lexemes pieces =
        [.name p.relation, .dot, .name p.field, sign, .literal p.value p.quote] ∧
      Operator.ofLexeme? sign = some p.operator := by
  obtain @⟨first, last, middle, sign, relation, comparison, operator, value, -⟩ := spelled
  refine ⟨sign, ?_, operator⟩
  rw [lexemes_cons relation, lexemes_append, comparison, lexemes_cons value]
  rfl

theorem exists_spelled (offset : Nat) {piece : Piece} {lexeme : Lexeme} {rest : List Piece}
    (found : piece.lexeme = some lexeme) (opens : opensClause (lexeme :: lexemes rest)) :
    ∃ (p : Predicate) (pieces after : List Piece), piece :: rest = pieces ++ after ∧
      p.SpelledBy offset pieces ∧ after.length < rest.length := by
  obtain ⟨relation, field, sign, operator, value, quote, more, same, signs⟩ :=
    opensClause_iff.1 opens
  obtain ⟨rfl, tail⟩ := List.cons.inj same
  have split : lexemes rest = [.dot, .name field, sign] ++ .literal value quote :: more := tail
  obtain ⟨middle, others, rfl, comparison, ends⟩ := List.filterMap_eq_append_iff.1 split
  obtain ⟨gap, last, after, rfl, blanks, literal, -⟩ := List.filterMap_eq_cons_iff.1 ends
  -- The blanks before the literal go with what stands between.
  have empty : lexemes gap = [] := List.filterMap_eq_nil_iff.2 blanks
  have between : lexemes (middle ++ gap) = [.dot, .name field, sign] := by
    rw [lexemes_append, empty, List.append_nil]
    exact comparison
  let pieces := piece :: (middle ++ gap ++ [last])
  let p : Predicate :=
    ⟨relation, field, operator, value, quote, ⟨offset, offset + byteLength (joined pieces)⟩⟩
  have spelled : p.SpelledBy offset pieces := .intro found between signs literal rfl
  refine ⟨p, pieces, after, by simp [pieces], spelled, ?_⟩
  simp only [List.length_append, List.length_cons]
  omega

theorem exists_arranged (afterDot : Bool) (offset : Nat) (pieces : List Piece) :
    ∃ parts, piecesOf parts = pieces ∧ Arranged afterDot offset parts := by
  -- On the number of pieces, since a predicate takes several at once.
  induction count : pieces.length using Nat.strong_induction_on
    generalizing afterDot offset pieces with
  | _ size ih =>
    cases pieces with
    | nil => exact ⟨[], rfl, .nil⟩
    | cons piece rest =>
      have shorter : rest.length < size := by simp [← count]
      have single (next : Bool) (offset : Nat) :
          ∃ parts, piecesOf parts = rest ∧ Arranged next offset parts :=
        ih _ shorter next offset rest rfl
      cases found : piece.lexeme with
      | none =>
        obtain ⟨parts, rfl, arranged⟩ := single afterDot (offset + byteLength piece.source)
        exact ⟨.loose piece :: parts, rfl, .blank found arranged⟩
      | some lexeme =>
        by_cases opens : afterDot = false ∧ opensClause (lexeme :: lexemes rest)
        · obtain ⟨rfl, opens⟩ := opens
          obtain ⟨p, inside, after, split, spelled, less⟩ := exists_spelled offset found opens
          obtain ⟨parts, rfl, arranged⟩ := ih _ (Nat.lt_trans less shorter) false
            (offset + byteLength (joined inside)) after rfl
          exact ⟨.clause p inside :: parts, by simp [split], .clause spelled arranged⟩
        · obtain ⟨parts, rfl, arranged⟩ :=
            single (lexeme = .dot) (offset + byteLength piece.source)
          exact ⟨.loose piece :: parts, rfl, .token found (by simpa using opens) arranged⟩

theorem place_spelled {p : Predicate} {offset : Nat} {pieces : List Piece}
    (spelled : p.SpelledBy offset pieces) :
    ∃ first second third sign last, place offset pieces =
        [⟨.name p.relation, ⟨p.span.start, first⟩⟩, ⟨.dot, second⟩, ⟨.name p.field, third⟩, sign,
          ⟨.literal p.value p.quote, ⟨last, p.span.stop⟩⟩] ∧
      Operator.ofLexeme? sign.lexeme = some p.operator := by
  obtain @⟨first, last, middle, sign, relation, comparison, operator, value, span⟩ := spelled
  rw [place_cons relation, place_append, place_cons value]
  have between := map_lexeme_place (offset + byteLength first.source) middle
  rw [comparison] at between
  obtain ⟨⟨_, second⟩, _, split, rfl, afterDot⟩ := List.map_eq_cons_iff.1 between
  obtain ⟨⟨_, third⟩, _, rfl, rfl, afterField⟩ := List.map_eq_cons_iff.1 afterDot
  obtain ⟨sign, _, rfl, rfl, afterSign⟩ := List.map_eq_cons_iff.1 afterField
  obtain rfl := List.map_eq_nil_iff.1 afterSign
  refine ⟨offset + byteLength first.source, second, third, sign,
    offset + byteLength first.source + byteLength (joined middle), ?_, operator⟩
  rw [split, span]
  simp [place, Nat.add_assoc]

theorem detectAfter_spelled {p : Predicate} {offset : Nat} {pieces : List Piece}
    (spelled : p.SpelledBy offset pieces) (rest : List Piece) :
    detectAfter false (place offset (pieces ++ rest)) =
      p :: detectAfter false (place (offset + byteLength (joined pieces)) rest) := by
  obtain ⟨_, _, _, sign, _, placed, operator⟩ := place_spelled spelled
  obtain ⟨sign, _⟩ := sign
  rw [place_append, placed]
  simp only [List.cons_append, List.nil_append]
  rw [detectAfter]
  simp [Predicate.ofTokens?, operator]

theorem detectAfter_arranged {afterDot : Bool} {offset : Nat} {parts : List Part}
    (arranged : Arranged afterDot offset parts) :
    detectAfter afterDot (place offset (piecesOf parts)) = predicatesOf parts := by
  induction arranged with
  | nil => simp [place, detectAfter]
  | blank blank tail ih => rw [piecesOf_loose, place_cons_blank blank, ih, predicatesOf_loose]
  | @token afterDot offset piece lexeme rest found alone tail ih =>
    have none : (if afterDot then none
        else Predicate.ofTokens? (place offset (piece :: piecesOf rest))) = none := by
      cases afterDot with
      | true => rfl
      | false =>
        have closed := alone rfl
        rw [← lexemes_cons found, ← map_lexeme_place offset, ← isSome_ofTokens?] at closed
        simpa using closed
    rw [piecesOf_loose, place_cons found, detectAfter, ← place_cons found, none, predicatesOf_loose]
    exact ih
  | clause spelled tail ih =>
    rw [piecesOf_clause, detectAfter_spelled spelled _, ih, predicatesOf_clause]

structure IsLayout (reading : Reading) (filter : Text) (parts : List Part) : Prop where
  source : joined (piecesOf parts) = filter
  scanned : Scanned reading (piecesOf parts) []
  arranged : Arranged false 0 parts

theorem tokenizeAs_eq_ok_iff {reading : Reading} {filter : Text} {tokens : List Token} :
    tokenizeAs reading filter = .ok tokens ↔
      ∃ pieces, joined pieces = filter ∧ Scanned reading pieces [] ∧ place 0 pieces = tokens := by
  constructor
  · intro read
    unfold tokenizeAs at read
    split at read
    next pieces found =>
      obtain ⟨source, scanned⟩ := scan_eq_iff.1 found
      exact ⟨pieces, source, scanned, Except.ok.inj read⟩
    next => simp at read
  · rintro ⟨pieces, source, scanned, rfl⟩
    simp [tokenizeAs, scan_eq_iff.2 ⟨source, scanned⟩]

theorem exists_layout {reading : Reading} {filter : Text} {tokens : List Token}
    (read : tokenizeAs reading filter = .ok tokens) :
    ∃ parts, IsLayout reading filter parts ∧ place 0 (piecesOf parts) = tokens := by
  obtain ⟨pieces, source, scanned, placed⟩ := tokenizeAs_eq_ok_iff.1 read
  obtain ⟨parts, rfl, arranged⟩ := exists_arranged false 0 pieces
  exact ⟨parts, ⟨source, scanned, arranged⟩, placed⟩

theorem IsLayout.detect {reading : Reading} {filter : Text} {parts : List Part}
    (layout : IsLayout reading filter parts) :
    detect (place 0 (piecesOf parts)) = predicatesOf parts :=
  detectAfter_arranged layout.arranged

theorem tokenize_eq_ok_iff {filter : Text} {tokens : List Token} :
    tokenize filter = .ok tokens ↔ tokenizeAs .escaped filter = .ok tokens ∨
      (∃ error, tokenizeAs .escaped filter = .error error) ∧
        tokenizeAs .plain filter = .ok tokens := by
  unfold tokenize
  cases tokenizeAs .escaped filter with
  | ok escaped => simp
  | error error => cases tokenizeAs .plain filter <;> simp

theorem detectIn_of_tokenize {filter : Text} {tokens : List Token}
    (read : tokenize filter = .ok tokens) : detectIn filter = .ok (detect tokens) := by
  rw [detectIn, read]
  rfl

theorem detectIn_of_error {filter : Text} {error : ScanError}
    (read : tokenize filter = .error error) : detectIn filter = .error error := by
  rw [detectIn, read]
  rfl

theorem exists_layout_of_detectIn {filter : Text} {predicates : List Predicate}
    (found : detectIn filter = .ok predicates) :
    ∃ reading parts, IsLayout reading filter parts ∧ predicatesOf parts = predicates := by
  obtain ⟨tokens, read, rfl⟩ :
      ∃ tokens, tokenize filter = .ok tokens ∧ detect tokens = predicates := by
    unfold detectIn at found
    cases read : tokenize filter with
    | error => simp [read, Except.map] at found
    | ok tokens => exact ⟨tokens, rfl, by simpa [read, Except.map] using found⟩
  obtain ⟨reading, read⟩ : ∃ reading, tokenizeAs reading filter = .ok tokens := by
    rcases tokenize_eq_ok_iff.1 read with escaped | ⟨-, plain⟩
    · exact ⟨.escaped, escaped⟩
    · exact ⟨.plain, plain⟩
  obtain ⟨parts, layout, rfl⟩ := exists_layout read
  exact ⟨reading, parts, layout, layout.detect.symm⟩

end Prejoin
