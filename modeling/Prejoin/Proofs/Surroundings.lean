import Prejoin.Proofs.Clauses

set_option autoImplicit false

namespace Prejoin

def Span.shift (bytes : Nat) (span : Span) : Span :=
  ⟨span.start + bytes, span.stop + bytes⟩

def Token.shift (bytes : Nat) (token : Token) : Token :=
  { token with span := token.span.shift bytes }

theorem place_shift (bytes offset : Nat) (pieces : List Piece) :
    place (offset + bytes) pieces = (place offset pieces).map (Token.shift bytes) := by
  induction pieces generalizing offset with
  | nil => rfl
  | cons piece rest ih =>
    have next : offset + bytes + byteLength piece.source =
        offset + byteLength piece.source + bytes := by omega
    cases found : piece.lexeme with
    | none => rw [place_cons_blank found, place_cons_blank found, next, ih]
    | some lexeme =>
      rw [place_cons found, place_cons found, next, ih]
      rfl

theorem absorbs_mark (piece : Piece) (quote : Quote) : piece.absorbs quote.mark = false := by
  have ends (lexeme : Lexeme) : lexeme.absorbs quote.mark = false := by
    have name : continuesName quote.mark = false := by cases quote <;> decide
    have number : continuesNumber quote.mark = false := by cases quote <;> decide
    have other : quote.mark ≠ '=' := by cases quote <;> decide
    cases lexeme with
    | name => exact name
    | number => exact number
    | comparison sign => cases sign <;> simp [Lexeme.absorbs, other]
    | other c => simp [Lexeme.absorbs, other]
    | _ => rfl
  cases found : piece.lexeme with
  | none => simp [Piece.absorbs, found]
  | some lexeme => simp [Piece.absorbs, found, ends]

theorem Scanned.before_mark {reading : Reading} {pieces : List Piece}
    (scanned : Scanned reading pieces []) (quote : Quote) (after : Text) :
    Scanned reading pieces (quote.mark :: after) := by
  induction pieces with
  | nil => trivial
  | cons piece rest ih =>
    obtain ⟨reads, ends, later⟩ := scanned
    refine ⟨reads, ?_, ih later⟩
    intro c first
    rw [List.head?_append] at first
    cases start : (joined rest).head? with
    | none =>
      obtain rfl : quote.mark = c := by simpa [start] using first
      exact absorbs_mark piece quote
    | some d =>
      obtain rfl : d = c := by simpa [start] using first
      exact ends d (by simp [start])

theorem tokenize_around_literal {before after : Text} {left right : List Token} (value : Text)
    (first : tokenizeAs .escaped before = .ok left)
    (second : tokenizeAs .escaped after = .ok right) :
    let stop := byteLength (before ++ quoteLiteral value)
    tokenize (before ++ quoteLiteral value ++ after) =
      .ok (left ++ ⟨.literal value .double, ⟨byteLength before, stop⟩⟩ ::
        right.map (Token.shift stop)) := by
  intro stop
  obtain ⟨ps, rfl, leading, rfl⟩ := tokenizeAs_eq_ok_iff.1 first
  obtain ⟨qs, rfl, following, rfl⟩ := tokenizeAs_eq_ok_iff.1 second
  have source : joined (ps ++ keyPiece value :: qs) =
      joined ps ++ quoteLiteral value ++ joined qs := by
    simp [keyPiece]
  have literal : Scanned .escaped (keyPiece value :: qs) [] :=
    ⟨reads_keyPiece_escaped value, by simp [Piece.EndsBefore, keyPiece, Piece.absorbs,
      Lexeme.absorbs], following⟩
  have opens : joined (keyPiece value :: qs) ++ [] =
      Quote.double.mark :: (escape value ++ '"' :: joined qs) := by
    simp [keyPiece, quoteLiteral, Quote.mark]
  have scanned : Scanned .escaped (ps ++ keyPiece value :: qs) [] :=
    scanned_append.2 ⟨opens ▸ leading.before_mark .double _, literal⟩
  have placed : place 0 (ps ++ keyPiece value :: qs) =
      place 0 ps ++ ⟨.literal value .double, ⟨byteLength (joined ps), stop⟩⟩ ::
        (place 0 qs).map (Token.shift stop) := by
    have found : (keyPiece value).lexeme = some (.literal value .double) := rfl
    have length : 0 + byteLength (joined ps) + byteLength (keyPiece value).source = stop := by
      simp [stop, keyPiece]
    rw [place_append, place_cons found, length, ← place_shift stop 0 qs, Nat.zero_add, Nat.zero_add]
  rw [← placed]
  exact tokenize_eq_ok_iff.2 (.inl (tokenizeAs_eq_ok_iff.2 ⟨_, source, scanned, rfl⟩))

def sizePieces : List Piece :=
  [⟨"né".toList, some (.name "né".toList)⟩, ⟨['<'], some (.comparison .less)⟩]

def numberPieces : List Piece :=
  [⟨['='], some (.comparison .equal)⟩, ⟨"1.5".toList, some (.number "1.5".toList)⟩]

theorem tokenizeAs_size : tokenizeAs .escaped "né<".toList = .ok (place 0 sizePieces) := by
  refine tokenizeAs_eq_ok_iff.2 ⟨sizePieces, rfl, ⟨.name (by decide), ?_, ?_, ?_, trivial⟩, rfl⟩
  · exact fun c first => by obtain rfl : '<' = c := Option.some.inj first; decide
  · exact .mark (by decide) (by decide) (by decide) (by decide)
  · exact fun c first => nomatch first

theorem tokenizeAs_number : tokenizeAs .escaped "=1.5".toList = .ok (place 0 numberPieces) := by
  refine tokenizeAs_eq_ok_iff.2 ⟨numberPieces, rfl, ⟨reads_equal, ?_, ?_, ?_, trivial⟩, rfl⟩
  · exact fun c first => by obtain rfl : '1' = c := Option.some.inj first; decide
  · exact .number (by decide) (List.all_eq_true.1 (by decide))
  · exact fun c first => nomatch first

theorem tokenize_around_literal_size :
    tokenizeAs .escaped "né<".toList = .ok (place 0 sizePieces) ∧
      tokenizeAs .escaped "=1.5".toList = .ok (place 0 numberPieces) ∧
      tokenize "né<\"6\\\" é\\\\\"=1.5".toList =
        .ok [⟨.name "né".toList, ⟨0, 3⟩⟩, ⟨.comparison .less, ⟨3, 4⟩⟩,
          ⟨.literal "6\" é\\".toList .double, ⟨4, 14⟩⟩, ⟨.comparison .equal, ⟨14, 15⟩⟩,
          ⟨.number "1.5".toList, ⟨15, 18⟩⟩] :=
  ⟨tokenizeAs_size, tokenizeAs_number,
    tokenize_around_literal "6\" é\\".toList tokenizeAs_size tokenizeAs_number⟩

end Prejoin
