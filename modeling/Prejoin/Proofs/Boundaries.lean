import Prejoin.Proofs.Resolved

set_option autoImplicit false

namespace Prejoin

def Lexeme.isNumber : Lexeme → Bool
  | .number _ => true
  | _ => false

def spliceLexemes (replace : Predicate → Option (List Lexeme)) :
    List Predicate → List Token → List Lexeme
  | [], tokens => tokens.map Token.lexeme
  | p :: later, tokens =>
    let before := tokens.takeWhile fun token => token.span.start < p.span.start
    let behind := tokens.dropWhile fun token => token.span.start < p.span.start
    before.map Token.lexeme ++ (replace p).getD ((behind.take 5).map Token.lexeme) ++
      spliceLexemes replace later (behind.drop 5)

def Resolution.lexemes (resolution : Resolution) : List Lexeme :=
  clauseLexemes resolution.field resolution.keys

def resolvedLexemes (find : Predicate → Option Resolution) (predicates : List Predicate)
    (tokens : List Token) : List Lexeme :=
  spliceLexemes (fun p => (find p).map Resolution.lexemes) predicates tokens

def FusesAt (find : Predicate → Option Resolution) (predicates : List Predicate) (offset : Nat) :
    Prop :=
  ∃ p ∈ predicates, p.span.start = offset ∧
    ∃ resolution, find p = some resolution ∧ ∃ c ∈ resolution.text.head?, continuesNumber c

def Fused (find : Predicate → Option Resolution) (predicates : List Predicate)
    (tokens : List Token) : Prop :=
  ∃ token ∈ tokens, token.lexeme.isNumber ∧ FusesAt find predicates token.span.stop

theorem le_start_of_mem_place {offset : Nat} {pieces : List Piece} {token : Token}
    (member : token ∈ place offset pieces) :
    offset ≤ token.span.start ∧ token.span.start ≤ token.span.stop := by
  induction pieces generalizing offset with
  | nil => simp [place] at member
  | cons piece rest ih =>
    cases found : piece.lexeme with
    | none =>
      rw [place_cons_blank found] at member
      have later := ih member
      omega
    | some lexeme =>
      rw [place_cons found, List.mem_cons] at member
      rcases member with rfl | member
      · exact ⟨Nat.le_refl _, Nat.le_add_right _ _⟩
      · have later := ih member
        omega

theorem spliceLexemes_cons {replace : Predicate → Option (List Lexeme)}
    {predicates : List Predicate} {token : Token}
    (early : ∀ p ∈ predicates, token.span.start < p.span.start) (tokens : List Token) :
    spliceLexemes replace predicates (token :: tokens) =
      token.lexeme :: spliceLexemes replace predicates tokens := by
  cases predicates with
  | nil => rfl
  | cons p later => simp [spliceLexemes, early p List.mem_cons_self]

theorem spliceLexemes_spelled (replace : Predicate → Option (List Lexeme)) {p : Predicate}
    {offset : Nat} {pieces : List Piece} (spelled : p.SpelledBy offset pieces)
    (predicates : List Predicate) (tokens : List Token) :
    spliceLexemes replace (p :: predicates) (place offset pieces ++ tokens) =
      (replace p).getD (lexemes pieces) ++ spliceLexemes replace predicates tokens := by
  have own := map_lexeme_place offset pieces
  obtain ⟨_, _, _, _, _, placed, -⟩ := place_spelled spelled
  rw [placed] at own ⊢
  rw [← own]
  simp [spliceLexemes]

theorem isNumber_of_mem_spelled {p : Predicate} {offset : Nat} {pieces : List Piece}
    (spelled : p.SpelledBy offset pieces) {token : Token} (member : token ∈ place offset pieces) :
    token.lexeme.isNumber = false := by
  have inside : token.lexeme ∈ lexemes pieces := by
    rw [← map_lexeme_place offset pieces]
    exact List.mem_map_of_mem member
  obtain ⟨sign, tokens, operator⟩ := spelled.lexemes_eq
  rw [tokens] at inside
  simp only [List.mem_cons, List.not_mem_nil, or_false] at inside
  rcases inside with same | same | same | same | same
  case inr.inr.inr.inl =>
    rw [same]
    unfold Operator.ofLexeme? at operator
    split at operator <;> simp_all [Lexeme.isNumber]
  all_goals rw [same]; rfl

def Part.spliced (replace : Predicate → Option (List Lexeme)) : Part → List Lexeme
  | .loose piece => lexemes [piece]
  | .clause p pieces => (replace p).getD (lexemes pieces)

theorem Arranged.spliceLexemes_eq {afterDot : Bool} {offset : Nat} {parts : List Part}
    {reading : Reading} (arranged : Arranged afterDot offset parts)
    (scanned : Scanned reading (piecesOf parts) []) (replace : Predicate → Option (List Lexeme)) :
    spliceLexemes replace (predicatesOf parts) (place offset (piecesOf parts)) =
      parts.flatMap (Part.spliced replace) := by
  induction arranged with
  | nil => rfl
  | blank blank tail ih =>
    rw [predicatesOf_loose, piecesOf_loose, place_cons_blank blank, ih scanned.2.2,
      List.flatMap_cons, Part.spliced, lexemes_cons_blank blank]
    rfl
  | @token afterDot offset piece lexeme rest found alone tail ih =>
    -- No piece is empty, so the predicates behind this one start later.
    have positive := scanned.1.byteLength_pos
    have early (p : Predicate) (member : p ∈ predicatesOf rest) : offset < p.span.start := by
      have later := tail.le_start member
      omega
    rw [predicatesOf_loose, piecesOf_loose, place_cons found, spliceLexemes_cons early,
      ih scanned.2.2, List.flatMap_cons, Part.spliced, lexemes_cons found]
    rfl
  | clause spelled tail ih =>
    rw [piecesOf_clause] at scanned
    rw [predicatesOf_clause, piecesOf_clause, place_append, spliceLexemes_spelled replace spelled,
      ih (scanned_append.1 scanned).2, List.flatMap_cons, Part.spliced]

theorem lexemes_resolvedPieces (find : Predicate → Option Resolution) (parts : List Part) :
    lexemes (resolvedPieces find parts) =
      parts.flatMap (Part.spliced fun p => (find p).map Resolution.lexemes) := by
  induction parts with
  | nil => rfl
  | cons part rest ih =>
    rw [resolvedPieces, List.flatMap_cons, lexemes_append, List.flatMap_cons]
    refine congrArg₂ _ ?_ ih
    cases part with
    | loose piece => rfl
    | clause p pieces =>
      cases found : find p with
      | none => simp [Part.resolved, Part.spliced, found]
      | some resolution =>
        simp [Part.resolved, Part.spliced, found, lexemes_clausePieces, Resolution.lexemes]

theorem IsLayout.lexemes_resolved {reading : Reading} {filter : Text} {parts : List Part}
    (layout : IsLayout reading filter parts) (find : Predicate → Option Resolution) :
    lexemes (resolvedPieces find parts) =
      resolvedLexemes find (predicatesOf parts) (place 0 (piecesOf parts)) := by
  rw [lexemes_resolvedPieces, resolvedLexemes, layout.arranged.spliceLexemes_eq layout.scanned]

theorem exists_startsName_of_spelled {p : Predicate} {offset : Nat} {pieces : List Piece}
    {reading : Reading} {after : Text} (spelled : p.SpelledBy offset pieces)
    (scanned : Scanned reading pieces after) :
    ∃ d rest, joined pieces = d :: rest ∧ startsName d := by
  obtain ⟨⟨source, _⟩, others, rfl, rfl⟩ := spelled.first_name
  obtain ⟨rfl, named⟩ := reads_name_iff.1 scanned.1
  obtain ⟨d, word, same, starts, -⟩ := isName_iff.1 named
  exact ⟨d, word ++ joined others, by simp [same], starts⟩

theorem exists_head_text {resolution : Resolution} (named : isName resolution.field) :
    ∃ c rest, resolution.text = c :: rest ∧ (startsName c ∨ c = '(') := by
  unfold Resolution.text replacementFor
  split
  · obtain ⟨c, word, same, starts, -⟩ := isName_iff.1 named
    exact ⟨c, word ++ '=' :: quoteLiteral unmatchedKey, by simp [noMatch, comparison, same],
      .inl starts⟩
  · exact ⟨'(', _, rfl, .inr rfl⟩

theorem absorbs_eq {lexeme : Lexeme} {c d : Char} (stops : lexeme.absorbs d = false)
    (named : startsName d) (opens : startsName c ∨ c = '(') :
    lexeme.absorbs c = (lexeme.isNumber && continuesNumber c) := by
  have unequal : c ≠ '=' := by
    rintro rfl
    exact absurd opens (by decide)
  cases lexeme with
  | name text => simp [Lexeme.absorbs, continuesName_of_startsName named] at stops
  | comparison sign => cases sign <;> simp [Lexeme.absorbs, Lexeme.isNumber, unequal]
  | _ => simp [Lexeme.absorbs, Lexeme.isNumber, unequal]

section

variable {find : Predicate → Option Resolution} {reading : Reading}

theorem not_fusesAt {predicates : List Predicate} {offset : Nat}
    (later : ∀ p ∈ predicates, offset < p.span.start) : ¬ FusesAt find predicates offset := by
  rintro ⟨p, member, same, -⟩
  have less := later p member
  omega

theorem fusesAt_iff {afterDot : Bool} {stop : Nat} {rest : List Part}
    (tail : Arranged afterDot stop rest) (scanned : Scanned reading (piecesOf rest) []) :
    FusesAt find (predicatesOf rest) stop ↔
      ∃ p pieces others resolution, rest = .clause p pieces :: others ∧
        find p = some resolution ∧ ∃ c ∈ resolution.text.head?, continuesNumber c := by
  cases tail with
  | nil => simp [FusesAt]
  | @blank _ _ next others _ tail | @token _ _ next _ others _ _ tail =>
    have positive := scanned.1.byteLength_pos
    have apart : ¬ FusesAt find (predicatesOf others) stop := not_fusesAt fun p member => by
      have later := tail.le_start member
      omega
    simp [apart]
  | @clause _ p pieces others spelled tail =>
    rw [piecesOf_clause] at scanned
    obtain ⟨d, word, first, -⟩ := exists_startsName_of_spelled spelled scanned.left
    have apart : ¬ FusesAt find (predicatesOf others) stop := not_fusesAt fun q member => by
      have later := tail.le_start member
      have positive := d.utf8Size_pos
      simp only [first, byteLength_cons] at later
      omega
    have start : p.span.start = stop := by rw [spelled.span_eq]
    unfold FusesAt at apart ⊢
    simp only [predicatesOf_clause, List.mem_cons, or_and_right, exists_or, exists_eq_left, apart,
      or_false, start, true_and]
    constructor
    · rintro ⟨resolution, found, continues⟩
      exact ⟨p, pieces, others, resolution, rfl, found, continues⟩
    · rintro ⟨_, _, _, resolution, same, found, continues⟩
      obtain ⟨same, -⟩ := List.cons.inj same
      obtain ⟨rfl, -⟩ := Part.clause.inj same
      exact ⟨resolution, found, continues⟩

theorem endsBefore_resolved_iff {piece : Piece} {lexeme : Lexeme} {afterDot : Bool} {stop : Nat}
    {rest : List Part} (found : piece.lexeme = some lexeme)
    (ends : piece.EndsBefore (joined (piecesOf rest))) (tail : Arranged afterDot stop rest)
    (scanned : Scanned reading (piecesOf rest) [])
    (named : ∀ p resolution, find p = some resolution → isName resolution.field) :
    piece.EndsBefore (joined (resolvedPieces find rest)) ↔
      ¬ (lexeme.isNumber ∧ FusesAt find (predicatesOf rest) stop) := by
  -- Only the first character behind the piece counts.
  have unchanged {s t u : Text} (solid : s ≠ []) (before : piece.EndsBefore (s ++ t)) :
      piece.EndsBefore (s ++ u) := by
    unfold Piece.EndsBefore at before ⊢
    rwa [List.head?_append_of_ne_nil _ solid] at before ⊢
  rw [fusesAt_iff tail scanned]
  cases tail with
  | nil => simp [Piece.EndsBefore]
  | @blank _ _ next others _ tail | @token _ _ next _ others _ _ tail =>
    have same : piece.EndsBefore (next.source ++ joined (resolvedPieces find others)) :=
      unchanged scanned.1.source_ne_nil ends
    simpa using same
  | @clause _ p pieces others spelled tail =>
    rw [piecesOf_clause] at ends scanned
    obtain ⟨d, word, first, starts⟩ := exists_startsName_of_spelled spelled scanned.left
    rw [joined_append, first] at ends
    cases resolved : find p with
    | none =>
      rw [resolvedPieces_kept resolved, joined_append, first]
      simpa [resolved] using unchanged (List.cons_ne_nil d word) ends
    | some resolution =>
      obtain ⟨c, text, head, opens⟩ := exists_head_text (named p resolution resolved)
      have stops : lexeme.absorbs d = false := by simpa [Piece.absorbs, found] using ends d rfl
      rw [resolvedPieces_replaced resolved, joined_append, joined_clausePieces]
      change piece.EndsBefore (resolution.text ++ _) ↔ _
      simp [head, resolved, Piece.EndsBefore, Piece.absorbs, found, absorbs_eq stops starts opens]

theorem separated_of_spelled {p : Predicate} {offset : Nat} {pieces : List Piece}
    (spelled : p.SpelledBy offset pieces) (scanned : Scanned reading pieces []) (after : Text) :
    Separated pieces after := by
  obtain @⟨first, last, middle, sign, -, -, -, value, -⟩ := spelled
  rw [← List.cons_append] at scanned ⊢
  have solid := (scanned_append.1 scanned).2.1.source_ne_nil
  have separated := (separated_append.1 (scanned_iff.1 scanned).2).1
  -- Nothing goes on with a literal, and before it the literal is what stands behind, as it was.
  refine separated_append.2 ⟨separated.congr ?_, ?_, trivial⟩
  · simp [List.head?_append_of_ne_nil _ solid]
  · simp [Piece.EndsBefore, Piece.absorbs, value, Lexeme.absorbs]

theorem fused_clause {p : Predicate} {offset : Nat} {pieces others : List Piece}
    {predicates : List Predicate} (spelled : p.SpelledBy offset pieces)
    (scanned : Scanned reading pieces []) :
    Fused find (p :: predicates) (place offset (pieces ++ others)) ↔
      Fused find predicates (place (offset + byteLength (joined pieces)) others) := by
  obtain ⟨d, word, first, -⟩ := exists_startsName_of_spelled spelled scanned
  have positive := d.utf8Size_pos
  -- The clause holds no number, and no token behind it stops where it starts.
  have own (token : Token) (member : token ∈ place offset pieces) :
      ¬ (token.lexeme.isNumber ∧ FusesAt find (p :: predicates) token.span.stop) := by
    simp [isNumber_of_mem_spelled spelled member]
  have later (token : Token)
      (member : token ∈ place (offset + byteLength (joined pieces)) others) :
      FusesAt find (p :: predicates) token.span.stop ↔
        FusesAt find predicates token.span.stop := by
    have bounds := le_start_of_mem_place member
    have apart : p.span.start ≠ token.span.stop := by
      simp only [spelled.span_eq, first, byteLength_cons] at bounds ⊢
      omega
    simp [FusesAt, apart]
  unfold Fused
  rw [place_append]
  constructor
  · rintro ⟨token, member, number, fuses⟩
    rcases List.mem_append.1 member with member | member
    · exact absurd ⟨number, fuses⟩ (own token member)
    · exact ⟨token, member, number, (later token member).1 fuses⟩
  · rintro ⟨token, member, number, fuses⟩
    exact ⟨token, List.mem_append_right _ member, number, (later token member).2 fuses⟩

theorem Arranged.separated_iff {afterDot : Bool} {offset : Nat} {parts : List Part}
    (arranged : Arranged afterDot offset parts) (scanned : Scanned reading (piecesOf parts) [])
    (named : ∀ p resolution, find p = some resolution → isName resolution.field) :
    Separated (resolvedPieces find parts) [] ↔
      ¬ Fused find (predicatesOf parts) (place offset (piecesOf parts)) := by
  induction arranged with
  | nil => simp [Separated, Fused, place]
  | blank blank tail ih =>
    have ends (after : Text) : Piece.EndsBefore _ after := fun c _ => by
      rw [Piece.absorbs, blank]
      rfl
    rw [resolvedPieces_loose, piecesOf_loose, predicatesOf_loose, place_cons_blank blank,
      ← ih scanned.2.2]
    exact and_iff_right (ends _)
  | token found alone tail ih =>
    obtain ⟨-, ends, scanned⟩ := scanned
    rw [List.append_nil] at ends
    have step := endsBefore_resolved_iff found ends tail scanned named
    rw [resolvedPieces_loose, piecesOf_loose, predicatesOf_loose, place_cons found, Separated,
      List.append_nil, step, ih scanned, ← not_or]
    simp [Fused]
  | @clause offset p pieces rest spelled tail ih =>
    rw [piecesOf_clause] at scanned
    have inside := scanned.left
    rw [piecesOf_clause, predicatesOf_clause, fused_clause spelled inside,
      ← ih (scanned_append.1 scanned).2]
    cases resolved : find p with
    | none =>
      rw [resolvedPieces_kept resolved, separated_append]
      exact and_iff_right (separated_of_spelled spelled inside _)
    | some resolution =>
      rw [resolvedPieces_replaced resolved, separated_append]
      exact and_iff_right (separated_clausePieces _ _ _)

end

end Prejoin
