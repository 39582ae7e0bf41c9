import Prejoin.Proofs.Windows

set_option autoImplicit false

namespace Prejoin

def Lexeme.isWord : Lexeme → Bool
  | .name _ | .number _ | .other _ => true
  | _ => false

theorem ofChar_of_continuesName {c : Char} (continues : continuesName c) :
    Lexeme.ofChar c = .other c := by
  unfold Lexeme.ofChar
  split
  case h_8 => rfl
  all_goals exact absurd continues (by decide)

theorem endsBefore_number (number text after : Text) :
    Piece.EndsBefore ⟨number, some (.number number)⟩
      (text.dropWhile continuesNumber ++ '=' :: after) := by
  intro d next
  have stops : continuesNumber '=' = false := by decide
  cases left : text.dropWhile continuesNumber with
  | nil =>
    obtain rfl : '=' = d := by simpa [left] using next
    simp [Piece.absorbs, Lexeme.absorbs, stops]
  | cons e more =>
    obtain rfl : e = d := by simpa [left] using next
    have stop : continuesNumber e = false := head?_dropWhile (s := text) (by simp [left])
    simp [Piece.absorbs, Lexeme.absorbs, stop]

theorem exists_words (reading : Reading) (text : Text) (continues : ∀ c ∈ text, continuesName c)
    (after : Text) :
    ∃ pieces, joined pieces = text ∧ Scanned reading pieces ('=' :: after) ∧
      ∀ piece ∈ pieces, ∃ lexeme, piece.lexeme = some lexeme ∧ lexeme.isWord := by
  -- On the length of the text, of which a name or a number takes a whole stretch.
  induction count : text.length using Nat.strong_induction_on generalizing text with
  | _ size ih =>
    cases text with
    | nil => exact ⟨[], rfl, trivial, by simp⟩
    | cons c rest =>
      have first := continues c List.mem_cons_self
      have others : ∀ d ∈ rest, continuesName d := fun d inside =>
        continues d (List.mem_cons_of_mem c inside)
      by_cases starts : startsName c
      · refine ⟨[⟨c :: rest, some (.name (c :: rest))⟩], by simp, ⟨.name ?_, ?_, trivial⟩, ?_⟩
        · exact isName_iff.2 ⟨c, rest, rfl, starts, others⟩
        · have stops : continuesName '=' = false := by decide
          simp [Piece.EndsBefore, Piece.absorbs, Lexeme.absorbs, stops]
        · simp [Lexeme.isWord]
      by_cases digit : c.isDigit
      · have shorter : (rest.dropWhile continuesNumber).length < size := by
          have bound := (List.dropWhile_sublist continuesNumber (l := rest)).length_le
          simp only [List.length_cons] at count
          omega
        obtain ⟨pieces, source, scanned, words⟩ := ih _ shorter (rest.dropWhile continuesNumber)
          (fun d inside => others d ((List.dropWhile_sublist _).subset inside)) rfl
        let taken := c :: rest.takeWhile continuesNumber
        refine ⟨⟨taken, some (.number taken)⟩ :: pieces, by simp [taken, source],
          ⟨.number digit fun d inside => List.mem_takeWhile_imp inside, ?_, scanned⟩, ?_⟩
        · rw [source]
          exact endsBefore_number taken rest after
        · simpa [Lexeme.isWord] using words
      · obtain ⟨pieces, source, scanned, words⟩ :=
          ih rest.length (by simp [← count]) rest others rfl
        have lone : c ≠ '!' := ne_of_continuesName first (by decide)
        refine ⟨⟨[c], some (.ofChar c)⟩ :: pieces, by simp [source],
          ⟨.mark ?_ ?_ ?_ ?_, ?_, scanned⟩, ?_⟩
        · exact ofMark?_of_continuesName first
        · exact isBlank_of_continuesName first
        · simpa using starts
        · simpa using digit
        · simp [Piece.EndsBefore, Piece.absorbs, ofChar_of_continuesName first, Lexeme.absorbs,
            lone]
        · simpa [ofChar_of_continuesName first, Lexeme.isWord] using words

def fusedLexemes (number : Text) (words : List Lexeme) (value : Text) : List Lexeme :=
  (.number number :: (words ++ [.comparison .equal])) ++ [.literal value .double]

section

variable {words : List Lexeme} (number value : Text)

theorem blunt_fusedLexemes (each : ∀ lexeme ∈ words, lexeme.isWord) :
    Blunt (fusedLexemes number words value) := by
  cases words with
  | nil => simp [fusedLexemes, Blunt, Lexeme.isLiteral]
  | cons lexeme more =>
    have word := each lexeme List.mem_cons_self
    cases lexeme <;> simp_all [fusedLexemes, Blunt, Lexeme.isLiteral, Lexeme.isWord]

theorem inert_fusedLexemes (each : ∀ lexeme ∈ words, lexeme.isWord) :
    Inert (fusedLexemes number words value) := by
  refine ⟨?_, _, _, rfl, rfl⟩
  have undotted : .dot ∉ words := fun inside => absurd (each _ inside) (by simp [Lexeme.isWord])
  simp [fusedLexemes, undotted]

end

theorem exists_fusedPieces {reading : Reading} {digits field : Text}
    (number : Piece.Reads reading ⟨digits, some (.number digits)⟩) (named : isName field)
    {value : Text} (literal : (keyPiece value).Reads reading) (after : Text) :
    ∃ front, joined front = digits ++ comparison field value ∧ Scanned reading front after ∧
      Blunt (lexemes front) ∧ (∀ lexeme ∈ (lexemes front).head?, lexeme.isName = false) ∧
      Inert (lexemes front) := by
  obtain ⟨c, rest, -, rfl, digit, continues⟩ := reads_number_iff.1 number
  obtain ⟨words, source, scanned, each⟩ := exists_words reading (field.dropWhile continuesNumber)
    (fun d inside => continuesName_of_isName named ((List.dropWhile_sublist _).subset inside))
    (quoteLiteral value ++ after)
  let taken := c :: (rest ++ field.takeWhile continuesNumber)
  let front := ⟨taken, some (.number taken)⟩ ::
    (words ++ [⟨['='], some (.comparison .equal)⟩, keyPiece value])
  have word (lexeme : Lexeme) (inside : lexeme ∈ lexemes words) : lexeme.isWord := by
    obtain ⟨piece, member, found⟩ := List.mem_filterMap.1 inside
    obtain ⟨other, same, isWord⟩ := each piece member
    rw [found] at same
    rwa [Option.some.inj same]
  have tokens : lexemes front = fusedLexemes taken (lexemes words) value := by
    rw [lexemes_cons rfl, lexemes_append]
    simp [fusedLexemes, lexemes, keyPiece]
  have joins : joined front = c :: rest ++ comparison field value := by
    have whole : field = field.takeWhile continuesNumber ++ field.dropWhile continuesNumber := by
      simp
    conv_rhs => rw [whole]
    simp only [front, taken, keyPiece, comparison, source, joined_cons, joined_append, joined_nil,
      List.cons_append, List.append_assoc, List.nil_append, List.append_nil]
  have digits (d : Char) (inside : d ∈ rest ++ field.takeWhile continuesNumber) :
      continuesNumber d := by
    rcases List.mem_append.1 inside with inside | inside
    · exact continues d inside
    · exact List.mem_takeWhile_imp inside
  have behind : Scanned reading
      (words ++ [⟨['='], some (.comparison .equal)⟩, keyPiece value]) after := by
    rw [scanned_append]
    refine ⟨by simpa [keyPiece] using scanned, reads_equal, ?_, literal, ?_, trivial⟩
    · simp [Piece.EndsBefore, Piece.absorbs, Lexeme.absorbs]
    · simp [keyPiece, Piece.EndsBefore, Piece.absorbs, Lexeme.absorbs]
  have ends := endsBefore_number taken field (quoteLiteral value ++ after)
  refine ⟨front, joins, ⟨.number digit digits, by simpa [source, keyPiece] using ends, behind⟩, ?_⟩
  rw [tokens]
  exact ⟨blunt_fusedLexemes taken value word, by simp [fusedLexemes, Lexeme.isName],
    inert_fusedLexemes taken value word⟩

inductive Rendered (find : Predicate → Option Resolution) : List Part → List Piece → Prop
  | nil : Rendered find [] []
  | loose {piece : Piece} {rest : List Part} {pieces : List Piece}
      (tail : Rendered find rest pieces) : Rendered find (.loose piece :: rest) (piece :: pieces)
  | kept {p : Predicate} {own : List Piece} {rest : List Part} {pieces : List Piece}
      (kept : find p = none) (tail : Rendered find rest pieces) :
      Rendered find (.clause p own :: rest) (own ++ pieces)
  | replaced {p : Predicate} {own : List Piece} {rest : List Part} {pieces : List Piece}
      {resolution : Resolution} (replaced : find p = some resolution)
      (tail : Rendered find rest pieces) :
      Rendered find (.clause p own :: rest)
        (clausePieces resolution.field resolution.keys ++ pieces)
  | fused {piece : Piece} {text : Text} {p : Predicate} {own front : List Piece} {rest : List Part}
      {pieces : List Piece} {resolution : Resolution}
      (number : piece.lexeme = some (.number text)) (replaced : find p = some resolution)
      (blunt : Blunt (lexemes front))
      (unnamed : ∀ lexeme ∈ (lexemes front).head?, lexeme.isName = false)
      (inert : Inert (lexemes front)) (tail : Rendered find rest pieces) :
      Rendered find (.loose piece :: .clause p own :: rest) (front ++ pieces)

theorem Blunt.append {found : List Lexeme} (blunt : Blunt found) (others : List Lexeme) :
    Blunt (found ++ others) := by
  match found, blunt with
  | _ :: _ :: _, blunt => exact blunt

theorem Blunt.head?_append {found : List Lexeme} (blunt : Blunt found) (others : List Lexeme) :
    (found ++ others).head? = found.head? := by
  match found, blunt with
  | _ :: _ :: _, _ => rfl

theorem blunt_clausePieces (field : Text) (keys : List Text) :
    Blunt (lexemes (clausePieces field keys)) := by
  rw [lexemes_clausePieces]
  unfold clauseLexemes
  split
  · simp [comparisonLexemes, Blunt, Lexeme.isLiteral]
  · cases keys with
    | nil => contradiction
    | cons key rest =>
      cases rest <;> simp [comparisonLexemes, Blunt, Lexeme.isLiteral]

theorem inert_clausePieces (field : Text) (keys : List Text) :
    Inert (lexemes (clausePieces field keys)) := by
  rw [lexemes_clausePieces]
  unfold clauseLexemes
  have comparison (value : Text) : .dot ∉ comparisonLexemes field value := by
    simp [comparisonLexemes]
  split
  · exact ⟨comparison _, [.name field, .comparison .equal], _, rfl, rfl⟩
  · refine ⟨?_, _, _, rfl, rfl⟩
    simp only [List.cons_append, List.mem_cons, List.mem_append, List.not_mem_nil, or_false,
      not_or]
    refine ⟨by simp, fun inside => ?_, by simp⟩
    obtain ⟨chunk, member, inside⟩ := List.mem_flatten.1 inside
    rcases eq_or_mem_of_mem_intersperse member with rfl | member
    · simp at inside
    · obtain ⟨key, -, rfl⟩ := List.mem_map.1 member
      exact comparison key inside

section

variable {find : Predicate → Option Resolution}

theorem exists_rendered_fused {piece : Piece} {digits : Text} {p : Predicate} {own : List Piece}
    {others : List Part} {resolution : Resolution} {pieces : List Piece}
    (found : piece.lexeme = some (.number digits)) (reads : piece.Reads .escaped)
    (replaced : find p = some resolution) (named : isName resolution.field)
    (continues : ∃ c ∈ resolution.text.head?, continuesNumber c)
    (rendered : Rendered find (.clause p own :: others) pieces)
    (scanned : Scanned .escaped pieces []) :
    ∃ all, Rendered find (.loose piece :: .clause p own :: others) all ∧
      joined all = piece.source ++ joined pieces ∧ Scanned .escaped all [] := by
  obtain ⟨_, _⟩ := piece
  obtain rfl := found
  obtain ⟨_, _, rfl, -⟩ := reads_number_iff.1 reads
  have unmatched : resolution.keys = [] := by
    by_contra some
    obtain ⟨c, first, continues⟩ := continues
    obtain rfl : '(' = c := by
      simpa [Resolution.text, replacementFor, some, disjunction] using first
    exact absurd continues (by decide)
  cases rendered with
  | kept kept => simp [replaced] at kept
  | @replaced _ _ _ pieces other found tail =>
    obtain rfl : resolution = other := Option.some.inj (replaced.symm.trans found)
    obtain ⟨front, joins, front_scanned, blunt, unnamed, inert⟩ := exists_fusedPieces reads named
      (reads_keyPiece_escaped unmatchedKey) (joined pieces)
    refine ⟨front ++ pieces, .fused rfl replaced blunt unnamed inert tail, ?_, ?_⟩
    · rw [joined_append, joined_append, joins, joined_clausePieces, replacementFor,
        if_pos unmatched, noMatch, List.append_assoc]
    · exact scanned_append.2 ⟨by simpa using front_scanned, (scanned_append.1 scanned).2⟩

theorem Arranged.exists_rendered {afterDot : Bool} {offset : Nat} {parts : List Part}
    (arranged : Arranged afterDot offset parts) (scanned : Scanned .escaped (piecesOf parts) [])
    (named : ∀ p resolution, find p = some resolution → isName resolution.field) :
    ∃ pieces, Rendered find parts pieces ∧ joined pieces = joined (resolvedPieces find parts) ∧
      Scanned .escaped pieces [] := by
  induction arranged with
  | nil => exact ⟨[], .nil, rfl, trivial⟩
  | @blank afterDot offset piece rest blank tail ih =>
    obtain ⟨pieces, rendered, source, read⟩ := ih scanned.2.2
    refine ⟨piece :: pieces, .loose rendered, by simp [source], scanned.1, ?_, read⟩
    simp [Piece.EndsBefore, Piece.absorbs, blank]
  | @token afterDot offset piece lexeme rest found alone tail ih =>
    obtain ⟨reads, ends, scanned⟩ := scanned
    rw [List.append_nil] at ends
    obtain ⟨pieces, rendered, source, read⟩ := ih scanned
    have apart := endsBefore_resolved_iff found ends tail scanned named
    by_cases fuses : lexeme.isNumber ∧
        FusesAt find (predicatesOf rest) (offset + byteLength piece.source)
    · obtain ⟨number, fuses⟩ := fuses
      obtain ⟨p, own, others, resolution, rfl, replaced, continues⟩ :=
        (fusesAt_iff tail scanned).1 fuses
      obtain ⟨digits, rfl⟩ : ∃ digits, lexeme = .number digits := by
        cases lexeme <;> simp_all [Lexeme.isNumber]
      rw [resolvedPieces_loose, joined_cons, ← source]
      exact exists_rendered_fused found reads replaced (named p resolution replaced) continues
        rendered read
    · refine ⟨piece :: pieces, .loose rendered, by simp [source], reads, ?_, read⟩
      rw [List.append_nil, source]
      exact apart.2 fuses
  | @clause offset p own rest spelled tail ih =>
    rw [piecesOf_clause] at scanned
    have inside := scanned.left
    obtain ⟨pieces, rendered, source, read⟩ := ih (scanned_append.1 scanned).2
    cases found : find p with
    | none =>
      refine ⟨own ++ pieces, .kept found rendered, by simp [resolvedPieces_kept found, source], ?_⟩
      have separated := separated_of_spelled spelled inside (joined pieces ++ [])
      exact scanned_append.2 ⟨scanned_iff.2 ⟨(scanned_iff.1 inside).1, separated⟩, read⟩
    | some resolution =>
      refine ⟨_, .replaced found rendered, by simp [resolvedPieces_replaced found, source], ?_⟩
      exact scanned_append.2 ⟨scanned_clausePieces (named p resolution found) _ _, read⟩

theorem Arranged.agrees {afterDot : Bool} {offset : Nat} {parts : List Part} {pieces : List Piece}
    (arranged : Arranged afterDot offset parts) (rendered : Rendered find parts pieces) :
    Agrees afterDot (lexemes (piecesOf parts)) (lexemes pieces) := by
  induction arranged generalizing pieces with
  | nil =>
    cases rendered
    exact .nil
  | blank blank tail ih =>
    cases rendered with
    | loose rendered =>
      rw [piecesOf_loose, lexemes_cons_blank blank, lexemes_cons_blank blank]
      exact ih rendered
    | fused number => simp [blank] at number
  | token found alone tail ih =>
    cases rendered with
    | loose rendered =>
      rw [piecesOf_loose, lexemes_cons found, lexemes_cons found]
      exact .same (ih rendered)
    | @fused _ _ _ _ front _ pieces _ number replaced blunt unnamed inert rendered =>
      rw [lexemes_append]
      refine .blunt (blunt.append _) fun _ => ?_
      rwa [blunt.head?_append]
  | clause spelled tail ih =>
    rw [piecesOf_clause, lexemes_append]
    cases rendered with
    | kept kept rendered =>
      rw [lexemes_append]
      obtain ⟨sign, tokens, -⟩ := spelled.lexemes_eq
      rw [tokens]
      exact Agrees.append_same (by simp) (by simp) (ih rendered)
    | replaced replaced rendered =>
      rw [lexemes_append]
      exact .blunt ((blunt_clausePieces _ _).append _) (by simp)

theorem Arranged.contents_rendered {afterDot : Bool} {offset : Nat} {parts : List Part}
    {pieces : List Piece} (arranged : Arranged afterDot offset parts)
    (rendered : Rendered find parts pieces) :
    contentsAfter afterDot (lexemes pieces) =
      ((predicatesOf parts).filter fun p => find p = none).map Predicate.content := by
  induction arranged generalizing pieces with
  | nil =>
    cases rendered
    simp [contentsAfter]
  | blank blank tail ih =>
    cases rendered with
    | loose rendered => rw [lexemes_cons_blank blank, ih rendered, predicatesOf_loose]
    | fused number => simp [blank] at number
  | @token afterDot offset piece lexeme rest found alone tail ih =>
    cases rendered with
    | loose rendered =>
      have agrees := tail.agrees rendered
      have single : afterDot = false → opensClause (lexeme :: lexemes _) = false := fun first => by
        by_contra opens
        simpa [alone first] using agrees.opensClause (by simpa using opens)
      rw [lexemes_cons found, contentsAfter_cons single, ih rendered, predicatesOf_loose]
    | fused number replaced blunt unnamed inert rendered =>
      -- As if the number had ended before the clause.
      have apart := ih (.replaced replaced rendered)
      rw [lexemes_append, (inert_clausePieces _ _).contentsAfter_append] at apart
      rw [lexemes_append, inert.contentsAfter_append, apart, predicatesOf_loose]
  | clause spelled tail ih =>
    cases rendered with
    | kept kept rendered =>
      rw [lexemes_append, contentsAfter_spelled spelled, ih rendered, predicatesOf_clause]
      simp [kept]
    | replaced replaced rendered =>
      rw [lexemes_append, (inert_clausePieces _ _).contentsAfter_append, ih rendered,
        predicatesOf_clause]
      simp [replaced]

end

end Prejoin
