import Prejoin.Proofs.Covering
import Prejoin.Proofs.Unclosed

set_option autoImplicit false

namespace Prejoin

theorem unescape_of_not_mem {body : Text} (clean : '\\' ∉ body) : unescape body = body := by
  fun_induction unescape body with
  | case1 => rfl
  | case2 c => rfl
  | case3 d rest ih => exact absurd List.mem_cons_self clean
  | case4 c d rest plain ih => rw [ih fun inside => clean (List.mem_cons_of_mem c inside)]

theorem value_of_not_mem {body : Text} (clean : '\\' ∉ body) (reading : Reading) :
    reading.value body = body := by
  cases reading with
  | escaped => exact unescape_of_not_mem clean
  | plain => rfl

theorem Encloses.of_not_mem {reading other : Reading} {mark : Char} {body : Text}
    (encloses : Encloses reading mark body) (clean : '\\' ∉ body) : Encloses other mark body := by
  have same : Encloses .escaped mark body ↔ Encloses .plain mark body :=
    encloses_escaped_iff clean
  cases reading <;> cases other
  next => exact encloses
  next => exact same.1 encloses
  next => exact same.2 encloses
  next => exact encloses

theorem Unclosed.of_not_mem {reading other : Reading} {quote : Quote} {rest : Text}
    (unclosed : Unclosed reading quote rest) (clean : '\\' ∉ rest) : Unclosed other quote rest := by
  induction unclosed with
  | nil => exact .nil
  | dangling escapes => exact absurd List.mem_cons_self clean
  | escape escapes later ih => exact absurd List.mem_cons_self clean
  | plain unmarked unescaped later ih =>
    obtain ⟨single, clean⟩ := not_or.1 (mt List.mem_cons.2 clean)
    exact .plain unmarked (fun escape => single escape.2.symm) (ih clean)

def Piece.Slashed (piece : Piece) : Prop :=
  '\\' ∈ piece.source ∧ ∃ value quote, piece.lexeme = some (.literal value quote)

theorem Piece.Reads.of_not_slashed {reading other : Reading} {piece : Piece}
    (reads : piece.Reads reading) (clean : ¬ piece.Slashed) : piece.Reads other := by
  cases reads with
  | blank blank => exact .blank blank
  | name named => exact .name named
  | number digit continues => exact .number digit continues
  | pair signs => exact .pair signs
  | mark unquoted solid nameless unnumbered => exact .mark unquoted solid nameless unnumbered
  | @literal quote body encloses =>
    have clean : '\\' ∉ body := fun inside => clean ⟨by simp [inside], _, _, rfl⟩
    have same : reading.value body = other.value body := by
      rw [value_of_not_mem clean, value_of_not_mem clean]
    rw [same]
    exact .literal (encloses.of_not_mem clean)

theorem Scanned.of_not_slashed {reading other : Reading} {pieces : List Piece} {after : Text}
    (scanned : Scanned reading pieces after) (clean : ∀ piece ∈ pieces, ¬ piece.Slashed) :
    Scanned other pieces after := by
  obtain ⟨reads, separated⟩ := scanned_iff.1 scanned
  exact scanned_iff.2
    ⟨fun piece inside => (reads piece inside).of_not_slashed (clean piece inside), separated⟩

def CleanLiterals (filter : Text) (tokens : List Token) : Prop :=
  ∀ token ∈ tokens, ∀ value quote, token.lexeme = .literal value quote →
    ∀ text, token.span.slice filter = some text → '\\' ∉ text

theorem not_slashed_of_cleanLiterals {pieces : List Piece}
    (clean : CleanLiterals (joined pieces) (place 0 pieces)) :
    ∀ piece ∈ pieces, ¬ piece.Slashed := by
  rintro piece inside ⟨slash, value, quote, found⟩
  obtain ⟨before, after, rfl⟩ := List.append_of_mem inside
  let span : Span := ⟨byteLength (joined before), byteLength (joined before ++ piece.source)⟩
  have placed : ⟨.literal value quote, span⟩ ∈ place 0 (before ++ piece :: after) :=
    mem_place_iff.2 ⟨before, piece, after, rfl, found, by simp [span]⟩
  have sliced : span.slice (joined (before ++ piece :: after)) = some piece.source :=
    slice_eq_some_iff.2 ⟨joined before, joined after, by simp, rfl⟩
  exact clean _ placed value quote rfl _ sliced slash

theorem tokenizeAs_of_cleanLiterals {reading other : Reading} {filter : Text}
    {tokens : List Token} (read : tokenizeAs reading filter = .ok tokens)
    (clean : CleanLiterals filter tokens) : tokenizeAs other filter = .ok tokens := by
  obtain ⟨pieces, rfl, scanned, rfl⟩ := tokenizeAs_eq_ok_iff.1 read
  have same : Scanned other pieces [] :=
    scanned.of_not_slashed (not_slashed_of_cleanLiterals clean)
  exact tokenizeAs_eq_ok_iff.2 ⟨pieces, rfl, same, rfl⟩

theorem cleanLiterals_of_not_mem {filter : Text} (clean : '\\' ∉ filter) (tokens : List Token) :
    CleanLiterals filter tokens := by
  intro token _ value quote _ text sliced inside
  obtain ⟨before, after, rfl, -⟩ := slice_eq_some_iff.1 sliced
  exact clean (by simp [inside])

theorem UnclosedAt.of_not_mem {reading other : Reading} {filter : Text} {offset : Nat}
    (unclosed : UnclosedAt reading filter offset) (clean : '\\' ∉ filter) :
    UnclosedAt other filter offset := by
  obtain ⟨before, quote, rest, rfl, start, ⟨tokens, read⟩, unclosed⟩ := unclosed
  simp only [List.mem_append, List.mem_cons, not_or] at clean
  obtain ⟨first, -, later⟩ := clean
  have again : tokenizeAs other before = .ok tokens :=
    tokenizeAs_of_cleanLiterals read (cleanLiterals_of_not_mem first tokens)
  exact ⟨before, quote, rest, rfl, start, ⟨tokens, again⟩, unclosed.of_not_mem later⟩

theorem tokenizeAs_congr {filter : Text} (clean : '\\' ∉ filter) (reading other : Reading) :
    tokenizeAs reading filter = tokenizeAs other filter := by
  cases read : tokenizeAs reading filter with
  | ok tokens =>
    exact (tokenizeAs_of_cleanLiterals read (cleanLiterals_of_not_mem clean tokens)).symm
  | error error =>
    obtain ⟨offset⟩ := error
    have unclosed : UnclosedAt other filter offset :=
      (tokenizeAs_eq_error_iff.1 read).of_not_mem clean
    exact (tokenizeAs_eq_error_iff.2 unclosed).symm

def Piece.isClean (piece : Piece) : Bool :=
  !piece.source.contains '\\'

theorem Piece.isClean_iff {piece : Piece} : piece.isClean ↔ '\\' ∉ piece.source := by
  simp [Piece.isClean]

theorem Piece.not_slashed {piece : Piece} (clean : piece.isClean) : ¬ piece.Slashed :=
  fun slashed => Piece.isClean_iff.1 clean slashed.1

theorem first_eq {reading : Reading} {p q : Piece} {s t : Text} (left : p.Reads reading)
    (ends : p.EndsBefore s) (right : q.Reads reading) (stops : q.EndsBefore t)
    (source : p.source ++ s = q.source ++ t) : p = q ∧ s = t := by
  have found := scan_cons left ends
  rw [source, scan_cons right stops] at found
  obtain rfl := (List.cons.inj (Prod.mk.inj found).1).1
  exact ⟨rfl, List.append_cancel_left source⟩

theorem takeWhile_isClean_eq {reading other : Reading} {ps qs : List Piece}
    (left : Scanned reading ps []) (right : Scanned other qs [])
    (source : joined ps = joined qs) :
    ps.takeWhile Piece.isClean = qs.takeWhile Piece.isClean := by
  induction ps generalizing qs with
  | nil =>
    cases qs with
    | nil => rfl
    | cons q more =>
      have none := (List.append_eq_nil_iff.1 source.symm).1
      exact absurd none right.1.source_ne_nil
  | cons p rest ih =>
    cases qs with
    | nil =>
      have none := (List.append_eq_nil_iff.1 source).1
      exact absurd none left.1.source_ne_nil
    | cons q more =>
      obtain ⟨reads, ends, left⟩ := left
      obtain ⟨reads', ends', right⟩ := right
      rw [List.append_nil] at ends ends'
      -- A clean piece is one in either reading, so it is the next piece of both.
      have same (clean : p.isClean ∨ q.isClean) : p = q ∧ joined rest = joined more := by
        rcases clean with clean | clean
        · exact first_eq (reads.of_not_slashed (Piece.not_slashed clean)) ends reads' ends' source
        · exact first_eq reads ends (reads'.of_not_slashed (Piece.not_slashed clean)) ends' source
      by_cases clean : p.isClean ∨ q.isClean
      next =>
        obtain ⟨rfl, later⟩ := same clean
        rw [List.takeWhile_cons, List.takeWhile_cons, ih left right later]
      next =>
        obtain ⟨first, second⟩ := not_or.1 clean
        rw [List.takeWhile_cons_of_neg first, List.takeWhile_cons_of_neg second]

def endingBy (offset : Nat) (tokens : List Token) : List Token :=
  tokens.filter fun token => token.span.stop ≤ offset

theorem le_stop_of_mem_place_cons {offset : Nat} {piece : Piece} {rest : List Piece} {token : Token}
    (member : token ∈ place offset (piece :: rest)) :
    offset + byteLength piece.source ≤ token.span.stop := by
  have later (inside : token ∈ place (offset + byteLength piece.source) rest) :
      offset + byteLength piece.source ≤ token.span.stop := by
    have bounds := le_start_of_mem_place inside
    omega
  cases found : piece.lexeme with
  | none =>
    rw [place_cons_blank found] at member
    exact later member
  | some lexeme =>
    rw [place_cons found] at member
    rcases List.mem_cons.1 member with rfl | inside
    · exact Nat.le_refl _
    · exact later inside

theorem endingBy_place (offset : Nat) {pieces : List Piece} {before after : Text}
    (source : joined pieces = before ++ '\\' :: after) (clean : '\\' ∉ before) :
    endingBy (offset + byteLength before) (place offset pieces) =
      place offset (pieces.takeWhile Piece.isClean) := by
  induction pieces generalizing offset before with
  | nil => simp at source
  | cons piece rest ih =>
    rcases append_eq_append_cons source with ⟨front, rfl, tail⟩ | ⟨more, own⟩
    · obtain ⟨first, later⟩ := not_or.1 (mt List.mem_append.2 clean)
      have next := ih (offset + byteLength piece.source) tail later
      rw [List.takeWhile_cons_of_pos (Piece.isClean_iff.2 first), byteLength_append,
        ← Nat.add_assoc]
      cases found : piece.lexeme with
      | none => rw [place_cons_blank found, place_cons_blank found, next]
      | some lexeme =>
        rw [place_cons found, place_cons found, ← next, endingBy, List.filter_cons_of_pos]
        · rfl
        · simp
    · have slashed : ¬ piece.isClean := by simp [Piece.isClean_iff, own]
      rw [List.takeWhile_cons_of_neg slashed]
      refine List.filter_eq_nil_iff.2 fun token member => ?_
      have ends := le_stop_of_mem_place_cons member
      have positive := Char.utf8Size_pos '\\'
      simp only [own, byteLength_append, byteLength_cons] at ends
      simp only [decide_eq_true_eq]
      omega

/-- A filter without backslashes is read or refused alike either way. Of a filter that can be read
in both ways, the tokens that end before its first backslash are the same. -/
theorem readings_agree (filter : Text) :
    ('\\' ∉ filter → tokenizeAs .escaped filter = tokenizeAs .plain filter) ∧
      (∀ tokens, tokenizeAs .escaped filter = .ok tokens → CleanLiterals filter tokens →
        tokenizeAs .plain filter = .ok tokens) ∧
      (∀ before after escaped plain, filter = before ++ '\\' :: after → '\\' ∉ before →
        tokenizeAs .escaped filter = .ok escaped → tokenizeAs .plain filter = .ok plain →
        endingBy (byteLength before) escaped = endingBy (byteLength before) plain) ∧
      ∀ tokens, (∃ error, tokenizeAs .escaped filter = .error error) →
        tokenize filter = .ok tokens → '\\' ∈ filter := by
  refine ⟨fun clean => tokenizeAs_congr clean _ _,
    fun tokens read clean => tokenizeAs_of_cleanLiterals read clean, ?_, ?_⟩
  · intro before after escaped plain source clean left right
    obtain ⟨ps, rfl, scanned, rfl⟩ := tokenizeAs_eq_ok_iff.1 left
    obtain ⟨qs, same, scanned', rfl⟩ := tokenizeAs_eq_ok_iff.1 right
    have first := endingBy_place 0 source clean
    have second := endingBy_place 0 (same.trans source) clean
    rw [Nat.zero_add] at first second
    rw [first, second, takeWhile_isClean_eq scanned scanned' same.symm]
  · intro tokens failed read
    obtain ⟨error, failed⟩ := failed
    by_contra clean
    have plain := tokenizeAs_congr clean .escaped .plain
    rcases tokenize_eq_ok_iff.1 read with escaped | ⟨-, second⟩
    · cases failed.symm.trans escaped
    · cases failed.symm.trans (plain.trans second)

def divergingFilter : Text :=
  "a=\"é\" or b=\"\\\"\\\" c\"".toList

def outsideFilter : Text :=
  "\\=\"é\"".toList

def outsideTokens : List Token :=
  [⟨.other '\\', ⟨0, 1⟩⟩, ⟨.comparison .equal, ⟨1, 2⟩⟩, ⟨.literal "é".toList .double, ⟨2, 6⟩⟩]

theorem read_diverging :
    tokenizeAs .escaped divergingFilter = .ok (place 0 (scan .escaped divergingFilter).1) ∧
      tokenizeAs .plain divergingFilter = .ok (place 0 (scan .plain divergingFilter).1) ∧
      (place 0 (scan .escaped divergingFilter).1).length = 7 ∧
      (place 0 (scan .plain divergingFilter).1).length = 9 ∧
      (endingBy 13 (place 0 (scan .plain divergingFilter).1)).length = 6 ∧
      tokenizeAs .escaped outsideFilter = .ok outsideTokens := by
  decide +kernel

theorem cleanLiterals_outside : CleanLiterals outsideFilter outsideTokens := by
  intro token member value quote found text sliced
  simp only [outsideTokens, List.mem_cons, List.not_mem_nil, or_false] at member
  rcases member with rfl | rfl | rfl
  · cases found
  · cases found
  · obtain rfl : "\"é\"".toList = text := Option.some.inj sliced
    decide

-- Six tokens are read alike before a literal that ends at different places, and a backslash that
-- stands in no literal is read alike itself.
theorem readings_agree_diverging :
    (∃ escaped plain, tokenizeAs .escaped divergingFilter = .ok escaped ∧
      tokenizeAs .plain divergingFilter = .ok plain ∧ escaped ≠ plain ∧
      endingBy 13 escaped = endingBy 13 plain ∧ (endingBy 13 plain).length = 6) ∧
      tokenizeAs .plain outsideFilter = .ok outsideTokens := by
  obtain ⟨escaped, plain, short, long, early, outside⟩ := read_diverging
  have source : divergingFilter =
      "a=\"é\" or b=\"".toList ++ '\\' :: "\"\\\" c\"".toList := by
    decide
  have apart :
      place 0 (scan .escaped divergingFilter).1 ≠ place 0 (scan .plain divergingFilter).1 := by
    intro same
    rw [same, long] at short
    cases short
  have alike := (readings_agree divergingFilter).2.2.1 _ _ _ _ source (by decide) escaped plain
  exact ⟨⟨_, _, escaped, plain, apart, alike, early⟩,
    (readings_agree outsideFilter).2.1 _ outside cleanLiterals_outside⟩

end Prejoin
