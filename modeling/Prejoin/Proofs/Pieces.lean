import Mathlib.Data.List.TakeWhile
import Mathlib.Tactic.Common
import Prejoin.Filter.Clause
import Prejoin.Proofs.Characters

set_option autoImplicit false

namespace Prejoin

def Encloses (reading : Reading) (mark : Char) : Text → Prop
  | [] => True
  | [c] => c ≠ mark ∧ ¬ (reading = .escaped ∧ c = '\\')
  | c :: d :: rest =>
    c ≠ mark ∧
      if reading = .escaped ∧ c = '\\' then Encloses reading mark rest
      else Encloses reading mark (d :: rest)

theorem splitLiteral_eq_some_iff {reading : Reading} {mark : Char} {s body after : Text} :
    splitLiteral reading mark s = some (body, after) ↔
      Encloses reading mark body ∧ s = body ++ mark :: after := by
  constructor
  · intro split
    refine ⟨?_, splitLiteral_source split⟩
    fun_induction splitLiteral reading mark s generalizing body after with
    | case1 => simp at split
    | case2 => simp_all [Encloses]
    | case3 => simp at split
    | case4 => simp_all [Encloses]
    | case5 c d rest unmarked escape ih =>
      obtain ⟨⟨inner, _⟩, found, same⟩ := Option.map_eq_some_iff.1 split
      obtain ⟨rfl, rfl⟩ := Prod.mk.inj same
      exact ⟨unmarked, by rw [if_pos escape]; exact ih found⟩
    | case6 c d rest unmarked escape ih =>
      obtain ⟨⟨inner, _⟩, found, same⟩ := Option.map_eq_some_iff.1 split
      obtain ⟨rfl, rfl⟩ := Prod.mk.inj same
      cases inner with
      | nil => exact ⟨unmarked, escape⟩
      | cons e more => exact ⟨unmarked, by rw [if_neg escape]; exact ih found⟩
  · rintro ⟨encloses, rfl⟩
    fun_induction Encloses reading mark body with
    | case1 => cases after <;> simp [splitLiteral]
    | case2 c =>
      have once : splitLiteral reading mark (mark :: after) = some ([], after) := by
        cases after <;> simp [splitLiteral]
      simp [splitLiteral, encloses.1, encloses.2, once]
    | case3 c d rest skipped next =>
      obtain ⟨unmarked, inside⟩ := encloses
      by_cases escape : reading = .escaped ∧ c = '\\'
      · rw [if_pos escape] at inside
        simp only [List.cons_append, splitLiteral]
        rw [if_neg unmarked, if_pos escape, skipped inside]
        rfl
      · rw [if_neg escape] at inside
        simp only [List.cons_append, splitLiteral]
        rw [if_neg unmarked, if_neg escape, ← List.cons_append, next inside]
        rfl

theorem encloses_plain_iff {mark : Char} {body : Text} :
    Encloses .plain mark body ↔ mark ∉ body := by
  induction body with
  | nil => simp [Encloses]
  | cons c rest ih =>
    cases rest with
    | nil => simp [Encloses, eq_comm]
    | cons d more => simp [Encloses, ih, eq_comm]

theorem encloses_escape (value : Text) : Encloses .escaped '"' (escape value) := by
  have split := splitLiteral_escape value []
  exact (splitLiteral_eq_some_iff.1 split).1

inductive Piece.Reads (reading : Reading) : Piece → Prop
  | blank {c : Char} (blank : isBlank c) : Piece.Reads reading ⟨[c], none⟩
  | name {name : Text} (named : isName name) : Piece.Reads reading ⟨name, some (.name name)⟩
  | number {c : Char} {rest : Text} (digit : c.isDigit)
      (continues : ∀ d ∈ rest, continuesNumber d) :
      Piece.Reads reading ⟨c :: rest, some (.number (c :: rest))⟩
  | literal {quote : Quote} {body : Text} (encloses : Encloses reading quote.mark body) :
      Piece.Reads reading
        ⟨quote.mark :: body ++ [quote.mark], some (.literal (reading.value body) quote)⟩
  | pair {c d : Char} {sign : Comparison} (signs : Comparison.ofChars? c d = some sign) :
      Piece.Reads reading ⟨[c, d], some (.comparison sign)⟩
  | mark {c : Char} (unquoted : Quote.ofMark? c = none) (solid : isBlank c = false)
      (nameless : startsName c = false) (unnumbered : c.isDigit = false) :
      Piece.Reads reading ⟨[c], some (.ofChar c)⟩

-- Whether the character, standing right behind the lexeme, would belong to it.
def Lexeme.absorbs (lexeme : Lexeme) (c : Char) : Bool :=
  match lexeme with
  | .name _ => continuesName c
  | .number _ => continuesNumber c
  | .comparison .less | .comparison .greater => c = '='
  | .other d => d = '!' && c = '='
  | _ => false

def Piece.absorbs (piece : Piece) (c : Char) : Bool :=
  piece.lexeme.any fun lexeme => lexeme.absorbs c

def Piece.EndsBefore (piece : Piece) (after : Text) : Prop :=
  ∀ c ∈ after.head?, piece.absorbs c = false

theorem ofChar_ne (c : Char) :
    (∀ text, Lexeme.ofChar c ≠ .name text) ∧ (∀ text, Lexeme.ofChar c ≠ .number text) ∧
      ∀ value quote, Lexeme.ofChar c ≠ .literal value quote := by
  unfold Lexeme.ofChar
  split <;> simp

theorem absorbs_ofChar (c d : Char) :
    (Lexeme.ofChar c).absorbs d = (Comparison.ofChars? c d).isSome := by
  unfold Lexeme.ofChar Comparison.ofChars?
  split <;> split <;> simp_all [Lexeme.absorbs]

theorem Piece.EndsBefore.of_append {piece : Piece} {s t : Text} (ends : piece.EndsBefore (s ++ t)) :
    piece.EndsBefore s := by
  intro c first
  cases s with
  | nil => simp at first
  | cons d rest => exact ends c (by simpa using first)

theorem takeWhile_append_stop {p : Char → Bool} {s t : Text} (inside : ∀ c ∈ s, p c)
    (stop : ∀ c ∈ t.head?, p c = false) : (s ++ t).takeWhile p = s := by
  rw [List.takeWhile_append_of_pos inside]
  cases t with
  | nil => simp
  | cons c rest => simp [stop c rfl]

theorem dropWhile_append_stop {p : Char → Bool} {s t : Text} (inside : ∀ c ∈ s, p c)
    (stop : ∀ c ∈ t.head?, p c = false) : (s ++ t).dropWhile p = t := by
  rw [List.dropWhile_append_of_pos inside]
  cases t with
  | nil => rfl
  | cons c rest => simp [stop c rfl]

theorem Piece.Reads.source_ne_nil {reading : Reading} {piece : Piece}
    (reads : piece.Reads reading) : piece.source ≠ [] := by
  cases reads with
  | name named =>
    obtain ⟨c, rest, rfl, -⟩ := isName_iff.1 named
    simp
  | _ => simp

theorem Piece.Reads.byteLength_pos {reading : Reading} {piece : Piece}
    (reads : piece.Reads reading) : 0 < byteLength piece.source := by
  have solid : byteLength piece.source ≠ 0 := fun zero =>
    reads.source_ne_nil (byteLength_eq_zero_iff.1 zero)
  omega

theorem reads_name_iff {reading : Reading} {source text : Text} :
    Piece.Reads reading ⟨source, some (.name text)⟩ ↔ source = text ∧ isName text := by
  constructor
  · intro reads
    generalize found : some (Lexeme.name text) = lexeme at reads
    cases reads with
    | name named =>
      obtain rfl := Lexeme.name.inj (Option.some.inj found)
      exact ⟨rfl, named⟩
    | @mark c => exact absurd (Option.some.inj found).symm ((ofChar_ne c).1 _)
    | _ => simp at found
  · rintro ⟨rfl, named⟩
    exact .name named

theorem reads_number_iff {reading : Reading} {source text : Text} :
    Piece.Reads reading ⟨source, some (.number text)⟩ ↔
      ∃ c rest, source = text ∧ text = c :: rest ∧ c.isDigit ∧ ∀ d ∈ rest, continuesNumber d := by
  constructor
  · intro reads
    generalize found : some (Lexeme.number text) = lexeme at reads
    cases reads with
    | number digit continues =>
      obtain rfl := Lexeme.number.inj (Option.some.inj found)
      exact ⟨_, _, rfl, rfl, digit, continues⟩
    | @mark c => exact absurd (Option.some.inj found).symm ((ofChar_ne c).2.1 _)
    | _ => simp at found
  · rintro ⟨c, rest, rfl, rfl, digit, continues⟩
    exact .number digit continues

theorem reads_literal_iff {reading : Reading} {source value : Text} {quote : Quote} :
    Piece.Reads reading ⟨source, some (.literal value quote)⟩ ↔
      ∃ body, source = quote.mark :: body ++ [quote.mark] ∧ Encloses reading quote.mark body ∧
        reading.value body = value := by
  constructor
  · intro reads
    generalize found : some (Lexeme.literal value quote) = lexeme at reads
    cases reads with
    | literal encloses =>
      obtain ⟨rfl, rfl⟩ := Lexeme.literal.inj (Option.some.inj found)
      exact ⟨_, rfl, encloses, rfl⟩
    | @mark c => exact absurd (Option.some.inj found).symm ((ofChar_ne c).2.2 _ _)
    | _ => simp at found
  · rintro ⟨body, rfl, encloses, rfl⟩
    exact .literal encloses

section

variable {reading : Reading} {c : Char} (rest : Text)

theorem readPiece_blank (blank : isBlank c) :
    readPiece reading c rest = some (⟨[c], none⟩, rest) := by
  simp [readPiece, unquoted_of_isBlank blank, blank]

theorem readPiece_name (starts : startsName c) :
    readPiece reading c rest = some (readWord continuesName .name c rest) := by
  have unquoted := ofMark?_of_continuesName (continuesName_of_startsName starts)
  simp [readPiece, unquoted, isBlank_of_startsName starts, starts]

theorem readPiece_number (digit : c.isDigit) :
    readPiece reading c rest = some (readWord continuesNumber .number c rest) := by
  simp [readPiece, unquoted_of_isDigit digit, isBlank_of_isDigit digit,
    startsName_of_isDigit digit, digit]

theorem readPiece_mark (unquoted : Quote.ofMark? c = none) (solid : isBlank c = false)
    (nameless : startsName c = false) (unnumbered : c.isDigit = false) :
    readPiece reading c rest = some (readMark c rest) := by
  simp [readPiece, unquoted, solid, nameless, unnumbered]

theorem readPiece_quote (quote : Quote) :
    readPiece reading quote.mark rest =
      (splitLiteral reading quote.mark rest).map fun (body, after) =>
        (⟨quote.mark :: body ++ [quote.mark], some (.literal (reading.value body) quote)⟩,
          after) := by
  have quoted : Quote.ofMark? quote.mark = some quote := Quote.ofMark?_eq_some_iff.2 rfl
  simp [readPiece, quoted]

end

theorem readWord_eq {continues : Char → Bool} {lexeme : Text → Lexeme} {c : Char}
    {word after : Text} (inside : ∀ d ∈ word, continues d)
    (stop : ∀ d ∈ after.head?, continues d = false) :
    readWord continues lexeme c (word ++ after) =
      (⟨c :: word, some (lexeme (c :: word))⟩, after) := by
  simp [readWord, takeWhile_append_stop inside stop, dropWhile_append_stop inside stop]

theorem readMark_pair {c d : Char} {sign : Comparison} (signs : Comparison.ofChars? c d = some sign)
    (after : Text) :
    readMark c (d :: after) = (⟨[c, d], some (.comparison sign)⟩, after) := by
  simp [readMark, signs]

theorem readMark_single {c : Char} {rest : Text}
    (single : ∀ d ∈ rest.head?, Comparison.ofChars? c d = none) :
    readMark c rest = (⟨[c], some (.ofChar c)⟩, rest) := by
  cases rest with
  | nil => rfl
  | cons d after => simp [readMark, single d rfl]

theorem pair_isMark {c d : Char} {sign : Comparison} (signs : Comparison.ofChars? c d = some sign) :
    Quote.ofMark? c = none ∧ isBlank c = false ∧ startsName c = false ∧ c.isDigit = false := by
  have marks : c = '!' ∨ c = '<' ∨ c = '>' := by
    unfold Comparison.ofChars? at signs
    split at signs <;> simp_all
  rcases marks with rfl | rfl | rfl <;> decide

theorem readMark_reads (reading : Reading) {c : Char} (rest : Text)
    (unquoted : Quote.ofMark? c = none) (solid : isBlank c = false)
    (nameless : startsName c = false) (unnumbered : c.isDigit = false) :
    (readMark c rest).1.Reads reading ∧ (readMark c rest).1.EndsBefore (readMark c rest).2 := by
  have single : Piece.Reads reading ⟨[c], some (.ofChar c)⟩ :=
    .mark unquoted solid nameless unnumbered
  cases rest with
  | nil => exact ⟨single, by simp [readMark, Piece.EndsBefore]⟩
  | cons d after =>
    cases signs : Comparison.ofChars? c d with
    | some sign =>
      rw [readMark_pair signs]
      refine ⟨.pair signs, fun e _ => ?_⟩
      unfold Comparison.ofChars? at signs
      split at signs <;> simp_all [Piece.absorbs, Lexeme.absorbs]
      all_goals subst signs; rfl
    | none =>
      rw [readMark_single (by simpa using signs)]
      refine ⟨single, fun e first => ?_⟩
      obtain rfl : d = e := by simpa using first
      simp [Piece.absorbs, absorbs_ofChar, signs]

theorem reads_of_readPiece {reading : Reading} {c : Char} {rest after : Text} {piece : Piece}
    (read : readPiece reading c rest = some (piece, after)) :
    piece.Reads reading ∧ piece.EndsBefore after := by
  have word {continues : Char → Bool} {lexeme : Text → Lexeme}
      (same : readWord continues lexeme c rest = (piece, after)) :
      piece = ⟨c :: rest.takeWhile continues, some (lexeme (c :: rest.takeWhile continues))⟩ ∧
        ∀ d ∈ after.head?, continues d = false := by
    simp only [readWord, Prod.mk.injEq] at same
    obtain ⟨rfl, rfl⟩ := same
    exact ⟨rfl, fun d first => head?_dropWhile first⟩
  cases quoted : Quote.ofMark? c with
  | some quote =>
    obtain rfl := Quote.ofMark?_eq_some_iff.1 quoted
    rw [readPiece_quote] at read
    obtain ⟨⟨body, _⟩, split, same⟩ := Option.map_eq_some_iff.1 read
    obtain ⟨rfl, rfl⟩ := Prod.mk.inj same
    exact ⟨.literal (splitLiteral_eq_some_iff.1 split).1, by simp [Piece.EndsBefore, Piece.absorbs,
      Lexeme.absorbs]⟩
  | none =>
    by_cases blank : isBlank c
    · rw [readPiece_blank rest blank] at read
      obtain ⟨rfl, rfl⟩ := Prod.mk.inj (Option.some.inj read)
      exact ⟨.blank blank, by simp [Piece.EndsBefore, Piece.absorbs]⟩
    by_cases starts : startsName c
    · rw [readPiece_name rest starts] at read
      obtain ⟨rfl, stop⟩ := word (Option.some.inj read)
      have named : isName (c :: rest.takeWhile continuesName) :=
        isName_iff.2 ⟨c, _, rfl, starts, fun d inside => List.mem_takeWhile_imp inside⟩
      refine ⟨.name named, fun d first => ?_⟩
      simpa [Piece.absorbs, Lexeme.absorbs] using stop d first
    by_cases digit : c.isDigit
    · rw [readPiece_number rest digit] at read
      obtain ⟨rfl, stop⟩ := word (Option.some.inj read)
      refine ⟨.number digit fun d inside => List.mem_takeWhile_imp inside, fun d first => ?_⟩
      simpa [Piece.absorbs, Lexeme.absorbs] using stop d first
    · simp only [Bool.not_eq_true] at blank starts digit
      rw [readPiece_mark rest quoted blank starts digit] at read
      have marks := readMark_reads reading rest quoted blank starts digit
      rwa [Option.some.inj read] at marks

theorem readPiece_eq_some_iff {reading : Reading} {c : Char} {rest after : Text} {piece : Piece} :
    readPiece reading c rest = some (piece, after) ↔
      piece.Reads reading ∧ piece.EndsBefore after ∧ piece.source ++ after = c :: rest := by
  constructor
  · intro read
    obtain ⟨reads, ends⟩ := reads_of_readPiece read
    exact ⟨reads, ends, readPiece_source read⟩
  · rintro ⟨reads, ends, source⟩
    cases reads with
    | blank blank =>
      obtain ⟨rfl, rfl⟩ := List.cons.inj source
      exact readPiece_blank _ blank
    | name named =>
      obtain ⟨d, word, rfl, starts, continues⟩ := isName_iff.1 named
      simp only [List.cons_append, List.cons.injEq] at source
      obtain ⟨rfl, rfl⟩ := source
      rw [readPiece_name _ starts, readWord_eq continues]
      intro e first
      simpa [Piece.absorbs, Lexeme.absorbs] using ends e first
    | number digit continues =>
      simp only [List.cons_append, List.cons.injEq] at source
      obtain ⟨rfl, rfl⟩ := source
      rw [readPiece_number _ digit, readWord_eq continues]
      intro e first
      simpa [Piece.absorbs, Lexeme.absorbs] using ends e first
    | literal encloses =>
      simp only [List.cons_append, List.append_assoc, List.cons.injEq] at source
      obtain ⟨rfl, rfl⟩ := source
      rw [readPiece_quote, splitLiteral_eq_some_iff.2 ⟨encloses, rfl⟩]
      rfl
    | pair signs =>
      simp only [List.cons_append, List.nil_append, List.cons.injEq] at source
      obtain ⟨rfl, rfl⟩ := source
      obtain ⟨unquoted, solid, nameless, unnumbered⟩ := pair_isMark signs
      rw [readPiece_mark _ unquoted solid nameless unnumbered, readMark_pair signs]
    | mark unquoted solid nameless unnumbered =>
      simp only [List.cons_append, List.nil_append, List.cons.injEq] at source
      obtain ⟨rfl, rfl⟩ := source
      rw [readPiece_mark _ unquoted solid nameless unnumbered, readMark_single]
      intro d first
      simpa [Piece.absorbs, absorbs_ofChar] using ends d first

def Scanned (reading : Reading) : List Piece → Text → Prop
  | [], _ => True
  | piece :: rest, after =>
    piece.Reads reading ∧ piece.EndsBefore (joined rest ++ after) ∧ Scanned reading rest after

@[simp] theorem joined_nil : joined [] = [] := rfl

@[simp] theorem joined_cons (piece : Piece) (rest : List Piece) :
    joined (piece :: rest) = piece.source ++ joined rest := rfl

@[simp] theorem joined_append (ps qs : List Piece) :
    joined (ps ++ qs) = joined ps ++ joined qs := by
  simp [joined]

def Separated : List Piece → Text → Prop
  | [], _ => True
  | piece :: rest, after => piece.EndsBefore (joined rest ++ after) ∧ Separated rest after

theorem separated_append {ps qs : List Piece} {after : Text} :
    Separated (ps ++ qs) after ↔ Separated ps (joined qs ++ after) ∧ Separated qs after := by
  induction ps with
  | nil => simp [Separated]
  | cons p rest ih => simp [Separated, ih, and_assoc]

theorem Separated.congr {pieces : List Piece} {s t : Text} (same : s.head? = t.head?)
    (separated : Separated pieces s) : Separated pieces t := by
  induction pieces with
  | nil => trivial
  | cons p rest ih =>
    obtain ⟨ends, separated⟩ := separated
    refine ⟨?_, ih separated⟩
    simpa [Piece.EndsBefore, List.head?_append, same] using ends

theorem scanned_iff {reading : Reading} {pieces : List Piece} {after : Text} :
    Scanned reading pieces after ↔
      (∀ piece ∈ pieces, piece.Reads reading) ∧ Separated pieces after := by
  induction pieces with
  | nil => simp [Scanned, Separated]
  | cons p rest ih =>
    rw [Scanned, Separated, ih, List.forall_mem_cons]
    tauto

theorem scanned_append {reading : Reading} {ps qs : List Piece} {after : Text} :
    Scanned reading (ps ++ qs) after ↔
      Scanned reading ps (joined qs ++ after) ∧ Scanned reading qs after := by
  induction ps with
  | nil => simp [Scanned]
  | cons p rest ih => simp [Scanned, ih, and_assoc]

theorem Scanned.of_append {reading : Reading} {ps : List Piece} {s t : Text}
    (scanned : Scanned reading ps (s ++ t)) : Scanned reading ps s := by
  induction ps with
  | nil => trivial
  | cons p rest ih =>
    obtain ⟨reads, ends, scanned⟩ := scanned
    refine ⟨reads, ?_, ih scanned⟩
    rw [← List.append_assoc] at ends
    exact ends.of_append

theorem Scanned.left {reading : Reading} {ps qs : List Piece} {after : Text}
    (scanned : Scanned reading (ps ++ qs) after) : Scanned reading ps [] :=
  Scanned.of_append (s := []) (scanned_append.1 scanned).1

theorem scan_cons {reading : Reading} {piece : Piece} (reads : piece.Reads reading) {after : Text}
    (ends : piece.EndsBefore after) :
    scan reading (piece.source ++ after) =
      (piece :: (scan reading after).1, (scan reading after).2) := by
  obtain ⟨c, rest, source⟩ := List.exists_cons_of_ne_nil reads.source_ne_nil
  have read : readPiece reading c (rest ++ after) = some (piece, after) :=
    readPiece_eq_some_iff.2 ⟨reads, ends, by simp [source]⟩
  rw [source, List.cons_append, scan]
  split
  next failed => simp [read] at failed
  next found =>
    obtain ⟨rfl, rfl⟩ := Prod.mk.inj (Option.some.inj (read.symm.trans found))
    rfl

theorem scanned_scan (reading : Reading) (s : Text) :
    Scanned reading (scan reading s).1 (scan reading s).2 := by
  fun_induction scan reading s with
  | case1 => trivial
  | case2 => trivial
  | case3 c rest piece after read _ pieces remainder scanned ih =>
    obtain ⟨reads, ends, -⟩ := readPiece_eq_some_iff.1 read
    have source := scan_source reading after
    simp only [scanned] at ih source
    exact ⟨reads, by rwa [source], ih⟩

theorem scan_joined {reading : Reading} {pieces : List Piece} {after : Text}
    (scanned : Scanned reading pieces after) :
    scan reading (joined pieces ++ after) =
      (pieces ++ (scan reading after).1, (scan reading after).2) := by
  induction pieces with
  | nil => simp
  | cons piece rest ih =>
    obtain ⟨reads, ends, scanned⟩ := scanned
    rw [joined_cons, List.append_assoc, scan_cons reads ends, ih scanned]
    rfl

theorem scan_eq_iff {reading : Reading} {s : Text} {pieces : List Piece} :
    scan reading s = (pieces, []) ↔ joined pieces = s ∧ Scanned reading pieces [] := by
  constructor
  · intro found
    have source := scan_source reading s
    have scanned := scanned_scan reading s
    rw [found] at source scanned
    exact ⟨by simpa using source, scanned⟩
  · rintro ⟨rfl, scanned⟩
    have found := scan_joined scanned
    simpa [scan] using found

theorem Scanned.unique {reading : Reading} {ps qs : List Piece} (left : Scanned reading ps [])
    (right : Scanned reading qs []) (same : joined ps = joined qs) : ps = qs := by
  have found := scan_eq_iff.2 ⟨same, left⟩
  rw [scan_eq_iff.2 ⟨rfl, right⟩] at found
  exact (Prod.mk.inj found).1.symm

end Prejoin
