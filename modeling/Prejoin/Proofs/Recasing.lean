import Prejoin.Proofs.LetterCase
import Prejoin.Proofs.Parts

set_option autoImplicit false

namespace Prejoin

theorem toLower_eq_iff {c mark : Char} (plain : mark.isAlpha = false) :
    c.toLower = mark ↔ c = mark := by
  constructor
  · intro same
    rw [← toLower_of_not_isAlpha plain] at same
    exact (eq_of_toLower_eq plain same.symm).symm
  · rintro rfl
    exact toLower_of_not_isAlpha plain

@[simp] theorem byteLength_foldCase (s : Text) : byteLength (foldCase s) = byteLength s := by
  induction s with
  | nil => rfl
  | cons c rest ih =>
    have tail : byteLength (rest.map Char.toLower) = byteLength rest := ih
    simp [foldCase, utf8Size_toLower, tail]

theorem byteLength_of_foldCase {s t : Text} (same : foldCase s = foldCase t) :
    byteLength s = byteLength t := by
  rw [← byteLength_foldCase s, same, byteLength_foldCase]

theorem isName_foldCase (name : Text) : isName (foldCase name) = isName name := by
  cases name with
  | nil => rfl
  | cons c rest =>
    simp [foldCase, isName, startsName_toLower, List.all_map, Function.comp_def,
      continuesName_toLower]

theorem isAlpha_mark (quote : Quote) : quote.mark.isAlpha = false := by
  cases quote <;> decide

theorem encloses_foldCase (reading : Reading) (quote : Quote) (body : Text) :
    Encloses reading quote.mark (foldCase body) ↔ Encloses reading quote.mark body := by
  have mark (c : Char) : c.toLower = quote.mark ↔ c = quote.mark :=
    toLower_eq_iff (isAlpha_mark quote)
  have backslash (c : Char) : c.toLower = '\\' ↔ c = '\\' := toLower_eq_iff (by decide)
  fun_induction Encloses reading quote.mark body with
  | case1 => rfl
  | case2 c => simp [foldCase, Encloses, mark, backslash]
  | case3 c d rest skipped next =>
    simp only [foldCase, List.map_cons, Encloses] at skipped next ⊢
    simp only [ne_eq, mark, backslash, skipped, next]

inductive Lexeme.Alike : Lexeme → Lexeme → Prop
  | same (lexeme : Lexeme) : Lexeme.Alike lexeme lexeme
  | name {word word' : Text} (same : foldCase word = foldCase word') :
      Lexeme.Alike (.name word) (.name word')
  | number (word word' : Text) : Lexeme.Alike (.number word) (.number word')
  | literal (value value' : Text) (quote : Quote) :
      Lexeme.Alike (.literal value quote) (.literal value' quote)

structure Piece.Alike (p q : Piece) : Prop where
  source : foldCase p.source = foldCase q.source
  lexeme : Option.Rel Lexeme.Alike p.lexeme q.lexeme

theorem Lexeme.absorbs_toLower (lexeme : Lexeme) (c : Char) :
    lexeme.absorbs c.toLower = lexeme.absorbs c := by
  have equal : decide (c.toLower = '=') = decide (c = '=') :=
    decide_eq_decide.2 (toLower_eq_iff (by decide))
  cases lexeme with
  | name word => exact continuesName_toLower c
  | number word => exact continuesNumber_toLower c
  | comparison sign => cases sign <;> first | exact equal | rfl
  | other d => simp [Lexeme.absorbs, equal]
  | _ => rfl

theorem Lexeme.Alike.absorbs {l m : Lexeme} (alike : l.Alike m) {c d : Char}
    (same : c.toLower = d.toLower) : l.absorbs c = m.absorbs d := by
  have equal : l.absorbs c = l.absorbs d := by
    rw [← l.absorbs_toLower c, same, l.absorbs_toLower]
  cases alike <;> exact equal

theorem Piece.Alike.absorbs {p q : Piece} (alike : p.Alike q) {c d : Char}
    (same : c.toLower = d.toLower) : p.absorbs c = q.absorbs d := by
  obtain ⟨_, _⟩ := p
  obtain ⟨_, _⟩ := q
  cases alike.lexeme with
  | none => rfl
  | some lexeme => exact lexeme.absorbs same

theorem Piece.Alike.endsBefore {p q : Piece} (alike : p.Alike q) {s t : Text}
    (same : foldCase s = foldCase t) (ends : p.EndsBefore s) : q.EndsBefore t := by
  intro d first
  have heads : s.head?.map Char.toLower = t.head?.map Char.toLower := by
    rw [← List.head?_map, ← List.head?_map]
    exact congrArg List.head? same
  rw [Option.mem_def.1 first] at heads
  obtain ⟨c, start, lower⟩ := Option.map_eq_some_iff.1 heads
  rw [← alike.absorbs lower]
  exact ends c start

theorem foldCase_joined {ps qs : List Piece} (alike : List.Forall₂ Piece.Alike ps qs) :
    foldCase (joined ps) = foldCase (joined qs) := by
  induction alike with
  | nil => rfl
  | cons first rest ih =>
    rw [joined_cons, joined_cons, foldCase_append, foldCase_append, first.source, ih]

theorem Separated.alike {ps qs : List Piece} (alike : List.Forall₂ Piece.Alike ps qs) {s t : Text}
    (same : foldCase s = foldCase t) (separated : Separated ps s) : Separated qs t := by
  induction alike with
  | nil => trivial
  | cons first rest ih =>
    obtain ⟨ends, separated⟩ := separated
    refine ⟨first.endsBefore ?_ ends, ih separated⟩
    rw [foldCase_append, foldCase_append, foldCase_joined rest, same]

theorem Scanned.alike {reading : Reading} {ps qs : List Piece}
    (alike : List.Forall₂ Piece.Alike ps qs) (reads : ∀ q ∈ qs, q.Reads reading)
    (scanned : Scanned reading ps []) : Scanned reading qs [] :=
  scanned_iff.2 ⟨reads, (scanned_iff.1 scanned).2.alike alike rfl⟩

theorem holds_first {first last n : Nat} (low : first ≤ n) (high : n ≤ last) (later : Ranges) :
    Ranges.holds ((first, last) :: later) n := by
  rw [Ranges.holds, if_neg (Nat.not_lt.2 low)]
  simp [high]

theorem holds_later {first last n : Nat} {later : Ranges} (low : first ≤ n)
    (holds : later.holds n) : Ranges.holds ((first, last) :: later) n := by
  rw [Ranges.holds, if_neg (Nat.not_lt.2 low)]
  simp [holds]

theorem startsName_of_isAlpha {c : Char} (alpha : c.isAlpha) : startsName c := by
  have bounds := (Bool.or_eq_true_iff.1 alpha).imp isUpper_bounds isLower_bounds
  have letter : isLetter c := by
    unfold isLetter letters
    rcases bounds with upper | lower
    · exact holds_first upper.1 upper.2 _
    · exact holds_later (by omega) (holds_first lower.1 lower.2 _)
  simp [startsName, letter]

theorem isAlpha_of_startsName {c : Char} (nameless : startsName c = false) :
    c.isAlpha = false := by
  by_contra alpha
  rw [startsName_of_isAlpha (by simpa using alpha)] at nameless
  cases nameless

theorem isAlpha_of_ofChars? {c d : Char} {sign : Comparison}
    (signs : Comparison.ofChars? c d = some sign) : c.isAlpha = false ∧ d.isAlpha = false := by
  refine ⟨isAlpha_of_startsName (pair_isMark signs).2.2.1, ?_⟩
  unfold Comparison.ofChars? at signs
  split at signs
  case h_4 => cases signs
  all_goals decide

theorem eq_of_foldCase_cons {c : Char} {rest s : Text} (plain : c.isAlpha = false)
    (same : foldCase (c :: rest) = foldCase s) :
    ∃ rest', s = c :: rest' ∧ foldCase rest = foldCase rest' := by
  obtain ⟨d, rest', rfl, first, later⟩ := List.map_eq_cons_iff.1 same.symm
  exact ⟨rest', by rw [eq_of_toLower_eq plain first.symm], later.symm⟩

theorem foldCase_eq_nil_iff {s : Text} : foldCase [] = foldCase s ↔ s = [] := by
  simp [foldCase, eq_comm]

theorem Piece.Reads.exists_alike {reading : Reading} {p : Piece} (reads : p.Reads reading)
    {s : Text} (same : foldCase p.source = foldCase s) :
    ∃ q : Piece, q.source = s ∧ q.Reads reading ∧ p.Alike q := by
  cases reads with
  | @blank c blank =>
    have plain : c.isAlpha = false := by
      apply isAlpha_of_startsName
      by_contra starts
      rw [isBlank_of_startsName (by simpa using starts)] at blank
      cases blank
    obtain ⟨_, rfl, none⟩ := eq_of_foldCase_cons plain same
    obtain rfl := foldCase_eq_nil_iff.1 none
    exact ⟨_, rfl, .blank blank, rfl, .none⟩
  | @name name named =>
    have named' : isName s := by rw [← isName_foldCase, ← same, isName_foldCase, named]
    exact ⟨⟨s, some (.name s)⟩, rfl, .name named', same, .some (.name same)⟩
  | @number c rest digit continues =>
    obtain ⟨d, rest', rfl, first, later⟩ := List.map_eq_cons_iff.1 same.symm
    have digit' : d.isDigit := by rw [← isDigit_toLower, first, isDigit_toLower, digit]
    have continues' (e : Char) (inside : e ∈ rest') : continuesNumber e := by
      have lower := List.mem_map_of_mem (f := Char.toLower) inside
      rw [later] at lower
      obtain ⟨e', inside', equal⟩ := List.mem_map.1 lower
      rw [← continuesNumber_toLower, ← equal, continuesNumber_toLower, continues e' inside']
    exact ⟨_, rfl, .number digit' continues', same, .some (.number _ _)⟩
  | @literal quote body encloses =>
    obtain ⟨tail, rfl, later⟩ := eq_of_foldCase_cons (isAlpha_mark quote) same
    have split : foldCase tail = foldCase body ++ foldCase [quote.mark] := by
      rw [← foldCase_append]
      exact later.symm
    obtain ⟨body', last, rfl, inner, close⟩ := List.map_eq_append_iff.1 split
    obtain ⟨_, rfl, none⟩ := eq_of_foldCase_cons (isAlpha_mark quote) close.symm
    obtain rfl := foldCase_eq_nil_iff.1 none
    have equal : foldCase body' = foldCase body := inner
    have encloses' : Encloses reading quote.mark body' := by
      rw [← encloses_foldCase, equal, encloses_foldCase]
      exact encloses
    exact ⟨_, rfl, .literal encloses', same, .some (.literal _ _ quote)⟩
  | @pair c d sign signs =>
    obtain ⟨plain, plain'⟩ := isAlpha_of_ofChars? signs
    obtain ⟨_, rfl, tail⟩ := eq_of_foldCase_cons plain same
    obtain ⟨_, rfl, none⟩ := eq_of_foldCase_cons plain' tail
    obtain rfl := foldCase_eq_nil_iff.1 none
    exact ⟨_, rfl, .pair signs, rfl, .some (.same _)⟩
  | @mark c unquoted solid nameless unnumbered =>
    obtain ⟨_, rfl, none⟩ := eq_of_foldCase_cons (isAlpha_of_startsName nameless) same
    obtain rfl := foldCase_eq_nil_iff.1 none
    exact ⟨_, rfl, .mark unquoted solid nameless unnumbered, rfl, .some (.same _)⟩

theorem exists_pieces_alike {reading : Reading} {ps : List Piece}
    (reads : ∀ p ∈ ps, p.Reads reading) {s : Text} (same : foldCase (joined ps) = foldCase s) :
    ∃ qs, joined qs = s ∧ (∀ q ∈ qs, q.Reads reading) ∧ List.Forall₂ Piece.Alike ps qs := by
  induction ps generalizing s with
  | nil => exact ⟨[], (foldCase_eq_nil_iff.1 same).symm, by simp, .nil⟩
  | cons p rest ih =>
    obtain ⟨first, later⟩ := List.forall_mem_cons.1 reads
    rw [joined_cons, foldCase_append] at same
    obtain ⟨start, tail, rfl, head, others⟩ := List.map_eq_append_iff.1 same.symm
    obtain ⟨q, rfl, own, alike⟩ := first.exists_alike head.symm
    obtain ⟨qs, rfl, ours, alikes⟩ := ih later others.symm
    exact ⟨q :: qs, rfl, List.forall_mem_cons.2 ⟨own, ours⟩, .cons alike alikes⟩

theorem exists_tokens_of_foldCase {reading : Reading} {s t : Text} {tokens : List Token}
    (same : foldCase s = foldCase t) (read : tokenizeAs reading s = .ok tokens) :
    ∃ tokens', tokenizeAs reading t = .ok tokens' := by
  obtain ⟨pieces, rfl, scanned, -⟩ := tokenizeAs_eq_ok_iff.1 read
  obtain ⟨pieces', rfl, reads, alike⟩ := exists_pieces_alike (scanned_iff.1 scanned).1 same
  exact ⟨_, tokenizeAs_eq_ok_iff.2 ⟨pieces', rfl, scanned.alike alike reads, rfl⟩⟩

end Prejoin
