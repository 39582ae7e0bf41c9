import Prejoin.Proofs.Parts

set_option autoImplicit false

namespace Prejoin

theorem length_unescape_le (body : Text) : (unescape body).length ≤ body.length := by
  fun_induction unescape body with
  | case1 => exact Nat.le_refl _
  | case2 => exact Nat.le_refl _
  | case3 d rest ih =>
    simp only [List.length_cons]
    omega
  | case4 c d rest plain ih =>
    simp only [List.length_cons] at ih ⊢
    omega

theorem unescape_eq_self_iff {mark : Char} {body : Text} (encloses : Encloses .escaped mark body) :
    unescape body = body ↔ '\\' ∉ body := by
  fun_induction unescape body with
  | case1 => simp
  | case2 c =>
    have plain : '\\' ≠ c := fun same => encloses.2 ⟨rfl, same.symm⟩
    simpa using plain
  | case3 d rest ih =>
    have shorter := length_unescape_le rest
    have longer : d :: unescape rest ≠ '\\' :: d :: rest := by
      intro same
      have length := congrArg List.length same
      simp only [List.length_cons] at length
      omega
    simp [longer]
  | case4 c d rest plain ih =>
    obtain ⟨-, inside⟩ := encloses
    rw [if_neg (by simp [plain])] at inside
    simp [ih inside, Ne.symm plain]

theorem mark_not_mem {mark : Char} {body : Text} (encloses : Encloses .escaped mark body)
    (absent : mark ∉ unescape body) : mark ∉ body := by
  fun_induction unescape body with
  | case1 => exact absent
  | case2 => exact absent
  | case3 d rest ih =>
    obtain ⟨unmarked, inside⟩ := encloses
    rw [if_pos ⟨rfl, rfl⟩] at inside
    simp only [List.mem_cons, not_or] at absent ⊢
    exact ⟨Ne.symm unmarked, absent.1, ih inside absent.2⟩
  | case4 c d rest plain ih =>
    obtain ⟨unmarked, inside⟩ := encloses
    rw [if_neg (by simp [plain])] at inside
    rw [List.mem_cons, not_or] at absent ⊢
    exact ⟨absent.1, ih inside absent.2⟩

theorem encloses_escaped_iff {mark : Char} {body : Text} (plain : '\\' ∉ body) :
    Encloses .escaped mark body ↔ Encloses .plain mark body := by
  induction body with
  | nil => rfl
  | cons c rest ih =>
    simp only [List.mem_cons, not_or] at plain
    have single : c ≠ '\\' := Ne.symm plain.1
    cases rest with
    | nil => simp [Encloses, single]
    | cons d more => simp [Encloses, single, ih plain.2]

theorem body_eq {reading reading' : Reading} {mark : Char} {body body' s t : Text}
    (left : Encloses reading mark body) (right : Encloses reading' mark body')
    (value : reading.value body = reading'.value body')
    (source : body ++ mark :: s = body' ++ mark :: t) : body = body' := by
  have alike {reading : Reading} {b b' u v : Text} (left : Encloses reading mark b)
      (right : Encloses reading mark b') (source : b ++ mark :: u = b' ++ mark :: v) : b = b' := by
    have split : splitLiteral reading mark (b ++ mark :: u) = some (b, u) :=
      splitLiteral_eq_some_iff.2 ⟨left, rfl⟩
    rw [splitLiteral_eq_some_iff.2 ⟨right, source⟩] at split
    exact (Prod.mk.inj (Option.some.inj split)).1.symm
  -- A value without the mark comes from a body without it, in either reading.
  have across {b b' u v : Text} (escaped : Encloses .escaped mark b)
      (plain : Encloses .plain mark b') (value : unescape b = b')
      (source : b ++ mark :: u = b' ++ mark :: v) : b = b' := by
    have absent : mark ∉ b := by
      apply mark_not_mem escaped
      rw [value]
      exact encloses_plain_iff.1 plain
    exact alike (encloses_plain_iff.2 absent) plain source
  cases reading <;> cases reading'
  · exact alike left right source
  · exact across left right value source
  · exact (across right left value.symm source.symm).symm
  · exact alike left right source

theorem reads_escaped_iff {piece : Piece} (reads : piece.Reads .plain) :
    piece.Reads .escaped ↔
      ∀ value quote, piece.lexeme = some (.literal value quote) → '\\' ∉ value := by
  cases reads with
  | blank blank => exact iff_of_true (.blank blank) (by simp)
  | name named => exact iff_of_true (.name named) (by simp)
  | number digit continues => exact iff_of_true (.number digit continues) (by simp)
  | pair signs => exact iff_of_true (.pair signs) (by simp)
  | @mark c unquoted solid nameless unnumbered =>
    refine iff_of_true (.mark unquoted solid nameless unnumbered) fun value quote same => ?_
    exact absurd (Option.some.inj same) ((ofChar_ne c).2.2 _ _)
  | @literal quote body encloses =>
    simp only [Option.some.injEq, Lexeme.literal.injEq, and_imp]
    constructor
    · rintro reads value _ rfl rfl
      obtain ⟨body', source, escaped, value⟩ := reads_literal_iff.1 reads
      obtain rfl : body = body' := by simpa using source
      exact (unescape_eq_self_iff escaped).1 value
    · intro plain
      have absent := plain body quote rfl rfl
      have escaped := (encloses_escaped_iff absent).2 encloses
      exact reads_literal_iff.2 ⟨body, rfl, escaped, (unescape_eq_self_iff escaped).2 absent⟩

def Comparison.symbol : Comparison → Text
  | .equal => ['=']
  | .unequal => ['!', '=']
  | .less => ['<']
  | .atMost => ['<', '=']
  | .greater => ['>']
  | .atLeast => ['>', '=']

def Lexeme.written? : Lexeme → Option Text
  | .name text | .number text => some text
  | .literal _ _ => none
  | .comparison sign => some sign.symbol
  | .dot => some ['.']
  | .comma => some [',']
  | .opening => some ['(']
  | .closing => some [')']
  | .other c => some [c]

theorem written?_ofChar (c : Char) : (Lexeme.ofChar c).written? = some [c] := by
  unfold Lexeme.ofChar
  split <;> rfl

theorem source_eq_of_reads {reading : Reading} {piece : Piece} {lexeme : Lexeme}
    (reads : piece.Reads reading) (found : piece.lexeme = some lexeme) :
    lexeme.written? = some piece.source ∨ ∃ value quote, lexeme = .literal value quote := by
  cases reads with
  | blank blank => cases found
  | name named =>
    cases found
    exact .inl rfl
  | number digit continues =>
    cases found
    exact .inl rfl
  | literal encloses =>
    cases found
    exact .inr ⟨_, _, rfl⟩
  | pair signs =>
    cases found
    unfold Comparison.ofChars? at signs
    split at signs <;> simp_all [Lexeme.written?, Comparison.symbol]
    all_goals subst signs; rfl
  | mark unquoted solid nameless unnumbered =>
    cases found
    exact .inl (written?_ofChar _)

theorem lexeme_eq_none_iff {reading : Reading} {piece : Piece} (reads : piece.Reads reading)
    {c : Char} {rest : Text} (source : piece.source = c :: rest) :
    piece.lexeme = none ↔ isBlank c := by
  cases reads with
  | blank blank =>
    obtain ⟨rfl, -⟩ := List.cons.inj source
    simpa using blank
  | name named =>
    obtain ⟨d, word, same, starts, -⟩ := isName_iff.1 named
    obtain ⟨rfl, -⟩ := List.cons.inj (same.symm.trans source)
    simp [isBlank_of_startsName starts]
  | number digit continues =>
    obtain ⟨rfl, -⟩ := List.cons.inj source
    simp [isBlank_of_isDigit digit]
  | @literal quote body encloses =>
    obtain ⟨rfl, -⟩ := List.cons.inj source
    cases quote <;> simp <;> decide
  | pair signs =>
    obtain ⟨rfl, -⟩ := List.cons.inj source
    simp [(pair_isMark signs).2.1]
  | mark unquoted solid nameless unnumbered =>
    obtain ⟨rfl, -⟩ := List.cons.inj source
    simp [solid]

theorem piece_eq {reading reading' : Reading} {piece other : Piece} {s t : Text}
    (left : piece.Reads reading) (right : other.Reads reading')
    (lexeme : piece.lexeme = other.lexeme) (source : piece.source ++ s = other.source ++ t) :
    piece = other := by
  obtain ⟨first, found⟩ := piece
  obtain ⟨second, _⟩ := other
  obtain rfl : found = _ := lexeme
  simp only at source
  suffices same : first = second by rw [same]
  cases found with
  | none =>
    cases left with
    | blank =>
      cases right with
      | blank => simpa using (List.cons.inj source).1
  | some lexeme =>
    rcases source_eq_of_reads left rfl with written | ⟨value, quote, rfl⟩
    · rcases source_eq_of_reads right rfl with written' | ⟨value, quote, rfl⟩
      · exact Option.some.inj (written.symm.trans written')
      · simp [Lexeme.written?] at written
    · obtain ⟨body, rfl, encloses, value_eq⟩ := reads_literal_iff.1 left
      obtain ⟨body', rfl, encloses', value_eq'⟩ := reads_literal_iff.1 right
      simp only [List.cons_append, List.append_assoc, List.cons.injEq, true_and] at source
      rw [body_eq encloses encloses' (value_eq.trans value_eq'.symm) source]

theorem pieces_eq {reading : Reading} {ps qs : List Piece} (left : Scanned reading ps [])
    (right : ∀ q ∈ qs, ∃ reading, q.Reads reading) (source : joined ps = joined qs)
    (tokens : lexemes ps = lexemes qs) : ps = qs := by
  induction qs generalizing ps with
  | nil =>
    cases ps with
    | nil => rfl
    | cons p rest =>
      have empty := (List.append_eq_nil_iff.1 source).1
      exact absurd empty left.1.source_ne_nil
  | cons q others ih =>
    obtain ⟨reading', reads⟩ := right q List.mem_cons_self
    obtain ⟨c, tail, start⟩ := List.exists_cons_of_ne_nil reads.source_ne_nil
    cases ps with
    | nil =>
      have empty := (List.append_eq_nil_iff.1 source.symm).1
      exact absurd empty reads.source_ne_nil
    | cons p rest =>
      obtain ⟨own, -, scanned⟩ := left
      obtain ⟨d, word, begin⟩ := List.exists_cons_of_ne_nil own.source_ne_nil
      rw [joined_cons, joined_cons] at source
      obtain rfl : d = c := by
        have heads := congrArg List.head? source
        simpa [start, begin] using heads
      -- The texts start alike, so the first pieces are both blank or neither is.
      have blank := (lexeme_eq_none_iff own begin).trans (lexeme_eq_none_iff reads start).symm
      have both : p.lexeme = q.lexeme ∧ lexemes rest = lexemes others := by
        cases found : q.lexeme with
        | none =>
          have none := blank.2 found
          rw [lexemes_cons_blank none, lexemes_cons_blank found] at tokens
          exact ⟨none, tokens⟩
        | some lexeme =>
          cases found' : p.lexeme with
          | none => simp [blank.1 found'] at found
          | some lexeme' =>
            rw [lexemes_cons found', lexemes_cons found] at tokens
            exact ⟨congrArg some (List.cons.inj tokens).1, (List.cons.inj tokens).2⟩
      obtain rfl := piece_eq own reads both.1 source
      rw [ih scanned (fun q inside => right q (List.mem_cons_of_mem _ inside))
        (List.append_cancel_left source) both.2]

theorem tokenizeAs_joined_iff {reading : Reading} {pieces : List Piece}
    (each : ∀ piece ∈ pieces, ∃ reading, piece.Reads reading) :
    (∃ tokens, tokenizeAs reading (joined pieces) = .ok tokens ∧
        tokens.map Token.lexeme = lexemes pieces) ↔
      Scanned reading pieces [] := by
  constructor
  · rintro ⟨tokens, read, same⟩
    obtain ⟨found, source, scanned, rfl⟩ := tokenizeAs_eq_ok_iff.1 read
    rw [map_lexeme_place] at same
    rwa [← pieces_eq scanned each source same]
  · intro scanned
    exact ⟨place 0 pieces, tokenizeAs_eq_ok_iff.2 ⟨pieces, rfl, scanned, rfl⟩,
      map_lexeme_place 0 pieces⟩

end Prejoin
