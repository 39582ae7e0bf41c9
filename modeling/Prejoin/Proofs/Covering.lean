import Prejoin.Proofs.Boundaries
import Prejoin.Proofs.Escapes
import Prejoin.Proofs.Readings
import Prejoin.Proofs.Trimmed

set_option autoImplicit false

namespace Prejoin

def isOther (c : Char) : Bool :=
  (Quote.ofMark? c).isNone && !isBlank c && !startsName c && !c.isDigit &&
    !".,()=<>".toList.contains c

def isNumberText : Text → Bool
  | [] => false
  | c :: rest => c.isDigit && rest.all continuesNumber

def Lexeme.Spells (reading : Reading) (text after : Text) : Lexeme → Prop
  | .name word => text = word ∧ isName word ∧ ∀ c ∈ after.head?, continuesName c = false
  | .number word => text = word ∧ isNumberText word ∧ ∀ c ∈ after.head?, continuesNumber c = false
  | .literal value quote =>
    ∃ body, text = quote.mark :: body ++ [quote.mark] ∧ ClosesBehind reading quote.mark body ∧
      reading.value body = value
  | .comparison sign =>
    text = sign.symbol ∧ (sign = .less ∨ sign = .greater → after.head? ≠ some '=')
  | .dot => text = ['.']
  | .comma => text = [',']
  | .opening => text = ['(']
  | .closing => text = [')']
  | .other c => text = [c] ∧ isOther c ∧ (c = '!' → after.head? ≠ some '=')

theorem isNumberText_iff {text : Text} :
    isNumberText text ↔ ∃ c rest, text = c :: rest ∧ c.isDigit ∧ ∀ d ∈ rest, continuesNumber d := by
  cases text <;> simp [isNumberText, and_assoc]

theorem ofChar_eq_other_iff {c d : Char} :
    Lexeme.ofChar c = .other d ↔ c = d ∧ ".,()=<>".toList.contains c = false := by
  unfold Lexeme.ofChar
  split <;> simp_all

theorem reads_written_iff {reading : Reading} {lexeme : Lexeme} {text written : Text}
    (unique : lexeme.written? = some written) :
    Piece.Reads reading ⟨text, some lexeme⟩ ↔
      text = written ∧ Piece.Reads reading ⟨written, some lexeme⟩ := by
  constructor
  · intro reads
    rcases source_eq_of_reads reads rfl with same | ⟨value, quote, rfl⟩
    · obtain rfl : written = text := Option.some.inj (unique.symm.trans same)
      exact ⟨rfl, reads⟩
    · simp [Lexeme.written?] at unique
  · rintro ⟨rfl, reads⟩
    exact reads

theorem reads_symbol (reading : Reading) (sign : Comparison) :
    Piece.Reads reading ⟨sign.symbol, some (.comparison sign)⟩ := by
  cases sign with
  | equal => exact reads_equal
  | unequal | atMost | atLeast => exact .pair rfl
  | less | greater => exact .mark (by decide) (by decide) (by decide) (by decide)

theorem reads_other_iff {reading : Reading} {source : Text} {c : Char} :
    Piece.Reads reading ⟨source, some (.other c)⟩ ↔ source = [c] ∧ isOther c := by
  constructor
  · intro reads
    generalize found : some (Lexeme.other c) = lexeme at reads
    cases reads with
    | mark unquoted solid nameless unnumbered =>
      obtain ⟨rfl, plain⟩ := ofChar_eq_other_iff.1 (Option.some.inj found).symm
      simp only [isOther, unquoted, solid, nameless, unnumbered, plain]
      simp
    | _ => simp at found
  · rintro ⟨rfl, other⟩
    simp only [isOther, Bool.and_eq_true, Option.isNone_iff_eq_none, Bool.not_eq_true'] at other
    obtain ⟨⟨⟨⟨unquoted, solid⟩, nameless⟩, unnumbered⟩, plain⟩ := other
    have same : Lexeme.ofChar c = .other c := ofChar_eq_other_iff.2 ⟨rfl, plain⟩
    exact same ▸ .mark unquoted solid nameless unnumbered

theorem reads_mark (reading : Reading) :
    Piece.Reads reading ⟨['.'], some .dot⟩ ∧ Piece.Reads reading ⟨[','], some .comma⟩ ∧
      Piece.Reads reading ⟨['('], some .opening⟩ ∧ Piece.Reads reading ⟨[')'], some .closing⟩ :=
  ⟨.mark (by decide) (by decide) (by decide) (by decide),
    .mark (by decide) (by decide) (by decide) (by decide),
    .mark (by decide) (by decide) (by decide) (by decide),
    .mark (by decide) (by decide) (by decide) (by decide)⟩

theorem head?_ne_iff {after : Text} {mark : Char} :
    (∀ c ∈ after.head?, decide (c = mark) = false) ↔ after.head? ≠ some mark := by
  cases after <;> simp

theorem spells_iff {reading : Reading} {text after : Text} {lexeme : Lexeme} :
    lexeme.Spells reading text after ↔
      Piece.Reads reading ⟨text, some lexeme⟩ ∧ Piece.EndsBefore ⟨text, some lexeme⟩ after := by
  cases lexeme with
  | name word =>
    rw [reads_name_iff, and_assoc]
    rfl
  | number word =>
    rw [reads_number_iff, Lexeme.Spells, isNumberText_iff]
    constructor
    · rintro ⟨rfl, ⟨c, rest, rfl, digit, continues⟩, stops⟩
      exact ⟨⟨c, rest, rfl, rfl, digit, continues⟩, stops⟩
    · rintro ⟨⟨c, rest, rfl, rfl, digit, continues⟩, stops⟩
      exact ⟨rfl, ⟨c, rest, rfl, digit, continues⟩, stops⟩
  | literal value quote =>
    rw [reads_literal_iff, Lexeme.Spells]
    simp [encloses_iff_closesBehind, Piece.EndsBefore, Piece.absorbs, Lexeme.absorbs]
  | comparison sign =>
    rw [reads_written_iff rfl, Lexeme.Spells]
    cases sign with
    | less | greater =>
      simp only [reads_symbol, Piece.EndsBefore, Piece.absorbs, Lexeme.absorbs, Option.any_some,
        head?_ne_iff]
      simp
    | _ => simp [reads_symbol, Piece.EndsBefore, Piece.absorbs, Lexeme.absorbs]
  | other c =>
    rw [reads_other_iff, and_assoc, Lexeme.Spells]
    by_cases bang : c = '!'
    next =>
      subst bang
      simp only [Piece.EndsBefore, Piece.absorbs, Lexeme.absorbs, Option.any_some, decide_true,
        Bool.true_and, head?_ne_iff]
      simp
    next => simp [Piece.EndsBefore, Piece.absorbs, Lexeme.absorbs, bang]
  | _ =>
    rw [reads_written_iff rfl, Lexeme.Spells]
    simp [reads_mark, Piece.EndsBefore, Piece.absorbs, Lexeme.absorbs]

theorem solid_of_spells {reading : Reading} {text after : Text} {lexeme : Lexeme}
    (spells : lexeme.Spells reading text after)
    (bare : ∀ value quote, lexeme ≠ .literal value quote) : Solid text := by
  cases lexeme with
  | name word =>
    obtain ⟨rfl, named, -⟩ := spells
    exact fun c inside => isBlank_of_continuesName (continuesName_of_isName named inside)
  | number word =>
    obtain ⟨rfl, number, -⟩ := spells
    obtain ⟨c, rest, rfl, digit, continues⟩ := isNumberText_iff.1 number
    exact Solid.cons (isBlank_of_isDigit digit) fun d inside =>
      isBlank_of_continuesNumber (continues d inside)
  | literal value quote => exact absurd rfl (bare value quote)
  | comparison sign =>
    obtain ⟨rfl, -⟩ := spells
    cases sign with
    | equal | less | greater => exact .cons (by decide) .nil
    | unequal | atMost | atLeast => exact .cons (by decide) (.cons (by decide) .nil)
  | other c =>
    obtain ⟨rfl, other, -⟩ := spells
    simp only [isOther, Bool.and_eq_true, Bool.not_eq_true'] at other
    exact Solid.cons other.1.1.1.2 .nil
  | _ =>
    obtain rfl := spells
    exact .cons (by decide) .nil

theorem slice_eq_some_iff {span : Span} {source text : Text} :
    span.slice source = some text ↔ ∃ before after, source = before ++ text ++ after ∧
      span = ⟨byteLength before, byteLength (before ++ text)⟩ := by
  have fits : span.fits source ↔ ∃ a b c, source = a ++ b ++ c ∧
      span = ⟨byteLength a, byteLength (a ++ b)⟩ := by
    have anywhere : span.fits ([] ++ source) ↔ _ := fits_append (Nat.zero_le _)
    simpa using anywhere
  unfold Span.slice
  constructor
  · intro sliced
    split at sliced
    next within =>
      obtain ⟨before, middle, after, rfl, rfl⟩ := fits.1 within
      refine ⟨before, after, ?_, ?_⟩ <;> simp_all
    next => nomatch sliced
  · rintro ⟨before, after, rfl, rfl⟩
    rw [if_pos (fits.2 ⟨before, text, after, rfl, rfl⟩)]
    simp

theorem mem_place_iff {offset : Nat} {pieces : List Piece} {token : Token} :
    token ∈ place offset pieces ↔ ∃ before piece after, pieces = before ++ piece :: after ∧
      piece.lexeme = some token.lexeme ∧
      token.span = ⟨offset + byteLength (joined before),
        offset + byteLength (joined (before ++ [piece]))⟩ := by
  constructor
  · intro member
    induction pieces generalizing offset with
    | nil => simp [place] at member
    | cons first rest ih =>
      have later (inside : token ∈ place (offset + byteLength first.source) rest) :
          ∃ before piece after, first :: rest = before ++ piece :: after ∧
            piece.lexeme = some token.lexeme ∧
            token.span = ⟨offset + byteLength (joined before),
              offset + byteLength (joined (before ++ [piece]))⟩ := by
        obtain ⟨before, piece, after, rfl, found, span⟩ := ih inside
        exact ⟨first :: before, piece, after, rfl, found, by simpa [Nat.add_assoc] using span⟩
      cases found : first.lexeme with
      | none =>
        rw [place_cons_blank found] at member
        exact later member
      | some lexeme =>
        rw [place_cons found, List.mem_cons] at member
        rcases member with rfl | inside
        · exact ⟨[], first, rest, rfl, found, by simp⟩
        · exact later inside
  · rintro ⟨before, piece, after, rfl, found, span⟩
    obtain ⟨lexeme, _⟩ := token
    obtain rfl := span
    rw [place_append, place_cons found]
    simp [Nat.add_assoc]

theorem stop_le_of_mem_place {offset : Nat} {pieces : List Piece} {token : Token}
    (member : token ∈ place offset pieces) :
    token.span.stop ≤ offset + byteLength (joined pieces) := by
  obtain ⟨before, piece, after, rfl, -, span⟩ := mem_place_iff.1 member
  rw [span]
  simp only [joined_append, joined_cons, joined_nil, byteLength_append, byteLength_nil]
  omega

def Span.holds (span : Span) (offset : Nat) : Prop :=
  span.start ≤ offset ∧ offset < span.stop

structure Covers (filter : Text) (tokens : List Token) : Prop where
  fits : ∀ token ∈ tokens, token.span.fits filter
  nonempty : ∀ token ∈ tokens, token.span.start < token.span.stop
  ordered : tokens.Pairwise fun a b => a.span.stop ≤ b.span.start
  solid : ∀ token ∈ tokens, (∀ value quote, token.lexeme ≠ .literal value quote) →
    ∀ text, token.span.slice filter = some text → Solid text
  blank : ∀ before c after, filter = before ++ c :: after →
    (∀ token ∈ tokens, ¬ token.span.holds (byteLength before)) → isBlank c

def Token.Faithful (reading : Reading) (filter : Text) (token : Token) : Prop :=
  ∃ text, token.span.slice filter = some text ∧
    token.lexeme.Spells reading text (dropBytes token.span.stop filter)

theorem isBlank_of_reads {reading : Reading} {piece : Piece} (reads : piece.Reads reading)
    (gap : piece.lexeme = none) : ∀ c ∈ piece.source, isBlank c := by
  cases reads with
  | blank blank => simpa using blank
  | _ => cases gap

theorem ordered_place (offset : Nat) (pieces : List Piece) :
    (place offset pieces).Pairwise fun a b => a.span.stop ≤ b.span.start := by
  induction pieces generalizing offset with
  | nil => exact .nil
  | cons piece rest ih =>
    cases found : piece.lexeme with
    | none =>
      rw [place_cons_blank found]
      exact ih _
    | some lexeme =>
      rw [place_cons found]
      exact List.pairwise_cons.2 ⟨fun token member => (le_start_of_mem_place member).1, ih _⟩

theorem append_eq_append_cons {s t before after : Text} {c : Char}
    (source : s ++ t = before ++ c :: after) :
    (∃ front, before = s ++ front ∧ t = front ++ c :: after) ∨ ∃ more, s = before ++ c :: more := by
  rcases List.append_eq_append_iff.1 source with ⟨front, own, tail⟩ | ⟨more, own, tail⟩
  · exact .inl ⟨front, own, tail⟩
  · cases more with
    | nil => exact .inl ⟨[], by simpa using own.symm, tail.symm⟩
    | cons d more =>
      obtain ⟨rfl, -⟩ := List.cons.inj tail
      exact .inr ⟨more, own⟩

theorem joined_eq_append_cons {pieces : List Piece} {before after : Text} {c : Char}
    (source : joined pieces = before ++ c :: after) :
    ∃ ps piece qs s t, pieces = ps ++ piece :: qs ∧ piece.source = s ++ c :: t ∧
      before = joined ps ++ s := by
  induction pieces generalizing before with
  | nil => simp at source
  | cons piece rest ih =>
    rcases append_eq_append_cons source with ⟨front, rfl, tail⟩ | ⟨more, own⟩
    · obtain ⟨ps, found, qs, s, t, rfl, same, rfl⟩ := ih tail
      exact ⟨piece :: ps, found, qs, s, t, rfl, same, by simp⟩
    · exact ⟨[], piece, rest, before, more, rfl, own, rfl⟩

theorem faithful_place {reading : Reading} {pieces : List Piece}
    (scanned : Scanned reading pieces []) {token : Token} (member : token ∈ place 0 pieces) :
    token.Faithful reading (joined pieces) := by
  obtain ⟨before, ⟨text, _⟩, after, rfl, found, span⟩ := mem_place_iff.1 member
  obtain rfl := found
  obtain ⟨-, reads, ends, -⟩ := scanned_append.1 scanned
  have sliced : token.span.slice (joined (before ++ ⟨text, some token.lexeme⟩ :: after)) =
      some text :=
    slice_eq_some_iff.2 ⟨joined before, joined after, by simp, by simpa using span⟩
  have behind : dropBytes token.span.stop (joined (before ++ ⟨text, some token.lexeme⟩ :: after)) =
      joined after := by
    have drop := dropBytes_byteLength_append (joined before ++ text) (joined after)
    simpa [span] using drop
  refine ⟨text, sliced, spells_iff.2 ⟨reads, ?_⟩⟩
  rw [behind]
  simpa using ends

theorem covers_place {reading : Reading} {pieces : List Piece}
    (scanned : Scanned reading pieces []) : Covers (joined pieces) (place 0 pieces) where
  fits token member := by
    obtain ⟨text, sliced, -⟩ := faithful_place scanned member
    unfold Span.slice at sliced
    by_contra outside
    rw [if_neg outside] at sliced
    cases sliced
  nonempty token member := by
    obtain ⟨before, piece, after, rfl, -, span⟩ := mem_place_iff.1 member
    have positive := (scanned_append.1 scanned).2.1.byteLength_pos
    simp only [span, joined_append, joined_cons, joined_nil, byteLength_append, byteLength_nil]
    omega
  ordered := ordered_place 0 pieces
  solid token member bare text sliced := by
    obtain ⟨own, same, spells⟩ := faithful_place scanned member
    obtain rfl : own = text := Option.some.inj (same.symm.trans sliced)
    exact solid_of_spells spells bare
  blank before c after source free := by
    obtain ⟨ps, piece, qs, s, t, rfl, own, rfl⟩ := joined_eq_append_cons source
    have reads := (scanned_append.1 scanned).2.1
    cases found : piece.lexeme with
    | none =>
      exact isBlank_of_reads reads found c (by simp [own])
    | some lexeme =>
      have member : (⟨lexeme, ⟨byteLength (joined ps), byteLength (joined (ps ++ [piece]))⟩⟩ : Token) ∈
          place 0 (ps ++ piece :: qs) :=
        mem_place_iff.2 ⟨ps, piece, qs, rfl, found, by simp⟩
      have positive := c.utf8Size_pos
      refine absurd ⟨?_, ?_⟩ (free _ member)
      · simp
      · simp only [joined_append, joined_cons, joined_nil, own, byteLength_append, byteLength_cons]
        omega

def gaps (s : Text) : List Piece :=
  s.map fun c => ⟨[c], none⟩

@[simp] theorem joined_gaps (s : Text) : joined (gaps s) = s := by
  induction s with
  | nil => rfl
  | cons c rest ih => exact congrArg (c :: ·) ih

theorem place_gaps (offset : Nat) (s : Text) : place offset (gaps s) = [] := by
  induction s generalizing offset with
  | nil => rfl
  | cons c rest ih => exact ih _

theorem scanned_gaps {reading : Reading} {s : Text} (blank : ∀ c ∈ s, isBlank c) (after : Text) :
    Scanned reading (gaps s) after := by
  induction s with
  | nil => trivial
  | cons c rest ih =>
    obtain ⟨first, others⟩ := List.forall_mem_cons.1 blank
    exact ⟨.blank first, fun _ _ => rfl, ih others⟩

theorem place_gaps_cons (offset : Nat) (gap text : Text) (lexeme : Lexeme) (pieces : List Piece) :
    place offset (gaps gap ++ ⟨text, some lexeme⟩ :: pieces) =
      ⟨lexeme, ⟨offset + byteLength gap, offset + byteLength (gap ++ text)⟩⟩ ::
        place (offset + byteLength (gap ++ text)) pieces := by
  rw [place_append, place_gaps, joined_gaps, place_cons rfl]
  simp [Nat.add_assoc]

theorem exists_gap {before rest front tail : Text} (source : before ++ rest = front ++ tail)
    (start : byteLength before ≤ byteLength front) :
    ∃ gap, front = before ++ gap ∧ rest = gap ++ tail := by
  rcases List.append_eq_append_iff.1 source with ⟨gap, rfl, same⟩ | ⟨extra, rfl, same⟩
  · exact ⟨gap, rfl, same⟩
  · have none : extra = [] := by
      rw [byteLength_append] at start
      exact byteLength_eq_zero_iff.1 (by omega)
    subst none
    exact ⟨[], by simp, by simpa using same.symm⟩

-- On the tokens, with the text before the first of them apart.
theorem exists_pieces_of_covers {reading : Reading} {before rest : Text} {tokens : List Token}
    (beyond : ∀ token ∈ tokens, byteLength before ≤ token.span.start)
    (ordered : tokens.Pairwise fun a b => a.span.stop ≤ b.span.start)
    (faithful : ∀ token ∈ tokens, token.Faithful reading (before ++ rest))
    (blank : ∀ s c t, rest = s ++ c :: t →
      (∀ token ∈ tokens, ¬ token.span.holds (byteLength (before ++ s))) → isBlank c) :
    ∃ pieces, joined pieces = rest ∧ Scanned reading pieces [] ∧
      place (byteLength before) pieces = tokens := by
  induction tokens generalizing before rest with
  | nil =>
    have blank : ∀ c ∈ rest, isBlank c := by
      intro c inside
      obtain ⟨s, t, rfl⟩ := List.append_of_mem inside
      exact blank s c t rfl (by simp)
    exact ⟨gaps rest, joined_gaps rest, scanned_gaps blank [], place_gaps _ _⟩
  | cons token later ih =>
    obtain ⟨own, following⟩ := List.pairwise_cons.1 ordered
    obtain ⟨text, sliced, spells⟩ := faithful token List.mem_cons_self
    obtain ⟨lexeme, span⟩ := token
    obtain ⟨front, after, source, rfl⟩ := slice_eq_some_iff.1 sliced
    -- What stands before the token goes on with what has been gone through.
    rw [List.append_assoc] at source
    obtain ⟨gap, rfl, rfl⟩ := exists_gap source (beyond _ List.mem_cons_self)
    have empty : ∀ c ∈ gap, isBlank c := by
      intro c inside
      obtain ⟨s, t, rfl⟩ := List.append_of_mem inside
      have positive := c.utf8Size_pos
      refine blank s c (t ++ (text ++ after)) (by simp) fun other member held => ?_
      rcases List.mem_cons.1 member with rfl | behind
      · simp [Span.holds] at held
        omega
      · have start := own other behind
        simp [Span.holds] at held start
        omega
    have kept : ∀ other ∈ later, other.Faithful reading (before ++ gap ++ text ++ after) :=
      fun other member => by simpa using faithful other (List.mem_cons_of_mem _ member)
    obtain ⟨pieces, rfl, scanned, placed⟩ := ih own following kept
      (fun s c t source free => by
        subst source
        refine blank (gap ++ text ++ s) c t (by simp) fun other member held => ?_
        rcases List.mem_cons.1 member with rfl | behind
        · have below := held.2
          simp only [byteLength_append] at below
          omega
        · exact free other behind (by simpa using held))
    refine ⟨gaps gap ++ ⟨text, some lexeme⟩ :: pieces, by simp, ?_, ?_⟩
    · obtain ⟨reads, ends⟩ := spells_iff.1 spells
      refine scanned_append.2 ⟨scanned_gaps empty _, reads, ?_, scanned⟩
      have behind : dropBytes (byteLength (before ++ gap ++ text))
          (before ++ (gap ++ (text ++ joined pieces))) = joined pieces := by
        have drop := dropBytes_byteLength_append (before ++ gap ++ text) (joined pieces)
        simpa using drop
      rw [behind] at ends
      simpa using ends
    · rw [place_gaps_cons, ← placed]
      simp

/-- The tokens of a filter are its only faithful covering. -/
theorem tokenizeAs_iff_covers {reading : Reading} {filter : Text} {tokens : List Token} :
    tokenizeAs reading filter = .ok tokens ↔
      Covers filter tokens ∧ ∀ token ∈ tokens, token.Faithful reading filter := by
  rw [tokenizeAs_eq_ok_iff]
  constructor
  · rintro ⟨pieces, rfl, scanned, rfl⟩
    exact ⟨covers_place scanned, fun token member => faithful_place scanned member⟩
  · rintro ⟨covers, faithful⟩
    have placed : ∀ token ∈ tokens, token.Faithful reading ([] ++ filter) := faithful
    exact exists_pieces_of_covers (fun _ _ => Nat.zero_le _) covers.ordered placed covers.blank

end Prejoin
