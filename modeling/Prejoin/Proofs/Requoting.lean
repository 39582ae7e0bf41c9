import Prejoin.Proofs.Covering
import Prejoin.Proofs.Positions
import Prejoin.Proofs.Surroundings
import Prejoin.Proofs.Windows

set_option autoImplicit false

namespace Prejoin

def movedOffset (site : Span) (bytes offset : Nat) : Nat :=
  if site.stop ≤ offset then offset + bytes - (site.stop - site.start) else offset

def Span.moved (span site : Span) (bytes : Nat) : Span :=
  ⟨movedOffset site bytes span.start, movedOffset site bytes span.stop⟩

def Predicate.moved (p : Predicate) (site : Span) (bytes : Nat) : Predicate :=
  { p with span := p.span.moved site bytes }

theorem movedOffset_before {site : Span} (bytes : Nat) {offset : Nat}
    (before : offset < site.stop) :
    movedOffset site bytes offset = offset :=
  if_neg (Nat.not_le.2 before)

theorem movedOffset_behind {site : Span} (bytes : Nat) (forward : site.start ≤ site.stop)
    (offset : Nat) :
    movedOffset site bytes (offset + site.stop) = offset + (site.start + bytes) := by
  rw [movedOffset, if_pos (Nat.le_add_left _ _)]
  omega

def Lexeme.withValue (value : Text) : Lexeme → Lexeme
  | .literal _ _ => .literal value .double
  | lexeme => lexeme

def Token.requoted (site : Span) (value : Text) (token : Token) : Token where
  lexeme := if token.span = site then token.lexeme.withValue value else token.lexeme
  span := token.span.moved site (byteLength (quoteLiteral value))

theorem Operator.WrittenAs.isLiteral_eq {operator : Operator} {lexeme : Lexeme}
    (written : operator.WrittenAs lexeme) : lexeme.isLiteral = false := by
  cases operator with
  | equal | unequal =>
    obtain rfl := written
    rfl
  | like =>
    obtain ⟨word, rfl, -⟩ := written
    rfl

section

variable (site : Span) (value : Text) {token : Token} {tokens : List Token}

theorem Token.isLiteral_requoted :
    (token.requoted site value).lexeme.isLiteral = token.lexeme.isLiteral := by
  unfold Token.requoted
  by_cases there : token.span = site
  next => cases found : token.lexeme <;> simp [there, Lexeme.withValue, Lexeme.isLiteral]
  next => simp [there]

theorem Token.lexeme_requoted (other : token.lexeme.isLiteral = false) :
    (token.requoted site value).lexeme = token.lexeme := by
  unfold Token.requoted
  cases found : token.lexeme with
  | literal old quote => simp [found, Lexeme.isLiteral] at other
  | _ => simp [Lexeme.withValue]

theorem Token.lexeme_requoted_eq_iff {lexeme : Lexeme} (other : lexeme.isLiteral = false) :
    (token.requoted site value).lexeme = lexeme ↔ token.lexeme = lexeme := by
  constructor
  · rintro rfl
    rw [Token.isLiteral_requoted] at other
    exact (Token.lexeme_requoted site value other).symm
  · rintro rfl
    exact Token.lexeme_requoted site value other

theorem ofTokens?_requoted {p : Predicate} (found : Predicate.ofTokens? tokens = some p)
    (free : p.span.stop ≠ site.stop) :
    Predicate.ofTokens? (tokens.map (Token.requoted site value)) =
      some (p.moved site (byteLength (quoteLiteral value))) := by
  obtain ⟨first, second, third, sign, last, rest, rfl, written⟩ :=
    Predicate.ofTokens?_eq_some_iff.1 found
  have elsewhere : (⟨last, p.span.stop⟩ : Span) ≠ site := fun same => free (same ▸ rfl)
  have kept : p.operator.WrittenAs (sign.requoted site value).lexeme := by
    rwa [Token.lexeme_requoted site value written.isLiteral_eq]
  let bytes := byteLength (quoteLiteral value)
  refine Predicate.ofTokens?_eq_some_iff.2 ⟨movedOffset site bytes first, second.moved site bytes,
    third.moved site bytes, sign.requoted site value, movedOffset site bytes last,
    rest.map (Token.requoted site value), ?_, kept⟩
  simp [Token.requoted, Lexeme.withValue, Span.moved, Predicate.moved, elsewhere, bytes]

theorem ofTokens?_requoted_eq_none (missing : Predicate.ofTokens? tokens = none) :
    Predicate.ofTokens? (tokens.map (Token.requoted site value)) = none := by
  -- Five tokens that are a predicate's afterwards are so before, with a literal of its own.
  have lexeme {token found : Token} (same : token.requoted site value = found)
      (other : found.lexeme.isLiteral = false) : token.lexeme = found.lexeme :=
    (Token.lexeme_requoted_eq_iff site value other).1 (congrArg Token.lexeme same)
  rw [Option.eq_none_iff_forall_ne_some]
  intro p found
  obtain ⟨first, second, third, sign, last, rest, same, written⟩ :=
    Predicate.ofTokens?_eq_some_iff.1 found
  simp only [List.map_eq_cons_iff] at same
  obtain ⟨one, _, rfl, relation, two, _, rfl, dot, three, _, rfl, field, four, _, rfl, operator,
    five, rest, rfl, literal, -⟩ := same
  have closes : five.lexeme.isLiteral := by
    rw [← Token.isLiteral_requoted site value, literal]
    rfl
  have opens : opensClause ((one :: two :: three :: four :: five :: rest).map Token.lexeme) := by
    simp only [List.map_cons, lexeme relation rfl, lexeme dot rfl, lexeme field rfl,
      lexeme operator written.isLiteral_eq]
    cases own : five.lexeme with
    | literal old quote => simp [opensClause, Operator.ofLexeme?_eq_some_iff.2 written]
    | _ => simp [own, Lexeme.isLiteral] at closes
  rw [← isSome_ofTokens?, missing] at opens
  cases opens

theorem detectAfter_requoted {afterDot : Bool}
    (free : ∀ p ∈ detectAfter afterDot tokens, p.span.stop ≠ site.stop) :
    detectAfter afterDot (tokens.map (Token.requoted site value)) =
      (detectAfter afterDot tokens).map fun p =>
        p.moved site (byteLength (quoteLiteral value)) := by
  fun_induction detectAfter afterDot tokens with
  | case1 => simp [detectAfter]
  | case2 afterDot token rest p found ih =>
    obtain ⟨own, others⟩ := List.forall_mem_cons.1 free
    cases afterDot with
    | true => simp at found
    | false =>
      have found : Predicate.ofTokens? (token :: rest) = some p := by simpa using found
      have moved := ofTokens?_requoted site value found own
      rw [List.map_cons] at moved
      rw [List.map_cons, List.map_cons, detectAfter, if_neg (by simp), moved, ← ih others,
        List.map_drop]
  | case3 afterDot token rest missing ih =>
    have next := ih free
    have dot : (token.requoted site value).lexeme = .dot ↔ token.lexeme = .dot :=
      Token.lexeme_requoted_eq_iff site value rfl
    rw [List.map_cons, detectAfter]
    cases afterDot with
    | true => simpa [dot] using next
    | false =>
      have missing : Predicate.ofTokens? (token :: rest) = none := by simpa using missing
      have missing := ofTokens?_requoted_eq_none site value missing
      rw [List.map_cons] at missing
      rw [if_neg (by simp), missing]
      simpa [dot] using next

end

theorem requoted_before {site : Span} (value : Text) {token : Token}
    (forward : token.span.start ≤ token.span.stop) (before : token.span.stop < site.stop) :
    token.requoted site value = token := by
  have other : token.span ≠ site := fun same => absurd (same ▸ before) (Nat.lt_irrefl _)
  have start := movedOffset_before (byteLength (quoteLiteral value))
    (Nat.lt_of_le_of_lt forward before)
  have stop := movedOffset_before (byteLength (quoteLiteral value)) before
  simp [Token.requoted, Span.moved, other, start, stop]

theorem requoted_behind {site : Span} (value : Text) (solid : site.start < site.stop)
    (token : Token) :
    (token.shift site.stop).requoted site value =
      token.shift (site.start + byteLength (quoteLiteral value)) := by
  have behind := movedOffset_behind (byteLength (quoteLiteral value)) (Nat.le_of_lt solid)
  have other : (token.shift site.stop).span ≠ site := by
    intro same
    have start := congrArg Span.start same
    simp only [Token.shift, Span.shift] at start
    omega
  simp only [Token.requoted, if_neg other]
  simp [Token.shift, Span.shift, Span.moved, behind]

theorem place_requoted {before after : List Piece} {piece : Piece} {old : Text} {quote : Quote}
    (found : piece.lexeme = some (.literal old quote)) (solid : 0 < byteLength piece.source)
    (value : Text) :
    place 0 (before ++ keyPiece value :: after) =
      (place 0 (before ++ piece :: after)).map (Token.requoted
        ⟨byteLength (joined before), byteLength (joined before) + byteLength piece.source⟩
        value) := by
  generalize there : (⟨byteLength (joined before),
    byteLength (joined before) + byteLength piece.source⟩ : Span) = site
  have start : byteLength (joined before) = site.start := there ▸ rfl
  have stop : byteLength (joined before) + byteLength piece.source = site.stop := there ▸ rfl
  have forward : site.start < site.stop := by omega
  have key : (keyPiece value).lexeme = some (.literal value .double) := rfl
  have left : (place 0 before).map (Token.requoted site value) = place 0 before := by
    refine (List.map_congr_left fun token member => ?_).trans (List.map_id _)
    have stops := stop_le_of_mem_place member
    exact requoted_before value (le_start_of_mem_place member).2 (by omega)
  have right : (place site.stop after).map (Token.requoted site value) =
      place (site.start + byteLength (quoteLiteral value)) after := by
    have shifted (offset : Nat) :
        place offset after = (place 0 after).map (Token.shift offset) := by
      rw [← place_shift, Nat.zero_add]
    rw [shifted, shifted (site.start + _), List.map_map]
    exact List.map_congr_left fun token _ => requoted_behind value forward token
  have own : Token.requoted site value ⟨.literal old quote, site⟩ =
      ⟨.literal value .double, ⟨site.start, site.start + byteLength (quoteLiteral value)⟩⟩ := by
    have ends := movedOffset_behind (byteLength (quoteLiteral value)) (Nat.le_of_lt forward) 0
    have starts := movedOffset_before (byteLength (quoteLiteral value)) forward
    simp only [Nat.zero_add] at ends
    simp [Token.requoted, Lexeme.withValue, Span.moved, starts, ends]
  rw [place_append, place_append, place_cons found, place_cons key, Nat.zero_add, List.map_append,
    List.map_cons, left, there, stop, right, own, start]
  rfl

theorem scanned_requoted {before after : List Piece} {piece : Piece}
    (scanned : Scanned .escaped (before ++ piece :: after) []) (value : Text) :
    Scanned .escaped (before ++ keyPiece value :: after) [] := by
  obtain ⟨-, -, -, following⟩ := scanned_append.1 scanned
  have literal : Scanned .escaped (keyPiece value :: after) [] :=
    ⟨reads_keyPiece_escaped value, fun c _ => rfl, following⟩
  have opens : joined (keyPiece value :: after) ++ [] =
      Quote.double.mark :: (escape value ++ '"' :: joined after) := by
    simp [keyPiece, quoteLiteral, Quote.mark]
  exact scanned_append.2 ⟨opens ▸ scanned.left.before_mark .double _, literal⟩

theorem write_literal (before after : List Piece) (piece : Piece) (value : Text) :
    Substitution.write ⟨⟨byteLength (joined before),
        byteLength (joined before) + byteLength piece.source⟩, quoteLiteral value⟩
      (joined (before ++ piece :: after)) = joined (before ++ keyPiece value :: after) := by
  have kept := takeBytes_byteLength_append (joined before) (piece.source ++ joined after)
  have skipped := dropBytes_byteLength_append (joined before ++ piece.source) (joined after)
  rw [byteLength_append, List.append_assoc] at skipped
  simp [Substitution.write, kept, skipped, keyPiece]

theorem Predicate.StandsAt.before_or_behind {p : Predicate} {tokens : List Token} {i : Nat}
    {value : Text} {quote : Quote} {site : Span} (stands : p.StandsAt tokens i)
    (ordered : tokens.Pairwise fun a b => a.span.stop ≤ b.span.start)
    (literal : ⟨.literal value quote, site⟩ ∈ tokens) (other : p.span.stop ≠ site.stop) :
    p.span.stop ≤ site.start ∨ site.stop ≤ p.span.start := by
  obtain ⟨n, there⟩ := List.mem_iff_getElem?.1 literal
  obtain ⟨⟨first, relation⟩, ⟨second, dot⟩, ⟨third, field⟩, ⟨sign, operator, written⟩,
    ⟨last, closing⟩, -⟩ := stands
  have follows {m k : Nat} {a b : Token} (less : m < k) (left : tokens[m]? = some a)
      (right : tokens[k]? = some b) : a.span.stop ≤ b.span.start := by
    obtain ⟨inside, rfl⟩ := List.getElem?_eq_some_iff.1 left
    obtain ⟨inside', rfl⟩ := List.getElem?_eq_some_iff.1 right
    exact List.pairwise_iff_getElem.1 ordered m k inside inside' less
  rcases Nat.lt_or_ge n i with before | within
  · exact .inr (follows before there relation)
  rcases Nat.lt_or_ge (i + 4) n with behind | within'
  · exact .inl (follows behind closing there)
  -- Of the predicate's own tokens only the last is a literal.
  obtain rfl | rfl | rfl | rfl | rfl : n = i ∨ n = i + 1 ∨ n = i + 2 ∨ n = i + 3 ∨ n = i + 4 := by
    omega
  · simp [there] at relation
  · simp [there] at dot
  · simp [there] at field
  · obtain rfl := Option.some.inj (there.symm.trans operator)
    cases written.isLiteral_eq
  · obtain ⟨-, rfl⟩ := Token.mk.inj (Option.some.inj (there.symm.trans closing))
    exact absurd rfl other

/-- A literal that belongs to no predicate may be given any value. -/
theorem detectIn_requoted {filter old : Text} {tokens : List Token} {quote : Quote} {site : Span}
    (read : tokenizeAs .escaped filter = .ok tokens)
    (literal : ⟨.literal old quote, site⟩ ∈ tokens)
    (free : ∀ p ∈ detect tokens, p.span.stop ≠ site.stop) (value : Text) :
    detectIn filter = .ok (detect tokens) ∧
      detectIn (Substitution.write ⟨site, quoteLiteral value⟩ filter) =
        .ok ((detect tokens).map fun p => p.moved site (byteLength (quoteLiteral value))) ∧
      ∀ p ∈ detect tokens, p.span.stop ≤ site.start ∨ site.stop ≤ p.span.start := by
  obtain ⟨pieces, rfl, scanned, rfl⟩ := tokenizeAs_eq_ok_iff.1 read
  refine ⟨detectIn_of_tokenize (tokenize_eq_ok_iff.2 (.inl read)), ?_, fun p member => ?_⟩
  · obtain ⟨before, piece, after, rfl, found, span⟩ := mem_place_iff.1 literal
    obtain rfl : site = ⟨byteLength (joined before),
        byteLength (joined before) + byteLength piece.source⟩ := by simpa using span
    have solid := (scanned_append.1 scanned).2.1.byteLength_pos
    have again := tokenizeAs_eq_ok_iff.2 ⟨_, rfl, scanned_requoted scanned value, rfl⟩
    rw [write_literal, detectIn_of_tokenize (tokenize_eq_ok_iff.2 (.inl again)),
      place_requoted found solid]
    exact congrArg Except.ok (detectAfter_requoted _ value free)
  · obtain ⟨i, stands⟩ := exists_standsAt member
    exact stands.before_or_behind (ordered_place 0 pieces) literal (free p member)

def noteFilter : Text :=
  "asset.kind='PUMP' or note='a.b=\"x\"' and vendor.name like \"V\"".toList

def noteTokens : List Token :=
  place 0 (scan .escaped noteFilter).1

def notePredicates (moved : Nat) : List Predicate :=
  [⟨"asset".toList, "kind".toList, .equal, "PUMP".toList, .single, ⟨0, 17⟩⟩,
    ⟨"vendor".toList, "name".toList, .like, "V".toList, .double, ⟨40 + moved, 60 + moved⟩⟩]

def noteValue : Text :=
  "c.d=\"é\" or".toList

def requotedFilter : Text :=
  "asset.kind='PUMP' or note=\"c.d=\\\"é\\\" or\" and vendor.name like \"V\"".toList

theorem read_note :
    tokenizeAs .escaped noteFilter = .ok noteTokens ∧
      ⟨.literal "a.b=\"x\"".toList .single, ⟨26, 35⟩⟩ ∈ noteTokens ∧
      detect noteTokens = notePredicates 0 ∧
      Substitution.write ⟨⟨26, 35⟩, quoteLiteral noteValue⟩ noteFilter = requotedFilter ∧
      (notePredicates 0).map (fun p => p.moved ⟨26, 35⟩ (byteLength (quoteLiteral noteValue))) =
        notePredicates 6 := by
  decide +kernel

theorem detectIn_requoted_note :
    tokenizeAs .escaped noteFilter = .ok noteTokens ∧
      ⟨.literal "a.b=\"x\"".toList .single, ⟨26, 35⟩⟩ ∈ noteTokens ∧
      (∀ p ∈ detect noteTokens, p.span.stop ≠ 35) ∧
      detectIn requotedFilter = .ok (notePredicates 6) := by
  obtain ⟨read, literal, found, written, moved⟩ := read_note
  have free : ∀ p ∈ detect noteTokens, p.span.stop ≠ 35 := by
    rw [found]
    simp [notePredicates]
  have requoted := (detectIn_requoted read literal free noteValue).2.1
  rw [found, written, moved] at requoted
  exact ⟨read, literal, free, requoted⟩

end Prejoin
