import Mathlib.Data.List.Forall2
import Prejoin.Proofs.Recasing

set_option autoImplicit false

namespace Prejoin

structure Predicate.Alike (p q : Predicate) : Prop where
  relation : foldCase p.relation = foldCase q.relation
  field : p.field = q.field
  operator : p.operator = q.operator
  value : p.value = q.value
  quote : p.quote = q.quote
  span : p.span = q.span

/-- The name of the relation may be in any case, and so may the operator if it is a word. -/
inductive Part.Respelled : Part → Text → Prop
  | loose (piece : Piece) : Part.Respelled (.loose piece) piece.source
  | clause {p : Predicate} {relation sign last : Piece} {before gap : List Piece}
      {name word : Text} (between : lexemes before = [.dot, .name p.field])
      (operator : sign.lexeme.bind Operator.ofLexeme? = some p.operator)
      (named : foldCase relation.source = foldCase name)
      (worded : sign.source = word ∨
        p.operator = .like ∧ foldCase sign.source = foldCase word) :
      Part.Respelled (.clause p (relation :: (before ++ sign :: gap ++ [last])))
        (name ++ joined before ++ word ++ joined gap ++ last.source)

/-- Backslashes escape in the second filter as well, unless it cannot be read so. -/
inductive Respells : Text → Text → Prop
  | intro {reading : Reading} {filter : Text} {parts : List Part} {texts : List Text}
      (layout : IsLayout reading filter parts)
      (chosen : reading = .escaped ∨ ∃ error, tokenizeAs .escaped filter = .error error)
      (spelled : List.Forall₂ Part.Respelled parts texts) : Respells filter texts.flatten

namespace Lexeme.Alike

variable {l m : Lexeme}

theorem of_name {word : Text} (alike : l.Alike (.name word)) :
    ∃ word', l = .name word' ∧ foldCase word' = foldCase word := by
  cases alike with
  | same => exact ⟨word, rfl, rfl⟩
  | name same => exact ⟨_, rfl, same⟩

theorem of_dot (alike : l.Alike .dot) : l = .dot := by
  cases alike
  rfl

theorem of_literal {value : Text} {quote : Quote} (alike : l.Alike (.literal value quote)) :
    ∃ value', l = .literal value' quote := by
  cases alike with
  | same => exact ⟨value, rfl⟩
  | literal value' => exact ⟨value', rfl⟩

theorem operator (alike : l.Alike m) : Operator.ofLexeme? l = Operator.ofLexeme? m := by
  cases alike with
  | name same => simp [Operator.ofLexeme?, sameName, same]
  | _ => rfl

end Lexeme.Alike

theorem lexemes_alike {ps qs : List Piece} (alike : List.Forall₂ Piece.Alike ps qs) :
    List.Forall₂ Lexeme.Alike (lexemes ps) (lexemes qs) := by
  induction alike with
  | nil => exact .nil
  | @cons p q _ _ first rest ih =>
    obtain ⟨_, _⟩ := p
    obtain ⟨_, _⟩ := q
    cases first.lexeme with
    | none => exact ih
    | some lexeme => exact .cons lexeme ih

theorem opensClause_of_alike {ls ms : List Lexeme} (alike : List.Forall₂ Lexeme.Alike ls ms)
    (opens : opensClause ms) : opensClause ls := by
  obtain ⟨relation, field, sign, operator, value, quote, more, rfl, signs⟩ :=
    opensClause_iff.1 opens
  obtain _ | ⟨first, _ | ⟨second, _ | ⟨third, _ | ⟨fourth, _ | ⟨last, -⟩⟩⟩⟩⟩ := alike
  obtain ⟨_, rfl, -⟩ := first.of_name
  obtain rfl := second.of_dot
  obtain ⟨_, rfl, -⟩ := third.of_name
  obtain ⟨_, rfl⟩ := last.of_literal
  exact opensClause_iff.2 ⟨_, _, _, _, _, _, _, rfl, fourth.operator.trans signs⟩

theorem byteLength_joined {ps qs : List Piece} (alike : List.Forall₂ Piece.Alike ps qs) :
    byteLength (joined ps) = byteLength (joined qs) :=
  byteLength_of_foldCase (foldCase_joined alike)

theorem Piece.Alike.refl (piece : Piece) : piece.Alike piece := by
  refine ⟨rfl, ?_⟩
  cases piece.lexeme with
  | none => exact .none
  | some lexeme => exact .some (.same lexeme)

theorem pieces_alike_refl (pieces : List Piece) : List.Forall₂ Piece.Alike pieces pieces :=
  List.forall₂_same.2 fun piece _ => .refl piece

theorem Piece.Alike.exists_lexeme {p q : Piece} (alike : p.Alike q) {lexeme : Lexeme}
    (found : p.lexeme = some lexeme) : ∃ other, q.lexeme = some other ∧ lexeme.Alike other := by
  obtain ⟨_, _⟩ := p
  obtain ⟨_, _⟩ := q
  obtain rfl := found
  cases alike.lexeme with
  | some lexeme => exact ⟨_, rfl, lexeme⟩

theorem exists_relation_alike {reading : Reading} {piece : Piece} {relation name : Text}
    (reads : piece.Reads reading) (found : piece.lexeme = some (.name relation))
    (named : foldCase piece.source = foldCase name) :
    foldCase relation = foldCase name ∧ Piece.Reads reading ⟨name, some (.name name)⟩ ∧
      piece.Alike ⟨name, some (.name name)⟩ := by
  obtain ⟨source, _⟩ := piece
  obtain rfl := found
  obtain ⟨rfl, word⟩ := reads_name_iff.1 reads
  have word' : isName name := by rw [← isName_foldCase, ← named, isName_foldCase, word]
  exact ⟨named, .name word', named, .some (.name named)⟩

theorem exists_sign_alike {reading : Reading} {sign : Piece} {operator : Operator} {word : Text}
    (reads : sign.Reads reading)
    (worded : sign.source = word ∨ operator = .like ∧ foldCase sign.source = foldCase word) :
    ∃ other : Piece, other.source = word ∧ other.Reads reading ∧ sign.Alike other := by
  rcases worded with rfl | ⟨-, same⟩
  · exact ⟨sign, rfl, reads, .refl sign⟩
  · exact reads.exists_alike same

theorem Part.Respelled.clause_alike {reading : Reading} {p : Predicate} {offset : Nat}
    {pieces : List Piece} {text : Text} (respelled : Part.Respelled (.clause p pieces) text)
    (spelled : p.SpelledBy offset pieces) (reads : ∀ piece ∈ pieces, piece.Reads reading) :
    ∃ q pieces', p.Alike q ∧ q.SpelledBy offset pieces' ∧ joined pieces' = text ∧
      (∀ piece ∈ pieces', piece.Reads reading) ∧ List.Forall₂ Piece.Alike pieces pieces' := by
  cases respelled with
  | @clause _ relation sign last before gap name word between operator named worded =>
    generalize whole : relation :: (before ++ sign :: gap ++ [last]) = pieces at spelled
    obtain @⟨_, _, middle, lexeme, first, comparison, -, value, span⟩ := spelled
    obtain ⟨rfl, tail⟩ := List.cons.inj whole
    obtain ⟨rfl, ends⟩ := List.append_inj' tail rfl
    obtain rfl := List.singleton_inj.1 ends
    obtain ⟨own, others⟩ := List.forall_mem_cons.1 reads
    obtain ⟨within, final⟩ := List.forall_mem_append.1 others
    obtain ⟨early, late⟩ := List.forall_mem_append.1 within
    obtain ⟨signed, blanks⟩ := List.forall_mem_cons.1 late
    obtain ⟨lexeme', found, signs⟩ := Option.bind_eq_some_iff.1 operator
    -- Only blanks stand between the operator and the literal.
    have empty : lexemes gap = [] := by
      rw [lexemes_append, between, lexemes_cons found] at comparison
      simp only [List.cons_append, List.nil_append, List.cons.injEq, true_and] at comparison
      exact comparison.2
    obtain ⟨same, readsName, alikeName⟩ := exists_relation_alike own first named
    obtain ⟨sign', rfl, readsSign, alikeSign⟩ := exists_sign_alike signed worded
    obtain ⟨other, found', alikeLexeme⟩ := alikeSign.exists_lexeme found
    have alike : List.Forall₂ Piece.Alike (relation :: (before ++ sign :: gap ++ [last]))
        (⟨name, some (.name name)⟩ :: (before ++ sign' :: gap ++ [last])) :=
      .cons alikeName (List.rel_append (List.rel_append (pieces_alike_refl before)
        (.cons alikeSign (pieces_alike_refl gap))) (pieces_alike_refl [last]))
    have comparison' : lexemes (before ++ sign' :: gap) = [.dot, .name p.field, other] := by
      rw [lexemes_append, between, lexemes_cons found', empty]
      rfl
    refine ⟨{ p with relation := name }, _, ⟨same, rfl, rfl, rfl, rfl, rfl⟩,
      .intro rfl comparison' (alikeLexeme.operator ▸ signs) value ?_, ?_, ?_, alike⟩
    · rw [← byteLength_joined alike]
      exact span
    · simp
    · refine List.forall_mem_cons.2 ⟨readsName, List.forall_mem_append.2 ⟨?_, final⟩⟩
      exact List.forall_mem_append.2 ⟨early, List.forall_mem_cons.2 ⟨readsSign, blanks⟩⟩

structure Respelling (reading : Reading) (afterDot : Bool) (offset : Nat) (parts : List Part)
    (text : Text) (parts' : List Part) : Prop where
  arranged : Arranged afterDot offset parts'
  source : joined (piecesOf parts') = text
  reads : ∀ piece ∈ piecesOf parts', piece.Reads reading
  pieces : List.Forall₂ Piece.Alike (piecesOf parts) (piecesOf parts')
  predicates : List.Forall₂ Predicate.Alike (predicatesOf parts) (predicatesOf parts')

theorem Respelling.loose {reading : Reading} {afterDot next : Bool} {offset later : Nat}
    {piece : Piece} {rest rest' : List Part} {text : Text}
    (respelling : Respelling reading next later rest text rest') (own : piece.Reads reading)
    (arranged : Arranged afterDot offset (.loose piece :: rest')) :
    Respelling reading afterDot offset (.loose piece :: rest) (piece.source ++ text)
      (.loose piece :: rest') where
  arranged := arranged
  source := by rw [piecesOf_loose, joined_cons, respelling.source]
  reads := List.forall_mem_cons.2 ⟨own, respelling.reads⟩
  pieces := .cons (.refl piece) respelling.pieces
  predicates := respelling.predicates

theorem exists_respelling {reading : Reading} {afterDot : Bool} {offset : Nat} {parts : List Part}
    {texts : List Text} (arranged : Arranged afterDot offset parts)
    (reads : ∀ piece ∈ piecesOf parts, piece.Reads reading)
    (respelled : List.Forall₂ Part.Respelled parts texts) :
    ∃ parts', Respelling reading afterDot offset parts texts.flatten parts' := by
  induction arranged generalizing texts with
  | nil =>
    cases respelled
    exact ⟨[], .nil, rfl, by simp, .nil, .nil⟩
  | @blank afterDot offset piece rest blank tail ih =>
    obtain ⟨_, texts, first, others, rfl⟩ := List.forall₂_cons_left_iff.1 respelled
    cases first
    obtain ⟨own, later⟩ := List.forall_mem_cons.1 reads
    obtain ⟨rest', respelling⟩ := ih later others
    exact ⟨_, respelling.loose own (.blank blank respelling.arranged)⟩
  | @token afterDot offset piece lexeme rest found alone tail ih =>
    obtain ⟨_, texts, first, others, rfl⟩ := List.forall₂_cons_left_iff.1 respelled
    cases first
    obtain ⟨own, later⟩ := List.forall_mem_cons.1 reads
    obtain ⟨rest', respelling⟩ := ih later others
    have alone' (free : afterDot = false) :
        opensClause (lexeme :: lexemes (piecesOf rest')) = false := by
      by_contra opens
      have before := opensClause_of_alike (.cons (.same lexeme) (lexemes_alike respelling.pieces))
        (by simpa using opens)
      rw [alone free] at before
      cases before
    exact ⟨_, respelling.loose own (.token found alone' respelling.arranged)⟩
  | @clause offset p pieces rest spelled tail ih =>
    obtain ⟨text, texts, first, others, rfl⟩ := List.forall₂_cons_left_iff.1 respelled
    obtain ⟨own, later⟩ := List.forall_mem_append.1 reads
    obtain ⟨rest', respelling⟩ := ih later others
    obtain ⟨q, pieces', predicate, spelled', source, reads', alike⟩ := first.clause_alike spelled own
    have arranged := respelling.arranged
    rw [byteLength_joined alike] at arranged
    refine ⟨.clause q pieces' :: rest', .clause spelled' arranged, ?_, ?_, ?_, ?_⟩
    · rw [piecesOf_clause, joined_append, source, respelling.source, List.flatten_cons]
    · exact List.forall_mem_append.2 ⟨reads', respelling.reads⟩
    · exact List.rel_append alike respelling.pieces
    · exact .cons predicate respelling.predicates

theorem detectIn_layout {reading : Reading} {filter : Text} {parts : List Part}
    (layout : IsLayout reading filter parts)
    (chosen : reading = .escaped ∨ ∃ error, tokenizeAs .escaped filter = .error error) :
    detectIn filter = .ok (predicatesOf parts) := by
  have read : tokenizeAs reading filter = .ok (place 0 (piecesOf parts)) :=
    tokenizeAs_eq_ok_iff.2 ⟨_, layout.source, layout.scanned, rfl⟩
  have tokens : tokenize filter = .ok (place 0 (piecesOf parts)) := by
    rw [tokenize_eq_ok_iff]
    cases reading with
    | escaped => exact .inl read
    | plain => exact .inr ⟨chosen.resolve_left nofun, read⟩
  rw [detectIn, tokens, Except.map, layout.detect]

theorem unread_of_foldCase {reading : Reading} {filter filter' : Text} {error : ScanError}
    (same : foldCase filter = foldCase filter') (unread : tokenizeAs reading filter = .error error) :
    ∃ error', tokenizeAs reading filter' = .error error' := by
  cases read : tokenizeAs reading filter' with
  | error error' => exact ⟨error', rfl⟩
  | ok tokens =>
    obtain ⟨_, again⟩ := exists_tokens_of_foldCase same.symm read
    cases unread.symm.trans again

namespace Respells

variable {filter filter' : Text}

theorem foldCase (respells : Respells filter filter') : foldCase filter = foldCase filter' := by
  obtain @⟨reading, _, parts, texts, layout, -, spelled⟩ := respells
  obtain ⟨parts', respelling⟩ := exists_respelling layout.arranged
    (scanned_iff.1 layout.scanned).1 spelled
  rw [← layout.source, ← respelling.source, foldCase_joined respelling.pieces]

theorem detectIn (respells : Respells filter filter') :
    ∃ predicates predicates', detectIn filter = .ok predicates ∧
      detectIn filter' = .ok predicates' ∧
      List.Forall₂ Predicate.Alike predicates predicates' := by
  have same := respells.foldCase
  obtain @⟨reading, _, parts, texts, layout, chosen, spelled⟩ := respells
  obtain ⟨parts', respelling⟩ := exists_respelling layout.arranged
    (scanned_iff.1 layout.scanned).1 spelled
  have layout' : IsLayout reading texts.flatten parts' :=
    ⟨respelling.source, layout.scanned.alike respelling.pieces respelling.reads,
      respelling.arranged⟩
  have chosen' : reading = .escaped ∨ ∃ error, tokenizeAs .escaped texts.flatten = .error error :=
    chosen.imp_right fun ⟨_, unread⟩ => unread_of_foldCase same unread
  exact ⟨_, _, detectIn_layout layout chosen, detectIn_layout layout' chosen',
    respelling.predicates⟩

end Respells

end Prejoin
