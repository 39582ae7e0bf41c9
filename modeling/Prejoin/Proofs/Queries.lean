import Prejoin.Lookup.Query
import Prejoin.Proofs.Endings
import Prejoin.Proofs.PlainReadback

set_option autoImplicit false

namespace Prejoin

theorem isName_of_mem_lexemes {reading : Reading} {pieces : List Piece}
    (reads : ∀ piece ∈ pieces, piece.Reads reading) {word : Text}
    (member : .name word ∈ lexemes pieces) : isName word := by
  obtain ⟨⟨source, lexeme⟩, inside, found⟩ := List.mem_filterMap.1 member
  obtain rfl : lexeme = some (.name word) := found
  exact (reads_name_iff.1 (reads _ inside)).2

theorem isName_field_of_mem_detect {reading : Reading} {filter : Text} {tokens : List Token}
    (read : tokenizeAs reading filter = .ok tokens) {p : Predicate} (member : p ∈ detect tokens) :
    isName p.field := by
  obtain ⟨parts, layout, rfl⟩ := exists_layout read
  rw [layout.detect] at member
  obtain ⟨pieces, inside⟩ := exists_clause_of_mem member
  obtain ⟨before, after, -, spelled⟩ := layout.arranged.spelled inside
  obtain ⟨sign, tokens, -⟩ := spelled.lexemes_eq
  have within : ∀ piece ∈ pieces, piece ∈ piecesOf parts := fun piece known =>
    List.mem_flatMap.2 ⟨_, inside, known⟩
  apply isName_of_mem_lexemes fun piece known =>
    (scanned_iff.1 layout.scanned).1 piece (within piece known)
  simp [tokens]

def gapPiece : Piece := ⟨[' '], none⟩

theorem reads_gapPiece : gapPiece.Reads .escaped :=
  .blank (by decide)

theorem gapPiece_endsBefore (after : Text) : gapPiece.EndsBefore after := by
  simp [Piece.EndsBefore, Piece.absorbs, gapPiece]

theorem keyPiece_endsBefore (key after : Text) : (keyPiece key).EndsBefore after := by
  simp [Piece.EndsBefore, Piece.absorbs, Lexeme.absorbs, keyPiece]

theorem endsBefore_gap (piece : Piece) (after : Text) : piece.EndsBefore (' ' :: after) := by
  have ends (lexeme : Lexeme) : lexeme.absorbs ' ' = false := by
    have name : continuesName ' ' = false := by decide
    have number : continuesNumber ' ' = false := by decide
    cases lexeme with
    | comparison sign => cases sign <;> simp [Lexeme.absorbs]
    | _ => simp [Lexeme.absorbs, name, number]
  intro c first
  obtain rfl : ' ' = c := Option.some.inj first
  cases found : piece.lexeme with
  | none => simp [Piece.absorbs, found]
  | some lexeme => simp [Piece.absorbs, found, ends]

def Operator.lexeme : Operator → Lexeme
  | .equal => .comparison .equal
  | .unequal => .comparison .unequal
  | .like => .name "like".toList

def Predicate.asked (p : Predicate) : List Lexeme :=
  [.name p.field, p.operator.lexeme, .literal p.value .double]

def Predicate.askedPieces (p : Predicate) : List Piece :=
  [⟨p.field, some (.name p.field)⟩, gapPiece, ⟨p.operator.symbol, some p.operator.lexeme⟩, gapPiece,
    keyPiece p.value]

theorem joined_askedPieces (p : Predicate) : joined p.askedPieces = p.clause := by
  simp [Predicate.askedPieces, Predicate.clause, gapPiece, keyPiece]

theorem reads_operator (operator : Operator) :
    Piece.Reads .escaped ⟨operator.symbol, some operator.lexeme⟩ := by
  cases operator with
  | equal => exact reads_equal
  | unequal => exact .pair rfl
  | like => exact .name (by decide)

theorem scanned_askedPieces {p : Predicate} (named : isName p.field) :
    Scanned .escaped p.askedPieces [] :=
  ⟨.name named, endsBefore_gap _ _, reads_gapPiece, gapPiece_endsBefore _, reads_operator _,
    endsBefore_gap _ _, reads_gapPiece, gapPiece_endsBefore _, reads_keyPiece_escaped _,
    keyPiece_endsBefore _ _, trivial⟩

def scope? (p : Predicate) (relation : Relation) (site? : Option Text) : Option (Text × Text) :=
  match relation.relatedSiteField, site? with
  | some field, some site =>
    if isBlankText site ∨ foldCase p.field = foldCase field then none else some (field, trim site)
  | _, _ => none

theorem scope?_eq_some_iff {p : Predicate} {relation : Relation} {site? : Option Text}
    {pair : Text × Text} :
    scope? p relation site? = some pair ↔
      relation.relatedSiteField = some pair.1 ∧ (∃ site, site? = some site ∧ trim site = pair.2 ∧
        isBlankText site = false) ∧ sameName p.field pair.1 = false := by
  obtain ⟨field, value⟩ := pair
  unfold scope?
  cases relation.relatedSiteField with
  | none => simp
  | some known =>
    cases site? with
    | none => simp
    | some site => grind [sameName]

def scopeLexemes : Option (Text × Text) → List Lexeme
  | none => []
  | some (field, site) =>
    [.name field, .comparison .equal, .literal site .double, .name "and".toList]

def scopePieces : Option (Text × Text) → List Piece
  | none => []
  | some (field, site) =>
    comparisonPieces field site ++ [gapPiece, ⟨"and".toList, some (.name "and".toList)⟩, gapPiece]

theorem lexemes_scopePieces (scope : Option (Text × Text)) :
    lexemes (scopePieces scope) = scopeLexemes scope := by
  cases scope <;> rfl

theorem scanned_scopePieces {scope : Option (Text × Text)}
    (named : ∀ pair ∈ scope, isName pair.1) (after : Text) :
    Scanned .escaped (scopePieces scope) after := by
  cases scope with
  | none => trivial
  | some pair =>
    obtain ⟨field, site⟩ := pair
    have reads := (reads_comparisonPieces_iff (named _ rfl)).2 (reads_keyPiece_escaped site)
    refine scanned_append.2 ⟨scanned_iff.2 ⟨reads, separated_comparisonPieces field site _⟩, ?_⟩
    exact ⟨reads_gapPiece, gapPiece_endsBefore _, .name (by decide), endsBefore_gap _ _,
      reads_gapPiece, gapPiece_endsBefore _, trivial⟩

theorem siteClause?_eq (p : Predicate) (relation : Relation) (site? : Option Text) :
    siteClause? p relation site? =
      (scope? p relation site?).map fun (field, site) => comparison field site := by
  unfold siteClause? scope?
  cases relation.relatedSiteField with
  | none => rfl
  | some field =>
    cases site? with
    | none => rfl
    | some site =>
      by_cases blank : isBlankText site <;> by_cases own : foldCase p.field = foldCase field <;>
        simp [trimmed?_eq, blank, sameName, own]

theorem joined_whereClause (p : Predicate) (relation : Relation) (site? : Option Text) :
    joined (scopePieces (scope? p relation site?) ++ p.askedPieces) =
      (Query.build p relation site?).whereClause := by
  rw [joined_append, joined_askedPieces, Query.build, siteClause?_eq]
  cases scope? p relation site? with
  | none => rfl
  | some pair => simp [scopePieces, joined_comparisonPieces, gapPiece]

/-- Neither the literal nor the site can widen the query or leave the site it keeps to. -/
theorem tokenize_build {reading : Reading} {filter : Text} {tokens : List Token}
    (read : tokenizeAs reading filter = .ok tokens) {p : Predicate} (member : p ∈ detect tokens)
    {relation : Relation} (named : ∀ field ∈ relation.relatedSiteField, isName field)
    (site? : Option Text) :
    ∃ asked, tokenize (Query.build p relation site?).whereClause = .ok asked ∧
      asked.map Token.lexeme = scopeLexemes (scope? p relation site?) ++ p.asked ∧
      (Query.build p relation site?).siteScoped = (scope? p relation site?).isSome := by
  have site : ∀ pair ∈ scope? p relation site?, isName pair.1 := fun pair found =>
    named pair.1 (scope?_eq_some_iff.1 found).1
  have field := isName_field_of_mem_detect read member
  have scanned := scanned_append.2 ⟨scanned_scopePieces site _, scanned_askedPieces field⟩
  refine ⟨_, tokenize_eq_ok_iff.2 (.inl (tokenizeAs_eq_ok_iff.2
    ⟨_, joined_whereClause p relation site?, scanned, rfl⟩)), ?_, ?_⟩
  · rw [map_lexeme_place, lexemes_append, lexemes_scopePieces]
    rfl
  · rw [Query.build, siteClause?_eq, Option.isSome_map]

theorem tokenize_build_path :
    tokenizeAs .plain pathFilter = .ok pathTokens ∧ pathPredicate ∈ detect pathTokens ∧
      (∀ field ∈ assetRelation.relatedSiteField, isName field) ∧
      ∃ asked, tokenize (Query.build pathPredicate assetRelation
          (some " 6\" or \\ ".toList)).whereClause = .ok asked ∧
        asked.map Token.lexeme =
          [.name "siteid".toList, .comparison .equal, .literal "6\" or \\".toList .double,
            .name "and".toList, .name "assettype".toList, .comparison .equal,
            .literal "SENSOR".toList .double] ∧
        (Query.build pathPredicate assetRelation (some " 6\" or \\ ".toList)).siteScoped = true := by
  have member : pathPredicate ∈ detect pathTokens := by simp [detect_path]
  have named : ∀ field ∈ assetRelation.relatedSiteField, isName field := by decide
  exact ⟨read_path.2.2.1, member, named,
    tokenize_build read_path.2.2.1 member named (some " 6\" or \\ ".toList)⟩

end Prejoin
