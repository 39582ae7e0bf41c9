import Prejoin.Proofs.Parts

set_option autoImplicit false

namespace Prejoin

def comparisonPieces (field value : Text) : List Piece :=
  [⟨field, some (.name field)⟩, ⟨['='], some (.comparison .equal)⟩,
    ⟨quoteLiteral value, some (.literal value .double)⟩]

def orPieces : List Piece :=
  [⟨[' '], none⟩, ⟨"or".toList, some (.name "or".toList)⟩, ⟨[' '], none⟩]

def alternativesPieces (field : Text) (keys : List Text) : List Piece :=
  (List.intersperse orPieces (keys.map (comparisonPieces field))).flatten

def clausePieces (field : Text) (keys : List Text) : List Piece :=
  if keys = [] then comparisonPieces field unmatchedKey
  else ⟨['('], some .opening⟩ :: (alternativesPieces field keys ++ [⟨[')'], some .closing⟩])

theorem map_intersperse {α β : Type} (f : α → β) (separator : α) (items : List α) :
    (List.intersperse separator items).map f =
      List.intersperse (f separator) (items.map f) := by
  induction items with
  | nil => rfl
  | cons x rest ih =>
    cases rest with
    | nil => rfl
    | cons y more => simpa using ih

theorem eq_or_mem_of_mem_intersperse {α : Type} {separator item : α} {items : List α}
    (member : item ∈ List.intersperse separator items) : item = separator ∨ item ∈ items := by
  induction items with
  | nil => exact .inr member
  | cons x rest ih =>
    cases rest with
    | nil => exact .inr member
    | cons y more =>
      rw [List.intersperse_cons_cons, List.mem_cons, List.mem_cons] at member
      rcases member with rfl | rfl | later
      · exact .inr List.mem_cons_self
      · exact .inl rfl
      · exact (ih later).imp_right (List.mem_cons_of_mem x)

theorem mem_intersperse_of_mem {α : Type} {separator item : α} {items : List α}
    (member : item ∈ items) : item ∈ List.intersperse separator items := by
  induction items with
  | nil => exact member
  | cons x rest ih =>
    cases rest with
    | nil => exact member
    | cons y more =>
      rw [List.intersperse_cons_cons]
      rcases List.mem_cons.1 member with rfl | later
      · exact List.mem_cons_self
      · exact List.mem_cons_of_mem x (List.mem_cons_of_mem separator (ih later))

theorem joined_flatten (chunks : List (List Piece)) :
    joined chunks.flatten = (chunks.map joined).flatten := by
  simp only [joined, List.flatMap_def, List.map_flatten, List.flatten_flatten, List.map_map]
  rfl

theorem joined_comparisonPieces (field value : Text) :
    joined (comparisonPieces field value) = comparison field value := by
  simp [comparisonPieces, comparison]

theorem joined_alternativesPieces (field : Text) (keys : List Text) :
    joined (alternativesPieces field keys) =
      (List.intersperse " or ".toList (keys.map (comparison field))).flatten := by
  rw [alternativesPieces, joined_flatten, map_intersperse, List.map_map]
  have each : joined ∘ comparisonPieces field = comparison field :=
    funext fun key => joined_comparisonPieces field key
  rw [each]
  rfl

theorem joined_clausePieces (field : Text) (keys : List Text) :
    joined (clausePieces field keys) = replacementFor field keys := by
  unfold clausePieces replacementFor
  split
  next => exact joined_comparisonPieces field unmatchedKey
  next => simp [joined_alternativesPieces, disjunction]

def comparisonLexemes (field value : Text) : List Lexeme :=
  [.name field, .comparison .equal, .literal value .double]

def clauseLexemes (field : Text) (keys : List Text) : List Lexeme :=
  if keys = [] then comparisonLexemes field unmatchedKey
  else
    .opening ::
      (List.intersperse [.name "or".toList] (keys.map (comparisonLexemes field))).flatten ++
        [.closing]

theorem lexemes_clausePieces (field : Text) (keys : List Text) :
    lexemes (clausePieces field keys) = clauseLexemes field keys := by
  have alternatives : lexemes (alternativesPieces field keys) =
      (List.intersperse [.name "or".toList] (keys.map (comparisonLexemes field))).flatten := by
    rw [alternativesPieces, lexemes, List.filterMap_flatten, map_intersperse, List.map_map]
    rfl
  unfold clausePieces clauseLexemes
  split
  next => rfl
  next => rw [lexemes_cons rfl, lexemes_append, alternatives]; rfl

theorem separated_flatten {chunks : List (List Piece)}
    (each : ∀ chunk ∈ chunks, ∀ after, Separated chunk after) (after : Text) :
    Separated chunks.flatten after := by
  induction chunks with
  | nil => trivial
  | cons chunk rest ih =>
    rw [List.flatten_cons, separated_append]
    exact ⟨each chunk List.mem_cons_self _,
      ih fun chunk inside => each chunk (List.mem_cons_of_mem _ inside)⟩

theorem separated_comparisonPieces (field value after : Text) :
    Separated (comparisonPieces field value) after := by
  have stops : continuesName '=' = false := by decide
  simp [comparisonPieces, Separated, Piece.EndsBefore, Piece.absorbs, Lexeme.absorbs, stops]

theorem separated_orPieces (after : Text) : Separated orPieces after := by
  have stops : continuesName ' ' = false := by decide
  simp [orPieces, Separated, Piece.EndsBefore, Piece.absorbs, Lexeme.absorbs, stops]

theorem separated_clausePieces (field : Text) (keys : List Text) (after : Text) :
    Separated (clausePieces field keys) after := by
  have alternatives (after : Text) : Separated (alternativesPieces field keys) after := by
    refine separated_flatten (fun chunk member after => ?_) after
    rcases eq_or_mem_of_mem_intersperse member with rfl | member
    · exact separated_orPieces after
    · obtain ⟨key, -, rfl⟩ := List.mem_map.1 member
      exact separated_comparisonPieces field key after
  unfold clausePieces
  split
  next => exact separated_comparisonPieces field unmatchedKey after
  next =>
    refine ⟨by simp [Piece.EndsBefore, Piece.absorbs, Lexeme.absorbs], ?_⟩
    rw [separated_append]
    exact ⟨alternatives _, by simp [Separated, Piece.EndsBefore, Piece.absorbs, Lexeme.absorbs]⟩

def isUnescaped (value : Text) : Bool :=
  value.all fun c => c ≠ '"' && c ≠ '\\'

theorem length_le_escape (value : Text) : value.length ≤ (escape value).length := by
  induction value with
  | nil => simp
  | cons c rest ih =>
    rw [escape_cons]
    split <;> simp <;> omega

theorem escape_eq_self_iff {value : Text} : escape value = value ↔ isUnescaped value := by
  induction value with
  | nil => simp [isUnescaped]
  | cons c rest ih =>
    rw [escape_cons]
    split
    next special =>
      constructor
      · intro same
        have longer := congrArg List.length same
        have bound := length_le_escape rest
        simp only [List.length_append, List.length_cons, List.length_nil] at longer
        omega
      · intro plain
        rcases special with rfl | rfl <;> simp [isUnescaped] at plain
    next ordinary =>
      have split : isUnescaped (c :: rest) ↔ isUnescaped rest := by
        simp_all [isUnescaped]
      simpa [split] using ih

def keyPiece (key : Text) : Piece :=
  ⟨quoteLiteral key, some (.literal key .double)⟩

theorem reads_keyPiece_escaped (key : Text) : (keyPiece key).Reads .escaped :=
  reads_literal_iff.2 ⟨escape key, rfl, encloses_escape key, unescape_escape key⟩

theorem reads_keyPiece_plain_iff {key : Text} :
    (keyPiece key).Reads .plain ↔ isUnescaped key := by
  constructor
  · intro reads
    obtain ⟨body, source, -, value⟩ := reads_literal_iff.1 reads
    have same : escape key = body := by simpa [quoteLiteral, Quote.mark] using source
    rw [← escape_eq_self_iff, same]
    exact value
  · intro plain
    have absent : '"' ∉ key := by
      intro inside
      simpa using List.all_eq_true.1 plain _ inside
    refine reads_literal_iff.2 ⟨key, ?_, encloses_plain_iff.2 absent, rfl⟩
    simp [quoteLiteral, escape_eq_self_iff.2 plain, Quote.mark]

section

variable {reading : Reading} {field : Text}

theorem reads_equal : Piece.Reads reading ⟨['='], some (.comparison .equal)⟩ :=
  .mark (by decide) (by decide) (by decide) (by decide)

theorem reads_comparisonPieces_iff (named : isName field) {value : Text} :
    (∀ piece ∈ comparisonPieces field value, piece.Reads reading) ↔
      (keyPiece value).Reads reading := by
  simp [comparisonPieces, keyPiece, reads_equal, Piece.Reads.name named]

theorem reads_orPieces {piece : Piece} (inside : piece ∈ orPieces) : piece.Reads reading := by
  have blank : Piece.Reads reading ⟨[' '], none⟩ := .blank (by decide)
  have word : Piece.Reads reading ⟨"or".toList, some (.name "or".toList)⟩ := .name (by decide)
  simp only [orPieces, List.mem_cons, List.not_mem_nil, or_false] at inside
  rcases inside with rfl | rfl | rfl
  · exact blank
  · exact word
  · exact blank

theorem reads_alternativesPieces_iff (named : isName field) {keys : List Text} :
    (∀ piece ∈ alternativesPieces field keys, piece.Reads reading) ↔
      ∀ key ∈ keys, (keyPiece key).Reads reading := by
  constructor
  · intro all key member
    rw [← reads_comparisonPieces_iff named]
    intro piece inside
    exact all piece (List.mem_flatten.2
      ⟨_, mem_intersperse_of_mem (List.mem_map_of_mem member), inside⟩)
  · intro all piece inside
    obtain ⟨chunk, member, inside⟩ := List.mem_flatten.1 inside
    rcases eq_or_mem_of_mem_intersperse member with rfl | member
    · exact reads_orPieces inside
    · obtain ⟨key, known, rfl⟩ := List.mem_map.1 member
      exact (reads_comparisonPieces_iff named).2 (all key known) piece inside

theorem reads_clausePieces_iff (named : isName field) {keys : List Text} :
    (∀ piece ∈ clausePieces field keys, piece.Reads reading) ↔
      ∀ key ∈ keys, (keyPiece key).Reads reading := by
  have opening : Piece.Reads reading ⟨['('], some .opening⟩ :=
    .mark (by decide) (by decide) (by decide) (by decide)
  have closing : Piece.Reads reading ⟨[')'], some .closing⟩ :=
    .mark (by decide) (by decide) (by decide) (by decide)
  have unmatched : (keyPiece unmatchedKey).Reads reading := by
    cases reading with
    | escaped => exact reads_keyPiece_escaped unmatchedKey
    | plain => exact reads_keyPiece_plain_iff.2 (by decide)
  unfold clausePieces
  split
  next none => simpa [none] using (reads_comparisonPieces_iff named).2 unmatched
  next =>
    rw [← reads_alternativesPieces_iff named]
    simp only [List.mem_cons, List.mem_append, List.not_mem_nil, or_false]
    constructor
    · exact fun all piece inside => all piece (.inr (.inl inside))
    · rintro all piece (rfl | inside | rfl)
      · exact opening
      · exact all piece inside
      · exact closing

theorem scanned_clausePieces (named : isName field) (keys : List Text) (after : Text) :
    Scanned .escaped (clausePieces field keys) after := by
  have separated := separated_clausePieces field keys after
  exact scanned_iff.2 ⟨(reads_clausePieces_iff named).2 fun key _ => reads_keyPiece_escaped key,
    separated⟩

end

end Prejoin
