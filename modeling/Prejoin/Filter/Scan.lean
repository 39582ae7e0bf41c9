import Prejoin.Text.Blank
import Prejoin.Filter.Token

set_option autoImplicit false

namespace Prejoin

-- A backslash inside a literal is an escape of the next character, or stands for itself.
inductive Reading where
  | escaped | plain
deriving DecidableEq, Repr

def unescape : Text → Text
  | [] => []
  | [c] => [c]
  | c :: d :: rest => if c = '\\' then d :: unescape rest else c :: unescape (d :: rest)

def Reading.value : Reading → Text → Text
  | .escaped, body => unescape body
  | .plain, body => body

def splitLiteral (reading : Reading) (mark : Char) : Text → Option (Text × Text)
  | [] => none
  | [c] => if c = mark then some ([], []) else none
  | c :: d :: rest =>
    if c = mark then some ([], d :: rest)
    else if reading = .escaped ∧ c = '\\' then
      (splitLiteral reading mark rest).map fun (body, after) => (c :: d :: body, after)
    else
      (splitLiteral reading mark (d :: rest)).map fun (body, after) => (c :: body, after)

theorem splitLiteral_source {reading : Reading} {mark : Char} {s body after : Text}
    (split : splitLiteral reading mark s = some (body, after)) : s = body ++ mark :: after := by
  fun_induction splitLiteral reading mark s generalizing body after with
  | case1 => simp at split
  | case2 => simp_all
  | case3 => simp at split
  | case4 => simp_all
  | case5 c d rest _ _ ih =>
    obtain ⟨⟨_, _⟩, found, same⟩ := Option.map_eq_some_iff.1 split
    obtain ⟨rfl, rfl⟩ := Prod.mk.inj same
    simp [ih found]
  | case6 c d rest _ _ ih =>
    obtain ⟨⟨_, _⟩, found, same⟩ := Option.map_eq_some_iff.1 split
    obtain ⟨rfl, rfl⟩ := Prod.mk.inj same
    simp [ih found]

structure Piece where
  source : Text
  lexeme : Option Lexeme
deriving DecidableEq, Repr

def Lexeme.ofChar (c : Char) : Lexeme :=
  match c with
  | '.' => .dot
  | ',' => .comma
  | '(' => .opening
  | ')' => .closing
  | '=' => .comparison .equal
  | '<' => .comparison .less
  | '>' => .comparison .greater
  | c => .other c

def Comparison.ofChars? (c d : Char) : Option Comparison :=
  match c, d with
  | '!', '=' => some .unequal
  | '<', '=' => some .atMost
  | '>', '=' => some .atLeast
  | _, _ => none

def readMark (c : Char) (rest : Text) : Piece × Text :=
  match rest with
  | [] => (⟨[c], some (.ofChar c)⟩, [])
  | d :: after =>
    match Comparison.ofChars? c d with
    | some sign => (⟨[c, d], some (.comparison sign)⟩, after)
    | none => (⟨[c], some (.ofChar c)⟩, d :: after)

def readWord (continues : Char → Bool) (lexeme : Text → Lexeme) (c : Char) (rest : Text) :
    Piece × Text :=
  let word := c :: rest.takeWhile continues
  (⟨word, some (lexeme word)⟩, rest.dropWhile continues)

def readPiece (reading : Reading) (c : Char) (rest : Text) : Option (Piece × Text) :=
  match Quote.ofMark? c with
  | some quote =>
    (splitLiteral reading c rest).map fun (body, after) =>
      (⟨c :: body ++ [c], some (.literal (reading.value body) quote)⟩, after)
  | none =>
    if isBlank c then some (⟨[c], none⟩, rest)
    else if startsName c then some (readWord continuesName .name c rest)
    else if c.isDigit then some (readWord continuesNumber .number c rest)
    else some (readMark c rest)

theorem readMark_source (c : Char) (rest : Text) :
    (readMark c rest).1.source ++ (readMark c rest).2 = c :: rest := by
  unfold readMark
  split
  next => rfl
  next => split <;> rfl

theorem readPiece_source {reading : Reading} {c : Char} {rest after : Text} {piece : Piece}
    (read : readPiece reading c rest = some (piece, after)) :
    piece.source ++ after = c :: rest := by
  unfold readPiece at read
  split at read
  next quote _ =>
    obtain ⟨⟨body, tail⟩, split, same⟩ := Option.map_eq_some_iff.1 read
    simp only [Prod.mk.injEq] at same
    obtain ⟨rfl, rfl⟩ := same
    simp [splitLiteral_source split]
  next =>
    split at read
    next =>
      simp only [Option.some.injEq, Prod.mk.injEq] at read
      obtain ⟨rfl, rfl⟩ := read
      rfl
    next =>
      split at read
      next =>
        simp only [readWord, Option.some.injEq, Prod.mk.injEq] at read
        obtain ⟨rfl, rfl⟩ := read
        simp
      next =>
        split at read
        next =>
          simp only [readWord, Option.some.injEq, Prod.mk.injEq] at read
          obtain ⟨rfl, rfl⟩ := read
          simp
        next =>
          have marked := readMark_source c rest
          simp only [Option.some.injEq] at read
          simpa [read] using marked

theorem readPiece_nonempty {reading : Reading} {c : Char} {rest after : Text} {piece : Piece}
    (read : readPiece reading c rest = some (piece, after)) : piece.source ≠ [] := by
  unfold readPiece at read
  split at read
  next quote _ =>
    obtain ⟨⟨body, tail⟩, split, same⟩ := Option.map_eq_some_iff.1 read
    simp only [Prod.mk.injEq] at same
    simp [← same.1]
  next =>
    simp only [readWord, readMark] at read
    split at read
    next => grind
    next =>
      split at read
      next => grind
      next =>
        split at read
        next => grind
        next =>
          simp only [Option.some.injEq] at read
          split at read
          next => grind
          next => split at read <;> grind

theorem readPiece_shorter {reading : Reading} {c : Char} {rest after : Text} {piece : Piece}
    (read : readPiece reading c rest = some (piece, after)) : after.length < rest.length + 1 := by
  have source := congrArg List.length (readPiece_source read)
  have positive := List.length_pos_iff.2 (readPiece_nonempty read)
  simp only [List.length_append, List.length_cons] at source
  omega

def scan (reading : Reading) : Text → List Piece × Text
  | [] => ([], [])
  | c :: rest =>
    match read : readPiece reading c rest with
    | none => ([], c :: rest)
    | some (piece, after) =>
      have := readPiece_shorter read
      let (pieces, remainder) := scan reading after
      (piece :: pieces, remainder)
termination_by s => s.length

def joined (pieces : List Piece) : Text :=
  pieces.flatMap Piece.source

theorem scan_source (reading : Reading) (s : Text) :
    joined (scan reading s).1 ++ (scan reading s).2 = s := by
  fun_induction scan reading s with
  | case1 => rfl
  | case2 => rfl
  | case3 c rest piece after read _ pieces remainder scanned ih =>
    simp only [scanned] at ih
    simp [joined, ← readPiece_source read, ← ih]

def place (offset : Nat) : List Piece → List Token
  | [] => []
  | piece :: rest =>
    let stop := offset + byteLength piece.source
    match piece.lexeme with
    | none => place stop rest
    | some lexeme => ⟨lexeme, ⟨offset, stop⟩⟩ :: place stop rest

inductive ScanError where
  | unterminated (offset : Nat)
deriving DecidableEq, Repr

def ScanError.message : ScanError → Text
  | .unterminated offset =>
    "Unterminated string literal starting at byte ".toList ++ decimal offset

def tokenizeAs (reading : Reading) (filter : Text) : Except ScanError (List Token) :=
  match scan reading filter with
  | (pieces, []) => .ok (place 0 pieces)
  | (pieces, _ :: _) => .error (.unterminated (byteLength (joined pieces)))

-- A filter with neither reading gets the error of the first.
def tokenize (filter : Text) : Except ScanError (List Token) :=
  match tokenizeAs .escaped filter with
  | .ok tokens => .ok tokens
  | .error escaped =>
    match tokenizeAs .plain filter with
    | .ok tokens => .ok tokens
    | .error _ => .error escaped

end Prejoin
