import Prejoin.Url.Percent

set_option autoImplicit false

namespace Prejoin.Url

-- `http` and its like name hosts, and take a backslash for a slash. `file` does so too, and knows
-- the letters of drives.
inductive Kind where
  | web | file | other
deriving DecidableEq, Repr

def Kind.ofScheme (scheme : Text) : Kind :=
  if scheme = "file".toList then .file
  else if (["http", "https", "ws", "wss", "ftp"].map String.toList).contains scheme then .web
  else .other

def Kind.isSpecial : Kind → Bool
  | .web | .file => true
  | .other => false

def Kind.isSlash (kind : Kind) (c : Char) : Bool :=
  c = '/' || (kind.isSpecial && c = '\\')

def endsPath (c : Char) : Bool :=
  c = '?' || c = '#'

def dots : Text → Text
  | '%' :: '2' :: 'e' :: rest | '%' :: '2' :: 'E' :: rest => '.' :: dots rest
  | c :: rest => c :: dots rest
  | [] => []

def isHere (segment : Text) : Bool :=
  dots segment = ['.']

def isAbove (segment : Text) : Bool :=
  dots segment = ['.', '.']

def isDriveMark (c : Char) : Bool :=
  c = ':' || c = '|'

def isDrive : Text → Bool
  | [letter, mark] => letter.isAlpha && isDriveMark mark
  | _ => false

-- A backslash ends the name of a drive even where it is no slash.
def startsWithDrive : Text → Bool
  | letter :: mark :: rest =>
    letter.isAlpha && isDriveMark mark && (rest = [] || rest.head? = some '\\')
  | _ => false

def isBreak (c : Char) : Bool :=
  c = '\t' || c = '\n' || c = '\r'

-- Tabs and line breaks do not count in an address.
def unbroken (s : Text) : Text :=
  s.filter fun c => !isBreak c

-- A break right after the colon of a drive ends the drive's segment, unless the segment ends there
-- anyway.
def brokenAfterDrive? (segment : Text) : Option (Text × Text) :=
  let drive := unbroken (segment.takeWhile (· ≠ ':')) ++ [':']
  match (segment.dropWhile (· ≠ ':')).drop 1 with
  | c :: rest =>
    if isBreak c && isDrive drive && unbroken rest ≠ [] then some (drive, unbroken rest) else none
  | [] => none

-- A path is on a drive if its first segment is the drive's name.
structure Path where
  directories : List Text
  last? : Option Text
  isOnDrive : Bool
deriving DecidableEq, Repr

def Path.root : Path := ⟨[], none, false⟩

def Path.toText (path : Path) : Text :=
  '/' :: path.directories.flatMap (· ++ ['/']) ++ path.last?.getD []

-- The directories without the last one; a drive is never left.
def leave (directories : List Text) : List Text :=
  if directories.getLast?.any startsWithDrive then directories else directories.dropLast

def Path.ofFirst (segment : Text) : Path :=
  let name := percentEncode inPath (unbroken segment)
  match brokenAfterDrive? segment with
  | some (drive, rest) => ⟨[drive], some (percentEncode inPath rest), false⟩
  | none =>
    if isDrive name then ⟨[], some (name.take 1 ++ [':']), true⟩ else ⟨[], some name, false⟩

def Path.enter (kind : Kind) (path : Path) (segment : Text) : Path :=
  let directories := path.directories ++ path.last?.toList
  let name := percentEncode inPath (unbroken segment)
  if isAbove name then { path with directories := leave directories, last? := none }
  else if isHere name then { path with directories, last? := none }
  else if kind = .file ∧ directories = [] then Path.ofFirst segment
  else { path with directories, last? := some name }

def segments (kind : Kind) : Text → List Text
  | [] => [[]]
  | c :: rest =>
    let parts := segments kind rest
    if kind.isSlash c then [] :: parts else (c :: parts.headD []) :: parts.tail

-- The path of a text without its first slash. A file's path has no empty segments at its start.
def Path.ofText (kind : Kind) (s : Text) : Path :=
  let path := (segments kind s).foldl (Path.enter kind) Path.root
  if kind = .file then { path with directories := path.directories.dropWhile (· = []) } else path

end Prejoin.Url
