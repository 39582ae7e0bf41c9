import Prejoin.Text.Blank
import Prejoin.Url.Basic

set_option autoImplicit false

namespace Prejoin.Url

def trimmed (s : Text) : Text :=
  let atEnd (c : Char) : Bool := c.toNat ≤ 0x20
  trimEnd atEnd (s.dropWhile atEnd)

def isSchemeChar (c : Char) : Bool :=
  c.isAlphanum || c = '+' || c = '-' || c = '.'

def scheme? (s : Text) : Option (Text × Text) :=
  match s.takeWhile isSchemeChar, s.dropWhile isSchemeChar with
  | c :: name, ':' :: rest => if c.isAlpha then some (foldCase (c :: name), rest) else none
  | _, _ => none

def defaultPortNumber? (scheme : Text) : Option Nat :=
  if scheme = "http".toList ∨ scheme = "ws".toList then some 80
  else if scheme = "https".toList ∨ scheme = "wss".toList then some 443
  else if scheme = "ftp".toList then some 21
  else none

def inQueryOf (kind : Kind) : Char → Bool :=
  if kind.isSpecial then inSpecialQuery else inQuery

def readEnd (kind : Kind) (s : Text) : Option Text × Option Text :=
  let fragment : Text → Option Text
    | '#' :: rest => some (percentEncode inFragment rest)
    | _ => none
  match s with
  | '?' :: rest =>
    (some (percentEncode (inQueryOf kind) (rest.takeWhile (· ≠ '#'))),
      fragment (rest.dropWhile (· ≠ '#')))
  | rest => (none, fragment rest)

def finish (kind : Kind) (scheme : Text) (authority : Option Authority) (path : Text → Text)
    (s : Text) : Url :=
  let (query, fragment) := readEnd kind (s.dropWhile fun c => !endsPath c)
  { scheme, authority, query, fragment, path := path (s.takeWhile fun c => !endsPath c) }

def rootedPath (kind : Kind) (s : Text) : Text :=
  (Path.ofText kind (match s with
    | c :: rest => if kind.isSlash c then rest else c :: rest
    | [] => [])).toText

-- After a host, only an address of another kind may be without a path.
def pathAfterHost (kind : Kind) (s : Text) : Text :=
  if s = [] ∧ !kind.isSpecial then [] else rootedPath kind s

def endsAuthority (kind : Kind) (c : Char) : Bool :=
  kind.isSlash c || endsPath c

def splitUser? (kind : Kind) (s : Text) : Option (Text × Text) :=
  let authority := s.takeWhile fun c => !endsAuthority kind c
  let after := authority.reverse.takeWhile (· ≠ '@')
  match authority.reverse.dropWhile (· ≠ '@') with
  | _ :: before =>
    some (before.reverse, after.reverse ++ s.dropWhile fun c => !endsAuthority kind c)
  | [] => none

def readUser (s : Text) : Text × Text :=
  let encode := percentEncode inUserInfo
  (encode (s.takeWhile (· ≠ ':')), encode ((s.dropWhile (· ≠ ':')).drop 1))

def splitHost (kind : Kind) (inBrackets : Bool) : Text → Text × Text
  | [] => ([], [])
  | c :: rest =>
    if (c = ':' && !inBrackets) || endsAuthority kind c then ([], c :: rest)
    else
      let inside := if c = '[' then true else if c = ']' then false else inBrackets
      let (host, after) := splitHost kind inside rest
      (c :: host, after)

def maxPortNumber : Nat := 65535

def readPortNumber (s : Text) : Except UrlError (Option Nat × Text) :=
  let digits := s.takeWhile Char.isDigit
  let rest := s.dropWhile Char.isDigit
  let number := digits.foldl (fun n c => 10 * n + (c.toNat - '0'.toNat)) 0
  if maxPortNumber < number then .error .invalidPortNumber
  else
    match rest with
    | [] => .ok (if digits = [] then none else some number, [])
    | c :: rest =>
      if c = '/' ∨ c = '\\' ∨ endsPath c then
        .ok (if digits = [] then none else some number, c :: rest)
      else .error .invalidPortNumber

def readHost (kind : Kind) (s : Text) : Except UrlError (Option Host) :=
  if kind.isSpecial then
    if s = [] then .error .emptyHost else (Host.ofDomain? s).map some
  else if s = [] then .ok none
  else (Host.ofName? s).map some

def readHostAndNumber (kind : Kind) (scheme s : Text) :
    Except UrlError (Option Host × Option Nat × Text) := do
  let (hostText, rest) := splitHost kind false s
  let host ← readHost kind hostText
  match rest with
  | ':' :: rest =>
    if host.isNone then .error .emptyHost
    else
      let (number, rest) ← readPortNumber rest
      .ok (host, if number = defaultPortNumber? scheme then none else number, rest)
  | rest => .ok (host, none, rest)

-- An at sign with nothing before it is passed over, unless nothing is between it and the path.
def readUserPart (kind : Kind) (s : Text) : Except UrlError (Text × Text × Text) :=
  match splitUser? kind s with
  | none => .ok ([], [], s)
  | some ([], rest) =>
    if rest.head?.any (endsAuthority kind) then .error .emptyHost else .ok ([], [], rest)
  | some (before, rest) =>
    let (user, password) := readUser before
    .ok (user, password, rest)

def readAuthority (kind : Kind) (scheme s : Text) : Except UrlError Url := do
  let (user, password, rest) ← readUserPart kind s
  let (host, portNumber, rest) ← readHostAndNumber kind scheme rest
  if host.isNone ∧ (user ≠ [] ∨ password ≠ []) then .error .emptyHost
  else
    return finish kind scheme (some { user, password, host, portNumber }) (pathAfterHost kind) rest

def localHost : Text := "localhost".toList

-- The host of a file is left out if it is this one.
def readFileHost (s : Text) : Except UrlError (Option Host) :=
  if s = [] then .ok none
  else (Host.ofDomain? s).map fun host => if host = .name localHost then none else some host

-- A path on a drive is on no other host.
def fileUrl (host : Option Host) (s : Text) : Url :=
  let path := Path.ofText .file (s.takeWhile fun c => !endsPath c)
  let (query, fragment) := readEnd .file (unbroken (s.dropWhile fun c => !endsPath c))
  let host := if path.isOnDrive then none else host
  { scheme := "file".toList, path := path.toText, query, fragment
    authority := some { user := [], password := [], portNumber := none, host } }

def afterSlash? (s : Text) : Option Text :=
  match s.dropWhile isBreak with
  | c :: rest => if Kind.file.isSlash c then some rest else none
  | [] => none

-- After two slashes comes a host, unless a drive stands in its place. Without a host the slash
-- after it counts as a segment.
def readFileAuthority (s : Text) : Except UrlError Url := do
  let hostText := unbroken (s.takeWhile fun c => !endsAuthority .file c)
  let rest := s.dropWhile fun c => !endsAuthority .file c
  if isDrive hostText then return fileUrl none s
  else
    match ← readFileHost hostText with
    | some host => return fileUrl (some host) ((afterSlash? rest).getD rest)
    | none => return fileUrl none rest

-- The breaks in the text of a file's address are still there.
def readFile (s : Text) : Except UrlError Url :=
  match afterSlash? s with
  | none => .ok (fileUrl none s)
  | some rest =>
    match afterSlash? rest with
    | none => .ok (fileUrl none rest)
    | some rest => readFileAuthority rest

def readOther (scheme s : Text) : Except UrlError Url :=
  match s with
  | '/' :: '/' :: rest => readAuthority .other scheme rest
  | '/' :: _ => .ok (finish .other scheme none (rootedPath .other) s)
  | _ => .ok (finish .other scheme none (percentEncode inControls) s)

def parse? (s : Text) : Except UrlError Url :=
  match scheme? (unbroken (trimmed s)) with
  | none => .error .noScheme
  | some (scheme, rest) =>
    match Kind.ofScheme scheme with
    | .file => readFile (((trimmed s).dropWhile (· ≠ ':')).drop 1)
    | .web => readAuthority .web scheme (rest.dropWhile Kind.web.isSlash)
    | .other => readOther scheme rest

end Prejoin.Url
