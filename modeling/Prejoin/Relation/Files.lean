import Prejoin.Dict

set_option autoImplicit false

namespace Prejoin

inductive File where
  | content (bytes : ByteArray)
  | directory

abbrev Files := Dict File

-- A file with a longer name cannot be there.
def maxNameBytes : Nat := 255

def Files.text? (files : Files) (path : Text) : Option Text :=
  match files.lookup path with
  | some (.content bytes) => (String.fromUTF8? bytes).map String.toList
  | _ => none

abbrev Place := List Text

def Place.path (place : Place) : Text :=
  ['/'].intercalate place

def Files.at? (files : Files) (place : Place) : Option File :=
  if place = [] then some .directory else files.lookup place.path

def isAbsolute (path : Text) : Bool :=
  path.head? = some '/'

def staysHere (name : Text) : Bool :=
  name = [] || name = ['.']

def goesUp (name : Text) : Bool :=
  name = ['.', '.']

-- Only from a directory do names lead on, and none leads out of the configuration directory.
def Files.step? (files : Files) (place : Place) (name : Text) : Option Place :=
  match files.at? place with
  | some .directory =>
    if staysHere name then some place
    else if goesUp name then (if place = [] then none else some place.dropLast)
    else if maxNameBytes < byteLength name then none
    else some (place ++ [name])
  | _ => none

def Files.locate? (files : Files) (path : Text) : Option Place :=
  if isAbsolute path then none else (splitOn '/' path).foldlM files.step? []

def Files.enter? (files : Files) (place : Place) (name : Text) : Option (Files × Place) := do
  let next ← files.step? place name
  match files.at? next with
  | none => return (put next.path .directory files, next)
  | some .directory => return (files, next)
  | some (.content _) => none

def Files.enterAll? (files : Files) (names : List Text) : Option (Files × Place) :=
  names.foldlM (fun (files, place) name => files.enter? place name) (files, [])

def Files.writeIn? (files : Files) (directories : List Text) (name : Text) (file : File) :
    Option Files := do
  let (files, place) ← files.enterAll? directories
  let next ← files.step? place name
  match files.at? next with
  | some .directory => none
  | _ => return put next.path file files

def Files.write (path : Text) (file : File) (files : Files) : Files :=
  let names := splitOn '/' path
  let written? : Option Files :=
    if isAbsolute path then none
    else
      match file with
      | .directory => (files.enterAll? names).map Prod.fst
      | .content _ => files.writeIn? names.dropLast (names.getLastD []) file
  written?.getD files

def isWithin (place : Place) (path : Text) : Bool :=
  place = [] || path = place.path || (place.path ++ ['/']).isPrefixOf path

def Files.remove (path : Text) (files : Files) : Files :=
  match files.locate? path with
  | some place => files.filter fun named => !isWithin place named.1
  | none => files

end Prejoin
