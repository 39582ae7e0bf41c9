import Prejoin.Url.Form
import Prejoin.Url.Host
import Prejoin.Url.Path

set_option autoImplicit false

namespace Prejoin.Url

structure Authority where
  user : Text
  password : Text
  host : Option Host
  portNumber : Option Nat
deriving DecidableEq, Repr

def Authority.toText (authority : Authority) : Text :=
  let password := if authority.password = [] then [] else ':' :: authority.password
  let named := authority.user ++ password
  let host := (authority.host.map Host.toText).getD []
  let number := (authority.portNumber.map fun n => ':' :: decimal n).getD []
  (if named = [] then [] else named ++ ['@']) ++ host ++ number

end Prejoin.Url

namespace Prejoin

-- The path is kept as text, since not all addresses have one of segments.
structure Url where
  scheme : Text
  authority : Option Url.Authority
  path : Text
  query : Option Text
  fragment : Option Text
deriving DecidableEq, Repr

namespace Url

def optional (mark : Char) : Option Text → Text
  | none => []
  | some s => mark :: s

-- A path with two slashes at its start would be read as a host where there is none, so a dot
-- segment goes before it.
def beforePath (url : Url) : Text :=
  match url.authority with
  | some authority => ['/', '/'] ++ authority.toText
  | none => if ['/', '/'].isPrefixOf url.path then ['/', '.'] else []

def toText (url : Url) : Text :=
  url.scheme ++ ':' :: url.beforePath ++ url.path ++ optional '?' url.query ++
    optional '#' url.fragment

def addPairs (url : Url) (pairs : List (Text × Text)) : Url :=
  { url with query := some (appendPairs (url.query.getD []) pairs) }

end Url

end Prejoin
