import Prejoin.Url.Percent

set_option autoImplicit false

namespace Prejoin.Url

def isFormChar (c : Char) : Bool :=
  c.isAlphanum || c = '*' || c = '-' || c = '.' || c = '_'

def formEncode (s : Text) : Text :=
  s.flatMap fun c => if isFormChar c then [c] else if c = ' ' then ['+'] else percentChar c

def formPair (pair : Text × Text) : Text :=
  formEncode pair.1 ++ '=' :: formEncode pair.2

def appendPairs (query : Text) (pairs : List (Text × Text)) : Text :=
  pairs.foldl (fun query pair => (if query = [] then [] else query ++ ['&']) ++ formPair pair) query

end Prejoin.Url
