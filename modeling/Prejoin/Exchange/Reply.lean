import Prejoin.Json.ReadValue

set_option autoImplicit false

namespace Prejoin

inductive Reply where
  | decoded (body : Json)
  | envelope (status : Nat) (body : Text)

inductive ExchangeError where
  | failed (reason : Text)
  | status (code : Nat) (body : Text)
  | unparsable (error : Json.ReadError)

def ExchangeError.message : ExchangeError → Text
  | .failed reason => "Transport failed: ".toList ++ reason
  | .status code body => "Unexpected status ".toList ++ decimal code ++ ": ".toList ++ body
  | .unparsable error => "Unparsable response body: ".toList ++ error.message

def previewLength : Nat := 256

def isSuccess (status : Nat) : Bool :=
  200 ≤ status && status < 300

def Reply.body? : Reply → Except ExchangeError Json
  | .decoded body => .ok body
  | .envelope status body =>
    if isSuccess status then
      match Json.parse body with
      | .ok value => .ok value
      | .error error => .error (.unparsable error)
    else .error (.status status (body.take previewLength))

abbrev Answer := Except ExchangeError Reply

def Answer.body? (answer : Answer) : Except ExchangeError Json :=
  match answer with
  | .ok reply => reply.body?
  | .error error => .error error

end Prejoin
