import Prejoin.Exchange.Reply
import Prejoin.Exchange.Request

set_option autoImplicit false

namespace Prejoin

structure Channel (σ ε : Type) where
  send : (tenant : Text) → Request → σ → Except ε (Answer × σ)

-- An answer kept ready, for any request or for one to the given resource only.
structure Expectation where
  resource : Option Text
  answer : Answer

structure Sent where
  tenant : Text
  request : Request

structure Script where
  queue : List Expectation
  sent : List Sent

inductive ScriptFault where
  | unexpected (url : Text)
  | misdirected (resource url : Text)
  | unmet (count : Nat)
deriving DecidableEq, Repr

def ScriptFault.message : ScriptFault → Text
  | .unexpected url => "Unexpected request: ".toList ++ url
  | .misdirected resource url =>
    "Expected a request for ".toList ++ resource ++ ", got ".toList ++ url
  | .unmet count =>
    "Not all expectations were met. ".toList ++ decimal count ++ " remaining".toList

def containsPart (part : Text) : Text → Bool
  | [] => part = []
  | c :: rest => part.isPrefixOf (c :: rest) || containsPart part rest

def isFor (resource url : Text) : Bool :=
  containsPart ("/os/".toList ++ resource ++ ['?']) url

namespace Script

def empty : Script := ⟨[], []⟩

def expect (script : Script) (expectation : Expectation) : Script :=
  { script with queue := script.queue ++ [expectation] }

-- The first expectation answers; a request that is not for it is not kept.
def send (tenant : Text) (request : Request) (script : Script) :
    Except ScriptFault (Answer × Script) :=
  match script.queue with
  | [] => .error (.unexpected request.url)
  | first :: later =>
    match first.resource with
    | some resource =>
      if isFor resource request.url then
        .ok (first.answer, ⟨later, script.sent ++ [⟨tenant, request⟩]⟩)
      else .error (.misdirected resource request.url)
    | none => .ok (first.answer, ⟨later, script.sent ++ [⟨tenant, request⟩]⟩)

def verify (script : Script) : Except ScriptFault Unit :=
  if script.queue = [] then .ok () else .error (.unmet script.queue.length)

def channel : Channel Script ScriptFault := ⟨send⟩

end Script

end Prejoin
