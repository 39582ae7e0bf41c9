import Prejoin.Planning

set_option autoImplicit false

namespace Prejoin.Session

structure State where
  files : Files
  script : Script

inductive Step where
  | expect (expectation : Expectation)
  | plan (call : Call) (elsewhere : Option Backend := none)
  | requests
  | verify
  | write (path : Text) (file : File)
  | remove (path : Text)
  | submit (tenant : Text) (request : Request)

inductive Result where
  | queued
  | planned (outcome : Outcome)
  | requests (sent : List Sent)
  | verified
  | written
  | removed
  | body (body? : Except ExchangeError Json)

def directRequest (url : Text) : Request where
  method := "GET".toList
  url := url
  headers := []
  title := "direct".toList
  metadata := .null

def Step.send (tenant url : Text) : Step :=
  .submit tenant (directRequest url)

-- A call that names no backend of its own goes to the one of the session.
def step (backend : Backend) (state : State) : Step → Except ScriptFault (Result × State)
  | .expect expectation =>
    .ok (.queued, { state with script := state.script.expect expectation })
  | .plan call elsewhere =>
    match Prejoin.plan Script.channel (elsewhere.getD backend) state.files call state.script with
    | .error fault => .error fault
    | .ok (outcome, script) => .ok (.planned outcome, { state with script })
  | .requests => .ok (.requests state.script.sent, state)
  | .verify =>
    match state.script.verify with
    | .error fault => .error fault
    | .ok () => .ok (.verified, state)
  | .write path file => .ok (.written, { state with files := state.files.write path file })
  | .remove path => .ok (.removed, { state with files := state.files.remove path })
  | .submit tenant request =>
    match state.script.send tenant request with
    | .error fault => .error fault
    | .ok (answer, script) => .ok (.body answer.body?, { state with script })

def run (backend : Backend) (state : State) : List Step → List (Except ScriptFault Result)
  | [] => []
  | first :: rest =>
    match step backend state first with
    | .error fault => [.error fault]
    | .ok (result, state) => .ok result :: run backend state rest

end Prejoin.Session
