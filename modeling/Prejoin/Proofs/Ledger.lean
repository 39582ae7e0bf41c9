import Mathlib.Data.List.Infix
import Prejoin.Proofs.Channels
import Prejoin.Proofs.Trace

set_option autoImplicit false

namespace Prejoin

theorem containsPart_iff {part s : Text} : containsPart part s ↔ part <:+: s := by
  induction s with
  | nil => simp [containsPart]
  | cons c rest ih =>
    rw [containsPart, Bool.or_eq_true, List.isPrefixOf_iff_prefix, ih, List.infix_cons_iff]

namespace Script

def Refuses (script : Script) (url : Text) : Prop :=
  script.queue = [] ∨ ∃ first later resource, script.queue = first :: later ∧
    first.resource = some resource ∧ ¬ "/os/".toList ++ resource ++ ['?'] <:+: url

-- An expectation that was not for the request is gone all the same.
def attempt (tenant : Text) (request : Request) (script : Script) :
    Except ScriptFault Answer × Script :=
  match script.queue with
  | [] => (.error (.unexpected request.url), script)
  | first :: later =>
    match first.resource with
    | some resource =>
      if isFor resource request.url then
        (.ok first.answer, ⟨later, script.sent ++ [⟨tenant, request⟩]⟩)
      else (.error (.misdirected resource request.url), { script with queue := later })
    | none => (.ok first.answer, ⟨later, script.sent ++ [⟨tenant, request⟩]⟩)

inductive Attempted (tenant : Text) (request : Request) (script : Script) :
    Except ScriptFault Answer × Script → Prop
  | answered {first : Expectation} {later : List Expectation}
      (queue : script.queue = first :: later) (accepted : ¬ script.Refuses request.url) :
      Attempted tenant request script
        (.ok first.answer, ⟨later, script.sent ++ [⟨tenant, request⟩]⟩)
  | unexpected (queue : script.queue = []) :
      Attempted tenant request script (.error (.unexpected request.url), script)
  | misdirected {first : Expectation} {later : List Expectation} {resource : Text}
      (queue : script.queue = first :: later) (named : first.resource = some resource)
      (elsewhere : ¬ "/os/".toList ++ resource ++ ['?'] <:+: request.url) :
      Attempted tenant request script
        (.error (.misdirected resource request.url), { script with queue := later })

theorem refuses_cons {script : Script} {first : Expectation} {later : List Expectation} {url : Text}
    (queue : script.queue = first :: later) :
    script.Refuses url ↔ ∃ resource, first.resource = some resource ∧
      ¬ "/os/".toList ++ resource ++ ['?'] <:+: url := by
  simp [Refuses, queue]

theorem attempted (tenant : Text) (request : Request) (script : Script) :
    script.Attempted tenant request (script.attempt tenant request) := by
  cases queue : script.queue with
  | nil =>
    have made : script.attempt tenant request = (.error (.unexpected request.url), script) := by
      simp [attempt, queue]
    exact made ▸ .unexpected queue
  | cons first later =>
    have answered (accepted : ¬ script.Refuses request.url)
        (made : script.attempt tenant request =
          (.ok first.answer, ⟨later, script.sent ++ [⟨tenant, request⟩]⟩)) :
        script.Attempted tenant request (script.attempt tenant request) :=
      made ▸ .answered queue accepted
    cases named : first.resource with
    | none => exact answered (by simp [refuses_cons queue, named]) (by simp [attempt, queue, named])
    | some resource =>
      by_cases asked : isFor resource request.url
      · have part := containsPart_iff.1 asked
        exact answered (by simpa [refuses_cons queue, named] using part)
          (by simp [attempt, queue, named, asked])
      · have made : script.attempt tenant request =
            (.error (.misdirected resource request.url), { script with queue := later }) := by
          simp [attempt, queue, named, asked]
        exact made ▸ .misdirected queue named (mt containsPart_iff.2 asked)

theorem send_eq_attempt (tenant : Text) (request : Request) (script : Script) :
    script.send tenant request =
      (script.attempt tenant request).1.map fun answer =>
        (answer, (script.attempt tenant request).2) := by
  unfold send attempt
  cases script.queue with
  | nil => rfl
  | cons first later =>
    cases named : first.resource with
    | none => simp [named, Except.map]
    | some resource => cases asked : isFor resource request.url <;> simp [named, asked, Except.map]

theorem refuses_iff (tenant : Text) (request : Request) (script : Script) :
    ((∃ fault, script.send tenant request = .error fault) ↔ script.Refuses request.url) ∧
      (script.Refuses request.url → (script.attempt tenant request).2.sent = script.sent) := by
  have attempted := script.attempted tenant request
  rw [send_eq_attempt]
  generalize script.attempt tenant request = after at attempted
  cases attempted with
  | answered queue accepted =>
    exact ⟨⟨nofun, fun refused => absurd refused accepted⟩, fun refused => absurd refused accepted⟩
  | unexpected queue => exact ⟨⟨fun _ => .inl queue, fun _ => ⟨_, rfl⟩⟩, fun _ => rfl⟩
  | misdirected queue named elsewhere =>
    exact ⟨⟨fun _ => .inr ⟨_, _, _, queue, named, elsewhere⟩, fun _ => ⟨_, rfl⟩⟩, fun _ => rfl⟩

theorem sent_of_send {tenant : Text} {request : Request} {script next : Script} {answer : Answer}
    (answered : script.send tenant request = .ok (answer, next)) :
    next.sent = script.sent ++ [⟨tenant, request⟩] := by
  have attempted := script.attempted tenant request
  rw [send_eq_attempt] at answered
  generalize script.attempt tenant request = after at attempted answered
  cases attempted with
  | answered =>
    obtain ⟨-, rfl⟩ := Prod.mk.inj (Except.ok.inj answered)
    rfl
  | unexpected | misdirected => cases answered

theorem verify_iff (script : Script) : script.verify = .ok () ↔ script.queue = [] := by
  simp [verify]

end Script

def Step.request? (backend : Backend) (caller : Caller) : Step → Option Request
  | .prefetch relation _ _ query => (query.request? backend caller relation).toOption
  | _ => none

theorem filterMap_request_steps (backend : Backend) (caller : Caller) (filter : Text)
    (block : Block) :
    (block.steps filter).filterMap (Step.request? backend caller) =
      (block.target.query.request? backend caller
        block.target.group.predicate.relation).toOption.toList := by
  unfold Block.steps Block.events
  cases block.outcome <;>
    cases asked : block.target.query.request? backend caller
      block.target.group.predicate.relation <;>
    simp [Event.step?, Step.request?, asked, Except.toOption]

theorem filterMap_request_stepsOf {backend : Backend} {caller : Caller} {blocks : List Block}
    (own : ∀ block ∈ blocks, block.target.request? =
      block.target.query.request? backend caller block.target.group.predicate.relation)
    (filter : Text) :
    (stepsOf filter blocks).filterMap (Step.request? backend caller) =
      requestsOf (blocks.map Block.target) := by
  rw [stepsOf, List.filterMap_flatMap, requestsOf, List.filterMap_map,
    List.filterMap_eq_flatMap_toList]
  apply List.flatMap_congr
  intro block inside
  rw [filterMap_request_steps, Function.comp_apply, own block inside]

theorem requestsOf_cons (target : Target) (rest : List Target) :
    requestsOf (target :: rest) = target.request?.toOption.toList ++ requestsOf rest := by
  cases address : target.request? with
  | error error => simp [requestsOf_cons_unasked address, Except.toOption]
  | ok request => simp [requestsOf_cons_asked address, Except.toOption]

theorem sent_of_resolve {tenant : Text} {relation : Relation}
    {request? : Except LookupError Request} {script next : Script}
    {outcome : Except LookupError Keys}
    (found : resolve Script.channel tenant relation request? script = .ok (outcome, next)) :
    next.sent = script.sent ++ request?.toOption.toList.map (Sent.mk tenant) := by
  unfold resolve at found
  cases request? with
  | error error =>
    obtain ⟨-, rfl⟩ := Prod.mk.inj (Except.ok.inj found)
    simp [Except.toOption]
  | ok request =>
    cases answered : Script.channel.send tenant request script with
    | error fault => simp [answered] at found
    | ok reply =>
      obtain ⟨-, rfl⟩ : _ ∧ reply.2 = next := by simpa [answered] using found
      exact Script.sent_of_send answered

theorem sent_of_resolveAll {tenant : Text} {targets : List Target} {script next : Script}
    {blocks : List Block}
    (looked : resolveAll Script.channel tenant targets script = .ok (blocks, next)) :
    next.sent = script.sent ++ (requestsOf targets).map (Sent.mk tenant) := by
  induction targets generalizing script blocks with
  | nil =>
    obtain ⟨-, rfl⟩ := Prod.mk.inj (Except.ok.inj looked)
    simp [requestsOf]
  | cons target rest ih =>
    obtain ⟨outcome, after, later, first, others, rfl⟩ := exists_of_resolveAll_cons looked
    rw [ih others, sent_of_resolve first, requestsOf_cons, List.map_append, List.append_assoc]

theorem sent_of_planWith {backend : Backend} {relations : Dict Relation} {call : Call}
    {script next : Script} {outcome : Outcome}
    (planned : planWith Script.channel backend relations call script = .ok (outcome, next)) :
    next.sent = script.sent ++
      (outcome.plan.steps.filterMap (Step.request? backend call.caller)).map
        (Sent.mk call.caller.tenant) := by
  cases present : call.filter? with
  | none =>
    rw [planWith_absent _ backend relations _ present] at planned
    obtain ⟨rfl, rfl⟩ := Prod.mk.inj (Except.ok.inj planned)
    simp [Call.unchanged, Call.planOf, ofEvents_eq]
  | some filter =>
    cases found : detectIn filter with
    | error error =>
      rw [planWith_unreadable _ backend relations _ present found] at planned
      obtain ⟨rfl, rfl⟩ := Prod.mk.inj (Except.ok.inj planned)
      simp [Call.unchanged, Call.planOf, ofEvents_eq, Event.step?]
    | ok predicates =>
      obtain ⟨blocks, looked, rfl⟩ := exists_blocks_of_planWith present found planned
      have own (block : Block) (inside : block ∈ blocks) :=
        (query_of_mem_targets (target_of_mem_blocks looked inside)).2
      rw [plan_conclude found (answers_of_resolveAll looked), planOf_eventsOf,
        filterMap_request_stepsOf own, resolveAll_targets looked, sent_of_resolveAll looked]

structure Exchange where
  sent : Sent
  answer : Answer

structure Ledger where
  script : Script
  exchanges : List Exchange

namespace Ledger

def empty : Ledger := ⟨.empty, []⟩

def channel : Channel Ledger (ScriptFault × Ledger) where
  send tenant request ledger :=
    match ledger.script.attempt tenant request with
    | (.ok answer, script) =>
      .ok (answer, ⟨script, ledger.exchanges ++ [⟨⟨tenant, request⟩, answer⟩]⟩)
    | (.error fault, script) => .error (fault, { ledger with script })

theorem shows_channel : channel.Shows Script.channel Ledger.script Prod.fst := by
  intro tenant request ledger
  show ledger.script.send tenant request = _
  rw [Script.send_eq_attempt]
  unfold channel
  cases made : ledger.script.attempt tenant request with
  | mk result script => cases result <;> simp [made, shown, Except.map]

/-- Every expectation that was pushed has answered the request kept in its turn, is lost or
waits. -/
structure Accounts (ledger : Ledger) (pushed lost : List Expectation) : Prop where
  sent : ledger.script.sent = ledger.exchanges.map Exchange.sent
  answers : ∃ used, pushed = used ++ lost ++ ledger.script.queue ∧
    ledger.exchanges.map Exchange.answer = used.map Expectation.answer

inductive Left (ledger : Ledger) (pushed : List Expectation) : ScriptFault → Prop
  | unexpected {url : Text} (accounts : ledger.Accounts pushed [])
      (drained : ledger.script.queue = []) : Left ledger pushed (.unexpected url)
  | misdirected {url resource : Text} {lost : Expectation}
      (accounts : ledger.Accounts pushed [lost]) (named : lost.resource = some resource)
      (elsewhere : ¬ "/os/".toList ++ resource ++ ['?'] <:+: url) :
      Left ledger pushed (.misdirected resource url)
  | unmet {count : Nat} (accounts : ledger.Accounts pushed [])
      (waiting : ledger.script.queue.length = count) (unused : 0 < count) :
      Left ledger pushed (.unmet count)

theorem Accounts.length {ledger : Ledger} {pushed lost : List Expectation}
    (accounts : ledger.Accounts pushed lost) :
    ledger.script.sent.length + lost.length + ledger.script.queue.length = pushed.length := by
  obtain ⟨used, rfl, answers⟩ := accounts.answers
  have turns := congrArg List.length answers
  simp only [List.length_map] at turns
  simp [accounts.sent, turns, Nat.add_assoc]

theorem Accounts.turn {ledger : Ledger} {pushed lost : List Expectation}
    (accounts : ledger.Accounts pushed lost) {i : Nat} {exchange : Exchange}
    (known : ledger.exchanges[i]? = some exchange) :
    ledger.script.sent[i]? = some exchange.sent ∧
      pushed[i]?.map Expectation.answer = some exchange.answer := by
  obtain ⟨used, rfl, answers⟩ := accounts.answers
  have own : used[i]?.map Expectation.answer = some exchange.answer := by
    rw [← List.getElem?_map, ← answers, List.getElem?_map, known, Option.map_some]
  obtain ⟨expectation, inside, answer⟩ := Option.map_eq_some_iff.1 own
  have early : i < used.length := (List.getElem?_eq_some_iff.1 inside).1
  refine ⟨by rw [accounts.sent, List.getElem?_map, known, Option.map_some], ?_⟩
  rw [List.append_assoc, List.getElem?_append_left early, own]

theorem Accounts.expect {ledger : Ledger} {pushed : List Expectation}
    (accounts : ledger.Accounts pushed []) (expectation : Expectation) :
    { ledger with script := ledger.script.expect expectation }.Accounts (pushed ++ [expectation])
      [] := by
  obtain ⟨used, rfl, answers⟩ := accounts.answers
  exact ⟨accounts.sent, used, by simp [Script.expect], answers⟩

theorem accounts_empty : empty.Accounts [] [] :=
  ⟨rfl, [], rfl, rfl⟩

theorem keeps_channel (pushed : List Expectation) :
    channel.Keeps (fun ledger => ledger.Accounts pushed [])
      (fun fault => fault.2.Left pushed fault.1) := by
  intro tenant request ledger accounts
  obtain ⟨used, split, answers⟩ := accounts.answers
  have attempted := ledger.script.attempted tenant request
  unfold channel
  dsimp only
  generalize ledger.script.attempt tenant request = after at attempted
  cases attempted with
  | @answered first later queue accepted =>
    have kept : ledger.script.sent ++ [⟨tenant, request⟩] =
        (ledger.exchanges ++ [Exchange.mk ⟨tenant, request⟩ first.answer]).map Exchange.sent := by
      simp [accounts.sent]
    refine ⟨kept, used ++ [first], ?_, ?_⟩
    · simpa [queue] using split
    · simp [answers]
  | unexpected queue => exact .unexpected accounts queue
  | @misdirected first later resource queue named elsewhere =>
    have lost : (Ledger.mk ⟨later, ledger.script.sent⟩ ledger.exchanges).Accounts pushed [first] :=
      ⟨accounts.sent, used, by simpa [queue] using split, answers⟩
    exact .misdirected lost named elsewhere

end Ledger

end Prejoin
