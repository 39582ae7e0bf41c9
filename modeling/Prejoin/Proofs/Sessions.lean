import Prejoin.Proofs.Ledger
import Prejoin.Session

set_option autoImplicit false

namespace Prejoin.Session

structure Watched where
  files : Files
  ledger : Ledger

def Watched.state (watched : Watched) : State :=
  ⟨watched.files, watched.ledger.script⟩

def Watched.start (files : Files) : Watched := ⟨files, .empty⟩

-- Only calls and direct requests make entries.
def watch (backend : Backend) (watched : Watched) :
    Step → Except (ScriptFault × Ledger) (Result × Watched)
  | .plan call elsewhere =>
    match Prejoin.plan Ledger.channel (elsewhere.getD backend) watched.files call watched.ledger with
    | .error fault => .error fault
    | .ok (outcome, ledger) => .ok (.planned outcome, { watched with ledger })
  | .submit tenant request =>
    match Ledger.channel.send tenant request watched.ledger with
    | .error fault => .error fault
    | .ok (answer, ledger) => .ok (.body answer.body?, { watched with ledger })
  | other =>
    match step backend watched.state other with
    | .error fault => .error (fault, watched.ledger)
    | .ok (result, state) =>
      .ok (result, ⟨state.files, { watched.ledger with script := state.script }⟩)

def watchAll (backend : Backend) (watched : Watched) :
    List Step → List (Except ScriptFault Result) × Except (ScriptFault × Ledger) Watched
  | [] => ([], .ok watched)
  | first :: rest =>
    match watch backend watched first with
    | .error fault => ([.error fault.1], .error fault)
    | .ok (result, next) =>
      let (results, final) := watchAll backend next rest
      (.ok result :: results, final)

theorem shown_watch (backend : Backend) (watched : Watched) (next : Step) :
    step backend watched.state next =
      shown Watched.state Prod.fst (watch backend watched next) := by
  cases next with
  | plan call elsewhere =>
    have same := shown_planWith Ledger.shows_channel (elsewhere.getD backend)
      (loadRelations watched.files call.caller.tenant call.caller.root) call watched.ledger
    simp only [step, watch, plan, Watched.state, same]
    cases planWith Ledger.channel _ _ call watched.ledger <;> rfl
  | submit tenant request =>
    have same := Ledger.shows_channel tenant request watched.ledger
    have same : watched.ledger.script.send tenant request = _ := same
    simp only [step, watch, Watched.state, same]
    cases Ledger.channel.send tenant request watched.ledger <;> rfl
  | verify =>
    simp only [step, watch]
    cases watched.state.script.verify <;> rfl
  | _ => rfl

theorem run_eq_watchAll (backend : Backend) (watched : Watched) (steps : List Step) :
    run backend watched.state steps = (watchAll backend watched steps).1 := by
  induction steps generalizing watched with
  | nil => rfl
  | cons first rest ih =>
    rw [run, watchAll, shown_watch]
    cases watch backend watched first with
    | error fault => rfl
    | ok found => simp only [shown, ih]

def Step.pushed : Step → List Expectation
  | .expect expectation => [expectation]
  | _ => []

theorem endsIn_watch (backend : Backend) {watched : Watched} {pushed : List Expectation}
    (accounts : watched.ledger.Accounts pushed []) (next : Step) :
    EndsIn (fun after => after.ledger.Accounts (pushed ++ next.pushed) [])
      (fun fault => fault.2.Left pushed fault.1) (watch backend watched next) := by
  cases next with
  | expect expectation => exact accounts.expect expectation
  | plan call elsewhere =>
    have ends := endsIn_planWith (Ledger.keeps_channel pushed) (elsewhere.getD backend)
      (loadRelations watched.files call.caller.tenant call.caller.root) call accounts
    rw [watch, plan]
    cases planned : planWith Ledger.channel (elsewhere.getD backend)
        (loadRelations watched.files call.caller.tenant call.caller.root) call watched.ledger with
    | error fault => simpa only [planned, EndsIn] using ends
    | ok run => simpa only [planned, EndsIn, Step.pushed, List.append_nil] using ends
  | submit tenant request =>
    have ends := Ledger.keeps_channel pushed tenant request watched.ledger accounts
    rw [watch]
    cases answered : Ledger.channel.send tenant request watched.ledger with
    | error fault => simpa only [answered, EndsIn] using ends
    | ok run => simpa only [answered, EndsIn, Step.pushed, List.append_nil] using ends
  | verify =>
    by_cases drained : watched.ledger.script.queue = []
    next =>
      have verified := watched.ledger.script.verify_iff.2 drained
      simpa [watch, step, Watched.state, verified, EndsIn, Step.pushed] using accounts
    next =>
      have unmet : watched.ledger.script.verify =
          .error (.unmet watched.ledger.script.queue.length) := if_neg drained
      simpa only [watch, step, Watched.state, unmet, EndsIn] using
        .unmet accounts rfl (List.length_pos_iff.2 drained)
  | requests | write | remove =>
    simpa [watch, step, EndsIn, Step.pushed, Watched.state] using accounts

structure Settled (backend : Backend) (watched : Watched) (pushed : List Expectation) : Prop where
  accounts : watched.ledger.Accounts pushed []
  turn : ∀ (i : Nat) (exchange : Exchange), watched.ledger.exchanges[i]? = some exchange →
    watched.ledger.script.sent[i]? = some exchange.sent ∧
      pushed[i]?.map Expectation.answer = some exchange.answer
  count : watched.ledger.script.sent.length + watched.ledger.script.queue.length = pushed.length
  call : ∀ call elsewhere outcome next,
    step backend watched.state (.plan call elsewhere) = .ok (.planned outcome, next) →
      next.script.sent = watched.ledger.script.sent ++
        (outcome.plan.steps.filterMap
          (Prejoin.Step.request? (elsewhere.getD backend) call.caller)).map
          (Sent.mk call.caller.tenant)
  send : ∀ tenant request,
    ((∃ fault, watched.ledger.script.send tenant request = .error fault) ↔
      watched.ledger.script.Refuses request.url) ∧
    (watched.ledger.script.Refuses request.url →
      (watched.ledger.script.attempt tenant request).2.sent = watched.ledger.script.sent)
  verify : step backend watched.state .verify = .ok (.verified, watched.state) ↔
    watched.ledger.script.queue = []

theorem sent_of_step {backend : Backend} {state next : State} {call : Call}
    {elsewhere : Option Backend} {outcome : Outcome}
    (planned : step backend state (.plan call elsewhere) = .ok (.planned outcome, next)) :
    next.script.sent = state.script.sent ++
      (outcome.plan.steps.filterMap
        (Prejoin.Step.request? (elsewhere.getD backend) call.caller)).map
        (Sent.mk call.caller.tenant) := by
  rw [step] at planned
  split at planned
  next => cases planned
  next found script run =>
    obtain ⟨result, rfl⟩ := Prod.mk.inj (Except.ok.inj planned)
    obtain rfl := Result.planned.inj result
    exact sent_of_planWith run

theorem step_verify_iff (backend : Backend) (state : State) :
    step backend state .verify = .ok (.verified, state) ↔ state.script.queue = [] := by
  rw [← Script.verify_iff, step]
  cases state.script.verify <;> simp

theorem settled_of_accounts (backend : Backend) {watched : Watched} {pushed : List Expectation}
    (accounts : watched.ledger.Accounts pushed []) : Settled backend watched pushed where
  accounts := accounts
  turn _ _ known := accounts.turn known
  count := accounts.length
  call _ _ _ _ planned := sent_of_step planned
  send tenant request := Script.refuses_iff tenant request watched.ledger.script
  verify := step_verify_iff backend watched.state

theorem accounts_watchAll {backend : Backend} {watched final : Watched}
    {pushed : List Expectation} (accounts : watched.ledger.Accounts pushed []) {steps : List Step}
    (reached : (watchAll backend watched steps).2 = .ok final) :
    final.ledger.Accounts (pushed ++ steps.flatMap Step.pushed) [] := by
  induction steps generalizing watched pushed with
  | nil =>
    obtain rfl := Except.ok.inj reached
    simpa using accounts
  | cons first rest ih =>
    have ends := endsIn_watch backend accounts first
    rw [watchAll] at reached
    cases made : watch backend watched first with
    | error fault => simp [made] at reached
    | ok run =>
      rw [made] at ends reached
      simpa using ih ends reached

theorem left_watchAll {backend : Backend} {watched : Watched} {pushed : List Expectation}
    (accounts : watched.ledger.Accounts pushed []) {steps : List Step} {fault : ScriptFault}
    {ledger : Ledger} (ended : (watchAll backend watched steps).2 = .error (fault, ledger)) :
    ∃ done last rest, steps = done ++ last :: rest ∧
      (watchAll backend watched steps).1.length = done.length + 1 ∧
      (watchAll backend watched steps).1.getLast? = some (.error fault) ∧
      ledger.Left (pushed ++ done.flatMap Step.pushed) fault := by
  induction steps generalizing watched pushed with
  | nil => cases ended
  | cons first rest ih =>
    have ends := endsIn_watch backend accounts first
    rw [watchAll] at ended ⊢
    cases made : watch backend watched first with
    | error left =>
      rw [made] at ends ended
      obtain rfl := Except.error.inj ended
      exact ⟨[], first, rest, rfl, rfl, rfl, by simpa [EndsIn] using ends⟩
    | ok run =>
      rw [made] at ends ended
      obtain ⟨done, last, others, rfl, length, told, left⟩ := ih ends ended
      refine ⟨first :: done, last, others, rfl, by simp [length], ?_, by simpa using left⟩
      simp [List.getLast?_cons, told]

/-- As long as nothing faults, each expectation has answered the request in its turn or still
waits. -/
theorem requests_accounted (backend : Backend) (files : Files) (steps : List Step) :
    run backend ⟨files, .empty⟩ steps = (watchAll backend (.start files) steps).1 ∧
      (∀ watched, (watchAll backend (.start files) steps).2 = .ok watched →
        Settled backend watched (steps.flatMap Step.pushed)) ∧
      ∀ fault ledger, (watchAll backend (.start files) steps).2 = .error (fault, ledger) →
        ∃ done last rest, steps = done ++ last :: rest ∧
          (watchAll backend (.start files) steps).1.length = done.length + 1 ∧
          (watchAll backend (.start files) steps).1.getLast? = some (.error fault) ∧
          ledger.Left (done.flatMap Step.pushed) fault := by
  refine ⟨run_eq_watchAll backend (.start files) steps, ?_, ?_⟩
  · intro watched reached
    exact settled_of_accounts backend (accounts_watchAll Ledger.accounts_empty reached)
  · intro fault ledger ended
    exact left_watchAll Ledger.accounts_empty ended

def assetSteps : List Step :=
  [.expect ⟨some "mxapiasset".toList, plantAnswers 0⟩, .expect ⟨none, plantAnswers 0⟩,
    .expect ⟨none, plantAnswers 1⟩,
    .send "acme".toList "https://acme.example.com/os/mxapiasset?lean=1".toList]

def straySteps : List Step :=
  [.expect ⟨some "mxapiasset".toList, plantAnswers 0⟩,
    .send "acme".toList "https://acme.example.com/os/mxapiwo?lean=1".toList]

theorem watched_asset :
    ((watchAll assetBackend (.start []) assetSteps).2.toOption.map fun watched =>
      (watched.ledger.script.sent.length, watched.ledger.script.queue.length,
        (Prejoin.plan Script.channel assetBackend watched.files (assetCall sensorFilter)
          watched.ledger.script).toOption.map fun run => run.2.sent.length)) =
        some (1, 2, some 2) ∧
      (watchAll assetBackend (.start []) straySteps).2.toOption.isNone := by
  decide +kernel

theorem requests_accounted_asset :
    (∃ watched outcome next,
      (watchAll assetBackend (.start []) assetSteps).2 = .ok watched ∧
      Settled assetBackend watched (assetSteps.flatMap Step.pushed) ∧
      step assetBackend watched.state (.plan (assetCall sensorFilter)) =
        .ok (.planned outcome, next) ∧
      watched.ledger.script.sent.length = 1 ∧ next.script.sent.length = 2 ∧
      next.script.sent = watched.ledger.script.sent ++
        (outcome.plan.steps.filterMap
          (Prejoin.Step.request? assetBackend (assetCall sensorFilter).caller)).map
          (Sent.mk "acme".toList)) ∧
    ∃ fault ledger done last rest,
      (watchAll assetBackend (.start []) straySteps).2 = .error (fault, ledger) ∧
      straySteps = done ++ last :: rest ∧ ledger.Left (done.flatMap Step.pushed) fault := by
  obtain ⟨counts, stray⟩ := watched_asset
  constructor
  case left =>
    cases reached : (watchAll assetBackend (.start []) assetSteps).2 with
    | error left => simp [reached, Except.toOption] at counts
    | ok watched =>
      rw [reached] at counts
      obtain ⟨one, others⟩ := Prod.mk.inj (Option.some.inj counts)
      have two := (Prod.mk.inj others).2
      cases planned : Prejoin.plan Script.channel assetBackend watched.files
          (assetCall sensorFilter) watched.ledger.script with
      | error fault =>
        rw [planned] at two
        cases two
      | ok run =>
        rw [planned] at two
        have settled := (requests_accounted assetBackend [] assetSteps).2.1 watched reached
        have stepped : step assetBackend watched.state (.plan (assetCall sensorFilter)) =
            .ok (.planned run.1, ⟨watched.files, run.2⟩) := by
          simp [step, Watched.state, planned]
        exact ⟨watched, run.1, _, rfl, settled, stepped, one, Option.some.inj two,
          settled.call _ _ _ _ stepped⟩
  case right =>
    cases ended : (watchAll assetBackend (.start []) straySteps).2 with
    | ok watched => simp [ended, Except.toOption] at stray
    | error left =>
      obtain ⟨done, last, rest, split, -, -, kept⟩ :=
        (requests_accounted assetBackend [] straySteps).2.2 left.1 left.2 ended
      exact ⟨left.1, left.2, done, last, rest, rfl, split, kept⟩

end Prejoin.Session
