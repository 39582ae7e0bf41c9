import Prejoin.Proofs.Outcome

set_option autoImplicit false

namespace Prejoin

def Channel.inTurn (answers : Nat → Answer) : Channel (List Sent) Empty where
  send tenant request sent := .ok (answers sent.length, sent ++ [⟨tenant, request⟩])

@[simp] theorem send_inTurn (answers : Nat → Answer) (tenant : Text) (request : Request)
    (sent : List Sent) :
    (Channel.inTurn answers).send tenant request sent =
      .ok (answers sent.length, sent ++ [⟨tenant, request⟩]) := rfl

def requestsOf (targets : List Target) : List Request :=
  targets.filterMap fun target => target.request?.toOption

-- Once `n` requests have been sent.
def blocksFrom (answers : Nat → Answer) : Nat → List Target → List Block
  | _, [] => []
  | n, target :: rest =>
    match target.request? with
    | .error error => ⟨target, .error error⟩ :: blocksFrom answers n rest
    | .ok _ => ⟨target, target.relation.keys? (answers n)⟩ :: blocksFrom answers (n + 1) rest

theorem requestsOf_cons_unasked {target : Target} {error : LookupError}
    (unasked : target.request? = .error error) (rest : List Target) :
    requestsOf (target :: rest) = requestsOf rest := by
  simp [requestsOf, unasked, Except.toOption]

theorem requestsOf_cons_asked {target : Target} {request : Request}
    (asked : target.request? = .ok request) (rest : List Target) :
    requestsOf (target :: rest) = request :: requestsOf rest := by
  simp [requestsOf, asked, Except.toOption]

theorem blocksFrom_cons_unasked {target : Target} {error : LookupError}
    (unasked : target.request? = .error error) (answers : Nat → Answer) (n : Nat)
    (rest : List Target) :
    blocksFrom answers n (target :: rest) = ⟨target, .error error⟩ :: blocksFrom answers n rest := by
  simp [blocksFrom, unasked]

theorem blocksFrom_cons_asked {target : Target} {request : Request}
    (asked : target.request? = .ok request) (answers : Nat → Answer) (n : Nat)
    (rest : List Target) :
    blocksFrom answers n (target :: rest) =
      ⟨target, target.relation.keys? (answers n)⟩ :: blocksFrom answers (n + 1) rest := by
  simp [blocksFrom, asked]

theorem resolveAll_inTurn (answers : Nat → Answer) (tenant : Text) (targets : List Target)
    (sent : List Sent) :
    resolveAll (.inTurn answers) tenant targets sent =
      .ok (blocksFrom answers sent.length targets,
        sent ++ (requestsOf targets).map (Sent.mk tenant)) := by
  induction targets generalizing sent with
  | nil => simp [resolveAll, blocksFrom, requestsOf]
  | cons target rest ih =>
    cases address : target.request? with
    | error error =>
      simp [resolveAll, resolve, address, ih, blocksFrom_cons_unasked address,
        requestsOf_cons_unasked address]
    | ok request =>
      have later := ih (sent ++ [⟨tenant, request⟩])
      rw [List.length_append, List.length_singleton] at later
      simp [resolveAll, resolve, address, later, blocksFrom_cons_asked address,
        requestsOf_cons_asked address]

theorem blocksFrom_append (answers : Nat → Answer) (n : Nat) (before after : List Target) :
    blocksFrom answers n (before ++ after) =
      blocksFrom answers n before ++
        blocksFrom answers (n + (requestsOf before).length) after := by
  induction before generalizing n with
  | nil => rfl
  | cons target rest ih =>
    cases address : target.request? with
    | error error =>
      simp [blocksFrom_cons_unasked address, requestsOf_cons_unasked address, ih]
    | ok request =>
      simp [blocksFrom_cons_asked address, requestsOf_cons_asked address, ih, Nat.add_assoc,
        Nat.add_comm 1]

theorem requestsOf_append (before after : List Target) :
    requestsOf (before ++ after) = requestsOf before ++ requestsOf after :=
  List.filterMap_append

theorem blocksFrom_around {before after : List Target} {target : Target} {request : Request}
    {j : Nat} (count : (requestsOf before).length = j) (asked : target.request? = .ok request)
    (answers : Nat → Answer) :
    blocksFrom answers 0 (before ++ target :: after) =
      blocksFrom answers 0 before ++
        ⟨target, target.relation.keys? (answers j)⟩ :: blocksFrom answers (j + 1) after := by
  rw [blocksFrom_append, count, Nat.zero_add, blocksFrom_cons_asked asked]

theorem blocksFrom_congr {answers answers' : Nat → Answer} {n : Nat} {targets : List Target}
    (same : ∀ i, n ≤ i → i < n + (requestsOf targets).length → answers i = answers' i) :
    blocksFrom answers n targets = blocksFrom answers' n targets := by
  induction targets generalizing n with
  | nil => rfl
  | cons target rest ih =>
    cases address : target.request? with
    | error error =>
      rw [requestsOf_cons_unasked address] at same
      rw [blocksFrom_cons_unasked address, blocksFrom_cons_unasked address, ih same]
    | ok request =>
      rw [requestsOf_cons_asked address, List.length_cons] at same
      have own := same n (Nat.le_refl n) (by omega)
      have later := ih (n := n + 1) fun i low high => same i (by omega) (by omega)
      rw [blocksFrom_cons_asked address, blocksFrom_cons_asked address, own, later]

theorem answers_blocksFrom (answers : Nat → Answer) (backend : Backend) (call : Call)
    (relations : Dict Relation) (predicates : List Predicate) :
    Answers (blocksFrom answers 0 (targets backend call relations predicates)) predicates :=
  answers_of_resolveAll (resolveAll_inTurn answers call.caller.tenant _ [])

theorem exists_asked {targets : List Target} {j : Nat} (asked : j < (requestsOf targets).length) :
    ∃ before target after request, targets = before ++ target :: after ∧
      (requestsOf before).length = j ∧ target.request? = .ok request := by
  induction targets generalizing j with
  | nil => simp [requestsOf] at asked
  | cons target rest ih =>
    cases address : target.request? with
    | error error =>
      rw [requestsOf_cons_unasked address] at asked
      obtain ⟨before, own, after, request, rfl, count, found⟩ := ih asked
      refine ⟨target :: before, own, after, request, rfl, ?_, found⟩
      rw [requestsOf_cons_unasked address, count]
    | ok request =>
      cases j with
      | zero => exact ⟨[], target, rest, request, rfl, rfl, address⟩
      | succ j =>
        rw [requestsOf_cons_asked address, List.length_cons, Nat.succ_lt_succ_iff] at asked
        obtain ⟨before, own, after, later, rfl, count, found⟩ := ih asked
        refine ⟨target :: before, own, after, later, rfl, ?_, found⟩
        rw [requestsOf_cons_asked address, List.length_cons, count]

theorem planWith_inTurn {call : Call} {filter : Text} {predicates : List Predicate}
    (present : call.filter? = some filter) (found : detectIn filter = .ok predicates)
    (answers : Nat → Answer) (backend : Backend) (relations : Dict Relation) :
    planWith (.inTurn answers) backend relations call [] =
      .ok (call.conclude filter predicates
          (blocksFrom answers 0 (targets backend call relations predicates)),
        (requestsOf (targets backend call relations predicates)).map
          (Sent.mk call.caller.tenant)) :=
  planWith_eq present found (resolveAll_inTurn answers call.caller.tenant _ [])

end Prejoin
