import Prejoin.Proofs.Outcome

set_option autoImplicit false

namespace Prejoin

section

variable {σ ε τ φ α : Type} {channel : Channel σ ε} {other : Channel τ φ}
  {kept : σ → Prop} {left : ε → Prop} {see : σ → τ} {say : ε → φ}

def EndsIn (kept : σ → Prop) (left : ε → Prop) : Except ε (α × σ) → Prop
  | .ok (_, state) => kept state
  | .error fault => left fault

def Channel.Keeps (channel : Channel σ ε) (kept : σ → Prop) (left : ε → Prop) : Prop :=
  ∀ tenant request state, kept state → EndsIn kept left (channel.send tenant request state)

theorem endsIn_resolve (keeps : channel.Keeps kept left) (tenant : Text) (relation : Relation)
    (request? : Except LookupError Request) {state : σ} (before : kept state) :
    EndsIn kept left (resolve channel tenant relation request? state) := by
  unfold resolve
  cases request? with
  | error error => exact before
  | ok request =>
    have after := keeps tenant request state before
    cases answered : channel.send tenant request state with
    | error fault => simpa only [answered, EndsIn] using after
    | ok answer => simpa only [answered, EndsIn] using after

theorem endsIn_resolveAll (keeps : channel.Keeps kept left) (tenant : Text)
    (targets : List Target) {state : σ} (before : kept state) :
    EndsIn kept left (resolveAll channel tenant targets state) := by
  induction targets generalizing state with
  | nil => exact before
  | cons target rest ih =>
    have own := endsIn_resolve keeps tenant target.relation target.request? before
    rw [resolveAll]
    cases first : resolve channel tenant target.relation target.request? state with
    | error fault => simpa only [first, EndsIn] using own
    | ok found =>
      rw [first] at own
      have after := ih own
      cases later : resolveAll channel tenant rest found.2 with
      | error fault => simpa only [later, EndsIn] using after
      | ok blocks => simpa only [later, EndsIn] using after

theorem endsIn_planWith (keeps : channel.Keeps kept left) (backend : Backend)
    (relations : Dict Relation) (call : Call) {state : σ} (before : kept state) :
    EndsIn kept left (planWith channel backend relations call state) := by
  cases present : call.filter? with
  | none =>
    rw [planWith_absent channel backend relations state present]
    exact before
  | some filter =>
    cases found : detectIn filter with
    | error error =>
      rw [planWith_unreadable channel backend relations state present found]
      exact before
    | ok predicates =>
      have after := endsIn_resolveAll keeps call.caller.tenant
        (targets backend call relations predicates) before
      cases looked : resolveAll channel call.caller.tenant
          (targets backend call relations predicates) state with
      | error fault => simpa only [planWith, present, found, looked, EndsIn] using after
      | ok run => simpa only [planWith_eq present found looked, looked, EndsIn] using after

def shown (see : σ → τ) (say : ε → φ) : Except ε (α × σ) → Except φ (α × τ)
  | .ok (result, state) => .ok (result, see state)
  | .error fault => .error (say fault)

def Channel.Shows (channel : Channel σ ε) (other : Channel τ φ) (see : σ → τ) (say : ε → φ) :
    Prop :=
  ∀ tenant request state,
    other.send tenant request (see state) = shown see say (channel.send tenant request state)

theorem shown_resolve (shows : channel.Shows other see say) (tenant : Text) (relation : Relation)
    (request? : Except LookupError Request) (state : σ) :
    resolve other tenant relation request? (see state) =
      shown see say (resolve channel tenant relation request? state) := by
  unfold resolve
  cases request? with
  | error error => rfl
  | ok request =>
    simp only [shows tenant request state]
    cases channel.send tenant request state <;> rfl

theorem shown_resolveAll (shows : channel.Shows other see say) (tenant : Text)
    (targets : List Target) (state : σ) :
    resolveAll other tenant targets (see state) =
      shown see say (resolveAll channel tenant targets state) := by
  induction targets generalizing state with
  | nil => rfl
  | cons target rest ih =>
    rw [resolveAll, resolveAll, shown_resolve shows]
    cases resolve channel tenant target.relation target.request? state with
    | error fault => rfl
    | ok found =>
      simp only [shown, ih]
      cases resolveAll channel tenant rest found.2 <;> rfl

theorem shown_planWith (shows : channel.Shows other see say) (backend : Backend)
    (relations : Dict Relation) (call : Call) (state : σ) :
    planWith other backend relations call (see state) =
      shown see say (planWith channel backend relations call state) := by
  cases present : call.filter? with
  | none => simp only [planWith_absent _ backend relations _ present, shown]
  | some filter =>
    cases found : detectIn filter with
    | error error => simp only [planWith_unreadable _ backend relations _ present found, shown]
    | ok predicates =>
      simp only [planWith, present, found, shown_resolveAll shows]
      cases resolveAll channel call.caller.tenant (targets backend call relations predicates)
        state <;> rfl

end

end Prejoin
