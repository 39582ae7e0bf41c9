import Mathlib.Data.List.Infix
import Prejoin.Proofs.Trace

set_option autoImplicit false

namespace Prejoin

def Event.isNoted : Event → Bool
  | .prefetch .. | .fetched .. | .replaced .. | .failed .. => true
  | _ => false

def Event.isFault : Event → Bool
  | .failed .. | .aborted .. => true
  | _ => false

def Event.isPrefetch : Event → Bool
  | .prefetch .. => true
  | _ => false

inductive Event.NotedAs : Event → Step → Prop
  | prefetch (p : Predicate) (query : Query) :
      Event.NotedAs (.prefetch p query) (.prefetch p.relation p.field p.operator query)
  | fetched (p : Predicate) (keys : Keys) :
      Event.NotedAs (.fetched p keys)
        (.fetched p.relation p.field keys.returned keys.kept.length keys.truncated)
  | replaced (p : Predicate) (before after : Text) (occurrences : Nat) :
      Event.NotedAs (.replaced p before after occurrences)
        (.replaced p.relation p.field before after occurrences)
  | failed (p : Predicate) (message : Text) :
      Event.NotedAs (.failed p message) (.failure p.relation p.field message)

inductive Event.ToldAs : Event → Problem → Prop
  | failed (p : Predicate) (message : Text) :
      Event.ToldAs (.failed p message) ⟨some p.relation, message⟩
  | aborted (message : Text) : Event.ToldAs (.aborted message) ⟨none, message⟩

theorem notedAs_filterMap (events : List Event) :
    List.Forall₂ Event.NotedAs (events.filter Event.isNoted) (events.filterMap Event.step?) := by
  induction events with
  | nil => exact .nil
  | cons event rest ih =>
    cases event with
    | detected | aborted => exact ih
    | prefetch p query => exact .cons (.prefetch p query) ih
    | fetched p keys => exact .cons (.fetched p keys) ih
    | replaced p before after occurrences => exact .cons (.replaced p before after occurrences) ih
    | failed p message => exact .cons (.failed p message) ih

theorem toldAs_filterMap (events : List Event) :
    List.Forall₂ Event.ToldAs (events.filter Event.isFault) (events.filterMap Event.problem?) := by
  induction events with
  | nil => exact .nil
  | cons event rest ih =>
    cases event with
    | failed p message => exact .cons (.failed p message) ih
    | aborted message => exact .cons (.aborted message) ih
    | _ => exact ih

theorem problems_of_steps (events : List Event) :
    (events.filterMap Event.problem?).filter (fun problem => problem.relation.isSome) =
      (events.filterMap Event.step?).filterMap Step.problem? := by
  induction events with
  | nil => rfl
  | cons event rest ih =>
    cases event with
    | failed p message => exact congrArg (List.cons ⟨some p.relation, message⟩) ih
    | _ => exact ih

theorem problems_eq_nil_iff (events : List Event) :
    events.filterMap Event.problem? = [] ↔ events.any Event.isFault = false := by
  rw [← List.length_eq_zero_iff, ← (toldAs_filterMap events).length_eq, List.length_eq_zero_iff,
    List.filter_eq_nil_iff, List.any_eq_false]

theorem any_isPrefetch_filterMap (events : List Event) :
    (events.filterMap Event.step?).any Step.isPrefetch = events.any Event.isPrefetch := by
  rw [List.any_filterMap]
  congr 1
  funext event
  cases event <;> rfl

theorem any_truncates_iff (events : List Event) :
    events.any Event.truncates ↔ ∃ p keys, .fetched p keys ∈ events ∧ keys.truncated := by
  rw [List.any_eq_true]
  constructor
  · rintro ⟨event, inside, truncates⟩
    cases event with
    | fetched p keys => exact ⟨p, keys, inside, truncates⟩
    | _ => cases truncates
  · rintro ⟨p, keys, inside, truncated⟩
    exact ⟨.fetched p keys, inside, truncated⟩

def Mode.rank : Mode → Nat
  | .none => 0
  | .prefetch => 1
  | .error => 2

instance : LE Mode := ⟨fun mode mode' => mode.rank ≤ mode'.rank⟩

structure Plan.TellsOf (plan : Plan) (events : List Event) : Prop where
  detected : plan.detected = events.flatMap Event.predicates
  steps : List.Forall₂ Event.NotedAs (events.filter Event.isNoted) plan.steps
  problems : List.Forall₂ Event.ToldAs (events.filter Event.isFault) plan.problems
  failures : plan.problems.filter (fun problem => problem.relation.isSome) =
    plan.steps.filterMap Step.problem?
  truncated : plan.truncated ↔ ∃ p keys, .fetched p keys ∈ events ∧ keys.truncated
  mode : plan.mode =
    if events.any Event.isFault then .error
    else if events.any Event.isPrefetch then .prefetch else .none

structure Plan.GrowsTo (plan later : Plan) : Prop where
  detected : plan.detected <+: later.detected
  steps : plan.steps <+: later.steps
  problems : plan.problems <+: later.problems
  truncated : plan.truncated → later.truncated
  mode : plan.mode ≤ later.mode

theorem tellsOf_ofEvents (root : Text) (correlationId : Option Text) (events : List Event) :
    (Plan.ofEvents root correlationId events).TellsOf events := by
  rw [ofEvents_eq]
  constructor
  case detected => rfl
  case steps => exact notedAs_filterMap events
  case problems => exact toldAs_filterMap events
  case failures => exact problems_of_steps events
  case truncated => exact any_truncates_iff events
  case mode =>
    simp only [Plan.mode, ne_eq, problems_eq_nil_iff, any_isPrefetch_filterMap,
      Bool.not_eq_false]

theorem mode_le_of_imp {fault fault' asked asked' : Bool} (faults : fault → fault')
    (asks : asked → asked') :
    (if fault then Mode.error else if asked then .prefetch else .none) ≤
      if fault' then Mode.error else if asked' then .prefetch else .none := by
  revert fault fault' asked asked'
  decide

theorem growsTo_append (root : Text) (correlationId : Option Text) (events more : List Event) :
    (Plan.ofEvents root correlationId events).GrowsTo
      (Plan.ofEvents root correlationId (events ++ more)) := by
  have any {kind : Event → Bool} (some : events.any kind) : (events ++ more).any kind := by
    rw [List.any_append, some, Bool.true_or]
  have earlier : events <+: events ++ more := List.prefix_append events more
  constructor
  case mode =>
    rw [(tellsOf_ofEvents _ _ events).mode, (tellsOf_ofEvents _ _ (events ++ more)).mode]
    exact mode_le_of_imp any any
  all_goals rw [ofEvents_eq, ofEvents_eq]
  case detected => exact earlier.flatMap _
  case steps => exact earlier.filterMap _
  case problems => exact earlier.filterMap _
  case truncated => exact any

/-- Each event leaves its part in the plan, and what is recorded after it takes none of it back. -/
theorem recorded_in_order (root : Text) (correlationId : Option Text) (events more : List Event) :
    (Plan.ofEvents root correlationId events).TellsOf events ∧
      (Plan.ofEvents root correlationId events).GrowsTo
        (Plan.ofEvents root correlationId (events ++ more)) :=
  ⟨tellsOf_ofEvents root correlationId events, growsTo_append root correlationId events more⟩

end Prejoin
