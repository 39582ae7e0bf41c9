import Mathlib.Tactic.Common
import Prejoin.Planning

set_option autoImplicit false

namespace Prejoin

def Event.predicates : Event → List Predicate
  | .detected predicates => predicates
  | _ => []

def Event.step? : Event → Option Step
  | .prefetch p query => some (.prefetch p.relation p.field p.operator query)
  | .fetched p keys =>
    some (.fetched p.relation p.field keys.returned keys.kept.length keys.truncated)
  | .replaced p before after occurrences =>
    some (.replaced p.relation p.field before after occurrences)
  | .failed p message => some (.failure p.relation p.field message)
  | _ => none

def Event.truncates : Event → Bool
  | .fetched _ keys => keys.truncated
  | _ => false

def Event.problem? : Event → Option Problem
  | .failed p message => some ⟨some p.relation, message⟩
  | .aborted message => some ⟨none, message⟩
  | _ => none

theorem record_eq (plan : Plan) (event : Event) :
    plan.record event =
      { plan with
        detected := plan.detected ++ event.predicates
        steps := plan.steps ++ event.step?.toList
        truncated := plan.truncated || event.truncates
        problems := plan.problems ++ event.problem?.toList } := by
  cases event <;>
    simp [Plan.record, Plan.step, Plan.problem, Event.predicates, Event.step?, Event.truncates,
      Event.problem?]

theorem foldl_record (plan : Plan) (events : List Event) :
    events.foldl Plan.record plan =
      { plan with
        detected := plan.detected ++ events.flatMap Event.predicates
        steps := plan.steps ++ events.filterMap Event.step?
        truncated := plan.truncated || events.any Event.truncates
        problems := plan.problems ++ events.filterMap Event.problem? } := by
  induction events generalizing plan with
  | nil => simp
  | cons event rest ih =>
    rw [List.foldl_cons, ih, record_eq]
    cases recorded : event.step? <;> cases noted : event.problem? <;>
      simp [recorded, noted, Bool.or_assoc]

theorem ofEvents_eq (root : Text) (correlationId : Option Text) (events : List Event) :
    Plan.ofEvents root correlationId events =
      { root, correlationId
        detected := events.flatMap Event.predicates
        steps := events.filterMap Event.step?
        truncated := events.any Event.truncates
        problems := events.filterMap Event.problem? } := by
  simp [Plan.ofEvents, foldl_record, Plan.start]

end Prejoin
