import Mathlib.Tactic.Common
import Prejoin.Plan.Json
import Prejoin.Proofs.Names

set_option autoImplicit false

namespace Prejoin

theorem Json.nat_inj {n m : Nat} : Json.nat n = Json.nat m ↔ n = m := by
  rw [Json.nat, Json.nat, Json.number.injEq, Number.integer.injEq]
  exact Int.ofNat_inj

theorem Operator.symbol_inj {operator other : Operator} :
    operator.symbol = other.symbol ↔ operator = other := by
  cases operator <;> cases other <;> decide

theorem Quote.name_inj {quote other : Quote} : quote.name = other.name ↔ quote = other := by
  cases quote <;> cases other <;> decide

theorem Mode.name_inj {mode other : Mode} : mode.name = other.name ↔ mode = other := by
  cases mode <;> cases other <;> decide

theorem optionalMember_append_inj {name : Text} {value other : Option Text} {rest rest' : Dict Json}
    (same : optionalMember name value ++ rest = optionalMember name other ++ rest')
    (even : rest.length = rest'.length) : value = other ∧ rest = rest' := by
  have count := congrArg List.length same
  cases value with
  | none =>
    cases other with
    | none => exact ⟨rfl, same⟩
    | some text' => simp [optionalMember, even] at count
  | some text =>
    cases other with
    | none => simp [optionalMember, even] at count
    | some text' =>
      obtain ⟨first, rest⟩ := List.cons.inj same
      exact ⟨congrArg some (Json.text.inj (Prod.mk.inj first).2), rest⟩

theorem Span.toJson_inj {span other : Span} : span.toJson = other.toJson ↔ span = other := by
  refine ⟨fun same => ?_, congrArg Span.toJson⟩
  simp only [Span.toJson, Json.object.injEq, List.cons.injEq, Prod.mk.injEq, true_and, and_true,
    Json.nat_inj] at same
  exact congrArg₂ Span.mk same.2 same.1

theorem Predicate.toJson_inj {p q : Predicate} : p.toJson = q.toJson ↔ p = q := by
  refine ⟨fun same => ?_, congrArg Predicate.toJson⟩
  cases p
  cases q
  simp only [Predicate.toJson, Json.object.injEq, List.cons.injEq, Prod.mk.injEq, true_and,
    and_true, Json.text.injEq, Operator.symbol_inj, Quote.name_inj, Span.toJson_inj] at same
  obtain ⟨rfl, rfl, rfl, rfl, rfl, rfl⟩ := same
  rfl

inductive Step.Kind where
  | prefetch | fetched | replaced | failure
deriving DecidableEq

def Step.Kind.name : Step.Kind → Text
  | .prefetch => "prefetch".toList
  | .fetched => "prefetch_result".toList
  | .replaced => "rewrite".toList
  | .failure => "error".toList

theorem Step.Kind.name_inj {kind other : Step.Kind} : kind.name = other.name ↔ kind = other := by
  cases kind <;> cases other <;> decide

def Step.kind : Step → Step.Kind
  | .prefetch .. => .prefetch
  | .fetched .. => .fetched
  | .replaced .. => .replaced
  | .failure .. => .failure

theorem Step.member?_type (step : Step) :
    step.toJson.member? "type".toList = some (.text step.kind.name) := by
  cases step <;> rfl

theorem Step.kind_eq_of_toJson_eq {step other : Step} (same : step.toJson = other.toJson) :
    step.kind = other.kind := by
  have types := congrArg (Json.member? "type".toList) same
  rw [Step.member?_type, Step.member?_type] at types
  exact Step.Kind.name_inj.1 (Json.text.inj (Option.some.inj types))

-- Steps of different kinds have members of the same names, so the kinds are compared first.
theorem Step.toJson_inj {step other : Step} : step.toJson = other.toJson ↔ step = other := by
  refine ⟨fun same => ?_, congrArg Step.toJson⟩
  have kind := Step.kind_eq_of_toJson_eq same
  cases step with
  | prefetch relation field operator query =>
    cases other with
    | prefetch relation' field' operator' query' =>
      cases query
      cases query'
      simp only [Step.toJson, Json.object.injEq, List.cons.injEq, Prod.mk.injEq, true_and,
        and_true, Json.text.injEq, Json.bool.injEq, Json.nat_inj, Operator.symbol_inj] at same
      obtain ⟨rfl, rfl, rfl, rfl, rfl, rfl, rfl, rfl⟩ := same
      rfl
    | _ => cases kind
  | fetched relation field returned used truncated =>
    cases other with
    | fetched relation' field' returned' used' truncated' =>
      simp only [Step.toJson, Json.object.injEq, List.cons.injEq, Prod.mk.injEq, true_and,
        and_true, Json.text.injEq, Json.bool.injEq, Json.nat_inj] at same
      obtain ⟨rfl, rfl, rfl, rfl, rfl⟩ := same
      rfl
    | _ => cases kind
  | replaced relation field before after occurrences =>
    cases other with
    | replaced relation' field' before' after' occurrences' =>
      simp only [Step.toJson, Json.object.injEq, List.cons.injEq, Prod.mk.injEq, true_and,
        and_true, Json.text.injEq, Json.nat_inj] at same
      obtain ⟨rfl, rfl, rfl, rfl, rfl⟩ := same
      rfl
    | _ => cases kind
  | failure relation field message =>
    cases other with
    | failure relation' field' message' =>
      simp only [Step.toJson, Json.object.injEq, List.cons.injEq, Prod.mk.injEq, true_and,
        and_true, Json.text.injEq] at same
      obtain ⟨rfl, rfl, rfl⟩ := same
      rfl
    | _ => cases kind

theorem Problem.toJson_inj {problem other : Problem} :
    problem.toJson = other.toJson ↔ problem = other := by
  refine ⟨fun same => ?_, congrArg Problem.toJson⟩
  obtain ⟨message, relation⟩ := List.cons.inj (Json.object.inj same)
  have last : optionalMember "relation".toList problem.relation ++ [] =
      optionalMember "relation".toList other.relation ++ [] := by
    simpa only [List.append_nil] using relation
  obtain ⟨relation, -⟩ := optionalMember_append_inj last rfl
  exact congrArg₂ Problem.mk relation (Json.text.inj (Prod.mk.inj message).2)

theorem Plan.toJson_inj {plan other : Plan} : plan.toJson = other.toJson ↔ plan = other := by
  refine ⟨fun same => ?_, congrArg Plan.toJson⟩
  obtain ⟨correlationId, later⟩ := optionalMember_append_inj (Json.object.inj same) rfl
  simp only [List.cons.injEq, Prod.mk.injEq, true_and, and_true, Json.list.injEq, Json.text.injEq,
    Json.bool.injEq] at later
  obtain ⟨detected, problems, -, root, steps, truncated⟩ := later
  have detected := List.map_injective_iff.2 (fun _ _ => Predicate.toJson_inj.1) detected
  have problems := List.map_injective_iff.2 (fun _ _ => Problem.toJson_inj.1) problems
  have steps := List.map_injective_iff.2 (fun _ _ => Step.toJson_inj.1) steps
  cases plan
  cases other
  congr

theorem Plan.member?_mode (plan : Plan) :
    plan.toJson.member? "mode".toList = some (.text plan.mode.name) := by
  obtain ⟨root, correlationId, detected, steps, truncated, problems⟩ := plan
  cases correlationId <;> rfl

inductive Json.Regular : Json → Prop
  | null : Json.Regular .null
  | bool (value : Bool) : Json.Regular (.bool value)
  | number (value : Number) : Json.Regular (.number value)
  | text (value : Text) : Json.Regular (.text value)
  | list {items : List Json} (each : ∀ item ∈ items, item.Regular) : Json.Regular (.list items)
  | object {members : Dict Json} (ordered : Ordered members)
      (each : ∀ member ∈ members, member.2.Regular) : Json.Regular (.object members)

theorem Json.Regular.nat (n : Nat) : (Json.nat n).Regular :=
  .number _

theorem Json.Regular.map {α : Type} {write : α → Json} (regular : ∀ a, (write a).Regular)
    (items : List α) : (Json.list (items.map write)).Regular :=
  .list (List.forall_mem_map.2 fun a _ => regular a)

-- The names are constants, whatever the values are, so that their order can be computed.
theorem Span.regular_toJson (span : Span) : span.toJson.Regular :=
  .object (of_decide_eq_true rfl) (by simp [Json.Regular.nat])

theorem Predicate.regular_toJson (p : Predicate) : p.toJson.Regular :=
  .object (of_decide_eq_true rfl) (by simp [Json.Regular.text, p.span.regular_toJson])

theorem Step.regular_toJson (step : Step) : step.toJson.Regular := by
  cases step
  all_goals
    refine .object (of_decide_eq_true rfl) ?_
    simp [Json.Regular.text, Json.Regular.nat, Json.Regular.bool]

theorem Problem.regular_toJson (problem : Problem) : problem.toJson.Regular := by
  obtain ⟨relation, message⟩ := problem
  cases relation
  all_goals
    refine .object (of_decide_eq_true rfl) ?_
    simp [optionalMember, Json.Regular.text]

theorem Plan.regular_toJson (plan : Plan) : plan.toJson.Regular := by
  obtain ⟨root, correlationId, detected, steps, truncated, problems⟩ := plan
  cases correlationId
  all_goals
    refine .object (of_decide_eq_true rfl) ?_
    simp [optionalMember, Json.Regular.text, Json.Regular.bool,
      Json.Regular.map Predicate.regular_toJson, Json.Regular.map Problem.regular_toJson,
      Json.Regular.map Step.regular_toJson]

theorem Plan.toJson_lossless (plan other : Plan) :
    (plan.toJson = other.toJson ↔ plan = other) ∧
      (plan.toJson.member? "mode".toList = other.toJson.member? "mode".toList ↔
        plan.mode = other.mode) ∧
      plan.toJson.Regular ∧ ∃ members, plan.toJson = .object members := by
  refine ⟨toJson_inj, ?_, plan.regular_toJson, _, rfl⟩
  rw [member?_mode, member?_mode, Option.some_inj, Json.text.injEq, Mode.name_inj]

end Prejoin
