import Prejoin.Plan.Basic

set_option autoImplicit false

namespace Prejoin

def Mode.name : Mode → Text
  | .none => "none".toList
  | .prefetch => "prefetch".toList
  | .error => "error".toList

def Quote.name : Quote → Text
  | .double => "double".toList
  | .single => "single".toList

def Span.toJson (span : Span) : Json :=
  .object [("end".toList, .nat span.stop), ("start".toList, .nat span.start)]

def Predicate.toJson (predicate : Predicate) : Json :=
  .object [
    ("field".toList, .text predicate.field),
    ("operator".toList, .text predicate.operator.symbol),
    ("quote".toList, .text predicate.quote.name),
    ("relation".toList, .text predicate.relation),
    ("span".toList, predicate.span.toJson),
    ("value".toList, .text predicate.value)]

def Step.toJson : Step → Json
  | .prefetch relation field operator query =>
    .object [
      ("field".toList, .text field),
      ("operator".toList, .text operator.symbol),
      ("pageSize".toList, .nat query.pageSize),
      ("relatedResource".toList, .text query.relatedResource),
      ("relation".toList, .text relation),
      ("select".toList, .text query.select),
      ("siteScoped".toList, .bool query.siteScoped),
      ("type".toList, .text "prefetch".toList),
      ("whereClause".toList, .text query.whereClause)]
  | .fetched relation field returned used truncated =>
    .object [
      ("field".toList, .text field),
      ("relation".toList, .text relation),
      ("returned".toList, .nat returned),
      ("truncated".toList, .bool truncated),
      ("type".toList, .text "prefetch_result".toList),
      ("used".toList, .nat used)]
  | .replaced relation field before after occurrences =>
    .object [
      ("field".toList, .text field),
      ("from".toList, .text before),
      ("occurrences".toList, .nat occurrences),
      ("relation".toList, .text relation),
      ("to".toList, .text after),
      ("type".toList, .text "rewrite".toList)]
  | .failure relation field message =>
    .object [
      ("field".toList, .text field),
      ("message".toList, .text message),
      ("relation".toList, .text relation),
      ("type".toList, .text "error".toList)]

def optionalMember (name : Text) (value? : Option Text) : List (Text × Json) :=
  match value? with
  | some value => [(name, .text value)]
  | none => []

def Problem.toJson (problem : Problem) : Json :=
  .object <|
    ("message".toList, .text problem.message) :: optionalMember "relation".toList problem.relation

def Plan.toJson (plan : Plan) : Json :=
  .object <| optionalMember "correlationId".toList plan.correlationId ++ [
    ("detected".toList, .list (plan.detected.map Predicate.toJson)),
    ("errors".toList, .list (plan.problems.map Problem.toJson)),
    ("mode".toList, .text plan.mode.name),
    ("rootResource".toList, .text plan.root),
    ("steps".toList, .list (plan.steps.map Step.toJson)),
    ("truncated".toList, .bool plan.truncated)]

end Prejoin
