import Prejoin.Exchange.Channel
import Prejoin.Lookup.Keys
import Prejoin.Lookup.Query
import Prejoin.Url.Parse

set_option autoImplicit false

namespace Prejoin

inductive LookupError where
  | baseUrl (base : Text) (error : Url.UrlError)
  | exchange (error : ExchangeError)
  | shape (error : ShapeError)

def LookupError.message : LookupError → Text
  | .baseUrl base error =>
    "Invalid base URL ".toList ++ base ++ ": ".toList ++ error.message
  | .exchange error => error.message
  | .shape error => "Unexpected response shape: ".toList ++ error.message

structure Caller where
  tenant : Text
  root : Text
  correlationId : Option Text
  context : Option Json

def Query.pairs (query : Query) : List (Text × Text) :=
  [("lean".toList, "1".toList),
    ("oslc.select".toList, query.select),
    ("oslc.where".toList, query.whereClause),
    ("oslc.pageSize".toList, decimal query.pageSize)]

def resourceUrl (base resource : Text) : Text :=
  trimEnd (· = '/') base ++ "/os/".toList ++ resource

def Query.metadata (query : Query) (caller : Caller) (relation : Text) : Json :=
  .object [
    ("context".toList, caller.context.getD .null),
    ("correlationId".toList, .ofText? caller.correlationId),
    ("purpose".toList, .text "relationship_prefetch".toList),
    ("relatedResource".toList, .text query.relatedResource),
    ("relation".toList, .text relation),
    ("rootResource".toList, .text caller.root)]

def title (relation root : Text) : Text :=
  "Prefetch ".toList ++ relation ++ " keys for ".toList ++ root

-- What is accepted is said unless the headers say it already.
def withAccept (headers : Dict Text) : Dict Text :=
  match headers.lookup "Accept".toList with
  | some _ => headers
  | none => put "Accept".toList "application/json".toList headers

def Query.request? (query : Query) (backend : Backend) (caller : Caller) (relation : Text) :
    Except LookupError Request :=
  let base := backend.baseUrl caller.tenant
  match Url.parse? (resourceUrl base query.relatedResource) with
  | .error error => .error (.baseUrl base error)
  | .ok url =>
    .ok {
      method := "GET".toList
      url := (url.addPairs query.pairs).toText
      headers := withAccept (backend.headers caller.tenant)
      title := title relation caller.root
      metadata := query.metadata caller relation }

def Relation.keys? (relation : Relation) (answer : Answer) : Except LookupError Keys :=
  match answer.body? with
  | .error error => .error (.exchange error)
  | .ok body =>
    match Keys.ofBody relation.relatedKeyField relation.maxKeys body with
    | .error error => .error (.shape error)
    | .ok keys => .ok keys

def resolve {σ ε : Type} (channel : Channel σ ε) (tenant : Text) (relation : Relation)
    (request? : Except LookupError Request) (state : σ) :
    Except ε (Except LookupError Keys × σ) :=
  match request? with
  | .error error => .ok (.error error, state)
  | .ok request =>
    match channel.send tenant request state with
    | .error fault => .error fault
    | .ok (answer, state) => .ok (relation.keys? answer, state)

end Prejoin
