import Prejoin.Json.Value

set_option autoImplicit false

namespace Prejoin

structure Request where
  method : Text
  url : Text
  headers : Dict Text
  title : Text
  metadata : Json

def Json.ofTexts (texts : Dict Text) : Json :=
  .object (texts.map fun (name, value) => (name, .text value))

def Request.toJson (request : Request) : Json :=
  .object [
    ("headers".toList, .ofTexts request.headers),
    ("metadata".toList, request.metadata),
    ("method".toList, .text request.method),
    ("title".toList, .text request.title),
    ("url".toList, .text request.url)]

structure Backend where
  baseUrl : Text → Text
  headers : Text → Dict Text

def tenantMark : Text := "\x7btenant\x7d".toList

def fillTenant (tenant : Text) : Text → Text
  | [] => []
  | c :: rest =>
    if tenantMark.isPrefixOf (c :: rest) then
      tenant ++ fillTenant tenant (rest.drop (tenantMark.length - 1))
    else c :: fillTenant tenant rest
termination_by s => s.length

def Backend.ofTemplates (baseUrl : Text) (headers : Dict Text) : Backend where
  baseUrl tenant := fillTenant tenant baseUrl
  headers tenant := headers.map fun (name, value) => (name, fillTenant tenant value)

end Prejoin
