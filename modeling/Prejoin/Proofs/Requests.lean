import Prejoin.Lookup.Resolve
import Prejoin.Proofs.Addresses
import Prejoin.Proofs.Paging

set_option autoImplicit false

namespace Prejoin

namespace Url

def queryOf? (address : Text) : Option Text :=
  match (address.takeWhile (· ≠ '#')).dropWhile (· ≠ '?') with
  | _ :: query => some query
  | [] => none

def fragmentOf? (address : Text) : Option Text :=
  match address.dropWhile (· ≠ '#') with
  | _ :: fragment => some fragment
  | [] => none

section

variable {before query : Text}

theorem forall_ne_number (bare : Bare before) (absent : '#' ∉ query) :
    ∀ c ∈ before ++ '?' :: query, decide (c ≠ '#') = true := by
  rintro c inside
  refine decide_eq_true fun same => ?_
  subst same
  rcases List.mem_append.1 inside with first | behind
  · exact absurd (bare '#' first) (by decide)
  · rcases List.mem_cons.1 behind with mark | second
    · exact absurd mark (by decide)
    · exact absent second

theorem queryOf?_append (bare : Bare before) (absent : '#' ∉ query) :
    queryOf? (before ++ '?' :: query) = some query := by
  have start : ∀ c ∈ before, decide (c ≠ '?') = true := fun c inside =>
    decide_eq_true fun same => absurd (bare c inside) (by rw [same]; decide)
  rw [queryOf?, List.takeWhile_eq_self_iff.2 (forall_ne_number bare absent),
    List.dropWhile_append_of_pos start]
  rfl

theorem fragmentOf?_append (bare : Bare before) (absent : '#' ∉ query) :
    fragmentOf? (before ++ '?' :: query) = none := by
  rw [fragmentOf?, List.dropWhile_eq_nil_iff.2 (forall_ne_number bare absent)]

end

theorem toText_addPairs {url : Url} (bare : Bare url.toText) (pairs : List (Text × Text)) :
    (url.addPairs pairs).toText = url.toText ++ '?' :: appendPairs [] pairs := by
  have query : url.query = none := by
    cases found : url.query with
    | none => rfl
    | some text => exact absurd (bare '?' (by simp [toText, optional, found])) (by decide)
  have fragment : url.fragment = none := by
    cases found : url.fragment with
    | none => rfl
    | some text => exact absurd (bare '#' (by simp [toText, optional, found])) (by decide)
  simp [toText, addPairs, beforePath, optional, query, fragment]

end Url

theorem bare_resourceUrl {base resource : Text} (whole : Bare base) (below : Bare resource) :
    Bare (resourceUrl base resource) := by
  have kept : trimEnd (· = '/') base ⊆ base := by
    intro c inside
    exact List.mem_reverse.1 (List.dropWhile_subset _ (List.mem_reverse.1 inside))
  have between : Bare "/os/".toList := by decide
  exact ((whole.mono kept).append between).append below

/-- Whatever is asked for, it adds no pair to the address, takes none away and cuts none short. -/
theorem request_query {query : Query} {backend : Backend} {caller : Caller} {relation : Text}
    {request : Request} (base : Bare (backend.baseUrl caller.tenant))
    (resource : Bare query.relatedResource)
    (made : query.request? backend caller relation = .ok request) :
    ∃ text, Url.queryOf? request.url = some text ∧
      Url.formPairs? text = some [
        ("lean".toList, "1".toList),
        ("oslc.select".toList, query.select),
        ("oslc.where".toList, query.whereClause),
        ("oslc.pageSize".toList, decimal query.pageSize)] ∧
      Url.fragmentOf? request.url = none := by
  unfold Query.request? at made
  dsimp only at made
  split at made
  next => nomatch made
  next url read =>
    obtain rfl := Except.ok.inj made
    have bare := Url.bare_of_parse? (bare_resourceUrl base resource) read
    have absent : '#' ∉ Url.appendPairs [] query.pairs := fun inside =>
      absurd (Url.mem_appendPairs inside) (by decide)
    dsimp only
    rw [Url.toText_addPairs bare]
    refine ⟨_, Url.queryOf?_append bare absent, ?_, Url.fragmentOf?_append bare absent⟩
    rw [Url.formPairs?_appendPairs]
    rfl

theorem exists_request {query other : Query} {backend : Backend} {caller : Caller} {relation : Text}
    (same : query.relatedResource = other.relatedResource)
    (found : (other.request? backend caller relation).toOption.isSome) :
    ∃ request, query.request? backend caller relation = .ok request := by
  unfold Query.request? at found ⊢
  rw [same]
  dsimp only at found ⊢
  split at found
  next => nomatch found
  next => exact ⟨_, rfl⟩

def markedQuery : Query where
  relatedResource := pagedQuery.relatedResource
  whereClause := "name = \"A&B=C%26+?#\" or größe".toList
  select := "a&lean=0#b, 𝄞".toList
  pageSize := 200
  siteScoped := false

theorem request_query_marked :
    ∃ request text,
      Bare (assetBackend.baseUrl (assetCall []).caller.tenant) ∧
      Bare markedQuery.relatedResource ∧
      markedQuery.request? assetBackend (assetCall []).caller pagedPredicate.relation =
        .ok request ∧
      Url.queryOf? request.url = some text ∧
      Url.formPairs? text = some [
        ("lean".toList, "1".toList),
        ("oslc.select".toList, "a&lean=0#b, 𝄞".toList),
        ("oslc.where".toList, "name = \"A&B=C%26+?#\" or größe".toList),
        ("oslc.pageSize".toList, "200".toList)] ∧
      Url.fragmentOf? request.url = none := by
  have base : Bare (assetBackend.baseUrl (assetCall []).caller.tenant) := by decide
  have resource : Bare markedQuery.relatedResource := by decide
  have same : markedQuery.relatedResource = pagedQuery.relatedResource := rfl
  obtain ⟨request, made⟩ := exists_request same address_paged
  obtain ⟨text, query, pairs, fragment⟩ := request_query base resource made
  exact ⟨request, text, base, resource, made, query, pairs, fragment⟩

end Prejoin
