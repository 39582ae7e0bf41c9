import Prejoin.Proofs.AnyCase

set_option autoImplicit false

namespace Prejoin

def Predicate.comparand (p : Predicate) : Text :=
  ' ' :: p.operator.symbol ++ ' ' :: quoteLiteral p.value

structure Query.Recased (p q : Predicate) (query query' : Query) : Prop where
  relatedResource : query.relatedResource = query'.relatedResource
  select : query.select = query'.select
  pageSize : query.pageSize = query'.pageSize
  siteScoped : query.siteScoped = query'.siteScoped
  field : foldCase p.field = foldCase q.field
  whereClause : ∃ scope, query.whereClause = scope ++ p.field ++ p.comparand ∧
    query'.whereClause = scope ++ q.field ++ p.comparand

theorem sameClause_iff {p q : Predicate} :
    p.sameClause q ↔ foldCase p.relation = foldCase q.relation ∧
      foldCase p.field = foldCase q.field ∧ p.operator = q.operator ∧ p.value = q.value := by
  simp [Predicate.sameClause, sameName_iff, and_assoc]

theorem siteClause?_congr {p q : Predicate} (same : foldCase p.field = foldCase q.field)
    (relation : Relation) (site : Option Text) :
    siteClause? p relation site = siteClause? q relation site := by
  have own (known : Text) : sameName p.field known = sameName q.field known := by
    rw [sameName, same, sameName]
  simp only [siteClause?, own]

theorem recased_build {p q : Predicate} (same : p.sameClause q) (relation : Relation)
    (site : Option Text) :
    Query.Recased p q (Query.build p relation site) (Query.build q relation site) := by
  obtain ⟨-, field, operator, value⟩ := sameClause_iff.1 same
  have scope := siteClause?_congr field relation site
  constructor
  case field => exact field
  case siteScoped => simp only [Query.build, scope]
  case whereClause =>
    simp only [Query.build, ← scope, Predicate.clause, Predicate.comparand, ← operator, ← value]
    cases siteClause? p relation site with
    | none => exact ⟨[], by simp, by simp⟩
    | some clause => exact ⟨clause ++ " and ".toList, by simp, by simp⟩
  all_goals rfl

section

variable {σ ε : Type} (channel : Channel σ ε) (backend : Backend) (call : Call)

def Channel.answer? (p : Predicate) (relation : Relation) (state : σ) : Option Answer :=
  (call.request? backend p relation).toOption.bind fun request =>
    (channel.send call.caller.tenant request state).toOption.map Prod.fst

/-- The answers do not depend on the case of the field in the query, or of the relation beside
it. -/
def Channel.IgnoresCase : Prop :=
  ∀ (p : Predicate) (name field : Text) (relation : Relation) (state : σ),
    foldCase p.relation = foldCase name → foldCase p.field = foldCase field →
      channel.answer? backend call p relation state =
        channel.answer? backend call { p with relation := name, field } relation state

def Channel.replacement? (relations : Dict Relation) (p : Predicate) (state : σ) : Option Text :=
  (Target.ofGroup? backend call relations ⟨p, [p.span]⟩).bind fun target =>
    (resolve channel call.caller.tenant target.relation target.request? state).toOption.bind
      fun (outcome, _) => outcome.toOption.map target.replacement

theorem replacement?_eq (relations : Dict Relation) (p : Predicate) (state : σ) :
    channel.replacement? backend call relations p state =
      (relations.lookup (foldCase p.relation)).bind fun relation =>
        (channel.answer? backend call p relation state).bind fun answer =>
          (relation.keys? answer).toOption.map fun keys =>
            replacementFor relation.rootJoinField keys.kept := by
  unfold Channel.replacement? Target.ofGroup? Channel.answer?
  cases relations.lookup (foldCase p.relation) with
  | none => rfl
  | some relation =>
    simp only [Option.map_some, Option.bind_some, resolve]
    rw [← Call.query, ← Call.request?]
    cases call.request? backend p relation with
    | error error => rfl
    | ok request =>
      simp only [Except.toOption, Option.bind_some]
      cases channel.send call.caller.tenant request state with
      | error fault => rfl
      | ok answered => rfl

end

theorem query_respelled {p q : Predicate} (same : p.sameClause q) (call : Call)
    (relation : Relation) :
    call.query { p with relation := q.relation, field := q.field } relation =
      call.query q relation := by
  obtain ⟨-, -, operator, value⟩ := sameClause_iff.1 same
  simp only [Call.query, Query.build, siteClause?, Predicate.clause, operator, value]

/-- To look up one predicate of a clause is to look up them all. -/
theorem looked_up_alike {p q : Predicate} (same : p.sameClause q) (relations : Dict Relation)
    (site : Option Text) :
    relations.lookup (foldCase p.relation) = relations.lookup (foldCase q.relation) ∧
      (∀ relation,
        Query.Recased p q (Query.build p relation site) (Query.build q relation site)) ∧
      ∀ {σ ε : Type} (channel : Channel σ ε) (backend : Backend) (call : Call) (state : σ),
        channel.IgnoresCase backend call →
          channel.replacement? backend call relations p state =
            channel.replacement? backend call relations q state := by
  obtain ⟨relation, field, -, -⟩ := sameClause_iff.1 same
  refine ⟨by rw [relation], fun known => recased_build same known site, ?_⟩
  intro σ ε channel backend call state ignores
  have answer (known : Relation) : channel.answer? backend call p known state =
      channel.answer? backend call q known state := by
    rw [ignores p q.relation q.field known state relation field]
    simp only [Channel.answer?, Call.request?, query_respelled same]
  rw [replacement?_eq, replacement?_eq, relation]
  simp only [answer]

namespace Url

theorem foldCase_formEncode (s : Text) :
    foldCase (formEncode (foldCase s)) = foldCase (formEncode s) := by
  let encoded (c : Char) : Text :=
    foldCase (if isFormChar c then [c] else if c = ' ' then ['+'] else percentChar c)
  have each : ∀ c : Char, encoded c.toLower = encoded c := eq_toLower_of_forall (by decide)
  induction s with
  | nil => rfl
  | cons c rest ih =>
    have first := each c
    simp only [encoded] at first
    simp only [formEncode, foldCase, List.map_cons, List.flatMap_cons, List.map_append] at ih first ⊢
    rw [ih, first]

theorem foldCase_formEncode_congr {s t : Text} (same : foldCase s = foldCase t) :
    foldCase (formEncode s) = foldCase (formEncode t) := by
  rw [← foldCase_formEncode, same, foldCase_formEncode]

def PairsAlike (pair pair' : Text × Text) : Prop :=
  foldCase pair.1 = foldCase pair'.1 ∧ foldCase pair.2 = foldCase pair'.2

theorem foldCase_formPair {pair pair' : Text × Text} (alike : PairsAlike pair pair') :
    foldCase (formPair pair) = foldCase (formPair pair') := by
  have value : foldCase ('=' :: formEncode pair.2) = foldCase ('=' :: formEncode pair'.2) :=
    congrArg (List.cons '=') (foldCase_formEncode_congr alike.2)
  rw [formPair, formPair, foldCase_append, foldCase_append, value,
    foldCase_formEncode_congr alike.1]

theorem foldCase_appendPairs {pairs pairs' : List (Text × Text)}
    (alike : List.Forall₂ PairsAlike pairs pairs') {query query' : Text}
    (same : foldCase query = foldCase query') :
    foldCase (appendPairs query pairs) = foldCase (appendPairs query' pairs') := by
  unfold appendPairs
  induction alike generalizing query query' with
  | nil => exact same
  | cons first rest ih =>
    apply ih
    have none : query = [] ↔ query' = [] := by
      rw [← foldCase_eq_nil_iff, same, foldCase_eq_nil_iff]
    simp only [none, foldCase_append, foldCase_formPair first]
    split <;> simp [same]

theorem foldCase_addPairs (url : Url) {pairs pairs' : List (Text × Text)}
    (alike : List.Forall₂ PairsAlike pairs pairs') :
    foldCase (url.addPairs pairs).toText = foldCase (url.addPairs pairs').toText := by
  have written (pairs : List (Text × Text)) : (url.addPairs pairs).toText =
      url.scheme ++ ':' :: url.beforePath ++ url.path ++
        '?' :: appendPairs (url.query.getD []) pairs ++ optional '#' url.fragment := rfl
  have query : foldCase ('?' :: appendPairs (url.query.getD []) pairs) =
      foldCase ('?' :: appendPairs (url.query.getD []) pairs') :=
    congrArg (List.cons '?') (foldCase_appendPairs alike rfl)
  simp only [written, foldCase_append, query]

end Url

theorem Query.Recased.foldCase_whereClause {p q : Predicate} {query query' : Query}
    (recased : Query.Recased p q query query') :
    foldCase query.whereClause = foldCase query'.whereClause := by
  obtain ⟨scope, clause, clause'⟩ := recased.whereClause
  rw [clause, clause', foldCase_append, foldCase_append, foldCase_append, foldCase_append,
    recased.field]

theorem Query.Recased.pairs {p q : Predicate} {query query' : Query}
    (recased : Query.Recased p q query query') :
    List.Forall₂ Url.PairsAlike query.pairs query'.pairs := by
  unfold Query.pairs
  rw [recased.select, recased.pageSize]
  exact .cons ⟨rfl, rfl⟩ (.cons ⟨rfl, rfl⟩ (.cons ⟨rfl, recased.foldCase_whereClause⟩
    (.cons ⟨rfl, rfl⟩ .nil)))

def Channel.byAddress (answer : Text → Answer) : Channel Unit Empty where
  send _ request state := .ok (answer (foldCase request.url), state)

theorem byAddress_ignoresCase (answer : Text → Answer) (backend : Backend) (call : Call) :
    (Channel.byAddress answer).IgnoresCase backend call := by
  intro p name field relation state names fields
  have same : p.sameClause { p with relation := name, field } :=
    sameClause_iff.2 ⟨names, fields, rfl, rfl⟩
  have recased := recased_build same relation call.site
  unfold Channel.answer? Call.request? Call.query Query.request?
  rw [recased.relatedResource]
  dsimp only
  cases Url.parse? (resourceUrl (backend.baseUrl call.caller.tenant)
      (Query.build { p with relation := name, field } relation call.site).relatedResource) with
  | error error => rfl
  | ok url =>
    have address := Url.foldCase_addPairs url recased.pairs
    simp only [Except.toOption, Option.bind_some, Channel.byAddress, address]

def loudPredicate : Predicate :=
  ⟨"ASSET".toList, "Kind".toList, .like, "P%".toList, .double, ⟨24, 44⟩⟩

def oneAsset (address : Text) : Answer :=
  if isFor "mxapiasset".toList address then plantAnswers 0 else .error (.failed "down".toList)

theorem replacement_pump :
    (Channel.byAddress oneAsset).replacement? assetBackend (assetCall []) assetRelations
      pumpPredicate () = some "(assetnum=\"A1\")".toList := by
  decide +kernel

theorem looked_up_alike_pump :
    pumpPredicate.sameClause loudPredicate ∧
      (Channel.byAddress oneAsset).IgnoresCase assetBackend (assetCall []) ∧
      (Channel.byAddress oneAsset).replacement? assetBackend (assetCall []) assetRelations
        loudPredicate () = some "(assetnum=\"A1\")".toList := by
  have same : pumpPredicate.sameClause loudPredicate := by decide
  have ignores := byAddress_ignoresCase oneAsset assetBackend (assetCall [])
  obtain ⟨-, -, alike⟩ := looked_up_alike same assetRelations none
  refine ⟨same, ignores, ?_⟩
  rw [← alike _ assetBackend (assetCall []) () ignores, replacement_pump]

end Prejoin
