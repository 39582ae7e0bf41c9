import Prejoin.Proofs.Configuration
import Prejoin.Proofs.Places
import Prejoin.Proofs.Trace

set_option autoImplicit false

namespace Prejoin

def tenantPath (tenant : Text) : Text :=
  layerPath (tenant ++ fileSuffix)

def sharedTenant : Text := "default".toList

structure SameFor (tenant : Text) (files files' : Files) : Prop where
  shared : files.lookup (tenantPath sharedTenant) = files'.lookup (tenantPath sharedTenant)
  own : NamesFile tenant → files.lookup (tenantPath tenant) = files'.lookup (tenantPath tenant)

theorem layer?_congr {files files' : Files} {name : Text}
    (same : files.lookup (layerPath name) = files'.lookup (layerPath name)) :
    files.layer? name = files'.layer? name := by
  unfold Files.layer? Files.text?
  rw [same]

theorem fileEntries_congr {files files' : Files} {name? : Option Text}
    (same : ∀ name, name? = some name →
      files.lookup (layerPath name) = files'.lookup (layerPath name)) (root : Text) :
    fileEntries files root name? = fileEntries files' root name? := by
  cases name? with
  | none => rfl
  | some name =>
    unfold fileEntries
    rw [Option.bind_some, Option.bind_some, layer?_congr (same name rfl)]

theorem SameFor.loadRelations {tenant : Text} {files files' : Files}
    (same : SameFor tenant files files') (root : Text) :
    loadRelations files tenant root = loadRelations files' tenant root := by
  have each (root : Text) (source : Source) :
      layerEntries files tenant root source = layerEntries files' tenant root source := by
    cases source with
    | builtIn => rfl
    | defaults =>
      apply fileEntries_congr
      rintro _ ⟨⟩
      exact same.shared
    | tenant =>
      apply fileEntries_congr
      intro name found
      obtain ⟨named, rfl⟩ := tenantFile?_eq_some_iff.1 found
      exact same.own named
  unfold Prejoin.loadRelations
  simp only [each]

def layerDirectory : Text := "relationships".toList

theorem layerPath_eq (name : Text) : layerPath name = layerDirectory ++ '/' :: name := rfl

namespace NamesFile

variable {tenant : Text}

theorem not_mem_file (named : NamesFile tenant) : '/' ∉ tenant ++ fileSuffix := by
  intro inside
  rcases List.mem_append.1 inside with own | suffix
  · exact absurd (named.2.2.2 _ own) (by decide)
  · exact absurd suffix (by decide)

theorem splitOn_tenantPath (named : NamesFile tenant) :
    splitOn '/' (tenantPath tenant) = [layerDirectory, tenant ++ fileSuffix] := by
  rw [tenantPath, layerPath_eq, splitOn_append (by decide), splitOn_of_not_mem named.not_mem_file]

theorem straight (named : NamesFile tenant) : Straight (splitOn '/' (tenantPath tenant)) := by
  have long : 5 < (tenant ++ fileSuffix).length := by
    have positive := List.length_pos_iff.2 named.1
    have suffix : fileSuffix.length = 5 := rfl
    rw [List.length_append]
    omega
  rw [named.splitOn_tenantPath]
  intro name inside
  rcases List.mem_cons.1 inside with rfl | last
  · decide
  · rw [List.mem_singleton.1 last]
    simp only [staysHere, goesUp, Bool.or_eq_false_iff, decide_eq_false_iff_not]
    refine ⟨⟨?_, ?_⟩, ?_⟩ <;> intro same <;> simp [same] at long

end NamesFile

theorem tenantPath_injective {tenant tenant' : Text} (same : tenantPath tenant = tenantPath tenant') :
    tenant = tenant' := by
  rw [tenantPath, tenantPath, layerPath_eq, layerPath_eq] at same
  exact List.append_cancel_right (List.cons.inj (List.append_cancel_left same)).2

inductive Change where
  | write (file : File)
  | remove

def Change.apply (path : Text) : Change → Files → Files
  | .write file => Files.write path file
  | .remove => Files.remove path

theorem path_pair (directory name : Text) :
    Place.path [directory, name] = directory ++ '/' :: name := by
  simp [Place.path, List.intercalate]

theorem tenantPath_ne_path {tenant other : Text} (apart : tenant ≠ other) {inner : Place}
    (before : inner <+: [layerDirectory, other ++ fileSuffix]) :
    tenantPath tenant ≠ Place.path inner := by
  rcases List.prefix_cons_iff.1 before with rfl | ⟨rest, rfl, within⟩
  · exact List.cons_ne_nil _ _
  · rcases List.prefix_cons_iff.1 within with rfl | ⟨rest, rfl, last⟩
    · intro same
      have lengths := congrArg List.length same
      simp [tenantPath, layerPath_eq, Place.path, List.intercalate] at lengths
    · obtain rfl := List.prefix_nil.1 last
      rw [path_pair]
      exact fun same => apart (tenantPath_injective same)

theorem isWithin_other {tenant other : Text} (named : NamesFile tenant) (apart : tenant ≠ other) :
    isWithin [layerDirectory, other ++ fileSuffix] (tenantPath tenant) = false := by
  have further : ¬ tenantPath other ++ ['/'] <+: tenantPath tenant := by
    rw [tenantPath, tenantPath, layerPath_eq, layerPath_eq, List.append_assoc, List.cons_append,
      List.prefix_append_right_inj, List.cons_prefix_cons]
    intro inside
    exact named.not_mem_file (inside.2.subset (List.mem_append_right _ List.mem_cons_self))
  have own : tenantPath tenant ≠ tenantPath other := fun same => apart (tenantPath_injective same)
  rw [isWithin, path_pair, ← layerPath_eq, Bool.or_eq_false_iff, Bool.or_eq_false_iff]
  refine ⟨⟨rfl, decide_eq_false own⟩, ?_⟩
  rw [← Bool.not_eq_true, List.isPrefixOf_iff_prefix]
  exact further

theorem lookup_apply_other {tenant other : Text} (named : NamesFile tenant)
    (namedOther : NamesFile other) (apart : tenant ≠ other) (change : Change) (files : Files) :
    (change.apply (tenantPath other) files).lookup (tenantPath tenant) =
      files.lookup (tenantPath tenant) := by
  cases change with
  | write file =>
    have other (inner : Place) (before : inner <+: splitOn '/' (tenantPath other)) :
        tenantPath tenant ≠ inner.path := by
      rw [namedOther.splitOn_tenantPath] at before
      exact tenantPath_ne_path apart before
    rw [Change.apply, lookup_write_other namedOther.straight other]
  | remove =>
    have outside : isWithin (splitOn '/' (tenantPath other)) (tenantPath tenant) = false := by
      rw [namedOther.splitOn_tenantPath]
      exact isWithin_other named apart
    rw [Change.apply, lookup_remove_other namedOther.straight outside]

def changeAll (changes : List (Text × Change)) (files : Files) : Files :=
  changes.foldl (fun files change => change.2.apply (tenantPath change.1) files) files

def ForOthers (tenant : Text) (changes : List (Text × Change)) : Prop :=
  ∀ change ∈ changes, NamesFile change.1 ∧ tenant ≠ change.1 ∧ sharedTenant ≠ change.1

theorem namesFile_sharedTenant : NamesFile sharedTenant := by
  have file : tenantFile? sharedTenant = some defaultsFile := rfl
  exact (tenantFile?_eq_some_iff.1 file).1

theorem SameFor.apply_other {tenant other : Text} (named : NamesFile other)
    (apart : tenant ≠ other) (single : sharedTenant ≠ other) (change : Change) (files : Files) :
    SameFor tenant (change.apply (tenantPath other) files) files where
  shared := lookup_apply_other namesFile_sharedTenant named single change files
  own plain := lookup_apply_other plain named apart change files

theorem SameFor.trans {tenant : Text} {files files' files'' : Files}
    (first : SameFor tenant files files') (second : SameFor tenant files' files'') :
    SameFor tenant files files'' where
  shared := first.shared.trans second.shared
  own plain := (first.own plain).trans (second.own plain)

theorem SameFor.changeAll {tenant : Text} {changes : List (Text × Change)}
    (others : ForOthers tenant changes) (files : Files) :
    SameFor tenant (changeAll changes files) files := by
  induction changes generalizing files with
  | nil => exact ⟨rfl, fun _ => rfl⟩
  | cons change rest ih =>
    obtain ⟨named, apart, single⟩ := others change List.mem_cons_self
    have later := ih (fun next inside => others next (List.mem_cons_of_mem _ inside))
      (change.2.apply (tenantPath change.1) files)
    exact later.trans (.apply_other named apart single change.2 files)

theorem SameFor.plan {σ ε : Type} {files files' : Files} {call : Call}
    (same : SameFor call.caller.tenant files files') (channel : Channel σ ε) (backend : Backend)
    (state : σ) :
    plan channel backend files call state = plan channel backend files' call state := by
  unfold Prejoin.plan
  rw [same.loadRelations]

/-- Of all files, only the one for all tenants and the tenant's own have a part in a tenant's
call. -/
theorem tenants_apart {σ ε : Type} (channel : Channel σ ε) (backend : Backend) (files : Files)
    (call : Call) (state : σ) :
    (∀ files', SameFor call.caller.tenant files files' →
      plan channel backend files call state = plan channel backend files' call state) ∧
    (∀ tenant, NamesFile tenant →
      splitOn '/' (tenantPath tenant) = [layerDirectory, tenant ++ fileSuffix] ∧
      Straight [layerDirectory, tenant ++ fileSuffix]) ∧
    (∀ tenant tenant', tenantPath tenant = tenantPath tenant' → tenant = tenant') ∧
    ∀ changes, ForOthers call.caller.tenant changes →
      plan channel backend (changeAll changes files) call state =
        plan channel backend files call state := by
  refine ⟨fun files' same => same.plan channel backend state, fun tenant named => ?_,
    fun tenant tenant' => tenantPath_injective, fun changes others => ?_⟩
  · exact ⟨named.splitOn_tenantPath, named.splitOn_tenantPath ▸ named.straight⟩
  · exact (SameFor.changeAll others files).plan channel backend state

def globexChanges : List (Text × Change) :=
  [("globex".toList, .write (.content ⟨#[]⟩))]

theorem tenants_apart_acme :
    tenantFile? "acme".toList = some "acme.json".toList ∧
      ForOthers "acme".toList globexChanges ∧
      (changeAll globexChanges []).map Prod.fst = [layerDirectory, tenantPath "globex".toList] ∧
      plan (.inTurn plantAnswers) assetBackend (changeAll globexChanges []) (assetCall plantFilter)
          [] =
        plan (.inTurn plantAnswers) assetBackend [] (assetCall plantFilter) [] := by
  have file : tenantFile? "globex".toList = some "globex.json".toList := rfl
  have named : NamesFile "globex".toList := (tenantFile?_eq_some_iff.1 file).1
  have others : ForOthers "acme".toList globexChanges := by
    intro change inside
    obtain rfl := List.mem_singleton.1 inside
    exact ⟨named, by decide, by decide⟩
  refine ⟨rfl, others, rfl, ?_⟩
  exact (tenants_apart (.inTurn plantAnswers) assetBackend [] (assetCall plantFilter) []).2.2.2
    globexChanges others

end Prejoin
