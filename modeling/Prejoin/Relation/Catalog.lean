import Prejoin.Relation.Files
import Prejoin.Relation.Layer

set_option autoImplicit false

namespace Prejoin

inductive Source where
  | builtIn | defaults | tenant
deriving DecidableEq, Repr

def Source.name : Source → Text
  | .builtIn => "built-in".toList
  | .defaults => "defaults".toList
  | .tenant => "tenant".toList

def configVariable : Text := "RELATION_PREFETCH_CONFIG_DIR".toList

def defaultConfigPath : Text := "config".toList

def configPath (setting? : Option Text) : Text :=
  setting?.getD defaultConfigPath

def layerPath (name : Text) : Text :=
  "relationships/".toList ++ name

def Files.layer? (files : Files) (name : Text) : Option Layer :=
  if maxNameBytes < byteLength name then none
  else (files.text? (layerPath name)).bind Layer.parse?

def fileSuffix : Text := ".json".toList

def defaultsFile : Text := "default".toList ++ fileSuffix

def isPlain (c : Char) : Bool :=
  c.isAlphanum || c = '_' || c = '-' || c = '.'

-- A tenant has a file if its name is a plain one that means no directory.
def tenantFile? (tenant : Text) : Option Text :=
  if tenant ≠ [] ∧ tenant ≠ ['.'] ∧ tenant ≠ ['.', '.'] ∧ tenant.all isPlain then
    some (tenant ++ fileSuffix)
  else none

def assetEntry : Entry where
  relatedResource := "mxapiasset".toList
  rootJoinField := "assetnum".toList
  relatedKeyField := "assetnum".toList
  relatedSiteField := some "siteid".toList

def locationEntry : Entry where
  relatedResource := "mxapioperloc".toList
  rootJoinField := "location".toList
  relatedKeyField := "location".toList
  relatedSiteField := some "siteid".toList

def vendorEntry : Entry where
  relatedResource := "mxapivendor".toList
  rootJoinField := "vendor".toList
  relatedKeyField := "company".toList

def builtInEntries (root : Text) : Dict Entry :=
  if root = "mxapiwo".toList ∨ root = "mxapisr".toList then
    [("asset".toList, assetEntry), ("location".toList, locationEntry)]
  else if root = "mxapiasset".toList then
    [("location".toList, locationEntry)]
  else if root = "mxapipo".toList ∨ root = "mxapiinvoice".toList then
    [("vendor".toList, vendorEntry)]
  else []

def fileEntries (files : Files) (root : Text) (name? : Option Text) : Dict Entry :=
  match name?.bind files.layer? with
  | some layer => layer.entries root
  | none => []

def layerEntries (files : Files) (tenant root : Text) : Source → Dict Entry
  | .builtIn => builtInEntries root
  | .defaults => fileEntries files root (some defaultsFile)
  | .tenant => fileEntries files root (tenantFile? tenant)

def rootName (root : Text) : Text :=
  foldCase (trim root)

-- Entries that describe no relation are left out only after the layers are laid over one another.
def loadRelations (files : Files) (tenant root : Text) : Dict Relation :=
  let entries := layerEntries files tenant (rootName root)
  let merged := ((entries .builtIn).extendedBy (entries .defaults)).extendedBy (entries .tenant)
  merged.filterMap fun (name, entry) => entry.relation?.map fun relation => (name, relation)

end Prejoin
