import Prejoin.Proofs.Spellings
import Prejoin.Relation.Catalog

set_option autoImplicit false

namespace Prejoin

def NamesFile (tenant : Text) : Prop :=
  tenant ≠ [] ∧ tenant ≠ ['.'] ∧ tenant ≠ ['.', '.'] ∧
    ∀ c ∈ tenant, c.isAlphanum ∨ c = '_' ∨ c = '-' ∨ c = '.'

theorem tenantFile?_eq_some_iff {tenant name : Text} :
    tenantFile? tenant = some name ↔ NamesFile tenant ∧ name = tenant ++ fileSuffix := by
  unfold tenantFile?
  rw [Option.ite_none_right_eq_some, Option.some_inj, eq_comm (a := name)]
  simp [NamesFile, isPlain, or_assoc]

structure Files.Describes (files : Files) (name : Text) (layer : Layer) : Prop where
  short : byteLength name ≤ maxNameBytes
  reads : ∃ bytes text, files.lookup (layerPath name) = some (.content bytes) ∧
    String.fromUTF8? bytes = some text ∧ Layer.parse? text.toList = some layer

theorem layer?_eq_some_iff {files : Files} {name : Text} {layer : Layer} :
    files.layer? name = some layer ↔ files.Describes name layer := by
  unfold Files.layer? Files.text?
  constructor
  · intro found
    split at found
    next => cases found
    next short =>
      obtain ⟨text, read, parsed⟩ := Option.bind_eq_some_iff.1 found
      split at read
      next bytes stands =>
        obtain ⟨decoded, valid, rfl⟩ := Option.map_eq_some_iff.1 read
        exact ⟨Nat.not_lt.1 short, bytes, decoded, stands, valid, parsed⟩
      next => cases read
  · rintro ⟨short, bytes, text, stands, valid, parsed⟩
    rw [if_neg (Nat.not_lt.2 short), stands]
    simp [valid, parsed]

theorem Files.Describes.distinct {files : Files} {name : Text} {layer : Layer}
    (describes : files.Describes name layer) : layer.Distinct := by
  obtain ⟨bytes, text, -, -, parsed⟩ := describes.reads
  exact (Layer.ordered_of_parse? parsed).distinct

inductive Held (files : Files) (tenant root name : Text) : Source → Entry → Prop
  | builtIn {entry : Entry} (known : (name, entry) ∈ builtInEntries root) :
      Held files tenant root name .builtIn entry
  | defaults {layer : Layer} {entry : Entry} (read : files.Describes defaultsFile layer)
      (holds : layer.Holds root name entry) : Held files tenant root name .defaults entry
  | tenant {layer : Layer} {entry : Entry} (named : NamesFile tenant)
      (read : files.Describes (tenant ++ fileSuffix) layer)
      (holds : layer.Holds root name entry) : Held files tenant root name .tenant entry

def Source.level : Source → Nat
  | .builtIn => 0
  | .defaults => 1
  | .tenant => 2

theorem ordered_builtInEntries (root : Text) : Ordered (builtInEntries root) := by
  unfold builtInEntries Ordered
  split
  next => decide
  next =>
    split
    next => decide
    next => split <;> decide

theorem lookup_fileEntries {files : Files} {root name file : Text} {entry : Entry}
    (folded : foldCase name = name) :
    (fileEntries files root (some file)).lookup name = some entry ↔
      ∃ layer, files.Describes file layer ∧ layer.Holds root name entry := by
  unfold fileEntries
  rw [Option.bind_some]
  constructor
  · intro found
    split at found
    next layer read =>
      have describes := layer?_eq_some_iff.1 read
      exact ⟨layer, describes, (Layer.lookup_entries describes.distinct folded).1 found⟩
    next => cases found
  · rintro ⟨layer, describes, holds⟩
    rw [layer?_eq_some_iff.2 describes]
    exact (Layer.lookup_entries describes.distinct folded).2 holds

theorem lookup_layerEntries {files : Files} {tenant root name : Text} {source : Source}
    {entry : Entry} (folded : foldCase name = name) :
    (layerEntries files tenant root source).lookup name = some entry ↔
      Held files tenant root name source entry := by
  cases source with
  | builtIn =>
    refine (ordered_builtInEntries root).lookup_eq_some_iff.trans ?_
    constructor
    · exact .builtIn
    · intro held
      cases held with
      | builtIn known => exact known
  | defaults =>
    refine (lookup_fileEntries folded).trans ?_
    constructor
    · rintro ⟨layer, read, holds⟩
      exact .defaults read holds
    · intro held
      cases held with
      | defaults read holds => exact ⟨_, read, holds⟩
  | tenant =>
    unfold layerEntries
    by_cases named : NamesFile tenant
    next =>
      rw [tenantFile?_eq_some_iff.2 ⟨named, rfl⟩]
      refine (lookup_fileEntries folded).trans ?_
      constructor
      · rintro ⟨layer, read, holds⟩
        exact .tenant named read holds
      · intro held
        cases held with
        | tenant _ read holds => exact ⟨_, read, holds⟩
    next =>
      have none : tenantFile? tenant = none := by
        rw [Option.eq_none_iff_forall_ne_some]
        exact fun name found => named (tenantFile?_eq_some_iff.1 found).1
      rw [none]
      constructor
      · intro found
        cases found
      · intro held
        cases held with
        | tenant other => exact absurd other named

theorem Held.unique {files : Files} {tenant root name : Text} {source : Source}
    {entry entry' : Entry} (folded : foldCase name = name)
    (held : Held files tenant root name source entry)
    (held' : Held files tenant root name source entry') : entry = entry' :=
  Option.some.inj (((lookup_layerEntries folded).2 held).symm.trans
    ((lookup_layerEntries folded).2 held'))

theorem or_eq_some_iff {α : Type} (given : Source → Option α) (a : α) :
    (given .tenant).or ((given .defaults).or (given .builtIn)) = some a ↔
      ∃ source, given source = some a ∧
        ∀ source' b, given source' = some b → source'.level ≤ source.level := by
  constructor
  · intro found
    rcases Option.or_eq_some_iff.1 found with tenant | ⟨noTenant, found⟩
    · refine ⟨.tenant, tenant, fun source' b _ => ?_⟩
      cases source' <;> simp [Source.level]
    · rcases Option.or_eq_some_iff.1 found with defaults | ⟨noDefaults, builtIn⟩
      · refine ⟨.defaults, defaults, fun source' b other => ?_⟩
        cases source' <;> simp_all [Source.level]
      · refine ⟨.builtIn, builtIn, fun source' b other => ?_⟩
        cases source' <;> simp_all [Source.level]
  · rintro ⟨source, own, last⟩
    -- No layer above the source's gives anything.
    have none (source' : Source) (above : source.level < source'.level) : given source' = none := by
      rw [Option.eq_none_iff_forall_ne_some]
      exact fun b other => absurd (last source' b other) (Nat.not_le.2 above)
    cases source with
    | builtIn => simp [none .tenant (by decide), none .defaults (by decide), own]
    | defaults => simp [none .tenant (by decide), own]
    | tenant => simp [own]

end Prejoin
