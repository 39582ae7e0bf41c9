import Mathlib.Data.List.Basic
import Mathlib.Tactic.Common
import Prejoin.Relation.Files

set_option autoImplicit false

namespace Prejoin

theorem lookup_filter_names {α : Type} (keep : Text → Bool) {name : Text} (kept : keep name)
    (dict : Dict α) : (dict.filter fun named => keep named.1).lookup name = dict.lookup name := by
  induction dict with
  | nil => rfl
  | cons head rest ih =>
    by_cases same : name = head.1
    next =>
      rw [List.filter_cons_of_pos (same ▸ kept), lookup_pair, lookup_pair, if_pos same, if_pos same]
    next =>
      rw [lookup_pair, if_neg same, ← ih]
      by_cases stays : keep head.1
      next => rw [List.filter_cons_of_pos (by exact stays), lookup_pair, if_neg same]
      next => rw [List.filter_cons_of_neg (by exact stays)]

def Straight (names : List Text) : Prop :=
  ∀ name ∈ names, staysHere name = false ∧ goesUp name = false

section

variable {files after : Files} {place next : Place} {name asked : Text}

theorem step?_straight (here : staysHere name = false) (down : goesUp name = false)
    (found : files.step? place name = some next) : next = place ++ [name] := by
  unfold Files.step? at found
  rw [here, down] at found
  split at found
  next =>
    by_cases long : maxNameBytes < byteLength name
    next => simp [long] at found
    next => simpa [long, eq_comm] using found
  next => cases found

theorem enter?_straight (here : staysHere name = false) (down : goesUp name = false)
    (found : files.enter? place name = some (after, next)) :
    next = place ++ [name] ∧ (asked ≠ next.path → after.lookup asked = files.lookup asked) := by
  obtain ⟨place', stepped, entered⟩ := Option.bind_eq_some_iff.1 found
  split at entered
  next =>
    obtain ⟨rfl, rfl⟩ := Prod.mk.inj (Option.some.inj entered)
    refine ⟨step?_straight here down stepped, fun other => ?_⟩
    rw [lookup_put, if_neg other]
  next =>
    obtain ⟨rfl, rfl⟩ := Prod.mk.inj (Option.some.inj entered)
    exact ⟨step?_straight here down stepped, fun _ => rfl⟩
  next => cases entered

end

theorem foldlM_step?_straight {files : Files} {names : List Text} {place next : Place}
    (straight : Straight names) (found : names.foldlM files.step? place = some next) :
    next = place ++ names := by
  induction names generalizing place with
  | nil => simpa [eq_comm] using found
  | cons name rest ih =>
    obtain ⟨here, down⟩ := straight name List.mem_cons_self
    rw [List.foldlM_cons] at found
    obtain ⟨inner, stepped, later⟩ := Option.bind_eq_some_iff.1 found
    rw [ih (fun other inside => straight other (List.mem_cons_of_mem _ inside)) later,
      step?_straight here down stepped, List.append_assoc, List.singleton_append]

theorem foldlM_enter?_straight {files after : Files} {names : List Text} {place next : Place}
    {asked : Text} (straight : Straight names)
    (other : ∀ inner, inner <+: names → asked ≠ Place.path (place ++ inner))
    (found : names.foldlM (fun (files, place) name => Files.enter? files place name)
      (files, place) = some (after, next)) :
    next = place ++ names ∧ after.lookup asked = files.lookup asked := by
  induction names generalizing files place with
  | nil =>
    obtain ⟨rfl, rfl⟩ := Prod.mk.inj (Option.some.inj found)
    exact ⟨(List.append_nil _).symm, rfl⟩
  | cons name rest ih =>
    obtain ⟨here, down⟩ := straight name List.mem_cons_self
    rw [List.foldlM_cons] at found
    obtain ⟨⟨between, inner⟩, entered, later⟩ := Option.bind_eq_some_iff.1 found
    obtain ⟨rfl, kept⟩ := enter?_straight here down entered
    have apart : asked ≠ Place.path (place ++ [name]) :=
      other [name] (by simp)
    have further (tail : Place) (inside : tail <+: rest) :
        asked ≠ Place.path (place ++ [name] ++ tail) := by
      rw [List.append_assoc]
      exact other (name :: tail) (List.cons_prefix_cons.2 ⟨rfl, inside⟩)
    obtain ⟨reached, same⟩ :=
      ih (fun other inside => straight other (List.mem_cons_of_mem _ inside)) further later
    exact ⟨by rw [reached, List.append_assoc, List.singleton_append], same.trans (kept apart)⟩

theorem lookup_enterAll? {files after : Files} {names : List Text} {place : Place} {asked : Text}
    (straight : Straight names) (other : ∀ inner, inner <+: names → asked ≠ Place.path inner)
    (found : files.enterAll? names = some (after, place)) :
    place = names ∧ after.lookup asked = files.lookup asked :=
  foldlM_enter?_straight straight other found

theorem lookup_writeIn? {files after : Files} {directories : List Text} {name asked : Text}
    {file : File} (straight : Straight (directories ++ [name]))
    (other : ∀ inner, inner <+: directories ++ [name] → asked ≠ Place.path inner)
    (written : files.writeIn? directories name file = some after) :
    after.lookup asked = files.lookup asked := by
  obtain ⟨outer, last⟩ := List.forall_mem_append.1 straight
  obtain ⟨here, down⟩ := last name List.mem_cons_self
  obtain ⟨⟨between, place⟩, entered, rest⟩ := Option.bind_eq_some_iff.1 written
  obtain ⟨next, stepped, stored⟩ := Option.bind_eq_some_iff.1 rest
  obtain ⟨rfl, kept⟩ := lookup_enterAll? outer
    (fun inner before => other inner (before.trans (List.prefix_append _ _))) entered
  obtain rfl := step?_straight here down stepped
  split at stored
  next => cases stored
  next =>
    obtain rfl := Option.some.inj stored
    rw [lookup_put, if_neg (other _ (List.prefix_refl _)), kept]

theorem lookup_write_other {path asked : Text} (straight : Straight (splitOn '/' path))
    (other : ∀ inner, inner <+: splitOn '/' path → asked ≠ Place.path inner) (file : File)
    (files : Files) : (files.write path file).lookup asked = files.lookup asked := by
  unfold Files.write
  by_cases absolute : isAbsolute path
  next => simp [absolute]
  next =>
    simp only [absolute, Bool.false_eq_true, if_false]
    cases file with
    | directory =>
      cases entered : files.enterAll? (splitOn '/' path) with
      | none => rfl
      | some reached => exact (lookup_enterAll? straight other entered).2
    | content bytes =>
      have split : (splitOn '/' path).dropLast ++ [(splitOn '/' path).getLastD []] =
          splitOn '/' path := by
        rw [List.getLastD_eq_getLast?, List.getLast?_eq_some_getLast (splitOn_ne_nil '/' path)]
        exact List.dropLast_append_getLast _
      cases written : files.writeIn? (splitOn '/' path).dropLast
        ((splitOn '/' path).getLastD []) (.content bytes) with
      | none => rfl
      | some after =>
        rw [← split] at straight other
        exact lookup_writeIn? straight other written

theorem lookup_remove_other {path asked : Text} (straight : Straight (splitOn '/' path))
    (other : isWithin (splitOn '/' path) asked = false) (files : Files) :
    (files.remove path).lookup asked = files.lookup asked := by
  unfold Files.remove
  split
  next place found =>
    unfold Files.locate? at found
    split at found
    next => cases found
    next =>
      have reached := foldlM_step?_straight straight found
      rw [List.nil_append] at reached
      apply lookup_filter_names fun name => !isWithin place name
      rw [reached, other]
      rfl
  next => rfl

end Prejoin
