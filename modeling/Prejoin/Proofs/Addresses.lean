import Mathlib.Data.List.TakeWhile
import Prejoin.Proofs.AddressParts
import Prejoin.Url.Parse

set_option autoImplicit false

namespace Prejoin.Url

variable {s : Text}

theorem map_eq_ok_iff {ε α β : Type} {x : Except ε α} {f : α → β} {b : β} :
    x.map f = .ok b ↔ ∃ a, x = .ok a ∧ f a = b := by
  cases x <;> simp [Except.map]

theorem bind_eq_ok_iff {ε α β : Type} {x : Except ε α} {f : α → Except ε β} {b : β} :
    x >>= f = .ok b ↔ ∃ a, x = .ok a ∧ f a = .ok b := by
  cases x <;> simp [bind, Except.bind]

theorem bare_toText_finish {kind : Kind} {scheme : Text} {authority : Option Authority}
    {path : Text → Text} (bare : Bare s) (named : Bare scheme)
    (known : ∀ known ∈ authority, Bare known.toText) (made : Bare (path s)) :
    Bare (finish kind scheme authority path s).toText := by
  have whole : (s.takeWhile fun c => !endsPath c) = s :=
    List.takeWhile_eq_self_iff.2 fun c inside => by simp [bare c inside]
  have none : (s.dropWhile fun c => !endsPath c) = [] :=
    List.dropWhile_eq_nil_iff.2 fun c inside => by simp [bare c inside]
  unfold finish
  rw [whole, none]
  exact bare_toText named known made rfl rfl

theorem splitUser?_subset {kind : Kind} {before rest : Text}
    (split : splitUser? kind s = some (before, rest)) : before ⊆ s ∧ rest ⊆ s := by
  unfold splitUser? at split
  dsimp only at split
  have start : (s.takeWhile fun c => !endsAuthority kind c) ⊆ s := List.takeWhile_subset _
  split at split
  next mark more found =>
    obtain ⟨rfl, rfl⟩ := Prod.mk.inj (Option.some.inj split)
    have named : mark :: more ⊆ s := by
      rw [← found]
      intro c inside
      exact start (List.mem_reverse.1 (List.dropWhile_subset _ inside))
    constructor
    · intro c inside
      exact named (List.mem_cons_of_mem _ (List.mem_reverse.1 inside))
    · apply List.append_subset.2 ⟨_, List.dropWhile_subset _⟩
      intro c inside
      exact start (List.mem_reverse.1 (List.takeWhile_subset _ (List.mem_reverse.1 inside)))
  next => nomatch split

theorem splitHost_subset (kind : Kind) (inBrackets : Bool) (s : Text) :
    (splitHost kind inBrackets s).1 ⊆ s ∧ (splitHost kind inBrackets s).2 ⊆ s := by
  induction s generalizing inBrackets with
  | nil => exact ⟨List.Subset.refl _, List.Subset.refl _⟩
  | cons c rest ih =>
    unfold splitHost
    split
    next => exact ⟨List.nil_subset _, List.Subset.refl _⟩
    next =>
      obtain ⟨host, after⟩ := ih (if c = '[' then true else if c = ']' then false else inBrackets)
      exact ⟨List.cons_subset_cons c host, List.subset_cons_of_subset c after⟩

theorem readPortNumber_subset {number : Option Nat} {rest : Text}
    (read : readPortNumber s = .ok (number, rest)) : rest ⊆ s := by
  unfold readPortNumber at read
  dsimp only at read
  split at read
  next => nomatch read
  next =>
    split at read
    next =>
      obtain ⟨-, rfl⟩ := Prod.mk.inj (Except.ok.inj read)
      exact List.nil_subset s
    next c more found =>
      split at read
      next =>
        obtain ⟨-, rfl⟩ := Prod.mk.inj (Except.ok.inj read)
        rw [← found]
        exact List.dropWhile_subset _
      next => nomatch read

theorem bare_of_readHost {kind : Kind} {found : Option Host} (bare : Bare s)
    (read : readHost kind s = .ok found) : ∀ host ∈ found, Bare host.toText := by
  rintro host rfl
  unfold readHost at read
  split at read
  next =>
    split at read
    next => nomatch read
    next =>
      obtain ⟨domain, named, same⟩ := map_eq_ok_iff.1 read
      obtain rfl := Option.some.inj same
      exact Host.bare_of_ofDomain? named
  next =>
    split at read
    next => nomatch read
    next =>
      obtain ⟨name, named, same⟩ := map_eq_ok_iff.1 read
      obtain rfl := Option.some.inj same
      exact Host.bare_of_ofName? bare named

theorem bare_of_readHostAndNumber {kind : Kind} {scheme rest : Text} {host : Option Host}
    {number : Option Nat} (bare : Bare s)
    (read : readHostAndNumber kind scheme s = .ok (host, number, rest)) :
    (∀ known ∈ host, Bare known.toText) ∧ Bare rest := by
  obtain ⟨first, second⟩ := splitHost_subset kind false s
  unfold readHostAndNumber at read
  generalize splitHost kind false s = parts at first second read
  obtain ⟨hostText, after⟩ := parts
  dsimp only at read
  obtain ⟨found, hosted, numbers⟩ := bind_eq_ok_iff.1 read
  have known := bare_of_readHost (bare.mono first) hosted
  split at numbers
  next more =>
    split at numbers
    next => nomatch numbers
    next =>
      obtain ⟨⟨digits, behind⟩, numbered, same⟩ := bind_eq_ok_iff.1 numbers
      obtain ⟨rfl, -, rfl⟩ : found = host ∧ _ ∧ behind = rest := by simpa using same
      have left : Bare more := bare.mono (List.Subset.trans (List.subset_cons_self _ more) second)
      exact ⟨known, left.mono (readPortNumber_subset numbered)⟩
  next =>
    obtain ⟨rfl, -, rfl⟩ : found = host ∧ _ ∧ after = rest := by simpa using numbers
    exact ⟨known, bare.mono second⟩

theorem bare_of_readUserPart {kind : Kind} {user password rest : Text} (bare : Bare s)
    (read : readUserPart kind s = .ok (user, password, rest)) :
    Bare user ∧ Bare password ∧ Bare rest := by
  unfold readUserPart at read
  split at read
  next =>
    obtain ⟨rfl, rfl, rfl⟩ : [] = user ∧ [] = password ∧ s = rest := by simpa using read
    exact ⟨.nil, .nil, bare⟩
  next after split =>
    obtain ⟨-, second⟩ := splitUser?_subset split
    split at read
    next => nomatch read
    next =>
      obtain ⟨rfl, rfl, rfl⟩ : [] = user ∧ [] = password ∧ after = rest := by simpa using read
      exact ⟨.nil, .nil, bare.mono second⟩
  next before after _ split =>
    obtain ⟨first, second⟩ := splitUser?_subset split
    obtain ⟨rfl, rfl, rfl⟩ : _ = user ∧ _ = password ∧ after = rest := by simpa using read
    have name := (bare.mono first).mono (List.takeWhile_subset (· ≠ ':'))
    have secret := (bare.mono first).mono
      (List.Subset.trans (List.drop_subset 1 _) (List.dropWhile_subset (· ≠ ':')))
    exact ⟨bare_percentEncode name inUserInfo, bare_percentEncode secret inUserInfo,
      bare.mono second⟩

theorem bare_rootedPath (kind : Kind) (bare : Bare s) : Bare (rootedPath kind s) := by
  apply Path.IsBare.toText
  apply isBare_ofText
  cases s with
  | nil => exact .nil
  | cons c rest => exact (bare.mono (List.subset_cons_self c rest)).ite bare

theorem bare_of_readAuthority {kind : Kind} {scheme : Text} {url : Url} (bare : Bare s)
    (named : Bare scheme) (read : readAuthority kind scheme s = .ok url) : Bare url.toText := by
  obtain ⟨⟨user, password, after⟩, users, read⟩ := bind_eq_ok_iff.1 read
  obtain ⟨name, secret, left⟩ := bare_of_readUserPart bare users
  obtain ⟨⟨host, number, rest⟩, hosted, read⟩ := bind_eq_ok_iff.1 read
  obtain ⟨known, left⟩ := bare_of_readHostAndNumber left hosted
  dsimp only at read
  split at read
  next => nomatch read
  next =>
    obtain rfl := Except.ok.inj read
    refine bare_toText_finish left named ?_ ?_
    · rintro _ ⟨⟩
      exact bare_authority name secret known
    · exact .ite .nil (bare_rootedPath kind left)

theorem bare_toText_fileUrl (bare : Bare s) {host : Option Host}
    (known : ∀ known ∈ host, Bare known.toText) : Bare (fileUrl host s).toText := by
  have none : (s.dropWhile fun c => !endsPath c) = [] :=
    List.dropWhile_eq_nil_iff.2 fun c inside => by simp [bare c inside]
  have path := (isBare_ofText .file (bare.mono (List.takeWhile_subset fun c => !endsPath c))).toText
  have named : Bare "file".toList := by decide
  unfold fileUrl
  rw [none]
  refine bare_toText named ?_ path rfl rfl
  rintro _ ⟨⟩
  refine bare_authority .nil .nil fun name found => ?_
  split at found
  next => nomatch found
  next => exact known name found

theorem afterSlash?_subset {rest : Text} (found : afterSlash? s = some rest) : rest ⊆ s := by
  unfold afterSlash? at found
  split at found
  next c more left =>
    split at found
    next =>
      obtain rfl := Option.some.inj found
      have behind : c :: more ⊆ s := left ▸ List.dropWhile_subset _
      exact List.Subset.trans (List.subset_cons_self c more) behind
    next => nomatch found
  next => nomatch found

theorem bare_of_readFileHost {found : Option Host} (read : readFileHost s = .ok found) :
    ∀ host ∈ found, Bare host.toText := by
  rintro host rfl
  unfold readFileHost at read
  split at read
  next => nomatch read
  next =>
    obtain ⟨domain, named, kept⟩ := map_eq_ok_iff.1 read
    split at kept
    next => nomatch kept
    next =>
      obtain rfl := Option.some.inj kept
      exact Host.bare_of_ofDomain? named

theorem bare_of_readFileAuthority {url : Url} (bare : Bare s)
    (read : readFileAuthority s = .ok url) : Bare url.toText := by
  have rest := bare.mono (List.dropWhile_subset fun c => !endsAuthority .file c)
  unfold readFileAuthority at read
  dsimp only at read
  split at read
  next =>
    obtain rfl := Except.ok.inj read
    exact bare_toText_fileUrl bare (by simp)
  next =>
    obtain ⟨found, hosted, read⟩ := bind_eq_ok_iff.1 read
    have known := bare_of_readFileHost hosted
    split at read
    next host =>
      obtain rfl := Except.ok.inj read
      refine bare_toText_fileUrl ?_ known
      cases found : afterSlash? (s.dropWhile fun c => !endsAuthority .file c) with
      | none => exact rest
      | some after => exact rest.mono (afterSlash?_subset found)
    next =>
      obtain rfl := Except.ok.inj read
      exact bare_toText_fileUrl rest known

theorem bare_of_readFile {url : Url} (bare : Bare s) (read : readFile s = .ok url) :
    Bare url.toText := by
  unfold readFile at read
  split at read
  next =>
    obtain rfl := Except.ok.inj read
    exact bare_toText_fileUrl bare (by simp)
  next rest first =>
    have left := bare.mono (afterSlash?_subset first)
    split at read
    next =>
      obtain rfl := Except.ok.inj read
      exact bare_toText_fileUrl left (by simp)
    next after second =>
      exact bare_of_readFileAuthority (left.mono (afterSlash?_subset second)) read

theorem bare_of_readOther {scheme : Text} {url : Url} (bare : Bare s) (named : Bare scheme)
    (read : readOther scheme s = .ok url) : Bare url.toText := by
  unfold readOther at read
  split at read
  next rest =>
    have after : rest ⊆ '/' :: '/' :: rest :=
      List.subset_cons_of_subset _ (List.subset_cons_self _ rest)
    exact bare_of_readAuthority (bare.mono after) named read
  next =>
    obtain rfl := Except.ok.inj read
    exact bare_toText_finish bare named (by simp) (bare_rootedPath .other bare)
  next =>
    obtain rfl := Except.ok.inj read
    exact bare_toText_finish bare named (by simp) (bare_percentEncode bare inControls)

theorem trimmed_subset (s : Text) : trimmed s ⊆ s := by
  intro c inside
  unfold trimmed trimEnd at inside
  have left := List.dropWhile_subset _ (List.mem_reverse.1 inside)
  exact List.dropWhile_subset _ (List.mem_reverse.1 left)

theorem scheme?_subset {scheme rest : Text} (found : scheme? s = some (scheme, rest)) :
    ∃ name ⊆ s, scheme = foldCase name ∧ rest ⊆ s := by
  unfold scheme? at found
  split at found
  next c name more first second =>
    split at found
    next =>
      obtain ⟨rfl, rfl⟩ := Prod.mk.inj (Option.some.inj found)
      have behind : ':' :: more ⊆ s := second ▸ List.dropWhile_subset _
      exact ⟨_, first ▸ List.takeWhile_subset _, rfl,
        List.Subset.trans (List.subset_cons_self _ more) behind⟩
    next => nomatch found
  next => nomatch found

theorem bare_of_parse? {url : Url} (bare : Bare s) (read : parse? s = .ok url) :
    Bare url.toText := by
  have known : Bare (trimmed s) := bare.mono (trimmed_subset s)
  unfold parse? at read
  split at read
  next => nomatch read
  next scheme rest found =>
    obtain ⟨name, within, rfl, after⟩ := scheme?_subset found
    have whole := known.mono (unbroken_subset _)
    have named := (whole.mono within).foldCase
    have left := whole.mono after
    split at read
    next =>
      have behind := List.Subset.trans (List.drop_subset 1 _)
        (List.dropWhile_subset (l := trimmed s) (· ≠ ':'))
      exact bare_of_readFile (known.mono behind) read
    next => exact bare_of_readAuthority (left.mono (List.dropWhile_subset _)) named read
    next => exact bare_of_readOther left named read

end Prejoin.Url
