import Prejoin.Proofs.Bare
import Prejoin.Proofs.Forms
import Prejoin.Url.Basic

set_option autoImplicit false

namespace Prejoin.Url

variable {s : Text}

theorem bare_percentChar (c : Char) : Bare (percentChar c) := by
  intro d inside
  rcases mem_percentChar inside with rfl | plain
  · rfl
  · exact endsPath_eq_false (by decide) (by decide) plain

theorem bare_percentEncode (bare : Bare s) (encodes : Char → Bool) :
    Bare (percentEncode encodes s) :=
  .flatMap fun c inside => (bare_percentChar c).ite (.cons (bare c inside) .nil)

theorem bare_toDigits {base : Nat} (many : 1 < base) (few : base ≤ 16) (n : Nat) :
    Bare (Nat.toDigits base n) := by
  have digit : ∀ n < 16, endsPath n.digitChar = false := by decide
  induction n using Nat.strongRecOn with
  | ind n ih =>
    rw [Nat.toDigits_eq_if many]
    split
    next small => exact .cons (digit n (by omega)) .nil
    next large =>
      have less : n / base < n := Nat.div_lt_self (by omega) many
      have low : n % base < base := Nat.mod_lt n (by omega)
      exact (ih _ less).append (.cons (digit _ (by omega)) .nil)

theorem bare_decimal (n : Nat) : Bare (decimal n) :=
  bare_toDigits (by decide) (by decide) n

theorem unbroken_subset (s : Text) : unbroken s ⊆ s :=
  List.filter_subset_self s

structure Path.IsBare (path : Path) : Prop where
  directories : ∀ name ∈ path.directories, Bare name
  last : ∀ name ∈ path.last?, Bare name

theorem Path.IsBare.toText {path : Path} (bare : path.IsBare) : Bare path.toText := by
  have directories : Bare (path.directories.flatMap (· ++ ['/'])) :=
    .flatMap fun name member => (bare.directories name member).append (.cons rfl .nil)
  refine .append (.cons rfl directories) ?_
  cases found : path.last? with
  | none => exact .nil
  | some name => exact bare.last name found

theorem flatten_segments (kind : Kind) (s : Text) :
    (segments kind s).flatten = s.filter fun c => !kind.isSlash c := by
  have some (s : Text) : segments kind s ≠ [] := by
    cases s with
    | nil => simp [segments]
    | cons c rest => by_cases slash : kind.isSlash c <;> simp [segments, slash]
  induction s with
  | nil => rfl
  | cons c rest ih =>
    obtain ⟨first, more, parts⟩ := List.exists_cons_of_ne_nil (some rest)
    rw [parts, List.flatten_cons] at ih
    by_cases slash : kind.isSlash c <;> simp [segments, parts, ih, slash]

theorem bare_of_brokenAfterDrive? {segment drive rest : Text} (bare : Bare segment)
    (broken : brokenAfterDrive? segment = some (drive, rest)) : Bare drive ∧ Bare rest := by
  unfold brokenAfterDrive? at broken
  dsimp only at broken
  split at broken
  next c more after =>
    split at broken
    next =>
      obtain ⟨rfl, rfl⟩ := Prod.mk.inj (Option.some.inj broken)
      have start : Bare (segment.takeWhile (· ≠ ':')) := bare.mono (List.takeWhile_subset _)
      have behind : c :: more ⊆ segment := by
        rw [← after]
        exact List.Subset.trans (List.drop_subset _ _) (List.dropWhile_subset _)
      have tail : Bare more := bare.mono (List.Subset.trans (List.subset_cons_self c more) behind)
      exact ⟨(start.mono (unbroken_subset _)).append (.cons rfl .nil),
        tail.mono (unbroken_subset _)⟩
    next => nomatch broken
  next => nomatch broken

theorem isBare_ofFirst {segment : Text} (bare : Bare segment) : (Path.ofFirst segment).IsBare := by
  have name := bare_percentEncode (bare.mono (unbroken_subset segment)) inPath
  unfold Path.ofFirst
  dsimp only
  split
  next drive rest broken =>
    obtain ⟨first, second⟩ := bare_of_brokenAfterDrive? bare broken
    exact ⟨by simpa using first, by simpa using bare_percentEncode second inPath⟩
  next =>
    split
    next =>
      have drive := (name.mono (List.take_subset 1 _)).append (.cons rfl .nil : Bare [':'])
      exact ⟨by simp, by simpa using drive⟩
    next => exact ⟨by simp, by simpa using name⟩

theorem Path.IsBare.enter {path : Path} {segment : Text} (bare : path.IsBare) (kind : Kind)
    (added : Bare segment) : (path.enter kind segment).IsBare := by
  have name := bare_percentEncode (added.mono (unbroken_subset segment)) inPath
  have directories : ∀ name ∈ path.directories ++ path.last?.toList, Bare name := by
    intro name member
    rcases List.mem_append.1 member with old | last
    · exact bare.directories name old
    · exact bare.last name (by simpa using last)
  unfold Path.enter
  dsimp only
  split
  next =>
    refine ⟨fun name member => directories name ?_, by simp⟩
    unfold leave at member
    split at member
    next => exact member
    next => exact List.dropLast_subset _ member
  next =>
    split
    next => exact ⟨directories, by simp⟩
    next =>
      split
      next => exact isBare_ofFirst added
      next => exact ⟨directories, by simpa using name⟩

theorem isBare_ofText (kind : Kind) (bare : Bare s) : (Path.ofText kind s).IsBare := by
  have entered {path : Path} (known : path.IsBare) {parts : List Text}
      (each : ∀ part ∈ parts, Bare part) : (parts.foldl (Path.enter kind) path).IsBare := by
    induction parts generalizing path with
    | nil => exact known
    | cons part rest ih =>
      obtain ⟨own, others⟩ := List.forall_mem_cons.1 each
      exact ih (known.enter kind own) others
  have root : Path.root.IsBare := ⟨by simp [Path.root], by simp [Path.root]⟩
  have whole := entered root fun part => bare.of_mem_parts (flatten_segments kind s)
  unfold Path.ofText
  dsimp only
  split
  next =>
    exact ⟨fun name member => whole.directories name (List.dropWhile_subset _ member), whole.last⟩
  next => exact whole

theorem bare_joinGroups (groups : List Nat) : Bare (joinGroups groups) := by
  refine .intercalate (by decide) fun part member => ?_
  obtain ⟨group, -, rfl⟩ := List.mem_map.1 member
  exact bare_toDigits (by decide) (by decide) group

theorem bare_ipv4Text (address : Nat) : Bare (ipv4Text address) := by
  have next (n : Nat) : Bare ('.' :: decimal n) := .cons rfl (bare_decimal n)
  exact (((bare_decimal _).append (next _)).append (next _)).append (next _)

theorem bare_ipv6Text (groups : List Nat) : Bare (ipv6Text groups) := by
  unfold ipv6Text
  dsimp only
  split
  next => exact bare_joinGroups groups
  next => exact ((bare_joinGroups _).append (by decide)).append (bare_joinGroups _)

theorem Host.bare_toText {host : Host} (named : ∀ text, host = .name text → Bare text) :
    Bare host.toText := by
  cases host with
  | name text => exact named text rfl
  | ipv4 address => exact bare_ipv4Text address
  | ipv6 groups => exact .append (.cons rfl (bare_ipv6Text groups)) (by decide)

theorem Host.ne_name_of_ofBracketed? {inside : Option Text} {host : Host}
    (read : Host.ofBracketed? inside = .ok host) (text : Text) : host ≠ .name text := by
  unfold Host.ofBracketed? at read
  split at read
  next =>
    obtain rfl := Except.ok.inj read
    exact Host.noConfusion
  next => nomatch read

theorem Host.bare_of_ofDomain? {host : Host} (read : Host.ofDomain? s = .ok host) :
    Bare host.toText := by
  apply Host.bare_toText
  rintro text rfl
  unfold Host.ofDomain? at read
  split at read
  next => exact absurd rfl (Host.ne_name_of_ofBracketed? read text)
  next =>
    split at read
    next => nomatch read
    next =>
      split at read
      next => nomatch read
      next domain found =>
        split at read
        next => nomatch read
        next =>
          split at read
          next => split at read <;> simp at read
          next =>
            obtain rfl : domain = text := by simpa using read
            exact Domain.bare_of_toAscii? found

theorem Host.bare_of_ofName? {host : Host} (bare : Bare s) (read : Host.ofName? s = .ok host) :
    Bare host.toText := by
  apply Host.bare_toText
  rintro text rfl
  unfold Host.ofName? at read
  split at read
  next => exact absurd rfl (Host.ne_name_of_ofBracketed? read text)
  next =>
    split at read
    next => nomatch read
    next =>
      obtain rfl : percentEncode inControls s = text := by simpa using read
      exact bare_percentEncode bare inControls

theorem bare_authority {authority : Authority} (user : Bare authority.user)
    (password : Bare authority.password) (host : ∀ host ∈ authority.host, Bare host.toText) :
    Bare authority.toText := by
  have colon {rest : Text} (bare : Bare rest) : Bare (':' :: rest) := .cons rfl bare
  have named : Bare (authority.user ++
      if authority.password = [] then [] else ':' :: authority.password) :=
    user.append (.ite .nil (colon password))
  refine .append (.append (.ite .nil (named.append (by decide))) ?_) ?_
  · cases found : authority.host with
    | none => exact .nil
    | some name => exact host name found
  · cases authority.portNumber with
    | none => exact .nil
    | some n => exact colon (bare_decimal n)

theorem bare_toText {url : Url} (scheme : Bare url.scheme)
    (authority : ∀ known ∈ url.authority, Bare known.toText) (path : Bare url.path)
    (query : url.query = none) (fragment : url.fragment = none) : Bare url.toText := by
  have before : Bare url.beforePath := by
    unfold beforePath
    split
    next known found => exact .append (by decide) (authority known found)
    next => split <;> decide
  have rest : Bare (optional '?' url.query ++ optional '#' url.fragment) := by
    rw [query, fragment]
    exact .nil
  have colon : Bare [':'] := by decide
  have whole := (scheme.append (colon.append before)).append (path.append rest)
  simpa [Url.toText] using whole

end Prejoin.Url
