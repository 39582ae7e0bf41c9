import Mathlib.Data.List.Forall2
import Mathlib.Tactic.Common
import Prejoin.Filter.Predicate

set_option autoImplicit false

namespace Prejoin

def Operator.WrittenAs : Operator → Lexeme → Prop
  | .equal, lexeme => lexeme = .comparison .equal
  | .unequal, lexeme => lexeme = .comparison .unequal
  | .like, lexeme => ∃ word, lexeme = .name word ∧ sameName word "like".toList

theorem Operator.ofLexeme?_eq_some_iff {lexeme : Lexeme} {operator : Operator} :
    Operator.ofLexeme? lexeme = some operator ↔ operator.WrittenAs lexeme := by
  cases lexeme with
  | name word =>
    rw [Operator.ofLexeme?, Option.ite_none_right_eq_some]
    cases operator <;> simp [Operator.WrittenAs, Operator.symbol]
  | comparison sign =>
    cases sign <;> cases operator <;> simp [Operator.ofLexeme?, Operator.WrittenAs]
  | _ => cases operator <;> simp [Operator.ofLexeme?, Operator.WrittenAs]

def isAfterDot (tokens : List Token) : Nat → Bool
  | 0 => false
  | i + 1 => tokens[i]?.any fun token => token.lexeme = .dot

structure Predicate.StandsAt (p : Predicate) (tokens : List Token) (i : Nat) : Prop where
  relation : ∃ first, tokens[i]? = some ⟨.name p.relation, ⟨p.span.start, first⟩⟩
  dot : ∃ second, tokens[i + 1]? = some ⟨.dot, second⟩
  field : ∃ third, tokens[i + 2]? = some ⟨.name p.field, third⟩
  operator : ∃ sign, tokens[i + 3]? = some sign ∧ p.operator.WrittenAs sign.lexeme
  value : ∃ last, tokens[i + 4]? = some ⟨.literal p.value p.quote, ⟨last, p.span.stop⟩⟩
  free : isAfterDot tokens i = false

theorem drop_eq_cons {α : Type} {row : List α} {i : Nat} {a : α} (found : row[i]? = some a) :
    row.drop i = a :: row.drop (i + 1) := by
  obtain ⟨inside, rfl⟩ := List.getElem?_eq_some_iff.1 found
  exact List.drop_eq_getElem_cons inside

theorem Predicate.ofTokens?_eq_some_iff {tokens : List Token} {p : Predicate} :
    Predicate.ofTokens? tokens = some p ↔ ∃ first second third sign last rest,
      tokens = ⟨.name p.relation, ⟨p.span.start, first⟩⟩ :: ⟨.dot, second⟩ ::
          ⟨.name p.field, third⟩ :: sign ::
          ⟨.literal p.value p.quote, ⟨last, p.span.stop⟩⟩ :: rest ∧
        p.operator.WrittenAs sign.lexeme := by
  constructor
  · intro found
    unfold Predicate.ofTokens? at found
    split at found
    next =>
      obtain ⟨operator, signs, rfl⟩ := Option.map_eq_some_iff.1 found
      exact ⟨_, _, _, _, _, _, rfl, Operator.ofLexeme?_eq_some_iff.1 signs⟩
    next => cases found
  · rintro ⟨first, second, third, ⟨sign, place⟩, last, rest, rfl, written⟩
    simp [Predicate.ofTokens?, Operator.ofLexeme?_eq_some_iff.2 written]

namespace Predicate.StandsAt

variable {p q : Predicate} {tokens : List Token} {i j : Nat}

theorem iff_ofTokens? :
    p.StandsAt tokens i ↔
      Predicate.ofTokens? (tokens.drop i) = some p ∧ isAfterDot tokens i = false := by
  rw [Predicate.ofTokens?_eq_some_iff]
  constructor
  · rintro ⟨⟨first, relation⟩, ⟨second, dot⟩, ⟨third, field⟩, ⟨sign, comparison, written⟩,
      ⟨last, value⟩, free⟩
    refine ⟨⟨first, second, third, sign, last, tokens.drop (i + 5), ?_, written⟩, free⟩
    rw [drop_eq_cons relation, drop_eq_cons dot, drop_eq_cons field, drop_eq_cons comparison,
      drop_eq_cons value]
  · rintro ⟨⟨first, second, third, sign, last, rest, window, written⟩, free⟩
    have inWindow (k : Nat) : tokens[i + k]? = (tokens.drop i)[k]? := List.getElem?_drop.symm
    exact ⟨⟨first, by simpa [window] using inWindow 0⟩, ⟨second, by simp [inWindow, window]⟩,
      ⟨third, by simp [inWindow, window]⟩, ⟨sign, by simp [inWindow, window], written⟩,
      ⟨last, by simp [inWindow, window]⟩, free⟩

theorem unique (stands : p.StandsAt tokens i) (again : q.StandsAt tokens i) : p = q :=
  Option.some.inj ((iff_ofTokens?.1 stands).1.symm.trans (iff_ofTokens?.1 again).1)

theorem apart (left : p.StandsAt tokens i) (right : q.StandsAt tokens j) (less : i < j) :
    i + 5 ≤ j := by
  -- At each place in between stands a token that starts no predicate, or a dot before it.
  obtain ⟨first, relation⟩ := right.relation
  have free := right.free
  by_contra near
  obtain rfl | rfl | rfl | rfl : j = i + 1 ∨ j = i + 2 ∨ j = i + 3 ∨ j = i + 4 := by omega
  · obtain ⟨second, dot⟩ := left.dot
    simp [dot] at relation
  · obtain ⟨second, dot⟩ := left.dot
    simp [isAfterDot, dot] at free
  · obtain ⟨second, dot⟩ := right.dot
    obtain ⟨last, value⟩ := left.value
    simp [value] at dot
  · obtain ⟨last, value⟩ := left.value
    simp [value] at relation

end Predicate.StandsAt

structure Standing (tokens : List Token) (i : Nat) (found : List (Nat × Predicate)) : Prop where
  ordered : found.Pairwise fun a b => a.1 < b.1
  mem_iff : ∀ j p, (j, p) ∈ found ↔ i ≤ j ∧ p.StandsAt tokens j

namespace Standing

variable {tokens : List Token} {i : Nat} {found : List (Nat × Predicate)}

theorem nil (short : tokens.length ≤ i) : Standing tokens i [] where
  ordered := .nil
  mem_iff j p := by
    simp only [List.not_mem_nil, false_iff]
    rintro ⟨beyond, stands⟩
    obtain ⟨first, relation⟩ := stands.relation
    have inside := (List.getElem?_eq_some_iff.1 relation).1
    omega

theorem skip (free : ∀ p : Predicate, ¬ p.StandsAt tokens i)
    (later : Standing tokens (i + 1) found) : Standing tokens i found where
  ordered := later.ordered
  mem_iff j p := by
    rw [later.mem_iff]
    constructor
    · rintro ⟨beyond, stands⟩
      exact ⟨Nat.le_of_succ_le beyond, stands⟩
    · rintro ⟨beyond, stands⟩
      have other : i ≠ j := fun same => free p (same ▸ stands)
      exact ⟨Nat.lt_of_le_of_ne beyond other, stands⟩

theorem cons {p : Predicate} (stands : p.StandsAt tokens i)
    (later : Standing tokens (i + 5) found) : Standing tokens i ((i, p) :: found) where
  ordered := by
    refine List.pairwise_cons.2 ⟨fun next inside => ?_, later.ordered⟩
    have beyond := ((later.mem_iff next.1 next.2).1 inside).1
    omega
  mem_iff j q := by
    rw [List.mem_cons, later.mem_iff, Prod.mk.injEq]
    constructor
    · rintro (⟨rfl, rfl⟩ | ⟨beyond, found⟩)
      · exact ⟨Nat.le_refl _, stands⟩
      · exact ⟨Nat.le_trans (Nat.le_add_right i 5) beyond, found⟩
    · rintro ⟨beyond, found⟩
      rcases Nat.eq_or_lt_of_le beyond with rfl | less
      · exact .inl ⟨rfl, found.unique stands⟩
      · exact .inr ⟨stands.apart found less, found⟩

end Standing

theorem exists_standing (tokens : List Token) (i : Nat) :
    ∃ found, Standing tokens i found ∧
      found.map Prod.snd = detectAfter (isAfterDot tokens i) (tokens.drop i) := by
  generalize flag : isAfterDot tokens i = afterDot
  generalize rest : tokens.drop i = window
  fun_induction detectAfter afterDot window generalizing i with
  | case1 => exact ⟨[], .nil (List.drop_eq_nil_iff.1 rest), rfl⟩
  | case2 afterDot token more p first ih =>
    cases afterDot with
    | true => simp at first
    | false =>
      have stands : p.StandsAt tokens i :=
        Predicate.StandsAt.iff_ofTokens?.2 ⟨by simpa [rest] using first, flag⟩
      obtain ⟨last, value⟩ := stands.value
      have afterLiteral : isAfterDot tokens (i + 5) = false := by simp [isAfterDot, value]
      have behind : tokens.drop (i + 5) = more.drop 4 := by
        rw [← List.drop_drop, rest]
        rfl
      obtain ⟨found, standing, same⟩ := ih (i + 5) afterLiteral behind
      exact ⟨(i, p) :: found, standing.cons stands, congrArg (p :: ·) same⟩
  | case3 afterDot token more missing ih =>
    have free (p : Predicate) : ¬ p.StandsAt tokens i := by
      intro stands
      obtain ⟨first, undotted⟩ := Predicate.StandsAt.iff_ofTokens?.1 stands
      rw [flag] at undotted
      simp [undotted, ← rest, first] at missing
    have head : tokens[i]? = some token := by
      rw [← List.head?_drop, rest]
      rfl
    have afterToken : isAfterDot tokens (i + 1) = decide (token.lexeme = .dot) := by
      simp [isAfterDot, head]
    have behind : tokens.drop (i + 1) = more := by
      rw [← List.drop_drop, rest]
      rfl
    obtain ⟨found, standing, same⟩ := ih (i + 1) afterToken behind
    exact ⟨found, standing.skip free, same⟩

theorem exists_standsAt {tokens : List Token} {p : Predicate} (member : p ∈ detect tokens) :
    ∃ i, p.StandsAt tokens i := by
  obtain ⟨found, standing, same⟩ := exists_standing tokens 0
  have member : p ∈ found.map Prod.snd := same ▸ member
  obtain ⟨⟨i, _⟩, inside, rfl⟩ := List.mem_map.1 member
  exact ⟨i, ((standing.mem_iff i _).1 inside).2⟩

/-- Detection finds the predicates of all positions where one stands, in the order of the
positions. -/
theorem detect_every_position (tokens : List Token) :
    (∃ found : List (Nat × Predicate), found.map Prod.snd = detect tokens ∧
      found.Pairwise (fun a b => a.1 < b.1) ∧
      ∀ i p, (i, p) ∈ found ↔ p.StandsAt tokens i) ∧
    (∀ i (p q : Predicate), p.StandsAt tokens i → q.StandsAt tokens i → p = q) ∧
    ∀ i j (p q : Predicate), p.StandsAt tokens i → q.StandsAt tokens j → i < j → i + 5 ≤ j := by
  refine ⟨?_, fun i p q => Predicate.StandsAt.unique, fun i j p q => Predicate.StandsAt.apart⟩
  obtain ⟨found, standing, same⟩ := exists_standing tokens 0
  exact ⟨found, same, standing.ordered, fun i p => by simp [standing.mem_iff]⟩

end Prejoin
