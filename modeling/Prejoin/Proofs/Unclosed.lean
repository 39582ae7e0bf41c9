import Prejoin.Proofs.Parts
import Prejoin.Proofs.Surroundings

set_option autoImplicit false

namespace Prejoin

/-- Where backslashes escape, each takes the next character with it; among those left is no mark. -/
inductive Unclosed (reading : Reading) (quote : Quote) : Text → Prop
  | nil : Unclosed reading quote []
  | dangling (escapes : reading = .escaped) : Unclosed reading quote ['\\']
  | escape {c : Char} {rest : Text} (escapes : reading = .escaped)
      (later : Unclosed reading quote rest) : Unclosed reading quote ('\\' :: c :: rest)
  | plain {c : Char} {rest : Text} (unmarked : c ≠ quote.mark)
      (unescaped : ¬ (reading = .escaped ∧ c = '\\')) (later : Unclosed reading quote rest) :
      Unclosed reading quote (c :: rest)

theorem Quote.mark_ne_backslash (quote : Quote) : '\\' ≠ quote.mark := by
  cases quote <;> decide

theorem splitLiteral_eq_none_iff {reading : Reading} {quote : Quote} {s : Text} :
    splitLiteral reading quote.mark s = none ↔ Unclosed reading quote s := by
  constructor
  · intro none
    fun_induction splitLiteral reading quote.mark s with
    | case1 => exact .nil
    | case2 => cases none
    | case3 c unmarked =>
      by_cases escape : reading = .escaped ∧ c = '\\'
      next =>
        obtain ⟨escapes, rfl⟩ := escape
        exact .dangling escapes
      next => exact .plain unmarked escape .nil
    | case4 => cases none
    | case5 c d rest unmarked escape ih =>
      obtain ⟨escapes, rfl⟩ := escape
      exact .escape escapes (ih (Option.map_eq_none_iff.1 none))
    | case6 c d rest unmarked escape ih =>
      exact .plain unmarked escape (ih (Option.map_eq_none_iff.1 none))
  · intro unclosed
    have backslash := quote.mark_ne_backslash
    induction unclosed with
    | nil => rfl
    | dangling escapes => simp [splitLiteral, backslash]
    | escape escapes later ih =>
      rw [splitLiteral, if_neg backslash, if_pos ⟨escapes, rfl⟩, ih]
      rfl
    | @plain c rest unmarked unescaped later ih =>
      cases rest with
      | nil => simp [splitLiteral, unmarked]
      | cons d more =>
        rw [splitLiteral, if_neg unmarked, if_neg unescaped, ih]
        rfl

theorem readPiece_eq_none_iff {reading : Reading} {c : Char} {rest : Text} :
    readPiece reading c rest = none ↔
      ∃ quote : Quote, c = quote.mark ∧ Unclosed reading quote rest := by
  constructor
  · intro none
    cases quoted : Quote.ofMark? c with
    | some quote =>
      obtain rfl := Quote.ofMark?_eq_some_iff.1 quoted
      rw [readPiece_quote, Option.map_eq_none_iff] at none
      exact ⟨quote, rfl, splitLiteral_eq_none_iff.1 none⟩
    | none =>
      unfold readPiece at none
      rw [quoted] at none
      dsimp only at none
      split at none
      next => cases none
      next =>
        split at none
        next => cases none
        next => split at none <;> cases none
  · rintro ⟨quote, rfl, unclosed⟩
    rw [readPiece_quote, splitLiteral_eq_none_iff.2 unclosed]
    rfl

theorem scan_stuck {reading : Reading} {c : Char} {rest : Text}
    (stuck : readPiece reading c rest = none) : scan reading (c :: rest) = ([], c :: rest) := by
  rw [scan]
  split
  next => rfl
  next piece after read => simp [stuck] at read

theorem readPiece_of_scan {reading : Reading} {s rest : Text} {c : Char} {pieces : List Piece}
    (found : scan reading s = (pieces, c :: rest)) : readPiece reading c rest = none := by
  fun_induction scan reading s generalizing pieces with
  | case1 => cases found
  | case2 d more stuck =>
    obtain ⟨-, same⟩ := Prod.mk.inj found
    obtain ⟨rfl, rfl⟩ := List.cons.inj same
    exact stuck
  | case3 d more piece after read _ later remainder scanned ih =>
    obtain ⟨-, same⟩ := Prod.mk.inj found
    exact ih (scanned.trans (congrArg (Prod.mk later) same))

def UnclosedAt (reading : Reading) (filter : Text) (offset : Nat) : Prop :=
  ∃ before quote rest, filter = before ++ quote.mark :: rest ∧ byteLength before = offset ∧
    (∃ tokens, tokenizeAs reading before = .ok tokens) ∧ Unclosed reading quote rest

theorem tokenizeAs_eq_error_iff {reading : Reading} {filter : Text} {offset : Nat} :
    tokenizeAs reading filter = .error (.unterminated offset) ↔
      UnclosedAt reading filter offset := by
  constructor
  · intro failed
    unfold tokenizeAs at failed
    split at failed
    next => cases failed
    next pieces c rest found =>
      obtain rfl := ScanError.unterminated.inj (Except.error.inj failed)
      obtain ⟨quote, rfl, unclosed⟩ := readPiece_eq_none_iff.1 (readPiece_of_scan found)
      have source := scan_source reading filter
      have scanned := scanned_scan reading filter
      rw [found] at source scanned
      have before : Scanned reading pieces [] := Scanned.of_append (s := []) scanned
      exact ⟨joined pieces, quote, rest, source.symm, rfl,
        ⟨_, tokenizeAs_eq_ok_iff.2 ⟨pieces, rfl, before, rfl⟩⟩, unclosed⟩
  · rintro ⟨before, quote, rest, rfl, rfl, ⟨tokens, read⟩, unclosed⟩
    obtain ⟨pieces, rfl, scanned, -⟩ := tokenizeAs_eq_ok_iff.1 read
    have stuck := readPiece_eq_none_iff.2 ⟨quote, rfl, unclosed⟩
    have found := scan_joined (scanned.before_mark quote rest)
    rw [scan_stuck stuck, List.append_nil] at found
    simp [tokenizeAs, found]

theorem tokenizeAs_error_iff_unique {reading : Reading} {filter : Text} {offset : Nat} :
    tokenizeAs reading filter = .error (.unterminated offset) ↔
      ∀ other, UnclosedAt reading filter other ↔ other = offset := by
  simp only [← tokenizeAs_eq_error_iff]
  constructor
  · intro failed other
    rw [failed, Except.error.injEq, ScanError.unterminated.injEq, eq_comm]
  · exact fun only => (only offset).2 rfl

theorem tokenize_eq_error_iff {filter : Text} {error : ScanError} :
    tokenize filter = .error error ↔
      (∃ other, tokenizeAs .plain filter = .error other) ∧
        tokenizeAs .escaped filter = .error error := by
  unfold tokenize
  cases tokenizeAs .escaped filter with
  | ok tokens => simp
  | error first => cases tokenizeAs .plain filter <;> simp

/-- A filter is refused just if both readings fail, and what is told then is where the first of them
fails. -/
theorem tokenize_fails_iff (filter : Text) :
    ((∃ error, tokenize filter = .error error) ↔
        ∀ reading, ∃ error, tokenizeAs reading filter = .error error) ∧
      ∀ offset,
        (tokenize filter = .error (.unterminated offset) ↔
          (∃ error, tokenizeAs .plain filter = .error error) ∧
            tokenizeAs .escaped filter = .error (.unterminated offset)) ∧
        (tokenizeAs .escaped filter = .error (.unterminated offset) ↔
          ∀ other, UnclosedAt .escaped filter other ↔ other = offset) := by
  refine ⟨⟨?_, ?_⟩, fun offset => ⟨tokenize_eq_error_iff, tokenizeAs_error_iff_unique⟩⟩
  · intro failed reading
    obtain ⟨error, failed⟩ := failed
    obtain ⟨plain, escaped⟩ := tokenize_eq_error_iff.1 failed
    cases reading with
    | escaped => exact ⟨error, escaped⟩
    | plain => exact plain
  · intro fail
    obtain ⟨error, escaped⟩ := fail .escaped
    exact ⟨error, tokenize_eq_error_iff.2 ⟨fail .plain, escaped⟩⟩

end Prejoin
