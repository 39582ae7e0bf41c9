import Prejoin.Proofs.Clauses
import Prejoin.Proofs.Lookups

set_option autoImplicit false

namespace Prejoin

def Part.resolved (find : Predicate → Option Resolution) : Part → List Piece
  | .loose piece => [piece]
  | .clause p pieces =>
    match find p with
    | none => pieces
    | some resolution => clausePieces resolution.field resolution.keys

def resolvedPieces (find : Predicate → Option Resolution) (parts : List Part) : List Piece :=
  parts.flatMap (Part.resolved find)

section

variable {find : Predicate → Option Resolution}

@[simp] theorem resolvedPieces_nil : resolvedPieces find [] = [] := rfl

@[simp] theorem resolvedPieces_loose (piece : Piece) (rest : List Part) :
    resolvedPieces find (.loose piece :: rest) = piece :: resolvedPieces find rest := rfl

theorem resolvedPieces_kept {p : Predicate} (kept : find p = none) (pieces : List Piece)
    (rest : List Part) :
    resolvedPieces find (.clause p pieces :: rest) = pieces ++ resolvedPieces find rest := by
  simp [resolvedPieces, Part.resolved, kept]

theorem resolvedPieces_replaced {p : Predicate} {resolution : Resolution}
    (replaced : find p = some resolution) (pieces : List Piece) (rest : List Part) :
    resolvedPieces find (.clause p pieces :: rest) =
      clausePieces resolution.field resolution.keys ++ resolvedPieces find rest := by
  simp [resolvedPieces, Part.resolved, replaced]

theorem resolvedPieces_none (parts : List Part) :
    resolvedPieces (fun _ => none) parts = piecesOf parts :=
  List.flatMap_congr fun part _ => by cases part <;> rfl

theorem substitutionsBy_kept {p : Predicate} (kept : find p = none) (predicates : List Predicate) :
    substitutionsBy find (p :: predicates) = substitutionsBy find predicates := by
  simp [substitutionsBy, kept]

theorem substitutionsBy_replaced {p : Predicate} {resolution : Resolution}
    (replaced : find p = some resolution) (predicates : List Predicate) :
    substitutionsBy find (p :: predicates) =
      ⟨p.span, resolution.text⟩ :: substitutionsBy find predicates := by
  simp [substitutionsBy, replaced]

end

theorem exists_clause_of_mem {p : Predicate} {parts : List Part} (member : p ∈ predicatesOf parts) :
    ∃ pieces, Part.clause p pieces ∈ parts := by
  obtain ⟨part, inside, found⟩ := List.mem_filterMap.1 member
  cases part with
  | loose piece => simp [Part.predicate?] at found
  | clause q pieces =>
    obtain rfl : q = p := by simpa [Part.predicate?] using found
    exact ⟨pieces, inside⟩

namespace Predicate.SpelledBy

variable {p : Predicate} {offset : Nat} {pieces : List Piece}

theorem span_eq (spelled : p.SpelledBy offset pieces) :
    p.span = ⟨offset, offset + byteLength (joined pieces)⟩ := by
  obtain @⟨first, last, middle, sign, -, -, -, -, span⟩ := spelled
  exact span

theorem first_name (spelled : p.SpelledBy offset pieces) :
    ∃ first rest, pieces = first :: rest ∧ first.lexeme = some (.name p.relation) := by
  obtain @⟨first, last, middle, sign, relation, -, -, -, -⟩ := spelled
  exact ⟨first, _, rfl, relation⟩

theorem sameClause {q : Predicate} {other : Nat} (spelled : p.SpelledBy offset pieces)
    (again : q.SpelledBy other pieces) : p.sameClause q := by
  obtain ⟨sign, tokens, operator⟩ := spelled.lexemes_eq
  obtain ⟨sign', tokens', operator'⟩ := again.lexemes_eq
  rw [tokens] at tokens'
  simp only [List.cons.injEq, Lexeme.name.injEq, Lexeme.literal.injEq] at tokens'
  obtain ⟨relation, -, field, rfl, ⟨value, -⟩, -⟩ := tokens'
  have same : p.operator = q.operator := Option.some.inj (operator.symm.trans operator')
  simp [Predicate.sameClause, sameName, relation, field, value, same]

end Predicate.SpelledBy

namespace Arranged

variable {afterDot : Bool} {offset : Nat} {parts : List Part}

theorem spelled (arranged : Arranged afterDot offset parts) {p : Predicate} {pieces : List Piece}
    (member : Part.clause p pieces ∈ parts) :
    ∃ before after, parts = before ++ .clause p pieces :: after ∧
      p.SpelledBy (offset + byteLength (joined (piecesOf before))) pieces := by
  induction arranged with
  | nil => simp at member
  | blank blank tail ih | token found alone tail ih =>
    obtain ⟨before, after, rfl, spelled⟩ := ih (by simpa using member)
    exact ⟨.loose _ :: before, after, rfl, by simpa [Nat.add_assoc] using spelled⟩
  | clause spelled tail ih =>
    rcases List.mem_cons.1 member with same | member
    · obtain ⟨rfl, rfl⟩ := Part.clause.inj same
      exact ⟨[], _, rfl, by simpa using spelled⟩
    · obtain ⟨before, after, rfl, spelled⟩ := ih member
      exact ⟨.clause _ _ :: before, after, rfl, by simpa [Nat.add_assoc] using spelled⟩

theorem le_start (arranged : Arranged afterDot offset parts) {p : Predicate}
    (member : p ∈ predicatesOf parts) : offset ≤ p.span.start := by
  obtain ⟨pieces, inside⟩ := exists_clause_of_mem member
  obtain ⟨before, after, -, spelled⟩ := arranged.spelled inside
  simp [spelled.span_eq]

theorem apart (arranged : Arranged afterDot offset parts) :
    (predicatesOf parts).Pairwise fun p q => p.span.stop ≤ q.span.start := by
  induction arranged with
  | nil => exact .nil
  | blank blank tail ih => exact ih
  | token found alone tail ih => exact ih
  | clause spelled tail ih =>
    rw [predicatesOf_clause]
    refine List.pairwise_cons.2 ⟨fun q member => ?_, ih⟩
    rw [spelled.span_eq]
    exact tail.le_start member

theorem spliceFrom_eq (arranged : Arranged afterDot offset parts)
    (find : Predicate → Option Resolution) (start : Nat) (kept : Text)
    (place : start + byteLength kept = offset) :
    spliceFrom start (kept ++ joined (piecesOf parts)) (substitutionsBy find (predicatesOf parts)) =
      kept ++ joined (resolvedPieces find parts) := by
  -- What was gone through since the last resolved predicate is `kept`.
  induction arranged generalizing start kept with
  | nil => rfl
  | blank blank tail ih | token found alone tail ih =>
    have rest := ih start (kept ++ _) (by rw [byteLength_append, ← Nat.add_assoc, place])
    simpa using rest
  | @clause offset p pieces rest spelled tail ih =>
    cases found : find p with
    | none =>
      have rest := ih start (kept ++ joined pieces)
        (by rw [byteLength_append, ← Nat.add_assoc, place])
      simpa [substitutionsBy_kept found, resolvedPieces_kept found] using rest
    | some resolution =>
      have rest := ih (offset + byteLength (joined pieces)) [] (by simp)
      have before : offset - start = byteLength kept := by omega
      have beyond : offset + byteLength (joined pieces) - start =
          byteLength (kept ++ joined pieces) := by
        rw [byteLength_append]
        omega
      rw [predicatesOf_clause, substitutionsBy_replaced found, resolvedPieces_replaced found,
        piecesOf_clause, joined_append, joined_append, joined_clausePieces, spliceFrom,
        spelled.span_eq, before, beyond, takeBytes_byteLength_append, ← List.append_assoc kept,
        dropBytes_byteLength_append]
      simp only [List.nil_append] at rest
      rw [rest, Resolution.text, List.append_assoc]

end Arranged

namespace IsLayout

variable {reading : Reading} {filter : Text} {parts : List Part}

theorem exists_around (layout : IsLayout reading filter parts) {p : Predicate}
    {pieces : List Piece} (inside : Part.clause p pieces ∈ parts) :
    ∃ before after, filter = before ++ joined pieces ++ after ∧
      p.SpelledBy (byteLength before) pieces ∧ Scanned reading pieces [] := by
  obtain ⟨before, after, rfl, spelled⟩ := layout.arranged.spelled inside
  have scanned := layout.scanned
  rw [piecesOf_append, piecesOf_clause, scanned_append] at scanned
  refine ⟨joined (piecesOf before), joined (piecesOf after), ?_, ?_, ?_⟩
  · rw [← layout.source]
    simp
  · simpa using spelled
  · exact scanned.2.left

theorem exists_pieces (layout : IsLayout reading filter parts) {p : Predicate}
    (member : p ∈ predicatesOf parts) :
    ∃ before pieces after, filter = before ++ joined pieces ++ after ∧
      p.SpelledBy (byteLength before) pieces ∧ Scanned reading pieces [] := by
  obtain ⟨pieces, inside⟩ := exists_clause_of_mem member
  obtain ⟨before, after, stands⟩ := layout.exists_around inside
  exact ⟨before, pieces, after, stands⟩

theorem fits (layout : IsLayout reading filter parts) {p : Predicate}
    (member : p ∈ predicatesOf parts) : p.span.fits filter := by
  obtain ⟨before, pieces, after, source, spelled, -⟩ := layout.exists_pieces member
  have stands : p.span.fits ([] ++ filter) ↔ _ := fits_append (by simp)
  exact stands.2 ⟨before, joined pieces, after, source, by simp [spelled.span_eq]⟩

theorem slice_clause (layout : IsLayout reading filter parts) {p : Predicate}
    {pieces : List Piece} (inside : Part.clause p pieces ∈ parts) :
    p.span.slice filter = some (joined pieces) := by
  obtain ⟨before, after, source, spelled, -⟩ := layout.exists_around inside
  have member : p ∈ predicatesOf parts := List.mem_filterMap.2 ⟨_, inside, rfl⟩
  rw [Span.slice, if_pos (layout.fits member), spelled.span_eq, source, List.append_assoc,
    dropBytes_byteLength_append, Nat.add_sub_cancel_left, takeBytes_byteLength_append]

theorem slice (layout : IsLayout reading filter parts) {p : Predicate}
    (member : p ∈ predicatesOf parts) :
    ∃ offset pieces, p.span.slice filter = some (joined pieces) ∧ p.SpelledBy offset pieces ∧
      Scanned reading pieces [] := by
  obtain ⟨pieces, inside⟩ := exists_clause_of_mem member
  obtain ⟨before, -, -, spelled, scanned⟩ := layout.exists_around inside
  exact ⟨byteLength before, pieces, layout.slice_clause inside, spelled, scanned⟩

theorem start_lt_stop (layout : IsLayout reading filter parts) {p : Predicate}
    (member : p ∈ predicatesOf parts) : p.span.start < p.span.stop := by
  obtain ⟨before, pieces, after, -, spelled, scanned⟩ := layout.exists_pieces member
  obtain ⟨first, rest, rfl, -⟩ := spelled.first_name
  have positive := scanned.1.byteLength_pos
  simp only [spelled.span_eq, joined_cons, byteLength_append]
  omega

theorem nodup (layout : IsLayout reading filter parts) : (predicatesOf parts).Nodup := by
  refine layout.arranged.apart.imp_of_mem fun left _ apart same => ?_
  subst same
  exact absurd (layout.start_lt_stop left) (Nat.not_lt.2 apart)

theorem sameClause_of_slice (layout : IsLayout reading filter parts) {p q : Predicate}
    (left : p ∈ predicatesOf parts) (right : q ∈ predicatesOf parts)
    (same : p.span.slice filter = q.span.slice filter) : p.sameClause q := by
  obtain ⟨_, ps, slice, spelled, scanned⟩ := layout.slice left
  obtain ⟨_, qs, slice', spelled', scanned'⟩ := layout.slice right
  rw [slice, slice'] at same
  obtain rfl := scanned.unique scanned' (Option.some.inj same)
  exact spelled.sameClause spelled'

theorem substitute (layout : IsLayout reading filter parts) {find : Predicate → Option Resolution}
    {substitutions : List Substitution}
    (perm : substitutions.Perm (substitutionsBy find (predicatesOf parts))) :
    substitute filter substitutions =
      .ok (splice filter (substitutionsBy find (predicatesOf parts))) := by
  have origin (s : Substitution) (member : s ∈ substitutionsBy find (predicatesOf parts)) :
      ∃ p ∈ predicatesOf parts, s.span = p.span := by
    obtain ⟨p, inside, found⟩ := List.mem_filterMap.1 member
    obtain ⟨resolution, -, rfl⟩ := Option.map_eq_some_iff.1 found
    exact ⟨p, inside, rfl⟩
  have apart : (substitutionsBy find (predicatesOf parts)).Pairwise fun a b =>
      a.span.stop ≤ b.span.start := by
    refine List.pairwise_filterMap.2 (layout.arranged.apart.imp fun less a left b right => ?_)
    obtain ⟨_, -, rfl⟩ := Option.map_eq_some_iff.1 left
    obtain ⟨_, -, rfl⟩ := Option.map_eq_some_iff.1 right
    exact less
  -- No predicate is empty, so no two of them start at the same place.
  have forward (s : Substitution) (member : s ∈ substitutionsBy find (predicatesOf parts)) :
      s.span.start < s.span.stop := by
    obtain ⟨p, inside, same⟩ := origin s member
    rw [same]
    exact layout.start_lt_stop inside
  refine substitute_eq_splice perm ?_ (check_of_pairwise ?_ (by simp) apart)
  · exact apart.imp_of_mem fun left _ less => Nat.lt_of_lt_of_le (forward _ left) less
  · intro s member
    obtain ⟨p, inside, same⟩ := origin s member
    rw [same]
    exact layout.fits inside

theorem splice (layout : IsLayout reading filter parts) (find : Predicate → Option Resolution) :
    splice filter (substitutionsBy find (predicatesOf parts)) =
      joined (resolvedPieces find parts) := by
  have written := layout.arranged.spliceFrom_eq find 0 [] rfl
  simpa [Prejoin.splice, layout.source] using written

end IsLayout

end Prejoin
