/-
What is in a set of characters.

A set is built from ranges in any order, which are sorted and joined where they
touch. None of that changes what is in it.

Main statements: `CharSet.contains_ofList`, `CharSet.contains_eq_of_only?`.
-/
import StatefulLexer.Unicode.CharSet

set_option autoImplicit false

namespace StatefulLexer.CharSet

/-- To join ranges that are sorted by their first code neither adds a code nor takes one
away. -/
theorem any_contains_joinFrom (code : Nat) (r : CodeRange) (rest : List CodeRange)
    (hsorted : (r :: rest).Pairwise fun a b => a.first ≤ b.first) :
    (joinFrom r rest).any (·.contains code) = (r :: rest).any (·.contains code) := by
  induction rest generalizing r with
  | nil => rfl
  | cons q rest ih =>
    obtain ⟨hr, hrest⟩ := List.pairwise_cons.1 hsorted
    obtain ⟨hq, hrest'⟩ := List.pairwise_cons.1 hrest
    have hrq : r.first ≤ q.first := hr q List.mem_cons_self
    rw [joinFrom]
    by_cases htouch : q.first ≤ r.last + 1
    -- Ranges that touch cover together what they cover apart.
    · have hjoined : CodeRange.contains ⟨r.first, max r.last q.last⟩ code
          = (r.contains code || q.contains code) := by
        rw [CodeRange.contains, CodeRange.contains, CodeRange.contains, ← Bool.decide_or]
        refine decide_eq_decide.2 ?_
        dsimp only
        omega
      have hcons : (CodeRange.mk r.first (max r.last q.last) :: rest).Pairwise
          fun a b => a.first ≤ b.first :=
        .cons (fun b hb => hr b (List.mem_cons_of_mem q hb)) hrest'
      rw [if_pos htouch, ih _ hcons, List.any_cons, List.any_cons, List.any_cons, hjoined,
        Bool.or_assoc]
    · rw [if_neg htouch, List.any_cons, ih q hrest, List.any_cons, List.any_cons, List.any_cons]

/-- **A set of ranges holds the codes of its ranges.** -/
theorem containsCode_ofRanges (rs : List CodeRange) (code : Nat) :
    (ofRanges rs).containsCode code = rs.any (·.contains code) := by
  let sorted := (rs.filter fun r => r.first ≤ r.last).mergeSort fun a b => a.first ≤ b.first
  have hsorted : sorted.Pairwise fun a b => a.first ≤ b.first := by
    have hpairwise : sorted.Pairwise fun a b => decide (a.first ≤ b.first) = true := by
      refine List.pairwise_mergeSort (fun a b c hab hbc => ?_) (fun a b => ?_) _
      · simp only [decide_eq_true_eq] at *
        exact Nat.le_trans hab hbc
      · simp only [Bool.or_eq_true, decide_eq_true_eq]
        exact Nat.le_total _ _
    exact hpairwise.imp of_decide_eq_true
  have hjoin : (join sorted).any (·.contains code) = sorted.any (·.contains code) := by
    cases hcases : sorted with
    | nil => rfl
    | cons r rest => exact any_contains_joinFrom code r rest (hcases ▸ hsorted)
  rw [containsCode, ofRanges]
  refine hjoin.trans (Bool.eq_iff_iff.2 ?_)
  rw [List.any_eq_true, List.any_eq_true]
  constructor
  · rintro ⟨r, hr, hcode⟩
    exact ⟨r, (List.mem_filter.1 (List.mem_mergeSort.1 hr)).1, hcode⟩
  · rintro ⟨r, hr, hcode⟩
    -- A range that holds a code does not run backwards.
    have hle := of_decide_eq_true hcode
    exact ⟨r, List.mem_mergeSort.2 (List.mem_filter.2
      ⟨hr, decide_eq_true (Nat.le_trans hle.1 hle.2)⟩), hcode⟩

/-- **A set of characters holds the characters that are listed.** -/
theorem contains_ofList (cs : List Char) (c : Char) : (ofList cs).contains c = cs.contains c := by
  rw [contains, ofList, containsCode_ofRanges, List.any_map, Bool.eq_iff_iff, List.any_eq_true,
    List.contains_iff_mem]
  constructor
  · rintro ⟨d, hd, hcode⟩
    have hle := of_decide_eq_true hcode
    rw [Char.toNat_inj.1 (Nat.le_antisymm hle.2 hle.1)]
    exact hd
  · exact fun hc => ⟨c, hc, decide_eq_true ⟨Nat.le_refl _, Nat.le_refl _⟩⟩

/-- A set that is taken for one character holds that character and nothing else. -/
theorem contains_eq_of_only? {s : CharSet} {d : Char} (h : s.only? = some d) (c : Char) :
    s.contains c = (c == d) := by
  unfold only? at h
  split at h
  · rename_i r hr
    split at h
    · rename_i hone
      obtain ⟨hone, hvalid⟩ := hone
      have hcode : ∀ code, s.containsCode code = decide (code = r.first) := by
        intro code
        rw [containsCode, hr, List.any_cons, List.any_nil, Bool.or_false, CodeRange.contains,
          ← hone]
        exact decide_eq_decide.2 (by omega)
      have hd : d.toNat = r.first := by
        rw [← Option.some.inj h, Char.ofNat, dif_pos hvalid]
        rfl
      rw [contains, hcode, ← hd, Bool.eq_iff_iff, decide_eq_true_eq, beq_iff_eq, Char.toNat_inj]
    · cases h
  · cases h

/-- A set that is taken for one character was made from that character. -/
theorem contains_of_only? {cs : List Char} {d : Char} (h : (ofList cs).only? = some d) (c : Char) :
    cs.contains c = (c == d) :=
  (contains_ofList cs c).symm.trans (contains_eq_of_only? h c)

/-- A union holds what any of the sets holds. -/
theorem contains_unions (sets : List CharSet) (c : Char) :
    (unions sets).contains c = sets.any (·.contains c) := by
  rw [contains, unions, containsCode_ofRanges, List.any_flatMap]
  rfl

end StatefulLexer.CharSet
