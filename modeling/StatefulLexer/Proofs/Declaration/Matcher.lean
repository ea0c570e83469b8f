/-
The order of matchers.

The matchers of a rule are sorted when the rule is brought into normal form: literals come
first, the longest of them before the others, and otherwise matchers stay in the order they
were written in. The order is read off one number, the length of a literal, which a regular
expression does not have. So matchers of one number are those that sorting leaves alone.

Main statement: `Matcher.filter_sort`.
-/
import StatefulLexer.Declaration

set_option autoImplicit false

namespace StatefulLexer.Matcher

/-! ## What is tried before what -/

/-- The number of bytes of a literal. -/
def byteLength? : Matcher → Option Nat
  | literal text => some text.utf8ByteSize
  | regex _ => none

/-- A matcher is tried before a literal if it is a literal, and not shorter. -/
theorem le_iff (a b : Matcher) :
    a.le b = true ↔ ∀ n ∈ b.byteLength?, ∃ m ∈ a.byteLength?, n ≤ m := by
  cases b with
  | regex pattern => cases a <;> exact iff_of_true rfl nofun
  | literal text =>
    cases a with
    | regex pattern =>
      refine iff_of_false nofun fun h => ?_
      obtain ⟨m, hm, _⟩ := h _ rfl
      cases hm
    | literal longer =>
      rw [le, decide_eq_true_iff]
      constructor
      · rintro h n hn
        exact ⟨_, rfl, Option.some.inj hn ▸ h⟩
      · intro h
        obtain ⟨m, hm, hle⟩ := h _ rfl
        exact Option.some.inj hm ▸ hle

theorem le_trans (a b c : Matcher) (hab : a.le b = true) (hbc : b.le c = true) :
    a.le c = true := by
  rw [le_iff] at hab hbc ⊢
  intro n hn
  obtain ⟨m, hm, hnm⟩ := hbc n hn
  obtain ⟨l, hl, hml⟩ := hab m hm
  exact ⟨l, hl, Nat.le_trans hnm hml⟩

theorem le_total (a b : Matcher) : (a.le b || b.le a) = true := by
  cases a <;> cases b
  · rename_i s t
    rw [le, le, Bool.or_eq_true, decide_eq_true_iff, decide_eq_true_iff]
    exact Nat.le_total _ _
  all_goals rfl

/-- Matchers of one length are tried in any order. -/
theorem le_of_byteLength? {a b : Matcher} (h : a.byteLength? = b.byteLength?) :
    a.le b = true := by
  rw [le_iff, h]
  exact fun n hn => ⟨n, hn, Nat.le_refl n⟩

/-! ## Sorting -/

/-- **Sorted matchers** are those that were written down, and in order. -/
theorem sort_perm (ms : List Matcher) : (sort ms).Perm ms := List.mergeSort_perm ms le

theorem sort_pairwise (ms : List Matcher) : (sort ms).Pairwise fun a b => a.le b = true :=
  List.pairwise_mergeSort le_trans le_total ms

/-- **Sorting is stable:** literals of one length, and regular expressions, stay in the order
they were written in. -/
theorem filter_sort (ms : List Matcher) (n : Option Nat) :
    (sort ms).filter (·.byteLength? == n) = ms.filter (·.byteLength? == n) := by
  have halike : (ms.filter (·.byteLength? == n)).Pairwise fun a b => a.le b = true := by
    refine List.Pairwise.imp_of_mem ?_ (List.pairwise_of_forall (R := fun _ _ => True)
      fun _ _ => trivial)
    intro a b ha hb _
    rw [List.mem_filter, beq_iff_eq] at ha hb
    exact le_of_byteLength? (ha.2.trans hb.2.symm)
  have hsublist := (List.sublist_mergeSort le_trans le_total halike List.filter_sublist).filter
    (·.byteLength? == n)
  simp only [List.filter_filter, Bool.and_self] at hsublist
  exact (hsublist.eq_of_length ((sort_perm ms).filter _).length_eq.symm).symm

/-- The matchers that are no literals. -/
def regexes (ms : List Matcher) : List Matcher := ms.filter (·.byteLength? == none)

theorem regexes_sort (ms : List Matcher) : regexes (sort ms) = regexes ms := filter_sort ms none

theorem mem_sort {m : Matcher} {ms : List Matcher} : m ∈ sort ms ↔ m ∈ ms :=
  (sort_perm ms).mem_iff

/-- Without literals there is nothing to sort. -/
theorem sort_of_regexes {ms : List Matcher} (h : ∀ text, literal text ∉ ms) : sort ms = ms := by
  have hall : ∀ m ∈ ms, (m.byteLength? == none) = true := by
    intro m hm
    cases m with
    | regex pattern => rfl
    | literal text => exact absurd hm (h text)
  have hregexes := regexes_sort ms
  rwa [regexes, regexes, List.filter_eq_self.2 hall,
    List.filter_eq_self.2 fun m hm => hall m (mem_sort.1 hm)] at hregexes

end StatefulLexer.Matcher
