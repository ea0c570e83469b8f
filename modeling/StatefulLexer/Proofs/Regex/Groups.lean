/-
Which groups an expression has.

While the expression of a pattern is built it is simplified, and what is repeated no times at
all is left out, with the groups in it. All other groups are kept, under the numbers they were
written with. Only the beginning that the branches of a choice have in common might be thought
to lose some: it is written in every branch and kept once. But different groups have different
numbers, so there is no group in what branches have in common.

A search enters and leaves the groups of the expression and no others, and remembers one
capture for each at most.

Main statements: `Pattern.groups_meaning`, `Expr.groups_of_match?`.
-/
import StatefulLexer.Proofs.Regex.Captures
import StatefulLexer.Proofs.Regex.Combined
import StatefulLexer.Proofs.Regex.Parsed.Body

set_option autoImplicit false

namespace StatefulLexer.Regex

/-! ## Groups of expressions -/

namespace Expr

/-- **The numbers of the capture groups** of an expression, from left to right. -/
def groups : Expr → List Nat
  | rep _ _ _ sub => sub.groups
  | capture index sub => index :: sub.groups
  | seq first rest => first.groups ++ rest.groups
  | alt first rest => first.groups ++ rest.groups
  | _ => []

theorem length_groups (e : Expr) : e.groups.length = e.captureCount := by
  induction e with
  | rep least most greedy sub ih => exact ih
  | capture index sub ih => exact congrArg (· + 1) ih
  | seq first rest ih ih' => rw [groups, captureCount, List.length_append, ih, ih']
  | alt first rest ih ih' => rw [groups, captureCount, List.length_append, ih, ih']
  | _ => rfl

/-- If other numbers make no difference there are no groups. -/
theorem groups_of_renumber {e : Expr} (h : e.renumber (· + 1) = e) : e.groups = [] := by
  apply List.eq_nil_of_length_eq_zero
  rw [length_groups, captureCount_of_renumber h]

theorem groups_ofSet (s : CharSet) (unicode : Bool) : (ofSet s unicode).groups = [] :=
  groups_of_renumber (renumber_ofSet s unicode)

/-- **A repetition** has no groups if there are no rounds of it. -/
theorem groups_repeated (least : Nat) (most : Option Nat) (greedy : Bool) (sub : Expr) :
    (repeated least most greedy sub).groups
      = if (least, most) = (0, some 0) then [] else sub.groups := by
  -- There is a round in the simplified repetition if there was one before.
  have hrounds (still : Bool) : ((if still then min least 1 else least) = 0 ∧
      (if still then some ((most.map (min · 1)).getD 1) else most) = some 0) ↔
        (least, most) = (0, some 0) := by
    rw [Prod.mk.injEq]
    cases still with
    | false => exact Iff.rfl
    | true => cases most <;> simp
  have hnone := hrounds (sub.greatestLength == some 0)
  rw [repeated]
  by_cases h : (least, most) = (0, some 0)
  · rw [if_pos h, if_pos (hnone.2 h)]
    rfl
  · rw [if_neg h, if_neg (hnone.not.2 h), apply_ite groups, groups, ite_self]

theorem groups_factors (e : Expr) : e.factors.flatMap groups = e.groups := by
  induction e with
  | empty => rfl
  | seq first rest _ ih => rw [factors, List.flatMap_cons, ih, groups]
  | _ => exact List.append_nil _

theorem groups_ofFactors (es : List Expr) : (ofFactors es).groups = es.flatMap groups := by
  fun_induction ofFactors es with
  | case1 => rfl
  | case2 e => exact (List.append_nil _).symm
  | case3 e es _ ih => rw [groups, ih, List.flatMap_cons]

theorem groups_joinLiterals (es : List Expr) :
    (joinLiterals es).flatMap groups = es.flatMap groups := by
  fun_induction joinLiterals es with
  | case1 => rfl
  | case2 a es b rest hjoin ih =>
    rw [hjoin] at ih
    exact ih
  | case3 a es _ ih => exact ih
  | case4 e es _ ih => rw [List.flatMap_cons, List.flatMap_cons, ih]

/-- **A sequence** has the groups of its members. -/
theorem groups_sequence (es : List Expr) : (sequence es).groups = es.flatMap groups := by
  rw [sequence, groups_ofFactors, groups_joinLiterals, List.flatMap_assoc]
  simp only [groups_factors]

theorem groups_branches (e : Expr) : e.branches.flatMap groups = e.groups := by
  induction e with
  | alt first rest _ ih => rw [branches, List.flatMap_cons, ih, groups]
  | _ => exact List.append_nil _

theorem groups_flatMap_branches (es : List Expr) :
    (es.flatMap branches).flatMap groups = es.flatMap groups := by
  rw [List.flatMap_assoc]
  simp only [groups_branches]

theorem groups_ofBranches (es : List Expr) : (ofBranches es).groups = es.flatMap groups := by
  fun_induction ofBranches es with
  | case1 => rfl
  | case2 e => exact (List.append_nil _).symm
  | case3 e es _ ih => rw [groups, ih, List.flatMap_cons]

/-- What each member is taken for has no groups. -/
theorem flatMap_groups_of_mapM {β : Type} {f : Expr → Option β} {es : List Expr} {bs : List β}
    (h : es.mapM f = some bs) (hf : ∀ (e : Expr) (b : β), f e = some b → e.groups = []) :
    es.flatMap groups = [] := by
  rw [List.flatMap_eq_nil_iff]
  intro e he
  cases hb : f e with
  | none =>
    rw [mapM_eq_none he hb] at h
    cases h
  | some b => exact hf e b hb

/-- Characters and sets have no groups, and neither has what they are merged to. -/
theorem groups_merged? {es : List Expr} {e : Expr} (h : merged? es = some e) :
    e.groups = es.flatMap groups := by
  unfold merged? at h
  split at h
  · rename_i cs hcs
    have hnone : es.flatMap groups = [] := flatMap_groups_of_mapM hcs fun e c he => by
      rw [eq_of_char? he]
      rfl
    rw [hnone, ← Option.some.inj h, groups_ofSet]
  · obtain ⟨sets, hsets, rfl⟩ := Option.map_eq_some_iff.1 h
    have hnone : es.flatMap groups = [] := flatMap_groups_of_mapM hsets fun e s he => by
      obtain ⟨unicode, rfl⟩ := eq_of_set? he
      rfl
    rw [hnone, groups_ofSet]

theorem groups_choiceOf (es : List Expr) : (choiceOf es).groups = es.flatMap groups := by
  rw [choiceOf]
  cases h : merged? es with
  | some e => exact groups_merged? h
  | none => exact groups_ofBranches es

/-- Something is drawn out of two branches at least. -/
theorem two_le_of_drawnOut? {es start : List Expr} {rests : List (List Expr)}
    (h : drawnOut? es = some (start, rests)) : 2 ≤ es.length := by
  unfold drawnOut? at h
  split at h
  · rename_i first second more hfactors
    rw [(forall₂_of_mapM hfactors).length_eq]
    exact Nat.le_add_left 2 more.length
  · cases h

/-- **What is drawn out has no groups** if all groups are different: it begins more than one
branch. -/
theorem groups_drawnOut? {es start : List Expr} {rests : List (List Expr)}
    (hdistinct : (es.flatMap groups).Nodup) (h : drawnOut? es = some (start, rests)) :
    start.flatMap groups = [] ∧ rests.flatMap (List.flatMap groups) = es.flatMap groups := by
  have hbegins := forall₂_of_drawnOut? h
  have htwo := two_le_of_drawnOut? h
  -- The groups of a branch are those of the beginning and those of its rest.
  have hgroups {e : Expr} {rest : List Expr} (he : e.factors = start ++ rest) :
      e.groups = start.flatMap groups ++ rest.flatMap groups := by
    rw [← groups_factors, he, List.flatMap_append]
  have hstart : start.flatMap groups = [] := by
    match es, rests, hbegins with
    | e :: e' :: es, _, .cons he (.cons he' _) =>
      rw [List.flatMap_cons, List.flatMap_cons, hgroups he, hgroups he'] at hdistinct
      rw [List.eq_nil_iff_forall_not_mem]
      intro i hi
      -- The second branch would have the group again.
      exact (List.nodup_append.1 hdistinct).2.2 i (List.mem_append_left _ hi) i
        (List.mem_append_left _ (List.mem_append_left _ hi)) rfl
    | [_], _, _ => exact absurd htwo (Nat.lt_irrefl 1)
    | [], _, _ => exact absurd htwo (Nat.not_succ_le_zero 1)
  refine ⟨hstart, ?_⟩
  clear h hdistinct htwo
  induction hbegins with
  | nil => rfl
  | cons he _ ih =>
    rw [List.flatMap_cons, List.flatMap_cons, ih, hgroups he, hstart, List.nil_append]

/-- **A choice** has the groups of its branches, if these are different ones. -/
theorem groups_choice {es : List Expr} (hdistinct : (es.flatMap groups).Nodup) :
    (choice es).groups = es.flatMap groups := by
  rw [← groups_flatMap_branches] at hdistinct ⊢
  rw [choice]
  generalize es.flatMap branches = es at hdistinct ⊢
  split
  · rename_i e hmerged
    exact groups_merged? hmerged
  · split
    · exact groups_ofBranches es
    · rename_i start rests hdrawn
      obtain ⟨hstart, hrests⟩ := groups_drawnOut? hdistinct hdrawn
      rw [groups_sequence, List.flatMap_append, hstart, List.nil_append, List.flatMap_singleton,
        groups_choiceOf, groups_flatMap_branches, List.flatMap_map, ← hrests]
      simp only [groups_sequence]

end Expr

/-! ## Groups of patterns -/

mutual

/-- **The numbers of the groups that are kept:** of those that are written, the ones that are
not repeated zero times. -/
def Pattern.kept : Pattern → List Nat
  | .repetition _ op _ sub => if op.bounds = (0, some 0) then [] else sub.kept
  | .group _ kind sub => kind.indices ++ sub.kept
  | .alternation _ branches => Pattern.allKept branches
  | .concat _ items => Pattern.allKept items
  | _ => []

/-- The numbers of the groups that are kept of several patterns. -/
def Pattern.allKept : List Pattern → List Nat
  | [] => []
  | p :: patterns => p.kept ++ Pattern.allKept patterns

end

mutual

/-- What is kept was written, in the same order. -/
theorem Pattern.kept_sublist : (p : Pattern) → p.kept.Sublist p.numbers
  | .empty _ => List.nil_sublist _
  | .setFlags _ _ => List.nil_sublist _
  | .literal _ => List.nil_sublist _
  | .dot _ => List.nil_sublist _
  | .assertion _ _ => List.nil_sublist _
  | .property _ _ _ => List.nil_sublist _
  | .short _ _ _ => List.nil_sublist _
  | .bracketed _ _ _ => List.nil_sublist _
  | .repetition _ op _ sub => by
    rw [kept]
    split
    · exact List.nil_sublist _
    · exact sub.kept_sublist
  | .group _ kind sub => by
    rw [kept, numbers, opened, List.flatMap_cons]
    exact (List.Sublist.refl _).append sub.kept_sublist
  | .alternation _ branches => Pattern.allKept_sublist branches
  | .concat _ items => Pattern.allKept_sublist items

theorem Pattern.allKept_sublist : (ps : List Pattern) →
    (Pattern.allKept ps).Sublist (Pattern.allNumbers ps)
  | [] => List.nil_sublist _
  | p :: ps => by
    rw [Pattern.allKept, Pattern.allNumbers_cons]
    exact p.kept_sublist.append (Pattern.allKept_sublist ps)

end

theorem GroupKind.groups_around (kind : GroupKind) (e : Expr) :
    (kind.around e).groups = kind.indices ++ e.groups := by
  cases kind <;> rfl

mutual

/-- **The groups of an expression are those that are kept of its pattern,** if these are
different ones. -/
theorem Pattern.groups_meaning {f f' : Flags} {e : Expr} : (p : Pattern) → p.kept.Nodup →
    p.meaning f = .ok (e, f') → e.groups = p.kept
  | .empty _, _, h => by
    cases h
    rfl
  | .setFlags _ _, _, h => by
    cases h
    rfl
  | .assertion _ _, _, h => by
    cases h
    rfl
  | .literal l, _, h => by
    obtain ⟨e, he, h⟩ := bind_eq_ok.1 h
    cases h
    exact Expr.groups_of_renumber (Literal.renumber_meaning he)
  | .dot _, _, h => by
    obtain ⟨e, he, h⟩ := bind_eq_ok.1 h
    cases h
    exact Expr.groups_of_renumber (renumber_dotMeaning he)
  | .property _ _ _, _, h => by
    obtain ⟨s, _, h⟩ := bind_eq_ok.1 h
    cases h
    exact Expr.groups_ofSet s _
  | .short _ _ _, _, h => by
    obtain ⟨s, _, h⟩ := bind_eq_ok.1 h
    cases h
    exact Expr.groups_ofSet s _
  | .bracketed _ _ _, _, h => by
    obtain ⟨_, _, h⟩ := bind_eq_ok.1 h
    obtain ⟨s, _, h⟩ := bind_eq_ok.1 h
    cases h
    exact Expr.groups_ofSet s _
  | .repetition _ op greedy sub, hdistinct, h => by
    obtain ⟨⟨e, _⟩, hsub, h⟩ := bind_eq_ok.1 h
    cases h
    refine (Expr.groups_repeated op.bounds.1 op.bounds.2 _ e).trans ?_
    rw [kept] at hdistinct ⊢
    by_cases hrounds : op.bounds = (0, some 0)
    · rw [if_pos hrounds, if_pos hrounds]
    · rw [if_neg hrounds] at hdistinct
      rw [if_neg hrounds, if_neg hrounds, sub.groups_meaning hdistinct hsub]
  | .group _ kind sub, hdistinct, h => by
    obtain ⟨⟨e, _⟩, hsub, h⟩ := bind_eq_ok.1 h
    cases h
    rw [kind.groups_around, kept,
      sub.groups_meaning (hdistinct.sublist (List.sublist_append_right _ _)) hsub]
  | .alternation _ branches, hdistinct, h => by
    obtain ⟨⟨es, _⟩, hbranches, h⟩ := bind_eq_ok.1 h
    cases h
    have hgroups := Pattern.groups_meanings branches hdistinct hbranches
    rw [Expr.groups_choice, hgroups, kept]
    rw [hgroups]
    exact hdistinct
  | .concat _ items, hdistinct, h => by
    obtain ⟨⟨es, _⟩, hitems, h⟩ := bind_eq_ok.1 h
    cases h
    rw [Expr.groups_sequence, Pattern.groups_meanings items hdistinct hitems, kept]

theorem Pattern.groups_meanings {f f' : Flags} {es : List Expr} : (ps : List Pattern) →
    (Pattern.allKept ps).Nodup → Pattern.meanings f ps = .ok (es, f') →
    es.flatMap Expr.groups = Pattern.allKept ps
  | [], _, h => by
    cases h
    rfl
  | p :: ps, hdistinct, h => by
    obtain ⟨⟨e, _⟩, hp, h⟩ := bind_eq_ok.1 h
    obtain ⟨⟨es, _⟩, hps, h⟩ := bind_eq_ok.1 h
    cases h
    rw [Pattern.allKept] at hdistinct
    rw [List.flatMap_cons, Pattern.allKept,
      p.groups_meaning (hdistinct.sublist (List.sublist_append_left _ _)) hp,
      Pattern.groups_meanings ps (hdistinct.sublist (List.sublist_append_right _ _)) hps]

end

/-- **The groups of a pattern that was read** are some of those written in it, which are
numbered from one. -/
theorem Compiled.groups_of_ofText {text : List Char} {c : Compiled} (h : ofText text = .ok c) :
    c.expr.groups = c.tree.kept ∧ c.tree.kept.Sublist (List.range' 1 c.tree.groupCount) := by
  obtain ⟨tree, htree, h⟩ := bind_eq_ok.1 h
  obtain ⟨⟨e, _⟩, hmeaning, h⟩ := bind_eq_ok.1 h
  cases h
  have hinOrder : tree.numbers = List.range' 1 tree.numbers.length := (tree.parse_reads htree).1
  have hkept : tree.kept.Sublist (List.range' 1 tree.groupCount) := by
    rw [← tree.length_numbers, ← hinOrder]
    exact tree.kept_sublist
  exact ⟨tree.groups_meaning ((List.nodup_range' ..).sublist hkept) hmeaning, hkept⟩

/-! ## Groups of a search -/

/-- The numbers of the groups that a frame enters or leaves. -/
def Frame.groups : Frame → List Nat
  | expr e => e.groups
  | loop _ e => e.groups
  | join _ => []
  | close index => [index]

/-- A stack enters and leaves no other groups than these. -/
def Stack.Within (is : List Nat) (k : Stack) : Prop := ∀ f ∈ k, f.groups ⊆ is

theorem Stack.within_nil (is : List Nat) : Stack.Within is [] := List.forall_mem_nil _

theorem Stack.within_cons {is : List Nat} {f : Frame} {k : Stack} :
    Stack.Within is (f :: k) ↔ f.groups ⊆ is ∧ Stack.Within is k := List.forall_mem_cons

/-- A move enters and leaves no other groups than these, and neither does what it leads to. -/
def Move.Within (is : List Nat) : Move → Prop
  | done => True
  | consume _ k => Stack.Within is k
  | become k => Stack.Within is k
  | check _ k => Stack.Within is k
  | opened _ k => Stack.Within is k
  | closed index k => index ∈ is ∧ Stack.Within is k
  | fork a b => Stack.Within is a ∧ Stack.Within is b

theorem Move.within_again {is : List Nat} (greedy : Bool) {round behind : Stack}
    (hround : Stack.Within is round) (hbehind : Stack.Within is behind) :
    (Move.again greedy round behind).Within is := by
  cases greedy with
  | true => exact ⟨hround, hbehind⟩
  | false => exact ⟨hbehind, hround⟩

theorem Frame.groups_more (least : Nat) (most : Option Nat) (greedy : Bool) (e : Expr) :
    (Frame.more least most greedy e).groups = e.groups := by
  unfold Frame.more
  split <;> rfl

namespace Stack.Within

variable {is : List Nat} {f : Frame} {k : Stack}

theorem head (h : Stack.Within is (f :: k)) : f.groups ⊆ is := (within_cons.1 h).1

theorem tail (h : Stack.Within is (f :: k)) : Stack.Within is k := (within_cons.1 h).2

theorem cons (hf : f.groups ⊆ is) (hk : Stack.Within is k) : Stack.Within is (f :: k) :=
  within_cons.2 ⟨hf, hk⟩

/-- **A move takes groups from the stack,** and adds none. -/
theorem move (h : Stack.Within is k) : (Regex.move k).Within is := by
  fun_cases Regex.move k with
  | case1 => trivial
  | case3 index k => exact ⟨h.head List.mem_cons_self, h.tail⟩
  | case4 greedy e k => exact Move.within_again greedy (.cons h.head h) h.tail
  | case7 c text k => exact .cons h.head h.tail
  | case10 index e k =>
    obtain ⟨hindex, he⟩ := List.cons_subset.1 h.head
    exact .cons he (.cons (List.cons_subset.2 ⟨hindex, List.nil_subset _⟩) h.tail)
  | case11 first rest k =>
    obtain ⟨hfirst, hrest⟩ := List.append_subset.1 h.head
    exact .cons hfirst (.cons hrest h.tail)
  | case12 first rest k =>
    obtain ⟨hfirst, hrest⟩ := List.append_subset.1 h.head
    have hjoin (second : Bool) : Stack.Within is (.join second :: k) :=
      .cons (List.nil_subset _) h.tail
    exact ⟨.cons hfirst (hjoin false), .cons hrest (hjoin true)⟩
  | case14 most greedy e k =>
    exact Move.within_again greedy (.cons h.head (.cons h.head h.tail)) h.tail
  | case15 greedy e k =>
    exact Move.within_again greedy (.cons h.head (.cons h.head h.tail)) h.tail
  | case16 greedy e k => exact .cons h.head h.tail
  | case17 least most greedy e k =>
    refine .cons h.head (.cons ?_ h.tail)
    rw [Frame.groups_more]
    exact h.head
  | _ => exact h.tail

end Stack.Within

/-- **A thread is within some groups** if it enters and leaves no others, and remembers one
capture for each at most. -/
structure Thread.Within (is : List Nat) (t : Thread) : Prop where
  stack : Stack.Within is t.stack
  captures : ∀ c ∈ t.captures, c.index ∈ is
  distinct : (t.captures.map Capture.index).Nodup

namespace Thread.Within

variable {is : List Nat} {t : Thread}

theorem withStack (h : t.Within is) {k : Stack} (hk : Stack.Within is k) :
    (t.withStack k).Within is :=
  ⟨hk, h.captures, h.distinct⟩

/-- A group that is left again is remembered once, with its last capture. -/
theorem leave (h : t.Within is) {index : Nat} (hindex : index ∈ is) {k : Stack}
    (hk : Stack.Within is k) (place : Nat) : (t.leave index place k).Within is := by
  refine ⟨hk, List.forall_mem_cons.2 ⟨hindex, ?_⟩, List.nodup_cons.2 ⟨?_, ?_⟩⟩
  · intro c hc
    exact h.captures c (List.mem_filter.1 hc).1
  · intro hmem
    obtain ⟨c, hc, heq⟩ := List.mem_map.1 hmem
    have hne := (List.mem_filter.1 hc).2
    rw [heq, bne_self_eq_false] at hne
    cases hne
  · exact h.distinct.sublist (List.filter_sublist.map _)

/-- **No move leads out of the groups.** -/
theorem followed (h : t.Within is) (g : Gap) : ∀ u ∈ (move t.stack).followed g t, u.Within is := by
  have hmove := h.stack.move
  intro u hu
  cases hm : move t.stack with
  | done =>
    rw [hm] at hu
    cases hu
  | consume wanted k =>
    rw [hm] at hu
    cases hu
  | become k =>
    rw [hm] at hu hmove
    rw [List.mem_singleton.1 hu]
    exact h.withStack hmove
  | check l k =>
    rw [hm] at hu hmove
    rw [Move.followed] at hu
    split at hu
    · rw [List.mem_singleton.1 hu]
      exact h.withStack hmove
    · cases hu
  | opened index k =>
    rw [hm] at hu hmove
    rw [List.mem_singleton.1 hu]
    exact ⟨hmove, h.captures, h.distinct⟩
  | closed index k =>
    rw [hm] at hu hmove
    rw [List.mem_singleton.1 hu]
    exact h.leave hmove.1 hmove.2 g.place
  | fork a b =>
    rw [hm] at hu hmove
    rcases List.mem_cons.1 hu with rfl | hu
    · exact h.withStack hmove.1
    · rw [List.mem_singleton.1 hu]
      exact h.withStack hmove.2

theorem take? (h : t.Within is) {c : Char} {u : Thread} (hu : t.take? c = some u) :
    u.Within is := by
  have hmove := h.stack.move
  unfold Thread.take? at hu
  split at hu
  · rename_i wanted k hm
    rw [hm] at hmove
    split at hu
    · rw [← Option.some.inj hu]
      exact h.withStack hmove
    · cases hu
  · cases hu

end Thread.Within

/-- **A match captures with the groups of the expression,** and with each of them once. -/
theorem Expr.groups_of_match? {e : Expr} {behind ahead : List Char} {found : Found}
    (h : e.match? behind ahead = some found) :
    (∀ c ∈ found.captures, c.index ∈ e.groups) ∧ (found.captures.map Capture.index).Nodup := by
  have hstart : ∀ t ∈ [({ stack := [.expr e] } : Thread)], t.Within e.groups := by
    intro t ht
    rw [List.mem_singleton.1 ht]
    exact ⟨.cons (List.Subset.refl _) (Stack.within_nil _), List.forall_mem_nil _, .nil⟩
  obtain ⟨t, hwithin, _, hcaptures⟩ := exists_of_run (P := fun _ t => t.Within e.groups)
    (fun g _ ht => ht.followed g) (fun _ _ _ _ ht => ht.take?) hstart h
  rw [hcaptures]
  exact ⟨hwithin.captures, hwithin.distinct⟩

/-- Without groups nothing is captured. -/
theorem Expr.captures_of_groups_eq_nil {e : Expr} (he : e.groups = []) {behind ahead : List Char}
    {found : Found} (h : e.match? behind ahead = some found) : found.captures = [] := by
  rw [List.eq_nil_iff_forall_not_mem]
  intro c hc
  have hmem := (groups_of_match? h).1 c hc
  rw [he] at hmem
  cases hmem

/-- **One group captures once or not at all.** -/
theorem Expr.captures_of_groups_eq_singleton {e : Expr} {index : Nat} (he : e.groups = [index])
    {behind ahead : List Char} {found : Found} (h : e.match? behind ahead = some found) :
    found.captures = [] ∨ ∃ start stop, found.captures = [⟨index, start, stop⟩] := by
  obtain ⟨hindices, hdistinct⟩ := groups_of_match? h
  have hindex : ∀ c ∈ found.captures, c.index = index := by
    intro c hc
    have hmem := hindices c hc
    rw [he] at hmem
    exact List.mem_singleton.1 hmem
  match hcaptures : found.captures with
  | [] => exact .inl rfl
  | [c] =>
    refine .inr ⟨c.start, c.stop, ?_⟩
    rw [← hindex c (by simp [hcaptures])]
  | c :: c' :: captures =>
    -- Two captures would be of two groups.
    rw [hcaptures] at hdistinct hindex
    have hne : c.index ≠ c'.index := by
      intro heq
      simp [heq] at hdistinct
    rw [hindex c (by simp), hindex c' (by simp)] at hne
    exact absurd rfl hne

end StatefulLexer.Regex
