/-
Choices that are settled.

A choice is meant to find what its first branch finds, or else its second, and so on. When
it is built, a beginning that all branches have in common is drawn out, so that it is matched
before any branch is chosen. That changes what is found if the beginning can be matched in
several ways: the second way is then tried with the first branch only after the first way was
tried with all of them. Nothing is changed if the beginning can be matched in one way only,
as characters, sets and assertions can.

Main statement: `widthOf_choice`.
-/
import StatefulLexer.Proofs.Regex.Sequence
import StatefulLexer.Proofs.Regex.Verbatim

set_option autoImplicit false

namespace StatefulLexer.Regex

/-! ## One way -/

/-- The expression can be matched in one way at most, wherever that is. -/
def Expr.isRigid : Expr → Bool
  | empty => true
  | literal _ => true
  | set _ _ => true
  | look _ => true
  | rep least most _ sub => most == some least && sub.isRigid
  | capture _ sub => sub.isRigid
  | seq first rest => first.isRigid && rest.isRigid
  | alt _ _ => false

/-- At a place, what is under a stack is either not come to at all, or at one place. -/
def OneWay (front : Stack) : Prop :=
  ∀ before place ahead, (∀ k, Loopless k → widthOf before place ahead (front ++ k) = none) ∨
    ∃ before' place' ahead', ∀ k, Loopless k →
      widthOf before place ahead (front ++ k) = widthOf before' place' ahead' k

theorem OneWay.nil : OneWay [] := fun before place ahead =>
  .inr ⟨before, place, ahead, fun _ _ => rfl⟩

/-- A stack that waits for one of some characters, and a single frame behind it. -/
theorem OneWay.consume {f : Frame} {front : Stack} {wanted : Char → Bool}
    (hmove : ∀ k, move (f :: k) = .consume wanted (front ++ k)) (hfront : OneWay front) :
    OneWay [f] := by
  intro before place ahead
  have htakes (k : Stack) := widthOf_consume (hmove k) before place ahead
  cases ahead with
  | nil => exact .inl fun k _ => htakes k
  | cons c ahead =>
    by_cases hc : wanted c = true
    · have hgoes (k : Stack) := (htakes k).trans (if_pos hc)
      refine (hfront (some c) (place + 1) ahead).imp (fun h k hk => ?_) ?_
      · exact (hgoes k).trans (h k hk)
      · rintro ⟨before', place', ahead', h⟩
        exact ⟨before', place', ahead', fun k hk => (hgoes k).trans (h k hk)⟩
    · exact .inl fun k _ => (htakes k).trans (if_neg hc)

/-- One after the other. -/
theorem OneWay.append {front front' : Stack} (hfront' : Loopless front') (h : OneWay front)
    (h' : OneWay front') : OneWay (front ++ front') := by
  intro before place ahead
  rcases h before place ahead with hnone | ⟨before', place', ahead', hone⟩
  · refine .inl fun k hk => ?_
    rw [List.append_assoc]
    exact hnone _ (hfront'.append hk)
  · refine (h' before' place' ahead').imp (fun hnone k hk => ?_) ?_
    · rw [List.append_assoc, hone _ (hfront'.append hk)]
      exact hnone k hk
    · rintro ⟨before'', place'', ahead'', hone'⟩
      refine ⟨before'', place'', ahead'', fun k hk => ?_⟩
      rw [List.append_assoc, hone _ (hfront'.append hk)]
      exact hone' k hk

/-- What is alike to something with one way has one way. -/
theorem OneWay.congr {front front' : Stack} (h : OneWay front)
    (halike : ∀ k, Loopless k → Alike (front' ++ k) (front ++ k)) : OneWay front' := by
  intro before place ahead
  refine (h before place ahead).imp (fun hnone k hk => ?_) ?_
  · exact (halike k hk before place ahead).trans (hnone k hk)
  · rintro ⟨before', place', ahead', hone⟩
    exact ⟨before', place', ahead', fun k hk =>
      (halike k hk before place ahead).trans (hone k hk)⟩

theorem OneWay.literal (text : List Char) : OneWay [.expr (.literal text)] := by
  induction text with
  | nil => exact OneWay.nil.congr fun k hk => .become rfl hk rfl
  | cons c text ih => exact ih.consume fun _ => rfl

theorem OneWay.look (l : Look) : OneWay [.expr (.look l)] := by
  intro before place ahead
  have hstep (k : Stack) (hk : Loopless k) : widthOf before place ahead (.expr (.look l) :: k)
      = if l.holds before ahead.head? then widthOf before place ahead k else none := by
    rw [widthOf, run_step (.of_loopless (.cons rfl hk)) rfl rfl, move, Move.followed]
    split
    · rfl
    · rw [run_nil]
      rfl
  by_cases hl : l.holds before ahead.head? = true
  · exact .inr ⟨before, place, ahead, fun k hk => (hstep k hk).trans (if_pos hl)⟩
  · exact .inl fun k hk => (hstep k hk).trans (if_neg hl)

/-- A number of rounds that is fixed, each with one way. -/
theorem OneWay.rounds {e : Expr} (h : OneWay [.expr e]) (greedy : Bool) (n : Nat) :
    OneWay [.expr (.rep n (some n) greedy e)] := by
  induction n with
  | zero => exact OneWay.nil.congr fun k hk => .become rfl hk rfl
  | succ n ih =>
    refine (h.append (Loopless.exprs [_]) ih).congr fun k hk => .become rfl hk ?_
    rw [move, Option.map_some, Frame.more, if_neg (by simp)]
    rfl

/-- **A rigid expression has one way.** -/
theorem OneWay.of_isRigid {e : Expr} (h : e.isRigid = true) : OneWay [.expr e] := by
  induction e with
  | empty => exact OneWay.nil.congr fun k hk => .empty hk
  | literal text => exact .literal text
  | set s unicode => exact OneWay.nil.consume fun _ => rfl
  | look l => exact .look l
  | rep least most greedy e ih =>
    rw [Expr.isRigid, Bool.and_eq_true, beq_iff_eq] at h
    rw [h.1]
    exact (ih h.2).rounds greedy least
  | capture index e ih => exact (ih h).congr fun k hk => .capture index e hk
  | seq first rest ihf ihr =>
    rw [Expr.isRigid, Bool.and_eq_true] at h
    exact ((ihf h.1).append (Loopless.exprs [_]) (ihr h.2)).congr fun k hk => .seq first rest hk
  | alt first rest => cases h

theorem OneWay.of_all {es : List Expr} (h : es.all Expr.isRigid = true) :
    OneWay (es.map .expr) := by
  induction es with
  | nil => exact .nil
  | cons e es ih =>
    rw [List.all_cons, Bool.and_eq_true] at h
    exact (OneWay.of_isRigid h.1).append (Loopless.exprs es) (ih h.2)

/-! ## Branches -/

/-- What branches find one after the other, on top of `k`. -/
def firstWidth (es : List Expr) (before : Option Char) (place : Nat) (ahead : List Char)
    (k : Stack) : Option Nat :=
  es.findSome? fun e => widthOf before place ahead (.expr e :: k)

/-- The expression that never matches finds nothing. -/
theorem widthOf_fail (before : Option Char) (place : Nat) (ahead : List Char) (k : Stack) :
    widthOf before place ahead (.expr .fail :: k) = none := by
  have hmove : move (.expr .fail :: k) = .consume CharSet.none.contains k := rfl
  rw [widthOf_consume hmove]
  cases ahead <;> rfl

/-- Branches as a choice find what the first of them finds that finds anything. -/
theorem widthOf_ofBranches (es : List Expr) {k : Stack} (hk : Loopless k)
    (before : Option Char) (place : Nat) (ahead : List Char) :
    widthOf before place ahead (.expr (Expr.ofBranches es) :: k)
      = firstWidth es before place ahead k := by
  fun_induction Expr.ofBranches es with
  | case1 => exact widthOf_fail before place ahead k
  | case2 e => rw [firstWidth, List.findSome?_singleton]
  | case3 e es hes ih =>
    rw [widthOf_alt e _ hk, ih, firstWidth, firstWidth, List.findSome?_cons]
    cases widthOf before place ahead (.expr e :: k) <;> rfl

/-- A choice finds what its branches find. -/
theorem widthOf_branches (e : Expr) {k : Stack} (hk : Loopless k) (before : Option Char)
    (place : Nat) (ahead : List Char) : widthOf before place ahead (.expr e :: k)
      = firstWidth e.branches before place ahead k := by
  induction e with
  | alt first rest _ ih =>
    rw [widthOf_alt first rest hk, ih, Expr.branches, firstWidth, firstWidth,
      List.findSome?_cons]
    cases widthOf before place ahead (.expr first :: k) <;> rfl
  | _ => rw [Expr.branches, firstWidth, List.findSome?_singleton]; nofun

/-- It does not matter whether choices are opened. -/
theorem firstWidth_flatMap_branches (es : List Expr) {k : Stack} (hk : Loopless k)
    (before : Option Char) (place : Nat) (ahead : List Char) :
    firstWidth (es.flatMap Expr.branches) before place ahead k
      = firstWidth es before place ahead k := by
  induction es with
  | nil => rfl
  | cons e es ih =>
    have he := widthOf_branches e hk before place ahead
    have hes : (es.flatMap Expr.branches).findSome? _ = es.findSome? _ := ih
    rw [firstWidth] at he
    rw [List.flatMap_cons, firstWidth, firstWidth, List.findSome?_append, List.findSome?_cons,
      hes, ← he]
    cases widthOf before place ahead (.expr e :: k) <;> rfl

/-- Branches that are alike, one by one, find the same. -/
theorem firstWidth_congr {es es' : List Expr} (h : List.Forall₂ Expr.Alike es es') {k : Stack}
    (hk : Loopless k) (before : Option Char) (place : Nat) (ahead : List Char) :
    firstWidth es before place ahead k = firstWidth es' before place ahead k := by
  induction h with
  | nil => rfl
  | @cons e e' es es' he _ ih =>
    have hes : es.findSome? _ = es'.findSome? _ := ih
    rw [firstWidth, firstWidth, List.findSome?_cons, List.findSome?_cons, he hk, hes]

/-! ## Sets -/

/-- Branches that each wait for a character wait for any of those together. -/
theorem firstWidth_of_wanted {es : List Expr} {k : Stack} {wanted : List (Char → Bool)}
    (h : List.Forall₂ (fun e w => ∀ before place ahead,
      widthOf before place ahead (.expr e :: k) = widthBehind w place k ahead) es wanted)
    (before : Option Char) (place : Nat) (ahead : List Char) :
    firstWidth es before place ahead k = widthBehind (fun c => wanted.any (· c)) place k ahead := by
  induction h with
  | nil => cases ahead <;> rfl
  | @cons e w es wanted he _ ih =>
    have hes : es.findSome? _ = _ := ih
    rw [firstWidth, List.findSome?_cons, he, hes]
    cases ahead with
    | nil => rfl
    | cons c ahead =>
      rw [widthBehind, widthBehind, widthBehind, List.any_cons]
      by_cases hc : w c = true
      · rw [if_pos hc, hc, Bool.true_or, if_pos rfl]
        cases widthOf (some c) (place + 1) ahead k with
        | none => dsimp only; rw [ite_self]
        | some n => rfl
      · rw [if_neg hc, Bool.eq_false_iff.2 hc, Bool.false_or]

/-- A literal of one character waits for that. -/
theorem widthOf_char (c : Char) {k : Stack} (hk : Loopless k) (before : Option Char)
    (place : Nat) (ahead : List Char) : widthOf before place ahead (.expr (.literal [c]) :: k)
      = widthBehind (· == c) place k ahead := by
  rw [widthOf_consume rfl]
  cases ahead with
  | nil => rfl
  | cons d ahead =>
    rw [widthBehind, widthBehind]
    exact congrArg (fun width => if (d == c) = true then width else none)
      (Alike.become rfl hk rfl (some d) (place + 1) ahead)

/-- Whether a set is kept as a set, as a literal, or as the expression that never matches: it
waits for one of its characters. -/
theorem widthOf_ofSet (s : CharSet) (unicode : Bool) {k : Stack} (hk : Loopless k)
    (before : Option Char) (place : Nat) (ahead : List Char) :
    widthOf before place ahead (.expr (.ofSet s unicode) :: k)
      = widthBehind s.contains place k ahead := by
  unfold Expr.ofSet
  split
  · rename_i c hc
    rw [widthOf_char c hk, funext (CharSet.contains_eq_of_only? hc)]
  · split
    · rename_i hempty
      have hnone : s.contains = fun _ => false := by
        funext c
        rw [CharSet.contains, CharSet.containsCode, List.isEmpty_iff.1 hempty]
        rfl
      rw [widthOf_fail, hnone]
      cases ahead <;> rfl
    · exact widthOf_consume rfl before place ahead

/-- Results that were found for all members, one by one. -/
theorem forall₂_of_mapM {α β : Type} {f : α → Option β} {as : List α} {bs : List β}
    (h : as.mapM f = some bs) : List.Forall₂ (fun a b => f a = some b) as bs := by
  induction as generalizing bs with
  | nil =>
    cases h
    exact .nil
  | cons a as ih =>
    rw [List.mapM_cons] at h
    obtain ⟨b, hb, h⟩ := Option.bind_eq_some_iff.1 h
    obtain ⟨bs', hbs, h⟩ := Option.bind_eq_some_iff.1 h
    cases h
    exact .cons hb (ih hbs)

/-- A step that fails for one member fails for all of them. -/
theorem mapM_eq_none {α β : Type} {f : α → Option β} {as : List α} {a : α} (ha : a ∈ as)
    (hf : f a = none) : as.mapM f = none := by
  cases h : as.mapM f with
  | none => rfl
  | some bs =>
    obtain ⟨i, hi, rfl⟩ := List.mem_iff_getElem.1 ha
    have hall := forall₂_of_mapM h
    have hlength := hall.length_eq
    have hi' := (List.forall₂_iff_get.1 hall).2 i hi (hlength ▸ hi)
    rw [List.get_eq_getElem, hf] at hi'
    cases hi'

/-- What is taken for a character is a literal of that. -/
theorem Expr.eq_of_char? {e : Expr} {c : Char} (h : e.char? = some c) : e = .literal [c] := by
  unfold Expr.char? at h
  split at h
  · rw [Option.some.inj h]
  · cases h

/-- What is taken for a set is one. -/
theorem Expr.eq_of_set? {e : Expr} {s : CharSet} (h : e.set? = some s) :
    ∃ unicode, e = .set s unicode := by
  unfold Expr.set? at h
  split at h
  · exact ⟨_, congrArg (Expr.set · _) (Option.some.inj h)⟩
  · cases h

/-- Branches that are all characters. -/
theorem firstWidth_chars {es : List Expr} {cs : List Char} (h : es.mapM Expr.char? = some cs)
    {k : Stack} (hk : Loopless k) (before : Option Char) (place : Nat) (ahead : List Char) :
    firstWidth es before place ahead k = widthBehind cs.contains place k ahead := by
  have hall : List.Forall₂ (fun e w => ∀ before place ahead,
      widthOf before place ahead (.expr e :: k) = widthBehind w place k ahead)
      es (cs.map fun c => (· == c)) := by
    refine List.forall₂_map_right_iff.2 ((forall₂_of_mapM h).imp fun e c he => ?_)
    rw [Expr.eq_of_char? he]
    exact widthOf_char c hk
  rw [firstWidth_of_wanted hall]
  refine congrArg (widthBehind · place k ahead) (funext fun c => ?_)
  rw [List.any_map, List.contains_eq_any_beq]
  rfl

/-- Branches that are all sets. -/
theorem firstWidth_sets {es : List Expr} {sets : List CharSet}
    (h : es.mapM Expr.set? = some sets) (k : Stack) (before : Option Char) (place : Nat)
    (ahead : List Char) : firstWidth es before place ahead k
      = widthBehind (CharSet.unions sets).contains place k ahead := by
  have hall : List.Forall₂ (fun e w => ∀ before place ahead,
      widthOf before place ahead (.expr e :: k) = widthBehind w place k ahead)
      es (sets.map CharSet.contains) := by
    refine List.forall₂_map_right_iff.2 ((forall₂_of_mapM h).imp fun e s he => ?_)
    obtain ⟨unicode, rfl⟩ := Expr.eq_of_set? he
    exact widthOf_consume rfl
  rw [firstWidth_of_wanted hall]
  refine congrArg (widthBehind · place k ahead) (funext fun c => ?_)
  rw [List.any_map, CharSet.contains_unions]
  rfl

/-- **A choice that was merged** finds what its branches find. -/
theorem widthOf_merged {es : List Expr} {e : Expr} (h : Expr.merged? es = some e) {k : Stack}
    (hk : Loopless k) (before : Option Char) (place : Nat) (ahead : List Char) :
    widthOf before place ahead (.expr e :: k) = firstWidth es before place ahead k := by
  unfold Expr.merged? at h
  split at h
  · rename_i cs hcs
    rw [← Option.some.inj h, widthOf_ofSet _ true hk, firstWidth_chars hcs hk, funext (CharSet.contains_ofList cs)]
  · obtain ⟨sets, hsets, rfl⟩ := Option.map_eq_some_iff.1 h
    rw [widthOf_ofSet _ true hk, firstWidth_sets hsets]

/-- A choice that nothing is drawn out of finds what its branches find. -/
theorem widthOf_choiceOf (es : List Expr) {k : Stack} (hk : Loopless k) (before : Option Char)
    (place : Nat) (ahead : List Char) :
    widthOf before place ahead (.expr (Expr.choiceOf es) :: k)
      = firstWidth es before place ahead k := by
  rw [Expr.choiceOf]
  cases h : Expr.merged? es with
  | some e => exact widthOf_merged h hk before place ahead
  | none => exact widthOf_ofBranches es hk before place ahead

/-! ## Common beginnings -/

/-- A common beginning of two lists begins both. -/
theorem commonStart_begins (as bs : List Expr) :
    Expr.commonStart as bs <+: as ∧ Expr.commonStart as bs <+: bs := by
  fun_induction Expr.commonStart as bs with
  | case1 as b bs ih => exact ⟨(List.prefix_cons_inj b).2 ih.1, (List.prefix_cons_inj b).2 ih.2⟩
  | case2 => exact ⟨List.nil_prefix, List.nil_prefix⟩
  | case3 => exact ⟨List.nil_prefix, List.nil_prefix⟩

/-- A beginning that lists have in common begins each of them. -/
theorem foldl_commonStart_begins (first : List Expr) (more : List (List Expr)) :
    ∀ fs ∈ first :: more, more.foldl Expr.commonStart first <+: fs := by
  induction more generalizing first with
  | nil =>
    intro fs hfs
    rw [List.mem_singleton.1 hfs]
    exact List.prefix_refl _
  | cons second more ih =>
    intro fs hfs
    have hstart : (second :: more).foldl Expr.commonStart first
        <+: Expr.commonStart first second := ih _ _ List.mem_cons_self
    rcases List.mem_cons.1 hfs with rfl | hfs
    · exact hstart.trans (commonStart_begins _ _).1
    · rcases List.mem_cons.1 hfs with rfl | hfs
      · exact hstart.trans (commonStart_begins _ _).2
      · exact ih _ fs (List.mem_cons_of_mem _ hfs)

/-- The members of a sequence of at least two are its members. -/
theorem factors_of_factors? {e : Expr} {fs : List Expr} (h : e.factors? = some fs) :
    e.factors = fs := by
  unfold Expr.factors? at h
  split at h
  · exact Option.some.inj h
  · cases h

/-- **What is drawn out** begins every branch, and what is left is behind it. -/
theorem forall₂_of_drawnOut? {es start : List Expr} {rests : List (List Expr)}
    (h : Expr.drawnOut? es = some (start, rests)) :
    List.Forall₂ (fun e rest => e.factors = start ++ rest) es rests := by
  unfold Expr.drawnOut? at h
  split at h
  · rename_i first second more hfactors
    dsimp only at h
    split at h
    · cases h
    · obtain ⟨rfl, rfl⟩ := Prod.mk.inj (Option.some.inj h)
      have hall := forall₂_of_mapM hfactors
      have hstart := foldl_commonStart_begins first (second :: more)
      generalize (second :: more).foldl Expr.commonStart first = start at hstart ⊢
      clear hfactors h
      generalize first :: second :: more = fss at hall hstart ⊢
      induction hall with
      | nil => exact .nil
      | @cons e fs es fss he _ ih =>
        obtain ⟨hfs, hfss⟩ := List.forall_mem_cons.1 hstart
        refine .cons ?_ (ih hfss)
        rw [factors_of_factors? he]
        exact List.prefix_iff_eq_append.1 hfs |>.symm
  · cases h

/-! ## Choices -/

/-- **A settled choice:** a beginning that is drawn out of it can be matched in one way
only. -/
def Expr.settled (es : List Expr) : Bool :=
  match drawnOut? (es.flatMap branches) with
  | none => true
  | some (start, _) => start.all isRigid

/-- A beginning with one way may be matched before a branch is chosen. -/
theorem OneWay.firstWidth_drawn {start : List Expr} (h : OneWay (start.map .expr))
    (rests : List (List Expr)) {k : Stack} (hk : Loopless k) (e : Expr)
    (he : ∀ before place ahead, widthOf before place ahead (.expr e :: k)
      = firstWidth (rests.map Expr.sequence) before place ahead k)
    (before : Option Char) (place : Nat) (ahead : List Char) :
    widthOf before place ahead (start.map .expr ++ .expr e :: k)
      = rests.findSome? fun rest =>
        widthOf before place ahead ((start ++ rest).map .expr ++ k) := by
  have hsplit (rest : List Expr) : (start ++ rest).map Frame.expr ++ k
      = start.map Frame.expr ++ (rest.map Frame.expr ++ k) := by
    rw [List.map_append, List.append_assoc]
  rcases h before place ahead with hnone | ⟨before', place', ahead', hone⟩
  · rw [hnone _ (.cons rfl hk)]
    refine (List.findSome?_eq_none_iff.2 fun rest _ => ?_).symm
    rw [hsplit]
    exact hnone _ ((Loopless.exprs rest).append hk)
  · rw [hone _ (.cons rfl hk), he, firstWidth, List.findSome?_map]
    refine congrArg (List.findSome? · rests) (funext fun rest => ?_)
    rw [hsplit, hone _ ((Loopless.exprs rest).append hk)]
    exact alike_sequence rest hk before' place' ahead'

/-- Branches that begin with `start` find what that finds on top of the rest of each. -/
theorem firstWidth_of_factors {es start : List Expr} {rests : List (List Expr)}
    (h : List.Forall₂ (fun e rest => e.factors = start ++ rest) es rests) {k : Stack}
    (hk : Loopless k) (before : Option Char) (place : Nat) (ahead : List Char) :
    firstWidth es before place ahead k = rests.findSome? fun rest =>
      widthOf before place ahead ((start ++ rest).map .expr ++ k) := by
  induction h with
  | nil => rfl
  | @cons e rest es rests he _ ih =>
    have hbranch := alike_factors e hk before place ahead
    have hes : es.findSome? _ = _ := ih
    rw [he] at hbranch
    rw [firstWidth, List.findSome?_cons, List.findSome?_cons, hbranch, hes]

/-- **A settled choice finds what its first branch finds,** or else its second, and so on. -/
theorem widthOf_choice {es : List Expr} (h : Expr.settled es = true) {k : Stack}
    (hk : Loopless k) (before : Option Char) (place : Nat) (ahead : List Char) :
    widthOf before place ahead (.expr (Expr.choice es) :: k)
      = firstWidth es before place ahead k := by
  rw [← firstWidth_flatMap_branches es hk, Expr.choice]
  rw [Expr.settled] at h
  generalize es.flatMap Expr.branches = es at h ⊢
  split
  · rename_i e he
    exact widthOf_merged he hk before place ahead
  · split
    · exact widthOf_ofBranches es hk before place ahead
    · rename_i start rests hstart
      rw [hstart] at h
      have hchoice (before : Option Char) (place : Nat) (ahead : List Char) :
          widthOf before place ahead
              (.expr (Expr.choiceOf ((rests.map Expr.sequence).flatMap Expr.branches)) :: k)
            = firstWidth (rests.map Expr.sequence) before place ahead k := by
        rw [widthOf_choiceOf _ hk, firstWidth_flatMap_branches _ hk]
      rw [alike_sequence _ hk, List.map_append, List.map_singleton, List.append_assoc]
      refine ((OneWay.of_all h).firstWidth_drawn rests hk _ hchoice
        before place ahead).trans ?_
      exact (firstWidth_of_factors (forall₂_of_drawnOut? hstart) hk before place ahead).symm

end StatefulLexer.Regex
