/-
What was read of groups and of repetitions.

What opens a group says which kind of group it is, and the reader behind it has counted the
group and knows its name. A list of flags that was read names no flag twice, a name is one, and
counts are small enough and in order. Behind an operator that is greedy no question mark comes
next, which would have made it lazy.

Main statements: `Opens.trans`, `opening_reads`, `counted_reads`.
-/
import StatefulLexer.Proofs.Regex.Opened
import StatefulLexer.Proofs.Regex.Parsed.Atom

set_option autoImplicit false

namespace StatefulLexer.Regex

open Reader

variable {r r' r₁ : Reader}

/-! ## Flags -/

/-- The flags that were written so far, in no order. -/
def FlagsSoFar.flags (f : FlagsSoFar) : List Flag := (f.set ++ f.cleared).map Prod.fst

theorem FlagsSoFar.flags_perm (f : FlagsSoFar) :
    (f.toList.set ++ f.toList.cleared).Perm f.flags := by
  rw [flags, List.map_append]
  exact (List.reverse_perm _).append (List.reverse_perm _)

theorem FlagsSoFar.not_mem_of_find? {f : FlagsSoFar} {flag : Flag} (h : f.find? flag = none) :
    flag ∉ f.flags := by
  rw [find?, Option.map_eq_none_iff, List.find?_eq_none] at h
  intro hmem
  obtain ⟨q, hq, rfl⟩ := List.mem_map.1 hmem
  exact h q hq (beq_self_eq_true q.1)

/-- **No flag is written twice,** step by step. -/
theorem pushFlag_nodup {f f' : FlagsSoFar} {c : Char} {region : Region}
    (h : pushFlag f c region = .ok f') (hf : f.flags.Nodup) : f'.flags.Nodup := by
  unfold pushFlag at h
  split at h
  · split at h
    · cases h
    · cases h
      exact hf
  · split at h
    · cases h
    · rename_i flag _
      split at h
      · cases h
      · rename_i hfresh
        have hnot := FlagsSoFar.not_mem_of_find? hfresh
        cases h
        -- Wherever the flag goes, it is one more.
        have hperm : (f.push flag region).flags.Perm (flag :: f.flags) := by
          unfold FlagsSoFar.push
          split
          · exact .refl _
          · exact List.perm_middle.map Prod.fst
        exact hperm.nodup_iff.2 (List.nodup_cons.2 ⟨hnot, hf⟩)

/-- **A list of flags that was read is legible.** -/
theorem flagList_reads {f : FlagsSoFar} {l : FlagList} (h : flagList r f = .ok (l, r')) :
    (∃ piece, r.Reads piece r') ∧ (∃ c, r'.peek? = some c) ∧
      (f.flags.Nodup → l.legible = true) := by
  fun_induction flagList r f with
  | case1 => cases h
  | case2 => cases h
  | case3 r f c p rest hrest hc hlists =>
    simp only [Except.ok.injEq, Prod.mk.injEq] at h
    obtain ⟨rfl, rfl⟩ := h
    refine ⟨⟨[], .refl r⟩, ⟨c, by simp [peek?, hrest]⟩, ?_⟩
    intro hf
    exact decide_eq_true (f.flags_perm.nodup_iff.2 hf)
  | case4 => cases h
  | case5 r f c p rest hrest hc f' hf' _ ih =>
    have hpeek : r.peek? = some c := by simp [peek?, hrest]
    obtain ⟨⟨piece, hpiece⟩, hend, hlegible⟩ := ih h
    exact ⟨⟨_, (Reads.advance hpeek).trans hpiece⟩, hend, fun hf => hlegible (pushFlag_nodup hf' hf)⟩

/-! ## Names -/

/-- A name that was read so far: it may go on. -/
def IsNameSoFar (name : List Char) : Prop := name = [] ∨ isName true name = true

theorem IsNameSoFar.append {name : List Char} {c : Char} (h : IsNameSoFar name)
    (hc : isNameChar name.isEmpty c = true) (hend : c ≠ '>') : IsNameSoFar (name ++ [c]) := by
  right
  rcases h with rfl | h
  · simp only [List.isEmpty_nil] at hc
    simp [isName, hc, hend]
  · cases name with
    | nil => cases h
    | cons d name =>
      simp only [List.isEmpty_cons] at hc
      simp only [isName, Bool.true_or, Bool.and_true, Bool.and_eq_true, List.all_eq_true,
        bne_iff_ne, List.mem_cons] at h
      simp only [isName, List.cons_append, Bool.true_or, Bool.and_true, Bool.and_eq_true,
        List.all_eq_true, bne_iff_ne, List.mem_cons, List.mem_append]
      grind

theorem nameChars_reads {before name : List Char} (h : nameChars r before = .ok (name, r')) :
    (∃ piece, r.Reads piece r' ∧ name = before ++ piece) ∧ r'.peek? = some '>' ∧
      (IsNameSoFar before → IsNameSoFar name) := by
  fun_induction nameChars r before with
  | case1 => cases h
  | case2 r before p rest hrest =>
    simp only [Except.ok.injEq, Prod.mk.injEq] at h
    obtain ⟨rfl, rfl⟩ := h
    exact ⟨⟨[], .refl r, (List.append_nil _).symm⟩, by simp [peek?, hrest], id⟩
  | case3 r before c p rest hrest hend hc _ ih =>
    have hpeek : r.peek? = some c := by simp [peek?, hrest]
    obtain ⟨⟨piece, hpiece, rfl⟩, hclose, hname⟩ := ih h
    refine ⟨⟨_, (Reads.advance hpeek).trans hpiece, ?_⟩, hclose, fun h => hname (h.append hc hend)⟩
    rw [List.append_assoc]
  | case4 => cases h

/-- **A name that was read** is one, and was not given before. -/
theorem groupName_reads {name : List Char} (h : groupName r = .ok (name, r')) :
    (∃ r₁ region, r.Reads (name ++ ['>']) r₁ ∧ r' = r₁.naming name region) ∧
      isName true name = true ∧ name ∉ r.names.map Prod.fst := by
  unfold groupName at h
  obtain ⟨⟨name', r₁⟩, hname, h⟩ := bind_eq_ok.1 h
  obtain ⟨⟨piece, hpiece, hsame⟩, hclose, hvalid⟩ := nameChars_reads hname
  rw [List.nil_append] at hsame
  have hread := hpiece.trans (.advance hclose)
  dsimp only at h
  split at h
  · cases h
  · rename_i hne
    split at h
    · cases h
    · rename_i hfresh
      simp only [Except.ok.injEq, Prod.mk.injEq] at h
      obtain ⟨rfl, rfl⟩ := h
      rw [← hsame] at hread
      refine ⟨⟨_, _, hread, rfl⟩, ?_, ?_⟩
      · rcases hvalid (.inl rfl) with rfl | hname
        · exact absurd rfl hne
        · exact hname
      · rw [← hread.names]
        intro hmem
        obtain ⟨q, hq, rfl⟩ := List.mem_map.1 hmem
        exact List.find?_eq_none.1 hfresh q hq (beq_self_eq_true q.1)

/-- Without the letter a name must not begin like a look-around. -/
theorem isName_of_head {letterP : Bool} {name : List Char} (h : isName true name = true)
    (hsign : name.head? ≠ some '=' ∧ name.head? ≠ some '!') : isName letterP name = true := by
  cases name with
  | nil => cases h
  | cons c name =>
    simp only [List.head?_cons, ne_eq, Option.some.injEq] at hsign
    simp_all [isName]

/-! ## Opening a group -/

/-- No look-around begins at a reader where none is read. -/
theorem not_prefix_of_lookAround? (h : lookAround? r = none) :
    ∀ sign ∈ ["?=", "?!", "?<=", "?<!"], ¬sign.toList <+: r.text := by
  intro sign hsign hbegins
  have hnone := List.findSome?_eq_none_iff.1 h sign hsign
  obtain ⟨more, hmore⟩ := hbegins
  have hat : r.At r.verbose (sign.toList ++ more) := hmore ▸ r.at_text
  rw [hat.after?_append] at hnone
  cases hnone

/-- **A reader has opened groups:** it has counted those that capture, which are numbered in the
order in which they were opened, and knows their names, of which none was given before. -/
structure Opens (r : Reader) (kinds : List GroupKind) (r' : Reader) : Prop where
  inOrder : InOrder r.groups (kinds.flatMap GroupKind.indices)
  groups : r'.groups = r.groups + (kinds.flatMap GroupKind.indices).length
  names : r'.names.map Prod.fst = (kinds.flatMap GroupKind.names).reverse ++ r.names.map Prod.fst
  nodup : (r.names.map Prod.fst).Nodup → (r'.names.map Prod.fst).Nodup

namespace Opens

variable {kinds kinds' : List GroupKind} {piece : List Char}

/-- **Groups that are opened one after the other.** -/
theorem trans (h : Opens r kinds r₁) (h' : Opens r₁ kinds' r') : Opens r (kinds ++ kinds') r' where
  inOrder := by
    rw [List.flatMap_append, inOrder_append, ← h.groups]
    exact ⟨h.inOrder, h'.inOrder⟩
  groups := by
    rw [h'.groups, h.groups, List.flatMap_append, List.length_append, Nat.add_assoc]
  names := by
    rw [h'.names, h.names, List.flatMap_append, List.reverse_append, List.append_assoc]
  nodup hnodup := h'.nodup (h.nodup hnodup)

/-- What is read between groups opens none. -/
theorem of_reads (h : r.Reads piece r') : Opens r [] r' where
  inOrder := rfl
  groups := h.groups
  names := congrArg _ h.names
  nodup hnodup := by rwa [h.names]

/-- Nor does a change of what is skipped. -/
theorem of_verbose (r : Reader) (verbose : Bool) : Opens r [] { r with verbose } :=
  ⟨rfl, rfl, rfl, id⟩

theorem of_flags (h : r.Reads piece r') (l : FlagList) : Opens r [.flags l] r' :=
  ⟨rfl, h.groups, congrArg _ h.names, fun hnodup => by rwa [h.names]⟩

theorem of_capture (h : r.Reads piece r') : Opens r [.capture (r'.groups + 1)] r'.counting where
  inOrder := by rw [h.groups]; rfl
  groups := congrArg (· + 1) h.groups
  names := congrArg _ h.names
  nodup hnodup := by
    show (r'.names.map Prod.fst).Nodup
    rwa [h.names]

theorem of_name (h : r.Reads piece r') (letterP : Bool) {name : List Char} {region : Region}
    (hfresh : name ∉ r.names.map Prod.fst) :
    Opens r [.named (r'.groups + 1) letterP name] (r'.counting.naming name region) where
  inOrder := by rw [h.groups]; rfl
  groups := congrArg (· + 1) h.groups
  names := congrArg (name :: List.map Prod.fst ·) h.names
  nodup hnodup := by
    show (name :: r'.names.map Prod.fst).Nodup
    rw [h.names]
    exact List.nodup_cons.2 ⟨hfresh, hnodup⟩

end Opens

/-- A reader that has counted a group reads what it would have read before. -/
theorem Reader.Reads.of_counting {piece : List Char} (h : r.counting.Reads piece r') :
    ∃ r₁, r.Reads piece r₁ ∧ r' = r₁.counting :=
  ⟨r.behind piece.length, ⟨rfl, (h.text.trans (congrArg (piece ++ ·.text) h.behind))⟩, h.behind⟩

/-- A group with a name was opened, if nothing of the name is taken for a look-around. -/
theorem Opens.of_groupName (letterP : Bool) {sign name : List Char} {r₂ : Reader}
    {blanks : List Char} (hblanks : r.Reads blanks r₁) (hsign : r₁.counting.after? sign = some r₂)
    (hname : groupName r₂ = .ok (name, r'))
    (hhead : ∀ c, name.head? = some c → (sign ++ [c]) <+: r₁.text →
      letterP = true ∨ c ≠ '=' ∧ c ≠ '!') :
    Opens r [.named r'.groups letterP name] r' ∧ isName letterP name = true ∧
      r'.verbose = r.verbose := by
  obtain ⟨⟨r₃, region, hread, rfl⟩, hvalid, hfresh⟩ := groupName_reads hname
  obtain ⟨r₄, hr₄, rfl⟩ := ((Reads.after? hsign).trans hread).of_counting
  have hall := hblanks.trans hr₄
  have hnames : r₂.names = r.names := (Reads.after? hsign).names.trans hblanks.names
  rw [hnames] at hfresh
  refine ⟨.of_name hall letterP hfresh, ?_, hall.verbose⟩
  cases name with
  | nil => cases hvalid
  | cons c name =>
    rcases hhead c rfl ⟨name ++ '>' :: r₄.text, by rw [hr₄.text]; simp⟩ with rfl | ⟨hne, hne'⟩
    · exact hvalid
    · exact isName_of_head hvalid ⟨by simpa using hne, by simpa using hne'⟩

/-- **What a parenthesis began** is a change of flags or a group, and legible. -/
theorem opening_reads {o : Opening} (hpeek : r.peek? = some '(') (h : opening r = .ok (o, r')) :
    r'.verbose = r.verbose ∧
    ((∃ region l, o = .setFlags region l ∧ Opens r [.flags l] r' ∧
      (Pattern.setFlags region l).legible r.verbose = true) ∨
    (∃ region kind, o = .group region kind ∧ Opens r [kind] r' ∧ kind.legible = true)) := by
  obtain ⟨blanks, hblanks, _⟩ := exists_reads_advanceSkip hpeek
  unfold opening at h
  dsimp only at h
  split at h
  · cases h
  · rename_i hlook
    have hlook := not_prefix_of_lookAround? (Option.eq_none_iff_forall_ne_some.2 hlook)
    split at h
    · rename_i r₁ hsign
      obtain ⟨⟨name, r₂⟩, hname, h⟩ := bind_eq_ok.1 h
      simp only [Except.ok.injEq, Prod.mk.injEq] at h
      obtain ⟨rfl, rfl⟩ := h
      obtain ⟨hopens, hvalid, hverbose⟩ :=
        Opens.of_groupName true hblanks hsign hname fun _ _ _ => .inl rfl
      exact ⟨hverbose, .inr ⟨_, _, rfl, hopens, hvalid⟩⟩
    · split at h
      · rename_i r₁ hsign
        obtain ⟨⟨name, r₂⟩, hname, h⟩ := bind_eq_ok.1 h
        simp only [Except.ok.injEq, Prod.mk.injEq] at h
        obtain ⟨rfl, rfl⟩ := h
        obtain ⟨hopens, hvalid, hverbose⟩ :=
          Opens.of_groupName false hblanks hsign hname fun c _ hbegins => by
            right
            constructor
            · rintro rfl
              exact hlook "?<=" (by simp) hbegins
            · rintro rfl
              exact hlook "?<!" (by simp) hbegins
        exact ⟨hverbose, .inr ⟨_, _, rfl, hopens, hvalid⟩⟩
      · split at h
        · rename_i r₁ hsign
          split at h
          · cases h
          · obtain ⟨⟨l, r₂⟩, hl, h⟩ := bind_eq_ok.1 h
            obtain ⟨⟨piece, hpiece⟩, ⟨c, hc⟩, hlegible⟩ := flagList_reads hl
            have hlegible := hlegible List.nodup_nil
            have hread := ((hblanks.trans (.after? hsign)).trans hpiece).trans (.advance hc)
            dsimp only at h
            split at h
            · split at h
              · cases h
              · rename_i hne
                simp only [Except.ok.injEq, Prod.mk.injEq] at h
                obtain ⟨rfl, rfl⟩ := h
                refine ⟨hread.verbose, .inl ⟨_, _, rfl, .of_flags hread l, ?_⟩⟩
                rw [Pattern.legible, hlegible, Bool.eq_false_iff.2 hne]
                rfl
            · simp only [Except.ok.injEq, Prod.mk.injEq] at h
              obtain ⟨rfl, rfl⟩ := h
              exact ⟨hread.verbose, .inr ⟨_, _, rfl, .of_flags hread l, hlegible⟩⟩
        · simp only [Except.ok.injEq, Prod.mk.injEq] at h
          obtain ⟨rfl, rfl⟩ := h
          exact ⟨hblanks.verbose, .inr ⟨_, _, rfl, .of_capture hblanks, rfl⟩⟩

/-! ## Counts -/

theorem skipSpaces_reads (r : Reader) : ∃ piece, r.Reads piece (skipSpaces r) := by
  let isSpace (q : Char × Place) : Bool := CharSet.space.contains q.1
  have hdrop : r.rest.dropWhile isSpace = r.rest.drop (r.rest.takeWhile isSpace).length := by
    calc r.rest.dropWhile isSpace
        = (r.rest.takeWhile isSpace ++ r.rest.dropWhile isSpace).drop
            (r.rest.takeWhile isSpace).length := List.drop_left.symm
      _ = r.rest.drop (r.rest.takeWhile isSpace).length := by
          rw [List.takeWhile_append_dropWhile]
  have hskip : skipSpaces r = r.behind (r.rest.takeWhile isSpace).length := by
    rw [Reader.behind, ← hdrop]
    rfl
  rw [hskip]
  exact ⟨_, .of_drop r _⟩

/-- **A count** is small enough if there is one. -/
theorem count_reads (r : Reader) :
    (∃ piece, r.Reads piece (count r).2) ∧ ∀ n, (count r).1 = .ok n → n ≤ greatestCount := by
  obtain ⟨spaces, hspaces⟩ := skipSpaces_reads r
  let digits := (skipSpaces r).readWhile Char.isDigit []
  obtain ⟨piece, hpiece⟩ := readWhile_reads (rfl : _ = digits)
  obtain ⟨spaces', hspaces'⟩ := skipSpaces_reads digits.2
  have hread := (hspaces.trans hpiece).trans hspaces'
  unfold count
  dsimp only
  split
  · exact ⟨⟨_, hread⟩, nofun⟩
  · split
    · rename_i hle
      refine ⟨⟨_, hread⟩, ?_⟩
      intro n hn
      rw [← Except.ok.inj hn]
      exact hle
    · exact ⟨⟨_, hread⟩, nofun⟩

/-- The counts of an operator in braces. -/
theorem countedOp_reads {start : Place} {op : RepeatOp} (h : countedOp start r = .ok (op, r')) :
    (∃ piece, r.Reads piece r') ∧ (op.isOrdered = true → op.legible = true) ∧
      op ≠ .optional := by
  obtain ⟨⟨piece, hpiece⟩, hleast⟩ := count_reads r
  unfold countedOp at h
  split at h
  · cases h
  · dsimp only at h
    split at h
    · cases h
    · split at h
      · rename_i hcomma
        obtain ⟨blanks, hblanks, _⟩ := exists_reads_advanceSkip hcomma
        split at h
        · cases h
        · split at h
          · obtain ⟨n, hn, h⟩ := bind_eq_ok.1 h
            cases h
            refine ⟨⟨_, hpiece.trans hblanks⟩, ?_, RepeatOp.noConfusion⟩
            intro hordered
            simp [RepeatOp.legible, hordered, hleast n hn]
          · obtain ⟨m, hm, h⟩ := bind_eq_ok.1 h
            obtain ⟨n, hn, h⟩ := bind_eq_ok.1 h
            cases h
            obtain ⟨⟨piece', hpiece'⟩, hmost⟩ := count_reads (count r).2.advanceSkip
            refine ⟨⟨_, (hpiece.trans hblanks).trans hpiece'⟩, ?_, RepeatOp.noConfusion⟩
            intro hordered
            simp [RepeatOp.legible, hordered, hleast m hm, hmost n hn]
      · obtain ⟨n, hn, h⟩ := bind_eq_ok.1 h
        cases h
        refine ⟨⟨_, hpiece⟩, ?_, RepeatOp.noConfusion⟩
        intro hordered
        simp [RepeatOp.legible, hordered, hleast n hn]

/-- **An operator in braces that was read is legible,** and no question mark comes next that
would make it lazy. -/
theorem counted_reads {rep : Repeating} (hpeek : r.peek? = some '{')
    (h : counted r = .ok (rep, r')) :
    (∃ piece, r.Reads piece r') ∧ rep.op.legible = true ∧ rep.op ≠ .optional ∧
      (rep.greedy = true → r'.peek? ≠ some '?') := by
  obtain ⟨blanks, hblanks, _⟩ := exists_reads_advanceSkip hpeek
  unfold counted at h
  obtain ⟨⟨op, r₁⟩, hop, h⟩ := bind_eq_ok.1 h
  obtain ⟨⟨piece, hpiece⟩, hlegible, hcounts⟩ := countedOp_reads hop
  dsimp only at h
  split at h
  · rename_i hclose
    obtain ⟨blanks', hblanks', _⟩ := exists_reads_advanceSkip hclose
    have hread := (hblanks.trans hpiece).trans hblanks'
    split at h
    · rename_i hordered
      simp only [Except.ok.injEq, Prod.mk.injEq] at h
      obtain ⟨rfl, rfl⟩ := h
      by_cases hlazy : r₁.advanceSkip.peek? = some '?'
      · simp only [hlazy, beq_self_eq_true, if_true]
        exact ⟨⟨_, hread.trans (.advance hlazy)⟩, hlegible hordered, hcounts, nofun⟩
      · rw [beq_false_of_ne hlazy, if_neg Bool.false_ne_true]
        exact ⟨⟨_, hread⟩, hlegible hordered, hcounts, fun _ => hlazy⟩
    · cases h
  · cases h

/-- So it is for an operator of one sign. -/
theorem signed_reads {c : Char} {op : RepeatOp} {rep : Repeating} (hpeek : r.peek? = some c)
    (hop : signOp? c = some op) (h : signed op r = (rep, r')) :
    (∃ piece, r.Reads piece r') ∧ rep.op.legible = true ∧ (rep.op = .optional → c = '?') ∧
      (rep.greedy = true → r'.peek? ≠ some '?') := by
  have hlegible : op.legible = true ∧ (op = .optional → c = '?') := by
    unfold signOp? at hop
    split at hop <;> cases hop <;> exact ⟨rfl, by simp⟩
  unfold signed at h
  dsimp only at h
  split at h
  · rename_i hlazy
    cases h
    exact ⟨⟨_, (Reads.advance hpeek).trans (.advance hlazy)⟩, hlegible.1, hlegible.2, nofun⟩
  · rename_i hgreedy
    cases h
    exact ⟨⟨_, .advance hpeek⟩, hlegible.1, hlegible.2, fun _ => hgreedy⟩

end StatefulLexer.Regex
