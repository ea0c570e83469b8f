/-
Reading what opens a group, and the operators of repetition.

A list of flags is read back if no flag is named twice, a name if it is one and was not
given before, and a count if it is small enough.

Main statements: `flagList_read`, `opening_named`, `counted_read`.
-/
import StatefulLexer.Proofs.Regex.Reading
import StatefulLexer.Regex.Parser.Group

set_option autoImplicit false

namespace StatefulLexer.Regex

/-! ## Flags -/

/-- The letter of a flag is the letter of that flag, and is no sign. -/
theorem Flag.letter_spec (flag : Flag) : Flag.ofLetter? flag.letter = some flag ∧
    flag.letter ≠ '-' ∧ ¬(flag.letter = ':' ∨ flag.letter = ')') := by
  cases flag <;> decide

/-- A flag that is in neither list was not written yet. -/
theorem FlagsSoFar.find?_eq_none {f : FlagsSoFar} {flag : Flag}
    (h : flag ∉ f.toList.set ++ f.toList.cleared) : f.find? flag = none := by
  rw [find?, Option.map_eq_none_iff, List.find?_eq_none]
  rintro ⟨g, region⟩ hg hsame
  refine h ?_
  rw [← beq_iff_eq.1 hsame]
  rcases List.mem_append.1 hg with hg | hg
  · exact List.mem_append_left _ (List.mem_reverse.2 (List.mem_map_of_mem hg))
  · exact List.mem_append_right _ (List.mem_reverse.2 (List.mem_map_of_mem hg))

/-- The flags of a list behind flags that were read. -/
def FlagsSoFar.Adds (f f' : FlagsSoFar) (flags : List Flag) : Prop :=
  f'.hyphen = f.hyphen ∧
    f'.toList = if f.hyphen.isNone then ⟨f.toList.set ++ flags, f.toList.cleared⟩
      else ⟨f.toList.set, f.toList.cleared ++ flags⟩

/-- Letters of flags are read one by one. -/
theorem flagList_letters {flags : List Flag} {r : Reader} {verbose : Bool} {rest : List Char}
    (h : r.At verbose (flags.map Flag.letter ++ rest)) (f : FlagsSoFar)
    (hfresh : (f.toList.set ++ f.toList.cleared ++ flags).Nodup) :
    ∃ f', flagList r f = flagList (r.behind flags.length) f' ∧ f.Adds f' flags := by
  induction flags generalizing r f with
  | nil =>
    refine ⟨f, rfl, rfl, ?_⟩
    split <;> rw [List.append_nil]
  | cons flag flags ih =>
    obtain ⟨hletter, hhyphen, hend⟩ := flag.letter_spec
    have hnew : flag ∉ f.toList.set ++ f.toList.cleared := by
      intro hmem
      have hdisjoint := (List.nodup_append.1 hfresh).2.2
      exact hdisjoint flag hmem flag List.mem_cons_self rfl
    -- The flag goes to the list that is being read.
    have hpush : pushFlag f flag.letter r.charRegion = .ok (f.push flag r.charRegion) := by
      rw [pushFlag, if_neg hhyphen, hletter]
      dsimp only
      rw [FlagsSoFar.find?_eq_none hnew]
    have hlists : (f.push flag r.charRegion).hyphen = f.hyphen ∧
        (f.push flag r.charRegion).toList = if f.hyphen.isNone then
          ⟨f.toList.set ++ [flag], f.toList.cleared⟩
          else ⟨f.toList.set, f.toList.cleared ++ [flag]⟩ := by
      rw [FlagsSoFar.push]
      split
      · refine ⟨rfl, ?_⟩
        rw [FlagsSoFar.toList, FlagsSoFar.toList, List.map_cons, List.reverse_cons]
      · refine ⟨rfl, ?_⟩
        rw [FlagsSoFar.toList, FlagsSoFar.toList, List.map_cons, List.reverse_cons]
    have hfresh' : ((f.push flag r.charRegion).toList.set ++
        (f.push flag r.charRegion).toList.cleared ++ flags).Nodup := by
      rw [hlists.2]
      split
      · refine (List.Perm.nodup_iff ?_).1 hfresh
        dsimp only
        rw [List.append_assoc, List.append_assoc, List.append_assoc]
        refine List.Perm.append_left _ ?_
        exact (List.perm_middle : (f.toList.cleared ++ flag :: flags).Perm _)
      · dsimp only
        rwa [← List.append_assoc, List.append_assoc _ [flag]]
    obtain ⟨f', hread, hkept, hadds⟩ := ih h.next (f.push flag r.charRegion) hfresh'
    have hrest := h.rest
    refine ⟨f', ?_, hkept.trans hlists.1, ?_⟩
    · rw [flagList]
      split
      · rename_i hnil
        rw [hnil] at hrest
        cases hrest
      · rename_i c p tail hcons
        rw [hcons] at hrest
        have hc : c = flag.letter := (List.cons.inj hrest).1
        dsimp only
        rw [hc, if_neg hend, hpush]
        dsimp only
        rw [Reader.advance_eq, hread, Reader.behind_behind, List.length_cons, Nat.add_comm 1]
    · rw [hadds, hlists.1, hlists.2]
      split
      · dsimp only
        rw [List.append_assoc]
        rfl
      · dsimp only
        rw [List.append_assoc]
        rfl

/-- A list of flags that is read back: no flag is named twice. -/
def FlagList.legible (l : FlagList) : Bool := decide (l.set ++ l.cleared).Nodup

/-- **A list of flags is read back,** up to a colon or a closing parenthesis. -/
theorem flagList_read {l : FlagList} (hl : l.legible = true) {r : Reader} {verbose : Bool}
    {c : Char} {rest : List Char} (h : r.At verbose (l.render ++ c :: rest))
    (hc : c = ':' ∨ c = ')') : flagList r {} = .ok (l, r.behind l.render.length) := by
  obtain ⟨set, cleared⟩ := l
  have hnodup : (set ++ cleared).Nodup := of_decide_eq_true hl
  -- At the end the list is complete, unless a hyphen has nothing behind it.
  have hend {r : Reader} {f : FlagsSoFar} (h : r.At verbose (c :: rest))
      (hf : f.hyphen = none ∨ f.toList.cleared ≠ []) : flagList r f = .ok (f.toList, r) := by
    have hrest := h.rest
    rw [flagList]
    split
    · rename_i hnil
      rw [hnil] at hrest
      cases hrest
    · rename_i d p tail hcons
      rw [hcons] at hrest
      have hd : d = c := (List.cons.inj hrest).1
      dsimp only
      rw [hd, if_pos hc]
      split
      · rename_i hhyphen hcleared
        refine absurd hf (not_or.2 ⟨?_, ?_⟩)
        · rw [hhyphen]
          exact Option.some_ne_none _
        · rw [FlagsSoFar.toList, hcleared]
          exact fun hne => hne rfl
      · rfl
  rw [FlagList.render] at h ⊢
  by_cases hcleared : cleared = []
  · subst hcleared
    have hat : r.At verbose (set.map Flag.letter ++ c :: rest) := by
      simpa only [List.isEmpty_nil, if_true, List.append_nil] using h
    obtain ⟨f, hread, hhyphen, hlists⟩ := flagList_letters hat {} (by
      rwa [List.append_nil] at hnodup)
    have hlists : f.toList = ⟨set, []⟩ := hlists
    have hpast := hat.past
    rw [List.length_map] at hpast
    rw [hread, hend hpast (.inl hhyphen), hlists, List.isEmpty_nil, if_pos rfl, List.append_nil,
      List.length_map]
  · have hne : cleared.isEmpty = false := List.isEmpty_eq_false_iff.2 hcleared
    rw [hne, if_neg Bool.false_ne_true] at h ⊢
    have hat : r.At verbose (set.map Flag.letter ++ ('-' :: (cleared.map Flag.letter ++ c :: rest))) := by
      simpa only [List.append_assoc, List.cons_append] using h
    obtain ⟨f, hread, hhyphen, hlists⟩ := flagList_letters hat {} (List.nodup_append.1 hnodup).1
    have hlists : f.toList = ⟨set, []⟩ := hlists
    have hpast := hat.past
    rw [List.length_map] at hpast
    -- The hyphen is noted, and what follows it goes to the other list.
    have hstep : flagList (r.behind set.length) f = flagList (r.behind (set.length + 1))
        { f with hyphen := some (r.behind set.length).charRegion } := by
      have hrest := hpast.rest
      rw [flagList]
      split
      · rename_i hnil
        rw [hnil] at hrest
        cases hrest
      · rename_i d p tail hcons
        rw [hcons] at hrest
        have hd : d = '-' := (List.cons.inj hrest).1
        have hpush : pushFlag f '-' (r.behind set.length).charRegion
            = .ok { f with hyphen := some (r.behind set.length).charRegion } := by
          rw [pushFlag, if_pos rfl, hhyphen]
        dsimp only
        rw [hd, if_neg (by decide), hpush]
        dsimp only
        rw [Reader.advance_eq, Reader.behind_behind]
    have hlists' : ({ f with hyphen := some (r.behind set.length).charRegion } : FlagsSoFar).toList
        = ⟨set, []⟩ := hlists
    have hat' : (r.behind (set.length + 1)).At verbose (cleared.map Flag.letter ++ c :: rest) := by
      rw [← Reader.behind_behind]
      exact hpast.next
    obtain ⟨f', hread', _, hadds⟩ := flagList_letters hat' _ (by
      rw [hlists', List.append_nil]
      exact hnodup)
    rw [hlists'] at hadds
    have hadds : f'.toList = ⟨set, cleared⟩ := hadds
    have hpast' := hat'.past
    rw [List.length_map] at hpast'
    rw [hread, hstep, hread', hend hpast' (.inr (by rw [hadds]; exact hcleared)), hadds,
      Reader.behind_behind]
    refine congrArg (fun n => Except.ok (_, r.behind n)) ?_
    rw [List.length_append, List.length_cons, List.length_map, List.length_map]
    dsimp only
    omega

/-- A list of flags begins with a letter of a flag, a hyphen, or what ends it. -/
theorem FlagList.render_cons (l : FlagList) {c : Char} (hc : c = ':' ∨ c = ')') (rest : List Char) :
    ∃ d tail, l.render ++ c :: rest = d :: tail ∧ d ≠ '=' ∧ d ≠ '!' ∧ d ≠ '<' ∧ d ≠ 'P' := by
  obtain ⟨set, cleared⟩ := l
  cases set with
  | nil =>
    cases cleared with
    | nil => rcases hc with rfl | rfl <;> exact ⟨_, _, rfl, by decide⟩
    | cons flag cleared => exact ⟨_, _, rfl, by decide⟩
  | cons flag set => exact ⟨_, _, rfl, by cases flag <;> decide⟩

/-! ## Openings -/

/-- The reader behind one more capture group. -/
def Reader.counting (r : Reader) : Reader := { r with groups := r.groups + 1 }

theorem Reader.At.counting {r : Reader} {verbose : Bool} {text : List Char}
    (h : r.At verbose text) : r.counting.At verbose text := ⟨h.verbose, h.rest⟩

theorem not_prefix_of_second {c d e : Char} {sign text : List Char} (h : d ≠ e) :
    ¬c :: e :: sign <+: c :: d :: text := by
  intro hprefix
  exact h (List.cons_prefix_cons.1 (List.cons_prefix_cons.1 hprefix).2).1.symm

/-- A question mark begins look-around only with one of its signs. -/
theorem lookAround?_eq_none {r : Reader} {verbose : Bool} {text : List Char} (h : r.At verbose text)
    (hnot : ∀ sign ∈ ["?=", "?!", "?<=", "?<!"], ¬sign.toList <+: text) : lookAround? r = none :=
  List.findSome?_eq_none_iff.2 fun sign hsign => h.after?_eq_none (hnot sign hsign)

/-- **A parenthesis without a question mark** begins a capture group. -/
theorem opening_capture {r : Reader} {verbose : Bool} {text : List Char}
    (h : r.At verbose ('(' :: text)) (hvisible : Visible verbose text)
    (htext : text.head? ≠ some '?') :
    opening r = .ok (.group r.charRegion (.capture (r.groups + 1)), (r.behind 1).counting) := by
  have hnot {sign : List Char} (hsign : sign.head? = some '?') : ¬sign <+: text := by
    rintro ⟨tail, rfl⟩
    obtain ⟨sign', rfl⟩ := List.head?_eq_some_iff.1 hsign
    exact htext rfl
  have hlook : lookAround? (r.behind 1) = none := by
    refine lookAround?_eq_none h.next fun sign hsign => hnot ?_
    have hall : (["?=", "?!", "?<=", "?<!"].all fun s => s.toList.head? == some '?') = true := rfl
    exact beq_iff_eq.1 (List.all_eq_true.1 hall sign hsign)
  have hP : ({ r.behind 1 with groups := (r.behind 1).groups + 1 } : Reader).after? "?P<".toList
      = none := h.next.counting.after?_eq_none (hnot rfl)
  have hangle : ({ r.behind 1 with groups := (r.behind 1).groups + 1 } : Reader).after? "?<".toList
      = none := h.next.counting.after?_eq_none (hnot rfl)
  have hmark : (r.behind 1).after? ['?'] = none := h.next.after?_eq_none (hnot rfl)
  rw [opening]
  dsimp only
  rw [h.advanceSkip hvisible, hlook]
  dsimp only
  rw [hP, hangle, hmark]
  rfl

/-- Behind a parenthesis and a question mark, flags are read. -/
theorem opening_flags {r : Reader} {verbose : Bool} {l : FlagList} (hl : l.legible = true)
    {c : Char} (hc : c = ':' ∨ c = ')') {rest : List Char}
    (h : r.At verbose ('(' :: '?' :: (l.render ++ c :: rest))) :
    opening r =
      if c = ')' then
        if l.set.isEmpty && l.cleared.isEmpty then fault .repetitionMissing (r.behind 1).point
        else .ok (.setFlags ⟨r.charRegion.start, (r.behind (l.render.length + 3)).place⟩ l,
          r.behind (l.render.length + 3))
      else .ok (.group r.charRegion (.flags l), r.behind (l.render.length + 3)) := by
  obtain ⟨d, tail, htext, hequal, hbang, hangle, hP⟩ := l.render_cons hc rest
  have h₁ := h.next
  have h₂ : (r.behind 2).At verbose (l.render ++ c :: rest) := h.behind 2
  have hread := flagList_read hl h₂ hc
  have hpast := h₂.past
  rw [htext] at h₁
  have hlook : lookAround? (r.behind 1) = none := by
    refine lookAround?_eq_none h₁ fun sign hsign => ?_
    simp only [List.mem_cons, List.not_mem_nil, or_false] at hsign
    rcases hsign with rfl | rfl | rfl | rfl
    · exact not_prefix_of_second hequal
    · exact not_prefix_of_second hbang
    · exact not_prefix_of_second hangle
    · exact not_prefix_of_second hangle
  have hnamed : ({ r.behind 1 with groups := (r.behind 1).groups + 1 } : Reader).after? "?P<".toList
      = none := h₁.counting.after?_eq_none (not_prefix_of_second hP)
  have hangled : ({ r.behind 1 with groups := (r.behind 1).groups + 1 } : Reader).after? "?<".toList
      = none := h₁.counting.after?_eq_none (not_prefix_of_second hangle)
  have hmark : (r.behind 1).after? ['?'] = some (r.behind 2) := by
    have hsplit : (r.behind 1).At verbose (['?'] ++ d :: tail) := h₁
    rw [hsplit.after?_append, Reader.behind_behind]
    rfl
  have hsome : (r.behind 2).peek?.isNone = false := by
    rw [h₂.peek?, htext]
    rfl
  have hpeek : ((r.behind 2).behind l.render.length).peek? = some c := hpast.peek?
  have hlast : ((r.behind 2).behind l.render.length).advance = r.behind (l.render.length + 3) := by
    rw [Reader.advance_eq, Reader.behind_behind, Reader.behind_behind]
    exact congrArg r.behind (by omega)
  rw [opening]
  dsimp only
  rw [h.advanceSkip (visible_cons.2 (isSkipped_of_seen (by decide) (by decide))), hlook]
  dsimp only
  rw [hnamed, hangled, hmark]
  dsimp only
  rw [hsome, if_neg Bool.false_ne_true, hread]
  show (if (((r.behind 2).behind l.render.length).peek? == some ')') = true then
    (if (l.set.isEmpty && l.cleared.isEmpty) = true then _ else
      Except.ok (Opening.setFlags ⟨_, (Reader.advance _).place⟩ l, Reader.advance _)) else
    Except.ok (Opening.group _ (.flags l), Reader.advance _)) = _
  rw [hpeek, hlast]
  rcases hc with rfl | rfl
  · rfl
  · rfl

/-! ## Names -/

/-- The name of a group that is read back. -/
def isName (letterP : Bool) (name : List Char) : Bool :=
  match name with
  | [] => false
  | c :: name =>
    isNameChar true c && name.all (isNameChar false) && (c :: name).all (· != '>') &&
      (letterP || c != '=' && c != '!')

/-- The characters of a name are read back. -/
theorem nameChars_read {name : List Char} {r : Reader} {verbose : Bool} {rest : List Char}
    (h : r.At verbose (name ++ '>' :: rest)) (hname : ∀ c ∈ name, isNameChar false c = true)
    (hend : ∀ c ∈ name, c ≠ '>') {before : List Char} (hbefore : before ≠ []) :
    nameChars r before = .ok (before ++ name, r.behind name.length) := by
  induction name generalizing r before with
  | nil =>
    have hrest := h.rest
    rw [nameChars]
    split
    · rename_i hnil
      rw [hnil] at hrest
      cases hrest
    · rename_i c p tail hcons
      rw [hcons] at hrest
      dsimp only
      rw [if_pos (List.cons.inj hrest).1, List.append_nil]
      rfl
  | cons c name ih =>
    obtain ⟨hc, hmore⟩ := List.forall_mem_cons.1 hname
    obtain ⟨hcend, hend⟩ := List.forall_mem_cons.1 hend
    have hrest := h.rest
    have hempty : before.isEmpty = false := List.isEmpty_eq_false_iff.2 hbefore
    rw [nameChars]
    split
    · rename_i hnil
      rw [hnil] at hrest
      cases hrest
    · rename_i d p tail hcons
      rw [hcons] at hrest
      have hd : d = c := (List.cons.inj hrest).1
      dsimp only
      rw [hd, if_neg hcend, hempty, if_pos hc, Reader.advance_eq,
        ih h.next hmore hend (List.append_ne_nil_of_right_ne_nil _ (List.cons_ne_nil _ _)),
        Reader.behind_behind, List.append_assoc, List.length_cons, Nat.add_comm 1]
      rfl

/-- The reader that has been given one more name. -/
def Reader.naming (r : Reader) (name : List Char) (region : Region) : Reader :=
  { r with names := (name, region) :: r.names }

/-- The name was given before. -/
def Reader.knows (r : Reader) (name : List Char) : Bool := r.names.any fun (n, _) => n == name

/-- **The name of a group is read back** if it was not given before; otherwise it is a
fault. -/
theorem groupName_read {letterP : Bool} {name : List Char} (hname : isName letterP name = true)
    {r : Reader} {verbose : Bool} {rest : List Char} (h : r.At verbose (name ++ '>' :: rest)) :
    (r.knows name = false ∧ ∃ region,
      groupName r = .ok (name, (r.behind (name.length + 1)).naming name region)) ∨
    (r.knows name = true ∧ ∃ f, groupName r = .error f) := by
  cases name with
  | nil => cases hname
  | cons c name =>
    rw [isName, Bool.and_eq_true, Bool.and_eq_true, Bool.and_eq_true, List.all_eq_true,
      List.all_eq_true] at hname
    obtain ⟨⟨⟨hfirst, hmore⟩, hend⟩, _⟩ := hname
    have hend : ∀ d ∈ c :: name, d ≠ '>' := fun d hd => bne_iff_ne.1 (hend d hd)
    obtain ⟨hc, hend⟩ := List.forall_mem_cons.1 hend
    have hchars : nameChars r [] = .ok (c :: name, r.behind (name.length + 1)) := by
      have hrest := h.rest
      rw [nameChars]
      split
      · rename_i hnil
        rw [hnil] at hrest
        cases hrest
      · rename_i d p tail hcons
        rw [hcons] at hrest
        have hd : d = c := (List.cons.inj hrest).1
        dsimp only
        rw [hd, if_neg hc, List.isEmpty_nil, if_pos hfirst, Reader.advance_eq, List.nil_append,
          nameChars_read h.next hmore hend (List.cons_ne_nil _ _), Reader.behind_behind,
          Nat.add_comm 1]
        rfl
    have hlast : (r.behind (name.length + 1)).advance = r.behind ((c :: name).length + 1) := by
      rw [Reader.advance_eq, Reader.behind_behind]
      rfl
    -- The name is looked for among those given before.
    have hread : groupName r = (r.names.find? fun (n, _) => n == c :: name).elim
        (.ok (c :: name, (r.behind ((c :: name).length + 1)).naming (c :: name)
          ⟨r.place, (r.behind (name.length + 1)).place⟩))
        (fun known => .error ⟨.groupNameDuplicate,
          ⟨r.place, (r.behind (name.length + 1)).place⟩, some known.2⟩) := by
      have hnames : (r.behind ((c :: name).length + 1)).names = r.names := rfl
      rw [groupName, hchars, ok_bind]
      dsimp only
      rw [hlast, List.isEmpty_cons, if_neg Bool.false_ne_true, hnames]
      cases r.names.find? fun (n, _) => n == c :: name <;> rfl
    cases hfind : r.names.find? fun (n, _) => n == c :: name with
    | none =>
      rw [hfind] at hread
      refine .inl ⟨?_, _, hread⟩
      rw [Reader.knows, List.any_eq_false]
      exact List.find?_eq_none.1 hfind
    | some earlier =>
      obtain ⟨n, region⟩ := earlier
      have hsame := List.find?_some hfind
      rw [hfind] at hread
      refine .inr ⟨?_, _, hread⟩
      rw [Reader.knows, List.any_eq_true]
      exact ⟨(n, region), List.mem_of_find?_eq_some hfind, hsame⟩

/-- Behind the sign of a name a name is read, and its group has been counted. -/
theorem opening_sign {letterP : Bool} {name : List Char} (hname : isName letterP name = true)
    {index : Nat} {r : Reader} {verbose : Bool} {rest : List Char}
    (h : r.At verbose ((GroupKind.named index letterP name).render ++ rest)) :
    ∃ signs, (GroupKind.named index letterP name).render.length = signs + (name.length + 1) ∧
      (r.behind signs).At verbose (name ++ '>' :: rest) ∧
      opening r = ((groupName (r.behind signs).counting).bind fun (name, r') =>
        .ok (.group r.charRegion (.named r'.groups letterP name), r')) := by
  have hquestion : Visible verbose ('?' :: rest) :=
    visible_cons.2 (isSkipped_of_seen (by decide) (by decide))
  rw [GroupKind.render, List.append_assoc, List.append_assoc] at h
  cases letterP with
  | true =>
    have hopen : r.At verbose ('(' :: ("?P<".toList ++ (name ++ '>' :: rest))) := h
    have hlook : lookAround? (r.behind 1) = none := by
      refine lookAround?_eq_none hopen.next fun sign hsign => ?_
      simp only [List.mem_cons, List.not_mem_nil, or_false] at hsign
      rcases hsign with rfl | rfl | rfl | rfl <;> exact not_prefix_of_second (by decide)
    have hsign : (r.behind 1).counting.after? "?P<".toList = some (r.behind 4).counting := by
      rw [hopen.next.counting.after?_append]
      exact congrArg (fun r : Reader => some r.counting) (r.behind_behind 1 3)
    refine ⟨4, ?_, hopen.behind 4, ?_⟩
    · rw [GroupKind.render, List.length_append, List.length_append]
      exact Nat.add_assoc 4 name.length 1
    · rw [Reader.counting] at hsign
      rw [opening]
      dsimp only
      rw [hopen.advanceSkip hquestion, hlook]
      dsimp only
      rw [hsign]
      rfl
  | false =>
    have hopen : r.At verbose ('(' :: ("?<".toList ++ (name ++ '>' :: rest))) := h
    have hlook : lookAround? (r.behind 1) = none := by
      refine lookAround?_eq_none hopen.next fun sign hsign => ?_
      cases name with
      | nil => cases hname
      | cons c name =>
        -- The name does not begin with one of the signs of look-around.
        rw [isName, Bool.false_or, Bool.and_eq_true, Bool.and_eq_true (c != '='), bne_iff_ne,
          bne_iff_ne] at hname
        have hthird {d : Char} (hd : c ≠ d) (text : List Char) :
            ¬['?', '<', d] <+: '?' :: '<' :: c :: text := fun hprefix =>
          not_prefix_of_second hd (List.cons_prefix_cons.1 hprefix).2
        simp only [List.mem_cons, List.not_mem_nil, or_false] at hsign
        rcases hsign with rfl | rfl | rfl | rfl
        · exact not_prefix_of_second (by decide)
        · exact not_prefix_of_second (by decide)
        · exact hthird hname.2.1 _
        · exact hthird hname.2.2 _
    have hother : (r.behind 1).counting.after? "?P<".toList = none :=
      hopen.next.counting.after?_eq_none (not_prefix_of_second (by decide))
    have hsign : (r.behind 1).counting.after? "?<".toList = some (r.behind 3).counting := by
      rw [hopen.next.counting.after?_append]
      exact congrArg (fun r : Reader => some r.counting) (r.behind_behind 1 2)
    refine ⟨3, ?_, hopen.behind 3, ?_⟩
    · rw [GroupKind.render, List.length_append, List.length_append]
      exact Nat.add_assoc 3 name.length 1
    · rw [Reader.counting] at hother hsign
      rw [opening]
      dsimp only
      rw [hopen.advanceSkip hquestion, hlook]
      dsimp only
      rw [hother, hsign]
      rfl

/-- **A group with a name** is opened if the name was not given before; otherwise it is a
fault. -/
theorem opening_named {letterP : Bool} {name : List Char} (hname : isName letterP name = true)
    {index : Nat} {r : Reader} {verbose : Bool} {rest : List Char}
    (h : r.At verbose ((GroupKind.named index letterP name).render ++ rest)) :
    (r.knows name = false ∧ ∃ region, opening r = .ok
      (.group r.charRegion (.named (r.groups + 1) letterP name),
        ((r.behind (GroupKind.named index letterP name).render.length).counting).naming
          name region)) ∨
    (r.knows name = true ∧ ∃ f, opening r = .error f) := by
  obtain ⟨signs, hlength, hat, hread⟩ := opening_sign hname h
  rcases groupName_read hname hat.counting with ⟨hnew, region, hok⟩ | ⟨hknown, f, herror⟩
  · refine .inl ⟨hnew, region, ?_⟩
    rw [hread, hok, hlength, ← Reader.behind_behind r signs]
    rfl
  · refine .inr ⟨hknown, f, ?_⟩
    rw [hread, herror]
    rfl

/-! ## Counts -/

/-- A digit is no blank, and is neither a comma nor a brace. -/
theorem isDigit_spec {c : Char} (h : c.isDigit = true) (verbose : Bool) :
    isSkipped verbose c = false ∧ CharSet.space.contains c = false := by
  rw [Char.isDigit, Bool.and_eq_true, decide_eq_true_iff, decide_eq_true_iff] at h
  have h0 : 0x30 ≤ c.toNat := h.1
  have h9 : c.toNat ≤ 0x39 := h.2
  have hseen (verbose : Bool) : isSkipped verbose c = false := by
    refine isSkipped_of_seen ⟨by omega, by omega⟩ ?_
    rintro rfl
    exact absurd h0 (by decide)
  have hspace := hseen true
  rw [isSkipped, Bool.true_and, Bool.or_eq_false_iff] at hspace
  exact ⟨hseen verbose, hspace.1⟩

/-- No space is skipped in front of what is none. -/
theorem skipSpaces_eq {r : Reader} {verbose : Bool} {c : Char} {text : List Char}
    (h : r.At verbose (c :: text)) (hc : CharSet.space.contains c = false) : skipSpaces r = r := by
  have hdrop : r.rest.dropWhile (fun x => CharSet.space.contains x.1) = r.rest := by
    have hrest := h.rest
    cases hr : r.rest with
    | nil => rfl
    | cons x tail =>
      rw [hr] at hrest
      have hx : x.1 = c := (List.cons.inj hrest).1
      rw [List.dropWhile_cons, hx, hc, if_neg Bool.false_ne_true]
  rw [skipSpaces]
  exact congrArg (fun rest => ({ r with rest := rest } : Reader)) hdrop

/-- A number begins with a digit. -/
theorem numeral_cons (n : Nat) : ∃ d digits, (toString n).toList = d :: digits ∧
    d.isDigit = true := by
  have hnumeral : (toString n).toList = Nat.toDigits 10 n := Nat.toList_repr
  obtain ⟨d, digits, hcons⟩ :=
    List.exists_cons_of_ne_nil (Nat.toDigits_ne_nil : Nat.toDigits 10 n ≠ [])
  have hmem : d ∈ Nat.toDigits 10 n := by
    rw [hcons]
    exact List.mem_cons_self
  exact ⟨d, digits, hnumeral.trans hcons, Nat.isDigit_of_mem_toDigits (by decide) (by decide) hmem⟩

theorem visible_numeral (n : Nat) (text : List Char) (verbose : Bool) :
    Visible verbose ((toString n).toList ++ text) := by
  obtain ⟨d, digits, hcons, hdigit⟩ := numeral_cons n
  rw [hcons]
  exact visible_cons.2 (isDigit_spec hdigit verbose).1

/-- **A count is read back** if it is small enough. -/
theorem count_read {n : Nat} (hn : n ≤ greatestCount) {r : Reader} {verbose : Bool} {c : Char}
    {rest : List Char} (h : r.At verbose ((toString n).toList ++ c :: rest))
    (hc : c = ',' ∨ c = '}') : count r = (.ok n, r.behind (toString n).toList.length) := by
  have hnumeral : (toString n).toList = Nat.toDigits 10 n := Nat.toList_repr
  rw [hnumeral] at h ⊢
  have hdigits : ∀ d ∈ Nat.toDigits 10 n, d.isDigit = true :=
    fun d hd => Nat.isDigit_of_mem_toDigits (by decide) (by decide) hd
  have hend : c.isDigit = false ∧ isSkipped verbose c = false ∧
      CharSet.space.contains c = false := by
    rcases hc with rfl | rfl
    · exact ⟨rfl, isSkipped_of_seen (by decide) (by decide), by decide⟩
    · exact ⟨rfl, isSkipped_of_seen (by decide) (by decide), by decide⟩
  have hne : Nat.toDigits 10 n ≠ [] := Nat.toDigits_ne_nil
  have hfirst : skipSpaces r = r := by
    obtain ⟨d, digits, hcons, hdigit⟩ := numeral_cons n
    rw [← hnumeral, hcons] at h
    exact skipSpaces_eq h (isDigit_spec hdigit verbose).2
  have hlast : skipSpaces (r.behind (Nat.toDigits 10 n).length)
      = r.behind (Nat.toDigits 10 n).length := skipSpaces_eq h.past hend.2.2
  have hvalue : (Nat.toDigits 10 n).foldl (fun n d => 10 * n + (d.toNat - '0'.toNat)) 0 = n := by
    rw [← Nat.ofDigitChars_eq_foldl]
    exact Nat.ofDigitChars_toDigits (by decide) (by decide)
  rw [count]
  dsimp only
  rw [hfirst, h.readWhile hdigits (fun d hd => (isDigit_spec (hdigits d hd) verbose).1) hend.1
    hend.2.1, List.nil_append, hlast, hvalue,
    List.isEmpty_eq_false_iff.2 hne, if_neg Bool.false_ne_true, if_pos hn]

/-! ## Operators -/

/-- What an operator in braces has between them. -/
def RepeatOp.counts? : RepeatOp → Option (List Char)
  | .exactly n => some (toString n).toList
  | .atLeast n => some ((toString n).toList ++ [','])
  | .between m n => some ((toString m).toList ++ ',' :: (toString n).toList)
  | _ => none

/-- An operator that is read back: its counts are small enough, and in order. -/
def RepeatOp.legible (op : RepeatOp) : Bool :=
  op.isOrdered && match op with
    | .exactly n => decide (n ≤ greatestCount)
    | .atLeast n => decide (n ≤ greatestCount)
    | .between m n => decide (m ≤ greatestCount) && decide (n ≤ greatestCount)
    | _ => true

theorem RepeatOp.render_counts {op : RepeatOp} {counts : List Char} (h : op.counts? = some counts)
    (greedy : Bool) : op.render greedy
      = '{' :: (counts ++ '}' :: if greedy then [] else ['?']) := by
  cases op with
  | optional => cases h
  | star => cases h
  | plus => cases h
  | exactly n =>
    rw [← Option.some.inj h, RepeatOp.render, List.cons_append, List.append_assoc]
    rfl
  | atLeast n =>
    rw [← Option.some.inj h, RepeatOp.render, List.cons_append, List.append_assoc,
      List.append_assoc]
    rfl
  | between m n =>
    rw [← Option.some.inj h, RepeatOp.render, List.cons_append, List.append_assoc,
      List.append_assoc, List.append_assoc]
    rfl

/-- **The operator between braces is read back.** -/
theorem countedOp_read {op : RepeatOp} (hop : op.legible = true) {counts : List Char}
    (hcounts : op.counts? = some counts) {r : Reader} {verbose : Bool} {rest : List Char}
    (h : r.At verbose (counts ++ '}' :: rest)) (start : Place) :
    countedOp start r = .ok (op, r.behind counts.length) := by
  have hpeeked {r : Reader} {text : List Char} {c : Char} {more : List Char}
      (h : r.At verbose (text ++ c :: more)) : r.peek?.isNone = false := by
    rw [h.peek?]
    cases text <;> rfl
  cases op with
  | optional => cases hcounts
  | star => cases hcounts
  | plus => cases hcounts
  | exactly n =>
    cases Option.some.inj hcounts
    rw [RepeatOp.legible, Bool.and_eq_true, decide_eq_true_iff] at hop
    have hbehind : (r.behind (toString n).toList.length).peek? = some '}' := h.past.peek?
    rw [countedOp, hpeeked h, if_neg Bool.false_ne_true, count_read hop.2 h (.inr rfl)]
    dsimp only
    rw [hbehind]
    rfl
  | atLeast n =>
    cases Option.some.inj hcounts
    rw [RepeatOp.legible, Bool.and_eq_true, decide_eq_true_iff] at hop
    rw [List.append_assoc, List.singleton_append] at h
    have hbehind : (r.behind (toString n).toList.length).peek? = some ',' := h.past.peek?
    have hadvance : (r.behind (toString n).toList.length).advanceSkip
        = r.behind ((toString n).toList ++ [',']).length := by
      rw [h.past.advanceSkip (visible_cons.2 (isSkipped_of_seen (by decide) (by decide))),
        Reader.behind_behind, List.length_append]
      rfl
    have hbrace : (r.behind ((toString n).toList ++ [',']).length).peek? = some '}' := by
      rw [List.length_append, ← Reader.behind_behind]
      exact h.past.next.peek?
    rw [countedOp, hpeeked h, if_neg Bool.false_ne_true, count_read hop.2 h (.inl rfl)]
    dsimp only
    rw [hbehind, hadvance, hbrace]
    rfl
  | between m n =>
    cases Option.some.inj hcounts
    rw [RepeatOp.legible, Bool.and_eq_true, Bool.and_eq_true, decide_eq_true_iff,
      decide_eq_true_iff] at hop
    obtain ⟨_, hm, hn⟩ := hop
    rw [List.append_assoc, List.cons_append] at h
    have hbehind : (r.behind (toString m).toList.length).peek? = some ',' := h.past.peek?
    have hnext : ((r.behind (toString m).toList.length).behind 1).At verbose
        ((toString n).toList ++ '}' :: rest) := h.past.next
    obtain ⟨d, digits, hcons, hdigit⟩ := numeral_cons n
    have hpeek : ((r.behind (toString m).toList.length).behind 1).peek? = some d := by
      rw [hnext.peek?, hcons]
      rfl
    have hbrace : ¬(some d = some '}') := by
      intro hd
      rw [Option.some.inj hd] at hdigit
      cases hdigit
    have hlength : ((r.behind (toString m).toList.length).behind 1).behind
        (toString n).toList.length = r.behind ((toString m).toList ++ ',' :: (toString n).toList).length := by
      rw [Reader.behind_behind, Reader.behind_behind, List.length_append, List.length_cons]
      exact congrArg r.behind (by omega)
    rw [countedOp, hpeeked h, if_neg Bool.false_ne_true, count_read hm h (.inl rfl)]
    dsimp only
    rw [hbehind, h.past.advanceSkip (visible_numeral n _ verbose), hpeek, count_read hn hnext (.inr rfl), hlength]
    simp only [Option.isNone_some, Bool.false_eq_true, if_false, if_true, hbrace]
    rfl

/-- Behind an operator, a question mark is there if the operator is lazy. -/
theorem peek?_lazy {greedy : Bool} {r : Reader} {verbose : Bool} {rest : List Char}
    (h : r.At verbose ((if greedy then [] else ['?']) ++ rest))
    (hrest : greedy = true → rest.head? ≠ some '?') : (r.peek? == some '?') = !greedy := by
  rw [h.peek?]
  cases greedy with
  | true => exact beq_eq_false_iff_ne.2 (hrest rfl)
  | false => rfl

/-- **An operator in braces is read back,** whether or not it is lazy. -/
theorem counted_read {op : RepeatOp} (hop : op.legible = true) {counts : List Char}
    (hcounts : op.counts? = some counts) {greedy : Bool} {r : Reader} {verbose : Bool}
    {rest : List Char} (h : r.At verbose (op.render greedy ++ rest))
    (hvisible : Visible verbose rest) (hrest : greedy = true → rest.head? ≠ some '?') :
    counted r = .ok (⟨op, greedy⟩, r.behind (op.render greedy).length) := by
  have hlength : (op.render greedy).length
      = 1 + counts.length + 1 + (if greedy then [] else ['?']).length := by
    rw [RepeatOp.render_counts hcounts, List.length_cons, List.length_append, List.length_cons]
    omega
  rw [RepeatOp.render_counts hcounts, List.cons_append, List.append_assoc, List.cons_append] at h
  have hinner : Visible verbose (counts ++ '}' :: ((if greedy then [] else ['?']) ++ rest)) := by
    cases op with
    | optional => cases hcounts
    | star => cases hcounts
    | plus => cases hcounts
    | exactly n =>
      cases Option.some.inj hcounts
      exact visible_numeral n _ verbose
    | atLeast n =>
      cases Option.some.inj hcounts
      rw [List.append_assoc]
      exact visible_numeral n _ verbose
    | between m n =>
      cases Option.some.inj hcounts
      rw [List.append_assoc]
      exact visible_numeral m _ verbose
  have hbehind : Visible verbose ((if greedy then [] else ['?']) ++ rest) := by
    cases greedy with
    | true => exact hvisible
    | false => exact visible_cons.2 (isSkipped_of_seen (by decide) (by decide))
  have hbrace : ((r.behind 1).behind counts.length).peek? = some '}' := h.next.past.peek?
  have hlast := h.next.past.next
  have hlazy := peek?_lazy hlast hrest
  rw [counted]
  dsimp only
  rw [h.advanceSkip hinner, countedOp_read hop hcounts h.next]
  show (if ((r.behind 1).behind counts.length).peek? = some '}' then _ else _) = _
  rw [hbrace, if_pos rfl, h.next.past.advanceSkip hbehind, hlazy]
  have hordered : op.isOrdered = true := (Bool.and_eq_true_iff.1 hop).1
  rw [if_pos hordered, Bool.not_not, hlength, Reader.behind_behind, Reader.behind_behind]
  cases greedy with
  | true => rfl
  | false => rw [Bool.not_false, if_pos rfl, Reader.advance_eq, Reader.behind_behind]; rfl

/-- **An operator of one sign is read back,** whether or not it is lazy. -/
theorem signed_read {op : RepeatOp} {c : Char} {greedy : Bool}
    {r : Reader} {verbose : Bool} {rest : List Char}
    (h : r.At verbose (c :: ((if greedy then [] else ['?']) ++ rest)))
    (hrest : greedy = true → rest.head? ≠ some '?') :
    signed op r = (⟨op, greedy⟩, r.behind (1 + (if greedy then [] else ['?']).length)) := by
  have hlazy := peek?_lazy h.next hrest
  rw [signed, Reader.advance_eq]
  cases greedy with
  | true =>
    rw [Bool.not_true, beq_eq_false_iff_ne] at hlazy
    rw [if_neg hlazy]
    rfl
  | false =>
    rw [Bool.not_false, beq_iff_eq] at hlazy
    rw [if_pos hlazy, Reader.advance_eq, Reader.behind_behind]
    rfl

end StatefulLexer.Regex
