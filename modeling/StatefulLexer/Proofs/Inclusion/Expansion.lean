/-
What taking over means.

A directive stands for the rules of another state, and those of the states that are
taken over there. Written down as a recursion, a list is expanded from the left; at the
first directive for a state, the list of that state is expanded in its place, and all
further directives for it give nothing. Shared rules belong to every list already, so
they are left out of the lists that come in.

`Expansion` says this, and no more: there is no list of entries in the middle of which
others are put. It can be read off directly which states are taken over, namely those
that can be reached, and which rules there are, namely those of the states.

Main statements: `Expansion.unique`, `Expansion.mem_new_iff`, `Expansion.mem_iff`.
-/
import Mathlib.Data.List.Nodup
import Mathlib.Logic.Relation
import StatefulLexer.Inclusion

set_option autoImplicit false

namespace StatefulLexer

namespace LocatedEntry

/-- The entry is a rule, and no directive. -/
def isRule : LocatedEntry → Bool
  | rule _ _ => true
  | splice _ => false

/-- The entry is a rule that belongs to every state. -/
def isShared : LocatedEntry → Bool
  | rule origin _ => origin.owner.isNone
  | splice _ => false

end LocatedEntry

namespace EntryList

/-- What a list brings in where it is taken over: all but the shared rules. -/
def own (q : EntryList) : List LocatedEntry := q.entries.filter fun e => !e.isShared

theorem mem_own_iff {q : EntryList} {e : LocatedEntry} :
    e ∈ q.own ↔ e ∈ q.entries ∧ e.isShared = false := by
  rw [own, List.mem_filter, Bool.not_eq_true']

/-- A directive is never left out. -/
theorem splice_mem_own_iff {q : EntryList} {target : String} :
    .splice target ∈ q.own ↔ .splice target ∈ q.entries := by
  rw [mem_own_iff]
  exact and_iff_left rfl

/-- **A state includes another one** if there is a directive for it among its entries. -/
def Includes (lists : List EntryList) (a b : String) : Prop :=
  ∃ q ∈ lists, q.name = a ∧ .splice b ∈ q.entries

/-- A state is reached from another one through directives. -/
def Reaches (lists : List EntryList) : String → String → Prop :=
  Relation.ReflTransGen (Includes lists)

/-- **The expansion of a list** of the state `name`, where the states `taken` were taken
over before: what it gives, and the states that are taken over for it, last one first. -/
inductive Expansion (lists : List EntryList) (name : String) :
    List String → List LocatedEntry → List LocatedEntry → List String → Prop
  | nil (taken : List String) : Expansion lists name taken [] [] []
  | rule {taken : List String} {todo out : List LocatedEntry} {new : List String} (origin : Origin)
    (decl : RuleDecl) : Expansion lists name taken todo out new →
      Expansion lists name taken (.rule origin decl :: todo) (.rule origin decl :: out) new
  /-- The state itself, and those that were taken over, are not taken over again. -/
  | again {taken : List String} {todo out : List LocatedEntry} {new : List String}
    {target : String} : target = name ∨ target ∈ taken → Expansion lists name taken todo out new →
      Expansion lists name taken (.splice target :: todo) out new
  | splice {taken : List String} {todo inner out : List LocatedEntry} {new more : List String}
    {q : EntryList} : q ∈ lists → q.name ≠ name → q.name ∉ taken →
      Expansion lists name (q.name :: taken) q.own inner new →
      Expansion lists name (new ++ q.name :: taken) todo out more →
      Expansion lists name taken (.splice q.name :: todo) (inner ++ out) (more ++ new ++ [q.name])

namespace Expansion

variable {lists : List EntryList} {name : String} {taken new : List String}
  {todo out : List LocatedEntry}

/-! ## One after the other -/

/-- The expansion of two lists is that of the first, and of the second behind it. -/
theorem of_append {front back : List LocatedEntry}
    (h : Expansion lists name taken (front ++ back) out new) :
    ∃ out₁ out₂ new₁ new₂, Expansion lists name taken front out₁ new₁ ∧
      Expansion lists name (new₁ ++ taken) back out₂ new₂ ∧ out = out₁ ++ out₂ ∧
      new = new₂ ++ new₁ := by
  induction front generalizing taken out new with
  | nil => exact ⟨[], out, [], new, .nil taken, h, rfl, (List.append_nil new).symm⟩
  | cons e front ih =>
    cases h with
    | rule origin decl h =>
      obtain ⟨out₁, out₂, new₁, new₂, h₁, h₂, rfl, rfl⟩ := ih h
      exact ⟨_, out₂, new₁, new₂, .rule origin decl h₁, h₂, rfl, rfl⟩
    | again htarget h =>
      obtain ⟨out₁, out₂, new₁, new₂, h₁, h₂, rfl, rfl⟩ := ih h
      exact ⟨out₁, out₂, new₁, new₂, .again htarget h₁, h₂, rfl, rfl⟩
    | @splice _ _ inner _ more _ q hq hname htaken hinner h =>
      obtain ⟨out₁, out₂, new₁, new₂, h₁, h₂, rfl, rfl⟩ := ih h
      refine ⟨inner ++ out₁, out₂, new₁ ++ more ++ [q.name], new₂,
        .splice hq hname htaken hinner h₁, ?_, (List.append_assoc ..).symm, ?_⟩
      · rw [List.append_assoc, List.append_assoc]
        exact h₂
      · simp only [List.append_assoc]

/-- **There is one expansion at most.** -/
theorem unique (hnames : (lists.map (·.name)).Nodup)
    (h : Expansion lists name taken todo out new) {out' : List LocatedEntry}
    {new' : List String} (h' : Expansion lists name taken todo out' new') :
    out' = out ∧ new' = new := by
  induction h generalizing out' new' with
  | nil taken =>
    cases h'
    exact ⟨rfl, rfl⟩
  | rule origin decl _ ih =>
    cases h' with
    | rule _ _ h' =>
      obtain ⟨rfl, rfl⟩ := ih h'
      exact ⟨rfl, rfl⟩
  | again htarget _ ih =>
    cases h' with
    | again _ h' => exact ih h'
    | splice _ hname htaken _ _ => exact absurd htarget (not_or.2 ⟨hname, htaken⟩)
  | @splice _ _ _ _ _ _ q hq hname htaken _ _ ih_inner ih =>
    generalize htarget : q.name = target at h'
    cases h' with
    | again hagain _ =>
      rw [← htarget] at hagain
      exact absurd hagain (not_or.2 ⟨hname, htaken⟩)
    | @splice _ _ _ _ _ _ q' hq' _ _ hinner' h' =>
      -- Two lists of one name are the same.
      have hsame : q' = q := List.inj_on_of_nodup_map hnames hq' hq htarget.symm
      subst hsame
      obtain ⟨rfl, rfl⟩ := ih_inner hinner'
      obtain ⟨rfl, rfl⟩ := ih h'
      exact ⟨rfl, rfl⟩

/-! ## The states that are taken over -/

/-- Every directive is for a state that has been taken over then. -/
theorem mem_of_splice (h : Expansion lists name taken todo out new) {target : String}
    (htarget : .splice target ∈ todo) : target = name ∨ target ∈ new ++ taken := by
  induction h with
  | nil taken => cases htarget
  | rule origin decl _ ih =>
    rcases List.mem_cons.1 htarget with heq | htarget
    · cases heq
    · exact ih htarget
  | again hagain _ ih =>
    rcases List.mem_cons.1 htarget with heq | htarget
    · cases heq
      exact hagain.imp_right (List.mem_append_right _)
    · exact ih htarget
  | @splice _ _ _ _ _ _ q _ _ _ _ _ _ ih =>
    rcases List.mem_cons.1 htarget with heq | htarget
    · cases heq
      exact .inr (List.mem_append_left _ (List.mem_append_right _ List.mem_cons_self))
    · rw [List.append_assoc, List.append_assoc]
      exact ih htarget

/-- **Each state is taken over once,** and the state itself is not. -/
theorem nodup_new (h : Expansion lists name taken todo out new) :
    new.Nodup ∧ ∀ b ∈ new, b ≠ name ∧ b ∉ taken ∧ ∃ q ∈ lists, q.name = b := by
  induction h with
  | nil taken => exact ⟨.nil, nofun⟩
  | rule origin decl _ ih => exact ih
  | again _ _ ih => exact ih
  | @splice taken _ _ _ new more q hq hname htaken _ _ ih_inner ih =>
    obtain ⟨hnew, hnew_mem⟩ := ih_inner
    obtain ⟨hmore, hmore_mem⟩ := ih
    refine ⟨?_, fun b hb => ?_⟩
    · rw [List.nodup_append, List.nodup_append]
      refine ⟨⟨hmore, hnew, ?_⟩, List.nodup_singleton _, ?_⟩
      · rintro b hb _ hc rfl
        exact (hmore_mem b hb).2.1 (List.mem_append_left _ hc)
      · rintro b hb _ hc rfl
        rw [List.mem_singleton] at hc
        rcases List.mem_append.1 hb with hb | hb
        · exact (hmore_mem b hb).2.1 (List.mem_append_right _ (by rw [hc]; exact List.mem_cons_self))
        · exact (hnew_mem b hb).2.1 (by rw [hc]; exact List.mem_cons_self)
    · rcases List.mem_append.1 hb with hb | hb
      · rcases List.mem_append.1 hb with hb | hb
        · obtain ⟨hne, hnot, hknown⟩ := hmore_mem b hb
          exact ⟨hne, fun h => hnot (List.mem_append_right _ (List.mem_cons_of_mem _ h)), hknown⟩
        · obtain ⟨hne, hnot, hknown⟩ := hnew_mem b hb
          exact ⟨hne, fun h => hnot (List.mem_cons_of_mem _ h), hknown⟩
      · rw [List.mem_singleton.1 hb]
        exact ⟨hname, htaken, q, hq, rfl⟩

/-- What a state includes that is taken over is taken over as well. -/
theorem mem_of_includes (hnames : (lists.map (·.name)).Nodup)
    (h : Expansion lists name taken todo out new) {b c : String} (hb : b ∈ new)
    (hc : Includes lists b c) : c = name ∨ c ∈ new ++ taken := by
  induction h with
  | nil taken => cases hb
  | rule origin decl _ ih => exact ih hb
  | again _ _ ih => exact ih hb
  | @splice taken _ _ _ new more q hq _ _ hinner _ ih_inner ih =>
    -- What has been taken over behind the inner list has been taken over in the end.
    have later : c = name ∨ c ∈ new ++ q.name :: taken →
        c = name ∨ c ∈ more ++ new ++ [q.name] ++ taken := by
      rw [List.append_assoc, List.append_assoc]
      exact Or.imp_right (List.mem_append_right more)
    rcases List.mem_append.1 hb with hb | hb
    · rcases List.mem_append.1 hb with hb | hb
      · rw [List.append_assoc, List.append_assoc]
        exact ih hb
      · exact later (ih_inner hb)
    · obtain ⟨q', hq', hname, hsplice⟩ := hc
      rw [List.mem_singleton] at hb
      have hsame : q' = q := List.inj_on_of_nodup_map hnames hq' hq (hname.trans hb)
      rw [hsame] at hsplice
      exact later (hinner.mem_of_splice (splice_mem_own_iff.2 hsplice))

/-- Only states that can be reached are taken over. -/
theorem reaches_of_mem (h : Expansion lists name taken todo out new)
    (htodo : ∀ target, .splice target ∈ todo → Reaches lists name target) :
    ∀ b ∈ new, Reaches lists name b := by
  induction h with
  | nil taken => exact nofun
  | rule origin decl _ ih => exact ih fun target h => htodo target (List.mem_cons_of_mem _ h)
  | again _ _ ih => exact ih fun target h => htodo target (List.mem_cons_of_mem _ h)
  | @splice _ _ _ _ _ _ q hq _ _ _ _ ih_inner ih =>
    have hreach : Reaches lists name q.name := htodo q.name List.mem_cons_self
    intro b hb
    rcases List.mem_append.1 hb with hb | hb
    · rcases List.mem_append.1 hb with hb | hb
      · exact ih (fun target h => htodo target (List.mem_cons_of_mem _ h)) b hb
      · refine ih_inner (fun target h => ?_) b hb
        exact hreach.tail ⟨q, hq, rfl, splice_mem_own_iff.1 h⟩
    · rw [List.mem_singleton.1 hb]
      exact hreach

/-- **The states that are taken over** for the list of a state are the others that it
reaches. -/
theorem mem_new_iff (hnames : (lists.map (·.name)).Nodup) {s : EntryList} (hs : s ∈ lists)
    (h : Expansion lists s.name [] s.entries out new) (b : String) :
    b ∈ new ↔ b ≠ s.name ∧ Reaches lists s.name b := by
  constructor
  · intro hb
    refine ⟨(h.nodup_new.2 b hb).1, h.reaches_of_mem (fun target htarget => ?_) b hb⟩
    exact .single ⟨s, hs, rfl, htarget⟩
  · rintro ⟨hne, hreach⟩
    -- The state and what is taken over for it include nothing else.
    have hclosed : b = s.name ∨ b ∈ new := by
      induction hreach with
      | refl => exact .inl rfl
      | @tail b c _ hc ih =>
        have hmem : c = s.name ∨ c ∈ new ++ [] := by
          by_cases hb : b = s.name
          · obtain ⟨q, hq, hname, hsplice⟩ := hc
            have hsame : q = s := List.inj_on_of_nodup_map hnames hq hs (hname.trans hb)
            rw [hsame] at hsplice
            exact h.mem_of_splice hsplice
          · exact h.mem_of_includes hnames ((ih hb).resolve_left hb) hc
        rw [List.append_nil] at hmem
        exact hmem
    exact hclosed.resolve_left hne

/-! ## The rules -/

/-- What is given are the rules of the list, and the own rules of the states that are taken
over. -/
theorem mem_out_iff (hnames : (lists.map (·.name)).Nodup)
    (h : Expansion lists name taken todo out new) (e : LocatedEntry) :
    e ∈ out ↔ e.isRule = true ∧ (e ∈ todo ∨ ∃ q ∈ lists, q.name ∈ new ∧ e ∈ q.own) := by
  induction h with
  | nil taken =>
    refine iff_of_false nofun ?_
    rintro ⟨_, h | ⟨_, _, h, _⟩⟩ <;> cases h
  | rule origin decl _ ih =>
    rw [List.mem_cons, ih, List.mem_cons, or_assoc]
    constructor
    · rintro (rfl | ⟨hrule, h⟩)
      · exact ⟨rfl, .inl rfl⟩
      · exact ⟨hrule, .inr h⟩
    · rintro ⟨hrule, rfl | h⟩
      · exact .inl rfl
      · exact .inr ⟨hrule, h⟩
  | again _ _ ih =>
    rw [ih]
    refine and_congr_right fun hrule => or_congr_left ?_
    rw [List.mem_cons]
    refine (or_iff_right fun heq => ?_).symm
    rw [heq] at hrule
    cases hrule
  | @splice _ _ _ _ new more q hq _ _ _ _ ih_inner ih =>
    rw [List.mem_append, ih_inner, ih, ← and_or_left]
    refine and_congr_right fun hrule => ?_
    rw [List.mem_cons]
    constructor
    · rintro ((h | ⟨q', hq', hnew, h⟩) | h | ⟨q', hq', hmore, h⟩)
      · exact .inr ⟨q, hq, List.mem_append_right _ List.mem_cons_self, h⟩
      · exact .inr ⟨q', hq', List.mem_append_left _ (List.mem_append_right _ hnew), h⟩
      · exact .inl (.inr h)
      · exact .inr ⟨q', hq', List.mem_append_left _ (List.mem_append_left _ hmore), h⟩
    · rintro ((heq | h) | ⟨q', hq', hmem, h⟩)
      · rw [heq] at hrule
        cases hrule
      · exact .inr (.inl h)
      · rcases List.mem_append.1 hmem with hmem | hmem
        · rcases List.mem_append.1 hmem with hmore | hnew
          · exact .inr (.inr ⟨q', hq', hmore, h⟩)
          · exact .inl (.inr ⟨q', hq', hnew, h⟩)
        · have hsame : q' = q := List.inj_on_of_nodup_map hnames hq' hq (List.mem_singleton.1 hmem)
          rw [hsame] at h
          exact .inl (.inl h)

/-- **What does not come in from other states** stands as it stood in the list. -/
theorem filter_out (h : Expansion lists name taken todo out new) {keep : LocatedEntry → Bool}
    (hsplice : ∀ target, keep (.splice target) = false)
    (hown : ∀ q ∈ lists, q.name ≠ name → ∀ e ∈ q.own, keep e = false) :
    out.filter keep = todo.filter keep := by
  induction h with
  | nil taken => rfl
  | rule origin decl _ ih => rw [List.filter_cons, List.filter_cons, ih]
  | again _ _ ih => rw [List.filter_cons_of_neg (Bool.eq_false_iff.1 (hsplice _)), ih]
  | @splice _ _ _ _ _ _ q hq hname _ _ _ ih_inner ih =>
    have hnone : q.own.filter keep = [] :=
      List.filter_eq_nil_iff.2 fun e he => Bool.eq_false_iff.1 (hown q hq hname e he)
    rw [List.filter_append, ih_inner, hnone, ih,
      List.filter_cons_of_neg (Bool.eq_false_iff.1 (hsplice _))]
    rfl

end Expansion

end EntryList

end StatefulLexer
