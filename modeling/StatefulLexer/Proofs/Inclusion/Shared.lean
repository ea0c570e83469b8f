/-
Shared entries.

The shared entries stand at the end of every list. So they are there when a list is
expanded, and when a state is taken over its list ends with them as well. For the rules
among them nothing comes of that: they are left out of what comes in. But a directive among
them is met there, in the middle of the list of the state that is worked through, and what
it brings in comes before the rest of that list. It brings in nothing if its state was
taken over before.

Here lists are compared with the same lists without their shared entries.

Main statements: `Expansion.subset_extend`, `Expansion.from_shared`, `Expansion.extend`.
-/
import StatefulLexer.Proofs.Inclusion.Expansion

set_option autoImplicit false

namespace StatefulLexer

namespace EntryList

/-- The list with shared entries at its end. -/
def extend (shared : List LocatedEntry) (q : EntryList) : EntryList :=
  { q with entries := q.entries ++ shared }

/-- The rules among the entries are shared. -/
def AreShared (entries : List LocatedEntry) : Prop := ∀ e ∈ entries, e.isShared = e.isRule

/-- The directives among entries. -/
def directives (entries : List LocatedEntry) : List LocatedEntry :=
  entries.filter fun e => !e.isRule

theorem splice_mem_directives {entries : List LocatedEntry} {target : String} :
    .splice target ∈ directives entries ↔ .splice target ∈ entries := by
  rw [directives, List.mem_filter]
  exact and_iff_left rfl

theorem filter_isRule_directives (entries : List LocatedEntry) :
    (directives entries).filter (·.isRule) = [] := by
  rw [directives, List.filter_filter]
  refine List.filter_eq_nil_iff.2 fun e _ => ?_
  cases e.isRule <;> decide

/-- The first other state that there is a directive for. -/
def firstOther? (name : String) : List LocatedEntry → Option String
  | [] => none
  | .rule _ _ :: entries => firstOther? name entries
  | .splice target :: entries => if target = name then firstOther? name entries else some target

variable {lists : List EntryList} {shared : List LocatedEntry} {name : String}
  {taken new : List String} {todo out : List LocatedEntry}

/-- Where a state is taken over, the shared directives come in with it. -/
theorem AreShared.own_extend (h : AreShared shared) (q : EntryList) :
    (q.extend shared).own = q.own ++ directives shared := by
  have hshared : shared.filter (fun e => !e.isShared) = directives shared :=
    List.filter_congr fun e he => by rw [h e he]
  rw [own, extend, List.filter_append, hshared, own]

/-- Shared entries leave the names as they are. -/
theorem nodup_names_extend (shared : List LocatedEntry) (hnames : (lists.map (·.name)).Nodup) :
    ((lists.map (·.extend shared)).map (·.name)).Nodup := by
  rw [List.map_map]
  exact hnames

/-! ## What is reached -/

/-- What a state includes, it includes with shared entries. -/
theorem Includes.extend {a b : String} (h : Includes lists a b) :
    Includes (lists.map (·.extend shared)) a b := by
  obtain ⟨q, hq, hname, hb⟩ := h
  exact ⟨q.extend shared, List.mem_map_of_mem hq, hname, List.mem_append_left _ hb⟩

/-- What is reached otherwise only is reached from a shared directive. -/
theorem Reaches.of_extend {a c : String} (h : Reaches (lists.map (·.extend shared)) a c) :
    Reaches lists a c ∨
      ∃ b, .splice b ∈ shared ∧ Reaches (lists.map (·.extend shared)) b c := by
  induction h with
  | refl => exact .inl .refl
  | @tail b c _ hc ih =>
    rcases ih with hown | ⟨b', hb', hreach⟩
    · obtain ⟨q, hq, hname, hsplice⟩ := hc
      obtain ⟨q', hq', rfl⟩ := List.mem_map.1 hq
      rcases List.mem_append.1 hsplice with hsplice | hsplice
      · exact .inl (hown.tail ⟨q', hq', hname, hsplice⟩)
      · exact .inr ⟨c, hsplice, .refl⟩
    · exact .inr ⟨b', hb', hreach.tail hc⟩

namespace Expansion

/-! ## Expansions one behind the other -/

/-- Two lists are expanded by expanding the first, and the second behind it. -/
theorem append {front back out' : List LocatedEntry} {new' : List String}
    (h : Expansion lists name taken front out new)
    (h' : Expansion lists name (new ++ taken) back out' new') :
    Expansion lists name taken (front ++ back) (out ++ out') (new' ++ new) := by
  induction h with
  | nil taken =>
    rw [List.append_nil]
    exact h'
  | rule origin decl _ ih => exact .rule origin decl (ih h')
  | again htarget _ ih => exact .again htarget (ih h')
  | @splice taken _ _ _ new more q hq hname htaken hinner _ ih_inner ih =>
    -- Behind the state that comes in, the rest of the first list goes on, and then the second.
    have htakes : more ++ new ++ [q.name] ++ taken = more ++ (new ++ q.name :: taken) := by
      simp only [List.append_assoc, List.singleton_append]
    rw [htakes] at h'
    simpa only [List.append_assoc, List.cons_append] using
      splice hq hname htaken hinner (ih h')

/-- Directives for states that were taken over before give nothing. -/
theorem of_taken (h : ∀ target, .splice target ∈ todo → target = name ∨ target ∈ taken) :
    Expansion lists name taken todo (todo.filter (·.isRule)) [] := by
  induction todo with
  | nil => exact .nil taken
  | cons e todo ih =>
    have ih := ih fun target htarget => h target (List.mem_cons_of_mem _ htarget)
    cases e with
    | rule origin decl => exact .rule origin decl ih
    | splice target => exact .again (h target List.mem_cons_self) ih

/-! ## More rules -/

/-- **What is taken over** is taken over with shared entries as well. -/
theorem mem_new_extend (hnames : (lists.map (·.name)).Nodup) {s : EntryList} (hs : s ∈ lists)
    (h : Expansion lists s.name [] s.entries out new) {out' : List LocatedEntry}
    {new' : List String}
    (h' : Expansion (lists.map (·.extend shared)) s.name [] s.entries out' new') {b : String}
    (hb : b ∈ new) : b ∈ new' := by
  have hnames' := nodup_names_extend shared hnames
  obtain ⟨hne, hreach⟩ := (h.mem_new_iff hnames hs b).1 hb
  -- The state and what is taken over for it are closed under what they include by themselves.
  have hclosed : b = s.name ∨ b ∈ new' := by
    clear hb hne
    induction hreach with
    | refl => exact .inl rfl
    | @tail b c _ hc ih =>
      have hmem : c = s.name ∨ c ∈ new' ++ [] := by
        by_cases hb : b = s.name
        · obtain ⟨q, hq, hname, hsplice⟩ := hc
          rw [List.inj_on_of_nodup_map hnames hq hs (hname.trans hb)] at hsplice
          exact h'.mem_of_splice hsplice
        · exact h'.mem_of_includes hnames' (ih.resolve_left hb) hc.extend
      rwa [List.append_nil] at hmem
  exact hclosed.resolve_left hne

/-- **No rule is lost** to shared entries, and none has to wait for them. -/
theorem subset_extend (hnames : (lists.map (·.name)).Nodup) (ha : AreShared shared)
    {s : EntryList} (hs : s ∈ lists) (h : Expansion lists s.name [] s.entries out new)
    {out' : List LocatedEntry} {new' : List String}
    (h' : Expansion (lists.map (·.extend shared)) s.name [] s.entries out' new') :
    ∀ e ∈ out, e ∈ out' := by
  have hnames' := nodup_names_extend shared hnames
  intro e he
  obtain ⟨hrule, hmem⟩ := (h.mem_out_iff hnames e).1 he
  refine (h'.mem_out_iff hnames' e).2 ⟨hrule, hmem.imp_right ?_⟩
  rintro ⟨q, hq, hnew, hown⟩
  refine ⟨q.extend shared, List.mem_map_of_mem hq, h.mem_new_extend hnames hs h' hnew, ?_⟩
  rw [ha.own_extend q]
  exact List.mem_append_left _ hown

/-- **What comes in by shared entries** is shared, or it is a rule of a state that a shared
directive leads to. -/
theorem from_shared (hnames : (lists.map (·.name)).Nodup) (ha : AreShared shared)
    {s : EntryList} (hs : s ∈ lists) (h : Expansion lists s.name [] s.entries out new)
    {out' : List LocatedEntry} {new' : List String}
    (h' : Expansion (lists.map (·.extend shared)) s.name [] (s.extend shared).entries out' new')
    {e : LocatedEntry} (he : e ∈ out') (hnew : e ∉ out) :
    e ∈ shared ∨ ∃ b, .splice b ∈ shared ∧
      ∃ q ∈ lists, Reaches (lists.map (·.extend shared)) b q.name ∧ e ∈ q.entries := by
  have hnames' := nodup_names_extend shared hnames
  have hs' : s.extend shared ∈ lists.map (·.extend shared) := List.mem_map_of_mem hs
  obtain ⟨hrule, hmem⟩ := (h'.mem_out_iff hnames' e).1 he
  rcases hmem with hmem | ⟨q', hq', htaken, hown⟩
  · refine .inl ((List.mem_append.1 hmem).resolve_left fun hentry => hnew ?_)
    exact (h.mem_out_iff hnames e).2 ⟨hrule, .inl hentry⟩
  · -- A rule of another state: the question is how that state was reached.
    obtain ⟨q, hq, rfl⟩ := List.mem_map.1 hq'
    obtain ⟨hne, hreach⟩ := (h'.mem_new_iff hnames' hs' _).1 htaken
    have hentry : e ∈ q.own := by
      rw [ha.own_extend q] at hown
      refine (List.mem_append.1 hown).resolve_right fun hdirective => ?_
      rw [directives, List.mem_filter, hrule] at hdirective
      cases hdirective.2
    rcases hreach.of_extend with hreach | ⟨b, hb, hreach⟩
    · refine absurd ((h.mem_out_iff hnames e).2 ⟨hrule, .inr ⟨q, hq, ?_, hentry⟩⟩) hnew
      exact (h.mem_new_iff hnames hs _).2 ⟨hne, hreach⟩
    · exact .inr ⟨b, hb, q, hq, hreach, (mem_own_iff.1 hentry).1⟩

/-! ## The same rules -/

/-- A state comes in as without shared entries if all shared directives have been used by
the time its own entries are through. -/
theorem extend_own (ha : AreShared shared) {q : EntryList} {inner : List LocatedEntry}
    (htaken : ∀ b, .splice b ∈ shared → b = name ∨ b ∈ taken)
    (h : Expansion (lists.map (·.extend shared)) name taken q.own inner new) :
    Expansion (lists.map (·.extend shared)) name taken (q.extend shared).own inner new := by
  have hshared : Expansion (lists.map (·.extend shared)) name (new ++ taken)
      (directives shared) [] [] := by
    have hnone : Expansion (lists.map (·.extend shared)) name (new ++ taken)
        (directives shared) ((directives shared).filter (·.isRule)) [] := of_taken fun b hb =>
      (htaken b (splice_mem_directives.1 hb)).imp_right (List.mem_append_right new)
    rwa [filter_isRule_directives] at hnone
  have happend := h.append hshared
  rwa [List.append_nil, List.nil_append, ← ha.own_extend q] at happend

/-- So shared entries change nothing once their directives have been used. -/
theorem extend_of_taken (ha : AreShared shared)
    (htaken : ∀ b, .splice b ∈ shared → b = name ∨ b ∈ taken)
    (h : Expansion lists name taken todo out new) :
    Expansion (lists.map (·.extend shared)) name taken todo out new := by
  induction h with
  | nil taken => exact .nil taken
  | rule origin decl _ ih => exact .rule origin decl (ih htaken)
  | again htarget _ ih => exact .again htarget (ih htaken)
  | @splice taken _ _ _ new _ q hq hname hnew _ _ ih_inner ih =>
    have inside : ∀ b, .splice b ∈ shared → b = name ∨ b ∈ q.name :: taken := fun b hb =>
      (htaken b hb).imp_right (List.mem_cons_of_mem _)
    have behind : ∀ b, .splice b ∈ shared → b = name ∨ b ∈ new ++ q.name :: taken := fun b hb =>
      (inside b hb).imp_right (List.mem_append_right _)
    exact splice (q := q.extend shared) (List.mem_map_of_mem hq) hname hnew
      (extend_own ha inside (ih_inner inside)) (ih behind)

/-- **Shared entries wait** if no shared directive is for another state than the first one
that is taken over: it has been taken over by the time the first of them is met. -/
theorem extend (ha : AreShared shared)
    (hfirst : ∀ target ∈ firstOther? name todo, ∀ b, .splice b ∈ shared → b = name ∨ b = target)
    (h : Expansion lists name [] todo out new) :
    Expansion (lists.map (·.extend shared)) name [] todo out new := by
  generalize hnone : ([] : List String) = taken at h ⊢
  induction h with
  | nil taken => exact .nil taken
  | rule origin decl _ ih => exact .rule origin decl (ih hfirst hnone)
  | @again taken _ _ _ target htarget _ ih =>
    subst hnone
    have hself : target = name := htarget.resolve_right List.not_mem_nil
    rw [firstOther?, if_pos hself] at hfirst
    exact .again htarget (ih hfirst rfl)
  | @splice taken _ _ _ new _ q hq hname hnew hinner hrest _ _ =>
    -- This is the first one, and all that follows is expanded behind it.
    rw [firstOther?, if_neg hname] at hfirst
    have inside : ∀ b, .splice b ∈ shared → b = name ∨ b ∈ q.name :: taken := fun b hb =>
      (hfirst q.name rfl b hb).imp_right fun (heq : b = q.name) => heq ▸ List.mem_cons_self
    have behind : ∀ b, .splice b ∈ shared → b = name ∨ b ∈ new ++ q.name :: taken := fun b hb =>
      (inside b hb).imp_right (List.mem_append_right _)
    exact splice (q := q.extend shared) (List.mem_map_of_mem hq) hname hnew
      (extend_own ha inside (extend_of_taken ha inside hinner)) (extend_of_taken ha behind hrest)

end Expansion

end EntryList

end StatefulLexer
