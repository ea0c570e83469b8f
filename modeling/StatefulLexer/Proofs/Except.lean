/-
Computations that succeed.

Rules, states and tables are compiled step by step, and the first step that fails
ends it. So what succeeded is known to have succeeded in every step.

Main statements: `bind_eq_ok`, `exists_of_mem_mapM`.
-/
set_option autoImplicit false

namespace StatefulLexer

variable {ε α β : Type}

/-- Behind a step that succeeded the next one goes on with its result. -/
theorem ok_bind (a : α) (f : α → Except ε β) : (Except.ok a >>= f) = f a := rfl

/-- **Two steps succeed** if the first one does, and the second one with what it gave. -/
theorem bind_eq_ok {x : Except ε α} {f : α → Except ε β} {b : β} :
    (x >>= f) = .ok b ↔ ∃ a, x = .ok a ∧ f a = .ok b := by
  cases x with
  | error e =>
    refine iff_of_false ?_ ?_
    · intro h
      cases h
    · rintro ⟨a, h, _⟩
      cases h
  | ok a =>
    constructor
    · intro h
      exact ⟨a, rfl, h⟩
    · rintro ⟨a', h, hf⟩
      rw [← Except.ok.inj h] at hf
      exact hf

/-- A step that succeeds does so whatever its error would be called. -/
theorem mapError_eq_ok {ε' : Type} {f : ε → ε'} {x : Except ε α} {a : α} :
    x.mapError f = .ok a ↔ x = .ok a := by
  cases x with
  | error e => exact iff_of_false nofun nofun
  | ok b => exact ⟨fun h => congrArg Except.ok (Except.ok.inj h), fun h => by rw [h]; rfl⟩

/-- A list of steps succeeds if the first one and the others do. -/
theorem mapM_cons_eq_ok {f : α → Except ε β} {x : α} {xs : List α} {ys : List β} :
    (x :: xs).mapM f = .ok ys ↔ ∃ y ys', f x = .ok y ∧ xs.mapM f = .ok ys' ∧ ys = y :: ys' := by
  rw [List.mapM_cons, bind_eq_ok]
  constructor
  · rintro ⟨y, hy, h⟩
    obtain ⟨ys', hys', h⟩ := bind_eq_ok.1 h
    exact ⟨y, ys', hy, hys', (Except.ok.inj h).symm⟩
  · rintro ⟨y, ys', hy, hys', rfl⟩
    exact ⟨y, hy, bind_eq_ok.2 ⟨ys', hys', rfl⟩⟩

/-- There are as many results as there are steps. -/
theorem length_of_mapM {f : α → Except ε β} {xs : List α} {ys : List β}
    (h : xs.mapM f = .ok ys) : ys.length = xs.length := by
  induction xs generalizing ys with
  | nil =>
    cases h
    rfl
  | cons x xs ih =>
    obtain ⟨y, ys', _, hys', rfl⟩ := mapM_cons_eq_ok.1 h
    rw [List.length_cons, List.length_cons, ih hys']

/-- **A result** is that of the step with its number. -/
theorem getElem?_of_mapM {f : α → Except ε β} {xs : List α} {ys : List β}
    (h : xs.mapM f = .ok ys) {i : Nat} {y : β} (hy : ys[i]? = some y) :
    ∃ x, xs[i]? = some x ∧ f x = .ok y := by
  induction xs generalizing ys i with
  | nil =>
    cases h
    cases hy
  | cons x xs ih =>
    obtain ⟨y', ys', hy', hys', rfl⟩ := mapM_cons_eq_ok.1 h
    cases i with
    | zero =>
      rw [List.getElem?_cons_zero] at hy
      rw [← Option.some.inj hy]
      exact ⟨x, rfl, hy'⟩
    | succ i => exact ih hys' hy

/-- **What is in a list of results** is the result for something. -/
theorem exists_of_mem_mapM {f : α → Except ε β} {xs : List α} {ys : List β}
    (h : xs.mapM f = .ok ys) : ∀ y ∈ ys, ∃ x ∈ xs, f x = .ok y := by
  intro y hy
  obtain ⟨i, hi⟩ := List.mem_iff_getElem?.1 hy
  obtain ⟨x, hx, hfx⟩ := getElem?_of_mapM h hi
  exact ⟨x, List.mem_of_getElem? hx, hfx⟩

/-- One list behind another gives the results of the first, and those of the second behind
them. -/
theorem mapM_append_eq_ok {f : α → Except ε β} {xs xs' : List α} {zs : List β} :
    (xs ++ xs').mapM f = .ok zs
      ↔ ∃ ys ys', xs.mapM f = .ok ys ∧ xs'.mapM f = .ok ys' ∧ zs = ys ++ ys' := by
  rw [List.mapM_append, bind_eq_ok]
  refine exists_congr fun ys => ?_
  rw [bind_eq_ok, ← exists_and_left]
  refine exists_congr fun ys' => and_congr_right fun _ => and_congr_right fun _ => ?_
  exact ⟨fun h => (Except.ok.inj h).symm, fun h => congrArg Except.ok h.symm⟩

/-- The result of each element is at its place. -/
theorem getElem?_mapM {f : α → Except ε β} {xs : List α} {ys : List β}
    (h : xs.mapM f = .ok ys) {i : Nat} {x : α} (hx : xs[i]? = some x) :
    ∃ y, ys[i]? = some y ∧ f x = .ok y := by
  have hlt : i < ys.length := by
    rw [length_of_mapM h]
    exact (List.getElem?_eq_some_iff.1 hx).1
  obtain ⟨x', hx', hy⟩ := getElem?_of_mapM h (List.getElem?_eq_getElem hlt)
  rw [hx, Option.some.injEq] at hx'
  rw [← hx'] at hy
  exact ⟨_, List.getElem?_eq_getElem hlt, hy⟩

/-- There are no other results. -/
theorem getElem?_mapM_none {f : α → Except ε β} {xs : List α} {ys : List β}
    (h : xs.mapM f = .ok ys) {i : Nat} (hx : xs[i]? = none) : ys[i]? = none := by
  rw [List.getElem?_eq_none_iff] at hx ⊢
  rw [length_of_mapM h]
  exact hx

/-- There are results if each element has one. -/
theorem exists_mapM {f : α → Except ε β} {xs : List α} (h : ∀ x ∈ xs, ∃ y, f x = .ok y) :
    ∃ ys, xs.mapM f = .ok ys := by
  induction xs with
  | nil => exact ⟨[], rfl⟩
  | cons x xs ih =>
    obtain ⟨y, hy⟩ := h x List.mem_cons_self
    obtain ⟨ys, hys⟩ := ih fun x' hx' => h x' (List.mem_cons_of_mem x hx')
    exact ⟨y :: ys, mapM_cons_eq_ok.2 ⟨y, ys, hy, hys, rfl⟩⟩

/-- Results that have in common with what they were made of what each of them has. -/
theorem map_eq_of_mapM {γ : Type} {f : α → Except ε β} {g : β → γ} {k : α → γ}
    (hf : ∀ x y, f x = .ok y → g y = k x) {xs : List α} {ys : List β}
    (h : xs.mapM f = .ok ys) : ys.map g = xs.map k := by
  induction xs generalizing ys with
  | nil =>
    cases h
    rfl
  | cons x xs ih =>
    obtain ⟨y, ys', hy, hys', rfl⟩ := mapM_cons_eq_ok.1 h
    rw [List.map_cons, List.map_cons, hf x y hy, ih hys']

/-- What each step gives back, a list of steps gives back. -/
theorem mapM_map_eq_ok {f : α → Except ε β} {k : β → α} {ys : List β}
    (h : ∀ y ∈ ys, f (k y) = .ok y) : (ys.map k).mapM f = .ok ys := by
  induction ys with
  | nil => rfl
  | cons y ys ih =>
    refine mapM_cons_eq_ok.2 ⟨y, ys, h y List.mem_cons_self, ?_, rfl⟩
    exact ih fun y' hy' => h y' (List.mem_cons_of_mem y hy')

/-- **What every step keeps,** all steps in turn keep. -/
theorem foldlM_keeps {P : β → Prop} {f : β → α → Except ε β} {xs : List α}
    (hstep : ∀ x ∈ xs, ∀ s s', P s → f s x = .ok s' → P s') {s last : β}
    (h : xs.foldlM f s = .ok last) (hs : P s) : P last := by
  induction xs generalizing s with
  | nil =>
    rw [← Except.ok.inj h]
    exact hs
  | cons x xs ih =>
    rw [List.foldlM_cons] at h
    obtain ⟨s', hs', h⟩ := bind_eq_ok.1 h
    apply ih (fun x' hx' => hstep x' (List.mem_cons_of_mem x hx')) h
    exact hstep x List.mem_cons_self s s' hs hs'

/-- A fold whose steps come to the same for other values comes to the same. -/
theorem foldlM_map {γ : Type} {g : β → γ} {step : β → α → Except ε β} {step' : γ → α → Except ε γ}
    (h : ∀ b x, step' (g b) x = (step b x).map g) (xs : List α) (b : β) :
    xs.foldlM step' (g b) = (xs.foldlM step b).map g := by
  induction xs generalizing b with
  | nil => rfl
  | cons x xs ih =>
    rw [List.foldlM_cons, List.foldlM_cons, h]
    cases step b x with
    | error e => rfl
    | ok b' => exact ih b'

/-- Results that come to the same one by one come to the same as a list. -/
theorem mapM_map {γ : Type} {g : β → γ} {f : α → Except ε β} {f' : α → Except ε γ}
    (h : ∀ x, f' x = (f x).map g) (xs : List α) :
    xs.mapM f' = (xs.mapM f).map (List.map g) := by
  induction xs with
  | nil => rfl
  | cons x xs ih =>
    rw [List.mapM_cons, List.mapM_cons, ih, h]
    cases f x with
    | error e => rfl
    | ok y => cases xs.mapM f <;> rfl

end StatefulLexer
