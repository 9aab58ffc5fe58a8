import Yardstick.Report.Journaled

/-!
# Outcomes of computations

When a computation in steps ends well, every step did: `bind_eq_ok` and its companions take such a
computation apart. What a journaled computation results in does not depend on the journal that it
starts with: `Yields` says so together with the result, and goes through a computation step by step.
-/

namespace Yardstick

/-! ## Results that may be errors -/

section

variable {ε δ α β : Type}

theorem bind_eq_ok {x : Except ε α} {f : α → Except ε β} {b : β} :
    x >>= f = .ok b ↔ ∃ a, x = .ok a ∧ f a = .ok b := by
  cases x with
  | error e =>
    constructor
    · intro h; cases h
    · rintro ⟨a, ha, -⟩; cases ha
  | ok a =>
    constructor
    · intro h; exact ⟨a, rfl, h⟩
    · rintro ⟨a', ha, hb⟩; cases ha; exact hb

theorem map_eq_ok {x : Except ε α} {f : α → β} {b : β} :
    x.map f = .ok b ↔ ∃ a, x = .ok a ∧ f a = b := by
  cases x <;> simp [Except.map]

theorem map_eq_error {x : Except ε α} {f : α → β} {e : ε} :
    x.map f = .error e ↔ x = .error e := by
  cases x <;> simp [Except.map]

theorem mapError_eq_ok {x : Except ε α} {f : ε → δ} {a : α} : x.mapError f = .ok a ↔ x = .ok a := by
  cases x with
  | error e => constructor <;> intro h <;> cases h
  | ok b => constructor <;> intro h <;> cases h <;> rfl

theorem mapError_eq_error {x : Except ε α} {f : ε → δ} {d : δ} :
    x.mapError f = .error d ↔ ∃ e, x = .error e ∧ f e = d := by
  cases x with
  | error e =>
    constructor
    · exact fun h => ⟨e, rfl, Except.error.inj h⟩
    · rintro ⟨e', he, rfl⟩
      cases he
      rfl
  | ok a =>
    constructor
    · intro h; cases h
    · rintro ⟨e, he, -⟩; cases he

/-- A list of results is a result if all of them are. -/
theorem mapM_id_eq_ok {l : List (Except ε α)} {as : List α} :
    l.mapM id = .ok as ↔ l = as.map .ok := by
  induction l generalizing as with
  | nil => cases as <;> simp [pure, Except.pure]
  | cons x l ih =>
    rw [List.mapM_cons, bind_eq_ok]
    constructor
    · rintro ⟨a, hx, h⟩
      obtain ⟨as', hl, h⟩ := bind_eq_ok.1 h
      obtain rfl : a :: as' = as := Except.ok.inj h
      rw [show x = .ok a from hx, ih.1 hl, List.map_cons]
    · intro h
      cases as with
      | nil => cases h
      | cons a as =>
        rw [List.map_cons, List.cons.injEq] at h
        exact ⟨a, h.1, bind_eq_ok.2 ⟨as, ih.2 h.2, rfl⟩⟩

theorem mapM_eq_ok {γ : Type} {f : γ → Except ε α} {l : List γ} {as : List α} :
    l.mapM f = .ok as ↔ l.map f = as.map .ok := by
  rw [← mapM_id_eq_ok, List.mapM_map]
  rfl

/-- What is known of each value from what it was made of is known of a whole list of them. -/
theorem map_eq_of_map_eq_ok {γ δ : Type} {make : γ → Except ε α} {f : γ → δ} {g : α → δ}
    (hfg : ∀ x a, make x = .ok a → f x = g a) {l : List γ} {as : List α}
    (h : l.map make = as.map .ok) : l.map f = as.map g := by
  induction l generalizing as with
  | nil =>
    obtain rfl : as = [] := List.map_eq_nil_iff.1 h.symm
    rfl
  | cons x l ih =>
    obtain ⟨a, as, rfl, ha, has⟩ := List.map_eq_cons_iff.1 h.symm
    rw [List.map_cons, List.map_cons, hfg x a ha.symm, ih has.symm]

theorem bind_eq_error {x : Except ε α} {f : α → Except ε β} {e : ε} :
    x >>= f = .error e ↔ x = .error e ∨ ∃ a, x = .ok a ∧ f a = .error e := by
  cases x with
  | error e' =>
    constructor
    · intro h; cases h; exact .inl rfl
    · rintro (h | ⟨a, ha, -⟩)
      · cases h; rfl
      · cases ha
  | ok a =>
    constructor
    · intro h; exact .inr ⟨a, rfl, h⟩
    · rintro (h | ⟨a', ha, h⟩)
      · cases h
      · cases ha; exact h

/-- Two steps that do to images what two others do to the values. -/
theorem bind_eq_map_bind {α' β' : Type} {x : Except ε α} {f : α → Except ε β} {y : Except ε α'}
    {f' : α' → Except ε β'} {g : α → α'} {h : β → β'} (hy : y = x.map g)
    (hf : ∀ a, f' (g a) = (f a).map h) : y >>= f' = (x >>= f).map h := by
  subst hy
  cases x with
  | error e => rfl
  | ok a => exact hf a

/-- A list of results fails for the first error in it. -/
theorem mapM_id_eq_error {l : List (Except ε α)} {e : ε} :
    l.mapM id = .error e ↔
      ∃ (as : List α) (rest : List (Except ε α)), l = as.map .ok ++ .error e :: rest := by
  induction l with
  | nil => simp [pure, Except.pure]
  | cons x l ih =>
    rw [List.mapM_cons, bind_eq_error]
    constructor
    · rintro (hx | ⟨a, hx, h⟩)
      · exact ⟨[], l, congrArg (· :: l) hx⟩
      · rcases bind_eq_error.1 h with h | ⟨_, -, h⟩
        · obtain ⟨as, rest, rfl⟩ := ih.1 h
          exact ⟨a :: as, rest, congrArg (· :: _) hx⟩
        · cases h
    · rintro ⟨as, rest, h⟩
      cases as with
      | nil =>
        obtain ⟨rfl, -⟩ := List.cons.inj h
        exact .inl rfl
      | cons a as =>
        obtain ⟨rfl, hl⟩ := List.cons.inj h
        exact .inr ⟨a, rfl, bind_eq_error.2 (.inl (ih.2 ⟨as, rest, hl⟩))⟩

/-- Where going through a list stops, one of its elements could not be taken. -/
theorem exists_of_foldlM_eq_error {f : β → α → Except ε β} {l : List α} {b : β} {e : ε}
    (h : l.foldlM f b = .error e) : ∃ a ∈ l, ∃ b, f b a = .error e := by
  induction l generalizing b with
  | nil => cases h
  | cons a l ih =>
    rw [List.foldlM_cons] at h
    rcases bind_eq_error.1 h with h | ⟨b', -, h⟩
    · exact ⟨a, List.mem_cons_self, b, h⟩
    · obtain ⟨a', ha', h⟩ := ih h
      exact ⟨a', List.mem_cons_of_mem _ ha', h⟩

end

namespace Journaled

variable {α β : Type}

/-- The computation has this result, whatever journal it starts with. -/
def Yields (x : Journaled α) (result : Except Fault α) : Prop :=
  ∀ j : Journal, (StateT.run (ExceptT.run x) j).1 = result

theorem Yields.outcome {x : Journaled α} {result : Except Fault α} (h : x.Yields result) :
    x.outcome.1 = result := h .empty

theorem yields_pure (a : α) : (pure a : Journaled α).Yields (.ok a) := fun _ => rfl

theorem yields_ofExcept (x : Except Fault α) : (ofExcept x).Yields x := fun _ => rfl

theorem yields_count (c : Counter) : (count c).Yields (.ok ()) := fun _ => rfl

theorem Yields.bind {x : Journaled α} {f : α → Journaled β} {result : Except Fault α}
    {g : α → Except Fault β} (hx : x.Yields result) (hf : ∀ a, (f a).Yields (g a)) :
    (x >>= f).Yields (result >>= g) := by
  intro j
  have h := hx j
  show (StateT.run (ExceptT.run x >>= ExceptT.bindCont f) j).1 = result >>= g
  rw [StateT.run_bind]
  cases hrun : StateT.run (ExceptT.run x) j with
  | mk r j' =>
    obtain rfl : r = result := by rw [hrun] at h; exact h
    cases r with
    | error e => rfl
    | ok a => exact hf a j'

/-- What follows may note things, as long as it hands the value on. -/
theorem Yields.bind_self {x : Journaled α} {f : α → Journaled α} {result : Except Fault α}
    (hx : x.Yields result) (hf : ∀ a, (f a).Yields (.ok a)) : (x >>= f).Yields result := by
  rw [← bind_pure result]
  exact hx.bind hf

/-- Noting an error before it is thrown again. -/
theorem yields_rethrow {f : Error → Journaled Unit} (hf : ∀ e, (f e).Yields (.ok ())) (fault : Fault) :
    Yields (α := α) (do
      match fault.error? with
      | some e => f e
      | none => pure ()
      throw fault) (.error fault) := by
  cases fault.error? with
  | none => exact fun _ => rfl
  | some e => exact (hf e).bind (g := fun _ => .error fault) fun _ _ => rfl

/-- What is done about an error on its way out does not change it. -/
theorem Yields.onError {x : Journaled α} {f : Error → Journaled Unit} {result : Except Fault α}
    (hx : x.Yields result) (hf : ∀ e, (f e).Yields (.ok ())) : (onError x f).Yields result := by
  intro j
  have h := hx j
  unfold Journaled.onError
  rw [ExceptT.run_tryCatch, StateT.run_bind]
  cases hrun : StateT.run (ExceptT.run x) j with
  | mk r j' =>
    obtain rfl : r = result := by rw [hrun] at h; exact h
    cases r with
    | ok a => rfl
    | error fault => exact (yields_rethrow hf fault) j'

theorem yields_mapM {f : α → Journaled β} {g : α → Except Fault β} (h : ∀ a, (f a).Yields (g a))
    (l : List α) : (l.mapM f).Yields (l.mapM g) := by
  induction l with
  | nil => exact yields_pure []
  | cons a l ih =>
    rw [List.mapM_cons, List.mapM_cons]
    exact (h a).bind fun b => ih.bind fun bs => yields_pure (b :: bs)

theorem yields_foldlM {f : β → α → Journaled β} {g : β → α → Except Fault β}
    (h : ∀ b a, (f b a).Yields (g b a)) (l : List α) (b : β) :
    (l.foldlM f b).Yields (l.foldlM g b) := by
  induction l generalizing b with
  | nil => exact yields_pure b
  | cons a l ih =>
    rw [List.foldlM_cons, List.foldlM_cons]
    exact (h b a).bind ih

theorem yields_forM {f : α → Journaled Unit} (h : ∀ a, (f a).Yields (.ok ())) (l : List α) :
    (l.forM f).Yields (.ok ()) := by
  induction l with
  | nil => exact yields_pure ()
  | cons a l ih => exact (h a).bind fun _ => ih

end Journaled

end Yardstick
