import Yardstick.Proofs.Json.Readback
import Yardstick.Proofs.Outcome
import Yardstick.Schema.Definition

/-!
# Fields of documents

What a check takes is written so that it takes the same again (`Restores`). This goes from texts and words
through lists and tables (`Restores.list`, `Restores.table`) to the fields of a model, which were read under
one of their two spellings or left out and are written under either (`Restores.required`,
`Restores.optional`).
-/

namespace Yardstick

open Schema Schema.Checked

/-! ## Tables -/

namespace Table

variable {α : Type} {e : String × α}

theorem mem_of_mem_foldl_put {l : List (String × α)} {t : Table α}
    (h : e ∈ (l.foldl (fun acc e => acc.put e.1 e.2) t).entries) : e ∈ t.entries ∨ e ∈ l := by
  induction l generalizing t with
  | nil => exact .inl h
  | cons d l ih =>
    rcases ih h with h | h
    · rcases mem_put h with rfl | h
      · exact .inr List.mem_cons_self
      · exact .inl h
    · exact .inr (List.mem_cons_of_mem _ h)

theorem mem_of_mem_ofList {l : List (String × α)} (h : e ∈ (ofList l).entries) : e ∈ l :=
  (mem_of_mem_foldl_put h).resolve_left List.not_mem_nil

theorem ofList_entries (t : Table α) : ofList t.entries = t := by
  have hentries := entries_ofList t.nodup
  cases h : ofList t.entries
  cases t
  rw [h] at hentries
  cases hentries
  rfl

end Table

/-! ## Words -/

theorem Aggregation.check_text (a : Aggregation) : Aggregation.check (.str a.text) = .ok a := by
  rw [Aggregation.check, choice, Aggregation.ofJson?, Aggregation.ofText?_text]
  rfl

theorem Formula.check_text (f : Formula) : Formula.check (.str f.text) = .ok f := by
  rw [Formula.check, choice, Formula.ofJson?, Formula.ofText?_text]
  rfl

namespace Schema

variable {α β : Type}

/-! ## Checked values -/

theorem app_eq_ok {f : Checked (α → β)} {x : Checked α} {b : β} :
    app f x = .ok b ↔ ∃ g a, f = .ok g ∧ x = .ok a ∧ g a = b := by
  cases f <;> cases x <;> simp [app]

theorem app_ok {f : Checked (α → β)} {x : Checked α} {g : α → β} {a : α} (hf : f = .ok g)
    (hx : x = .ok a) : app f x = .ok (g a) := app_eq_ok.2 ⟨g, a, hf, hx, rfl⟩

theorem map_ok {x : Checked α} {a : α} (f : α → β) (hx : x = .ok a) : x.map f = .ok (f a) :=
  map_eq_ok.2 ⟨a, hx, rfl⟩

theorem within_eq_ok {s : Step} {x : Checked α} {a : α} : within s x = .ok a ↔ x = .ok a := mapError_eq_ok

theorem nonemptyText_eq_ok {v : Json} {s : String} :
    nonemptyText v = .ok s ↔ v = .str s ∧ s ≠ "" := by
  constructor
  · intro h
    cases v with
    | str t =>
      rw [nonemptyText] at h
      split_ifs at h with ht
      · cases h
      · cases h
        exact ⟨rfl, ht⟩
    | _ => cases h
  · rintro ⟨rfl, hs⟩
    exact if_neg hs

/-! ## Items and members -/

section

variable {check : Json → Checked α} {write : α → Json} {as : List α} {es : List (String × α)}

/-- A list is read if all of its values are, wherever it starts. -/
theorem items_eq_ok_iff {vs : List Json} {i : Nat} :
    items check i vs = .ok as ↔ vs.map check = as.map .ok := by
  induction vs generalizing i as with
  | nil => cases as <;> simp [items]
  | cons v vs ih =>
    constructor
    · intro h
      obtain ⟨_, rest, hfirst, hrest, rfl⟩ := app_eq_ok.1 h
      obtain ⟨a, hv, rfl⟩ := map_eq_ok.1 hfirst
      exact congrArg₂ List.cons (within_eq_ok.1 hv) (ih.1 hrest)
    · intro h
      obtain ⟨a, as, rfl, hv, hvs⟩ := List.map_eq_cons_iff.1 h.symm
      exact app_ok (map_ok _ (within_eq_ok.2 hv.symm)) (ih.2 hvs.symm)

theorem members_eq_ok_iff {ms : List (String × Json)} :
    members check ms = .ok es ↔ ms.map (fun m => (m.1, check m.2)) = es.map fun e => (e.1, .ok e.2) := by
  induction ms generalizing es with
  | nil => cases es <;> simp [members]
  | cons m ms ih =>
    constructor
    · intro h
      obtain ⟨_, rest, hfirst, hrest, rfl⟩ := app_eq_ok.1 h
      obtain ⟨a, hm, rfl⟩ := map_eq_ok.1 hfirst
      exact congrArg₂ List.cons (congrArg (m.1, ·) (within_eq_ok.1 hm)) (ih.1 hrest)
    · intro h
      obtain ⟨⟨key, a⟩, es, rfl, hm, hms⟩ := List.map_eq_cons_iff.1 h.symm
      obtain ⟨rfl, hvalue⟩ := Prod.mk.inj hm
      exact app_ok (map_ok _ (within_eq_ok.2 hvalue.symm)) (ih.2 hms.symm)

/-- Every item that was read was read from some value. -/
theorem exists_of_mem_items {vs : List Json} {i : Nat} (h : items check i vs = .ok as) :
    ∀ a ∈ as, ∃ v, check v = .ok a := by
  intro a ha
  have hmem : .ok a ∈ vs.map check := items_eq_ok_iff.1 h ▸ List.mem_map_of_mem ha
  obtain ⟨v, -, hv⟩ := List.mem_map.1 hmem
  exact ⟨v, hv⟩

theorem exists_of_mem_members {ms : List (String × Json)} (h : members check ms = .ok es) :
    ∀ e ∈ es, ∃ v, check v = .ok e.2 := by
  intro e he
  have hmem : (e.1, .ok e.2) ∈ ms.map fun m => (m.1, check m.2) :=
    members_eq_ok_iff.1 h ▸ List.mem_map_of_mem he
  obtain ⟨m, -, hm⟩ := List.mem_map.1 hmem
  exact ⟨m.2, (Prod.mk.inj hm).2⟩

theorem length_of_items {vs : List Json} {i : Nat} (h : items check i vs = .ok as) :
    as.length = vs.length := by
  have hlength := congrArg List.length (items_eq_ok_iff.1 h)
  rwa [List.length_map, List.length_map, eq_comm] at hlength

theorem items_map_of_forall (h : ∀ a ∈ as, check (write a) = .ok a) (i : Nat) :
    items check i (as.map write) = .ok as := by
  rw [items_eq_ok_iff, List.map_map]
  exact List.map_congr_left h

theorem members_map_of_forall (h : ∀ e ∈ es, check (write e.2) = .ok e.2) :
    members check (es.map fun e => (e.1, write e.2)) = .ok es := by
  rw [members_eq_ok_iff, List.map_map]
  exact List.map_congr_left fun e he => congrArg (e.1, ·) (h e he)

theorem listOf_map_of_forall {n : Nat} (hn : as.length = n) (h : ∀ a ∈ as, check (write a) = .ok a) :
    listOf n check (.arr (as.map write)) = .ok as := by
  rw [listOf, List.length_map, hn, if_neg (Nat.lt_irrefl n), items_map_of_forall h 0]
  exact if_neg (hn ▸ Nat.lt_irrefl n)

theorem length_of_listOf {n : Nat} {v : Json} (h : listOf n check v = .ok as) : as.length = n := by
  cases v with
  | arr vs =>
    rw [listOf] at h
    split_ifs at h with hmany
    · cases h
    · split at h
      · cases h
      · next xs hitems =>
        split_ifs at h with hfew
        · cases h
        · cases h
          have hlength := length_of_items hitems
          omega
  | _ => cases h

end

/-! ## Writing what was read -/

/-- What `read` takes is written so that it takes the same again. -/
def Restores (read : β → Checked α) (write : α → β) : Prop :=
  ∀ v a, read v = .ok a → read (write a) = .ok a

section

variable {check : Json → Checked α} {write : α → Json}

theorem restores_text : Restores text .str := fun _ _ _ => rfl

theorem restores_nonemptyText : Restores nonemptyText .str := fun _ _ h =>
  nonemptyText_eq_ok.2 ⟨rfl, (nonemptyText_eq_ok.1 h).2⟩

theorem restores_optionalText : Restores (nullable text) optionalText := by
  intro v s h
  cases s <;> rfl

theorem restores_aggregation : Restores Aggregation.check (fun a => .str a.text) :=
  fun _ a _ => a.check_text

theorem restores_formula : Restores Formula.check (fun f => .str f.text) := fun _ f _ => f.check_text

theorem Restores.list (h : Restores check write) :
    Restores (list check) (fun as => .arr (as.map write)) := by
  intro v as hv
  cases v with
  | arr vs =>
    refine items_map_of_forall (fun a ha => ?_) 0
    obtain ⟨w, hw⟩ := exists_of_mem_items hv a ha
    exact h w a hw
  | _ => cases hv

theorem Restores.table (h : Restores check write) :
    Restores (table check) (fun t => .obj (t.entries.map fun e => (e.1, write e.2))) := by
  intro v t hv
  cases v with
  | obj ms =>
    obtain ⟨es, hes, rfl⟩ := map_eq_ok.1 hv
    have hentries : ∀ e ∈ (Table.ofList es).entries, check (write e.2) = .ok e.2 := by
      intro e he
      obtain ⟨w, hw⟩ := exists_of_mem_members hes e (Table.mem_of_mem_ofList he)
      exact h w e.2 hw
    refine map_eq_ok.2 ⟨_, members_map_of_forall hentries, Table.ofList_entries _⟩
  | _ => cases hv

theorem Restores.model {read : List (String × Json) → Checked α} {write : α → List (String × Json)}
    (h : Restores read write) (name : String) : Restores (model name read) (fun a => .obj (write a)) := by
  intro v a hv
  cases v with
  | obj ms => exact h ms a hv
  | _ => cases hv

end

/-! ## Fields -/

section

variable {check : Json → Checked α} {write : α → Json} {k : Key} {ms ms' : List (String × Json)}
  {v : Json} {a : α}

theorem required_eq_ok (hv : k.find? ms = some v) (hc : check v = .ok a) :
    required k check ms = .ok a := by
  rw [required, hv, Option.elim_some, hc]
  rfl

theorem optional_eq_ok {default : α} (hv : k.find? ms = some v) (hc : check v = .ok a) :
    optional k default check ms = .ok a := by
  rw [optional, hv, Option.elim_some, hc]
  rfl

theorem exists_of_required (h : required k check ms = .ok a) : ∃ v, check v = .ok a := by
  rw [required, within_eq_ok] at h
  cases hv : k.find? ms with
  | none => rw [hv] at h; cases h
  | some v => exact ⟨v, by rw [hv] at h; exact h⟩

theorem exists_of_optional {default : α} (h : optional k default check ms = .ok a) :
    a = default ∨ ∃ v, check v = .ok a := by
  rw [optional, within_eq_ok] at h
  cases hv : k.find? ms with
  | none => rw [hv] at h; cases h; exact .inl rfl
  | some v => exact .inr ⟨v, by rw [hv] at h; exact h⟩

/-- A field that was read is read again where it is written. -/
theorem Restores.required (h : Restores check write) (hfirst : required k check ms = .ok a)
    (hwritten : k.find? ms' = some (write a)) : Schema.required k check ms' = .ok a := by
  obtain ⟨v, hv⟩ := exists_of_required hfirst
  exact required_eq_ok hwritten (h v a hv)

/-- The default of a field is written like any value. -/
theorem Restores.optional {default : α} (h : Restores check write)
    (hdefault : check (write default) = .ok default) (hfirst : optional k default check ms = .ok a)
    (hwritten : k.find? ms' = some (write a)) : Schema.optional k default check ms' = .ok a := by
  rcases exists_of_optional hfirst with rfl | ⟨v, hv⟩
  · exact optional_eq_ok hwritten hdefault
  · exact optional_eq_ok hwritten (h v a hv)

end

end Schema

end Yardstick
