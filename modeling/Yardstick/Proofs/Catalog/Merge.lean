import Yardstick.Catalog

/-!
# Merged catalogs

A merged catalog gives the later catalog's text where that holds one and the earlier's elsewhere, for
plain messages and in every context alike (`Catalog.get?_merge`). So a translator that is given one
more catalog asks this first in its locale, and answers as before in all others
(`Translator.getIn?_add`).
-/

namespace Yardstick

/-! ## Tables filled entry by entry -/

namespace Table

variable {α β : Type}

/-- Entries with different keys, each of which changes what is under its own key only. -/
theorem get?_foldl {step : Table α → String × β → Table α} {f : β → Option α → α}
    (hstep : ∀ t e key, (step t e).get? key =
      if key = e.1 then some (f e.2 (t.get? key)) else t.get? key)
    {l : List (String × β)} (hl : (l.map (·.1)).Nodup) (t : Table α) (key : String) :
    (l.foldl step t).get? key = ((l.lookup key).map (f · (t.get? key))).or (t.get? key) := by
  induction l generalizing t with
  | nil => rfl
  | cons e l ih =>
    rw [List.map_cons, List.nodup_cons] at hl
    rw [List.foldl_cons, ih hl.2, hstep]
    by_cases hkey : key = e.1
    · have hlast : l.lookup key = none := by
        rw [List.lookup_eq_none_iff]
        intro d hd
        rw [bne_iff_ne, hkey]
        exact fun h => hl.1 (h ▸ List.mem_map_of_mem hd)
      have hhere : (e :: l).lookup key = some e.2 := by
        rw [List.lookup_cons, beq_iff_eq.2 hkey]
      rw [if_pos hkey, hlast, hhere]
      rfl
    · have hnext : (e :: l).lookup key = l.lookup key := by
        rw [List.lookup_cons, beq_eq_false_iff_ne.2 hkey]
      rw [if_neg hkey, hnext]

theorem get?_merge (t u : Table α) (key : String) :
    (t.merge u).get? key = (u.get? key).or (t.get? key) := by
  have hfold := get?_foldl (f := fun v _ => v) (fun t e key => get?_put t e.1 key e.2) u.nodup t key
  rw [Option.map_id'] at hfold
  exact hfold

end Table

/-! ## Catalogs -/

namespace Catalog

theorem get?_mergeContext (t : Table (Table String)) (e : String × Table String) (name : String) :
    (mergeContext t e).get? name =
      if name = e.1 then some (((t.get? name).getD .empty).merge e.2) else t.get? name := by
  unfold mergeContext
  rw [Table.get?_put]
  split
  · next h => rw [h]
  · rfl

/-- A context is merged if the later catalog has it, and kept if not. -/
theorem get?_contexts_merge (earlier later : Catalog) (name : String) :
    (earlier.merge later).contexts.get? name =
      ((later.contexts.get? name).map ((earlier.contexts.get? name).getD .empty).merge).or
        (earlier.contexts.get? name) := by
  have hfold := Table.get?_foldl (f := fun u old => (old.getD .empty).merge u) get?_mergeContext
    later.contexts.nodup earlier.contexts name
  exact hfold

theorem get?_merge (earlier later : Catalog) (key : String) (context : Option String) :
    (earlier.merge later).get? key context = (later.get? key context).or (earlier.get? key context) := by
  cases context with
  | none => exact Table.get?_merge earlier.messages later.messages key
  | some name =>
    show ((earlier.merge later).contexts.get? name).bind (·.get? key) =
      ((later.contexts.get? name).bind (·.get? key)).or
        ((earlier.contexts.get? name).bind (·.get? key))
    rw [get?_contexts_merge]
    cases later.contexts.get? name with
    | none => rfl
    | some u =>
      show (((earlier.contexts.get? name).getD .empty).merge u).get? key = _
      rw [Table.get?_merge]
      cases earlier.contexts.get? name <;> rfl

end Catalog

/-! ## Translators -/

namespace Translator

variable {t : Translator} {c : Catalog}

theorem get?_catalogs_add (t : Translator) (c : Catalog) (locale : String) :
    (t.add c).catalogs.get? locale =
      if locale = c.locale then some (((t.catalogs.get? c.locale).map (·.merge c)).getD c)
      else t.catalogs.get? locale :=
  Table.get?_put _ _ _ _

theorem getIn?_add (t : Translator) (c : Catalog) (locale key : String) (context : Option String) :
    (t.add c).getIn? locale key context =
      if locale = c.locale then (c.get? key context).or (t.getIn? locale key context)
      else t.getIn? locale key context := by
  unfold getIn?
  rw [get?_catalogs_add]
  split
  · next h =>
    rw [h]
    cases t.catalogs.get? c.locale with
    | none => exact (Option.or_none).symm
    | some earlier => exact earlier.get?_merge c key context
  · rfl

/-- The messages that one locale holds in a context. -/
def context? (t : Translator) (locale name : String) : Option (Table String) :=
  (t.catalogs.get? locale).bind (·.contexts.get? name)

/-- A context that a later catalog does not have stays as it was. -/
theorem context?_add_of_absent {name : String} (h : c.contexts.get? name = none) (locale : String) :
    (t.add c).context? locale name = t.context? locale name := by
  unfold context?
  rw [get?_catalogs_add]
  split
  · next hlocale =>
    rw [hlocale]
    cases t.catalogs.get? c.locale with
    | none => exact h
    | some earlier =>
      show (earlier.merge c).contexts.get? name = earlier.contexts.get? name
      rw [Catalog.get?_contexts_merge, h]
      rfl
  · rfl

end Translator

end Yardstick
