/-!
# Tables

A table pairs text keys with values and keeps the order in which the keys first came. Putting a key
again changes its value and not its place, so `get?_put` and `keys_put_of_mem` describe it fully.
-/

namespace Yardstick

/-- Entries in the order in which their keys were first put, each key once. -/
structure Table (α : Type) where
  entries : List (String × α)
  nodup : (entries.map (·.1)).Nodup
  deriving Repr, DecidableEq

namespace Table

variable {α β : Type}

def empty : Table α := ⟨[], List.nodup_nil⟩

def get? (t : Table α) (key : String) : Option α := t.entries.lookup key

def keys (t : Table α) : List String := t.entries.map (·.1)

def contains (t : Table α) (key : String) : Bool := (t.get? key).isSome

def size (t : Table α) : Nat := t.entries.length

/-- Changes the first entry of the key, or adds one at the end. -/
def putEntry (key : String) (value : α) : List (String × α) → List (String × α)
  | [] => [(key, value)]
  | (k, v) :: rest => if k = key then (key, value) :: rest else (k, v) :: putEntry key value rest

theorem keys_putEntry_of_mem (key : String) (value : α) (l : List (String × α))
    (h : key ∈ l.map (·.1)) : (putEntry key value l).map (·.1) = l.map (·.1) := by
  induction l with
  | nil => simp at h
  | cons e l ih =>
    by_cases hk : e.1 = key
    · simp [putEntry, hk]
    · have : key ∈ l.map (·.1) := by
        rcases List.mem_cons.1 h with h | h
        · exact absurd h.symm hk
        · exact h
      simp [putEntry, hk, ih this]

theorem putEntry_of_not_mem (key : String) (value : α) (l : List (String × α))
    (h : key ∉ l.map (·.1)) : putEntry key value l = l ++ [(key, value)] := by
  induction l with
  | nil => rfl
  | cons e l ih =>
    simp only [List.map_cons, List.mem_cons, not_or] at h
    simp [putEntry, Ne.symm h.1, ih h.2]

theorem nodup_putEntry (key : String) (value : α) (l : List (String × α))
    (h : (l.map (·.1)).Nodup) : ((putEntry key value l).map (·.1)).Nodup := by
  by_cases hk : key ∈ l.map (·.1)
  · rw [keys_putEntry_of_mem key value l hk]; exact h
  · rw [putEntry_of_not_mem key value l hk, List.map_append]
    refine List.nodup_append.2 ⟨h, by simp, ?_⟩
    intro a ha b hb hab
    simp only [List.map_cons, List.map_nil, List.mem_singleton] at hb
    exact hk (hb ▸ hab ▸ ha)

def put (t : Table α) (key : String) (value : α) : Table α :=
  ⟨putEntry key value t.entries, nodup_putEntry key value t.entries t.nodup⟩

theorem mem_putEntry {key : String} {value : α} {l : List (String × α)} {e : String × α}
    (h : e ∈ putEntry key value l) : e = (key, value) ∨ e ∈ l := by
  induction l with
  | nil => exact .inl (by simpa [putEntry] using h)
  | cons d l ih =>
    by_cases hk : d.1 = key
    · simp only [putEntry, hk, if_true, List.mem_cons] at h
      exact h.imp_right (List.mem_cons_of_mem _)
    · simp only [putEntry, hk, if_false, List.mem_cons] at h
      rcases h with h | h
      · exact .inr (h ▸ List.mem_cons_self)
      · exact (ih h).imp_right (List.mem_cons_of_mem _)

/-- What a table holds after a put was put or was there. -/
theorem mem_put {t : Table α} {key : String} {value : α} {e : String × α}
    (h : e ∈ (t.put key value).entries) : e = (key, value) ∨ e ∈ t.entries :=
  mem_putEntry h

/-- All entries of `u` put into `t`, so that `u` wins. -/
def merge (t u : Table α) : Table α := u.entries.foldl (fun acc e => acc.put e.1 e.2) t

def ofList (entries : List (String × α)) : Table α := entries.foldl (fun acc e => acc.put e.1 e.2) empty

@[simp] theorem get?_empty (key : String) : (empty : Table α).get? key = none := rfl

theorem lookup_putEntry (key k : String) (value : α) (l : List (String × α)) :
    (putEntry key value l).lookup k = if k = key then some value else l.lookup k := by
  induction l with
  | nil =>
    by_cases h : k = key
    · simp [putEntry, h]
    · have : (k == key) = false := by simpa using h
      simp [putEntry, List.lookup_cons, h, this]
  | cons e l ih =>
    obtain ⟨k', v'⟩ := e
    by_cases hk : k' = key
    · subst hk
      by_cases h : k = k'
      · simp [putEntry, h]
      · have : (k == k') = false := by simpa using h
        simp [putEntry, List.lookup_cons, h, this]
    · by_cases h : k = k'
      · subst h; simp [putEntry, hk]
      · have : (k == k') = false := by simpa using h
        simp [putEntry, hk, List.lookup_cons, this, ih]

/-- A table answers with the value last put under the key. -/
theorem get?_put (t : Table α) (key k : String) (value : α) :
    (t.put key value).get? k = if k = key then some value else t.get? k :=
  lookup_putEntry key k value t.entries

/-- Putting a known key moves nothing. -/
theorem keys_put_of_mem (t : Table α) (key : String) (value : α) (h : key ∈ t.keys) :
    (t.put key value).keys = t.keys :=
  keys_putEntry_of_mem key value t.entries h

theorem putEntry_of_lookup {key : String} {value : α} {l : List (String × α)}
    (h : l.lookup key = some value) : putEntry key value l = l := by
  induction l with
  | nil => cases h
  | cons e l ih =>
    obtain ⟨k, v⟩ := e
    by_cases hk : k = key
    · subst hk
      rw [List.lookup_cons_self] at h
      simp [putEntry, Option.some.inj h]
    · have hne : (key == k) = false := by simpa using Ne.symm hk
      rw [List.lookup_cons, hne] at h
      simp [putEntry, hk, ih h]

/-- Putting what a key already has changes nothing. -/
theorem put_of_get? {t : Table α} {key : String} {value : α} (h : t.get? key = some value) :
    t.put key value = t := by
  obtain ⟨entries, nodup⟩ := t
  have hentries : putEntry key value entries = entries := putEntry_of_lookup h
  simp only [put, hentries]

/-- A table holds each of its entries. -/
theorem get?_eq_some_iff {t : Table α} {key : String} {value : α} :
    t.get? key = some value ↔ (key, value) ∈ t.entries := by
  unfold get?
  constructor
  · intro h
    obtain ⟨before, after, hentries, -⟩ := List.lookup_eq_some_iff.1 h
    rw [hentries]
    exact List.mem_append_right before List.mem_cons_self
  · intro h
    obtain ⟨before, after, hentries⟩ := List.append_of_mem h
    refine List.lookup_eq_some_iff.2 ⟨before, after, hentries, fun e he => ?_⟩
    have hnodup := t.nodup
    rw [hentries, List.map_append, List.nodup_append] at hnodup
    have hne := hnodup.2.2 e.1 (List.mem_map_of_mem he) key (by simp)
    simpa using Ne.symm hne

/-- A new key goes to the end. -/
theorem entries_put_of_not_mem (t : Table α) (key : String) (value : α) (h : key ∉ t.keys) :
    (t.put key value).entries = t.entries ++ [(key, value)] :=
  putEntry_of_not_mem key value t.entries h

end Table

end Yardstick
