import Mathlib.Data.List.Sort
import Yardstick.Metric.Name

/-!
# Longest prefixes

The prefixes of a table are tried from the longest to the shortest, and a name that is one of them is
kept. So what is left of a name depends only on which prefixes the table has, not on their order: it is
the name itself or what follows the longest prefix that the name starts with (`remainder_iff`), and it is
empty only if the name is.
-/

namespace Yardstick

/-! ## Tables of prefixes -/

/-- The prefixes of a table, a longer one before a shorter one. -/
def longestFirst (table : List String) : List String := table.foldr insertPrefix []

/-- A name without the longest prefix of a table that it starts with. -/
def withoutPrefixOf (table : List String) (name : String) : String :=
  if (longestFirst table).contains name then name
  else
    match (longestFirst table).find? fun p => p.toList.isPrefixOf name.toList with
    | some p => String.ofList (name.toList.drop p.length)
    | none => name

/-- The prefixes of base metrics, by aggregation. -/
def prefixTable : List String := Aggregation.all.map Aggregation.namePrefix

theorem withoutPrefix_eq (name : String) : withoutPrefix name = withoutPrefixOf prefixTable name := rfl

section

variable {table table' : List String} {name p q r r' : String}

theorem insertPrefix_eq (p : String) (l : List String) :
    insertPrefix p l = l.orderedInsert (fun p q => q.length ≤ p.length) p := by
  induction l with
  | nil => rfl
  | cons q l ih => rw [insertPrefix, List.orderedInsert_cons, ih]

theorem longestFirst_eq (table : List String) :
    longestFirst table = table.insertionSort fun p q => q.length ≤ p.length := by
  unfold longestFirst List.insertionSort
  congr
  funext p l
  exact insertPrefix_eq p l

theorem mem_longestFirst : p ∈ longestFirst table ↔ p ∈ table := by
  rw [longestFirst_eq]
  exact List.mem_insertionSort _

theorem pairwise_longestFirst (table : List String) :
    (longestFirst table).Pairwise fun p q => q.length ≤ p.length := by
  rw [longestFirst_eq]
  have : Std.Total fun p q : String => q.length ≤ p.length := ⟨fun p q => Nat.le_total _ _⟩
  have : IsTrans String fun p q => q.length ≤ p.length := ⟨fun _ _ _ hpq hqr => Nat.le_trans hqr hpq⟩
  exact List.pairwise_insertionSort _ _

/-! ## The longest prefix of a name -/

/-- Of the prefixes of a table that a name starts with, `p` is the longest. -/
structure LongestPrefix (table : List String) (name p : String) : Prop where
  mem : p ∈ table
  starts : p.toList <+: name.toList
  longest : ∀ q ∈ table, q.toList <+: name.toList → q.length ≤ p.length

theorem LongestPrefix.unique (hp : LongestPrefix table name p) (hq : LongestPrefix table name q) :
    p = q := by
  have hlength : p.toList.length = q.toList.length := by
    rw [String.length_toList, String.length_toList]
    exact Nat.le_antisymm (hq.longest p hp.mem hp.starts) (hp.longest q hq.mem hq.starts)
  have hstarts := List.prefix_of_prefix_length_le hp.starts hq.starts hlength.le
  exact String.toList_inj.1 (hstarts.eq_of_length hlength)

/-- The first prefix in the order of lengths that a name starts with is the longest. -/
theorem longestPrefix_of_find?
    (h : (longestFirst table).find? (fun p => p.toList.isPrefixOf name.toList) = some p) :
    LongestPrefix table name p := by
  obtain ⟨hp, before, after, htable, hbefore⟩ := List.find?_eq_some_iff_append.1 h
  refine ⟨mem_longestFirst.1 (List.mem_of_find?_eq_some h), List.isPrefixOf_iff_prefix.1 hp,
    fun q hq hstarts => ?_⟩
  have hsorted := pairwise_longestFirst table
  rw [← mem_longestFirst, htable] at hq
  rw [htable] at hsorted
  rcases List.mem_append.1 hq with hq | hq
  · have hnot := hbefore q hq
    rw [List.isPrefixOf_iff_prefix.2 hstarts] at hnot
    cases hnot
  · rcases List.mem_cons.1 hq with rfl | hq
    · exact Nat.le_refl _
    · exact (List.pairwise_cons.1 (List.pairwise_append.1 hsorted).2.1).1 q hq

/-! ## What is left of a name -/

/-- What a table of prefixes leaves of a name. -/
inductive Remainder (table : List String) (name : String) : String → Prop
  /-- The name is a prefix itself, or starts with none. -/
  | whole : (name ∈ table ∨ ∀ p ∈ table, ¬ p.toList <+: name.toList) → Remainder table name name
  /-- What follows the longest prefix. -/
  | rest {p r : String} : name ∉ table → LongestPrefix table name p → name = p ++ r →
      Remainder table name r

theorem remainder_withoutPrefixOf (table : List String) (name : String) :
    Remainder table name (withoutPrefixOf table name) := by
  unfold withoutPrefixOf
  split
  · next hmem => exact .whole (.inl (mem_longestFirst.1 (List.contains_iff_mem.1 hmem)))
  · next hnew =>
    have hnew : name ∉ table := by rwa [List.contains_iff_mem, mem_longestFirst] at hnew
    split
    · next p hfind =>
      have hp := longestPrefix_of_find? hfind
      refine .rest hnew hp ?_
      obtain ⟨rest, hrest⟩ := hp.starts
      rw [← hrest, ← String.length_toList, List.drop_left, ← String.toList_inj, String.toList_append,
        String.toList_ofList, hrest]
    · next hfind =>
      refine .whole (.inr fun p hp hstarts => ?_)
      exact List.find?_eq_none.1 hfind p (mem_longestFirst.2 hp) (List.isPrefixOf_iff_prefix.2 hstarts)

namespace Remainder

theorem unique (h : Remainder table name r) (h' : Remainder table name r') : r = r' := by
  cases h with
  | whole hwhole =>
    cases h' with
    | whole _ => rfl
    | rest hnew hp _ => exact absurd hp.starts (hwhole.resolve_left hnew _ hp.mem)
  | rest hnew hp hname =>
    cases h' with
    | whole hwhole => exact absurd hp.starts (hwhole.resolve_left hnew _ hp.mem)
    | rest _ hq hname' =>
      obtain rfl := hp.unique hq
      exact (String.append_right_inj _).1 (hname.symm.trans hname')

/-- Only which prefixes there are counts. -/
theorem congr (h : Remainder table name r) (htables : ∀ p, p ∈ table ↔ p ∈ table') :
    Remainder table' name r := by
  cases h with
  | whole hwhole =>
    exact .whole (hwhole.imp (htables name).1 fun hnone p hp => hnone p ((htables p).2 hp))
  | rest hnew hp hname =>
    refine .rest (mt (htables name).2 hnew) ⟨(htables _).1 hp.mem, hp.starts, fun q hq => ?_⟩ hname
    exact hp.longest q ((htables q).2 hq)

/-- Nothing is lost but a prefix of the table. -/
theorem eq_or_eq_append (h : Remainder table name r) : r = name ∨ ∃ p ∈ table, name = p ++ r := by
  cases h with
  | whole _ => exact .inl rfl
  | rest _ hp hname => exact .inr ⟨_, hp.mem, hname⟩

theorem suffix (h : Remainder table name r) : r.toList <:+ name.toList := by
  rcases h.eq_or_eq_append with rfl | ⟨p, -, rfl⟩
  · exact List.suffix_refl _
  · rw [String.toList_append]
    exact List.suffix_append _ _

/-- A name of which nothing would be left is a prefix, and is kept. -/
theorem ne_empty (h : Remainder table name r) (hname : name ≠ "") : r ≠ "" := by
  cases h with
  | whole _ => exact hname
  | rest hnew hp hrest =>
    rintro rfl
    rw [String.append_empty] at hrest
    exact hnew (hrest ▸ hp.mem)

/-- A name that goes on after its longest prefix is none of the table. -/
theorem of_append (hp : LongestPrefix table (p ++ r) p) (hr : r ≠ "") : Remainder table (p ++ r) r := by
  refine .rest (fun hmem => ?_) hp rfl
  have hlength := hp.longest _ hmem (List.prefix_refl _)
  rw [String.length_append] at hlength
  have hzero : r.length = 0 := by omega
  exact hr (String.length_eq_zero_iff.1 hzero)

end Remainder

theorem remainder_iff : Remainder table name r ↔ r = withoutPrefixOf table name := by
  constructor
  · exact fun h => h.unique (remainder_withoutPrefixOf table name)
  · rintro rfl
    exact remainder_withoutPrefixOf table name

theorem withoutPrefixOf_congr (h : ∀ p, p ∈ table ↔ p ∈ table') :
    withoutPrefixOf table name = withoutPrefixOf table' name :=
  remainder_iff.1 ((remainder_withoutPrefixOf table name).congr h)

end

end Yardstick
