import Mathlib.Data.List.Nodup
import Yardstick.Csv.Header

/-!
# Names of a header

Names that are all different are kept. At most one of them is empty then, and the column without a name
is the last to get one, which none of the others has (`columnNames_of_nodup`). That there is such a name
within the attempts follows by counting: the numbered names are all different, and more of them are tried
than there are columns (`exists_candidate_not_mem`).
-/

namespace Yardstick.Csv

variable {header names : List String} {name fresh : String} {counts : Counts} {fuel count i : Nat}

/-! ## Numbered names -/

/-- A name with a number after a point. -/
def candidate (name : String) (count : Nat) : String := s!"{name}.{count}"

theorem getD_eq_getElem (hi : i < names.length) : names.getD i "" = names[i] := by
  rw [List.getD_eq_getElem?_getD, List.getElem?_eq_getElem hi, Option.getD_some]

theorem toList_candidate (name : String) (count : Nat) :
    (candidate name count).toList = name.toList ++ '.' :: Nat.toDigits 10 count := by
  simp [candidate]
  rfl

theorem candidate_ne_empty (name : String) (count : Nat) : candidate name count ≠ "" := by
  intro h
  have hlists := congrArg String.toList h
  rw [toList_candidate] at hlists
  simp at hlists

theorem candidate_injective {m n : Nat} (h : candidate name m = candidate name n) : m = n := by
  have hlists := congrArg String.toList h
  rw [toList_candidate, toList_candidate] at hlists
  have hdigits := (List.cons.inj (List.append_cancel_left hlists)).2
  rw [← Nat.ofDigitChars_ten_toDigits (n := m), hdigits, Nat.ofDigitChars_ten_toDigits]

theorem exists_candidate_not_mem (names : List String) (name : String) (count : Nat) :
    ∃ i < names.length + 1, candidate name (count + i) ∉ names := by
  by_contra hnone
  have hall : (List.range (names.length + 1)).map (fun i => candidate name (count + i)) ⊆ names := by
    intro n hn
    obtain ⟨i, hi, rfl⟩ := List.mem_map.1 hn
    by_contra hmem
    exact hnone ⟨i, List.mem_range.1 hi, hmem⟩
  have hnodup : ((List.range (names.length + 1)).map fun i => candidate name (count + i)).Nodup :=
    List.nodup_range.map fun _ _ h => Nat.add_left_cancel (candidate_injective h)
  have hlength := hnodup.length_le_of_subset hall
  simp only [List.length_map, List.length_range] at hlength
  exact absurd hlength (Nat.not_succ_le_self _)

theorem countOf_eq_zero (h : name ∉ counts.map (·.1)) : countOf counts name = 0 := by
  have hnone : counts.lookup name = none := by
    rw [List.lookup_eq_none_iff]
    rintro ⟨k, n⟩ hk
    have hne : name ≠ k := fun heq => h (heq ▸ List.mem_map_of_mem hk)
    simpa using hne
  unfold countOf
  rw [hnone]
  rfl

/-- A number is found under which the name is free, if there is one within the attempts. -/
theorem numbered_not_mem (hcounts : counts.map (·.1) ⊆ names) (hname : name ∈ names)
    (hfree : ∃ i < fuel, candidate name (count + i) ∉ names) :
    (numbered names name fuel count counts).1 ∉ names ∧
      (numbered names name fuel count counts).1 ≠ "" := by
  induction fuel generalizing count counts with
  | zero => obtain ⟨i, hi, -⟩ := hfree; cases hi
  | succ fuel ih =>
    have hcounts' : ((name, count + 1) :: counts).map (·.1) ⊆ names :=
      List.cons_subset.2 ⟨hname, hcounts⟩
    rw [numbered]
    simp only [← candidate.eq_1]
    split
    · next htaken =>
      refine ih hcounts' ?_
      obtain ⟨i, hi, hfree⟩ := hfree
      cases i with
      | zero => exact absurd (by simpa using htaken) hfree
      | succ i => exact ⟨i, Nat.lt_of_succ_lt_succ hi, by rwa [Nat.add_right_comm count 1 i]⟩
    · next hfree' =>
      have hnot : candidate name count ∉ names := by simpa using hfree'
      rw [countOf_eq_zero fun h => hnot (hcounts' h)]
      exact ⟨hnot, candidate_ne_empty name count⟩

/-! ## Claiming names in turn -/

/-- A name that nobody asked for before is kept. -/
theorem claimName_of_new (hname : names[i]? = some name) (hnew : name ∉ counts.map (·.1)) :
    claimName (names, counts) i = (names, (name, 1) :: counts) := by
  have hget : names.getD i "" = name := by rw [List.getD_eq_getElem?_getD, hname, Option.getD_some]
  obtain ⟨hi, hname⟩ := List.getElem?_eq_some_iff.1 hname
  unfold claimName
  simp only [hget, countOf_eq_zero hnew]
  rw [← hname, List.set_getElem_self]

/-- The names asked for, each by one column. -/
def asked (names : List String) (positions : List Nat) : Counts :=
  (positions.map fun i => (names.getD i "", 1)).reverse

theorem foldl_claimName_of_new {positions : List Nat} (hlt : ∀ i ∈ positions, i < names.length)
    (hnodup : (positions.map fun i => names.getD i "").Nodup)
    (hnew : ∀ i ∈ positions, names.getD i "" ∉ counts.map (·.1)) :
    positions.foldl claimName (names, counts) = (names, asked names positions ++ counts) := by
  induction positions generalizing counts with
  | nil => rfl
  | cons i positions ih =>
    rw [List.forall_mem_cons] at hlt hnew
    rw [List.map_cons, List.nodup_cons] at hnodup
    have hget : names[i]? = some (names.getD i "") := by
      rw [getD_eq_getElem hlt.1, List.getElem?_eq_getElem hlt.1]
    have hnew' : ∀ j ∈ positions, names.getD j "" ∉ ((names.getD i "", 1) :: counts).map (·.1) := by
      intro j hj hmem
      rcases List.mem_cons.1 hmem with heq | hmem
      · exact hnodup.1 (List.mem_map.2 ⟨j, hj, heq⟩)
      · exact hnew.2 j hj hmem
    rw [List.foldl_cons, claimName_of_new hget hnew.1, ih hlt.2 hnodup.2 hnew']
    unfold asked
    rw [List.map_cons, List.reverse_cons, List.append_assoc, List.singleton_append]

theorem mem_asked {positions : List Nat} {n : String} :
    n ∈ (asked names positions).map (·.1) ↔ ∃ i ∈ positions, names.getD i "" = n := by
  simp [asked]

theorem asked_subset {positions : List Nat} (hlt : ∀ i ∈ positions, i < names.length) :
    (asked names positions).map (·.1) ⊆ names := by
  intro n hn
  obtain ⟨i, hi, rfl⟩ := mem_asked.1 hn
  rw [getD_eq_getElem (hlt i hi)]
  exact List.getElem_mem _

theorem countOf_asked_ne_zero {positions : List Nat} (h : name ∈ (asked names positions).map (·.1)) :
    countOf (asked names positions) name ≠ 0 := by
  cases hlookup : (asked names positions).lookup name with
  | none =>
    rw [List.lookup_eq_none_iff] at hlookup
    obtain ⟨e, he, rfl⟩ := List.mem_map.1 h
    simpa using hlookup e he
  | some n =>
    obtain ⟨before, after, hasked, -⟩ := List.lookup_eq_some_iff.1 hlookup
    have hmem : (name, n) ∈ asked names positions := hasked ▸ by simp
    have hn : n = 1 := by
      simp only [asked, List.mem_reverse, List.mem_map, Prod.mk.injEq] at hmem
      obtain ⟨_, _, _, hn⟩ := hmem
      exact hn.symm
    unfold countOf
    rw [hlookup, hn]
    exact Nat.one_ne_zero

/-- A column gets the name that it asks for if nobody has asked for it, else one that no column has. -/
theorem exists_claimName {positions : List Nat} (hpositions : ∀ j ∈ positions, j < names.length) (i : Nat) :
    ∃ fresh, (claimName (names, asked names positions) i).1 = names.set i fresh ∧
      ((fresh = names.getD i "" ∧ fresh ∉ (asked names positions).map (·.1)) ∨
        fresh ∉ names ∧ fresh ≠ "") := by
  by_cases hasked : names.getD i "" ∈ (asked names positions).map (·.1)
  · have hsubset := asked_subset hpositions
    have hcount := countOf_asked_ne_zero hasked
    unfold claimName
    refine ⟨_, rfl, .inr ?_⟩
    split
    · next hzero => exact absurd hzero hcount
    · exact numbered_not_mem hsubset (hsubset hasked) (exists_candidate_not_mem names _ _)
  · refine ⟨names.getD i "", ?_, .inl ⟨rfl, hasked⟩⟩
    unfold claimName
    simp only [countOf_eq_zero hasked]

/-! ## Headers of different names -/

/-- The names that the columns ask for. -/
def wanted (header : List String) : List String :=
  header.mapIdx fun i name => if name = "" then unnamed i else name

/-- The positions of the columns with a name. -/
def namedPositions (header : List String) : List Nat :=
  (List.range header.length).filter fun i => !(header.getD i "" = "" : Bool)

/-- The positions of those without. -/
def barePositions (header : List String) : List Nat :=
  (List.range header.length).filter fun i => (header.getD i "" = "" : Bool)

theorem columnNames_eq (header : List String) : columnNames header =
    ((namedPositions header ++ barePositions header).foldl claimName (wanted header, [])).1 := rfl

theorem unnamed_ne_empty (position : Nat) : unnamed position ≠ "" := by
  intro h
  have hlists := congrArg String.toList h
  simp [unnamed] at hlists

theorem length_wanted : (wanted header).length = header.length := List.length_mapIdx

theorem lt_length_wanted : i < (wanted header).length ↔ i < header.length := by rw [length_wanted]

theorem getElem_wanted (hi : i < (wanted header).length) : (wanted header)[i] =
    if header.getD i "" = "" then unnamed i else header.getD i "" := by
  rw [getD_eq_getElem (lt_length_wanted.1 hi)]
  exact List.getElem_mapIdx

theorem mem_namedPositions : i ∈ namedPositions header ↔ ∃ _ : i < header.length, header[i] ≠ "" := by
  unfold namedPositions
  rw [List.mem_filter, List.mem_range]
  constructor
  · rintro ⟨hi, hname⟩
    exact ⟨hi, by simpa [hi] using hname⟩
  · rintro ⟨hi, hname⟩
    exact ⟨hi, by simpa [hi] using hname⟩

theorem lt_of_mem_namedPositions : ∀ i ∈ namedPositions header, i < (wanted header).length :=
  fun _ hi => lt_length_wanted.2 (mem_namedPositions.1 hi).1

theorem getD_wanted (hi : i ∈ namedPositions header) : (wanted header).getD i "" = header.getD i "" := by
  obtain ⟨hi, hname⟩ := mem_namedPositions.1 hi
  rw [getD_eq_getElem (lt_length_wanted.2 hi), getElem_wanted, getD_eq_getElem hi, if_neg hname]

theorem mem_asked_wanted {n : String} (hn : n ∈ header) (hne : n ≠ "") :
    n ∈ (asked (wanted header) (namedPositions header)).map (·.1) := by
  obtain ⟨i, hi, rfl⟩ := List.mem_iff_getElem.1 hn
  have hnamed := mem_namedPositions.2 ⟨hi, hne⟩
  exact mem_asked.2 ⟨i, hnamed, by rw [getD_wanted hnamed, getD_eq_getElem hi]⟩

/-- All named columns get the names that they ask for. -/
theorem foldl_claimName_named (h : header.Nodup) :
    (namedPositions header).foldl claimName (wanted header, []) =
      (wanted header, asked (wanted header) (namedPositions header)) := by
  have hall : (List.range header.length).map (header.getD · "") = header := by
    refine List.ext_getElem (by simp) fun i _ hi => ?_
    rw [List.getElem_map, List.getElem_range, getD_eq_getElem hi]
  have hsublist : ((namedPositions header).map (header.getD · "")).Sublist header := by
    conv_rhs => rw [← hall]
    exact List.filter_sublist.map _
  rw [foldl_claimName_of_new, List.append_nil]
  · exact lt_of_mem_namedPositions
  · rw [List.map_congr_left fun i hi => getD_wanted hi]
    exact hsublist.nodup h
  · simp

theorem barePositions_eq_nil (h : "" ∉ header) : barePositions header = [] := by
  unfold barePositions
  rw [List.filter_eq_nil_iff]
  intro i hi hbare
  rw [List.mem_range] at hi
  refine h ?_
  rw [← of_decide_eq_true hbare, getD_eq_getElem hi]
  exact List.getElem_mem hi

theorem barePositions_eq_singleton (h : header.Nodup) (hi : i < header.length) (hget : header[i] = "") :
    barePositions header = [i] := by
  refine List.perm_singleton.1 ((List.perm_ext_iff_of_nodup ?_ (List.nodup_singleton i)).2 fun j => ?_)
  · exact List.nodup_range.filter _
  · unfold barePositions
    rw [List.mem_filter, List.mem_range, List.mem_singleton, decide_eq_true_eq]
    constructor
    · rintro ⟨hj, hbare⟩
      rw [getD_eq_getElem hj, ← hget] at hbare
      exact h.getElem_inj_iff.1 hbare
    · rintro rfl
      exact ⟨hi, by rw [getD_eq_getElem hi, hget]⟩

theorem wanted_eq_self (h : "" ∉ header) : wanted header = header := by
  refine List.ext_getElem length_wanted fun i _ hi => ?_
  have hname : header[i] ≠ "" := fun hname => h (hname ▸ List.getElem_mem hi)
  rw [getElem_wanted, getD_eq_getElem hi, if_neg hname]

theorem wanted_set (h : header.Nodup) (hi : i < header.length) (hget : header[i] = "") :
    (wanted header).set i fresh = header.set i fresh := by
  refine List.ext_getElem (by simp [length_wanted]) fun j hj _ => ?_
  rw [List.length_set, length_wanted] at hj
  rw [List.getElem_set, List.getElem_set]
  split
  · rfl
  · next hne =>
    have hname : header[j] ≠ "" := fun hname => hne (h.getElem_inj_iff.1 (hget.trans hname.symm))
    rw [getElem_wanted, getD_eq_getElem hj, if_neg hname]

/-- Different names are kept, and a column without a name gets one that is new. -/
theorem columnNames_of_nodup (h : header.Nodup) :
    "" ∉ header ∧ columnNames header = header ∨
      ∃ i fresh, header[i]? = some "" ∧ fresh ≠ "" ∧ fresh ∉ header ∧
        columnNames header = header.set i fresh := by
  rw [columnNames_eq, List.foldl_append, foldl_claimName_named h]
  by_cases hempty : "" ∈ header
  · obtain ⟨i, hi, hget⟩ := List.mem_iff_getElem.1 hempty
    have hi' : i < (wanted header).length := lt_length_wanted.2 hi
    obtain ⟨fresh, hclaim, hfresh⟩ := exists_claimName lt_of_mem_namedPositions i
    have hne : fresh ≠ "" := by
      rcases hfresh with ⟨rfl, -⟩ | ⟨-, hne⟩
      · rw [getD_eq_getElem hi', getElem_wanted, getD_eq_getElem hi, if_pos hget]
        exact unnamed_ne_empty i
      · exact hne
    have hnew : fresh ∉ header := by
      intro hmem
      rcases hfresh with ⟨-, hnot⟩ | ⟨hnot, -⟩
      · exact hnot (mem_asked_wanted hmem hne)
      · exact hnot (asked_subset lt_of_mem_namedPositions (mem_asked_wanted hmem hne))
    rw [barePositions_eq_singleton h hi hget, List.foldl_cons, List.foldl_nil, hclaim, wanted_set h hi hget]
    exact .inr ⟨i, fresh, by rw [List.getElem?_eq_getElem hi, hget], hne, hnew, rfl⟩
  · rw [barePositions_eq_nil hempty]
    exact .inl ⟨hempty, wanted_eq_self hempty⟩

theorem length_columnNames (h : header.Nodup) : (columnNames header).length = header.length := by
  rcases columnNames_of_nodup h with ⟨-, heq⟩ | ⟨i, fresh, -, -, -, heq⟩
  · rw [heq]
  · rw [heq, List.length_set]

theorem nodup_columnNames (h : header.Nodup) : (columnNames header).Nodup := by
  rcases columnNames_of_nodup h with ⟨-, heq⟩ | ⟨i, fresh, -, -, hnew, heq⟩
  · rwa [heq]
  · rw [heq]
    exact h.set hnew

theorem empty_not_mem_columnNames (h : header.Nodup) : "" ∉ columnNames header := by
  rcases columnNames_of_nodup h with ⟨hempty, heq⟩ | ⟨i, fresh, hget, hne, -, heq⟩
  · rwa [heq]
  · rw [heq]
    intro hmem
    obtain ⟨j, hj, hempty⟩ := List.mem_iff_getElem.1 hmem
    obtain ⟨hi, hget⟩ := List.getElem?_eq_some_iff.1 hget
    rw [List.getElem_set] at hempty
    split at hempty
    · exact hne hempty
    · next hij => exact hij (h.getElem_inj_iff.1 (hget.trans hempty.symm))

/-- A column that has a name keeps it. -/
theorem getElem?_columnNames (h : header.Nodup) (hget : header[i]? = some name) (hname : name ≠ "") :
    (columnNames header)[i]? = some name := by
  rcases columnNames_of_nodup h with ⟨-, heq⟩ | ⟨j, fresh, hempty, -, -, heq⟩
  · rwa [heq]
  · have hij : j ≠ i := by
      rintro rfl
      exact hname (Option.some.inj (hget.symm.trans hempty))
    rw [heq, List.getElem?_set_ne hij, hget]

end Yardstick.Csv
