import Yardstick.Session.Documents

/-!
# Listed paths

The JSON files of a directory are listed by name, as paths below the path of the directory
(`Store.exists_listing`). A listed path of a base is already one that was seen from the base. To see it
from there once more leaves it as it is exactly if the base is empty or the path absolute
(`Base.resolve_child_eq_iff`).
-/

namespace Yardstick

/-! ## Paths seen from a base twice -/

namespace Path

variable {p q : Path} {name : String}

theorem child_injective (h : p.child name = q.child name) : p = q := by
  cases p with | mk root parts =>
  cases q with | mk root' parts' =>
  obtain ⟨rfl, hparts⟩ := Path.mk.inj h
  exact congrArg _ (List.append_cancel_right hparts)

theorem isAbsolute_child : (p.child name).isAbsolute = p.isAbsolute := rfl

theorem join_child : p.join (q.child name) = (p.join q).child name := by
  unfold join
  rw [isAbsolute_child]
  split
  · rfl
  · unfold child
    rw [List.append_assoc]

theorem join_of_isAbsolute (h : q.isAbsolute = true) : p.join q = q := if_pos h

theorem join_of_relative (h : q.isAbsolute = false) : p.join q = { p with parts := p.parts ++ q.parts } :=
  if_neg (by simp [h])

end Path

namespace Base

variable {base : Base} {p : Path} {name : String}

/-- Whether a path that was seen from the base is the same when it is seen from there again. -/
def Settles (base : Base) (p : Path) : Prop :=
  base = none ∨ base = some ⟨"", []⟩ ∨ (base.resolve p).isAbsolute = true

theorem resolve_child : base.resolve (p.child name) = (base.resolve p).child name := by
  cases base with
  | none => rfl
  | some b => exact Path.join_child

/-- A relative base in front of itself is the base only if it is empty. -/
theorem resolve_resolve_eq_iff : base.resolve (base.resolve p) = base.resolve p ↔ base.Settles p := by
  cases base with
  | none => exact iff_of_true rfl (.inl rfl)
  | some b =>
    show b.join (b.join p) = b.join p ↔
      some b = none ∨ some b = some ⟨"", []⟩ ∨ (b.join p).isAbsolute = true
    cases habsolute : (b.join p).isAbsolute with
    | true => exact iff_of_true (Path.join_of_isAbsolute habsolute) (.inr (.inr rfl))
    | false =>
      have hp : p.isAbsolute = false := by
        cases hp : p.isAbsolute with
        | false => rfl
        | true => exact hp.symm.trans (Path.join_of_isAbsolute hp ▸ habsolute)
      rw [Path.join_of_relative habsolute, Path.join_of_relative hp] at *
      have hroot : b.root = "" := by simpa [Path.isAbsolute] using habsolute
      obtain ⟨root, parts⟩ := b
      obtain rfl : root = "" := hroot
      simp

/-- A path below one that was seen from the base. -/
theorem resolve_child_eq_iff :
    base.resolve ((base.resolve p).child name) = (base.resolve p).child name ↔ base.Settles p := by
  rw [resolve_child, ← resolve_resolve_eq_iff]
  exact ⟨Path.child_injective, congrArg (Path.child · name)⟩

end Base

/-! ## Directories -/

namespace Store

variable {s : Store} {place : Place} {d : Path} {name : String} {paths : List Path}

/-- Whether the store has an entry of this name in a directory. -/
def HasEntry (s : Store) (place : Place) (name : String) : Prop :=
  { place with names := name :: place.names } ∈ s.nodes.map (·.1)

theorem mem_children : name ∈ s.children place ↔ s.HasEntry place name := by
  unfold children HasEntry
  rw [List.mem_eraseDups, List.mem_filterMap, List.mem_map]
  constructor
  · rintro ⟨⟨q, n⟩, hq, h⟩
    refine ⟨(q, n), hq, ?_⟩
    obtain ⟨absolute, up, names⟩ := q
    cases names with
    | nil => cases h
    | cons first names =>
      simp only [Option.ite_none_right_eq_some, Option.some.injEq] at h
      obtain ⟨rfl, rfl⟩ := h
      rfl
  · rintro ⟨⟨q, n⟩, hq, rfl⟩
    exact ⟨_, hq, by simp⟩

/-- Some paths are the JSON files of a directory, in the order of their names. -/
def Lists (s : Store) (d : Path) (paths : List Path) : Prop :=
  ∃ (place : Place) (names : List String), s.locate d = .ok place ∧ paths = names.map d.child ∧
    names.Pairwise (· < ·) ∧ ∀ name, name ∈ names ↔ s.HasEntry place name ∧ ".json".toList <:+ name.toList

theorem nodup_eraseDups : ∀ names : List String, names.eraseDups.Nodup
  | [] => List.nodup_nil
  | name :: names => by
    rw [List.eraseDups_cons, List.nodup_cons, List.mem_eraseDups]
    exact ⟨by simp, nodup_eraseDups _⟩
termination_by names => names.length
decreasing_by exact Nat.lt_succ_of_le (List.length_filter_le ..)

theorem pairwise_lt_mergeSort {names : List String} (h : names.Nodup) :
    (names.mergeSort fun a b => !(b < a)).Pairwise (· < ·) := by
  have hsorted : (names.mergeSort fun a b => !(b < a)).Pairwise (· ≤ ·) := by
    refine (List.pairwise_mergeSort (fun a b c hab hbc => ?_) (fun a b => ?_) names).imp fun h => ?_
    · simp only [Bool.not_eq_true', decide_eq_false_iff_not, String.not_lt] at hab hbc ⊢
      exact String.le_trans hab hbc
    · simp only [Bool.or_eq_true, Bool.not_eq_true', decide_eq_false_iff_not, String.not_lt]
      exact String.le_total a b
    · simpa only [Bool.not_eq_true', decide_eq_false_iff_not, String.not_lt] using h
  have hnodup := (List.mergeSort_perm names fun a b => !(b < a)).nodup_iff.2 h
  refine hsorted.imp₂ (fun a b hle hne => String.not_le.1 fun hge => ?_) hnodup
  exact hne (String.le_antisymm hle hge)

/-- Names in their order are what sorting makes of the same names in another. -/
theorem mergeSort_eq_of_perm {names sorted : List String} (h : names.Perm sorted)
    (hsorted : sorted.Pairwise (· < ·)) : (names.mergeSort fun a b => !(b < a)) = sorted := by
  have hdifferent : sorted.Nodup := by
    refine hsorted.imp fun {a b} hlt heq => ?_
    subst heq
    exact String.lt_irrefl a hlt
  have hnodup := h.nodup_iff.2 hdifferent
  have hperm := (List.mergeSort_perm names fun a b => !(b < a)).trans h
  refine hperm.eq_of_pairwise (fun a b _ _ hab hba => ?_) (pairwise_lt_mergeSort hnodup) hsorted
  exact absurd hba (String.lt_asymm hab)

/-- A directory has a listing. -/
theorem exists_listing (h : s.isDirectory d = true) :
    ∃ paths, s.listJson d = .ok paths ∧ s.Lists d paths := by
  unfold isDirectory at h
  unfold listJson
  split at h
  · next place hplace =>
    rw [hplace]
    refine ⟨_, if_pos h, place, _, hplace, rfl, ?_, fun name => ?_⟩
    · exact pairwise_lt_mergeSort ((nodup_eraseDups _).filter _)
    · rw [List.mem_mergeSort, List.mem_filter, mem_children, List.isSuffixOf_iff_suffix]
  · cases h

end Store

end Yardstick
