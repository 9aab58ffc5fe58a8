import Yardstick.Proofs.Metric.LongestPrefix
import Yardstick.Proofs.Metric.Slug

/-!
# Prefixes of names

A name loses the longest prefix of the table that it starts with, so taking the prefix off the name of
a base metric gives the slug back unless the name starts with a longer prefix. Only the prefix of a
count is the start of others: where the slug of a count goes on as one of those does, the name reads as
the name of the other aggregation over the rest of the slug (`ReadsAs`), and in no other way do two
names coincide (`namePrefix_append_eq_iff`).
-/

namespace Yardstick

/-! ## Taking a prefix off -/

theorem namePrefix_mem (a : Aggregation) : a.namePrefix ∈ namePrefixes := by
  cases a <;> decide

theorem exists_namePrefix : ∀ p ∈ namePrefixes, ∃ a ∈ Aggregation.all, a.namePrefix = p := by
  decide

theorem remainder_withoutPrefix (name : String) : Remainder namePrefixes name (withoutPrefix name) :=
  (remainder_withoutPrefixOf prefixTable name).congr fun _ => mem_longestFirst.symm

/-- Nothing is lost but a prefix of the table. -/
theorem eq_append_withoutPrefix (name : String) :
    withoutPrefix name = name ∨ ∃ p ∈ namePrefixes, name = p ++ withoutPrefix name :=
  (remainder_withoutPrefix name).eq_or_eq_append

/-- A prefix comes off if something is left and the name starts with no longer one. -/
theorem withoutPrefix_append {p rest : String} (hp : p ∈ namePrefixes) (hrest : rest ≠ "")
    (hlongest : ∀ q ∈ namePrefixes, q.toList <+: (p ++ rest).toList → q.length ≤ p.length) :
    withoutPrefix (p ++ rest) = rest := by
  have hstarts : p.toList <+: (p ++ rest).toList := by
    rw [String.toList_append]
    exact List.prefix_append _ _
  exact (remainder_withoutPrefix _).unique (.of_append ⟨hp, hstarts, hlongest⟩ hrest)

/-! ## Names of base metrics -/

/-- How the prefix of an aggregation goes on where that of a count ends, if it starts with it. -/
def Aggregation.word? : Aggregation → Option String
  | uniqueCount => some "uniq_"
  | countWithValue => some "with_"
  | _ => none

/-- The name of `a` over the slug `s` reads as the name of `b` over `s'`: `a` is a count, and `s` goes
on with the word that makes its prefix that of `b`. -/
def ReadsAs (a : Aggregation) (s : String) (b : Aggregation) (s' : String) : Prop :=
  a = .count ∧ ∃ word, b.word? = some word ∧ s = word ++ s'

section

variable {a b : Aggregation} {s s' word module id name : String}

theorem Aggregation.namePrefix_of_word? (h : b.word? = some word) :
    b.namePrefix = Aggregation.count.namePrefix ++ word := by
  cases b <;> cases h <;> decide

theorem Aggregation.eq_or_word?_of_startsWith (a b : Aggregation)
    (h : a.namePrefix.toList <+: b.namePrefix.toList) :
    a = b ∨ a = .count ∧ ∃ word, b.word? = some word := by
  rw [← List.isPrefixOf_iff_prefix] at h
  cases a <;> cases b <;> first | exact .inl rfl | exact .inr ⟨rfl, _, rfl⟩ | exact absurd h (by decide)

theorem ReadsAs.append_eq (h : ReadsAs a s b s') : a.namePrefix ++ s = b.namePrefix ++ s' := by
  obtain ⟨rfl, word, hword, rfl⟩ := h
  rw [Aggregation.namePrefix_of_word? hword, String.append_assoc]

theorem eq_or_readsAs_of_startsWith (hstarts : a.namePrefix.toList <+: b.namePrefix.toList)
    (heq : a.namePrefix ++ s = b.namePrefix ++ s') : (a = b ∧ s = s') ∨ ReadsAs a s b s' := by
  rcases a.eq_or_word?_of_startsWith b hstarts with rfl | ⟨rfl, word, hword⟩
  · exact .inl ⟨rfl, (String.append_right_inj _).1 heq⟩
  · rw [Aggregation.namePrefix_of_word? hword, String.append_assoc] at heq
    exact .inr ⟨rfl, word, hword, (String.append_right_inj _).1 heq⟩

/-- Two names coincide only where aggregation and slug do, or where the one reads as the other. -/
theorem namePrefix_append_eq_iff : a.namePrefix ++ s = b.namePrefix ++ s' ↔
    (a = b ∧ s = s') ∨ ReadsAs a s b s' ∨ ReadsAs b s' a s := by
  constructor
  · intro heq
    have hlists : a.namePrefix.toList ++ s.toList = b.namePrefix.toList ++ s'.toList := by
      rw [← String.toList_append, heq, String.toList_append]
    have hstarts : a.namePrefix.toList <+: b.namePrefix.toList ++ s'.toList :=
      hlists ▸ List.prefix_append _ _
    rcases List.prefix_or_prefix_of_prefix hstarts (List.prefix_append _ _) with hab | hba
    · exact (eq_or_readsAs_of_startsWith hab heq).imp_right .inl
    · rcases eq_or_readsAs_of_startsWith hba heq.symm with ⟨rfl, rfl⟩ | h
      · exact .inl ⟨rfl, rfl⟩
      · exact .inr (.inr h)
  · rintro (⟨rfl, rfl⟩ | h | h)
    · rfl
    · exact h.append_eq
    · exact h.append_eq.symm

theorem withoutPrefix_namePrefix_append (hs : s ≠ "") (h : ∀ b s', ¬ ReadsAs a s b s') :
    withoutPrefix (a.namePrefix ++ s) = s := by
  refine withoutPrefix_append (namePrefix_mem a) hs fun q hq hprefix => ?_
  obtain ⟨b, -, rfl⟩ := exists_namePrefix q hq
  obtain ⟨rest, hrest⟩ := hprefix
  have heq : a.namePrefix ++ s = b.namePrefix ++ String.ofList rest := by
    rw [← String.toList_inj, ← hrest, String.toList_append, String.toList_ofList]
  rcases namePrefix_append_eq_iff.1 heq with ⟨rfl, -⟩ | hab | ⟨rfl, word, hword, -⟩
  · exact Nat.le_refl _
  · exact absurd hab (h b _)
  · rw [Aggregation.namePrefix_of_word? hword, String.length_append]
    exact Nat.le_add_right _ _

theorem ReadsAs.withoutPrefix_eq (h : ReadsAs a s b s') (hs' : s' ≠ "") :
    withoutPrefix (a.namePrefix ++ s) = s' := by
  rw [h.append_eq]
  refine withoutPrefix_namePrefix_append hs' ?_
  rintro c s'' ⟨rfl, -⟩
  obtain ⟨-, word, hword, -⟩ := h
  cases hword

theorem ReadsAs.ne (h : ReadsAs a s b s') : s' ≠ s := by
  obtain ⟨-, word, hword, rfl⟩ := h
  intro heq
  have hlength := congrArg String.length heq
  rw [String.length_append] at hlength
  have hword : word.length = 5 := by cases b <;> cases hword <;> rfl
  omega

theorem baseName_eq_ok_iff :
    baseName a module id = .ok name ↔ ∃ s, slug module id = .ok s ∧ name = a.namePrefix ++ s := by
  unfold baseName
  cases slug module id with
  | error e => simp [Except.map]
  | ok s => simp [Except.map, eq_comm]

/-- A slug does not end with the underscore of a word, so something is left of it after the word. -/
theorem ReadsAs.ne_empty (h : ReadsAs a s b s') (hs : slug module id = .ok s) : s' ≠ "" := by
  obtain ⟨-, word, hword, rfl⟩ := h
  rintro rfl
  have hvalid := valid_of_slug hs
  rw [String.append_empty] at hvalid
  cases b <;> cases hword
  · exact hvalid.ne_append_underscore "uniq".toList (by decide)
  · exact hvalid.ne_append_underscore "with".toList (by decide)

/-- Taking the prefix off the name of a base metric gives the slug of its dimension, unless the name
reads as that of another aggregation: then, the longer prefix being taken off, it gives the rest of
the slug. -/
theorem withoutPrefix_baseName (h : baseName a module id = .ok name) :
    ∃ s, slug module id = .ok s ∧ (withoutPrefix name = s ↔ ¬ ∃ b s', ReadsAs a s b s') ∧
      ∀ b s', ReadsAs a s b s' → withoutPrefix name = s' := by
  obtain ⟨s, hs, rfl⟩ := baseName_eq_ok_iff.1 h
  have hrest {b : Aggregation} {s' : String} (h : ReadsAs a s b s') :
      withoutPrefix (a.namePrefix ++ s) = s' := h.withoutPrefix_eq (h.ne_empty hs)
  refine ⟨s, hs, ⟨?_, ?_⟩, fun b s' => hrest⟩
  · rintro heq ⟨b, s', hreads⟩
    exact hreads.ne ((hrest hreads).symm.trans heq)
  · intro hnone
    have hne : s ≠ "" := by
      rintro rfl
      exact (valid_of_slug hs).ne_nil rfl
    exact withoutPrefix_namePrefix_append hne fun b s' hreads => hnone ⟨b, s', hreads⟩

/-- The name of a count that reads as a count of entries with a value. -/
theorem withoutPrefix_baseName_withProfile :
    baseName .count "With" "profile" = .ok "nb_with_profile" ∧
    ReadsAs .count "with_profile" .countWithValue "profile" ∧
    ∃ s, slug "With" "profile" = .ok s ∧
      (withoutPrefix "nb_with_profile" = s ↔ ¬ ∃ b s', ReadsAs .count s b s') ∧
      ∀ b s', ReadsAs .count s b s' → withoutPrefix "nb_with_profile" = s' := by
  have hname : baseName .count "With" "profile" = .ok "nb_with_profile" := rfl
  exact ⟨hname, ⟨rfl, "with_", rfl, rfl⟩, withoutPrefix_baseName hname⟩

/-- A count whose name loses a part of the slug with the prefix. -/
theorem withoutPrefix_ne_slug_uniqVisitor :
    baseName .count "Uniq" "Visitor" = .ok "nb_uniq_visitor" ∧
    slug "Uniq" "Visitor" = .ok "uniq_visitor" ∧
    withoutPrefix "nb_uniq_visitor" = "visitor" ∧ "visitor" ≠ "uniq_visitor" :=
  ⟨rfl, rfl, by decide, by decide⟩

end

end Yardstick
