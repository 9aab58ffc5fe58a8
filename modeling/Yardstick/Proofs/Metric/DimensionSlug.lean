import Yardstick.Proofs.Metric.Runs

/-!
# Slugs of dimensions

The slug of a dimension joins the maximal runs of slug characters in module and id, if there are any and the
id is not empty (`slug_joins_maximalRuns`). The id shows in it unless it has no slug characters
(`slug_keepsId_iff`): then the slug is that of the module alone.
-/

namespace Yardstick

open Text

namespace Slug

variable {c : Char} {s t : List Char}

/-! ## Lower case -/

theorem toNat_of_isSlugChar (hc : isSlugChar c = true) :
    97 ≤ c.toNat ∧ c.toNat ≤ 122 ∨ 48 ≤ c.toNat ∧ c.toNat ≤ 57 := by
  have hval : (decide (c.val ≥ 97) && decide (c.val ≤ 122) ||
      decide (c.val ≥ 48) && decide (c.val ≤ 57)) = true := hc
  simpa [UInt32.le_iff_toNat_le] using hval

theorem lowerChar_of_isSlugChar (hc : isSlugChar c = true) : lowerChar c = [c] := by
  have hrange := toNat_of_isSlugChar hc
  have hcapital : ¬ (c.val ≥ 'A'.val ∧ c.val ≤ 'Z'.val) := by
    rintro ⟨hA, hZ⟩
    have hlow : 65 ≤ c.toNat := UInt32.le_iff_toNat_le.1 hA
    have hhigh : c.toNat ≤ 90 := UInt32.le_iff_toNat_le.1 hZ
    omega
  have hsame : c.toLower = c := dif_neg hcapital
  rw [lowerChar, if_neg (by omega), if_neg (by omega), hsame]

theorem Valid.lower_eq (h : Valid s) : lower s = s := by
  have hcons {c : Char} (hc : lowerChar c = [c]) (s : List Char) : lower (c :: s) = c :: lower s :=
    congrArg (· ++ lower s) hc
  induction h with
  | single hc => exact hcons (lowerChar_of_isSlugChar hc) []
  | cons hc _ ih => rw [hcons (lowerChar_of_isSlugChar hc), ih]
  | underscore hc _ ih => rw [hcons (lowerChar_of_isSlugChar hc), hcons (by decide), ih]

theorem lower_append_underscore (s t : List Char) :
    lower (s ++ '_' :: t) = lower s ++ '_' :: lower t := List.flatMap_append

theorem forall_lower_append_iff : (∀ c ∈ lower (s ++ '_' :: t), isSlugChar c = false) ↔
    (∀ c ∈ lower s, isSlugChar c = false) ∧ ∀ c ∈ lower t, isSlugChar c = false := by
  rw [lower_append_underscore, List.forall_mem_append, List.forall_mem_cons]
  exact and_congr_right fun _ => and_iff_right (by decide)

/-- The runs of two texts with an underscore between them. -/
theorem ofChars_append_underscore (s t : List Char) :
    ofChars (s ++ '_' :: t) = join (runs (lower s) ++ runs (lower t)) := by
  rw [ofChars, lower_append_underscore, runs_append (by decide)]

theorem Valid.ofChars_append (hs : Valid s) (ht : Valid t) : ofChars (s ++ '_' :: t) = s ++ '_' :: t := by
  have hruns {s : List Char} (h : Valid s) : runs s ≠ [] := by
    intro hnil
    have hjoin := h.join_runs
    rw [hnil] at hjoin
    exact h.ne_nil hjoin.symm
  rw [ofChars_append_underscore, hs.lower_eq, ht.lower_eq, join_append (hruns hs) (hruns ht), hs.join_runs,
    ht.join_runs]

/-- A text with slug characters ends the slug of itself after another one. -/
theorem ofChars_suffix (s : List Char) {t : List Char} (ht : ∃ c ∈ lower t, isSlugChar c = true) :
    ofChars t ≠ [] ∧
      (ofChars (s ++ '_' :: t) = ofChars t ∨ '_' :: ofChars t <:+ ofChars (s ++ '_' :: t)) := by
  have hnone : ¬ ∀ c ∈ lower t, isSlugChar c = false := by simpa using ht
  have hruns : runs (lower t) ≠ [] := mt runs_eq_nil_iff.1 hnone
  refine ⟨mt join_runs_eq_nil_iff.1 hnone, ?_⟩
  rw [ofChars_append_underscore]
  by_cases hs : runs (lower s) = []
  · rw [hs]
    exact .inl rfl
  · rw [join_append hs hruns]
    exact .inr (List.suffix_append _ _)

end Slug

/-! ## Slugs of dimensions -/

section

variable {module id : String}

theorem slug_of_missing
    (h : id = "" ∨ ∀ c ∈ lower (module.toList ++ '_' :: id.toList), Slug.isSlugChar c = false) :
    slug module id = .error (.noSlug module id) := by
  unfold slug
  refine if_pos ?_
  rw [Bool.or_eq_true, decide_eq_true_iff, List.isEmpty_iff]
  exact h.imp_right Slug.join_runs_eq_nil_iff.2

theorem slug_of_present (hid : id ≠ "")
    (h : ¬ ∀ c ∈ lower (module.toList ++ '_' :: id.toList), Slug.isSlugChar c = false) :
    slug module id = .ok (String.ofList (Slug.ofChars (module.toList ++ '_' :: id.toList))) := by
  unfold slug
  refine if_neg ?_
  rw [Bool.or_eq_true, decide_eq_true_iff, List.isEmpty_iff]
  exact not_or.2 ⟨hid, mt Slug.join_runs_eq_nil_iff.1 h⟩

theorem slug_eq_error_iff {e : Error} : slug module id = .error e ↔
    (id = "" ∨ ∀ c ∈ lower (module.toList ++ '_' :: id.toList), Slug.isSlugChar c = false) ∧
      e = .noSlug module id := by
  by_cases h : id = "" ∨ ∀ c ∈ lower (module.toList ++ '_' :: id.toList), Slug.isSlugChar c = false
  · rw [slug_of_missing h, Except.error.injEq]
    exact ⟨fun he => ⟨h, he.symm⟩, fun he => he.2.symm⟩
  · rw [slug_of_present (not_or.1 h).1 (not_or.1 h).2]
    exact iff_of_false nofun fun he => h he.1

theorem slug_eq_ok_iff {s : String} : slug module id = .ok s ↔
    id ≠ "" ∧ s.toList ≠ [] ∧ s.toList = Slug.ofChars (module.toList ++ '_' :: id.toList) := by
  constructor
  · intro h
    refine ⟨?_, (valid_of_slug h).ne_nil, ?_⟩
    · rintro rfl
      rw [slug_of_missing (.inl rfl)] at h
      cases h
    · unfold slug at h
      dsimp only at h
      split at h
      · cases h
      · cases h
        exact String.toList_ofList
  · rintro ⟨hid, hs, heq⟩
    rw [heq] at hs
    rw [slug_of_present hid (mt Slug.join_runs_eq_nil_iff.2 hs), ← heq, String.ofList_toList]

/-- Exactly the valid texts are slugs of dimensions. -/
theorem valid_iff_exists_slug (s : String) :
    Slug.Valid s.toList ↔ ∃ module id, slug module id = .ok s := by
  refine ⟨fun hs => ⟨"", s, slug_eq_ok_iff.2 ⟨?_, hs.ne_nil, ?_⟩⟩, fun ⟨_, _, h⟩ => valid_of_slug h⟩
  · rintro rfl
    exact hs.ne_nil rfl
  · rw [Slug.ofChars_append_underscore, hs.lower_eq]
    exact hs.join_runs.symm

/-- The slug of two slugs. -/
theorem slug_of_valid {s t : String} (hs : Slug.Valid s.toList) (ht : Slug.Valid t.toList) :
    slug s t = .ok (s ++ "_" ++ t) := by
  have hlist : (s ++ "_" ++ t).toList = s.toList ++ '_' :: t.toList := by
    rw [String.toList_append, String.toList_append, List.append_assoc]
    rfl
  refine slug_eq_ok_iff.2 ⟨?_, ?_, ?_⟩
  · rintro rfl
    exact ht.ne_nil rfl
  · rw [hlist]
    exact List.append_ne_nil_of_left_ne_nil hs.ne_nil _
  · rw [hlist, hs.ofChars_append ht]

/-- There is no slug exactly if the id is empty or module and id hold no slug characters in lower case.
Otherwise the slug joins the maximal runs of slug characters by single underscores, which is what replacing
the stretches between them and trimming the ends leaves. The slugs are the valid texts, and the slug of two
slugs joins them. `low` may change letters as it likes that have no slug character in lower case. -/
theorem slug_joins_maximalRuns {low : List Char} (hlow : low.map Slug.slugChar? =
      (lower (module.toList ++ '_' :: id.toList)).map Slug.slugChar?) :
    (∀ e, slug module id = .error e ↔
      (id = "" ∨ ∀ c ∈ low, Slug.isSlugChar c = false) ∧ e = .noSlug module id) ∧
    (∀ s, slug module id = .ok s ↔
      id ≠ "" ∧ ∃ rs, Slug.MaximalRuns low rs ∧ rs ≠ [] ∧ s.toList = Slug.join rs) ∧
    (∀ s, slug module id = .ok s → s.toList = Slug.trim (Slug.squeeze false low)) ∧
    (∀ s : String, Slug.Valid s.toList ↔ ∃ module id, slug module id = .ok s) ∧
    ∀ s t : String, Slug.Valid s.toList → Slug.Valid t.toList → slug s t = .ok (s ++ "_" ++ t) := by
  have hruns : Slug.runs low = Slug.runs (lower (module.toList ++ '_' :: id.toList)) :=
    ((Slug.maximalRuns_runs _).congr hlow.symm).runs_eq
  refine ⟨fun e => ?_, fun s => ?_, fun s hs => ?_, valid_iff_exists_slug, fun s t => slug_of_valid⟩
  · rw [slug_eq_error_iff, ← Slug.runs_eq_nil_iff, ← Slug.runs_eq_nil_iff, hruns]
  · rw [slug_eq_ok_iff]
    refine and_congr_right fun _ => ?_
    constructor
    · rintro ⟨hne, heq⟩
      refine ⟨Slug.runs low, Slug.maximalRuns_runs low, ?_, ?_⟩
      · rw [hruns]
        rintro hnil
        rw [heq, Slug.ofChars, hnil] at hne
        exact hne rfl
      · rw [hruns]
        exact heq
    · rintro ⟨rs, hrs, hne, heq⟩
      obtain rfl := hrs.runs_eq
      rw [hruns] at heq hne
      refine ⟨?_, heq⟩
      rw [heq]
      exact mt (Slug.join_runs_eq_nil_iff.trans Slug.runs_eq_nil_iff.symm).1 hne
  · rw [Slug.trim_squeeze, hruns]
    exact (slug_eq_ok_iff.1 hs).2.2

/-- Capitals and letters outside ASCII, among them the two whose lower case has an ASCII letter. -/
theorem slug_joins_maximalRuns_istanbul :
    let low := "àé i\u0307stanbul_kelvin".toList
    low.map Slug.slugChar? =
      (lower ("ÀÉ \u0130STANBUL".toList ++ '_' :: "\u212Aelvin".toList)).map Slug.slugChar? ∧
    slug "ÀÉ \u0130STANBUL" "\u212Aelvin" = .ok "i_stanbul_kelvin" ∧
    (∃ rs, Slug.MaximalRuns low rs ∧ rs ≠ [] ∧ "i_stanbul_kelvin".toList = Slug.join rs) ∧
    Slug.Valid "user".toList ∧ Slug.Valid "country".toList ∧ slug "user" "country" = .ok "user_country" := by
  intro low
  have hlow : low.map Slug.slugChar? =
      (lower ("ÀÉ \u0130STANBUL".toList ++ '_' :: "\u212Aelvin".toList)).map Slug.slugChar? := by
    decide
  obtain ⟨-, hok, -, hvalid, hjoined⟩ := slug_joins_maximalRuns hlow
  have hslug : slug "ÀÉ \u0130STANBUL" "\u212Aelvin" = .ok "i_stanbul_kelvin" := rfl
  have huser : Slug.Valid "user".toList := (hvalid "user").2 ⟨"", "user", rfl⟩
  have hcountry : Slug.Valid "country".toList := (hvalid "country").2 ⟨"", "country", rfl⟩
  exact ⟨hlow, hslug, ((hok _).1 hslug).2, huser, hcountry, hjoined "user" "country" huser hcountry⟩

/-! ## Ids that leave nothing in the slug -/

/-- The id shows in the slug, as the whole of it or as its end after an underscore. An id that has nothing to
show is refused. -/
def KeepsId (module id : String) : Prop :=
  (∀ s, slug module id = .ok s → Slug.ofChars id.toList ≠ [] ∧
    (s.toList = Slug.ofChars id.toList ∨ '_' :: Slug.ofChars id.toList <:+ s.toList)) ∧
  ((∀ c ∈ lower id.toList, Slug.isSlugChar c = false) → slug module id = .error (.noSlug module id))

theorem keepsId_of_exists (h : ∃ c ∈ lower id.toList, Slug.isSlugChar c = true) : KeepsId module id := by
  refine ⟨fun s hs => ?_, fun hnone => ?_⟩
  · rw [(slug_eq_ok_iff.1 hs).2.2]
    exact Slug.ofChars_suffix module.toList h
  · obtain ⟨c, hc, hslug⟩ := h
    exact absurd hslug (Bool.eq_false_iff.1 (hnone c hc))

/-- An id without slug characters gets the slug of its module alone, if that has any. -/
theorem slug_of_idle (hid : id ≠ "") (hidle : ∀ c ∈ lower id.toList, Slug.isSlugChar c = false)
    (hmodule : ∃ c ∈ lower module.toList, Slug.isSlugChar c = true) :
    slug module id = .ok (String.ofList (Slug.ofChars module.toList)) := by
  have hpresent : ¬ ∀ c ∈ lower (module.toList ++ '_' :: id.toList), Slug.isSlugChar c = false := by
    rw [Slug.forall_lower_append_iff]
    exact fun h => absurd h.1 (by simpa using hmodule)
  rw [slug_of_present hid hpresent, Slug.ofChars_append_underscore, Slug.runs_eq_nil_iff.2 hidle,
    List.append_nil]
  rfl

/-- The id of a dimension is kept in its slug, or refused if it has nothing to show, exactly if it is empty or
has a slug character in lower case, or else its module has none. -/
theorem slug_keepsId_iff (module id : String) : KeepsId module id ↔
    id = "" ∨ (∃ c ∈ lower id.toList, Slug.isSlugChar c = true) ∨
      ∀ c ∈ lower module.toList, Slug.isSlugChar c = false := by
  by_cases hid : ∃ c ∈ lower id.toList, Slug.isSlugChar c = true
  · exact iff_of_true (keepsId_of_exists hid) (.inr (.inl hid))
  have hidle : ∀ c ∈ lower id.toList, Slug.isSlugChar c = false := by simpa using hid
  -- without slug characters in the id there is no slug that keeps it
  have hkeeps : KeepsId module id ↔ slug module id = .error (.noSlug module id) := by
    refine ⟨fun h => h.2 hidle, fun h => ⟨fun s hs => ?_, fun _ => h⟩⟩
    cases h.symm.trans hs
  rw [hkeeps, or_iff_right hid]
  by_cases hempty : id = ""
  · exact iff_of_true (slug_of_missing (.inl hempty)) (.inl hempty)
  rw [or_iff_right hempty]
  by_cases hmodule : ∃ c ∈ lower module.toList, Slug.isSlugChar c = true
  · rw [slug_of_idle hempty hidle hmodule]
    exact iff_of_false nofun (by simpa using hmodule)
  · have hnone : ∀ c ∈ lower module.toList, Slug.isSlugChar c = false := by simpa using hmodule
    exact iff_of_true (slug_of_missing (.inr (Slug.forall_lower_append_iff.2 ⟨hnone, hidle⟩))) hnone

/-- An id in another script gets the slug of its module. -/
theorem slug_loses_tokyo : slug "User" "東京" = .ok "user" ∧ ¬ KeepsId "User" "東京" := by
  have hslug : slug "User" "東京" = .ok "user" := rfl
  refine ⟨hslug, fun h => ?_⟩
  have hidle : ∀ c ∈ lower "東京".toList, Slug.isSlugChar c = false := Slug.runs_eq_nil_iff.1 rfl
  have hrefused : slug "User" "東京" = .error (.noSlug "User" "東京") := h.2 hidle
  cases hslug.symm.trans hrefused

end

end Yardstick
