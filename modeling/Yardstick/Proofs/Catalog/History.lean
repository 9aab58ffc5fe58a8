import Mathlib.Data.List.Induction
import Yardstick.Proofs.Catalog.Merge

/-!
# What a translator was given

A translator is made of some catalogs, and later it is given more of them and told other locales to
answer in. However these alternate, what one of its locales holds is what the catalogs given for this
locale hold, the last one first (`Records`): each change keeps that (`Records.change`), so a run of
changes does (`records_changeAll`), and every answer can be read off the catalogs as they were given.
-/

namespace Yardstick

/-! ## Texts of several catalogs -/

/-- The text under a key in the last of the catalogs for a locale that holds one. -/
def LastText (given : List Catalog) (locale key : String) (context : Option String) (text : String) :
    Prop :=
  ∃ before c after, given = before ++ c :: after ∧ c.locale = locale ∧ c.get? key context = some text ∧
    ∀ d ∈ after, d.locale = locale → d.get? key context = none

/-- None of the catalogs for a locale holds a text under the key. -/
def Unheld (given : List Catalog) (locale key : String) (context : Option String) : Prop :=
  ∀ c ∈ given, c.locale = locale → c.get? key context = none

/-- The text that a catalog holds for a locale. -/
def Catalog.getFor? (c : Catalog) (locale key : String) (context : Option String) : Option String :=
  if c.locale = locale then c.get? key context else none

/-- The text found first when the catalogs are searched from the last. -/
def lastText? (given : List Catalog) (locale key : String) (context : Option String) : Option String :=
  given.reverse.findSome? (·.getFor? locale key context)

section

variable {given : List Catalog} {c : Catalog} {locale key text : String} {context : Option String}

theorem Catalog.getFor?_eq_some :
    c.getFor? locale key context = some text ↔ c.locale = locale ∧ c.get? key context = some text := by
  unfold getFor?
  split
  · next h => exact ⟨fun htext => ⟨h, htext⟩, And.right⟩
  · next h => exact ⟨nofun, fun hc => absurd hc.1 h⟩

theorem Catalog.getFor?_eq_none :
    c.getFor? locale key context = none ↔ (c.locale = locale → c.get? key context = none) := by
  unfold getFor?
  split
  · next h => exact ⟨fun hnone _ => hnone, fun hnone => hnone h⟩
  · next h => exact ⟨fun _ hc => absurd hc h, fun _ => rfl⟩

theorem lastText?_eq_some : lastText? given locale key context = some text ↔
    LastText given locale key context text := by
  unfold lastText? LastText
  rw [List.findSome?_eq_some_iff]
  constructor
  · rintro ⟨after, c, before, hgiven, htext, hafter⟩
    rw [List.reverse_eq_iff, List.reverse_append, List.reverse_cons, List.append_assoc] at hgiven
    obtain ⟨hlocale, htext⟩ := Catalog.getFor?_eq_some.1 htext
    refine ⟨before.reverse, c, after.reverse, hgiven, hlocale, htext, fun d hd => ?_⟩
    exact Catalog.getFor?_eq_none.1 (hafter d (List.mem_reverse.1 hd))
  · rintro ⟨before, c, after, rfl, hlocale, htext, hafter⟩
    refine ⟨after.reverse, c, before.reverse, ?_, Catalog.getFor?_eq_some.2 ⟨hlocale, htext⟩, ?_⟩
    · rw [List.reverse_append, List.reverse_cons, List.append_assoc]
      rfl
    · intro d hd
      exact Catalog.getFor?_eq_none.2 (hafter d (List.mem_reverse.1 hd))

theorem lastText?_eq_none :
    lastText? given locale key context = none ↔ Unheld given locale key context := by
  unfold lastText? Unheld
  rw [List.findSome?_eq_none_iff]
  simp only [List.mem_reverse, Catalog.getFor?_eq_none]

theorem lastText?_concat (given : List Catalog) (c : Catalog) (locale key : String)
    (context : Option String) : lastText? (given ++ [c]) locale key context =
      (c.getFor? locale key context).or (lastText? given locale key context) := by
  unfold lastText?
  rw [List.reverse_append, List.findSome?_append]
  cases h : c.getFor? locale key context <;> simp [h]

/-- Catalogs for other locales can be left out. -/
theorem lastText?_filter {p : Catalog → Bool} (hp : ∀ c ∈ given, c.locale = locale → p c = true) :
    lastText? (given.filter p) locale key context = lastText? given locale key context := by
  induction given using List.reverseRecOn with
  | nil => rfl
  | append_singleton given c ih =>
    have hinit := ih fun d hd => hp d (List.mem_append_left _ hd)
    rw [List.filter_append, lastText?_concat]
    by_cases hc : p c = true
    · rw [List.filter_cons_of_pos hc, List.filter_nil, lastText?_concat, hinit]
    · have hnone : c.getFor? locale key context = none :=
        Catalog.getFor?_eq_none.2 fun h => absurd (hp c (by simp) h) hc
      rw [List.filter_cons_of_neg hc, List.filter_nil, List.append_nil, hinit, hnone, Option.none_or]

end

/-! ## Changes -/

namespace Translator

/-- What may be done to a translator after it was made. -/
inductive Change
  | add (c : Catalog)
  | setLocale (locale : String)

def Change.catalog? : Change → Option Catalog
  | add c => some c
  | setLocale _ => none

def Change.locale? : Change → Option String
  | add _ => none
  | setLocale locale => some locale

def change (t : Translator) : Change → Translator
  | .add c => t.add c
  | .setLocale locale => t.setLocale locale

def changeAll (t : Translator) (changes : List Change) : Translator := changes.foldl change t

/-- The catalogs that are given in the course of some changes. -/
def catalogsOf (changes : List Change) : List Catalog := changes.filterMap Change.catalog?

/-- The active locale after some changes: the last one that was set. -/
def localeAfter (locale : String) (changes : List Change) : String :=
  ((changes.filterMap Change.locale?).getLast?).getD locale

/-- The catalogs in use are what is left of those that were given: one for each of their locales, with
the text of the last that holds one. -/
structure Records (t : Translator) (given : List Catalog) : Prop where
  own : ∀ locale c, t.catalogs.get? locale = some c → c.locale = locale
  contains_iff : ∀ locale, t.catalogs.contains locale = true ↔ ∃ c ∈ given, c.locale = locale
  getIn?_eq : ∀ locale key context, t.getIn? locale key context = lastText? given locale key context

variable {t : Translator} {given : List Catalog}

theorem records_empty (locale fallback : String) : Records ⟨.empty, locale, fallback⟩ [] where
  own _ _ := nofun
  contains_iff _ := ⟨nofun, nofun⟩
  getIn?_eq _ _ _ := rfl

theorem Records.add (h : t.Records given) (c : Catalog) : (t.add c).Records (given ++ [c]) where
  own locale d hd := by
    rw [get?_catalogs_add] at hd
    split at hd
    · next hlocale =>
      cases hold : t.catalogs.get? c.locale <;> rw [hold] at hd <;> cases hd <;> exact hlocale.symm
    · exact h.own locale d hd
  contains_iff locale := by
    have hold := h.contains_iff locale
    unfold Table.contains at hold ⊢
    rw [get?_catalogs_add]
    split
    · next hlocale => simp [hlocale]
    · next hlocale => simp [hold, Ne.symm hlocale]
  getIn?_eq locale key context := by
    rw [getIn?_add, lastText?_concat, h.getIn?_eq]
    unfold Catalog.getFor?
    split
    · next hlocale => rw [if_pos hlocale.symm]
    · next hlocale => rw [if_neg (Ne.symm hlocale), Option.none_or]

/-- Which locale is active does not matter to what the locales hold. -/
theorem Records.of_catalogs_eq {t' : Translator} (h : t.Records given)
    (heq : t'.catalogs = t.catalogs) : t'.Records given where
  own := by rw [heq]; exact h.own
  contains_iff := by rw [heq]; exact h.contains_iff
  getIn?_eq locale key context := by rw [← h.getIn?_eq]; unfold getIn?; rw [heq]

theorem Records.change (h : t.Records given) (x : Change) :
    (t.change x).Records (given ++ x.catalog?.toList) := by
  cases x with
  | add c => exact h.add c
  | setLocale locale =>
    rw [Change.catalog?, Option.toList_none, List.append_nil]
    exact h.of_catalogs_eq rfl

theorem Records.changeAll (h : t.Records given) (changes : List Change) :
    (t.changeAll changes).Records (given ++ catalogsOf changes) := by
  induction changes generalizing t given with
  | nil =>
    rw [catalogsOf, List.filterMap_nil, List.append_nil]
    exact h
  | cons x changes ih =>
    have hrest := ih (h.change x)
    have hcatalogs : catalogsOf (x :: changes) = x.catalog?.toList ++ catalogsOf changes := by
      cases x <;> rfl
    rw [hcatalogs, ← List.append_assoc]
    exact hrest

/-- Making a translator of some catalogs is giving them to it one by one. -/
theorem ofCatalogs_eq_changeAll (catalogs : List Catalog) (locale fallback : String) :
    ofCatalogs catalogs locale fallback =
      changeAll ⟨.empty, locale, fallback⟩ (catalogs.map .add) := by
  rw [changeAll, List.foldl_map]
  rfl

theorem records_ofCatalogs (catalogs : List Catalog) (locale fallback : String) :
    (ofCatalogs catalogs locale fallback).Records catalogs := by
  have h := (records_empty locale fallback).changeAll (catalogs.map .add)
  have hcatalogs : catalogsOf (catalogs.map .add) = catalogs := by
    rw [catalogsOf, List.filterMap_map]
    exact List.filterMap_some
  rw [hcatalogs, List.nil_append, ← ofCatalogs_eq_changeAll] at h
  exact h

/-! ## Locales -/

theorem fallback_changeAll (t : Translator) (changes : List Change) :
    (t.changeAll changes).fallback = t.fallback := by
  induction changes generalizing t with
  | nil => rfl
  | cons x changes ih => exact (ih (t.change x)).trans (by cases x <;> rfl)

theorem locale_changeAll (t : Translator) (changes : List Change) :
    (t.changeAll changes).locale = localeAfter t.locale changes := by
  induction changes generalizing t with
  | nil => rfl
  | cons x changes ih =>
    refine (ih (t.change x)).trans ?_
    cases x with
    | add c => rfl
    | setLocale locale =>
      show _ = ((locale :: changes.filterMap Change.locale?).getLast?).getD t.locale
      rw [List.getLast?_cons]
      rfl

theorem locale_ofCatalogs (catalogs : List Catalog) (locale fallback : String) :
    (ofCatalogs catalogs locale fallback).locale = locale := by
  have hnone : (catalogs.map Change.add).filterMap Change.locale? = [] := by
    simp [List.filterMap_eq_nil_iff, Change.locale?]
  rw [ofCatalogs_eq_changeAll, locale_changeAll, localeAfter, hnone]
  rfl

theorem fallback_ofCatalogs (catalogs : List Catalog) (locale fallback : String) :
    (ofCatalogs catalogs locale fallback).fallback = fallback := by
  rw [ofCatalogs_eq_changeAll, fallback_changeAll]

/-! ## Answers -/

theorem Records.resolve_eq (h : t.Records given) (key : String) (context : Option String) :
    t.resolve key context = (lastText? given t.locale key context).or
      (lastText? given t.fallback key context) := by
  rw [resolve, h.getIn?_eq, h.getIn?_eq]

/-- A translator made of some catalogs and changed in any way keeps each catalog under its own locale
and answers with the last catalog of the active locale that holds the key, else with the last one of
the fallback, whatever the text is, an empty one included; it has no answer only if neither locale
holds the key. It answers as if it had been given the catalogs of these two locales only, and a
context that one more catalog does not have stays as it was. -/
theorem resolve_changeAll_ofCatalogs (catalogs : List Catalog) (locale fallback : String)
    (changes : List Change) :
    let t := (ofCatalogs catalogs locale fallback).changeAll changes
    let given := catalogs ++ catalogsOf changes
    let active := localeAfter locale changes
    (∀ l c, t.catalogs.get? l = some c → c.locale = l) ∧
    (∀ l, t.catalogs.contains l = true ↔ ∃ c ∈ given, c.locale = l) ∧
    (∀ key context text, t.resolve key context = some text ↔
      LastText given active key context text ∨
        Unheld given active key context ∧ LastText given fallback key context text) ∧
    (∀ key context, t.resolve key context = none ↔
      Unheld given active key context ∧ Unheld given fallback key context) ∧
    (∀ key context, t.resolve key context =
      (ofCatalogs (given.filter fun c => c.locale = active ∨ c.locale = fallback) active
        fallback).resolve key context) ∧
    ∀ c name, c.contexts.get? name = none → ∀ l, (t.add c).context? l name = t.context? l name := by
  intro t given active
  have hrecords : t.Records given := (records_ofCatalogs catalogs locale fallback).changeAll changes
  have hactive : t.locale = active := by
    rw [locale_changeAll, locale_ofCatalogs]
  have hfallback : t.fallback = fallback := by
    rw [fallback_changeAll, fallback_ofCatalogs]
  have hresolve (key : String) (context : Option String) : t.resolve key context =
      (lastText? given active key context).or (lastText? given fallback key context) := by
    rw [hrecords.resolve_eq, hactive, hfallback]
  refine ⟨hrecords.own, hrecords.contains_iff, fun key context text => ?_,
    fun key context => ?_, fun key context => ?_, fun _ _ => context?_add_of_absent⟩
  · rw [hresolve, Option.or_eq_some_iff, lastText?_eq_some, lastText?_eq_none, lastText?_eq_some]
  · rw [hresolve, Option.or_eq_none_iff, lastText?_eq_none, lastText?_eq_none]
  · rw [hresolve, (records_ofCatalogs _ active fallback).resolve_eq, locale_ofCatalogs,
      fallback_ofCatalogs, lastText?_filter, lastText?_filter]
    · intro c _ hc
      simp [hc]
    · intro c _ hc
      simp [hc]

/-- An empty text hides the one of the fallback, and the later catalog of a locale the earlier. -/
example : (((ofCatalogs [⟨"en", .ofList [("a", "A"), ("b", "B")], .empty⟩] "en" "en").changeAll
    [.add ⟨"fr", .ofList [("a", "old")], .empty⟩, .setLocale "fr",
      .add ⟨"fr", .ofList [("a", "")], .empty⟩]).resolve "a" none) = some "" := by decide

end Translator

end Yardstick
