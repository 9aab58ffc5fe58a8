import Yardstick.Proofs.Template.Misuse

/-!
# Templates and their keys

A label is a text, or an error that names the key of its template, unless filling comes to a field that goes
beyond its argument, or to a text for which there is no room (`LabelTemplate.render_reports`). It is neither
if filling comes to an index that is a word, or to an attribute that no text has. Of the attributes that
texts do have (`textAttributes`) nothing is said, for what they show depends on the runtime.
-/

namespace Yardstick

namespace Template

variable {args : Arguments} {depth fuel room : Nat} {numbering numbering' : Numbering}
  {template out : List Char}

/-! ## Misuses for certain -/

/-- The attributes that a runtime may give to texts, apart from those with leading underscores. -/
def textAttributes : List String :=
  ["capitalize", "casefold", "center", "count", "encode", "endswith", "expandtabs", "find", "format",
   "format_map", "index", "isalnum", "isalpha", "isascii", "isdecimal", "isdigit", "isidentifier",
   "islower", "isnumeric", "isprintable", "isspace", "istitle", "isupper", "join", "ljust", "lower",
   "lstrip", "maketrans", "partition", "removeprefix", "removesuffix", "replace", "rfind", "rindex",
   "rjust", "rpartition", "rsplit", "rstrip", "split", "splitlines", "startswith", "strip", "swapcase",
   "title", "translate", "upper", "zfill"]

/-- No text supports this, whatever attributes the runtime gives it. -/
def Misuse.Certain : Misuse → Prop
  | .attribute name => name ∉ textAttributes ∧ ¬ ['_', '_'] <+: name.toList
  | .wordIndex => True

/-! ## Room -/

/-- Filling comes to a field whose text is longer than there is room, in the template or in the layout of one
of its fields. -/
inductive Outgrows (room : Nat) (args : Arguments) : (depth : Nat) → Numbering → (template : List Char) → Prop
  | field {depth : Nat} {numbering between numbering' : Numbering} {template filled text : List Char}
      {f : Field} {before after : List Segment}
      (hparse : (parse template).segments = before ++ .field f :: after)
      (hbefore : fillSegments (fillNested args depth) args numbering before = .ok (filled, between))
      (hfield : fillField (fillNested args depth) args between f = .ok (text, numbering'))
      (hlong : room < text.length) : Outgrows room args (depth + 1) numbering template
  | layout {depth : Nat} {numbering numbering' : Numbering} {template value part shown : List Char}
      {f : Field} (hreached : Reaches args depth numbering template f value numbering')
      (hpart : follow ((splitName f.name).2.length + 1) (splitName f.name).2 value = .ok part)
      (hshown : convert part f.conversion = .ok shown) (hfields : f.spec.contains '\x7b' = true)
      (hspec : Outgrows room args depth numbering' f.spec) : Outgrows room args (depth + 1) numbering template

theorem length_segments_parseFrom_le (fuel : Nat) (s : List Char) :
    (parseFrom fuel s).segments.length ≤ fuel := by
  have hcons (segment : Segment) {p : Parsed} {n : Nat} (h : p.segments.length ≤ n) :
      (p.cons segment).segments.length ≤ n + 1 := Nat.succ_le_succ h
  induction fuel generalizing s with
  | zero => exact Nat.le_refl 0
  | succ fuel ih =>
    cases s with
    | nil => exact Nat.zero_le _
    | cons c rest =>
      unfold parseFrom
      split
      · split
        · exact Nat.zero_le _
        · split
          · exact hcons _ (ih _)
          · split
            · exact Nat.zero_le _
            · exact hcons _ (ih _)
      · split
        · split
          · split
            · exact hcons _ (ih _)
            · exact Nat.zero_le _
          · exact Nat.zero_le _
        · exact hcons _ (ih _)

variable {expand : Numbering → List Char → Filling} {segments : List Segment}

/-- Each segment takes a character, or as many as there is room for in a field. -/
theorem length_fillSegments_le
    (h : fillSegments expand args numbering segments = .ok (out, numbering'))
    (hroom : ∀ before f after filled between text next, segments = before ++ .field f :: after →
      fillSegments expand args numbering before = .ok (filled, between) →
      fillField expand args between f = .ok (text, next) → text.length ≤ room) :
    out.length ≤ segments.length * max 1 room := by
  induction segments generalizing numbering out with
  | nil =>
    cases h
    exact Nat.zero_le _
  | cons s segments ih =>
    rw [List.length_cons, Nat.succ_mul]
    cases s with
    | char c =>
      rw [fillSegments_char] at h
      obtain ⟨⟨rest, next⟩, hrest, h⟩ := map_eq_ok.1 h
      cases h
      refine Nat.add_le_add (ih hrest fun before f after filled between text next hsegments hbefore => ?_)
        (Nat.le_max_left 1 room)
      refine hroom (.char c :: before) f after (c :: filled) between text next (by rw [hsegments]; rfl) ?_
      rw [fillSegments_char, hbefore]
      rfl
    | field g =>
      rw [fillSegments_field] at h
      obtain ⟨⟨text, between⟩, hg, h⟩ := bind_eq_ok.1 h
      obtain ⟨⟨rest, next⟩, hrest, h⟩ := map_eq_ok.1 h
      cases h
      have htext : text.length ≤ room := hroom [] g segments [] numbering text between rfl rfl hg
      rw [List.length_append, Nat.add_comm]
      refine Nat.add_le_add (ih hrest ?_) (Nat.le_trans htext (Nat.le_max_right 1 room))
      intro before f after filled between' text' next hsegments hbefore
      refine hroom (.field g :: before) f after (text ++ filled) between' text' next
        (by rw [hsegments]; rfl) ?_
      rw [fillSegments_field, hg]
      show Except.map _ (fillSegments expand args between before) = _
      rw [hbefore]
      rfl

/-- A template that never outgrows the room for its fields is filled within that for each of its
characters. -/
theorem length_fillNested_le (h : fillNested args depth numbering template = .ok (out, numbering'))
    (hroom : ¬ Outgrows room args depth numbering template) :
    out.length ≤ template.length * max 1 room := by
  cases depth with
  | zero => cases h
  | succ depth =>
    rw [fillNested] at h
    obtain ⟨⟨filled, next⟩, hfilled, h⟩ := bind_eq_ok.1 h
    have hout : filled = out := by
      dsimp only at h
      split at h
      · cases h
      · exact (Prod.mk.inj (Except.ok.inj h)).1
    rw [← hout]
    have hlength := length_segments_parseFrom_le template.length template
    refine Nat.le_trans (length_fillSegments_le hfilled ?_) (Nat.mul_le_mul_right _ hlength)
    intro before f after filled between text next hparse hbefore hfield
    exact Nat.le_of_not_lt fun hlong => hroom (.field hparse hbefore hfield hlong)

end Template

/-! ## Labels -/

namespace LabelTemplate

variable {l : LabelTemplate} {t : Translator} {args : Template.Arguments} {room : Nat}

/-- An error that names the key of the template. -/
def NamesKey (l : LabelTemplate) (label : Except Fault String) : Prop :=
  ∃ e reason, label = .error (.error e) ∧ e.family = .labelTemplate ∧
    e.message = "Translation template " ++ l.key ++ " is invalid: " ++ reason

theorem length_le_of_render {text : String} (h : l.render t args = .ok text)
    (hroom : ¬ Template.Outgrows room args 2 .undecided (t.textOr l.key l.default).toList) :
    text.length ≤ (t.textOr l.key l.default).toList.length * max 1 room := by
  unfold render Template.fill at h
  dsimp only at h
  split at h
  · next filled hfilled =>
    cases h
    obtain ⟨⟨out, numbering⟩, hout, h⟩ := map_eq_ok.1 hfilled
    cases h
    rw [String.length_ofList]
    exact Template.length_fillNested_le hout hroom
  · cases h
  · cases h

/-- If no field of a template goes beyond its argument, then the label is a text, and a short one if the
fields are, or else an error that names the key. It is neither if a field is misused for certain. -/
theorem render_reports (l : LabelTemplate) (t : Translator) (args : Template.Arguments) (room : Nat) :
    let template := (t.textOr l.key l.default).toList
    ((∀ m, ¬ Template.Misused args 2 .undecided template m) →
        ¬ Template.Outgrows room args 2 .undecided template →
        (∃ text, l.render t args = .ok text ∧ text.length ≤ template.length * max 1 room) ∨
          l.NamesKey (l.render t args)) ∧
      ∀ m, m.Certain → Template.Misused args 2 .undecided template m →
        ¬ (∃ text, l.render t args = .ok text) ∧ ¬ l.NamesKey (l.render t args) := by
  intro template
  constructor
  · intro hmisused hroom
    rcases render_cases l t args with ⟨text, htext⟩ | ⟨c, hc⟩ | ⟨m, hm⟩
    · exact .inl ⟨text, htext, length_le_of_render htext hroom⟩
    · exact .inr ⟨_, _, hc, rfl, Error.message_badTemplate _ _ c⟩
    · exact absurd (render_eq_misuse_iff.1 hm) (hmisused m)
  · intro m _ hm
    rw [render_eq_misuse_iff.2 hm]
    constructor
    · rintro ⟨text, h⟩
      cases h
    · rintro ⟨e, reason, h, -, -⟩
      cases h

/-- A catalog whose text fills a width. -/
def paddedCatalog : Catalog where
  locale := "en"
  messages := Table.empty.put "Metric_Count" "\x7bplural:>12\x7d"
  contexts := .empty

/-- It results in a text of this width. -/
theorem render_reports_paddedCatalog :
    let t := Translator.ofCatalogs [paddedCatalog] "en" "en"
    let args : Template.Arguments := ⟨[], [("plural", "Countries"), ("label", "Country")]⟩
    Aggregation.count.labelTemplate.render t args = .ok "   Countries" ∧
      ∃ text, Aggregation.count.labelTemplate.render t args = .ok text ∧ text.length ≤ 12 * max 1 12 := by
  intro t args
  have htemplate : (t.textOr Aggregation.count.labelTemplate.key
      Aggregation.count.labelTemplate.default).toList = "\x7bplural:>12\x7d".toList := by
    decide +kernel
  have hsegments : (Template.parse "\x7bplural:>12\x7d".toList).segments =
      [.field ⟨"plural".toList, none, ">12".toList⟩] := by
    decide +kernel
  have htext : Aggregation.count.labelTemplate.render t args = .ok "   Countries" := by decide +kernel
  have hfilled : Template.fillField (Template.fillNested args 1) args .undecided
      ⟨"plural".toList, none, ">12".toList⟩ = .ok ("   Countries".toList, .undecided) := by
    decide +kernel
  have hroom : ¬ Template.Outgrows 12 args 2 .undecided "\x7bplural:>12\x7d".toList := by
    intro h
    cases h with
    | field hparse hbefore hfield hlong =>
      obtain ⟨rfl, hsegment⟩ | ⟨-, h⟩ := List.append_eq_singleton_iff.1 (hparse.symm.trans hsegments)
      · cases hsegment
        cases hbefore
        cases hfield.symm.trans hfilled
        exact absurd hlong (by decide)
      · cases h
    | layout hreached _ _ hfields _ =>
      obtain ⟨before, after, filled, between, hparse, -⟩ := hreached
      obtain ⟨rfl, hsegment⟩ | ⟨-, h⟩ := List.append_eq_singleton_iff.1 (hparse.symm.trans hsegments)
      · cases hsegment
        exact absurd hfields (by decide)
      · cases h
  have hmisused (m : Template.Misuse) :
      ¬ Template.Misused args 2 .undecided "\x7bplural:>12\x7d".toList m := fun hm =>
    (Template.mem_of_misused hm).elim (by decide) (by decide)
  have hreports := render_reports Aggregation.count.labelTemplate t args 12
  rw [htemplate] at hreports
  rcases hreports.1 hmisused hroom with h | ⟨e, reason, h, -⟩
  · exact ⟨htext, h⟩
  · cases htext.symm.trans h

/-- A catalog whose text asks for the name of a text. -/
def namingCatalog : Catalog where
  locale := "en"
  messages := Table.empty.put "Metric_Count" "\x7bplural.name\x7d"
  contexts := .empty

/-- It results in neither. -/
theorem render_namingCatalog :
    let t := Translator.ofCatalogs [namingCatalog] "en" "en"
    let args : Template.Arguments := ⟨[], [("plural", "Countries"), ("label", "Country")]⟩
    Aggregation.count.labelTemplate.render t args = .error (.misuse (.attribute "name")) ∧
      ¬ ((∃ text, Aggregation.count.labelTemplate.render t args = .ok text) ∨
        Aggregation.count.labelTemplate.NamesKey (Aggregation.count.labelTemplate.render t args)) := by
  intro t args
  have hmisuse : Aggregation.count.labelTemplate.render t args = .error (.misuse (.attribute "name")) := by
    decide +kernel
  rw [hmisuse]
  refine ⟨rfl, ?_⟩
  rintro (⟨text, h⟩ | ⟨e, reason, h, -, -⟩)
  · cases h
  · cases h

end LabelTemplate

end Yardstick
