import Mathlib.Data.List.TakeDrop
import Mathlib.Data.List.TakeWhile
import Mathlib.Tactic.SplitIfs
import Yardstick.Metric.Build
import Yardstick.Proofs.Outcome

/-!
# Misuses of arguments

A field of a template may go beyond its argument: it takes an attribute of it, or the part at an index that
is a word. `Misused` tells when filling comes to such a field, which is exactly when it ends with a misuse
(`Template.fillNested_eq_misuse_iff`). There is none in a template without dots and square brackets
(`LabelTemplate.render_of_not_mem`).
-/

namespace Yardstick

namespace Template

open Text

variable {args : Arguments} {depth fuel : Nat} {numbering numbering' : Numbering}
  {template path value key rest : List Char} {f : Field} {m : Misuse}

/-- The path of a field's name goes beyond this value, after the indices before have each taken one
character. -/
inductive Strays : (value path : List Char) → Misuse → Prop
  | dot (value rest : List Char) (hname : (splitName rest).1 ≠ []) :
      Strays value ('.' :: rest) (.attribute (String.ofList (splitName rest).1))
  | word (value rest : List Char) {key : List Char} (hkey : ']' ∉ key) (hword : index? key = .ok none)
      (hempty : key ≠ []) : Strays value ('[' :: (key ++ ']' :: rest)) .wordIndex
  | index {value rest key : List Char} {m : Misuse} {i : Nat} {c : Char} (hkey : ']' ∉ key)
      (hindex : index? key = .ok (some i)) (hchar : value[i]? = some c) (hrest : Strays [c] rest m) :
      Strays value ('[' :: (key ++ ']' :: rest)) m

/-- Filling comes to this field, whose argument is this value. -/
def Reaches (args : Arguments) (depth : Nat) (numbering : Numbering) (template : List Char) (f : Field)
    (value : List Char) (numbering' : Numbering) : Prop :=
  ∃ before after filled between, (parse template).segments = before ++ .field f :: after ∧
    fillSegments (fillNested args depth) args numbering before = .ok (filled, between) ∧
    argument args between (splitName f.name).1 = .ok (value, numbering')

/-- Filling comes to a field that goes beyond its argument, in the template or in the layout of one of its
fields. -/
inductive Misused (args : Arguments) : (depth : Nat) → Numbering → (template : List Char) → Misuse → Prop
  | name {depth : Nat} {numbering numbering' : Numbering} {template value : List Char} {f : Field}
      {m : Misuse} (hreached : Reaches args depth numbering template f value numbering')
      (hstrays : Strays value (splitName f.name).2 m) : Misused args (depth + 1) numbering template m
  | layout {depth : Nat} {numbering numbering' : Numbering} {template value part shown : List Char}
      {f : Field} {m : Misuse} (hreached : Reaches args depth numbering template f value numbering')
      (hpart : follow ((splitName f.name).2.length + 1) (splitName f.name).2 value = .ok part)
      (hshown : convert part f.conversion = .ok shown) (hfields : f.spec.contains '\x7b' = true)
      (hmisused : Misused args depth numbering' f.spec m) : Misused args (depth + 1) numbering template m

/-! ## Paths -/

theorem span_of_not_mem (h : ']' ∉ key) : (key ++ ']' :: rest).span (· != ']') = (key, ']' :: rest) := by
  have hkey : ∀ c ∈ key, (c != ']') = true := fun c hc => bne_iff_ne.2 fun heq => h (heq ▸ hc)
  rw [List.span_eq_takeWhile_dropWhile, List.takeWhile_append_of_pos hkey, List.dropWhile_append_of_pos hkey]
  simp

theorem eq_of_span {s : List Char} {c : Char} (h : s.span (· != ']') = (key, c :: rest)) :
    s = key ++ ']' :: rest ∧ ']' ∉ key := by
  rw [List.span_eq_takeWhile_dropWhile] at h
  obtain ⟨rfl, hrest⟩ := Prod.mk.inj h
  have hstop := List.head?_dropWhile_not (· != ']') s
  rw [hrest] at hstop
  obtain rfl : c = ']' := by simpa using hstop
  refine ⟨?_, fun hmem => ?_⟩
  · rw [← hrest, List.takeWhile_append_dropWhile]
  · exact absurd (List.mem_takeWhile_imp hmem) (by simp)

/-- One step: an index is a word, or takes a character and the rest goes beyond that. -/
theorem exists_of_follow_index (h : follow (fuel + 1) ('[' :: rest) value = .error (.misuse m)) :
    ∃ key after, rest = key ++ ']' :: after ∧ ']' ∉ key ∧
      (index? key = .ok none ∧ key ≠ [] ∧ m = .wordIndex ∨
        ∃ i c, index? key = .ok (some i) ∧ value[i]? = some c ∧
          follow fuel after [c] = .error (.misuse m)) := by
  rw [follow, if_neg (by decide), if_pos rfl] at h
  split at h
  · cases h
  · next key c after hspan =>
    obtain ⟨rfl, hkey⟩ := eq_of_span hspan
    refine ⟨key, after, rfl, hkey, ?_⟩
    split at h
    · cases h
    · next hword =>
      split_ifs at h with hempty
      · cases h
      · cases h
        exact .inl ⟨hword, mt List.isEmpty_iff.2 hempty, rfl⟩
    · next i hindex =>
      split at h
      · next d hchar => exact .inr ⟨i, d, hindex, hchar, h⟩
      · cases h

theorem strays_of_follow (h : follow fuel path value = .error (.misuse m)) : Strays value path m := by
  induction fuel generalizing path value with
  | zero => cases h
  | succ fuel ih =>
    cases path with
    | nil => cases h
    | cons c rest =>
      by_cases hdot : c = '.'
      · subst hdot
        rw [follow, if_pos rfl] at h
        dsimp only at h
        split_ifs at h with hempty
        · cases h
        · cases h
          exact .dot value rest (mt List.isEmpty_iff.2 hempty)
      · by_cases hbracket : c = '['
        · subst hbracket
          obtain ⟨key, after, rfl, hkey, hstep⟩ := exists_of_follow_index h
          rcases hstep with ⟨hword, hempty, rfl⟩ | ⟨i, c, hindex, hchar, hrest⟩
          · exact .word value after hkey hword hempty
          · exact .index hkey hindex hchar (ih hrest)
        · rw [follow, if_neg hdot, if_neg hbracket] at h
          cases h

theorem follow_of_strays (h : Strays value path m) (hfuel : path.length < fuel) :
    follow fuel path value = .error (.misuse m) := by
  obtain ⟨fuel, rfl⟩ := Nat.exists_eq_add_one_of_ne_zero (Nat.ne_zero_of_lt hfuel)
  induction h generalizing fuel with
  | dot value rest hname =>
    have hnonempty : ¬ (splitName rest).1.isEmpty = true := by simpa using hname
    rw [follow, if_pos rfl]
    simp only [if_neg hnonempty]
  | word value rest hkey hword hempty =>
    have hnonempty := mt List.isEmpty_iff.1 hempty
    rw [follow, if_neg (by decide), if_pos rfl]
    simp only [span_of_not_mem hkey, hword, if_neg hnonempty]
  | index hkey hindex hchar hrest ih =>
    rw [follow, if_neg (by decide), if_pos rfl]
    simp only [span_of_not_mem hkey, hindex, hchar]
    simp only [List.length_cons, List.length_append] at hfuel
    cases fuel with
    | zero => omega
    | succ fuel => exact ih fuel (by omega)

theorem follow_eq_misuse_iff :
    follow (path.length + 1) path value = .error (.misuse m) ↔ Strays value path m :=
  ⟨strays_of_follow, fun h => follow_of_strays h (Nat.lt_succ_self _)⟩

/-! ## Fields -/

@[simp] theorem liftCause_ne_misuse {α : Type} (x : Except Cause α) :
    liftCause x ≠ .error (.misuse m) := by
  cases x <;> nofun

@[simp] theorem liftCause_eq_ok {α : Type} {x : Except Cause α} {a : α} :
    liftCause x = .ok a ↔ x = .ok a := mapError_eq_ok

variable {expand : Numbering → List Char → Filling}

/-- Filling a field comes to a misuse in its name, or else in its layout. -/
theorem fillField_eq_misuse_iff : fillField expand args numbering f = .error (.misuse m) ↔
    ∃ value between, argument args numbering (splitName f.name).1 = .ok (value, between) ∧
      (Strays value (splitName f.name).2 m ∨
        ∃ part, follow ((splitName f.name).2.length + 1) (splitName f.name).2 value = .ok part ∧
          ∃ shown, convert part f.conversion = .ok shown ∧ f.spec.contains '\x7b' = true ∧
            expand between f.spec = .error (.misuse m)) := by
  have hlaid (shown : List Char) (x : Filling) : (do
      let y ← x
      return (← liftCause (layOut y.1 shown), y.2) : Filling) = .error (.misuse m) ↔
        x = .error (.misuse m) := by
    rw [bind_eq_error]
    refine or_iff_left ?_
    rintro ⟨y, -, h⟩
    rcases bind_eq_error.1 h with h | ⟨text, -, h⟩
    · exact liftCause_ne_misuse _ h
    · cases h
  unfold fillField
  cases hspec : f.spec.contains '\x7b' with
  | true =>
    simp only [bind_eq_error, liftCause_ne_misuse, liftCause_eq_ok, follow_eq_misuse_iff, false_or,
      Prod.exists, if_true, true_and, hlaid]
  | false =>
    simp only [bind_eq_error, liftCause_ne_misuse, liftCause_eq_ok, follow_eq_misuse_iff, false_or,
      Prod.exists, Bool.false_eq_true, if_false, false_and, and_false, exists_false, hlaid, reduceCtorEq]

/-! ## Templates -/

theorem fillSegments_char (c : Char) (segments : List Segment) :
    fillSegments expand args numbering (.char c :: segments) =
      (fillSegments expand args numbering segments).map fun x => (c :: x.1, x.2) := by
  rw [fillSegments]
  cases fillSegments expand args numbering segments <;> rfl

theorem fillSegments_field (f : Field) (segments : List Segment) :
    fillSegments expand args numbering (.field f :: segments) =
      fillField expand args numbering f >>= fun x =>
        (fillSegments expand args x.2 segments).map fun y => (x.1 ++ y.1, y.2) := by
  rw [fillSegments]
  refine congrArg _ (funext fun ⟨text, numbering⟩ => ?_)
  dsimp only
  cases fillSegments expand args numbering segments <;> rfl

/-- Filling some segments comes to a misuse in a field after segments that are filled. -/
theorem fillSegments_eq_misuse_iff {segments : List Segment} :
    fillSegments expand args numbering segments = .error (.misuse m) ↔
      ∃ before f after filled between, segments = before ++ .field f :: after ∧
        fillSegments expand args numbering before = .ok (filled, between) ∧
        fillField expand args between f = .error (.misuse m) := by
  induction segments generalizing numbering with
  | nil =>
    constructor
    · nofun
    · rintro ⟨before, f, after, -, -, h, -⟩
      exact absurd h (by simp)
  | cons s segments ih =>
    cases s with
    | char c =>
      rw [fillSegments_char, map_eq_error, ih]
      constructor
      · rintro ⟨before, f, after, filled, between, rfl, hbefore, hf⟩
        refine ⟨.char c :: before, f, after, c :: filled, between, rfl, ?_, hf⟩
        rw [fillSegments_char, hbefore]
        rfl
      · rintro ⟨before, f, after, filled, between, h, hbefore, hf⟩
        cases before with
        | nil => cases h
        | cons s before =>
          obtain ⟨rfl, rfl⟩ := List.cons.inj h
          rw [fillSegments_char] at hbefore
          obtain ⟨x, hx, h⟩ := map_eq_ok.1 hbefore
          obtain ⟨-, rfl⟩ := Prod.mk.inj h
          exact ⟨before, f, after, x.1, x.2, rfl, hx, hf⟩
    | field g =>
      rw [fillSegments_field, bind_eq_error]
      simp only [map_eq_error, ih]
      constructor
      · rintro (hg | ⟨x, hx, before, f, after, filled, between, rfl, hbefore, hf⟩)
        · exact ⟨[], g, segments, [], numbering, rfl, rfl, hg⟩
        · refine ⟨.field g :: before, f, after, x.1 ++ filled, between, rfl, ?_, hf⟩
          rw [fillSegments_field, hx]
          show Except.map _ (fillSegments expand args x.2 before) = _
          rw [hbefore]
          rfl
      · rintro ⟨before, f, after, filled, between, h, hbefore, hf⟩
        cases before with
        | nil =>
          cases h
          cases hbefore
          exact .inl hf
        | cons s before =>
          obtain ⟨rfl, rfl⟩ := List.cons.inj h
          rw [fillSegments_field] at hbefore
          obtain ⟨x, hx, hrest⟩ := bind_eq_ok.1 hbefore
          obtain ⟨y, hy, h⟩ := map_eq_ok.1 hrest
          obtain ⟨-, rfl⟩ := Prod.mk.inj h
          exact .inr ⟨x, hx, before, f, after, y.1, y.2, rfl, hy, hf⟩

/-- Filling a template comes to a misuse exactly if the template is misused. -/
theorem fillNested_eq_misuse_iff :
    fillNested args depth numbering template = .error (.misuse m) ↔ Misused args depth numbering template m := by
  induction depth generalizing numbering template with
  | zero =>
    constructor
    · nofun
    · nofun
  | succ depth ih =>
    have hsegments : fillNested args (depth + 1) numbering template = .error (.misuse m) ↔
        fillSegments (fillNested args depth) args numbering (parse template).segments =
          .error (.misuse m) := by
      rw [fillNested, bind_eq_error]
      refine or_iff_left ?_
      rintro ⟨x, -, h⟩
      cases hfault : (parse template).fault <;> rw [hfault] at h <;> cases h
    rw [hsegments, fillSegments_eq_misuse_iff]
    simp only [fillField_eq_misuse_iff, ih]
    constructor
    · rintro ⟨before, f, after, filled, between, hparse, hbefore, value, numbering', hargument, h⟩
      have hreached : Reaches args depth numbering template f value numbering' :=
        ⟨before, after, filled, between, hparse, hbefore, hargument⟩
      rcases h with hstrays | ⟨part, hpart, shown, hshown, hfields, hmisused⟩
      · exact .name hreached hstrays
      · exact .layout hreached hpart hshown hfields hmisused
    · intro h
      cases h with
      | name hreached hstrays =>
        obtain ⟨before, after, filled, between, hparse, hbefore, hargument⟩ := hreached
        exact ⟨before, _, after, filled, between, hparse, hbefore, _, _, hargument, .inl hstrays⟩
      | layout hreached hpart hshown hfields hmisused =>
        obtain ⟨before, after, filled, between, hparse, hbefore, hargument⟩ := hreached
        exact ⟨before, _, after, filled, between, hparse, hbefore, _, _, hargument,
          .inr ⟨_, hpart, _, hshown, hfields, hmisused⟩⟩

/-! ## Templates without paths -/

theorem eq_of_readName {inBrackets : Bool} {s name : List Char} {stop : Char}
    (h : readName inBrackets s = .ok (name, stop, rest)) : s = name ++ stop :: rest := by
  induction s generalizing inBrackets name with
  | nil => cases h
  | cons c s ih =>
    unfold readName at h
    split_ifs at h
    · obtain ⟨⟨name', stop', rest'⟩, hx, h⟩ := map_eq_ok.1 h
      cases h
      rw [ih hx, List.cons_append]
    · cases h
      rfl
    · obtain ⟨⟨name', stop', rest'⟩, hx, h⟩ := map_eq_ok.1 h
      cases h
      rw [ih hx, List.cons_append]

theorem eq_of_readSpec {depth : Nat} {s spec : List Char} (h : readSpec depth s = .ok (spec, rest)) :
    s = spec ++ '\x7d' :: rest := by
  induction s generalizing depth spec with
  | nil => cases h
  | cons c s ih =>
    unfold readSpec at h
    split_ifs at h with hopening hclosing
    · obtain ⟨x, hx, h⟩ := map_eq_ok.1 h
      cases h
      rw [ih hx, List.cons_append]
    · cases depth with
      | zero =>
        cases h
        rw [hclosing]
        rfl
      | succ depth =>
        obtain ⟨x, hx, h⟩ := map_eq_ok.1 h
        cases h
        rw [ih hx, List.cons_append]
    · obtain ⟨x, hx, h⟩ := map_eq_ok.1 h
      cases h
      rw [ih hx, List.cons_append]

/-- A field holds characters of the text that it is read from. -/
def Field.Within (f : Field) (s : List Char) : Prop := f.name ⊆ s ∧ f.spec ⊆ s

theorem Field.Within.mono {s s' : List Char} (h : f.Within s) (hsub : s ⊆ s') : f.Within s' :=
  ⟨List.Subset.trans h.1 hsub, List.Subset.trans h.2 hsub⟩

theorem subset_of_eq_append {s s₁ s₂ : List Char} {c : Char} (h : s = s₁ ++ c :: s₂) : s₁ ⊆ s ∧ s₂ ⊆ s := by
  subst h
  exact ⟨List.subset_append_left _ _, List.Subset.trans (List.subset_cons_self c s₂) (List.subset_append_right _ _)⟩

theorem subset_of_readConversion {name s : List Char} (h : readConversion name s = .ok (f, rest)) :
    f.name = name ∧ f.spec ⊆ s ∧ rest ⊆ s := by
  unfold readConversion at h
  split at h
  · cases h
  · cases h
  · next conversion c s =>
    have hsub : s ⊆ conversion :: c :: s :=
      List.Subset.trans (List.subset_cons_self c s) (List.subset_cons_self conversion _)
    split_ifs at h
    · cases h
      exact ⟨rfl, List.nil_subset _, hsub⟩
    · obtain ⟨⟨spec, rest'⟩, hspec, h⟩ := map_eq_ok.1 h
      cases h
      obtain ⟨hspec, hrest⟩ := subset_of_eq_append (eq_of_readSpec hspec)
      exact ⟨rfl, List.Subset.trans hspec hsub, List.Subset.trans hrest hsub⟩

theorem within_of_readField {s : List Char} (h : readField s = .ok (f, rest)) : f.Within s ∧ rest ⊆ s := by
  unfold readField at h
  split at h
  · cases h
  · next name stop after hread =>
    obtain ⟨hname, hafter⟩ := subset_of_eq_append (eq_of_readName hread)
    split_ifs at h
    · obtain ⟨rfl, hspec, hrest⟩ := subset_of_readConversion h
      exact ⟨⟨hname, List.Subset.trans hspec hafter⟩, List.Subset.trans hrest hafter⟩
    · obtain ⟨⟨spec, rest'⟩, hspec, h⟩ := map_eq_ok.1 h
      cases h
      obtain ⟨hspec, hrest⟩ := subset_of_eq_append (eq_of_readSpec hspec)
      exact ⟨⟨hname, List.Subset.trans hspec hafter⟩, List.Subset.trans hrest hafter⟩
    · cases h
      exact ⟨⟨hname, List.nil_subset _⟩, hafter⟩

theorem within_of_mem_parseFrom {s : List Char} (h : .field f ∈ (parseFrom fuel s).segments) : f.Within s := by
  induction fuel generalizing s with
  | zero => cases h
  | succ fuel ih =>
    have hchar {c : Char} {rest : List Char} (hrest : rest ⊆ s)
        (h : .field f ∈ ((parseFrom fuel rest).cons (.char c)).segments) : f.Within s := by
      rcases List.mem_cons.1 h with h | h
      · cases h
      · exact (ih h).mono hrest
    cases s with
    | nil => cases h
    | cons c s =>
      have htail : s ⊆ c :: s := List.subset_cons_self c s
      unfold parseFrom at h
      split at h
      · split at h
        · cases h
        · next d s =>
          split at h
          · exact hchar (List.Subset.trans (List.subset_cons_self d s) htail) h
          · split at h
            · cases h
            · next g rest hread =>
              obtain ⟨hg, hrest⟩ := within_of_readField hread
              rcases List.mem_cons.1 h with h | h
              · cases h
                exact hg.mono htail
              · exact (ih h).mono (List.Subset.trans hrest htail)
      · split at h
        · split at h
          · next d s =>
            split at h
            · exact hchar (List.Subset.trans (List.subset_cons_self d s) htail) h
            · cases h
          · cases h
        · exact hchar htail h

theorem Reaches.within {value : List Char} (h : Reaches args depth numbering template f value numbering') :
    f.Within template := by
  obtain ⟨before, after, filled, between, hparse, -⟩ := h
  have hmem : .field f ∈ (parse template).segments := by
    rw [hparse]
    exact List.mem_append_right _ List.mem_cons_self
  exact within_of_mem_parseFrom hmem

theorem path_subset (name : List Char) : (splitName name).2 ⊆ name := by
  unfold splitName
  rw [List.span_eq_takeWhile_dropWhile]
  exact (List.dropWhile_sublist _).subset

theorem mem_of_strays (h : Strays value path m) : '.' ∈ path ∨ '[' ∈ path := by
  cases h with
  | dot => exact .inl List.mem_cons_self
  | word => exact .inr List.mem_cons_self
  | index => exact .inr List.mem_cons_self

/-- A template is misused only by way of a dot or a square bracket. -/
theorem mem_of_misused (h : Misused args depth numbering template m) : '.' ∈ template ∨ '[' ∈ template := by
  induction h with
  | name hreached hstrays =>
    have hpath := List.Subset.trans (path_subset _) hreached.within.1
    exact (mem_of_strays hstrays).imp (fun h => hpath h) fun h => hpath h
  | layout hreached _ _ _ _ ih => exact ih.imp (fun h => hreached.within.2 h) fun h => hreached.within.2 h

end Template

/-- The key stands before what is wrong. -/
theorem Error.message_badTemplate (key template : String) (c : Template.Cause) :
    (Error.badTemplate key template c).message = "Translation template " ++ key ++ " is invalid: " ++
      (Text.quote template ++ " (" ++ c.shown ++ ")") := by
  unfold message
  simp only [String.append_assoc]
  rfl

namespace LabelTemplate

variable {l : LabelTemplate} {t : Translator} {args : Template.Arguments} {m : Template.Misuse}

theorem render_eq_misuse_iff : l.render t args = .error (.misuse m) ↔
    Template.Misused args 2 .undecided (t.textOr l.key l.default).toList m := by
  rw [← Template.fillNested_eq_misuse_iff]
  unfold render Template.fill
  dsimp only
  cases Template.fillNested args 2 .undecided (t.textOr l.key l.default).toList with
  | ok filled =>
    constructor
    · nofun
    · nofun
  | error e => cases e <;> simp [Except.map]

/-- The label is a text, or else the template is at fault, which names its key, or misused. -/
theorem render_cases (l : LabelTemplate) (t : Translator) (args : Template.Arguments) :
    (∃ text, l.render t args = .ok text) ∨
      (∃ c, l.render t args = .error (.error (.badTemplate l.key (t.textOr l.key l.default) c))) ∨
      ∃ m, l.render t args = .error (.misuse m) := by
  unfold render
  dsimp only
  cases Template.fill args (t.textOr l.key l.default) with
  | ok text => exact .inl ⟨text, rfl⟩
  | error e =>
    cases e with
    | cause c => exact .inr (.inl ⟨c, rfl⟩)
    | misuse m => exact .inr (.inr ⟨m, rfl⟩)

/-- A template without dots and square brackets results in a text or in an error that names its key. -/
theorem render_of_not_mem (hdot : '.' ∉ (t.textOr l.key l.default).toList)
    (hbracket : '[' ∉ (t.textOr l.key l.default).toList) :
    (∃ text, l.render t args = .ok text) ∨
      ∃ c, l.render t args = .error (.error (.badTemplate l.key (t.textOr l.key l.default) c)) := by
  rcases render_cases l t args with htext | hbad | ⟨m, hm⟩
  · exact .inl htext
  · exact .inr hbad
  · exact absurd (Template.mem_of_misused (render_eq_misuse_iff.1 hm)) (not_or.2 ⟨hdot, hbracket⟩)

end LabelTemplate

end Yardstick
