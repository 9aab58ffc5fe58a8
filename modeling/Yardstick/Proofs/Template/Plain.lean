import Yardstick.Proofs.Template.Misuse

/-!
# Plain templates

A plain template is made of text, in which braces are doubled, and of fields that name an argument and ask
for nothing else. Filling it puts each argument in the place of its field as it stands, braces and all
(`fill_of_unmixed`): what was put in is not looked at again. Only fields with an index beside fields that
leave theirs to be counted are refused (`fill_of_mixed`).
-/

namespace Yardstick.Template

open Text

/-- A part of a plain template: text, or a field for the argument after that of the last such field, for the
one at an index, or for the one of a name. An index has its digits. -/
inductive Part
  | text (s : List Char)
  | next
  | nth (i : Nat) (digits : List Char)
  | named (name : List Char)
  deriving DecidableEq

/-- The characters that end the name of a field, or part it. -/
def marks : List Char := ['\x7b', '\x7d', '!', ':', '.', '[']

namespace Part

/-- The digits of an index are a number, and a name is none and holds no marks. -/
def IsPlain : Part → Prop
  | text _ | next => True
  | nth i digits => index? digits = .ok (some i)
  | named name => name ≠ [] ∧ index? name = .ok none ∧ ∀ c ∈ name, c ∉ marks

-- `List.all` goes through the name only, where the quantifier may be decided through all characters
instance : DecidablePred IsPlain
  | text _ | next => .isTrue trivial
  | nth i digits => inferInstanceAs (Decidable (index? digits = .ok (some i)))
  | named name =>
    decidable_of_iff (name ≠ [] ∧ index? name = .ok none ∧ (name.all fun c => decide (c ∉ marks)) = true)
      (by simp [IsPlain])

/-- The part as it stands in a template. -/
def written : Part → List Char
  | text s => s.flatMap fun c => if c = '\x7b' || c = '\x7d' then [c, c] else [c]
  | next => ['\x7b', '\x7d']
  | nth _ digits => '\x7b' :: (digits ++ ['\x7d'])
  | named name => '\x7b' :: (name ++ ['\x7d'])

/-- What the part shows, if the argument is there; `seen` fields were for the next argument. -/
def value? (args : Arguments) (seen : Nat) : Part → Option (List Char)
  | text s => some s
  | next => (args.positional[seen]?).map String.toList
  | nth i _ => (args.positional[i]?).map String.toList
  | named name => (args.named.lookup (String.ofList name)).map String.toList

/-- How many fields were for the next argument, this part included. -/
def seenAfter (seen : Nat) : Part → Nat
  | next => seen + 1
  | _ => seen

/-- The part is a field that gives its index. -/
def isNth : Part → Bool
  | nth _ _ => true
  | _ => false

/-- The segments that the part is cut into. -/
def segments : Part → List Segment
  | text s => s.map .char
  | next => [.field ⟨[], none, []⟩]
  | nth _ digits => [.field ⟨digits, none, []⟩]
  | named name => [.field ⟨name, none, []⟩]

end Part

/-- The template of some parts. -/
def written (parts : List Part) : List Char := parts.flatMap Part.written

/-- What all parts show, one after the other, if all arguments are there. -/
def shown (args : Arguments) : (seen : Nat) → List Part → Option (List Char)
  | _, [] => some []
  | seen, p :: parts => do
    let value ← p.value? args seen
    return value ++ (← shown args (p.seenAfter seen) parts)

/-- Fields that leave their index to be counted do not stand beside fields that give it. -/
def Unmixed (parts : List Part) : Prop := .next ∉ parts ∨ ∀ p ∈ parts, p.isNth = false

instance : DecidablePred Unmixed := fun _ => inferInstanceAs (Decidable (_ ∨ _))

variable {args : Arguments} {parts : List Part} {p : Part} {segments : List Segment} {fuel i seen : Nat}
  {c : Char} {s name rest digits value : List Char} {numbering numbering' : Numbering}

theorem not_mem_marks_iff : c ∉ marks ↔
    c ≠ '\x7b' ∧ c ≠ '\x7d' ∧ c ≠ '!' ∧ c ≠ ':' ∧ c ≠ '.' ∧ c ≠ '[' := by
  simp [marks]

@[simp] theorem Part.isPlain_text (s : List Char) : (text s).IsPlain := trivial

section

variable {v : String}

theorem shown_nil : shown args seen [] = some [] := rfl

theorem shown_text (s : List Char) (parts : List Part) :
    shown args seen (.text s :: parts) = (shown args seen parts).map (s ++ ·) := by
  cases h : shown args seen parts <;> simp [shown, Part.value?, Part.seenAfter, h]

theorem shown_nth (h : args.positional[i]? = some v) (digits : List Char) (parts : List Part) :
    shown args seen (.nth i digits :: parts) = (shown args seen parts).map (v.toList ++ ·) := by
  cases hparts : shown args seen parts <;> simp [shown, Part.value?, Part.seenAfter, h, hparts]

theorem shown_named (h : args.named.lookup (String.ofList name) = some v) (parts : List Part) :
    shown args seen (.named name :: parts) = (shown args seen parts).map (v.toList ++ ·) := by
  cases hparts : shown args seen parts <;> simp [shown, Part.value?, Part.seenAfter, h, hparts]

end

/-! ## Numbers -/

theorem digits_of_readNumber {n m : Nat} (h : readNumber n s = .ok (m, [])) :
    ∀ c ∈ s, (digit? c).isSome = true := by
  induction s generalizing n with
  | nil => simp
  | cons c s ih =>
    rw [readNumber] at h
    split at h
    · cases h
    · next d hd =>
      split_ifs at h
      exact List.forall_mem_cons.2 ⟨by rw [hd]; rfl, ih h⟩

/-- An index is written by digits only. -/
theorem not_mem_marks_of_index? (h : index? digits = .ok (some i)) : ∀ c ∈ digits, c ∉ marks := by
  have hmarks : (marks.all fun c => (digit? c).isNone) = true := by decide
  have hdigits : ∀ c ∈ digits, (digit? c).isSome = true := by
    unfold index? at h
    split at h
    · cases h
    · next n hread =>
      cases h
      cases digits with
      | nil => cases hread
      | cons c digits =>
        rw [readNumber?] at hread
        split_ifs at hread
        · obtain ⟨⟨m, rest⟩, hnumber, heq⟩ := map_eq_ok.1 hread
          cases heq
          exact digits_of_readNumber hnumber
        · cases hread
    · cases h
  intro c hc hmark
  have hnone : (digit? c).isNone = true := List.all_eq_true.1 hmarks c hmark
  have hsome : (digit? c).isSome = true := hdigits c hc
  rw [Option.isNone_iff_eq_none.1 hnone] at hsome
  cases hsome

/-! ## Cutting a plain template -/

/-- The text is cut into these segments, with any fuel that its length leaves. -/
def Cuts (s : List Char) (segments : List Segment) : Prop :=
  ∀ fuel, s.length ≤ fuel → parseFrom fuel s = ⟨segments, none⟩

theorem cuts_nil : Cuts [] [] := fun fuel _ => by cases fuel <;> rfl

theorem Cuts.char (h : Cuts rest segments) (hopening : c ≠ '\x7b') (hclosing : c ≠ '\x7d') :
    Cuts (c :: rest) (.char c :: segments) := by
  intro fuel hfuel
  obtain ⟨fuel, rfl⟩ := Nat.exists_eq_add_one.2 (Nat.zero_lt_of_lt hfuel)
  unfold parseFrom
  rw [if_neg hopening, if_neg hclosing, h fuel (Nat.le_of_succ_le_succ hfuel)]
  rfl

/-- A doubled brace stands for one. -/
theorem Cuts.brace (h : Cuts rest segments) (hc : c = '\x7b' ∨ c = '\x7d') :
    Cuts (c :: c :: rest) (.char c :: segments) := by
  intro fuel hfuel
  obtain ⟨fuel, rfl⟩ := Nat.exists_eq_add_one.2 (Nat.zero_lt_of_lt hfuel)
  have hrest := h fuel (Nat.le_of_succ_le (Nat.le_of_succ_le_succ hfuel))
  rcases hc with rfl | rfl
  · rw [parseFrom, if_pos rfl, if_pos rfl, hrest]
    rfl
  · rw [parseFrom, if_neg (by decide), if_pos rfl, if_pos rfl, hrest]
    rfl

theorem readName_plain (hname : ∀ c ∈ name, c ∉ marks) (rest : List Char) :
    readName false (name ++ '\x7d' :: rest) = .ok (name, '\x7d', rest) := by
  induction name with
  | nil => rfl
  | cons c name ih =>
    obtain ⟨hc, hname⟩ := List.forall_mem_cons.1 hname
    obtain ⟨hopening, hclosing, hmark, hcolon, -, hbracket⟩ := not_mem_marks_iff.1 hc
    have hgoes : ¬ (c = '\x7d' || c = ':' || c = '!') = true := by simp [hclosing, hcolon, hmark]
    rw [List.cons_append, readName, if_neg (by decide), if_neg hopening, if_neg hgoes,
      decide_eq_false hbracket, ih hname]
    rfl

theorem Cuts.field (h : Cuts rest segments) (hname : ∀ c ∈ name, c ∉ marks) :
    Cuts ('\x7b' :: (name ++ '\x7d' :: rest)) (.field ⟨name, none, []⟩ :: segments) := by
  have hfield : readField (name ++ '\x7d' :: rest) = .ok (⟨name, none, []⟩, rest) := by
    rw [readField, readName_plain hname]
    rfl
  obtain ⟨d, after, heq, hd⟩ : ∃ d after, name ++ '\x7d' :: rest = d :: after ∧ d ≠ '\x7b' := by
    cases name with
    | nil => exact ⟨'\x7d', rest, rfl, by decide⟩
    | cons d name =>
      refine ⟨d, name ++ '\x7d' :: rest, rfl, ?_⟩
      rintro rfl
      exact hname '\x7b' List.mem_cons_self (by decide)
  intro fuel hfuel
  obtain ⟨fuel, rfl⟩ := Nat.exists_eq_add_one.2 (Nat.zero_lt_of_lt hfuel)
  simp only [List.length_cons, List.length_append] at hfuel
  rw [heq] at hfield ⊢
  rw [parseFrom, if_pos rfl, if_neg hd, hfield]
  dsimp only
  rw [h fuel (by omega)]
  rfl

theorem Cuts.text (h : Cuts rest segments) (s : List Char) :
    Cuts ((Part.text s).written ++ rest) (s.map .char ++ segments) := by
  induction s with
  | nil => exact h
  | cons c s ih =>
    show Cuts ((if c = '\x7b' || c = '\x7d' then [c, c] else [c]) ++ (Part.text s).written ++ rest) _
    rw [List.append_assoc]
    split_ifs with hc
    · exact ih.brace (by simpa using hc)
    · simp only [Bool.or_eq_true, decide_eq_true_eq, not_or] at hc
      exact ih.char hc.1 hc.2

/-- A part is cut off, whatever follows it. -/
theorem Cuts.part (h : Cuts rest segments) (hp : p.IsPlain) :
    Cuts (p.written ++ rest) (p.segments ++ segments) := by
  have hfield {name : List Char} (hname : ∀ c ∈ name, c ∉ marks) :
      Cuts ('\x7b' :: (name ++ ['\x7d']) ++ rest) (.field ⟨name, none, []⟩ :: segments) := by
    rw [List.cons_append, List.append_assoc]
    exact h.field hname
  cases p with
  | text s => exact h.text s
  | next => exact h.field (List.forall_mem_nil _)
  | nth i digits => exact hfield (not_mem_marks_of_index? hp)
  | named name => exact hfield hp.2.2

theorem cuts_written (h : ∀ p ∈ parts, p.IsPlain) : Cuts (written parts) (parts.flatMap Part.segments) := by
  induction parts with
  | nil => exact cuts_nil
  | cons p parts ih =>
    obtain ⟨hp, hparts⟩ := List.forall_mem_cons.1 h
    exact (ih hparts).part hp

/-! ## Numbering the fields -/

/-- How the fields give their index after this part. -/
def Part.renumber (numbering : Numbering) : Part → Except Cause Numbering
  | next => numbering.next.map Prod.snd
  | nth _ _ => numbering.useIndex
  | _ => .ok numbering

/-- The parts may follow fields that gave their index in this way. -/
def Numbering.Suits : Numbering → List Part → Prop
  | .undecided, parts => Unmixed parts
  | .automatic _, parts => ∀ p ∈ parts, p.isNth = false
  | .manual, parts => .next ∉ parts

theorem Numbering.suits_nil (numbering : Numbering) : numbering.Suits [] := by
  cases numbering with
  | undecided => exact .inl List.not_mem_nil
  | automatic n => exact List.forall_mem_nil _
  | manual => exact List.not_mem_nil

/-- One step: a part may follow if it can be numbered, and the parts after it then. -/
theorem Numbering.suits_cons_iff (numbering : Numbering) (p : Part) (parts : List Part) :
    numbering.Suits (p :: parts) ↔
      ∃ numbering', p.renumber numbering = .ok numbering' ∧ numbering'.Suits parts := by
  cases p <;> cases numbering <;>
    simp [Suits, Unmixed, Part.isNth, Part.renumber, Numbering.next, useIndex, Except.map]

theorem exists_foldlM_renumber_iff : (∃ numbering', parts.foldlM Part.renumber numbering = .ok numbering') ↔
    numbering.Suits parts := by
  induction parts generalizing numbering with
  | nil => exact iff_of_true ⟨numbering, rfl⟩ numbering.suits_nil
  | cons p parts ih =>
    rw [numbering.suits_cons_iff]
    simp only [List.foldlM_cons, bind_eq_ok, ← ih]
    constructor
    · rintro ⟨numbering', between, hp, hparts⟩
      exact ⟨between, hp, numbering', hparts⟩
    · rintro ⟨between, hp, numbering', hparts⟩
      exact ⟨numbering', between, hp, hparts⟩

theorem Part.renumber_eq_error {e : Cause} (h : p.renumber numbering = .error e) :
    e = .manualToAutomatic ∨ e = .automaticToManual := by
  cases p <;> cases numbering <;> cases h
  · exact .inl rfl
  · exact .inr rfl

theorem foldlM_renumber_of_mixed (h : ¬ Unmixed parts) :
    ∃ e, (e = .manualToAutomatic ∨ e = .automaticToManual) ∧
      parts.foldlM Part.renumber .undecided = .error e := by
  cases hfold : parts.foldlM Part.renumber .undecided with
  | ok numbering' => exact absurd (exists_foldlM_renumber_iff.1 ⟨numbering', hfold⟩) h
  | error e =>
    obtain ⟨p, -, numbering, hp⟩ := exists_of_foldlM_eq_error hfold
    exact ⟨e, p.renumber_eq_error hp, rfl⟩

/-! ## Filling a plain template -/

/-- As many fields as were seen have been counted. -/
def Numbering.Counts (seen : Nat) : Numbering → Prop
  | .undecided => seen = 0
  | .automatic n => n = seen
  | .manual => True

theorem Numbering.Counts.renumber (h : numbering.Counts seen) (hp : p.renumber numbering = .ok numbering') :
    numbering'.Counts (p.seenAfter seen) := by
  cases p <;> cases numbering <;> cases hp
  case next.undecided => exact congrArg (· + 1) (Eq.symm h)
  case next.automatic n => exact congrArg (· + 1) h
  case nth.undecided => trivial
  all_goals exact h

section

variable {v : String}

theorem argument_next (hcounts : numbering.Counts seen) (hv : args.positional[seen]? = some v) :
    argument args numbering [] =
      (Part.next.renumber numbering).map fun numbering' => (v.toList, numbering') := by
  have hindex : index? [] = .ok none := rfl
  unfold argument
  rw [hindex]
  dsimp only [bind, Except.bind]
  rw [if_pos List.isEmpty_nil]
  cases numbering with
  | manual => rfl
  | undecided | automatic n =>
    cases hcounts
    dsimp only [Numbering.next]
    rw [hv]
    rfl

theorem argument_nth (hindex : index? digits = .ok (some i)) (hv : args.positional[i]? = some v) :
    argument args numbering digits = numbering.useIndex.map fun numbering' => (v.toList, numbering') := by
  unfold argument
  rw [hindex]
  dsimp only [bind, Except.bind]
  rw [hv]
  cases numbering.useIndex <;> rfl

theorem argument_named (hne : name ≠ []) (hindex : index? name = .ok none)
    (hv : args.named.lookup (String.ofList name) = some v) :
    argument args numbering name = .ok (v.toList, numbering) := by
  unfold argument
  rw [hindex]
  dsimp only [bind, Except.bind]
  rw [if_neg (mt List.isEmpty_iff.1 hne), hv]
  rfl

end

variable (expand : Numbering → List Char → Filling)

/-- A field that asks for nothing but an argument shows it as it stands. -/
theorem fillField_plain {x : Except Cause Numbering} (hname : ∀ c ∈ name, c ∉ marks)
    (hargument : argument args numbering name = x.map fun numbering' => (value, numbering')) :
    fillField expand args numbering ⟨name, none, []⟩ =
      (liftCause x).map fun numbering' => (value, numbering') := by
  have hwhole : ∀ c ∈ name, (c != '.' && c != '[') = true := by
    intro c hc
    obtain ⟨-, -, -, -, hdot, hbracket⟩ := not_mem_marks_iff.1 (hname c hc)
    simp [hdot, hbracket]
  have hsplit : splitName name = (name, []) := by
    rw [splitName, List.span_eq_takeWhile_dropWhile, List.takeWhile_eq_self_iff.2 hwhole,
      List.dropWhile_eq_nil_iff.2 hwhole]
  unfold fillField
  rw [hsplit]
  dsimp only
  rw [hargument]
  cases x <;> rfl

theorem fillSegments_plain {x : Except Cause Numbering} (hname : ∀ c ∈ name, c ∉ marks)
    (hargument : argument args numbering name = x.map fun numbering' => (value, numbering'))
    (segments : List Segment) :
    fillSegments expand args numbering (.field ⟨name, none, []⟩ :: segments) =
      liftCause x >>= fun numbering' =>
        (fillSegments expand args numbering' segments).map fun y => (value ++ y.1, y.2) := by
  rw [fillSegments_field, fillField_plain expand hname hargument]
  cases x <;> rfl

theorem fillSegments_text (s : List Char) (segments : List Segment) :
    fillSegments expand args numbering (s.map .char ++ segments) =
      (fillSegments expand args numbering segments).map fun y => (s ++ y.1, y.2) := by
  induction s with
  | nil => cases h : fillSegments expand args numbering segments <;> simp [h, Except.map]
  | cons c s ih =>
    rw [List.map_cons, List.cons_append, fillSegments_char, ih]
    cases fillSegments expand args numbering segments <;> rfl

/-- One step: a part that can be numbered shows its value before the parts after it. -/
theorem Part.fillSegments_append (hp : p.IsPlain) (hcounts : numbering.Counts seen)
    (hvalue : p.value? args seen = some value) (segments : List Segment) :
    fillSegments expand args numbering (p.segments ++ segments) =
      liftCause (p.renumber numbering) >>= fun numbering' =>
        (fillSegments expand args numbering' segments).map fun y => (value ++ y.1, y.2) := by
  cases p with
  | text s =>
    cases hvalue
    exact fillSegments_text expand value segments
  | next =>
    obtain ⟨v, hv, rfl⟩ := Option.map_eq_some_iff.1 hvalue
    exact fillSegments_plain expand (List.forall_mem_nil _) (argument_next hcounts hv) segments
  | nth i digits =>
    obtain ⟨v, hv, rfl⟩ := Option.map_eq_some_iff.1 hvalue
    exact fillSegments_plain expand (not_mem_marks_of_index? hp) (argument_nth hp hv) segments
  | named name =>
    obtain ⟨v, hv, rfl⟩ := Option.map_eq_some_iff.1 hvalue
    obtain ⟨hne, hindex, hname⟩ := hp
    exact fillSegments_plain expand hname (argument_named hne hindex hv) segments

/-- The run: all parts show their values if they can be numbered one after the other. -/
theorem fillSegments_parts {out : List Char} (hparts : ∀ p ∈ parts, p.IsPlain)
    (hcounts : numbering.Counts seen) (hshown : shown args seen parts = some out) :
    fillSegments expand args numbering (parts.flatMap Part.segments) =
      (liftCause (parts.foldlM Part.renumber numbering)).map fun numbering' => (out, numbering') := by
  induction parts generalizing seen numbering out with
  | nil =>
    cases hshown
    rfl
  | cons p parts ih =>
    obtain ⟨hp, hparts⟩ := List.forall_mem_cons.1 hparts
    obtain ⟨value, hvalue, hshown⟩ := Option.bind_eq_some_iff.1 hshown
    obtain ⟨rest, hrest, hshown⟩ := Option.bind_eq_some_iff.1 hshown
    cases hshown
    rw [List.flatMap_cons, p.fillSegments_append expand hp hcounts hvalue, List.foldlM_cons]
    cases hrenumber : p.renumber numbering with
    | error e => rfl
    | ok between =>
      show (fillSegments expand args between (parts.flatMap Part.segments)).map _ =
        (liftCause (parts.foldlM Part.renumber between)).map _
      rw [ih hparts (hcounts.renumber hrenumber) hrest]
      cases parts.foldlM Part.renumber between <;> rfl

section

variable {template : String} {out : List Char} (hparts : ∀ p ∈ parts, p.IsPlain)
  (htemplate : template.toList = written parts) (hshown : shown args 0 parts = some out)
include hparts htemplate hshown

theorem fill_written : fill args template =
    (liftCause (parts.foldlM Part.renumber .undecided)).map fun _ => String.ofList out := by
  have hparse : parse template.toList = ⟨parts.flatMap Part.segments, none⟩ := by
    rw [parse, htemplate]
    exact cuts_written hparts _ (Nat.le_refl _)
  have hcounts : Numbering.undecided.Counts 0 := rfl
  unfold fill fillNested
  dsimp only
  rw [hparse, fillSegments_parts (fillNested args 1) hparts hcounts hshown]
  cases parts.foldlM Part.renumber .undecided <;> rfl

/-- A plain template shows its text and its arguments, each in its place. -/
theorem fill_of_unmixed (h : Unmixed parts) : fill args template = .ok (String.ofList out) := by
  obtain ⟨numbering', hfold⟩ := exists_foldlM_renumber_iff.2 (show Numbering.undecided.Suits parts from h)
  rw [fill_written hparts htemplate hshown, hfold]
  rfl

theorem fill_of_mixed (h : ¬ Unmixed parts) :
    ∃ e, (e = .manualToAutomatic ∨ e = .automaticToManual) ∧ fill args template = .error (.cause e) := by
  obtain ⟨e, he, hfold⟩ := foldlM_renumber_of_mixed h
  refine ⟨e, he, ?_⟩
  rw [fill_written hparts htemplate hshown, hfold]
  rfl

end

end Yardstick.Template
