import Yardstick.Proofs.Json.Overlong
import Yardstick.Session.Documents

/-!
# Reading files

What reading a file fails for is put down to the file, with its path in the message, but for three
faults that are not: a zero character in the path, bytes that are no text, and an integer of too many
digits (`Store.read_reports_iff`).
-/

namespace Yardstick

open Text

/-! ## Texts in bytes -/

namespace Text.Utf8

variable {bytes : ByteArray} {text : String}

theorem decode_eq_ok_iff : decode bytes = .ok text ↔ bytes = encode text := by
  constructor
  · intro h
    unfold decode at h
    split at h
    · next s hs =>
      cases h
      unfold String.fromUTF8? at hs
      split at hs
      · cases hs
        rfl
      · cases hs
    · cases h
  · rintro rfl
    exact decode_encode text

theorem encode_injective {text text' : String} (h : encode text = encode text') : text = text' :=
  Except.ok.inj ((decode_encode text).symm.trans (h ▸ decode_encode text'))

end Text.Utf8

/-! ## Failures -/

/-- The failure is put down to the file with this path. -/
inductive Failure.IsOfFile (path : String) : Failure → Prop
  | unreadable (f : AccessFault) : IsOfFile path (.unreadable path f)
  | malformed (f : Json.Fault) : IsOfFile path (.malformed path f)
  | notObject (kind : String) : IsOfFile path (.notObject path kind)

theorem Failure.IsOfFile.exists_message {path : String} {f : Failure} (h : f.IsOfFile path) :
    ∃ before after, f.message = before ++ path ++ after := by
  cases h with
  | unreadable f => exact ⟨"Failed to read file ", ": " ++ f.message, String.append_assoc⟩
  | malformed f => exact ⟨"Invalid JSON in ", ": " ++ f.message, String.append_assoc⟩
  | notObject kind => exact ⟨"Expected a JSON object in ", ", got " ++ kind, String.append_assoc⟩

/-- Something was read, or the failure is put down to the file and has its path in the message. -/
def Reports {α : Type} (path : String) (x : Except Failure α) : Prop :=
  (∃ a, x = .ok a) ∨ ∃ f, x = .error f ∧ f.IsOfFile path ∧
    ∃ before after, f.message = before ++ path ++ after

section

variable {α : Type} {path : String} {x : Except Failure α} {f : Failure}

theorem reports_of_ok {a : α} (h : x = .ok a) : Reports path x := .inl ⟨a, h⟩

theorem reports_of_error (h : x = .error f) (hf : f.IsOfFile path) : Reports path x :=
  .inr ⟨f, h, hf, hf.exists_message⟩

theorem reports_error_iff : Reports path (.error f : Except Failure α) ↔ f.IsOfFile path := by
  constructor
  · rintro (⟨a, ha⟩ | ⟨f', hf', hf, -⟩)
    · cases ha
    · exact Except.error.inj hf' ▸ hf
  · exact reports_of_error rfl

end

/-! ## Files -/

namespace Store

variable {s : Store} {p : Path}

theorem read_eq_zeroInPath_iff : s.read p = .error .zeroInPath ↔ p.hasZero = true := by
  constructor
  · intro h
    rcases bind_eq_error.1 h with h | ⟨place, -, h⟩
    · unfold locate at h
      split_ifs at h with hzero hlong
      · exact hzero
      · cases h
      · cases hplace : p.parts.foldlM s.step ⟨p.isAbsolute, 0, []⟩ <;> rw [hplace] at h <;> cases h
    · split at h <;> cases h
  · intro h
    exact bind_eq_error.2 (.inl (if_pos h))

theorem hasZero_of_read {bytes : ByteArray} (h : s.read p = .ok bytes) : p.hasZero = false := by
  refine Bool.eq_false_iff.2 fun hzero => ?_
  cases h.symm.trans (read_eq_zeroInPath_iff.2 hzero)

theorem readText_eq_ok_iff {text : List Char} :
    s.readText p = .ok text ↔
      ∃ content, s.read p = .ok (Utf8.encode content) ∧ unifyNewlines content.toList = text := by
  unfold readText
  simp only [bind_eq_ok, mapError_eq_ok, Utf8.decode_eq_ok_iff]
  constructor
  · rintro ⟨_, hread, content, rfl, htext⟩
    exact ⟨content, hread, Except.ok.inj htext⟩
  · rintro ⟨content, hread, rfl⟩
    exact ⟨_, hread, content, rfl, rfl⟩

/-- Whether the path, the file or its bytes are at fault. -/
theorem readText_eq_error {f : Failure} (h : s.readText p = .error f) :
    (p.hasZero = true ∧ f = .access .zeroInPath) ∨
    (p.hasZero = false ∧ ∃ g, s.read p = .error g ∧ f = .unreadable p.text g) ∨
    ∃ bytes g, s.read p = .ok bytes ∧ (∀ content, bytes ≠ Utf8.encode content) ∧ f = .encoding g := by
  unfold readText at h
  rcases bind_eq_error.1 h with h | ⟨bytes, hread, h⟩
  · obtain ⟨g, hread, rfl⟩ := mapError_eq_error.1 h
    cases hzero : p.hasZero with
    | true =>
      cases hread.symm.trans (read_eq_zeroInPath_iff.2 hzero)
      exact .inl ⟨rfl, rfl⟩
    | false =>
      refine .inr (.inl ⟨rfl, g, hread, ?_⟩)
      cases g with
      | zeroInPath => exact absurd (read_eq_zeroInPath_iff.1 hread) (Bool.eq_false_iff.1 hzero)
      | _ => rfl
  · rcases bind_eq_error.1 h with h | ⟨content, -, h⟩
    · obtain ⟨g, hdecode, rfl⟩ := mapError_eq_error.1 h
      refine .inr (.inr ⟨bytes, g, mapError_eq_ok.1 hread, fun content hcontent => ?_, rfl⟩)
      cases hdecode.symm.trans (Utf8.decode_eq_ok_iff.2 hcontent)
    · cases h

/-- A file can have this path, and what it holds is text. -/
def HoldsText (s : Store) (p : Path) : Prop :=
  p.hasZero = false ∧ ∀ bytes, s.read p = .ok bytes → ∃ content, bytes = Utf8.encode content

/-- Reading the text of a file as JSON does not come to an integer of too many digits. -/
def SparesIntegers (s : Store) (p : Path) : Prop :=
  ∀ content digits t, s.read p = .ok (Utf8.encode content) →
    Json.Comes (Json.skipSpace (unifyNewlines content.toList)) t → ¬ Json.Overlong digits t

theorem reports_readText_iff : Reports p.text (s.readText p) ↔ s.HoldsText p := by
  cases h : s.readText p with
  | ok text =>
    obtain ⟨content, hread, -⟩ := readText_eq_ok_iff.1 h
    refine iff_of_true (reports_of_ok rfl) ⟨hasZero_of_read hread, fun bytes hbytes => ⟨content, ?_⟩⟩
    exact Except.ok.inj (hbytes.symm.trans hread)
  | error f =>
    rw [reports_error_iff]
    rcases readText_eq_error h with ⟨hzero, rfl⟩ | ⟨hzero, g, hread, rfl⟩ |
      ⟨bytes, g, hread, hno, rfl⟩
    · exact iff_of_false nofun fun hholds => Bool.false_ne_true (hholds.1.symm.trans hzero)
    · refine iff_of_true (.unreadable g) ⟨hzero, fun bytes hbytes => ?_⟩
      cases hread.symm.trans hbytes
    · refine iff_of_false nofun fun hholds => ?_
      obtain ⟨content, hcontent⟩ := hholds.2 bytes hread
      exact hno content hcontent

theorem reports_readLines_iff : Reports p.text (s.readLines p) ↔ s.HoldsText p := by
  rw [← reports_readText_iff]
  unfold readLines
  cases s.readText p with
  | ok text => exact iff_of_true (reports_of_ok rfl) (reports_of_ok rfl)
  | error f => exact reports_error_iff.trans reports_error_iff.symm

/-- The object in a text that was read, unless it is not put down to the file that there is none. -/
theorem readObject_of_readText {text : List Char} (h : s.readText p = .ok text) :
    (∃ digits, Json.parse (String.ofList text) = .error (.hugeInteger digits) ∧
      s.readObject p = .error (.hugeInteger digits)) ∨
    (∀ digits, Json.parse (String.ofList text) ≠ .error (.hugeInteger digits)) ∧
      Reports p.text (s.readObject p) := by
  cases hparse : Json.parse (String.ofList text) with
  | error f =>
    cases f with
    | malformed cause position =>
      refine .inr ⟨fun digits heq => ?_, reports_of_error ?_ (.malformed (.malformed cause position))⟩
      · cases heq
      · exact bind_eq_error.2 (.inr ⟨text, h, by rw [hparse]; rfl⟩)
    | hugeInteger digits =>
      exact .inl ⟨digits, rfl, bind_eq_error.2 (.inr ⟨text, h, by rw [hparse]; rfl⟩)⟩
  | ok v =>
    refine .inr ⟨fun digits heq => ?_, ?_⟩
    · cases heq
    · by_cases hv : ∃ ms, v = .obj ms
      · obtain ⟨ms, rfl⟩ := hv
        exact reports_of_ok (bind_eq_ok.2 ⟨text, h, by rw [hparse]; rfl⟩)
      · have hrun : s.readObject p = .error (.notObject p.text v.kindWord) := by
          refine bind_eq_error.2 (.inr ⟨text, h, ?_⟩)
          rw [hparse]
          cases v with
          | obj ms => exact absurd ⟨ms, rfl⟩ hv
          | _ => rfl
        exact reports_of_error hrun (.notObject _)

theorem readLines_of_error {f : Failure} (h : s.readText p = .error f) :
    s.readLines p = .error f := map_eq_error.2 h

theorem readObject_of_error {f : Failure} (h : s.readText p = .error f) :
    s.readObject p = .error f := bind_eq_error.2 (.inl h)

theorem reports_readObject_iff :
    Reports p.text (s.readObject p) ↔ s.HoldsText p ∧ s.SparesIntegers p := by
  rw [← reports_readText_iff]
  cases h : s.readText p with
  | error f =>
    have hspares : s.SparesIntegers p := by
      intro content digits t hread
      cases h.symm.trans (readText_eq_ok_iff.2 ⟨content, hread, rfl⟩)
    rw [readObject_of_error h, reports_error_iff, reports_error_iff, and_iff_left hspares]
  | ok text =>
    obtain ⟨content, hread, rfl⟩ := readText_eq_ok_iff.1 h
    rw [and_iff_right (reports_of_ok rfl)]
    rcases readObject_of_readText h with ⟨digits, hparse, hrun⟩ | ⟨hno, hreports⟩
    · rw [hrun, reports_error_iff]
      obtain ⟨t, hcomes, hlong⟩ := Json.parse_eq_hugeInteger_iff.1 hparse
      rw [String.toList_ofList] at hcomes
      exact iff_of_false nofun fun hspares => hspares content digits t hread hcomes hlong
    · refine iff_of_true hreports fun content' digits t hread' hcomes hlong => ?_
      cases Utf8.encode_injective (Except.ok.inj (hread.symm.trans hread'))
      refine hno digits (Json.parse_eq_hugeInteger_iff.2 ⟨t, ?_, hlong⟩)
      rwa [String.toList_ofList]

theorem readText_fault {f : Failure} (h : s.readText p = .error f) :
    f.IsOfFile p.text ∨ f = .access .zeroInPath ∨ ∃ g, f = .encoding g := by
  rcases readText_eq_error h with ⟨-, rfl⟩ | ⟨-, g, -, rfl⟩ | ⟨-, g, -, -, rfl⟩
  · exact .inr (.inl rfl)
  · exact .inl (.unreadable g)
  · exact .inr (.inr ⟨g, rfl⟩)

/-- The lines of a file or its JSON object are read, or the failure is put down to the file and names the
resolved path, exactly if a file can have that path and holds text, and reading it as JSON does not come to
an integer of too many digits. What fails otherwise fails for one of these three. -/
theorem read_reports_iff (s : Store) (base : Base) (p : Path) :
    let path := base.resolve p
    (Reports path.text (s.readLines path) ↔ s.HoldsText path) ∧
    (Reports path.text (s.readObject path) ↔ s.HoldsText path ∧ s.SparesIntegers path) ∧
    (∀ f, s.readLines path = .error f →
      f.IsOfFile path.text ∨ f = .access .zeroInPath ∨ ∃ g, f = .encoding g) ∧
    ∀ f, s.readObject path = .error f →
      f.IsOfFile path.text ∨ f = .access .zeroInPath ∨ (∃ g, f = .encoding g) ∨
        ∃ digits, f = .hugeInteger digits := by
  intro path
  refine ⟨reports_readLines_iff, reports_readObject_iff, fun f h => readText_fault (map_eq_error.1 h),
    fun f h => ?_⟩
  cases htext : s.readText path with
  | error g =>
    cases (readObject_of_error htext).symm.trans h
    exact (readText_fault htext).imp_right (Or.imp_right .inl)
  | ok text =>
    rcases readObject_of_readText htext with ⟨digits, -, hrun⟩ | ⟨-, hreports⟩
    · cases hrun.symm.trans h
      exact .inr (.inr (.inr ⟨digits, rfl⟩))
    · rw [h] at hreports
      exact .inl (reports_error_iff.1 hreports)

/-- A file of one byte that is no text. -/
def strayByte : Store := ⟨[(⟨false, 0, ["notes.json"]⟩, .file ⟨#[0xFF]⟩)], ["root"]⟩

theorem readText_strayByte :
    strayByte.readText (.ofText "notes.json") = .error (.encoding ⟨0xFF, 0, 1, .invalidStart⟩) := by
  have hread : strayByte.read (.ofText "notes.json") = .ok ⟨#[0xFF]⟩ := rfl
  have hdecode : Utf8.decode ⟨#[0xFF]⟩ = .error ⟨0xFF, 0, 1, .invalidStart⟩ := by decide +kernel
  refine bind_eq_error.2 (.inr ⟨_, mapError_eq_ok.2 hread, bind_eq_error.2 (.inl ?_)⟩)
  exact mapError_eq_error.2 ⟨_, hdecode, rfl⟩

/-- Neither its lines nor its object can be read, and the message does not name it. -/
theorem not_reports_strayByte :
    let path := Base.resolve none (.ofText "notes.json")
    let message := "'utf-8' codec can't decode byte 0xff in position 0: invalid start byte"
    (∃ f, strayByte.readLines path = .error f ∧ f.message = message ∧
      ¬ Reports path.text (strayByte.readLines path)) ∧
    ∃ f, strayByte.readObject path = .error f ∧ f.message = message ∧
      ¬ Reports path.text (strayByte.readObject path) := by
  have hlines := readLines_of_error readText_strayByte
  have hobject := readObject_of_error readText_strayByte
  have hmessage : (Failure.encoding ⟨0xFF, 0, 1, .invalidStart⟩).message =
      "'utf-8' codec can't decode byte 0xff in position 0: invalid start byte" := by decide +kernel
  refine ⟨⟨_, hlines, hmessage, fun h => ?_⟩, _, hobject, hmessage, fun h => ?_⟩
  · cases reports_error_iff.1 (hlines ▸ h)
  · cases reports_error_iff.1 (hobject ▸ h)

end Store

end Yardstick
