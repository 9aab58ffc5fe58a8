import Mathlib.Tactic.ByContra
import Yardstick.Csv.Column
import Yardstick.Csv.Printer
import Yardstick.Proofs.Csv.Bytes
import Yardstick.Proofs.Outcome

/-!
# What the words of a column become

A column is of one kind, which its words decide together, and then each word becomes a cell of this kind
by itself (`Words.cells_of_column`). A word stays as it is if its cell is written as it stands. Texts do,
apart from the words for a missing cell; numbers do if they stand as numbers are written.
-/

namespace Yardstick.Csv

open Yardstick.Text

/-! ## Kinds of columns -/

/-- What all words of a column are read as. -/
inductive Kind
  | signed
  /-- Signed integers, of which some are missing. -/
  | signedDouble
  | unsigned
  | big
  | double
  | bool
  | text
  /-- Texts, the words for a missing cell among them. -/
  | verbatim
  deriving Repr, DecidableEq

def Reading.int : Reading → Int
  | value n => n
  | _ => 0

/-- The text of a word, if it has one. -/
def textOf (w : Word) : String := (decodeWord w).toOption.getD ""

def spreadCell (filler : Cell) (read : Word → Option Cell) (w : Word) : Cell :=
  if isMissing w then filler else (read w).getD filler

/-- The cell that a word becomes in a column of a kind. -/
def Kind.cell : Kind → Word → Cell
  | signed, w => .int (readSigned w).int
  | unsigned, w => .int (readUnsigned w).int
  | signedDouble, w => spreadCell (.float (0.0 / 0.0)) (fun w => (signedFloat w).map .float) w
  | double, w => spreadCell (.float (0.0 / 0.0)) (fun w => (readDouble? w).map .float) w
  | big, w => spreadCell .missing (fun w => (readBig? w).map .int) w
  | bool, w => spreadCell .missing (fun w => (readBool? w).map .bool) w
  | text, w => spreadCell .missing (fun w => some (.text (textOf w))) w
  | verbatim, w => .text (textOf w)

namespace Words

def bigKind (ws : Words) : Kind :=
  if ws.present.all fun w => (readBig? w).isSome then .big else .verbatim

def otherKind (ws : Words) : Kind :=
  if ws.present.all fun w => (readDouble? w).isSome then .double
  else if ws.present.all fun w => (readBool? w).isSome then .bool
  else .text

def largeKind (ws : Words) : Kind :=
  match readAll readUnsigned ws.present with
  | .error .overflow => ws.bigKind
  | .error _ => ws.otherKind
  | .ok ns =>
    let negative := ns.any fun n => n < 0
    if (ns.any fun n => (Decimal.twoTo 63 : Int) ≤ n) && (negative || !ws.isFull) then .verbatim
    else if negative then ws.bigKind
    else .unsigned

/-- The kind of a column, by its words. -/
def kind (ws : Words) : Kind :=
  match readAll readSigned ws.present with
  | .ok _ => if ws.isFull then .signed else .signedDouble
  | .error .overflow => ws.largeKind
  | .error _ => ws.otherKind

end Words

/-! ## Cells -/

variable {ws : Words} {w : Word} {c : Column} {ns : List Int} {read : Word → Reading}

theorem readAll_eq_ok (h : readAll read ws = .ok ns) :
    ns = ws.map (fun w => (read w).int) ∧ ∀ w ∈ ws, read w = .value (read w).int := by
  induction ws generalizing ns with
  | nil =>
    cases h
    exact ⟨rfl, by simp⟩
  | cons w ws ih =>
    rw [readAll] at h
    split at h
    · next n hn =>
      obtain ⟨ns, hns, rfl⟩ := map_eq_ok.1 h
      obtain ⟨rfl, hall⟩ := ih hns
      rw [List.map_cons, List.forall_mem_cons, hn]
      exact ⟨rfl, rfl, hall⟩
    · cases h

/-- Reading stops at the first word that has no value. -/
theorem readAll_eq_error {r : Reading} (h : readAll read ws = .error r) :
    ∃ w ∈ ws, read w = r ∧ ∀ n, r ≠ .value n := by
  induction ws with
  | nil => cases h
  | cons w ws ih =>
    rw [readAll] at h
    split at h
    · cases hws : readAll read ws with
      | ok ns => rw [hws] at h; cases h
      | error r' =>
        rw [hws] at h
        cases h
        obtain ⟨v, hv, hread⟩ := ih hws
        exact ⟨v, List.mem_cons_of_mem w hv, hread⟩
    · next hnone =>
      cases h
      exact ⟨w, List.mem_cons_self, rfl, hnone⟩

namespace Words

theorem present_eq_self (h : ws.isFull = true) : ws.present = ws :=
  List.filter_eq_self.2 (List.all_eq_true.1 h)

theorem cells_floats (read : Word → Option Float) (ws : Words) : (ws.floats read).cells =
    ws.map (spreadCell (.float (0.0 / 0.0)) fun w => (read w).map .float) := by
  show List.map Cell.float (spread (0.0 / 0.0) read ws) = _
  unfold spread
  rw [List.map_map]
  refine List.map_congr_left fun w _ => ?_
  show Cell.float (if isMissing w then _ else (read w).getD _) = spreadCell _ _ w
  unfold spreadCell
  split
  · rfl
  · cases h : read w <;> simp [h]

theorem cells_cells (read : Word → Option Cell) (ws : Words) :
    (ws.cells read).cells = ws.map (spreadCell .missing read) := rfl

theorem textOf_of_decodeWord {s : String} (h : decodeWord w = .ok s) : textOf w = s := by
  unfold textOf
  rw [h]
  rfl

theorem cells_plainTexts (h : ws.plainTexts = .ok c) : c.cells = ws.map Kind.verbatim.cell := by
  obtain ⟨cells, hcells, rfl⟩ := map_eq_ok.1 h
  refine (List.map_id cells).symm.trans (map_eq_of_map_eq_ok ?_ (mapM_eq_ok.1 hcells)).symm
  intro w cell hcell
  obtain ⟨s, hs, rfl⟩ := map_eq_ok.1 hcell
  show Cell.text (textOf w) = .text s
  rw [textOf_of_decodeWord hs]

theorem cells_texts (h : ws.texts = .ok c) : c.cells = ws.map Kind.text.cell := by
  obtain ⟨cells, hcells, rfl⟩ := map_eq_ok.1 h
  refine (List.map_id cells).symm.trans (map_eq_of_map_eq_ok ?_ (mapM_eq_ok.1 hcells)).symm
  intro w cell hcell
  show (if isMissing w then Cell.missing else .text (textOf w)) = cell
  split at hcell
  · next hmissing =>
    rw [if_pos hmissing]
    exact Except.ok.inj hcell
  · next hpresent =>
    obtain ⟨s, hs, rfl⟩ := map_eq_ok.1 hcell
    rw [if_neg hpresent, textOf_of_decodeWord hs]

theorem cells_bigInts (h : ws.bigInts = .ok c) : c.cells = ws.map ws.bigKind.cell := by
  unfold bigInts at h
  unfold bigKind
  split at h
  · next hall =>
    rw [if_pos hall]
    cases h
    exact cells_cells _ ws
  · next hall =>
    rw [if_neg hall]
    exact cells_plainTexts h

theorem cells_bools (hfull : ws.isFull = true) (hall : ws.present.all fun w => (readBool? w).isSome) :
    (Column.bools (ws.present.filterMap readBool?)).cells = ws.map Kind.bool.cell := by
  rw [present_eq_self hfull] at hall ⊢
  unfold isFull at hfull
  rw [List.all_eq_true] at hall hfull
  show ((ws.filterMap readBool?).map Cell.bool) = _
  induction ws with
  | nil => rfl
  | cons w ws ih =>
    rw [List.forall_mem_cons] at hall hfull
    obtain ⟨b, hb⟩ := Option.isSome_iff_exists.1 hall.1
    have hpresent : isMissing w = false := by simpa using hfull.1
    have hcell : Kind.bool.cell w = .bool b := by simp [Kind.cell, spreadCell, hpresent, hb]
    rw [List.filterMap_cons_some hb, List.map_cons, List.map_cons, hcell, ih hfull.2 hall.2]

theorem cells_noInts (h : ws.noInts = .ok c) : c.cells = ws.map ws.otherKind.cell := by
  unfold noInts at h
  unfold otherKind
  split at h
  · next hall =>
    rw [if_pos hall]
    cases h
    exact cells_floats _ ws
  · next hdouble =>
    rw [if_neg hdouble]
    split at h
    · next hall =>
      rw [if_pos hall]
      split at h
      · next hfull =>
        cases h
        exact cells_bools hfull hall
      · cases h
        exact cells_cells _ ws
    · next hbool =>
      rw [if_neg hbool]
      exact cells_texts h

/-- Only the comparison depends on the bounds. -/
theorem exists_readBounded_eq (w : Word) : ∃ (ds rest : List Char) (n : Int), ∀ lo hi,
    readBounded lo hi w =
      if ds.isEmpty then .invalid
      else if n < lo || hi < n then (if rest.isEmpty then .overflow else .invalid)
      else if rest.all isAsciiSpace then .value n
      else .invalid :=
  let signed := splitSign (w.dropWhile isAsciiSpace)
  let cut := signed.2.span Char.isDigit
  ⟨cut.1, cut.2, if signed.1 then -(digitsValue cut.1 : Int) else digitsValue cut.1, fun _ _ => rfl⟩

/-- The integer that overflows is the one that wider bounds hold. -/
theorem exists_of_readBounded_eq_overflow {lo hi : Int} (h : readBounded lo hi w = .overflow) :
    ∃ n, (n < lo ∨ hi < n) ∧ ∀ lo' hi' m, readBounded lo' hi' w = .value m → m = n ∧ lo' ≤ n := by
  obtain ⟨ds, rest, n, hread⟩ := exists_readBounded_eq w
  rw [hread] at h
  have hdigits : ¬ ds.isEmpty = true := fun hempty => by simp [hempty] at h
  have hbeyond : (n < lo || hi < n : Bool) = true := by
    by_contra hwithin
    rw [if_neg hdigits, if_neg hwithin] at h
    split at h <;> cases h
  refine ⟨n, by simpa using hbeyond, fun lo' hi' m hm => ?_⟩
  rw [hread, if_neg hdigits] at hm
  split at hm
  · split at hm <;> cases hm
  · next hwithin =>
    split at hm
    · exact ⟨(Reading.value.inj hm).symm, Int.not_lt.1 fun hlt => hwithin (by simp [hlt])⟩
    · cases hm

/-- An integer that the signed ones do not hold is large if the unsigned ones hold it. -/
theorem large_of_overflow {n : Int} (hsigned : readSigned w = .overflow)
    (hunsigned : readUnsigned w = .value n) (hn : 0 ≤ n) : (Decimal.twoTo 63 : Int) ≤ n := by
  obtain ⟨m, hbeyond, hwider⟩ := exists_of_readBounded_eq_overflow hsigned
  unfold readUnsigned at hunsigned
  split at hunsigned
  · cases hunsigned
    exact absurd hn (by decide)
  · obtain ⟨rfl, hnonneg⟩ := hwider _ _ _ hunsigned
    have hleast : leastSigned ≤ 0 := by decide
    rcases hbeyond with hbelow | habove
    · exact absurd (Int.lt_of_le_of_lt hnonneg hbelow) (Int.not_lt.2 hleast)
    · exact Int.le_of_sub_one_lt habove

/-- Integers that are read without a gap. -/
theorem cells_ints (hfull : ws.isFull = true) (h : readAll read ws.present = .ok ns) :
    (Column.ints ns).cells = ws.map fun w => .int (read w).int := by
  rw [present_eq_self hfull] at h
  obtain ⟨rfl, -⟩ := readAll_eq_ok h
  exact List.map_map

theorem cells_largeInts (hoverflow : readAll readSigned ws.present = .error .overflow)
    (h : ws.largeInts = .ok c) : c.cells = ws.map ws.largeKind.cell := by
  unfold largeInts at h
  unfold largeKind
  cases hread : readAll readUnsigned ws.present with
  | error r =>
    rw [hread] at h
    cases r with
    | overflow => exact cells_bigInts h
    | value n => exact cells_noInts h
    | invalid => exact cells_noInts h
  | ok ns =>
    rw [hread] at h
    dsimp only at h ⊢
    split at h
    · next hplain =>
      rw [if_pos hplain]
      exact cells_plainTexts h
    · next hplain =>
      rw [if_neg hplain]
      split at h
      · next hnegative =>
        rw [if_pos hnegative]
        exact cells_bigInts h
      · next hnegative =>
        rw [if_neg hnegative]
        cases h
        refine cells_ints ?_ hread
        obtain ⟨w, hw, hsigned, -⟩ := readAll_eq_error hoverflow
        obtain ⟨rfl, hall⟩ := readAll_eq_ok hread
        have hmem := List.mem_map_of_mem (f := fun w => (readUnsigned w).int) hw
        have hn : 0 ≤ (readUnsigned w).int := by
          simp only [List.any_eq_true, decide_eq_true_eq, not_exists, not_and, Int.not_lt] at hnegative
          exact hnegative _ hmem
        have hlarge := large_of_overflow hsigned (hall w hw) hn
        by_contra hfull
        refine hplain ?_
        rw [Bool.and_eq_true, Bool.or_eq_true, List.any_eq_true]
        exact ⟨⟨_, hmem, decide_eq_true hlarge⟩, .inr (by simpa using hfull)⟩

/-- Each word becomes a cell by itself, of the kind of its column. -/
theorem cells_of_column (h : ws.column = .ok c) : c.cells = ws.map ws.kind.cell := by
  unfold column at h
  unfold kind
  by_cases hempty : ws.isEmpty = true
  · rw [if_pos hempty] at h
    cases h
    rw [List.isEmpty_iff.1 hempty]
    rfl
  · rw [if_neg hempty] at h
    cases hread : readAll readSigned ws.present with
    | ok ns =>
      rw [hread] at h
      obtain rfl := Except.ok.inj h
      by_cases hfull : ws.isFull = true
      · simp only [if_pos hfull]
        exact cells_ints hfull hread
      · simp only [if_neg hfull]
        exact cells_floats _ ws
    | error r =>
      rw [hread] at h
      cases r with
      | overflow => exact cells_largeInts hread h
      | value n => exact cells_noInts h
      | invalid => exact cells_noInts h

end Words

/-! ## Words that every reader takes alike -/

/-- A text in whatever column it stands, for it is not missing, no number and no boolean. -/
structure Textual (w : Word) : Prop where
  present : isMissing w = false
  no_double : readDouble? w = none
  no_bool : readBool? w = none

def Reading.isValue : Reading → Bool
  | value _ => true
  | _ => false

/-- Readers of doubles agree on this word, however many digits they take in and powers they allow: it is no
double, or a machine integer, or it has at most fifteen digits and no power. -/
def Settled (w : Word) : Prop :=
  (readDouble? w).isNone ∨ (readSigned w).isValue ∨ w.length ≤ 16 ∧ 'e' ∉ w ∧ 'E' ∉ w

instance : DecidablePred Settled := fun _ => inferInstanceAs (Decidable (_ ∨ _))

/-- Digits that nothing but blanks follows are a double. -/
theorem isSome_readPlain? {negative : Bool} {s ds rest : List Char}
    (hsign : splitSign (w.dropWhile isAsciiSpace) = (negative, s))
    (hspan : s.span Char.isDigit = (ds, rest)) (hdigits : ds ≠ []) (hrest : rest.all isAsciiSpace = true) :
    (readPlain? w).isSome = true := by
  unfold readPlain?
  simp only [hsign, hspan]
  cases rest with
  | nil => simp [readPower?, hdigits]
  | cons c rest =>
    have hc : isAsciiSpace c = true := List.all_eq_true.1 hrest c List.mem_cons_self
    have hne (d : Char) (hd : isAsciiSpace d = false) : c ≠ d := by
      rintro rfl
      rw [hc] at hd
      cases hd
    have hpower : readPower? (c :: rest) = some (0, c :: rest) := by
      simp [readPower?, hne 'e' (by decide), hne 'E' (by decide)]
    simp [hne '.' (by decide), hpower, hdigits, hrest]

/-- A word that is no double is no integer either. -/
theorem readSigned_eq_invalid (h : readDouble? w = none) : readSigned w = .invalid := by
  rcases hsign : splitSign (w.dropWhile isAsciiSpace) with ⟨negative, s⟩
  rcases hspan : s.span Char.isDigit with ⟨ds, rest⟩
  unfold readSigned readBounded
  simp only [hsign, hspan]
  by_cases hdigits : ds = []
  · simp [hdigits]
  · have hrest : ¬ rest.all isAsciiSpace = true := fun hrest => by
      have hsome := isSome_readPlain? hsign hspan hdigits hrest
      rw [(Option.or_eq_none_iff.1 h).1] at hsome
      cases hsome
    have hnonempty : rest ≠ [] := by
      rintro rfl
      exact hrest rfl
    simp [hdigits, hrest, hnonempty]

namespace Words

/-- A column of texts is read as one. -/
theorem column_of_textual (hws : ws ≠ []) (htextual : ∀ w ∈ ws, Textual w) :
    ws.column = ws.texts ∧ ws.kind = .text := by
  obtain ⟨w, ws', rfl⟩ := List.exists_cons_of_ne_nil hws
  have hw := htextual w List.mem_cons_self
  have hfull : isFull (w :: ws') = true :=
    List.all_eq_true.2 fun v hv => by simp [(htextual v hv).present]
  have hread : readAll readSigned (present (w :: ws')) = .error .invalid := by
    rw [present_eq_self hfull, readAll, readSigned_eq_invalid hw.no_double]
  have hdouble : ¬ (present (w :: ws')).all (fun w => (readDouble? w).isSome) = true := by
    rw [present_eq_self hfull, List.all_cons, hw.no_double]
    exact Bool.false_ne_true
  have hbool : ¬ (present (w :: ws')).all (fun w => (readBool? w).isSome) = true := by
    rw [present_eq_self hfull, List.all_cons, hw.no_bool]
    exact Bool.false_ne_true
  unfold column kind
  rw [hread]
  unfold noInts otherKind
  rw [if_neg hdouble, if_neg hbool, if_neg hdouble, if_neg hbool]
  exact ⟨rfl, rfl⟩

/-- The words of a column of texts can be decoded. -/
theorem exists_decodeWord_eq (h : ws.texts = .ok c) (hw : w ∈ ws) (hpresent : isMissing w = false) :
    ∃ s, decodeWord w = .ok s := by
  obtain ⟨cells, hcells, -⟩ := map_eq_ok.1 h
  have hmap := mapM_eq_ok.1 hcells
  have hmem := List.mem_map_of_mem (f := fun w =>
    if isMissing w then Except.ok Cell.missing else (decodeWord w).map Cell.text) hw
  rw [hmap] at hmem
  obtain ⟨cell, -, hcell⟩ := List.mem_map.1 hmem
  rw [hpresent] at hcell
  obtain ⟨s, hs, -⟩ := map_eq_ok.1 hcell.symm
  exact ⟨s, hs⟩

end Words

/-! ## Words that stay -/

namespace Kind

/-- The word is written as it stands. -/
def Keeps (k : Kind) (w : Word) : Prop := wordOf (cellText (k.cell w)) = w

instance (k : Kind) (w : Word) : Decidable (k.Keeps w) := inferInstanceAs (Decidable (_ = _))

/-- What stands for missing cells is taken for text in a column of no other kind, and stays. -/
theorem keeps_verbatim {s : String} (hw : ∀ c ∈ w, c.toNat < 256) (h : decodeWord w = .ok s) :
    verbatim.Keeps w := by
  show wordOf (textOf w).toList = w
  rw [Words.textOf_of_decodeWord h, wordOf_of_decodeWord hw h]

/-- In a column of texts only the words for a missing cell are lost. -/
theorem keeps_text_iff {s : String} (hw : ∀ c ∈ w, c.toNat < 256) (h : decodeWord w = .ok s) :
    text.Keeps w ↔ (isMissing w = true → w = []) := by
  show wordOf (cellText (if isMissing w then .missing else .text (textOf w))) = w ↔ _
  split
  · next hmissing => exact ⟨fun hempty _ => hempty.symm, fun hempty => (hempty hmissing).symm⟩
  · next hpresent => exact iff_of_true (keeps_verbatim hw h) fun hmissing => absurd hmissing hpresent

/-- A column of texts stays as it is. -/
theorem keeps_of_textual (hbytes : ∀ w ∈ ws, ∀ c ∈ w, c.toNat < 256) (htextual : ∀ w ∈ ws, Textual w)
    (h : ws.column = .ok c) : ∀ w ∈ ws, ws.kind.Keeps w := by
  intro w hw
  obtain ⟨hcolumn, hkind⟩ := Words.column_of_textual (List.ne_nil_of_mem hw) htextual
  have hpresent := (htextual w hw).present
  obtain ⟨s, hs⟩ := Words.exists_decodeWord_eq (hcolumn.symm.trans h) hw hpresent
  rw [hkind]
  refine (keeps_text_iff (hbytes w hw) hs).2 fun hmissing => ?_
  rw [hpresent] at hmissing
  cases hmissing

end Kind

end Yardstick.Csv
