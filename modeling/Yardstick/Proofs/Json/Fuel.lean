import Mathlib.Data.List.TakeDrop
import Yardstick.Proofs.Outcome
import Yardstick.Json.Reader

/-!
# Fuel for reading

Whatever is read from a text leaves a shorter one (`Shortens`). So fuel for twice the length of the
text is enough, and more of it changes nothing (`readAlike`): `valueAt` is the value that a text starts
with, and `readValue_eq_valueAt` puts it for any reading with enough fuel.
-/

namespace Yardstick.Json

open Yardstick.Text

/-- What a reading leaves is shorter than the text that it was made from. -/
def Shortens {α : Type} (x : Reading α) (s : List Char) : Prop :=
  ∀ a rest, x = .ok (a, rest) → rest.length < s.length

variable {α β : Type} {x : Reading α} {s t : List Char}

theorem shortens_error (e : Stop) : Shortens (.error e : Reading α) s := nofun

theorem shortens_ok {a : α} (h : t.length < s.length) : Shortens (.ok (a, t)) s := by
  intro b rest heq
  cases heq
  exact h

theorem Shortens.map (h : Shortens x s) (f : α → β) : Shortens (x.map fun (a, t) => (f a, t)) s := by
  intro b rest heq
  obtain ⟨⟨a, rest'⟩, hx, heq⟩ := map_eq_ok.1 heq
  cases heq
  exact h a rest hx

theorem Shortens.mono (h : Shortens x t) (hle : t.length ≤ s.length) : Shortens x s :=
  fun a rest hx => Nat.lt_of_lt_of_le (h a rest hx) hle

theorem length_skipSpace_le (s : List Char) : (skipSpace s).length ≤ s.length :=
  (List.dropWhile_suffix isSpace).length_le

theorem length_lt_of_skipSpace {c : Char} (h : skipSpace s = c :: t) : t.length < s.length := by
  have hle := length_skipSpace_le s
  rw [h] at hle
  exact hle

/-- The blanks after the character are skipped as well. -/
theorem length_skipSpace_lt {c : Char} (h : skipSpace s = c :: t) :
    (skipSpace t).length < s.length :=
  Nat.lt_of_le_of_lt (length_skipSpace_le t) (length_lt_of_skipSpace h)

/-! ## Texts -/

theorem shortens_readUnit (s : List Char) : Shortens (readUnit s) s := by
  fun_cases readUnit s with
  | case1 a b c d e rest =>
    apply shortens_ok
    simp
  | case2 => exact shortens_error _
  | case3 => exact shortens_error _

theorem shortens_readNumbered (s : List Char) : Shortens (readNumbered s) s := by
  fun_cases readNumbered s with
  | case1 => exact shortens_error _
  | case2 high rest hhigh hshort hunit => exact shortens_ok (shortens_readUnit s _ _ hunit)
  | case3 => exact shortens_error _
  | case4 high rest hhigh hlong low rest' hlow _ hunit =>
    have hrest := shortens_readUnit s _ _ hunit
    have hrest' := shortens_readUnit rest _ _ hlow
    simp only [List.length_cons] at hrest
    exact shortens_ok (by omega)
  | case5 high rest hhigh hlong low rest' hlow _ hunit => exact shortens_ok (shortens_readUnit s _ _ hunit)
  | case6 high rest hunit => exact shortens_ok (shortens_readUnit s _ _ hunit)

theorem shortens_readEscape (start s : List Char) : Shortens (readEscape start s) s := by
  fun_cases readEscape start s with
  | case1 => exact shortens_error _
  | case2 rest => exact (shortens_readNumbered rest).mono (by simp)
  | case3 => exact shortens_ok (by simp)
  | case4 => exact shortens_error _

theorem shortens_readChars (start s : List Char) (fuel : Nat) :
    Shortens (readChars start fuel s) s := by
  fun_induction readChars start fuel s with
  | case1 => exact shortens_error _
  | case2 => exact shortens_error _
  | case3 => exact shortens_ok (by simp)
  | case4 => exact shortens_error _
  | case5 fuel rest d rest' hescape _ ih =>
    have hrest := shortens_readEscape start rest _ _ hescape
    exact (ih.map _).mono (by rw [List.length_cons]; omega)
  | case6 => exact shortens_error _
  | case7 fuel c rest _ _ _ ih => exact (ih.map _).mono (by simp)

theorem shortens_readString (fuel : Nat) (s : List Char) : Shortens (readString fuel s) s :=
  (shortens_readChars s s fuel).map _

/-! ## Numbers and words -/

theorem digitRun_eq (s : List Char) :
    digitRun s = (s.takeWhile Char.isDigit, s.dropWhile Char.isDigit) :=
  List.span_eq_takeWhile_dropWhile Char.isDigit s

theorem length_digitRun (s : List Char) :
    (digitRun s).1.length + (digitRun s).2.length = s.length := by
  rw [digitRun_eq, ← List.length_append, List.takeWhile_append_dropWhile]

theorem length_lt_of_readWhole {whole : List Char} (h : readWhole s = some (whole, t)) :
    t.length < s.length := by
  unfold readWhole at h
  split at h
  · cases h
    simp
  · split at h
    · cases h
    · next hsome =>
      have hlen := length_digitRun s
      have hpos := List.length_pos_iff.2 (mt List.isEmpty_iff.2 hsome)
      rw [Option.some.inj h] at hlen hpos
      dsimp only at hlen hpos
      omega

theorem length_le_of_readFraction {part : List Char} (h : readFraction s = some (part, t)) :
    t.length ≤ s.length := by
  unfold readFraction at h
  split at h
  · next rest =>
    split at h
    · cases h
    · have hlen := length_digitRun rest
      rw [Option.some.inj h] at hlen
      dsimp only at hlen
      rw [List.length_cons]
      omega
  · cases h

theorem length_le_of_readExponent {e : Int} (h : readExponent s = some (e, t)) :
    t.length ≤ s.length := by
  revert h
  fun_cases readExponent s with
  | case1 => exact nofun
  | case2 => exact nofun
  | case3 c rest _ negative digits hsign ds after hdigits hsome =>
    intro h
    cases h
    have hlen := length_digitRun digits
    rw [hdigits] at hlen
    dsimp only at hlen
    have hsigned : digits.length ≤ rest.length := by
      split at hsign <;> cases hsign <;> simp
    rw [List.length_cons]
    omega
  | case4 => exact nofun

theorem shortens_readNumber (start : List Char) (negative : Bool) (s : List Char) :
    Shortens (readNumber start negative s) s := by
  fun_cases readNumber start negative s with
  | case1 => exact shortens_error _
  | case2 => exact shortens_error _
  | case3 whole rest hwhole => exact shortens_ok (length_lt_of_readWhole hwhole)
  | case4 whole rest hwhole e rest' hexponent hfraction =>
    have hrest := length_lt_of_readWhole hwhole
    rw [hfraction] at hexponent
    exact shortens_ok (Nat.lt_of_le_of_lt (length_le_of_readExponent hexponent) hrest)
  | case5 whole rest hwhole part rest' hexponent hfraction =>
    have hrest := length_lt_of_readWhole hwhole
    exact shortens_ok (Nat.lt_of_le_of_lt (length_le_of_readFraction hfraction) hrest)
  | case6 whole rest hwhole part rest' e rest'' hexponent hfraction =>
    have hrest := length_lt_of_readWhole hwhole
    have hrest' := length_le_of_readFraction hfraction
    rw [hfraction] at hexponent
    have hrest'' := length_le_of_readExponent hexponent
    exact shortens_ok (Nat.lt_of_le_of_lt (Nat.le_trans hrest'' hrest') hrest)

theorem shortens_readScalar (s : List Char) : Shortens (readScalar s) s := by
  fun_cases readScalar s with
  | case1 _ w v hword =>
    have hpositive : ∀ e ∈ words, 0 < e.1.toList.length := by decide
    have hpos : 0 < w.toList.length := hpositive _ (List.mem_of_find?_eq_some hword)
    have hstarts : w.toList.isPrefixOf s = true := by simpa using List.find?_some hword
    have hle := (List.isPrefixOf_iff_prefix.1 hstarts).length_le
    exact shortens_ok (by rw [List.length_drop]; omega)
  | case2 rest => exact (shortens_readNumber _ true rest).mono (by simp)
  | case3 => exact shortens_readNumber s false s

/-! ## Values -/

/-- Whatever is read with this fuel leaves a shorter text. -/
structure ReadsShorten (fuel : Nat) : Prop where
  value (s : List Char) : Shortens (readValue fuel s) s
  items (s : List Char) : Shortens (readItems fuel s) s
  members (s : List Char) : Shortens (readMembers fuel s) s

theorem ReadsShorten.value_succ {fuel : Nat} (h : ReadsShorten fuel) (s : List Char) :
    Shortens (readValue (fuel + 1) s) s := by
  cases s with
  | nil => exact shortens_error _
  | cons c rest =>
    have hspace := length_skipSpace_le rest
    rw [readValue]
    split_ifs
    · exact ((shortens_readString (fuel + 1) rest).map _).mono (by simp)
    · split
      · next after hafter =>
        have hlt := length_lt_of_skipSpace hafter
        exact shortens_ok (by rw [List.length_cons]; omega)
      · exact ((h.items _).map _).mono (by rw [List.length_cons]; omega)
    · split
      · next after hafter =>
        have hlt := length_lt_of_skipSpace hafter
        exact shortens_ok (by rw [List.length_cons]; omega)
      · exact ((h.members _).map _).mono (by rw [List.length_cons]; omega)
    · exact shortens_readScalar _

theorem ReadsShorten.items_succ {fuel : Nat} (h : ReadsShorten fuel) (s : List Char) :
    Shortens (readItems (fuel + 1) s) s := by
  rw [readItems]
  split
  · exact shortens_error _
  · next v t hv =>
    have ht := h.value _ _ _ hv
    split
    · next after hafter =>
      have hlt := length_lt_of_skipSpace hafter
      exact shortens_ok (by omega)
    · next after hafter =>
      have hlt := length_skipSpace_lt hafter
      exact ((h.items _).map _).mono (by omega)
    · exact shortens_error _

theorem ReadsShorten.members_succ {fuel : Nat} (h : ReadsShorten fuel) (s : List Char) :
    Shortens (readMembers (fuel + 1) s) s := by
  unfold readMembers
  split
  · next rest =>
    split
    · exact shortens_error _
    · next key t hkey =>
      have ht := shortens_readString (fuel + 1) rest _ _ hkey
      split
      · next colon hcolon =>
        have hlt := length_skipSpace_lt hcolon
        split
        · exact shortens_error _
        · next v u hv =>
          have hu := h.value _ _ _ hv
          split
          · next after hafter =>
            have hlt' := length_lt_of_skipSpace hafter
            exact shortens_ok (by rw [List.length_cons]; omega)
          · next after hafter =>
            have hlt' := length_skipSpace_lt hafter
            exact ((h.members _).map _).mono (by rw [List.length_cons]; omega)
          · exact shortens_error _
      · exact shortens_error _
  · exact shortens_error _

theorem readsShorten (fuel : Nat) : ReadsShorten fuel := by
  induction fuel with
  | zero => exact ⟨fun s => shortens_error _, fun s => shortens_error _, fun s => shortens_error _⟩
  | succ fuel ih => exact ⟨ih.value_succ, ih.items_succ, ih.members_succ⟩

/-! ## Enough fuel -/

theorem readChars_fuel (start : List Char) {fuel fuel' : Nat} (h : s.length < fuel)
    (h' : s.length < fuel') : readChars start fuel s = readChars start fuel' s := by
  induction fuel generalizing fuel' s with
  | zero => exact absurd h (Nat.not_lt_zero _)
  | succ fuel ih =>
    obtain ⟨fuel', rfl⟩ := Nat.exists_eq_add_one.2 (Nat.zero_lt_of_lt h')
    cases s with
    | nil => rfl
    | cons c rest =>
      rw [List.length_cons] at h h'
      have hrest : readChars start fuel rest = readChars start fuel' rest := ih (by omega) (by omega)
      rw [readChars, readChars, hrest]
      cases hescape : readEscape start rest with
      | error e => rfl
      | ok p =>
        have hlt := shortens_readEscape start rest _ _ hescape
        have hafter : readChars start fuel p.2 = readChars start fuel' p.2 :=
          ih (by omega) (by omega)
        dsimp only
        rw [hafter]

theorem readString_fuel {fuel fuel' : Nat} (h : s.length < fuel) (h' : s.length < fuel') :
    readString fuel s = readString fuel' s := by
  unfold readString
  rw [readChars_fuel s h h']

/-- A text that both fuels are enough for is read alike with either. -/
structure ReadAlike (fuel fuel' : Nat) : Prop where
  value (s : List Char) (h : 2 * s.length < fuel) (h' : 2 * s.length < fuel') :
    readValue fuel s = readValue fuel' s
  items (s : List Char) (h : 2 * s.length + 1 < fuel) (h' : 2 * s.length + 1 < fuel') :
    readItems fuel s = readItems fuel' s
  members (s : List Char) (h : 2 * s.length + 1 < fuel) (h' : 2 * s.length + 1 < fuel') :
    readMembers fuel s = readMembers fuel' s

section

variable {fuel fuel' : Nat} (halike : ReadAlike fuel fuel')

include halike

theorem ReadAlike.value_succ (s : List Char) (h : 2 * s.length < fuel + 1)
    (h' : 2 * s.length < fuel' + 1) : readValue (fuel + 1) s = readValue (fuel' + 1) s := by
  cases s with
  | nil => rfl
  | cons c rest =>
    rw [List.length_cons] at h h'
    have hle := length_skipSpace_le rest
    have hstring : readString (fuel + 1) rest = readString (fuel' + 1) rest :=
      readString_fuel (by omega) (by omega)
    rw [readValue, readValue, hstring]
    generalize skipSpace rest = inner at hle
    have hlist : readItems fuel inner = readItems fuel' inner :=
      halike.items inner (by omega) (by omega)
    have hobject : readMembers fuel inner = readMembers fuel' inner :=
      halike.members inner (by omega) (by omega)
    split_ifs
    · rfl
    · split
      · rfl
      · rw [hlist]
    · split
      · rfl
      · rw [hobject]
    · rfl

theorem ReadAlike.items_succ (s : List Char) (h : 2 * s.length + 1 < fuel + 1)
    (h' : 2 * s.length + 1 < fuel' + 1) : readItems (fuel + 1) s = readItems (fuel' + 1) s := by
  rw [readItems, readItems, halike.value s (by omega) (by omega)]
  cases hv : readValue fuel' s with
  | error e => rfl
  | ok p =>
    have ht := (readsShorten fuel').value _ _ _ hv
    dsimp only
    split
    · rfl
    · next after hafter =>
      have hlt := length_skipSpace_lt hafter
      rw [halike.items (skipSpace after) (by omega) (by omega)]
    · rfl

theorem ReadAlike.members_succ (s : List Char) (h : 2 * s.length + 1 < fuel + 1)
    (h' : 2 * s.length + 1 < fuel' + 1) : readMembers (fuel + 1) s = readMembers (fuel' + 1) s := by
  unfold readMembers
  split
  · next rest =>
    rw [List.length_cons] at h h'
    have hstring : readString (fuel + 1) rest = readString (fuel' + 1) rest :=
      readString_fuel (by omega) (by omega)
    rw [hstring]
    cases hkey : readString (fuel' + 1) rest with
    | error e => rfl
    | ok p =>
      have ht := shortens_readString (fuel' + 1) rest _ _ hkey
      dsimp only
      split
      · next colon hcolon =>
        have hlt := length_skipSpace_lt hcolon
        rw [halike.value (skipSpace colon) (by omega) (by omega)]
        cases hv : readValue fuel' (skipSpace colon) with
        | error e => rfl
        | ok q =>
          have hu := (readsShorten fuel').value _ _ _ hv
          dsimp only
          split
          · rfl
          · next after hafter =>
            have hlt' := length_skipSpace_lt hafter
            rw [halike.members (skipSpace after) (by omega) (by omega)]
          · rfl
      · rfl
  · rfl

end

theorem readAlike (fuel fuel' : Nat) : ReadAlike fuel fuel' := by
  induction fuel generalizing fuel' with
  | zero => exact ⟨fun s h => by omega, fun s h => by omega, fun s h => by omega⟩
  | succ fuel ih =>
    cases fuel' with
    | zero => exact ⟨fun s _ h => by omega, fun s _ h => by omega, fun s _ h => by omega⟩
    | succ fuel' => exact ⟨(ih fuel').value_succ, (ih fuel').items_succ, (ih fuel').members_succ⟩

/-! ## Reading without fuel -/

/-- The string after an opening quote. -/
def stringAt (s : List Char) : Reading String := readString (s.length + 1) s

/-- The value that a text starts with. -/
def valueAt (s : List Char) : Reading Json := readValue (2 * s.length + 1) s

/-- The items that a text starts with, up to the bracket after them. -/
def itemsAt (s : List Char) : Reading (List Json) := readItems (2 * s.length + 2) s

/-- The members that a text starts with, up to the brace after them. -/
def membersAt (s : List Char) : Reading (List (String × Json)) := readMembers (2 * s.length + 2) s

theorem shortens_stringAt (s : List Char) : Shortens (stringAt s) s := shortens_readString _ s

theorem shortens_valueAt (s : List Char) : Shortens (valueAt s) s := (readsShorten _).value s

theorem readString_eq_stringAt {fuel : Nat} (h : s.length < fuel) :
    readString fuel s = stringAt s := readString_fuel h (Nat.lt_succ_self _)

theorem readValue_eq_valueAt {fuel : Nat} (h : 2 * s.length < fuel) :
    readValue fuel s = valueAt s := (readAlike _ _).value s h (Nat.lt_succ_self _)

theorem readItems_eq_itemsAt {fuel : Nat} (h : 2 * s.length + 1 < fuel) :
    readItems fuel s = itemsAt s := (readAlike _ _).items s h (Nat.lt_succ_self _)

theorem readMembers_eq_membersAt {fuel : Nat} (h : 2 * s.length + 1 < fuel) :
    readMembers fuel s = membersAt s := (readAlike _ _).members s h (Nat.lt_succ_self _)

end Yardstick.Json
