import Mathlib.Logic.Relation
import Yardstick.Proofs.Json.Fuel

/-!
# Integers of too many digits

Reading stops at an integer of too many digits where it comes to one, and for that only
(`parse_eq_hugeInteger_iff`). What reading comes to is the value that the text starts with, and the
items and members of a value that it comes to, as long as those before them could be read (`Comes`).
-/

namespace Yardstick.Json

open Yardstick.Text

variable {n : Nat} {s t u : List Char}

/-! ## Numbers -/

/-- The text starts with more digits than an integer may have, `n` of them, and these are all of a
number. -/
def StartsOverlong (n : Nat) (s : List Char) : Prop :=
  ∃ digits rest, s = digits ++ rest ∧ digits.length = n ∧ digitLimit < n ∧
    (∀ c ∈ digits, c.isDigit) ∧ digits.head? ≠ some '0' ∧ (∀ c ∈ rest.head?, ¬ c.isDigit) ∧
    readFraction rest = none ∧ readExponent rest = none

/-- The text starts with an integer of `n` digits, which are too many. -/
def Overlong (n : Nat) (s : List Char) : Prop :=
  StartsOverlong n s ∨ ∃ t, s = '-' :: t ∧ StartsOverlong n t

theorem digitRun_append {digits rest : List Char} (hdigits : ∀ c ∈ digits, c.isDigit)
    (hrest : ∀ c ∈ rest.head?, ¬ c.isDigit) : digitRun (digits ++ rest) = (digits, rest) := by
  rw [digitRun_eq, List.takeWhile_append_of_pos hdigits, List.dropWhile_append_of_pos hdigits]
  cases rest with
  | nil => rw [List.takeWhile_nil, List.dropWhile_nil, List.append_nil]
  | cons c rest =>
    have hc : ¬ c.isDigit := hrest c rfl
    rw [List.takeWhile_cons_of_neg hc, List.dropWhile_cons_of_neg hc, List.append_nil]

/-- A whole part of more than one digit. -/
theorem readWhole_eq_some {digits rest : List Char} (h : 1 < digits.length) :
    readWhole s = some (digits, rest) ↔ s = digits ++ rest ∧ (∀ c ∈ digits, c.isDigit) ∧
      digits.head? ≠ some '0' ∧ ∀ c ∈ rest.head?, ¬ c.isDigit := by
  constructor
  · intro hs
    unfold readWhole at hs
    split at hs
    · cases hs
      exact absurd h (by decide)
    · next hzero =>
      split at hs
      · cases hs
      · rw [digitRun_eq] at hs
        obtain ⟨rfl, rfl⟩ := Prod.mk.inj (Option.some.inj hs)
        refine ⟨List.takeWhile_append_dropWhile.symm, List.all_eq_true.1 List.all_takeWhile,
          fun hhead => ?_, fun c hc => ?_⟩
        · obtain ⟨digits, hdigits⟩ := List.head?_eq_some_iff.1 hhead
          have happend := List.takeWhile_append_dropWhile (p := Char.isDigit) (l := s)
          rw [hdigits] at happend
          exact hzero _ happend.symm
        · have hnot := List.head?_dropWhile_not Char.isDigit s
          rw [hc] at hnot
          exact Bool.eq_false_iff.1 hnot
  · rintro ⟨rfl, hdigits, hfirst, hrest⟩
    unfold readWhole
    split
    · next hzero =>
      cases digits with
      | nil => exact absurd h (by decide)
      | cons c digits =>
        obtain ⟨rfl, -⟩ := List.cons.inj hzero
        exact absurd rfl hfirst
    · rw [digitRun_append hdigits hrest, if_neg]
      exact mt List.isEmpty_iff.1 (List.ne_nil_of_length_pos (Nat.lt_trans Nat.zero_lt_one h))

theorem readNumber_eq_hugeInteger (start : List Char) (negative : Bool) :
    readNumber start negative s = .error (.hugeInteger n) ↔ StartsOverlong n s := by
  have hlong : 1 < digitLimit := by decide
  constructor
  · fun_cases readNumber start negative s with
    | case2 digits rest hwhole hexponent hfraction hlimit =>
      intro h
      obtain rfl : digits.length = n := Stop.hugeInteger.inj (Except.error.inj h)
      rw [hfraction] at hexponent
      obtain ⟨rfl, hdigits, hfirst, hrest⟩ := (readWhole_eq_some (Nat.lt_trans hlong hlimit)).1 hwhole
      exact ⟨digits, rest, rfl, rfl, hlimit, hdigits, hfirst, hrest, hfraction, hexponent⟩
    | _ =>
      intro h
      cases h
  · rintro ⟨digits, rest, rfl, rfl, hlimit, hdigits, hfirst, hrest, hfraction, hexponent⟩
    have hwhole := (readWhole_eq_some (Nat.lt_trans hlong hlimit)).2 ⟨rfl, hdigits, hfirst, hrest⟩
    simp only [readNumber, hwhole, hfraction, Option.elim_none, hexponent, if_pos hlimit]

/-- No word has a digit in it. -/
theorem find?_words_eq_none (h : ∃ c ∈ s.take 2, c.isDigit) :
    words.find? (fun (w, _) => w.toList.isPrefixOf s) = none := by
  have hletters : ∀ e ∈ words, 2 ≤ e.1.toList.length ∧ e.1.toList.any Char.isDigit = false := by
    decide
  refine List.find?_eq_none.2 fun e he hstarts => ?_
  obtain ⟨hlength, hnot⟩ := hletters e he
  obtain ⟨c, hc, hdigit⟩ := h
  obtain ⟨rest, rfl⟩ := List.isPrefixOf_iff_prefix.1 hstarts
  rw [List.take_append_of_le_length hlength] at hc
  exact List.any_eq_false.1 hnot c (List.mem_of_mem_take hc) hdigit

theorem StartsOverlong.exists_isDigit (h : StartsOverlong n s) :
    ∃ c rest, s = c :: rest ∧ c.isDigit := by
  obtain ⟨digits, rest, rfl, hlength, hlimit, hdigits, -⟩ := h
  cases digits with
  | nil => exact absurd hlength (by rw [List.length_nil]; omega)
  | cons c digits => exact ⟨c, digits ++ rest, rfl, hdigits c List.mem_cons_self⟩

theorem readScalar_eq_hugeInteger : readScalar s = .error (.hugeInteger n) ↔ Overlong n s := by
  constructor
  · fun_cases readScalar s with
    | case1 =>
      intro h
      cases h
    | case2 rest => exact fun h => .inr ⟨rest, rfl, (readNumber_eq_hugeInteger _ _).1 h⟩
    | case3 => exact fun h => .inl ((readNumber_eq_hugeInteger _ _).1 h)
  · rintro (h | ⟨t, rfl, h⟩)
    · obtain ⟨c, rest, rfl, hc⟩ := h.exists_isDigit
      unfold readScalar
      rw [find?_words_eq_none ⟨c, by simp, hc⟩]
      dsimp only
      split
      · next heq =>
        obtain ⟨rfl, -⟩ := List.cons.inj heq
        exact absurd hc (by decide)
      · exact (readNumber_eq_hugeInteger _ _).2 h
    · obtain ⟨c, rest, rfl, hc⟩ := h.exists_isDigit
      unfold readScalar
      rw [find?_words_eq_none ⟨c, by simp, hc⟩]
      exact (readNumber_eq_hugeInteger _ _).2 h

/-! ## Texts -/

theorem readUnit_ne_hugeInteger : readUnit s ≠ .error (.hugeInteger n) := by
  fun_cases readUnit s with
  | _ =>
    intro h
    cases h

theorem readNumbered_ne_hugeInteger : readNumbered s ≠ .error (.hugeInteger n) := by
  fun_cases readNumbered s with
  | case1 e hunit =>
    intro h
    cases h
    exact readUnit_ne_hugeInteger hunit
  | case3 high rest hhigh hlong e hlow =>
    intro h
    cases h
    exact readUnit_ne_hugeInteger hlow
  | _ =>
    intro h
    cases h

theorem readEscape_ne_hugeInteger (start : List Char) :
    readEscape start s ≠ .error (.hugeInteger n) := by
  fun_cases readEscape start s with
  | case2 => exact readNumbered_ne_hugeInteger
  | _ =>
    intro h
    cases h

theorem readChars_ne_hugeInteger (start : List Char) (fuel : Nat) :
    readChars start fuel s ≠ .error (.hugeInteger n) := by
  fun_induction readChars start fuel s with
  | case4 fuel rest e hescape =>
    intro h
    cases h
    exact readEscape_ne_hugeInteger start hescape
  | case5 _ _ _ _ _ _ ih => exact mt map_eq_error.1 ih
  | case7 _ _ _ _ _ _ ih => exact mt map_eq_error.1 ih
  | _ =>
    intro h
    cases h

theorem stringAt_ne_hugeInteger : stringAt s ≠ .error (.hugeInteger n) :=
  mt map_eq_error.1 (readChars_ne_hugeInteger _ _)

/-! ## Items and members -/

section

variable {after rest after' rest' : List Char} {key : String} {v : Json} {e : Stop}

theorem length_lt_of_colon (hkey : stringAt s = .ok (key, after))
    (hcolon : skipSpace after = ':' :: rest) : (skipSpace rest).length < s.length :=
  Nat.lt_trans (length_skipSpace_lt hcolon) (shortens_stringAt _ _ _ hkey)

theorem length_lt_of_comma (hv : valueAt s = .ok (v, after))
    (hcomma : skipSpace after = ',' :: rest) : (skipSpace rest).length < s.length :=
  Nat.lt_trans (length_skipSpace_lt hcomma) (shortens_valueAt _ _ _ hv)

theorem itemsAt_of_error (h : valueAt s = .error e) : itemsAt s = .error e := by
  rw [itemsAt, readItems, readValue_eq_valueAt (Nat.lt_succ_self _), h]

theorem itemsAt_of_comma (hv : valueAt s = .ok (v, after)) (hcomma : skipSpace after = ',' :: rest) :
    itemsAt s = (itemsAt (skipSpace rest)).map fun (vs, t) => (v :: vs, t) := by
  have hlt := length_lt_of_comma hv hcomma
  have hitems : readItems (2 * s.length + 1) (skipSpace rest) = itemsAt (skipSpace rest) :=
    readItems_eq_itemsAt (by omega)
  rw [itemsAt, readItems, readValue_eq_valueAt (Nat.lt_succ_self _), hv, ← hitems]
  dsimp only
  rw [hcomma]
  rfl

theorem membersAt_of_error (hkey : stringAt s = .ok (key, after))
    (hcolon : skipSpace after = ':' :: rest) (h : valueAt (skipSpace rest) = .error e) :
    membersAt ('"' :: s) = .error e := by
  have hlt := length_lt_of_colon hkey hcolon
  have hvalue : readValue (2 * ('"' :: s).length + 1) (skipSpace rest) = .error e :=
    (readValue_eq_valueAt (by rw [List.length_cons]; omega)).trans h
  rw [membersAt, readMembers, readString_eq_stringAt (by rw [List.length_cons]; omega), hkey]
  dsimp only
  -- the colon does not rewrite to a match that computes, so the match is split
  split
  · next heq =>
    cases hcolon.symm.trans heq
    rw [hvalue]
  · next hno => exact absurd hcolon (hno rest)

theorem membersAt_of_comma (hkey : stringAt s = .ok (key, after))
    (hcolon : skipSpace after = ':' :: rest) (hv : valueAt (skipSpace rest) = .ok (v, after'))
    (hcomma : skipSpace after' = ',' :: rest') :
    membersAt ('"' :: s) = (membersAt (skipSpace rest')).map fun (ms, t) => ((key, v) :: ms, t) := by
  have hlt := length_lt_of_colon hkey hcolon
  have hlt' := length_lt_of_comma hv hcomma
  have hvalue : readValue (2 * ('"' :: s).length + 1) (skipSpace rest) = .ok (v, after') :=
    (readValue_eq_valueAt (by rw [List.length_cons]; omega)).trans hv
  have hmembers : readMembers (2 * ('"' :: s).length + 1) (skipSpace rest') =
      membersAt (skipSpace rest') := readMembers_eq_membersAt (by rw [List.length_cons]; omega)
  rw [membersAt, readMembers, readString_eq_stringAt (by rw [List.length_cons]; omega), hkey,
    ← hmembers]
  dsimp only
  split
  · next heq =>
    cases hcolon.symm.trans heq
    rw [hvalue]
    dsimp only
    rw [hcomma]
    rfl
  · next hno => exact absurd hcolon (hno rest)

/-- The integer stands in the first item, or in the items after it. -/
theorem itemsAt_cases (h : itemsAt s = .error (.hugeInteger n)) :
    valueAt s = .error (.hugeInteger n) ∨
      ∃ v after rest, valueAt s = .ok (v, after) ∧ skipSpace after = ',' :: rest ∧
        itemsAt (skipSpace rest) = .error (.hugeInteger n) := by
  rw [itemsAt, readItems, readValue_eq_valueAt (Nat.lt_succ_self _)] at h
  split at h
  · next hv =>
    cases h
    exact .inl hv
  · next v after hv =>
    split at h
    · cases h
    · next rest hcomma =>
      have hlt := length_lt_of_comma hv hcomma
      rw [readItems_eq_itemsAt (by omega)] at h
      exact .inr ⟨v, after, rest, hv, hcomma, map_eq_error.1 h⟩
    · cases h

/-- The integer stands in the value of the first member, or in the members after it; a key has none. -/
theorem membersAt_cases (h : membersAt s = .error (.hugeInteger n)) :
    ∃ t key after rest, s = '"' :: t ∧ stringAt t = .ok (key, after) ∧
      skipSpace after = ':' :: rest ∧ (valueAt (skipSpace rest) = .error (.hugeInteger n) ∨
        ∃ v after' rest', valueAt (skipSpace rest) = .ok (v, after') ∧
          skipSpace after' = ',' :: rest' ∧
          membersAt (skipSpace rest') = .error (.hugeInteger n)) := by
  unfold membersAt readMembers at h
  split at h
  · next t =>
    rw [readString_eq_stringAt (by rw [List.length_cons]; omega)] at h
    split at h
    · next hkey =>
      cases h
      exact absurd hkey stringAt_ne_hugeInteger
    · next key after hkey =>
      split at h
      · next rest hcolon =>
        have hlt := length_lt_of_colon hkey hcolon
        rw [readValue_eq_valueAt (by rw [List.length_cons]; omega)] at h
        refine ⟨t, key, after, rest, rfl, hkey, hcolon, ?_⟩
        split at h
        · next hv =>
          cases h
          exact .inl hv
        · next v after' hv =>
          split at h
          · cases h
          · next rest' hcomma =>
            have hlt' := length_lt_of_comma hv hcomma
            rw [readMembers_eq_membersAt (by rw [List.length_cons]; omega)] at h
            exact .inr ⟨v, after', rest', hv, hcomma, map_eq_error.1 h⟩
          · cases h
      · cases h
  · cases h

end

/-- Reading the items at `s` comes to the item at `t`: those before it could be read. -/
inductive ItemOf : List Char → List Char → Prop
  | first (s : List Char) : ItemOf s s
  | next {s t after rest : List Char} {v : Json} (hv : valueAt s = .ok (v, after))
      (hcomma : skipSpace after = ',' :: rest) (h : ItemOf (skipSpace rest) t) : ItemOf s t

/-- Reading the members at `s` comes to the value of a member at `t`: those before it could be read. -/
inductive MemberOf : List Char → List Char → Prop
  | first {s after rest : List Char} {key : String} (hkey : stringAt s = .ok (key, after))
      (hcolon : skipSpace after = ':' :: rest) : MemberOf ('"' :: s) (skipSpace rest)
  | next {s t after rest after' rest' : List Char} {key : String} {v : Json}
      (hkey : stringAt s = .ok (key, after)) (hcolon : skipSpace after = ':' :: rest)
      (hv : valueAt (skipSpace rest) = .ok (v, after'))
      (hcomma : skipSpace after' = ',' :: rest') (h : MemberOf (skipSpace rest') t) :
      MemberOf ('"' :: s) t

theorem ItemOf.length_le (h : ItemOf s t) : t.length ≤ s.length := by
  induction h with
  | first => exact Nat.le_refl _
  | next hv hcomma _ ih => exact Nat.le_trans ih (Nat.le_of_lt (length_lt_of_comma hv hcomma))

theorem MemberOf.length_le (h : MemberOf s t) : t.length ≤ s.length := by
  induction h with
  | first hkey hcolon => exact Nat.le_succ_of_le (Nat.le_of_lt (length_lt_of_colon hkey hcolon))
  | next hkey hcolon hv hcomma _ ih =>
    have hlt := length_lt_of_colon hkey hcolon
    have hlt' := length_lt_of_comma hv hcomma
    rw [List.length_cons]
    omega

theorem ItemOf.itemsAt_eq_error {e : Stop} (h : ItemOf s t) (ht : valueAt t = .error e) :
    itemsAt s = .error e := by
  induction h with
  | first => exact itemsAt_of_error ht
  | next hv hcomma _ ih => exact (itemsAt_of_comma hv hcomma).trans (map_eq_error.2 (ih ht))

theorem MemberOf.membersAt_eq_error {e : Stop} (h : MemberOf s t) (ht : valueAt t = .error e) :
    membersAt s = .error e := by
  induction h with
  | first hkey hcolon => exact membersAt_of_error hkey hcolon ht
  | next hkey hcolon hv hcomma _ ih =>
    exact (membersAt_of_comma hkey hcolon hv hcomma).trans (map_eq_error.2 (ih ht))

/-- The induction is on the length of the text: the items after a comma are a shorter one. -/
theorem exists_itemOf (h : itemsAt s = .error (.hugeInteger n)) :
    ∃ t, ItemOf s t ∧ valueAt t = .error (.hugeInteger n) := by
  induction hlength : s.length using Nat.strongRecOn generalizing s with
  | ind k ih =>
    rcases itemsAt_cases h with hv | ⟨v, after, rest, hv, hcomma, h⟩
    · exact ⟨s, .first s, hv⟩
    · obtain ⟨t, ht, hhuge⟩ := ih _ (hlength ▸ length_lt_of_comma hv hcomma) h rfl
      exact ⟨t, .next hv hcomma ht, hhuge⟩

theorem exists_memberOf (h : membersAt s = .error (.hugeInteger n)) :
    ∃ t, MemberOf s t ∧ valueAt t = .error (.hugeInteger n) := by
  induction hlength : s.length using Nat.strongRecOn generalizing s with
  | ind k ih =>
    obtain ⟨s, key, after, rest, rfl, hkey, hcolon, hv | ⟨v, after', rest', hv, hcomma, h⟩⟩ :=
      membersAt_cases h
    · exact ⟨skipSpace rest, .first hkey hcolon, hv⟩
    · have hlt := length_lt_of_colon hkey hcolon
      have hlt' := length_lt_of_comma hv hcomma
      rw [List.length_cons] at hlength
      obtain ⟨t, ht, hhuge⟩ := ih _ (by omega) h rfl
      exact ⟨t, .next hkey hcolon hv hcomma ht, hhuge⟩

/-! ## Values -/

/-- Reading the value at `s` comes to an item of it, or to the value of a member, at `t`. -/
inductive Inside : List Char → List Char → Prop
  | item {s t : List Char} (hitems : (skipSpace s).head? ≠ some ']') (h : ItemOf (skipSpace s) t) :
      Inside ('[' :: s) t
  | member {s t : List Char} (h : MemberOf (skipSpace s) t) : Inside ('\x7b' :: s) t

/-- Reading the value at `s` comes to the value at `t`, which is that one or somewhere inside of it. -/
def Comes (s t : List Char) : Prop := Relation.ReflTransGen Inside s t

theorem Inside.length_lt (h : Inside s t) : t.length < s.length := by
  cases h with
  | item _ h =>
    exact Nat.lt_succ_of_le (Nat.le_trans h.length_le (length_skipSpace_le _))
  | member h => exact Nat.lt_succ_of_le (Nat.le_trans h.length_le (length_skipSpace_le _))

theorem valueAt_list (hitems : (skipSpace s).head? ≠ some ']') :
    valueAt ('[' :: s) = (itemsAt (skipSpace s)).map fun (vs, t) => (.arr vs, t) := by
  have hle := length_skipSpace_le s
  rw [valueAt, readValue, if_neg (by decide), if_pos rfl]
  split
  · next heq => exact absurd (congrArg List.head? heq) hitems
  · rw [readItems_eq_itemsAt (by rw [List.length_cons]; omega)]

theorem valueAt_object (hmembers : (skipSpace s).head? ≠ some '\x7d') :
    valueAt ('\x7b' :: s) = (membersAt (skipSpace s)).map fun (ms, t) => (.ofMembers ms, t) := by
  have hle := length_skipSpace_le s
  rw [valueAt, readValue, if_neg (by decide), if_neg (by decide), if_pos rfl]
  split
  · next heq => exact absurd (congrArg List.head? heq) hmembers
  · rw [readMembers_eq_membersAt (by rw [List.length_cons]; omega)]

theorem MemberOf.head?_eq (h : MemberOf s t) : s.head? = some '"' := by
  cases h <;> rfl

theorem Inside.valueAt_eq_error {e : Stop} (h : Inside s t) (ht : valueAt t = .error e) :
    valueAt s = .error e := by
  cases h with
  | item hitems h => exact (valueAt_list hitems).trans (map_eq_error.2 (h.itemsAt_eq_error ht))
  | member h =>
    have hmembers := valueAt_object (by rw [h.head?_eq]; decide)
    exact hmembers.trans (map_eq_error.2 (h.membersAt_eq_error ht))

theorem Overlong.valueAt_eq (h : Overlong n s) : valueAt s = .error (.hugeInteger n) := by
  have hhead : ∃ c rest, s = c :: rest ∧ c ≠ '"' ∧ c ≠ '[' ∧ c ≠ '\x7b' := by
    rcases h with h | ⟨t, rfl, -⟩
    · obtain ⟨c, rest, rfl, hc⟩ := h.exists_isDigit
      refine ⟨c, rest, rfl, ?_, ?_, ?_⟩ <;> (rintro rfl; exact absurd hc (by decide))
    · exact ⟨'-', t, rfl, by decide, by decide, by decide⟩
  obtain ⟨c, rest, rfl, hquote, hbracket, hbrace⟩ := hhead
  rw [valueAt, readValue, if_neg hquote, if_neg hbracket, if_neg hbrace]
  exact readScalar_eq_hugeInteger.2 h

/-- The value is such an integer, or there is one inside of it. -/
theorem valueAt_cases (h : valueAt s = .error (.hugeInteger n)) :
    Overlong n s ∨ ∃ t, Inside s t ∧ valueAt t = .error (.hugeInteger n) := by
  cases s with
  | nil => cases h
  | cons c s =>
    have hle := length_skipSpace_le s
    rw [valueAt, readValue] at h
    split_ifs at h with hquote hbracket hbrace
    · rw [readString_eq_stringAt (by rw [List.length_cons]; omega)] at h
      exact absurd (map_eq_error.1 h) stringAt_ne_hugeInteger
    · subst hbracket
      split at h
      · cases h
      · next hno =>
        rw [readItems_eq_itemsAt (by rw [List.length_cons]; omega)] at h
        obtain ⟨t, ht, hhuge⟩ := exists_itemOf (map_eq_error.1 h)
        refine .inr ⟨t, .item (fun hhead => ?_) ht, hhuge⟩
        obtain ⟨rest, hrest⟩ := List.head?_eq_some_iff.1 hhead
        exact hno rest hrest
    · subst hbrace
      split at h
      · cases h
      · rw [readMembers_eq_membersAt (by rw [List.length_cons]; omega)] at h
        obtain ⟨t, ht, hhuge⟩ := exists_memberOf (map_eq_error.1 h)
        exact .inr ⟨t, .member ht, hhuge⟩
    · exact .inl (readScalar_eq_hugeInteger.1 h)

/-- Forth by induction on the length of the text, back along the way from the outermost value. -/
theorem valueAt_eq_hugeInteger_iff :
    valueAt s = .error (.hugeInteger n) ↔ ∃ t, Comes s t ∧ Overlong n t := by
  constructor
  · intro h
    induction hlength : s.length using Nat.strongRecOn generalizing s with
    | ind k ih =>
      rcases valueAt_cases h with h | ⟨t, ht, h⟩
      · exact ⟨s, .refl, h⟩
      · obtain ⟨u, hu, hhuge⟩ := ih _ (hlength ▸ ht.length_lt) h rfl
        exact ⟨u, .head ht hu, hhuge⟩
  · rintro ⟨t, hcomes, h⟩
    induction hcomes using Relation.ReflTransGen.head_induction_on with
    | refl => exact h.valueAt_eq
    | head hinside _ ih => exact hinside.valueAt_eq_error ih

/-! ## Documents -/

/-- A byte order mark starts no value. -/
theorem valueAt_byteOrderMark_ne (s : List Char) :
    valueAt (Char.ofNat 0xFEFF :: s) ≠ .error (.hugeInteger n) := by
  intro h
  rcases valueAt_cases h with h | ⟨t, ht, -⟩
  · rcases h with h | ⟨t, heq, -⟩
    · obtain ⟨c, rest, heq, hc⟩ := h.exists_isDigit
      cases heq
      exact absurd hc (by decide)
    · exact absurd (List.cons.inj heq).1 (by decide)
  · cases ht

theorem readDocument_eq_hugeInteger_iff :
    readDocument s = .error (.hugeInteger n) ↔ ∃ t, Comes (skipSpace s) t ∧ Overlong n t := by
  have hle := length_skipSpace_le s
  rw [← valueAt_eq_hugeInteger_iff, readDocument, readValue_eq_valueAt (by omega)]
  split_ifs with hmark
  · obtain ⟨rest, rfl⟩ := List.head?_eq_some_iff.1 hmark
    exact iff_of_false nofun (valueAt_byteOrderMark_ne rest)
  · cases hv : valueAt (skipSpace s) with
    | error e =>
      constructor <;> intro h <;> cases h <;> rfl
    | ok p =>
      refine iff_of_false (fun h => ?_) nofun
      dsimp only at h
      split_ifs at h
      cases h

/-- Reading a text fails for an integer of too many digits exactly where it comes to one. -/
theorem parse_eq_hugeInteger_iff {text : String} :
    parse text = .error (.hugeInteger n) ↔
      ∃ t, Comes (skipSpace text.toList) t ∧ Overlong n t := by
  rw [← readDocument_eq_hugeInteger_iff, parse]
  cases readDocument text.toList with
  | ok v => exact iff_of_false nofun nofun
  | error e =>
    cases e with
    | malformed => exact iff_of_false nofun nofun
    | hugeInteger digits => constructor <;> intro h <;> cases h <;> rfl

end Yardstick.Json
