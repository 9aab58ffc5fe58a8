import Mathlib.Data.List.Nodup
import Yardstick.Json.Printer
import Yardstick.Json.Reader

/-!
# Reading back what was written

Written texts, lists and objects are read back whatever follows them (`Reads`). So the text of such a
value parses to it (`parse_render`), provided that no object has a key twice: of several members with
one key only the last would be left.
-/

namespace Yardstick

/-- Entries with different keys are put as they come. -/
theorem Table.entries_ofList {α : Type} {l : List (String × α)} (h : (l.map (·.1)).Nodup) :
    (Table.ofList l).entries = l := by
  have hall : ∀ (l : List (String × α)) (t : Table α), ((t.entries ++ l).map (·.1)).Nodup →
      (l.foldl (fun acc e => acc.put e.1 e.2) t).entries = t.entries ++ l := by
    intro l
    induction l with
    | nil => intro t _; exact (List.append_nil _).symm
    | cons e l ih =>
      intro t ht
      have hkey : e.1 ∉ t.keys := by
        rw [List.map_append, List.map_cons] at ht
        exact fun he => (List.nodup_append.1 ht).2.2 _ he _ List.mem_cons_self rfl
      have hput := Table.entries_put_of_not_mem t e.1 e.2 hkey
      rw [List.foldl_cons, ih _ (by rw [hput, List.append_assoc]; exact ht), hput, List.append_assoc]
      rfl
  exact hall l .empty h

namespace Json

open Yardstick.Text

/-! ## Texts -/

/-- The hexadecimal digits of a control character. -/
theorem hexValues_hexDigits : ∀ n < 0x20,
    (hexDigits 4 n).map hexValue? = [some 0, some 0, some (n / 16), some (n % 16)] := by
  decide

theorem readUnit_hexDigits {n : Nat} (hn : n < 0x20) (c : Char) (s : List Char) :
    readUnit (hexDigits 4 n ++ c :: s) = .ok (n, c :: s) := by
  have hvalues := hexValues_hexDigits n hn
  obtain ⟨a, b, d, e, hdigits⟩ : ∃ a b d e, hexDigits 4 n = [a, b, d, e] :=
    List.length_eq_four.1 (by simpa using congrArg List.length hvalues)
  rw [hdigits] at hvalues ⊢
  simp only [List.map_cons, List.map_nil, List.cons.injEq, and_true] at hvalues
  obtain ⟨ha, hb, hd, he⟩ := hvalues
  show readUnit (a :: b :: d :: e :: c :: s) = _
  simp only [readUnit, ha, hb, hd, he]
  congr 2
  omega

theorem readNumbered_hexDigits {n : Nat} (hn : n < 0x20) (c : Char) (s : List Char) :
    readNumbered (hexDigits 4 n ++ c :: s) = .ok (Char.ofNat n, c :: s) := by
  have hhigh : isHighUnit n = false := by
    unfold isHighUnit
    simp only [Bool.and_eq_false_iff, decide_eq_false_iff_not]
    omega
  have hlow : isLowUnit n = false := by
    unfold isLowUnit
    simp only [Bool.and_eq_false_iff, decide_eq_false_iff_not]
    omega
  simp only [readNumbered, readUnit_hexDigits hn, hhigh]
  simp [unitChar, hhigh, hlow]

section

variable (start : List Char) (fuel : Nat)

theorem readChars_backslash {s t : List Char} {c : Char} (h : readEscape start s = .ok (c, t)) :
    readChars start (fuel + 1) ('\\' :: s) =
      (readChars start fuel t).map fun (cs, rest) => (c :: cs, rest) := by
  rw [readChars, if_neg (by decide), if_pos rfl, h]

/-- An escape of one letter. -/
theorem readChars_simple {c d : Char} (h : simpleEscape? d = some c) (hu : d ≠ 'u') (s : List Char) :
    readChars start (fuel + 1) ('\\' :: d :: s) =
      (readChars start fuel s).map fun (cs, rest) => (c :: cs, rest) := by
  refine readChars_backslash start fuel ?_
  rw [readEscape, if_neg hu, h]

/-- Reading an escaped character takes one unit of fuel. -/
theorem readChars_escapeChar (c d : Char) (s : List Char) :
    readChars start (fuel + 1) (escapeChar c ++ d :: s) =
      (readChars start fuel (d :: s)).map fun (cs, rest) => (c :: cs, rest) := by
  have hofNat (n : Nat) (h : c.toNat = n) : c = Char.ofNat n := h ▸ (Char.ofNat_toNat c).symm
  unfold escapeChar
  split_ifs with hquote hfeed hreturn htab hback hform hcontrol
  · rcases (by simpa using hquote : c = '"' ∨ c = '\\') with rfl | rfl <;>
      exact readChars_simple start fuel rfl (by decide) _
  · subst hfeed
    exact readChars_simple start fuel rfl (by decide) _
  · subst hreturn
    exact readChars_simple start fuel rfl (by decide) _
  · subst htab
    exact readChars_simple start fuel rfl (by decide) _
  · obtain rfl := hofNat 8 hback
    exact readChars_simple start fuel rfl (by decide) _
  · obtain rfl := hofNat 12 hform
    exact readChars_simple start fuel rfl (by decide) _
  · refine readChars_backslash start fuel ?_
    show readEscape start ('u' :: (hexDigits 4 c.toNat ++ d :: s)) = _
    rw [readEscape, if_pos rfl, readNumbered_hexDigits hcontrol, Char.ofNat_toNat]
  · simp only [Bool.or_eq_true, decide_eq_true_eq, not_or] at hquote
    show readChars start (fuel + 1) (c :: d :: s) = _
    rw [readChars, if_neg hquote.1, if_neg hquote.2, if_neg hcontrol]

theorem readChars_flatMap (s rest : List Char) (hfuel : s.length < fuel) :
    readChars start fuel (s.flatMap escapeChar ++ '"' :: rest) = .ok (s, rest) := by
  induction s generalizing fuel with
  | nil =>
    obtain ⟨fuel, rfl⟩ := Nat.exists_eq_add_one.2 hfuel
    rw [List.flatMap_nil, List.nil_append, readChars, if_pos rfl]
  | cons c s ih =>
    obtain ⟨fuel, rfl⟩ := Nat.exists_eq_add_one.2 (Nat.zero_lt_of_lt hfuel)
    have hrest := ih fuel (by simpa using hfuel)
    obtain ⟨d, t, ht⟩ : ∃ d t, s.flatMap escapeChar ++ '"' :: rest = d :: t :=
      List.exists_cons_of_ne_nil (by simp)
    rw [List.flatMap_cons, List.append_assoc, ht, readChars_escapeChar, ← ht, hrest]
    rfl

end

theorem length_le_flatMap_escapeChar (s : List Char) : s.length ≤ (s.flatMap escapeChar).length := by
  induction s with
  | nil => exact Nat.le_refl 0
  | cons c s ih =>
    have hc : 0 < (escapeChar c).length := by
      unfold escapeChar
      split_ifs <;> simp
    rw [List.flatMap_cons, List.length_append, List.length_cons]
    omega

/-- A quoted text is read after its opening quote. -/
theorem readString_quoteChars (s : String) (rest : List Char) (fuel : Nat)
    (hfuel : (quoteChars s.toList).length ≤ fuel + 1) :
    ∃ t, quoteChars s.toList ++ rest = '"' :: t ∧ readString fuel t = .ok (s, rest) := by
  refine ⟨s.toList.flatMap escapeChar ++ '"' :: rest, by simp [quoteChars], ?_⟩
  have hlen := length_le_flatMap_escapeChar s.toList
  simp only [quoteChars, List.length_cons, List.length_append, List.length_nil] at hfuel
  rw [readString, readChars_flatMap _ _ _ _ (by omega)]
  show Except.ok (String.ofList s.toList, rest) = _
  rw [String.ofList_toList]

/-! ## Values -/

/-- The characters that null, texts, lists and objects start with. -/
def openings : List Char := ['n', '"', '[', '\x7b']

/-- The text of the value is read back, whatever follows it. -/
structure Reads (v : Json) : Prop where
  opens : ∃ c ∈ openings, ∃ s, print v = c :: s
  reads : ∀ fuel rest, (print v).length ≤ fuel → readValue fuel (print v ++ rest) = .ok (v, rest)

theorem skipSpace_of_opening : ∀ c ∈ openings, ∀ s, skipSpace (c :: s) = c :: s := by
  intro c hc s
  have hspace : openings.all (!isSpace ·) = true := by decide
  have hc := List.all_eq_true.1 hspace c hc
  rw [Bool.not_eq_true'] at hc
  rw [skipSpace, List.dropWhile_cons, hc]
  rfl

/-- A blank is skipped, and nothing after it that is not blank. -/
theorem skipSpace_blank {s : List Char} (hs : skipSpace s = s) : skipSpace (' ' :: s) = s := hs

theorem skipSpace_colon (s : List Char) : skipSpace (':' :: s) = ':' :: s := rfl

variable {v : Json} {vs : List Json} {ms : List (String × Json)}

theorem Reads.skipSpace_eq (h : Reads v) (rest : List Char) :
    skipSpace (print v ++ rest) = print v ++ rest := by
  obtain ⟨c, hc, s, hs⟩ := h.opens
  rw [hs, List.cons_append]
  exact skipSpace_of_opening c hc _

theorem printItems_cons (v : Json) (hvs : vs ≠ []) :
    printItems (v :: vs) = print v ++ ',' :: ' ' :: printItems vs := by
  cases vs with
  | nil => exact absurd rfl hvs
  | cons w vs => rw [printItems]; exact List.cons_ne_nil _ _

theorem printMembers_cons (key : String) (v : Json) (hms : ms ≠ []) :
    printMembers ((key, v) :: ms) =
      quoteChars key.toList ++ ':' :: ' ' :: print v ++ ',' :: ' ' :: printMembers ms := by
  cases ms with
  | nil => exact absurd rfl hms
  | cons m ms => rw [printMembers]; exact List.cons_ne_nil _ _

/-- The text of a list after its bracket starts as that of its first item. -/
theorem printItems_eq_append (v : Json) (vs : List Json) :
    ∃ t, printItems (v :: vs) = print v ++ t := by
  cases vs with
  | nil => exact ⟨[], by rw [printItems, List.append_nil]⟩
  | cons w vs => exact ⟨_, printItems_cons v (List.cons_ne_nil w vs)⟩

theorem skipSpace_printItems (h : Reads v) (rest : List Char) :
    skipSpace (printItems (v :: vs) ++ rest) = printItems (v :: vs) ++ rest := by
  obtain ⟨t, ht⟩ := printItems_eq_append v vs
  rw [ht, List.append_assoc]
  exact h.skipSpace_eq _

theorem readItems_printItems (hvs : vs ≠ []) (h : ∀ v ∈ vs, Reads v) (fuel : Nat) (rest : List Char)
    (hfuel : (printItems vs).length < fuel) :
    readItems fuel (printItems vs ++ ']' :: rest) = .ok (vs, rest) := by
  induction vs generalizing fuel with
  | nil => exact absurd rfl hvs
  | cons v vs ih =>
    have hv : Reads v := h v List.mem_cons_self
    obtain ⟨fuel, rfl⟩ := Nat.exists_eq_add_one.2 (Nat.zero_lt_of_lt hfuel)
    cases vs with
    | nil =>
      rw [printItems] at hfuel ⊢
      rw [readItems, hv.reads fuel _ (by omega)]
      rfl
    | cons w vs =>
      have hw : Reads w := h w (List.mem_cons_of_mem _ List.mem_cons_self)
      rw [printItems_cons v (List.cons_ne_nil w vs)] at hfuel ⊢
      simp only [List.length_append, List.length_cons] at hfuel
      have hrest := ih (List.cons_ne_nil w vs) (fun u hu => h u (List.mem_cons_of_mem _ hu)) fuel (by omega)
      rw [List.append_assoc, readItems, hv.reads fuel _ (by omega)]
      show (readItems fuel (skipSpace (' ' :: (printItems (w :: vs) ++ ']' :: rest)))).map _ = _
      rw [skipSpace_blank (skipSpace_printItems hw _), hrest]
      rfl

/-- The text of an object after its brace starts with the quote of its first key. -/
theorem printMembers_eq_cons (hms : ms ≠ []) : ∃ t, printMembers ms = '"' :: t := by
  obtain ⟨⟨key, v⟩, ms, rfl⟩ := List.exists_cons_of_ne_nil hms
  cases ms with
  | nil => exact ⟨_, rfl⟩
  | cons m ms => exact ⟨_, rfl⟩

theorem skipSpace_printMembers (hms : ms ≠ []) (rest : List Char) :
    skipSpace (printMembers ms ++ rest) = printMembers ms ++ rest := by
  obtain ⟨t, ht⟩ := printMembers_eq_cons hms
  rw [ht]
  exact skipSpace_of_opening '"' (by decide) _

/-- The two parts of a member are read one after the other. -/
theorem readString_member (hv : Reads v) (key : String) (fuel : Nat) (rest : List Char)
    (hfuel : (quoteChars key.toList ++ ':' :: ' ' :: print v).length ≤ fuel) :
    ∃ t, quoteChars key.toList ++ ':' :: ' ' :: print v ++ rest = '"' :: t ∧
      readString (fuel + 1) t = .ok (key, ':' :: ' ' :: (print v ++ rest)) ∧
      readValue fuel (skipSpace (' ' :: (print v ++ rest))) = .ok (v, rest) := by
  simp only [List.length_append, List.length_cons] at hfuel
  obtain ⟨t, ht, hkey⟩ := readString_quoteChars key (':' :: ' ' :: (print v ++ rest))
    (fuel + 1) (by omega)
  refine ⟨t, ?_, hkey, ?_⟩
  · rw [List.append_assoc]
    exact ht
  · rw [skipSpace_blank (hv.skipSpace_eq rest)]
    exact hv.reads fuel rest (by omega)

theorem readMembers_printMembers (hms : ms ≠ []) (h : ∀ e ∈ ms, Reads e.2) (fuel : Nat)
    (rest : List Char) (hfuel : (printMembers ms).length < fuel) :
    readMembers fuel (printMembers ms ++ '\x7d' :: rest) = .ok (ms, rest) := by
  induction ms generalizing fuel with
  | nil => exact absurd rfl hms
  | cons e ms ih =>
    obtain ⟨key, v⟩ := e
    have hv : Reads v := h (key, v) List.mem_cons_self
    obtain ⟨fuel, rfl⟩ := Nat.exists_eq_add_one.2 (Nat.zero_lt_of_lt hfuel)
    cases ms with
    | nil =>
      rw [printMembers] at hfuel ⊢
      obtain ⟨t, ht, hkey, hvalue⟩ := readString_member hv key fuel ('\x7d' :: rest) (by omega)
      rw [ht, readMembers]
      simp only [hkey, skipSpace_colon, hvalue]
      rfl
    | cons e ms =>
      rw [printMembers_cons key v (List.cons_ne_nil e ms)] at hfuel ⊢
      rw [List.length_append] at hfuel
      have hrest := ih (List.cons_ne_nil e ms) (fun u hu => h u (List.mem_cons_of_mem _ hu)) fuel
        (by simp only [List.length_cons] at hfuel; omega)
      obtain ⟨t, ht, hkey, hvalue⟩ := readString_member hv key fuel
        (',' :: ' ' :: (printMembers (e :: ms) ++ '\x7d' :: rest)) (by omega)
      rw [List.append_assoc, List.cons_append, List.cons_append, ht, readMembers]
      simp only [hkey, skipSpace_colon, hvalue]
      show (readMembers fuel (skipSpace (' ' :: (printMembers (e :: ms) ++ '\x7d' :: rest)))).map _ = _
      rw [skipSpace_blank (skipSpace_printMembers (List.cons_ne_nil e ms) _), hrest]
      rfl

/-- A value is read with any fuel that its text leaves. -/
theorem Reads.of_succ (hopens : ∃ c ∈ openings, ∃ s, print v = c :: s)
    (h : ∀ fuel rest, (print v).length ≤ fuel + 1 →
      readValue (fuel + 1) (print v ++ rest) = .ok (v, rest)) : Reads v := by
  refine ⟨hopens, fun fuel rest hfuel => ?_⟩
  cases fuel with
  | zero =>
    obtain ⟨c, -, s, hs⟩ := hopens
    rw [hs] at hfuel
    exact absurd hfuel (Nat.not_succ_le_zero _)
  | succ fuel => exact h fuel rest hfuel

theorem reads_null : Reads .null := .of_succ ⟨'n', by decide, _, rfl⟩ fun _ _ _ => rfl

theorem reads_str (s : String) : Reads (.str s) := by
  refine .of_succ ⟨'"', by decide, _, rfl⟩ fun fuel rest hfuel => ?_
  rw [print] at hfuel ⊢
  obtain ⟨t, ht, hread⟩ := readString_quoteChars s rest (fuel + 1) (by omega)
  rw [ht, readValue]
  simp only [if_true, hread]
  rfl

theorem readValue_bracket {s : List Char} (fuel : Nat) (hspace : skipSpace s = s)
    (hs : ∀ t, s ≠ ']' :: t) :
    readValue (fuel + 1) ('[' :: s) = (readItems fuel s).map fun (vs, t) => (.arr vs, t) := by
  rw [readValue, if_neg (by decide), if_pos rfl, hspace]
  split
  · exact absurd rfl (hs _)
  · rfl

theorem readValue_brace {s : List Char} (fuel : Nat) (hspace : skipSpace s = s)
    (hs : ∀ t, s ≠ '\x7d' :: t) :
    readValue (fuel + 1) ('\x7b' :: s) =
      (readMembers fuel s).map fun (ms, t) => (.ofMembers ms, t) := by
  rw [readValue, if_neg (by decide), if_neg (by decide), if_pos rfl, hspace]
  split
  · exact absurd rfl (hs _)
  · rfl

theorem reads_arr (h : ∀ v ∈ vs, Reads v) : Reads (.arr vs) := by
  refine .of_succ ⟨'[', by decide, _, rfl⟩ fun fuel rest hfuel => ?_
  rw [print] at hfuel ⊢
  cases vs with
  | nil => rfl
  | cons v vs =>
    have hv : Reads v := h v List.mem_cons_self
    have hopens : ∀ t, printItems (v :: vs) ++ ']' :: rest ≠ ']' :: t := by
      obtain ⟨c, hc, s, hs⟩ := hv.opens
      obtain ⟨t, ht⟩ := printItems_eq_append v vs
      intro t' heq
      rw [ht, hs, List.append_assoc, List.cons_append] at heq
      rw [(List.cons.inj heq).1] at hc
      revert hc
      decide
    simp only [List.length_cons, List.length_append, List.length_nil] at hfuel
    show readValue (fuel + 1) ('[' :: (printItems (v :: vs) ++ [']'] ++ rest)) = _
    rw [List.append_assoc, List.singleton_append,
      readValue_bracket fuel (skipSpace_printItems hv _) hopens,
      readItems_printItems (List.cons_ne_nil v vs) h fuel rest (by omega)]
    rfl

theorem reads_obj (hkeys : (ms.map (·.1)).Nodup) (h : ∀ e ∈ ms, Reads e.2) : Reads (.obj ms) := by
  refine .of_succ ⟨'\x7b', by decide, _, rfl⟩ fun fuel rest hfuel => ?_
  rw [print] at hfuel ⊢
  by_cases hms : ms = []
  · subst hms
    rfl
  · have hopens : ∀ t, printMembers ms ++ '\x7d' :: rest ≠ '\x7d' :: t := by
      obtain ⟨t, ht⟩ := printMembers_eq_cons hms
      intro t' heq
      rw [ht] at heq
      exact absurd (List.cons.inj heq).1 (by decide)
    simp only [List.length_cons, List.length_append, List.length_nil] at hfuel
    show readValue (fuel + 1) ('\x7b' :: (printMembers ms ++ ['\x7d'] ++ rest)) = _
    rw [List.append_assoc, List.singleton_append,
      readValue_brace fuel (skipSpace_printMembers hms _) hopens,
      readMembers_printMembers hms h fuel rest (by omega)]
    show Except.ok (Json.ofMembers ms, rest) = _
    rw [Json.ofMembers, Table.entries_ofList hkeys]

/-! ## Documents -/

/-- The text of a value is read back as a document. -/
theorem Reads.parse_render (h : Reads v) : parse (render v) = .ok v := by
  obtain ⟨c, hc, s, hs⟩ := h.opens
  have hmark : (print v).head? ≠ some (Char.ofNat 0xFEFF) := by
    rw [hs]
    intro heq
    rw [Option.some.inj heq] at hc
    revert hc
    decide
  have hspace : skipSpace (print v) = print v := by
    rw [hs]
    exact skipSpace_of_opening c hc s
  have hread := h.reads (2 * (print v).length + 2) [] (by omega)
  rw [List.append_nil] at hread
  unfold parse render readDocument
  rw [String.toList_ofList, if_neg hmark, hspace, hread]
  rfl

end Json

end Yardstick
