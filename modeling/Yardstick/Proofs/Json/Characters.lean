import Yardstick.Proofs.Json.Readback

/-!
# The characters of written values

Whatever is true of the printable characters of ASCII is true of all characters of a written value if
it is true of those of its texts that are no controls: the controls are escaped, and all the rest of a
written value is ASCII.
-/

namespace Yardstick.Json

open Yardstick.Text

/-- The printable characters of ASCII. -/
def isPlain (c : Char) : Bool := 0x20 ≤ c.toNat && c.toNat < 0x7F

theorem isPlain_hexDigits : ∀ n < 0x20, (hexDigits 4 n).all isPlain = true := by decide

section

variable {P : Char → Prop} (hP : ∀ c, isPlain c = true → P c)
include hP

theorem forall_mem_escapeChar (c : Char) : (∀ d ∈ escapeChar c, P d) ↔ (0x20 ≤ c.toNat → P c) := by
  have hletter : ∀ d ∈ ['"', '\\', 'n', 'r', 't', 'b', 'f', 'u'], P d := by
    have hplain : ['"', '\\', 'n', 'r', 't', 'b', 'f', 'u'].all isPlain = true := by decide
    exact fun d hd => hP d (List.all_eq_true.1 hplain d hd)
  have hescape (d : Char) (hd : d ∈ ['"', '\\', 'n', 'r', 't', 'b', 'f', 'u']) :
      ∀ e ∈ ['\\', d], P e := by
    intro e he
    rcases List.mem_pair.1 he with rfl | rfl
    · exact hletter _ (by decide)
    · exact hletter _ hd
  have hcontrol (n : Nat) (hn : n < 0x20) (hc : c.toNat = n) : 0x20 ≤ c.toNat → P c := by omega
  unfold escapeChar
  split_ifs with hquote hfeed hreturn htab hback hform hlow
  · have hc : c ∈ ['"', '\\', 'n', 'r', 't', 'b', 'f', 'u'] := by
      rcases (by simpa using hquote : c = '"' ∨ c = '\\') with rfl | rfl <;> decide
    exact iff_of_true (hescape c hc) fun _ => hletter c hc
  · exact iff_of_true (hescape 'n' (by decide)) (hcontrol 10 (by decide) (by rw [hfeed]; rfl))
  · exact iff_of_true (hescape 'r' (by decide)) (hcontrol 13 (by decide) (by rw [hreturn]; rfl))
  · exact iff_of_true (hescape 't' (by decide)) (hcontrol 9 (by decide) (by rw [htab]; rfl))
  · exact iff_of_true (hescape 'b' (by decide)) (hcontrol 8 (by decide) hback)
  · exact iff_of_true (hescape 'f' (by decide)) (hcontrol 12 (by decide) hform)
  · refine iff_of_true ?_ (hcontrol c.toNat hlow rfl)
    intro d hd
    rcases List.mem_cons.1 hd with rfl | hd
    · exact hletter _ (by decide)
    · rcases List.mem_cons.1 hd with rfl | hd
      · exact hletter _ (by decide)
      · exact hP d (List.all_eq_true.1 (isPlain_hexDigits _ hlow) d hd)
  · rw [List.forall_mem_singleton]
    exact ⟨fun h _ => h, fun h => h (by omega)⟩

theorem forall_mem_quoteChars (s : List Char) :
    (∀ d ∈ quoteChars s, P d) ↔ ∀ c ∈ s, 0x20 ≤ c.toNat → P c := by
  have hquote : P '"' := hP '"' (by decide)
  rw [quoteChars, List.cons_append, List.forall_mem_cons, List.forall_mem_append,
    List.forall_mem_singleton, List.forall_mem_flatMap]
  simp only [hquote, true_and, and_true, forall_mem_escapeChar hP]

theorem forall_mem_print_str (s : String) :
    (∀ c ∈ print (.str s), P c) ↔ ∀ c ∈ s.toList, 0x20 ≤ c.toNat → P c := by
  rw [print]
  exact forall_mem_quoteChars hP s.toList

theorem forall_mem_printItems (vs : List Json) :
    (∀ c ∈ printItems vs, P c) ↔ ∀ v ∈ vs, ∀ c ∈ print v, P c := by
  have hcomma : P ',' ∧ P ' ' := ⟨hP ',' (by decide), hP ' ' (by decide)⟩
  induction vs with
  | nil => simp [printItems]
  | cons v vs ih =>
    cases vs with
    | nil => simp [printItems]
    | cons w vs =>
      rw [printItems_cons v (List.cons_ne_nil w vs)]
      simp only [List.forall_mem_append, List.forall_mem_cons, hcomma, true_and] at ih ⊢
      exact and_congr_right fun _ => ih

theorem forall_mem_printMembers (ms : List (String × Json)) :
    (∀ c ∈ printMembers ms, P c) ↔
      ∀ e ∈ ms, (∀ c ∈ e.1.toList, 0x20 ≤ c.toNat → P c) ∧ ∀ c ∈ print e.2, P c := by
  have hmark : P ',' ∧ P ':' ∧ P ' ' := ⟨hP ',' (by decide), hP ':' (by decide), hP ' ' (by decide)⟩
  induction ms with
  | nil => simp [printMembers]
  | cons e ms ih =>
    obtain ⟨key, v⟩ := e
    cases ms with
    | nil =>
      rw [printMembers, List.forall_mem_append, List.forall_mem_cons, List.forall_mem_cons,
        forall_mem_quoteChars hP, List.forall_mem_singleton]
      simp only [hmark, true_and]
    | cons m ms =>
      rw [printMembers_cons key v (List.cons_ne_nil m ms)]
      simp only [List.forall_mem_append, List.forall_mem_cons, forall_mem_quoteChars hP, hmark,
        true_and, and_assoc] at ih ⊢
      exact and_congr_right fun _ => and_congr_right fun _ => ih

theorem forall_mem_print_arr (vs : List Json) :
    (∀ c ∈ print (.arr vs), P c) ↔ ∀ v ∈ vs, ∀ c ∈ print v, P c := by
  have hbracket : P '[' ∧ P ']' := ⟨hP '[' (by decide), hP ']' (by decide)⟩
  rw [print, List.cons_append, List.forall_mem_cons, List.forall_mem_append,
    List.forall_mem_singleton, forall_mem_printItems hP]
  simp only [hbracket, true_and, and_true]

/-- The keys of most objects are ASCII. -/
theorem forall_mem_print_obj (ms : List (String × Json))
    (hkeys : ∀ e ∈ ms, e.1.toList.all isPlain = true) :
    (∀ c ∈ print (.obj ms), P c) ↔ ∀ e ∈ ms, ∀ c ∈ print e.2, P c := by
  have hbrace : P '\x7b' ∧ P '\x7d' := ⟨hP '\x7b' (by decide), hP '\x7d' (by decide)⟩
  rw [print, List.cons_append, List.forall_mem_cons, List.forall_mem_append,
    List.forall_mem_singleton, forall_mem_printMembers hP]
  simp only [hbrace, true_and, and_true]
  constructor
  · exact fun h e he => (h e he).2
  · exact fun h e he => ⟨fun c hc _ => hP c (List.all_eq_true.1 (hkeys e he) c hc), h e he⟩

end

end Yardstick.Json
