import Yardstick.Proofs.Outcome
import Yardstick.Store.Basic

/-!
# Reading what was written

A write changes one place, which is no directory. So the way to that place is what it was, and the
bytes are read back by the path that they were written to (`Store.read_of_write`).
-/

namespace Yardstick.Store

variable {s s' : Store} {place q q' : Place} {n : Node} {p : Path} {name : String} {bytes : ByteArray}

theorem node?_put_of_ne (h : q ≠ place) : (s.put place n).node? q = s.node? q := by
  have hne : (q == place) = false := by simpa using h
  unfold node? put
  rw [List.lookup_cons, hne]

/-- A place that is no directory holds what was put there. -/
theorem node?_put_self (h : s.node? place ≠ some .directory) : (s.put place n).node? place = some n := by
  unfold node? at h ⊢
  split at h
  · exact absurd rfl h
  · next hfixed =>
    rw [show (s.put place n).home = s.home from rfl, if_neg hfixed]
    simp [put]

/-- The way through directories does not lead over the place. -/
theorem step_put (h : s.node? place ≠ some .directory) (hstep : s.step q name = .ok q') :
    (s.put place n).step q name = .ok q' := by
  have hq : q ≠ place := by
    rintro rfl
    unfold step at hstep
    split at hstep
    · cases hstep
    · cases hstep
    · next hdir => exact h hdir
  unfold step
  rw [node?_put_of_ne hq]
  exact hstep

theorem foldlM_step_put (h : s.node? place ≠ some .directory) {parts : List String}
    (hsteps : parts.foldlM s.step q = .ok q') : parts.foldlM (s.put place n).step q = .ok q' := by
  induction parts generalizing q with
  | nil => exact hsteps
  | cons part parts ih =>
    rw [List.foldlM_cons] at hsteps ⊢
    obtain ⟨q₁, hstep, hsteps⟩ := bind_eq_ok.1 hsteps
    exact bind_eq_ok.2 ⟨q₁, step_put h hstep, ih hsteps⟩

theorem locate_put (h : s.node? place ≠ some .directory) (hq : s.locate p = .ok q) :
    (s.put place n).locate p = .ok q := by
  unfold locate at hq ⊢
  split at hq
  · cases hq
  · next hzero =>
    split at hq
    · cases hq
    · next hlong =>
      rw [if_neg hzero, if_neg hlong]
      exact mapError_eq_ok.2 (foldlM_step_put h (mapError_eq_ok.1 hq))

theorem write_eq_ok (h : s.write p bytes = .ok s') :
    ∃ place, s.locate p = .ok place ∧ s.node? place ≠ some .directory ∧
      s' = s.put place (.file bytes) := by
  unfold write at h
  obtain ⟨place, hplace, h⟩ := bind_eq_ok.1 h
  split at h
  · cases h
  · next hdir =>
    cases h
    exact ⟨place, hplace, fun hd => hdir hd, rfl⟩

theorem read_of_write (h : s.write p bytes = .ok s') : s'.read p = .ok bytes := by
  obtain ⟨place, hplace, hdir, rfl⟩ := write_eq_ok h
  refine bind_eq_ok.2 ⟨place, locate_put hdir hplace, ?_⟩
  rw [node?_put_self hdir]
  rfl

end Yardstick.Store
