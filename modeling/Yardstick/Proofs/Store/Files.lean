import Yardstick.Proofs.Store.Write
import Yardstick.Session.Documents

/-!
# Files that stay as they were

If a path leads anywhere in a store, then to a place that the path alone tells (`Store.eq_place_of_locate`).
Writing to it changes the file at this place and no other, and making directories changes no file at all:
`ChangesOnly` lists the places where files may have changed.
-/

namespace Yardstick

/-- The place that one step leads to, through a directory. -/
def Place.enter (q : Place) (name : String) : Place :=
  if name = ".." then
    match q.names with
    | _ :: names => { q with names }
    | [] => if q.absolute then q else { q with up := q.up + 1 }
  else { q with names := name :: q.names }

/-- The place that a path leads to, through directories. -/
def Path.place (p : Path) : Place := p.parts.foldl Place.enter ⟨p.isAbsolute, 0, []⟩

namespace Store

/-- The bytes of the file at a place, if a file is there. -/
def file? (s : Store) (q : Place) : Option ByteArray :=
  match s.node? q with
  | some (.file bytes) => some bytes
  | _ => none

/-- The place of a file of values, which may be in the home directory. -/
def valuesPlace (s : Store) (p : Path) : Place := (p.fromHome s.homePath).place

/-- Files have changed at most at these places. -/
structure ChangesOnly (places : List Place) (before after : Store) : Prop where
  home : after.home = before.home
  kept : ∀ q ∉ places, after.file? q = before.file? q

variable {s s' s'' : Store} {q q' : Place} {p : Path} {name : String} {bytes : ByteArray}
  {places places' : List Place}

/-! ## Places of paths -/

theorem eq_enter_of_step (h : s.step q name = .ok q') : q' = q.enter name := by
  unfold step at h
  unfold Place.enter
  split at h
  · cases h
  · cases h
  · split at h
    · cases h
    · by_cases hup : name = ".."
      · rw [if_pos hup] at h ⊢
        cases hnames : q.names with
        | nil => rw [hnames] at h; exact (Except.ok.inj h).symm
        | cons first names => rw [hnames] at h; exact (Except.ok.inj h).symm
      · rw [if_neg hup] at h ⊢
        exact (Except.ok.inj h).symm

theorem eq_foldl_enter_of_steps {parts : List String} (h : parts.foldlM s.step q = .ok q') :
    q' = parts.foldl Place.enter q := by
  induction parts generalizing q with
  | nil => exact (Except.ok.inj h).symm
  | cons part parts ih =>
    rw [List.foldlM_cons] at h
    obtain ⟨q₁, hstep, h⟩ := bind_eq_ok.1 h
    rw [List.foldl_cons, ← eq_enter_of_step hstep]
    exact ih h

theorem eq_place_of_locate (h : s.locate p = .ok q) : q = p.place := by
  unfold locate at h
  split at h
  · cases h
  · split at h
    · cases h
    · exact eq_foldl_enter_of_steps (mapError_eq_ok.1 h)

/-! ## Changes -/

theorem ChangesOnly.refl (places : List Place) (s : Store) : ChangesOnly places s s :=
  ⟨rfl, fun _ _ => rfl⟩

theorem ChangesOnly.trans (h : ChangesOnly places s s') (h' : ChangesOnly places' s' s'') :
    ChangesOnly (places ++ places') s s'' := by
  refine ⟨h'.home.trans h.home, fun q hq => ?_⟩
  rw [List.mem_append, not_or] at hq
  rw [h'.kept q hq.2, h.kept q hq.1]

theorem ChangesOnly.mono (h : ChangesOnly places s s') (hsub : places ⊆ places') :
    ChangesOnly places' s s' :=
  ⟨h.home, fun q hq => h.kept q fun hmem => hq (hsub hmem)⟩

/-- A directory where nothing was is no file where one was. -/
theorem changesOnly_put_directory (h : s.node? q = none) : ChangesOnly [] s (s.put q .directory) := by
  refine ⟨rfl, fun q' _ => ?_⟩
  unfold file?
  by_cases heq : q' = q
  · subst heq
    rw [node?_put_self (by rw [h]; nofun), h]
  · rw [node?_put_of_ne heq]

theorem changesOnly_makeDirectory (h : s.makeDirectory p = .ok s') : ChangesOnly [] s s' := by
  unfold makeDirectory at h
  obtain ⟨q, -, h⟩ := bind_eq_ok.1 h
  split at h
  · cases h
  · next hnone =>
    cases h
    exact changesOnly_put_directory hnone

theorem changesOnly_orThere {made : Except AccessFault Store}
    (h : ∀ s', made = .ok s' → ChangesOnly [] s s') : ChangesOnly [] s (s.orThere p made).1 := by
  unfold orThere
  split
  · next s' => exact h s' rfl
  · split <;> exact .refl [] s
  · exact .refl [] s

theorem changesOnly_makeDirectories (s : Store) (p : Path) (depth : Nat) :
    ChangesOnly [] s (s.makeDirectories p depth).1 := by
  induction depth generalizing p with
  | zero => exact changesOnly_orThere fun _ => changesOnly_makeDirectory
  | succ depth ih =>
    unfold makeDirectories
    split
    · split
      · exact .refl [] s
      · have hparent := ih p.parent
        split
        · next s₁ f hrun => rw [hrun] at hparent; exact hparent
        · next s₁ hrun =>
          rw [hrun] at hparent
          exact hparent.trans (changesOnly_orThere fun _ => changesOnly_makeDirectory)
    · exact changesOnly_orThere fun _ => changesOnly_makeDirectory

theorem changesOnly_prepare (s : Store) (p : Path) : ChangesOnly [] s (s.prepare p).1 :=
  changesOnly_makeDirectories s p.parent p.parts.length

theorem changesOnly_write (h : s.write p bytes = .ok s') : ChangesOnly [p.place] s s' := by
  obtain ⟨q, hq, hdir, rfl⟩ := write_eq_ok h
  obtain rfl := eq_place_of_locate hq
  refine ⟨rfl, fun q' hq' => ?_⟩
  rw [List.mem_singleton] at hq'
  unfold file?
  rw [node?_put_of_ne hq']

/-- What is written is there. -/
theorem file?_of_write (h : s.write p bytes = .ok s') : s'.file? p.place = some bytes := by
  obtain ⟨q, hq, hdir, rfl⟩ := write_eq_ok h
  obtain rfl := eq_place_of_locate hq
  unfold file?
  rw [node?_put_self hdir]

theorem changesOnly_writeValues (h : s.writeValues p bytes = .ok s') :
    ChangesOnly [s.valuesPlace p] s s' := by
  unfold writeValues at h
  dsimp only at h
  split at h
  · exact changesOnly_write h
  · cases h

end Store

end Yardstick
