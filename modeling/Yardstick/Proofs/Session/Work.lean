import Yardstick.Proofs.Outcome
import Yardstick.Session.Documents

/-!
# Work that ended well

Work in a session that ends well did so at every step (`Work.bind_eq_ok`), and what it wrote was not
refused. Work that only reads (`Work.Reads`) results in what the store alone says, and leaves it as it is.
Work that only changes the store (`Work.Silent`) does not depend on the journal.
-/

namespace Yardstick.Work

open Text

variable {α β : Type} {store : Store} {session session' : Session} {p q : Path} {text : String}

theorem run_bind_of_ok {x : Work α} {f : α → Work β} {a : α} {between : Session}
    (h : StateT.run (ExceptT.run x) session = (.ok a, between)) :
    StateT.run (ExceptT.run (x >>= f)) session = StateT.run (ExceptT.run (f a)) between := by
  show StateT.run (ExceptT.run x >>= ExceptT.bindCont f) session = _
  rw [StateT.run_bind, h]
  rfl

theorem run_bind_of_error {x : Work α} {f : α → Work β} {e : Failure} {between : Session}
    (h : StateT.run (ExceptT.run x) session = (.error e, between)) :
    StateT.run (ExceptT.run (x >>= f)) session = (.error e, between) := by
  show StateT.run (ExceptT.run x >>= ExceptT.bindCont f) session = _
  rw [StateT.run_bind, h]
  rfl

/-- Work in two parts ends well only if both do. -/
theorem bind_eq_ok {x : Work α} {f : α → Work β} {b : β}
    (h : StateT.run (ExceptT.run (x >>= f)) session = (.ok b, session')) :
    ∃ a between, StateT.run (ExceptT.run x) session = (.ok a, between) ∧
      StateT.run (ExceptT.run (f a)) between = (.ok b, session') := by
  cases hrun : StateT.run (ExceptT.run x) session with
  | mk r between =>
    cases r with
    | error e => cases (run_bind_of_error hrun).symm.trans h
    | ok a => exact ⟨a, between, rfl, (run_bind_of_ok hrun).symm.trans h⟩

theorem exists_outcome_eq {x : Work α} {a : α} (h : (x.outcome store).1 = .ok a) :
    ∃ session, x.outcome store = (.ok a, session) := ⟨_, Prod.ext h rfl⟩

theorem run_changeStore (f : Store → Store × Option Failure) (session : Session) :
    StateT.run (ExceptT.run (changeStore f)) session =
      ((f session.store).2.elim (.ok ()) .error, { session with store := (f session.store).1 }) := by
  have hget : StateT.run (ExceptT.run (get : Work Session)) session = (.ok session, session) := rfl
  unfold changeStore
  rw [run_bind_of_ok hget]
  cases f session.store with
  | mk store failure => cases failure <;> rfl

/-- A change of the store that is not refused. -/
theorem eq_of_changeStore {f : Store → Store × Option Failure}
    (h : StateT.run (ExceptT.run (changeStore f)) session = (.ok (), session')) :
    f session.store = (session'.store, none) := by
  rw [run_changeStore] at h
  obtain ⟨hresult, rfl⟩ := Prod.mk.inj h
  cases hfault : (f session.store).2 with
  | none => exact Prod.ext rfl hfault
  | some e => rw [hfault] at hresult; cases hresult

/-- What a store is replaced by, if that is not refused. -/
theorem store_of_replaceStore {f : Store → Except AccessFault Store}
    (h : StateT.run (ExceptT.run (replaceStore p f)) session = (.ok (), session')) :
    f session.store = .ok session'.store := by
  have hchange := eq_of_changeStore h
  cases hf : f session.store with
  | error e => rw [hf] at hchange; cases (Prod.mk.inj hchange).2
  | ok s => rw [hf] at hchange; rw [(Prod.mk.inj hchange).1]

theorem write_of_writeText (h : (writeText p text).outcome store = (.ok q, session)) :
    q = p ∧ ∃ s : Store, s.write p (Utf8.encode text) = .ok session.store := by
  unfold outcome writeText at h
  obtain ⟨_, prepared, -, h⟩ := bind_eq_ok h
  obtain ⟨_, written, hwritten, h⟩ := bind_eq_ok h
  obtain ⟨hq, rfl⟩ := Prod.mk.inj h
  exact ⟨(Except.ok.inj hq).symm, prepared.store, store_of_replaceStore hwritten⟩

/-- A frame that is written to a file and not to an address. -/
theorem writeValues_of_writeFrame {f : Frame} (haddress : Address.ofText? p.text = none)
    (h : StateT.run (ExceptT.run (writeFrame p f)) session = (.ok q, session')) :
    q = p ∧ ∃ s : Store, s.writeValues p (Utf8.encode (Csv.write f)) = .ok session'.store := by
  unfold writeFrame at h
  obtain ⟨_, prepared, -, h⟩ := bind_eq_ok h
  simp only [haddress] at h
  obtain ⟨_, checked, -, h⟩ := bind_eq_ok h
  obtain ⟨_, written, hwritten, h⟩ := bind_eq_ok h
  obtain ⟨hq, rfl⟩ := Prod.mk.inj h
  exact ⟨(Except.ok.inj hq).symm, checked.store, store_of_replaceStore hwritten⟩

/-! ## Work that only reads -/

/-- The work results in what is read from the store, and changes at most the journal. -/
def Reads (x : Work α) (f : Store → Except Failure α) : Prop :=
  ∀ session, ∃ journal,
    StateT.run (ExceptT.run x) session = (f session.store, { session with journal })

theorem reads_reading (f : Store → Except Failure α) : (reading f).Reads f :=
  fun session => ⟨session.journal, rfl⟩

theorem reads_pure (a : α) : (pure a : Work α).Reads fun _ => .ok a :=
  fun session => ⟨session.journal, rfl⟩

theorem reads_ofExcept (x : Except Failure α) : (ofExcept x).Reads fun _ => x :=
  fun session => ⟨session.journal, rfl⟩

/-- A journaled computation results in what it results in by itself. -/
theorem reads_ofJournaled {x : Journaled α} {result : Except Fault α} (hx : x.Yields result) :
    (ofJournaled x).Reads fun _ => result.mapError .fault := by
  intro session
  refine ⟨(StateT.run (ExceptT.run x) session.journal).2, ?_⟩
  rw [← hx session.journal]
  rfl

theorem reads_note (level : Level) (event : String) (fields : List (String × Json)) :
    (note level event fields).Reads fun _ => .ok () :=
  fun session => ⟨session.journal.note level event fields, rfl⟩

theorem Reads.bind {x : Work α} {f : α → Work β} {g : Store → Except Failure α}
    {k : α → Store → Except Failure β} (hx : x.Reads g) (hf : ∀ a, (f a).Reads (k a)) :
    (x >>= f).Reads fun s => g s >>= fun a => k a s := by
  intro session
  obtain ⟨journal, hrun⟩ := hx session
  dsimp only
  cases hg : g session.store with
  | error e =>
    rw [hg] at hrun
    exact ⟨journal, run_bind_of_error hrun⟩
  | ok a =>
    rw [hg] at hrun
    rw [run_bind_of_ok hrun]
    exact hf a { session with journal }

theorem reads_mapM {f : α → Work β} {g : α → Store → Except Failure β} (h : ∀ a, (f a).Reads (g a))
    (l : List α) : (l.mapM f).Reads fun s => l.mapM fun a => g a s := by
  induction l with
  | nil => exact reads_pure []
  | cons a l ih =>
    simp only [List.mapM_cons]
    exact (h a).bind fun b => ih.bind fun bs => reads_pure (b :: bs)

theorem Reads.outcome {x : Work α} {f : Store → Except Failure α} (h : x.Reads f) (s : Store) :
    (x.outcome s).1 = f s ∧ (x.outcome s).2.store = s := by
  obtain ⟨journal, hrun⟩ := h ⟨s, .empty⟩
  unfold Work.outcome
  rw [hrun]
  exact ⟨rfl, rfl⟩

theorem Reads.eq_ok {x : Work α} {f : Store → Except Failure α} {a : α} (h : x.Reads f)
    (hrun : StateT.run (ExceptT.run x) session = (.ok a, session')) :
    f session.store = .ok a ∧ session'.store = session.store := by
  obtain ⟨journal, hread⟩ := h session
  obtain ⟨hresult, rfl⟩ := Prod.mk.inj (hread.symm.trans hrun)
  exact ⟨hresult, rfl⟩

/-! ## Work that notes nothing -/

/-- The work is the same with any journal, and leaves that as it is. -/
def Silent (x : Work α) : Prop :=
  ∀ store journal, StateT.run (ExceptT.run x) ⟨store, journal⟩ =
    ((x.outcome store).1, ⟨(x.outcome store).2.store, journal⟩)

theorem silent_pure (a : α) : (pure a : Work α).Silent := fun _ _ => rfl

theorem silent_changeStore (f : Store → Store × Option Failure) : (changeStore f).Silent := by
  intro store journal
  unfold outcome
  rw [run_changeStore, run_changeStore]

theorem Silent.bind {x : Work α} {f : α → Work β} (hx : x.Silent) (hf : ∀ a, (f a).Silent) :
    (x >>= f).Silent := by
  intro store journal
  have hrun (journal : Journal) : StateT.run (ExceptT.run (x >>= f)) ⟨store, journal⟩ =
      StateT.run (ExceptT.bindCont f (x.outcome store).1) ⟨(x.outcome store).2.store, journal⟩ := by
    show StateT.run (ExceptT.run x >>= ExceptT.bindCont f) ⟨store, journal⟩ = _
    rw [StateT.run_bind, hx]
    rfl
  unfold outcome
  rw [hrun, hrun]
  cases (x.outcome store).1 with
  | error e => rfl
  | ok a => exact hf a _ _

theorem silent_writeText (p : Path) (text : String) : (writeText p text).Silent :=
  (silent_changeStore _).bind fun _ => (silent_changeStore _).bind fun _ => silent_pure p

end Yardstick.Work
