import Yardstick.Failure
import Yardstick.Report.Journaled

/-!
# Sessions

A session works on a store of files and keeps a journal. What it has written and noted before a
failure stays.
-/

namespace Yardstick

structure Session where
  store : Store
  journal : Journal

/-- A computation in a session, which may fail. -/
abbrev Work (α : Type) := ExceptT Failure (StateM Session) α

namespace Work

variable {α : Type}

/-- The result of some work that starts with a store, and the session after it. -/
def outcome (x : Work α) (store : Store) : Except Failure α × Session :=
  StateT.run (ExceptT.run x) ⟨store, .empty⟩

def ofExcept (x : Except Failure α) : Work α := ExceptT.mk (pure x)

def note (level : Level) (event : String) (fields : List (String × Json)) : Work Unit :=
  modify fun s => { s with journal := s.journal.note level event fields }

/-- A journaled computation as part of a session. -/
def ofJournaled (x : Journaled α) : Work α :=
  ExceptT.mk fun s =>
    let (result, journal) := StateT.run (ExceptT.run x) s.journal
    (result.mapError .fault, { s with journal })

/-- Changes the store, as far as the change is not refused. -/
def changeStore (f : Store → Store × Option Failure) : Work Unit := do
  let (store, failure) := f (← get).store
  modify fun s => { s with store }
  match failure with
  | some e => throw e
  | none => pure ()

end Work

/-- A refused access as the failure of a request. A path that no file can have is refused before the
request is made. -/
def Failure.ofAccess (wrap : AccessFault → Failure) : AccessFault → Failure
  | .zeroInPath => .access .zeroInPath
  | f => wrap f

end Yardstick
