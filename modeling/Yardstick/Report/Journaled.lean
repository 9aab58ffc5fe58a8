import Yardstick.Journal

/-!
# Journaled computations

A computation that keeps a journal and may fail. What was noted before a failure stays noted.
-/

namespace Yardstick

abbrev Journaled (α : Type) := ExceptT Fault (StateM Journal) α

namespace Journaled

variable {α : Type}

/-- The result of a computation and its journal. -/
def outcome (x : Journaled α) : Except Fault α × Journal := StateT.run (ExceptT.run x) .empty

def ofExcept (x : Except Fault α) : Journaled α := ExceptT.mk (pure x)

def note (level : Level) (event : String) (fields : List (String × Json)) : Journaled Unit :=
  modify (·.note level event fields)

def count (c : Counter) : Journaled Unit := modify (·.count c)

/-- Notes an error of the engine on its way out; a fault of another kind passes by. -/
def onError (x : Journaled α) (f : Error → Journaled Unit) : Journaled α :=
  tryCatch x fun fault => do
    match fault.error? with
    | some e => f e
    | none => pure ()
    throw fault

end Journaled

/-- What is noted of an error. -/
def Error.fields (e : Error) : List (String × Json) :=
  [("error_type", .str e.family.text), ("error_message", .str e.message)]

end Yardstick
