import Yardstick.Csv.Printer
import Yardstick.Json.Printer
import Yardstick.Packed.Content
import Yardstick.Session.Basic
import Yardstick.Store.Address
import Yardstick.Text.Lines

/-!
# Documents in files

JSON objects, lines of text and frames of values, read from and written to the files of a store. Paths
that are not absolute are seen from a base directory, if there is one.
-/

namespace Yardstick

open Text

/-- Where relative paths start. -/
abbrev Base := Option Path

def Base.resolve (base : Base) (p : Path) : Path := (base.map fun b => b.join p).getD p

namespace Store

/-- The text of a file, with its line ends unified. -/
def readText (s : Store) (p : Path) : Except Failure (List Char) := do
  let bytes ← (s.read p).mapError (.ofAccess (.unreadable p.text))
  let text ← (Utf8.decode bytes).mapError Failure.encoding
  return unifyNewlines text.toList

/-- The members of the JSON object in a file. -/
def readObject (s : Store) (p : Path) : Except Failure (List (String × Json)) := do
  let text ← s.readText p
  match Json.parse (String.ofList text) with
  | .error (.hugeInteger digits) => throw (.hugeInteger digits)
  | .error f => throw (.malformed p.text f)
  | .ok (.obj ms) => return ms
  | .ok v => throw (.notObject p.text v.kindWord)

/-- The lines of a file that are not blank. -/
def readLines (s : Store) (p : Path) : Except Failure (List String) :=
  (s.readText p).map fun text => (keptLines text).map String.ofList

/-- The paths of the JSON files in a directory, by name. -/
def listJson (s : Store) (p : Path) : Except Failure (List Path) :=
  match s.locate p with
  | .ok place =>
    if s.hasDirectory place then
      let names := (s.children place).filter fun name => ".json".toList.isSuffixOf name.toList
      .ok ((names.mergeSort fun a b => !(b < a)).map p.child)
    else .error (.notDirectory p.text)
  | .error (.refused .nameTooLong path) => .error (.access (.refused .nameTooLong path))
  | .error _ => .error (.notDirectory p.text)

/-- A fault in the packing of a file of values. -/
def packingFailure (p : Path) (f : Packed.Fault) : Failure :=
  if f.isOfFile then .unreadableValues p.text (f.message p.text) else .packing p.text f

/-- Refuses a way of packing that is not at hand. -/
def checkPacking (p : Path) (packing : Option Packed.Packing) : Except Failure Unit :=
  (packing.bind (·.lack?)).elim (.ok ()) (.error ∘ packingFailure p)

/-- The bytes of values, which are in a file or at an address. A file is not opened for a way of
packing that is not at hand. -/
def readValues (s : Store) (p : Path) (packing : Option Packed.Packing) : Except Failure ByteArray := do
  let unreadable (f : AccessFault) : Failure := .unreadableValues p.text f.message
  match Address.ofText? p.text with
  | some a => (s.fetch a).mapError unreadable
  | none =>
    checkPacking p packing
    (s.read (p.fromHome s.homePath)).mapError unreadable

/-- The frame of values, which may be packed. -/
def readFrame (s : Store) (p : Path) : Except Failure Frame := do
  let packing := Packed.Packing.ofPath? p.text
  let bytes ← s.readValues p packing
  let content ← (packing.elim (.ok bytes.toList) (·.content bytes.toList)).mapError (packingFailure p)
  (Csv.readFrame ⟨content.toArray⟩).mapError fun f => .unreadableValues p.text f.message

/-- Writes a file of values, of which only the directory in its own path has been made. -/
def writeValues (s : Store) (p : Path) (bytes : ByteArray) : Except AccessFault Store :=
  let p := p.fromHome s.homePath
  if s.isDirectory p.parent then s.write p bytes else .error (.noFolder p.parent.text)

end Store

namespace Work

/-- Reads from the store. -/
def reading {α : Type} (f : Store → Except Failure α) : Work α := do ofExcept (f (← get).store)

/-- Makes the directory that a file is to stand in. -/
def prepare (p : Path) : Work Unit :=
  changeStore fun s =>
    let (s, fault) := s.prepare p
    (s, fault.map (.ofAccess (.unwritable p.text)))

/-- Replaces the store, unless that is refused. -/
def replaceStore (p : Path) (f : Store → Except AccessFault Store) : Work Unit :=
  changeStore fun s =>
    match f s with
    | .ok s => (s, none)
    | .error f => (s, some (.ofAccess (.unwritable p.text) f))

/-- Writes a text to a file, and makes the directory that it stands in. -/
def writeText (p : Path) (text : String) : Work Path := do
  prepare p
  replaceStore p (·.write p (Utf8.encode text))
  return p

/-- Writes a frame to a file of values. Packing it by the ending of its path is left out: the file holds
the plain text. What is written to an address is lost, but something has to be there. -/
def writeFrame (p : Path) (f : Frame) : Work Path := do
  prepare p
  let packing := Packed.Packing.ofPath? p.text
  match Address.ofText? p.text with
  | some a =>
    replaceStore p fun s => (s.fetch a).map fun _ => s
    ofExcept (Store.checkPacking p packing)
  | none =>
    ofExcept (Store.checkPacking p packing)
    replaceStore p (·.writeValues p (Utf8.encode (Csv.write f)))
  return p

end Work

end Yardstick
