import Yardstick.Packed.Bzip
import Yardstick.Packed.Gzip
import Yardstick.Packed.Xz
import Yardstick.Text.Utf8

/-!
# Tar archives

A tar archive is a sequence of blocks of 512 bytes. A member has a header of one block, with its name, size
and kind, and then its content; some members only tell about the next one. An archive of values has one
member, and may be packed as a whole.
-/

namespace Yardstick.Packed.Tar

def blockSize : Nat := 512

/-- The size of so many bytes in whole blocks. -/
def roundUp (n : Nat) : Nat := (n + blockSize - 1) / blockSize * blockSize

/-- The bytes from a place on, `n` at most. -/
def field (header : List UInt8) (start n : Nat) : List UInt8 := (header.drop start).take n

/-- A text that ends at a zero byte. -/
def textField (bytes : List UInt8) : List UInt8 := bytes.takeWhile (· ≠ 0)

def isSpace (b : UInt8) : Bool := b = 32 || (9 ≤ b && b ≤ 13)

/-- An octal number with blanks around it, or a binary one after a mark. Nothing counts as zero. -/
def number? (bytes : List UInt8) : Option Nat :=
  match bytes with
  | 128 :: rest => some (rest.foldl (fun n b => 256 * n + b.toNat) 0)
  | _ =>
    let text := ((textField bytes).dropWhile isSpace).reverse.dropWhile isSpace
    if text.all fun b => 48 ≤ b && b < 56 then
      some (text.reverse.foldl (fun n b => 8 * n + (b.toNat - 48)) 0)
    else none

/-- The sum of the bytes of a header, with blanks for the field of the sum. -/
def headerSum (header : List UInt8) : Nat :=
  256 + ((header.take 148) ++ (header.drop 156)).foldl (fun n b => n + b.toNat) 0

structure Header where
  name : List UInt8
  size : Nat
  kind : UInt8

/-- What the header at the start of some bytes says, or why there is none. -/
def readHeader (bytes : List UInt8) : Except TarCause Header := do
  let header := bytes.take blockSize
  if header.isEmpty then throw .noHeader
  if header.length < blockSize then throw .truncated
  if header.all (· = 0) then throw .zeroHeader
  let some sum := number? (field header 148 8) | throw .header
  if sum ≠ headerSum header then throw .checksum
  let numbers := [(100, 8), (108, 8), (116, 8), (124, 12), (136, 12), (329, 8), (337, 8)]
  if numbers.any fun (start, n) => (number? (field header start n)).isNone then throw .header
  let name := textField (field header 0 100)
  let folder := textField (field header 345 155)
  return {
    name := if folder.isEmpty then name else folder ++ 47 :: name
    size := (number? (field header 124 12)).getD 0
    kind := header.getD 156 0 }

/-- A member of an archive; one that is no file has no content. -/
structure Member where
  name : List UInt8
  content : Option (Except Fault (List UInt8))

/-- Kinds of members without content: links, devices, directories and pipes. -/
def bareKinds : List UInt8 := [49, 50, 51, 52, 53, 54]

/-- Kinds of members that tell about the next one. -/
def tellingKinds : List UInt8 := [75, 76, 88, 103, 120]

/-- The bytes after a header that belong to it. -/
def takeContent (size : Nat) (bytes : List UInt8) : Except Fault (List UInt8) :=
  if bytes.length < size then .error (.tar .ending) else .ok (bytes.take size)

/-- Why an archive cannot start with some bytes, of which `fuel` headers at most are looked at. It may
start with its end. -/
def startFault : (fuel : Nat) → (isTold : Bool) → List UInt8 → Option TarCause
  | 0, _, _ => none
  | fuel + 1, isTold, bytes =>
    match readHeader bytes with
    | .ok h =>
      if tellingKinds.contains h.kind then
        startFault fuel true (bytes.drop (blockSize + roundUp h.size))
      else none
    | .error c =>
      if isTold then some c
      else
        match c with
        | .zeroHeader => none
        | .noHeader => some .empty
        | c => some c

/-- No archive has more headers than this. -/
def headerLimit (bytes : List UInt8) : Nat := bytes.length / blockSize + 1

/-- Reads members, `fuel` headers at most, up to bytes that are no header. There has to be one after a
member that tells about the next. -/
def readMembers : (fuel : Nat) → (isTold : Bool) → List UInt8 → Except Fault (List Member)
  | 0, _, _ => .ok []
  | fuel + 1, isTold, bytes =>
    match readHeader bytes with
    | .error c => if isTold then .error (.tar c) else .ok []
    | .ok h =>
      let rest := bytes.drop blockSize
      if tellingKinds.contains h.kind then readMembers fuel true (rest.drop (roundUp h.size))
      else
        let isBare := bareKinds.contains h.kind || (h.kind = 0 && h.name.getLast? = some 47)
        let size := if isBare then 0 else h.size
        if rest.length < roundUp size then .error (.tar .ending)
        else
          (readMembers fuel false (rest.drop (roundUp size))).map
            (⟨h.name, if isBare then none else some (takeContent size rest)⟩ :: ·)

/-- The content of an archive with one member. -/
def plainContent (bytes : List UInt8) : Except Fault (List UInt8) := do
  match ← readMembers (headerLimit bytes) false bytes with
  | [] => throw (.noMember .tar)
  | [m] => m.content.getD (.error .noContent)
  | ms =>
    let shown (m : Member) : String :=
      let name := if m.content.isNone then (m.name.reverse.dropWhile (· = 47)).reverse else m.name
      ((Text.Utf8.decode ⟨name.toArray⟩).toOption).getD ""
    throw (.manyMembers .tar (ms.map shown))

/-- The archive in some bytes that may be unpacked, or why there is none. -/
def archive (wrong : TarCause) (unpacked : Except Fault (List UInt8)) :
    Except Fault (Except TarCause (List UInt8)) :=
  match unpacked with
  | .ok bytes => .ok ((startFault (headerLimit bytes) false bytes).elim (.ok bytes) .error)
  | .error .truncated => if wrong = .notGzip then .error .truncated else .ok (.error wrong)
  | .error (.deflate c) => .ok (.error (.deflate c))
  | .error _ => .ok (.error wrong)

/-- The content of an archive with one member, which may be packed. -/
def content (bytes : List UInt8) : Except Fault (List UInt8) := do
  match ← archive .notGzip (Gzip.content bytes) with
  | .ok a => plainContent a
  | .error gzip =>
    match ← archive .notBzip (Bzip.content bytes) with
    | .ok a => plainContent a
    | .error bzip =>
      match ← archive .notXz (Xz.content bytes) with
      | .ok a => plainContent a
      | .error xz =>
        match startFault (headerLimit bytes) false bytes with
        | none => plainContent bytes
        | some plain => throw (.notTar gzip bzip xz plain)

end Yardstick.Packed.Tar
