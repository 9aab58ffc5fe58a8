import Yardstick.Packed.Bzip
import Yardstick.Packed.Deflate
import Yardstick.Text.Utf8

/-!
# Zip files

A zip file holds members, each after a header, and after them a directory and an end record that tells
where the directory is. What stands before the first member counts for nothing. A file of values has one
member. Sizes and places have 32 bits.
-/

namespace Yardstick.Packed.Zip

/-- The bytes from a place on, `n` at most. -/
def slice (bytes : List UInt8) (start n : Nat) : List UInt8 := (bytes.drop start).take n

/-- The number at a place. -/
def numberAt (bytes : List UInt8) (start n : Nat) : Nat := lowNumber (slice bytes start n)

def endMark : List UInt8 := [0x50, 0x4B, 0x05, 0x06]

def endSize : Nat := 22

/-- The places of the end mark, of which the first is at `place`. -/
def marksFrom (place : Nat) : List UInt8 → List Nat
  | [] => []
  | b :: bytes =>
    let rest := marksFrom (place + 1) bytes
    if endMark.isPrefixOf (b :: bytes) then place :: rest else rest

/-- The place of the end record: at the end of the file if it has no comment, else the last one. -/
def findEnd (bytes : List UInt8) : Option Nat :=
  let last := bytes.length - endSize
  if bytes.length < endSize then none
  else if endMark.isPrefixOf (bytes.drop last) && numberAt bytes (last + 20) 2 = 0 then some last
  else
    let start := bytes.length - (0x10000 + endSize)
    (marksFrom start (bytes.drop start)).getLast?.filter fun place => place + endSize ≤ bytes.length

/-- A member as the directory lists it. -/
structure Member where
  name : List UInt8
  flags : Nat
  method : Nat
  checksum : Nat
  packedSize : Nat
  size : Nat
  /-- The place of its header. -/
  place : Int

def Member.has (m : Member) (bit : Nat) : Bool := m.flags.testBit bit

/-- The characters of the bytes from 128 on in the code page of names. -/
def pageChars : List Char :=
  ("ÇüéâäàåçêëèïîìÄÅÉæÆôöòûùÿÖÜ¢£¥₧ƒáíóúñÑªº¿⌐¬½¼¡«»░▒▓│┤╡╢╖╕╣║╗╝╜╛┐" ++
    "└┴┬├─┼╞╟╚╔╩╦╠═╬╧╨╤╥╙╘╒╓╫╪┘┌█▄▌▐▀αßΓπΣσµτΦΘΩδ∞φε∩≡±≥≤⌠⌡÷≈°∙·√ⁿ²■\u00a0").toList

/-- The character of a byte in the code page of names. -/
def pageChar (b : UInt8) : Char :=
  if b < 128 then Char.ofNat b.toNat else pageChars.getD (b.toNat - 128) ' '

/-- A name as far as messages show it. -/
def Member.shownName (m : Member) : String :=
  let paged := m.name.map pageChar
  let name := if m.has 11 then ((Text.Utf8.decode ⟨m.name.toArray⟩).toOption.map String.toList).getD paged
    else paged
  String.ofList (name.takeWhile (·.toNat ≠ 0))

/-- Checks the fields after a member's name, `fuel` at most. -/
def checkExtra : (fuel : Nat) → List UInt8 → Except Fault Unit
  | 0, _ => .ok ()
  | fuel + 1, extra =>
    let length := numberAt extra 2 2
    if extra.length < 4 then .ok ()
    else if extra.length < length + 4 then .error (.zip (.extraField (numberAt extra 0 2) length))
    else checkExtra fuel (extra.drop (length + 4))

/-- Reads the members of a directory. It is at `directory`, and gives all places as if it were at
`offset`. -/
def readDirectory (directory offset : Nat) : (fuel : Nat) → List UInt8 → Except Fault (List Member)
  | 0, _ => .ok []
  | _ + 1, [] => .ok []
  | fuel + 1, b :: bytes => do
    let entry := b :: bytes
    if entry.length < 46 then throw (.zip .directoryEnd)
    if slice entry 0 4 ≠ [0x50, 0x4B, 0x01, 0x02] then throw (.zip .directoryMark)
    let nameSize := numberAt entry 28 2
    let extraSize := numberAt entry 30 2
    let version := numberAt entry 6 1
    if 63 < version then throw (.demand (.version version))
    checkExtra extraSize (slice entry (46 + nameSize) extraSize)
    let member : Member :=
      { name := slice entry 46 nameSize, flags := numberAt entry 8 2, method := numberAt entry 10 2,
        checksum := numberAt entry 16 4, packedSize := numberAt entry 20 4, size := numberAt entry 24 4,
        place := Int.ofNat (numberAt entry 42 4 + directory) - offset }
    let members ← readDirectory directory offset fuel
      (entry.drop (46 + nameSize + extraSize + numberAt entry 32 2))
    return member :: members

/-- The content of data that a member packs, as far as it goes. -/
def unpack (method : Nat) (bytes : List UInt8) : Except Fault (List UInt8) :=
  let whole (read : Except Fault (List UInt8 × List UInt8)) : Except Fault (List UInt8) :=
    match read with
    | .ok (content, _) => .ok content
    | .error .truncated => .ok []
    | .error f => .error f
  if method = 0 then .ok bytes
  else if method = 8 then whole (Deflate.inflate bytes)
  else if method = 12 then whole (Bzip.readStream bytes)
  else .error (.demand .method)

/-- Reads a member, which has to end before the directory. -/
def readMember (bytes : List UInt8) (directory : Nat) (m : Member) : Except Fault (List UInt8) := do
  if m.place < 0 then throw (.beforeStart m.place.natAbs)
  let place := m.place.toNat
  let header := slice bytes place 30
  if header.length < 30 then throw (.zip .headerEnd)
  if header.take 4 ≠ [0x50, 0x4B, 0x03, 0x04] then throw (.zip .headerMark)
  let nameSize := numberAt header 26 2
  let name := slice bytes (place + 30) nameSize
  let start := place + 30 + nameSize + numberAt header 28 2
  if m.has 5 then throw (.demand .patches)
  if m.has 6 then throw (.demand .encryption)
  if name ≠ m.name then throw (.zip (.names m.shownName name))
  if directory < start + m.packedSize then throw (.zip (.overlap m.shownName))
  if m.has 0 then throw (.password m.shownName)
  let content := (← unpack m.method (slice bytes start m.packedSize)).take m.size
  if checksum content ≠ m.checksum then throw (.zip (.checksum m.shownName))
  return content

/-- The content of a file with one member. -/
def content (bytes : List UInt8) : Except Fault (List UInt8) := do
  let some place := findEnd bytes | throw (.zip .noDirectory)
  let size := numberAt bytes (place + 12) 4
  let offset := numberAt bytes (place + 16) 4
  if place < size then throw (.zip .directoryOffset)
  let directory := place - size
  match ← readDirectory directory offset size (slice bytes directory size) with
  | [] => throw (.noMember .zip)
  | [m] => readMember bytes directory m
  | ms => throw (.manyMembers .zip (ms.map Member.shownName))

end Yardstick.Packed.Zip
