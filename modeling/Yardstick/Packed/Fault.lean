import Yardstick.Text.Quoted

/-!
# Faults of packed files

Why the content of a packed file cannot be read, for each way of packing.
-/

namespace Yardstick.Packed

open Text

/-- What is wrong with deflated data. -/
inductive DeflateCause
  | blockType
  | storedLengths
  | tooManySymbols
  | codeLengths
  | repeatedLength
  | noEndOfBlock
  | literalLengths
  | distances
  | literalCode
  | distanceCode
  | farDistance
  deriving Repr, DecidableEq

def DeflateCause.text : DeflateCause → String
  | blockType => "invalid block type"
  | storedLengths => "invalid stored block lengths"
  | tooManySymbols => "too many length or distance symbols"
  | codeLengths => "invalid code lengths set"
  | repeatedLength => "invalid bit length repeat"
  | noEndOfBlock => "invalid code -- missing end-of-block"
  | literalLengths => "invalid literal/lengths set"
  | distances => "invalid distances set"
  | literalCode => "invalid literal/length code"
  | distanceCode => "invalid distance code"
  | farDistance => "invalid distance too far back"

/-- What is wrong with an xz file. -/
inductive XzCause
  | format
  | options
  | data
  deriving Repr, DecidableEq

def XzCause.text : XzCause → String
  | format => "Input format not supported by decoder"
  | options => "Invalid or unsupported options"
  | data => "Corrupt input data"

/-- What is wrong with a zip file or its only member. -/
inductive ZipCause
  | noDirectory
  | directoryOffset
  | directoryEnd
  | directoryMark
  | extraField (kind length : Nat)
  | headerEnd
  | headerMark
  | names (listed : String) (found : List UInt8)
  | overlap (member : String)
  | checksum (member : String)
  deriving Repr, DecidableEq

/-- What a zip file may ask for, but is not to be had. -/
inductive ZipDemand
  | version (tenths : Nat)
  | method
  | patches
  | encryption
  deriving Repr, DecidableEq

/-- Why bytes are no tar archive. -/
inductive TarCause
  | empty
  | noHeader
  | zeroHeader
  | truncated
  | header
  | checksum
  | ending
  | notGzip
  | notBzip
  | notXz
  | deflate (c : DeflateCause)
  deriving Repr, DecidableEq

def TarCause.text : TarCause → String
  | empty => "empty file"
  | noHeader => "empty header"
  | zeroHeader => "end of file header"
  | truncated => "truncated header"
  | header => "invalid header"
  | checksum => "bad checksum"
  | ending => "unexpected end of data"
  | notGzip => "not a gzip file"
  | notBzip => "not a bzip2 file"
  | notXz => "not an lzma file"
  | deflate c => s!"zlib error: Error -3 while decompressing data: {c.text}"

/-- Files that hold members. -/
inductive Archive
  | zip
  | tar
  deriving Repr, DecidableEq

inductive Fault
  /-- The file ends before its content does. -/
  | truncated
  | deflate (c : DeflateCause)
  /-- No gzip file, from the first two bytes on. -/
  | notGzip (start : List UInt8)
  | gzipMethod
  | gzipChecksum (stored computed : Nat)
  | gzipLength
  | bzip
  | xz (c : XzCause)
  | tar (c : TarCause)
  /-- No tar archive, in whatever way it might be packed. -/
  | notTar (gzip bzip xz plain : TarCause)
  /-- An archive whose member is no file. -/
  | noContent
  | zip (c : ZipCause)
  | demand (d : ZipDemand)
  | password (member : String)
  /-- A member that would stand so many bytes before the file. -/
  | beforeStart (n : Nat)
  /-- A way of packing that is not at hand. -/
  | noUnpacker (name : String)
  | noMember (a : Archive)
  | manyMembers (a : Archive) (names : List String)
  deriving Repr, DecidableEq

/-- Bytes as messages show them. -/
def bytesText (bytes : List UInt8) : String :=
  "b" ++ quoteAscii (String.ofList (bytes.map fun b => Char.ofNat b.toNat))

def hexText (n : Nat) : String := "0x" ++ String.ofList (hexDigits 1 n)

def ZipCause.text : ZipCause → String
  | noDirectory => "File is not a zip file"
  | directoryOffset => "Bad offset for central directory"
  | directoryEnd => "Truncated central directory"
  | directoryMark => "Bad magic number for central directory"
  | extraField kind length =>
    s!"Corrupt extra field {String.ofList (hexDigits 4 kind)} (size={length})"
  | headerEnd => "Truncated file header"
  | headerMark => "Bad magic number for file header"
  | names listed found =>
    s!"File name in directory {quote listed} and header {bytesText found} differ."
  | overlap member => s!"Overlapped entries: {quote member} (possible zip bomb)"
  | checksum member => s!"Bad CRC-32 for file {quote member}"

def ZipDemand.text : ZipDemand → String
  | version tenths => s!"zip file version {tenths / 10}.{tenths % 10}"
  | method => "That compression method is not supported"
  | patches => "compressed patched data (flag bit 5)"
  | encryption => "strong encryption (flag bit 6)"

def Archive.name : Archive → String
  | zip => "ZIP file"
  | tar => "TAR archive"

/-- The name of an archive that has one member. -/
def Archive.shortName : Archive → String
  | zip => "ZIP"
  | tar => "TAR archive"

def quotedNames (names : List String) : String := "[" ++ ", ".intercalate (names.map quote) ++ "]"

/-- The line about an attempt to read an archive. -/
def attempt (method : String) (c : TarCause) : String := s!"\n- method {method}: ReadError({quote c.text})"

/-- The message about the file at a path. -/
def Fault.message (path : String) : Fault → String
  | truncated => "Compressed file ended before the end-of-stream marker was reached"
  | deflate c => s!"Error -3 while decompressing data: {c.text}"
  | notGzip start => s!"Not a gzipped file ({bytesText start})"
  | gzipMethod => "Unknown compression method"
  | gzipChecksum stored computed => s!"CRC check failed {hexText stored} != {hexText computed}"
  | gzipLength => "Incorrect length of data produced"
  | bzip => "Invalid data stream"
  | xz c => c.text
  | tar c => c.text
  | notTar g b x plain =>
    "file could not be opened successfully:" ++ attempt "gz" g ++ attempt "bz2" b ++
      attempt "xz" x ++ attempt "tar" plain
  | noContent => ""
  | zip c => c.text
  | demand d => d.text
  | password member => s!"File {quote member} is encrypted, password required for extraction"
  | beforeStart n => s!"negative seek value -{n}"
  | noUnpacker name =>
    s!"`Import {name}` failed.  Use pip or conda to install the {name} package."
  | noMember a => s!"Zero files found in {a.name} {path}"
  | manyMembers a names =>
    s!"Multiple files found in {a.name}. Only one file per {a.shortName}: {quotedNames names}"

/-- Whether the fault is put down to the file that was to be read. -/
def Fault.isOfFile : Fault → Bool
  | notGzip _ | gzipMethod | gzipChecksum _ _ | gzipLength | bzip => true
  | beforeStart _ | noMember _ | manyMembers _ _ => true
  | _ => false

end Yardstick.Packed
