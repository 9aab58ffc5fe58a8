import Yardstick.Packed.Tar
import Yardstick.Packed.Zip

/-!
# The content of packed files

The ending of its path says whether and how a file is packed.
-/

namespace Yardstick.Packed

/-- A way of packing. -/
inductive Packing
  | tar
  | gzip
  | bzip
  | zip
  | xz
  | zstd
  deriving Repr, DecidableEq

/-- The endings of packed files, of which the first that fits counts. -/
def Packing.endings : List (String × Packing) :=
  [(".tar", .tar), (".tar.gz", .tar), (".tar.bz2", .tar), (".tar.xz", .tar), (".gz", .gzip),
   (".bz2", .bzip), (".zip", .zip), (".xz", .xz), (".zst", .zstd)]

/-- How the file at a path is packed. Case does not matter. -/
def Packing.ofPath? (path : String) : Option Packing :=
  let path := path.toList.map Char.toLower
  (endings.find? fun (ending, _) => ending.toList.isSuffixOf path).map (·.2)

/-- Why files cannot be packed or unpacked in a way, whatever is in them. -/
def Packing.lack? : Packing → Option Fault
  | zstd => some (.noUnpacker "zstandard")
  | _ => none

/-- The content of the bytes of a file. -/
def Packing.content (p : Packing) (bytes : List UInt8) : Except Fault (List UInt8) :=
  match p with
  | tar => Tar.content bytes
  | gzip => Gzip.content bytes
  | bzip => Bzip.content bytes
  | zip => Zip.content bytes
  | xz => Xz.content bytes
  | zstd => .error (.noUnpacker "zstandard")

end Yardstick.Packed
