import Yardstick.Store.Basic
import Yardstick.Text.Blank
import Yardstick.Text.Utf8

/-!
# Addresses

A path that starts with the name of a scheme and a colon is an address. Since a path never has two
slashes in a row, an address names no host, so that of all schemes only the one for files leads
anywhere: to a file whose path follows the colon, with characters written as escaped bytes.
-/

namespace Yardstick

structure Address where
  scheme : String
  rest : List Char
  deriving Repr, DecidableEq

namespace Address

open Text

def schemes : List String :=
  ["file", "ftp", "git", "git+ssh", "gopher", "hdl", "http", "https", "imap", "mms", "nfs", "nntp",
   "prospero", "rsync", "rtsp", "rtsps", "rtspu", "sftp", "shttp", "sip", "sips", "snews", "svn",
   "svn+ssh", "tel", "telnet", "wais", "ws", "wss"]

/-- The text without what an address may start with and does not mean. -/
def bare (cs : List Char) : List Char :=
  (cs.dropWhile fun c => c.toNat ≤ 32).filter fun c => c != '\t' && c != '\r' && c != '\n'

/-- The scheme at the start of a text, in lower case. -/
def scheme? (cs : List Char) : Option String :=
  let name := cs.takeWhile (· != ':')
  if name.length = cs.length then none else some (String.ofList (name.map Char.toLower))

/-- The text up to the last number sign, if there is one. -/
def withoutMark (cs : List Char) : List Char :=
  if cs.contains '#' then ((cs.reverse.dropWhile (· != '#')).drop 1).reverse else cs

/-- The address that a path stands for. -/
def ofText? (text : String) : Option Address :=
  if ((scheme? (bare text.toList)).any schemes.contains) then
    let cs := withoutMark (trim isBlank text.toList)
    some ⟨(scheme? cs).getD "", (cs.dropWhile (· != ':')).drop 1⟩
  else none

/-- The bytes of ASCII characters, some of them written as a percent sign and two digits. -/
def unescape : List Char → List UInt8
  | [] => []
  | '%' :: a :: b :: rest =>
    match hexValue? a, hexValue? b with
    | some x, some y => UInt8.ofNat (16 * x + y) :: unescape rest
    | _, _ => '%'.toUInt8 :: unescape (a :: b :: rest)
  | c :: rest => c.toUInt8 :: unescape rest

/-- The text of the bytes. What cannot be decoded, in as many places as `fuel` says, is replaced. -/
def decodeLossy : (fuel : Nat) → List UInt8 → List Char
  | 0, _ => []
  | fuel + 1, bytes =>
    match Utf8.decode ⟨bytes.toArray⟩ with
    | .ok s => s.toList
    | .error f =>
      let before := match Utf8.decode ⟨(bytes.take f.start).toArray⟩ with
        | .ok s => s.toList
        | .error _ => []
      before ++ '\uFFFD' :: decodeLossy fuel (bytes.drop (f.start + f.size))

/-- The path of the file at an address. -/
def file (a : Address) : String :=
  let isAscii (c : Char) : Bool := c.toNat < 128
  String.ofList ((a.rest.splitBy fun c d => isAscii c == isAscii d).flatMap fun run =>
    if run.all isAscii then decodeLossy (run.length + 1) (unescape run) else run)

end Address

/-- The bytes of what is at an address. -/
def Store.fetch (s : Store) (a : Address) : Except AccessFault ByteArray :=
  let refused (r : Refusal) : Except AccessFault ByteArray := .error (.address (.refused r a.file))
  match a.scheme with
  | "http" | "https" => .error (.address .noHost)
  | "ftp" => .error (.address .noServer)
  | "file" =>
    if a.file = "" then refused .noEntry
    else
      match s.read (.ofText a.file) with
      | .ok bytes => .ok bytes
      | .error (.refused r _) => refused r
      | .error f => .error f
  | scheme => .error (.address (.unknownScheme scheme))

end Yardstick
