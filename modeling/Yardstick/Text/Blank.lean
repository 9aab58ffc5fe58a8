/-!
# Blanks

Four sets of blanks are in use. `isAsciiSpace` is what surrounds a number, `isBlank` what a line may
hold and still count as empty (it adds the four information separators), `isWideSpace` what settings
may put around an integer (the white space of Unicode), and `isLineSpace` a blank within one line.
-/

namespace Yardstick.Text

/-- Space, tab, line feed, vertical tab, form feed and carriage return. -/
def isAsciiSpace (c : Char) : Bool := c = ' ' || (9 ≤ c.toNat && c.toNat ≤ 13)

/-- The white space of Unicode outside ASCII. -/
def isForeignSpace (c : Char) : Bool :=
  c.toNat = 0x85 || c.toNat = 0xA0 || c.toNat = 0x1680 ||
    (0x2000 ≤ c.toNat && c.toNat ≤ 0x200A) || c.toNat = 0x2028 || c.toNat = 0x2029 ||
    c.toNat = 0x202F || c.toNat = 0x205F || c.toNat = 0x3000

/-- The white space of Unicode. -/
def isWideSpace (c : Char) : Bool := isAsciiSpace c || isForeignSpace c

/-- White space or an information separator. -/
def isBlank (c : Char) : Bool := isWideSpace c || (0x1C ≤ c.toNat && c.toNat ≤ 0x1F)

/-- A blank that ends no line of a plain text file. -/
def isLineSpace (c : Char) : Bool := isBlank c && c != '\n' && c != '\r'

/-- The text without the leading characters that satisfy `p`, and without the trailing ones. -/
def trim (p : Char → Bool) (s : List Char) : List Char :=
  ((s.dropWhile p).reverse.dropWhile p).reverse

end Yardstick.Text
