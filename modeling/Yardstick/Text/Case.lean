/-!
# Letter case

Lower case and capitals, exact wherever the result holds an ASCII character. Besides the ASCII
letters that concerns four characters: the Kelvin sign and the dotted capital I in lower case, the
dotless i and the long s as capitals. Any other character keeps its case, which no use here can
tell, since slugs and setting names are ASCII.
-/

namespace Yardstick.Text

/-- The lower case of one character; the dotted capital I gives two. -/
def lowerChar (c : Char) : List Char :=
  if c.toNat = 0x130 then ['i', Char.ofNat 0x307]
  else if c.toNat = 0x212A then ['k']
  else [c.toLower]

def lower (s : List Char) : List Char := s.flatMap lowerChar

/-- The capital of one character. -/
def upperChar (c : Char) : Char :=
  if c.toNat = 0x131 then 'I' else if c.toNat = 0x17F then 'S' else c.toUpper

def upper (s : List Char) : List Char := s.map upperChar

end Yardstick.Text
