import SeriesIndex.Unicode.Property

/-!
# Character classes

The classes of characters that the readers of this library ask for. Each is given for the first
128 characters by comparison and above them by the tables of the character database.
-/

namespace SeriesIndex.Text

open Unicode

/-- The 25 characters that separate words. -/
def isWhitespace (char : Char) : Bool :=
  let code := char.toNat
  (0x09 ≤ code && code ≤ 0x0D) || code == 0x20 || code == 0x85 || code == 0xA0 ||
    code == 0x1680 || (0x2000 ≤ code && code ≤ 0x200A) || code == 0x2028 || code == 0x2029 ||
    code == 0x202F || code == 0x205F || code == 0x3000

def isAlphabetic (char : Char) : Bool :=
  char.isAlpha || (0x80 ≤ char.toNat && Property.alphabetic.contains char.toNat)

/-- A digit or any other character that stands for a number. -/
def isNumeric (char : Char) : Bool :=
  char.isDigit || (0x80 ≤ char.toNat && Category.number.contains char.toNat)

def isAlphanumeric (char : Char) : Bool := isAlphabetic char || isNumeric char

/-- The characters above the first 128 that do not show as a mark of their own: controls, formats,
unassigned ones, blanks, and those that extend the character before them. -/
def hidden : CharSet :=
  Property.joined [Category.other, Category.separator, Property.graphemeExtend]

/-- The character shows on its own. -/
def isVisible (char : Char) : Bool :=
  if char.toNat < 0x80 then 0x20 ≤ char.toNat && char.toNat < 0x7F
  else !hidden.contains char.toNat

/-- The text without the white space around it. -/
def trim (text : List Char) : List Char :=
  ((text.dropWhile isWhitespace).reverse.dropWhile isWhitespace).reverse

end SeriesIndex.Text
