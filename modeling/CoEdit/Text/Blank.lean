/-!
# Blank Text

The characters that count as white space, trimming, and the test for text that is empty up to
white space. User ids, session ids, titles and settings are checked against this notion of blank.

## Main definitions

* `isWhite`: the Unicode property `White_Space`, 25 code points.
* `trim`: the text without white space at either end.
* `isBlank`: nothing but white space.
-/

namespace CoEdit.Text

/-- The 25 characters with the Unicode property `White_Space`. -/
def isWhite (c : Char) : Bool :=
  let n := c.toNat
  (9 ≤ n && n ≤ 13) || n == 0x20 || n == 0x85 || n == 0xA0 || n == 0x1680 ||
    (0x2000 ≤ n && n ≤ 0x200A) || n == 0x2028 || n == 0x2029 || n == 0x202F || n == 0x205F ||
    n == 0x3000

/-- Drops white space from both ends of a list of characters. -/
def trimChars (cs : List Char) : List Char :=
  ((cs.dropWhile isWhite).reverse.dropWhile isWhite).reverse

/-- The text without the white space at its two ends. -/
def trim (s : String) : String :=
  String.ofList (trimChars s.toList)

/-- Text that is empty or holds white space alone. -/
def isBlank (s : String) : Bool :=
  s.toList.all isWhite

/-- The text itself, or the second one where the first is blank. -/
def orElseIfBlank (s fallback : String) : String :=
  if isBlank s then fallback else s

@[simp] theorem isBlank_empty : isBlank "" = true := rfl

end CoEdit.Text
