/-!
# White Space and Trimming

Which characters count as blank, and cutting them off the ends of a text.

Two sets are in use and they differ in four characters. `isBlank` is the set by
which the launcher itself trims what it is given; it counts the four separators
U+001C to U+001F. `isSpace`, the set that may surround a number, leaves those four
out. Neither is the ASCII set of the core library, and a zero width
space is in neither.

Trimming takes the set as an argument, because the base path of a server is
trimmed of slashes by the same operation.

## Main definitions

* `isBlank`, `isSpace`: The two sets of white space.
* `trimStart`, `trimEnd`, `trim`: A list of characters without a leading run, a
  trailing run, or both.
* `trimmed`: A text without blank characters at its ends.
* `IsBlankText`: Nothing but blank characters.

## Theorems

* `isBlank_of_isWhitespace`: Every blank of the core library is one here.
-/

namespace ServerLaunch

namespace Text

/-- Characters of the Unicode white space property, and the four information
    separators below the space. -/
def isBlank (c : Char) : Bool :=
  let n := c.toNat
  (9 ≤ n && n ≤ 13) || (28 ≤ n && n ≤ 32) || n == 0x85 || n == 0xA0 || n == 0x1680 ||
    (0x2000 ≤ n && n ≤ 0x200A) || n == 0x2028 || n == 0x2029 || n == 0x202F ||
    n == 0x205F || n == 0x3000

/-- Characters of the Unicode white space property alone. -/
def isSpace (c : Char) : Bool :=
  isBlank c && !(28 ≤ c.toNat && c.toNat ≤ 31)

/-- Drops the longest leading run of characters in the set. -/
def trimStart (p : Char → Bool) (cs : List Char) : List Char :=
  cs.dropWhile p

/-- Drops the longest trailing run of characters in the set. -/
def trimEnd (p : Char → Bool) (cs : List Char) : List Char :=
  (cs.reverse.dropWhile p).reverse

/-- Drops the leading and the trailing run of characters in the set. -/
def trim (p : Char → Bool) (cs : List Char) : List Char :=
  trimEnd p (trimStart p cs)

/-- The text without blank characters at either end. -/
def trimmed (s : String) : String :=
  String.ofList (trim isBlank s.toList)

/-- A text with nothing but blank characters, the empty one included. -/
def IsBlankText (s : String) : Bool :=
  s.toList.all isBlank

/-- The blanks of the core library are blank here too. -/
theorem isBlank_of_isWhitespace (c : Char) (h : c.isWhitespace = true) : isBlank c = true := by
  simp only [Char.isWhitespace, Bool.or_eq_true, decide_eq_true_eq] at h
  rcases h with ((rfl | rfl) | rfl) | rfl <;> decide

end Text

end ServerLaunch
