/-!
# Lines

Cutting a text at line feeds, carriage returns, and carriage returns followed by a
line feed, which count as one end of line. Other characters that a screen would
start a new line for, such as U+2028, do not end a line here.

## Main definitions

* `splitLines`: The lines of a text, without their ends.
-/

namespace ServerLaunch

namespace Text

/-- Puts a character in front of the first line. -/
def pushOntoFirst (c : Char) : List (List Char) → List (List Char)
  | [] => [[c]]
  | line :: lines => (c :: line) :: lines

/-- The lines of a text, without their ends. A text that ends in an end of line
    has no further, empty line after it. -/
def splitLines : List Char → List (List Char)
  | [] => []
  | '\r' :: '\n' :: rest => [] :: splitLines rest
  | c :: rest =>
    if c == '\n' || c == '\r' then [] :: splitLines rest
    else pushOntoFirst c (splitLines rest)

example : splitLines ['a', '\r', '\n', '\n', 'b'] = [['a'], [], ['b']] := by decide

end Text

end ServerLaunch
