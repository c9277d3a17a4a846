import ServerLaunch.Text.Blank

/-!
# Wrapped Text

Breaking a text into lines, and setting out labels with texts beside them.

A line takes as many words as fit. Blanks between two words of a line stay as they are;
where a line is broken they are dropped.

## Main definitions

* `wrap`: A text in lines of some width.
* `labelled`: A label, and beside it a text in lines.
* `listing`: Several labels, with their texts in one column.
-/

namespace ServerLaunch

namespace Text

/-- Puts words behind a line as long as they fit, and the others into further lines. -/
def fillLines (width : Nat) (line : List Char) : List (List Char) → List (List Char)
  | [] => [line]
  | word :: rest =>
    if line.length + 1 + word.length ≤ width then fillLines width (line ++ ' ' :: word) rest
    else line :: fillLines width word rest

/-- A text cut at every blank. -/
def cutAtBlanks : List Char → List (List Char)
  | [] => [[]]
  | c :: rest =>
    match cutAtBlanks rest with
    | word :: words => if c == ' ' then [] :: word :: words else (c :: word) :: words
    | [] => [[c]]

/-- A text in lines of some width. -/
def wrap (width : Nat) (s : String) : List String :=
  match cutAtBlanks s.toList with
  | [] => []
  | word :: words =>
    (fillLines width word words).map fun line => String.ofList (trimEnd isBlank line)

/-- How wide a line is at most. -/
def lineWidth : Nat := 78

/-- The blanks before a label. -/
def margin : Nat := 2

/-- So many blanks. -/
def blanks (n : Nat) : String :=
  String.ofList (List.replicate n ' ')

/-- A label, and beside it a text in lines, from some column on. -/
def labelled (column : Nat) (label text : String) : List String :=
  match wrap (lineWidth - margin - column) text with
  | [] => []
  | first :: rest =>
    (blanks margin ++ label ++ blanks (column - label.length) ++ first) ::
      rest.map fun line => blanks (margin + column) ++ line

/-- Labels with their texts in one column, two blanks behind the longest label. -/
def listing (entries : List (String × String)) : List String :=
  let longest := (entries.map fun e => e.1.length).foldl max 0
  entries.flatMap fun e => labelled (longest + 2) e.1 e.2

example : wrap 9 "one two  three  x" = ["one two", "three  x"] := by decide +kernel

end Text

end ServerLaunch
