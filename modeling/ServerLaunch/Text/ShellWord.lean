/-!
# Words of a Shell

A command line that a shell reads as a given list of words.

A word without special characters is written as it is, and any other between
single quotes, inside which everything stands for itself. Only a single quote
cannot stand there; it is written by closing the quotes, putting one single quote
between double quotes, and opening them again.

Reading follows the rules of a shell for words: blanks separate them, single quotes take
everything literally, double quotes let a backslash escape a few characters, and elsewhere
a backslash escapes any character. Nothing is expanded. Readers differ in which characters
separate words, and in what a backslash does, so the reader takes its rules as an argument.

A line that is being typed may end inside quotes. Its last word is then as long as it is.

## Main definitions

* `isSafe`: Characters that need no quotes.
* `quoteWord`, `joinWords`: Writing.
* `Rules`: What readers differ in.
* `splitWords?`: Reading; `none` if a quote or a backslash is left open.
* `typedWords`: Reading a line that is being typed.
-/

namespace ServerLaunch

namespace ShellWord

/-- Characters that no shell gives a meaning to inside a word. -/
def isSafe (c : Char) : Bool :=
  c.isAlphanum || c == '_' || c == '@' || c == '%' || c == '+' || c == '=' || c == ':' ||
    c == ',' || c == '.' || c == '/' || c == '-'

/-- One character between single quotes. -/
def quoteChar (c : Char) : List Char :=
  if c == '\'' then ['\'', '"', '\'', '"', '\''] else [c]

/-- A word as it is written on the command line. -/
def quoteWord (word : List Char) : List Char :=
  if word.isEmpty then ['\'', '\'']
  else if word.all isSafe then word
  else '\'' :: (word.flatMap quoteChar ++ ['\''])

/-- The words, each in its written form, with one blank between two of them. -/
def joinChars : List (List Char) → List Char
  | [] => []
  | [word] => quoteWord word
  | word :: rest => quoteWord word ++ ' ' :: joinChars rest

/-- The command line of a list of words. -/
def joinWords (words : List String) : String :=
  String.ofList (joinChars (words.map String.toList))

/-- Where a reader stands: between or inside words, inside quotes of either kind,
    or behind a backslash. -/
inductive Mode where
  | plain
  | single
  | double
  | escape
  | doubleEscape
deriving DecidableEq, Repr

/-- What readers differ in: characters that separate words outside quotes; characters that a
    backslash between double quotes escapes, before any other it stands for itself; and
    whether a backslash at the end of a line joins it to the next. -/
structure Rules where
  isSeparator : Char → Bool
  isEscapable : Char → Bool
  joinsLines : Bool

/-- The rules of a POSIX shell. -/
def Rules.posix : Rules where
  isSeparator c := c == ' ' || c == '\t' || c == '\n'
  isEscapable c := c == '"' || c == '\\' || c == '$' || c == '\x60'
  joinsLines := true

/-- The rules for a line that is being typed: it is a single one, and nothing in it will be
    expanded. -/
def Rules.typed : Rules where
  isSeparator c := c == ' ' || c == '\t' || c == '\n' || c == '\r'
  isEscapable c := c == '"' || c == '\\'
  joinsLines := false

/-- Ends the current word, if there is one, in front of further words. -/
def endWord (current : Option (List Char)) (words : List (List Char)) : List (List Char) :=
  match current with
  | none => words
  | some reversed => reversed.reverse :: words

/-- Adds a character to the current word, beginning one if there is none. -/
def addChar (current : Option (List Char)) (c : Char) : Option (List Char) :=
  some (c :: current.getD [])

/-- The words of a line, and whether it ends outside quotes and not behind a backslash. -/
structure Reading where
  words : List (List Char)
  isComplete : Bool
deriving DecidableEq, Repr

/-- A reading with a word ended in front of it, if there is one. -/
def Reading.after (current : Option (List Char)) (r : Reading) : Reading :=
  { r with words := endWord current r.words }

/-- Reads on in a mode with the current word, last character first. -/
def readFrom (rules : Rules) (mode : Mode) (current : Option (List Char)) : List Char → Reading
  | [] => ⟨endWord current [], mode = .plain⟩
  | c :: rest =>
    match mode with
    | .plain =>
      if rules.isSeparator c then (readFrom rules .plain none rest).after current
      else if c == '\'' then readFrom rules .single (some (current.getD [])) rest
      else if c == '"' then readFrom rules .double (some (current.getD [])) rest
      else if c == '\\' then readFrom rules .escape (some (current.getD [])) rest
      else readFrom rules .plain (addChar current c) rest
    | .single =>
      if c == '\'' then readFrom rules .plain current rest
      else readFrom rules .single (addChar current c) rest
    | .double =>
      if c == '"' then readFrom rules .plain current rest
      else if c == '\\' then readFrom rules .doubleEscape current rest
      else readFrom rules .double (addChar current c) rest
    | .escape =>
      if c == '\n' && rules.joinsLines then readFrom rules .plain current rest
      else readFrom rules .plain (addChar current c) rest
    | .doubleEscape =>
      if c == '\n' && rules.joinsLines then readFrom rules .double current rest
      else if rules.isEscapable c then readFrom rules .double (addChar current c) rest
      else readFrom rules .double (addChar (addChar current '\\') c) rest

/-- The words of a command line. -/
def splitWords? (line : List Char) : Option (List (List Char)) :=
  let reading := readFrom .posix .plain none line
  if reading.isComplete then some reading.words else none

/-- The words of a line that is being typed. -/
def typedWords (line : String) : List String :=
  (readFrom .typed .plain none line.toList).words.map String.ofList

example : splitWords? "a 'b c' \"d\"".toList = some [['a'], ['b', ' ', 'c'], ['d']] := by decide
example : splitWords? "a 'b".toList = none := by decide
example : typedWords "a 'b" = ["a", "b"] := by decide +kernel

end ShellWord

end ServerLaunch
