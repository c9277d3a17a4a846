/-!
# Server Flags as an Option

A user adds a flag of the server to the command line as one text, with the value
behind an equals sign. Only the first such sign counts, for a value may hold more.

## Main definitions

* `splitArgument`: The flag and its value, if it has one.
-/

namespace ServerLaunch

/-- The flag and its value; a text without an equals sign is a flag alone. -/
def splitArgument (raw : String) : String × Option String :=
  let cs := raw.toList
  let flag := String.ofList (cs.takeWhile (· != '='))
  match cs.dropWhile (· != '=') with
  | [] => (flag, none)
  | _ :: value => (flag, some (String.ofList value))

end ServerLaunch
