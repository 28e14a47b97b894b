import TabShell.Text.Blank
import TabShell.Text.Decimal
/-!
# Commands

One command a line: a name, and for some names an argument after it.  Blanks around the line, the
name and the argument do not matter; blank lines and lines that begin with `#` hold no command.

* `Command`, `CommandError`   what a line can mean, and why it can fail to mean anything;
* `Command.parse`             the reading of a line;
* `Command.line`              the plainest line of a command;
* `Command.Canonical`         the commands that some line stands for.
-/

namespace TabShell

open Text

/-- what a line can ask for -/
inductive Command where
  /-- the core has finished loading -/
  | ready
  /-- the list of plugins has arrived -/
  | plugins (ids : List String)
  /-- the user picks a plugin, or none -/
  | select (plugin : Option String)
  | route (path : String)
  | unroute
  /-- the address is edited to have this fragment -/
  | hash (fragment : String)
  | reload (period : UInt64)
  | toggleReload
  /-- print the state -/
  | state
  /-- print the fragment and the length of the history -/
  | location
  | quit
  deriving Repr, DecidableEq

/-- why a line asks for nothing -/
inductive CommandError where
  | unknown (name : String)
  | missingArgument (name : String)
  | invalidPeriod (argument : String)
  deriving Repr, DecidableEq

/-- what is said of a bad line -/
def CommandError.message : CommandError → String
  | unknown name => "Unknown command: " ++ name
  | missingArgument name => "Command \'" ++ name ++ "\' needs an argument"
  | invalidPeriod argument =>
    "Invalid reload period \'" ++ argument ++ "\', expected milliseconds"

namespace Command

/-- the names between commas, without the blanks around them; empty names do not count -/
def splitIds (arg : List Char) : List (List Char) :=
  ((arg.splitOn ',').map trim).filter (· ≠ [])

/-- the command of a name and an argument without blanks around it -/
def ofWords (name arg : List Char) : Except CommandError Command :=
  let text := String.ofList arg
  match String.ofList name with
  | "ready" => .ok ready
  | "plugins" => .ok (plugins ((splitIds arg).map String.ofList))
  | "select" => .ok (select (if arg = [] then none else some text))
  | "route" => if arg = [] then .error (.missingArgument "route") else .ok (route text)
  | "unroute" => .ok unroute
  | "hash" => .ok (hash text)
  | "reload" =>
    if arg = [] then .error (.missingArgument "reload")
    else match word64? arg with
      | some period => .ok (reload period)
      | none => .error (.invalidPeriod text)
  | "toggle-reload" => .ok toggleReload
  | "state" => .ok state
  | "location" => .ok location
  | "quit" => .ok quit
  | "exit" => .ok quit
  | other => .error (.unknown other)

/-- whether a line, trimmed, holds no command -/
def isSilent (line : List Char) : Bool := line.head?.all (· = '#')

/-- the command on a line; none on a silent line -/
def parseChars (line : List Char) : Except CommandError (Option Command) :=
  let line := trim line
  if isSilent line then .ok none
  else (ofWords (splitWord line).1 (trim (splitWord line).2)).map some

/-- the command on a line that is given as a string -/
def parse (line : String) : Except CommandError (Option Command) := parseChars line.toList

/-- a name and an argument, parted by a space -/
def lineOf (name arg : String) : String := name ++ " " ++ arg

/-- the plainest line of a command -/
def line : Command → String
  | ready => "ready"
  | plugins ids => lineOf "plugins" (",".intercalate ids)
  | select none => "select"
  | select (some plugin) => lineOf "select" plugin
  | route path => lineOf "route" path
  | unroute => "unroute"
  | hash fragment => lineOf "hash" fragment
  | reload period => lineOf "reload" (toString period.toNat)
  | toggleReload => "toggle-reload"
  | state => "state"
  | location => "location"
  | quit => "quit"

/-- no blank at either end -/
def Trimmed (s : String) : Prop := trim s.toList = s.toList

/-- what the arguments of a command that was read are like -/
def Canonical : Command → Prop
  | plugins ids => ∀ id ∈ ids, id ≠ "" ∧ ',' ∉ id.toList ∧ Trimmed id
  | select (some plugin) => plugin ≠ "" ∧ Trimmed plugin
  | route path => path ≠ "" ∧ Trimmed path
  | hash fragment => Trimmed fragment
  | _ => True

/-- blanks around a line do not change what it means -/
theorem parseChars_append_blanks {u v : List Char} (hu : ∀ c ∈ u, isBlank c = true)
    (hv : ∀ c ∈ v, isBlank c = true) (line : List Char) :
    parseChars (u ++ line ++ v) = parseChars line := by
  simp only [parseChars, trim_append_blanks hu hv]

end Command

end TabShell
