import TabShell.Session
/-!
# Scripts

A script is a byte string whose lines are commands.  A line without a command is passed over, a
line that is no command is reported and passed over, `quit` ends the script, and so does a line
that is no text: then the script has failed.

* `Script.lines`           the lines of a byte string;
* `ScriptRun`, `Script.run`   what a script makes of a session.
-/

namespace TabShell

open Text

/-- a session after a script, what was printed and what was reported, and whether it failed -/
structure ScriptRun where
  session : Session
  out : String
  err : String
  failed : Bool

namespace Script

/-- a line without the carriage return at its end -/
def chomp (line : List UInt8) : List UInt8 :=
  if line.getLast? = some 0x0D then line.dropLast else line

/-- the lines of a byte string; what follows the last line feed is a line unless it is empty -/
def lines (bytes : List UInt8) : List (List UInt8) :=
  let pieces := bytes.splitOn 0x0A
  (if pieces.getLast? = some [] then pieces.dropLast else pieces).map chomp

/-- what is said of a bad line -/
def report (number : Nat) (e : CommandError) : String :=
  "line " ++ toString number ++ ": " ++ e.message ++ "\n"

/-- lines from a given number on -/
def runFrom (r : ScriptRun) : (number : Nat) → List (List UInt8) → ScriptRun
  | _, [] => r
  | number, line :: rest =>
    match decode? line with
    | none => { r with failed := true }
    | some text =>
      match Command.parseChars text with
      | .error e =>
        runFrom
          { r with
            session := r.session.note [.lineSkipped number e]
            err := r.err ++ report number e }
          (number + 1) rest
      | .ok none => runFrom r (number + 1) rest
      | .ok (some c) =>
        let o := r.session.apply c
        let r := { r with session := o.session, out := r.out ++ o.out }
        if o.goesOn then runFrom r (number + 1) rest else r

/-- a script run in a session -/
def run (s : Session) (bytes : List UInt8) : ScriptRun :=
  runFrom ⟨s, "", "", false⟩ 1 (lines bytes)

end Script

end TabShell
