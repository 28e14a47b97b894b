import TabShell.Config.Lookup
import TabShell.Script
/-!
# The program

One run of the command line: the configuration is looked up, a session is started with it, and a
script is run, from the file that the first argument names or else from the standard input.

* `Invocation`, `Finished`   what a run is given, and what it leaves;
* `Program.run`              the run.
-/

namespace TabShell

/-- the arguments, the standard input, and how much to log -/
structure Invocation where
  surroundings : Surroundings
  args : List String
  input : List UInt8
  logSetting : Option String

/-- the exit code, what was printed, reported and logged, and the files in the end -/
structure Finished where
  code : UInt32
  out : String
  err : String
  log : List LogEntry
  tree : Tree

/-- the text of the log, each entry on a line of its own, or on several if its message has them -/
def Finished.logText (r : Finished) : String := String.join (r.log.map fun e => e.text ++ "\n")

/-- why a run fails; a script that cannot be opened is not run at all -/
inductive Failure where
  | noScript (path : String) (cause : Obstacle)
  | unreadable (cause : Obstacle)
  | notText
  deriving Repr, DecidableEq

/-- what failed -/
def Failure.message : Failure → String
  | noScript path _ => "Failed to open session script: " ++ path
  | unreadable _ | notText => "Failed to read command"

/-- why it failed -/
def Failure.cause : Failure → String
  | noScript _ cause | unreadable cause => cause.message
  | notText => "stream did not contain valid UTF-8"

/-- what failed and why, on one line -/
def Failure.fullMessage (f : Failure) : String := f.message ++ ": " ++ f.cause

/-- the report of a failure -/
def Failure.report (f : Failure) : String :=
  "Error: " ++ f.message ++ "\n\nCaused by:\n    " ++ f.cause ++ "\n"

namespace Program

/-- where events go; without telemetry, nowhere -/
def sinkOf (c : Config) : Sink :=
  if c.telemetryEnabled then .log c.pagePath else .silent

/-- what the log says about telemetry before the session starts -/
def telemetryNotes (c : Config) : List LogEntry :=
  if c.telemetryEnabled then [] else [.telemetryDisabled]

/-- the paths that a run may look at -/
def paths (s : Surroundings) (args : List String) : List String :=
  s.localPaths ++ ((s.ownDir? .config).map Surroundings.fileIn).toList ++ args.take 1

/-- the bytes of the script; a directory can be opened, but not read -/
def scriptOf (i : Invocation) (tree : Tree) : Except Failure (List UInt8) :=
  match i.args with
  | [] => .ok i.input
  | path :: _ =>
    match tree.readBytes i.surroundings.cwd path with
    | .ok bytes => .ok bytes
    | .error .isDirectory => .error (.unreadable .isDirectory)
    | .error cause => .error (.noScript path cause)

/-- a script run in a session, or the failure to run one -/
def runScript (s : Session) : Except Failure (List UInt8) → ScriptRun × Option Failure
  | .ok bytes =>
    let r := Script.run s bytes
    (r, if r.failed then some .notText else none)
  | .error f => (⟨s, "", "", true⟩, some f)

/-- whether the session was over before the run was -/
def exits : Option Failure → Bool
  | some (.noScript _ _) => false
  | _ => true

/-- the configuration looked up, a session started, a script run -/
def run (i : Invocation) : Finished :=
  let verbosity := Verbosity.ofSetting i.logSetting
  let found := Config.load i.surroundings
  let c := found.value
  let (r, failure) := runScript (Session.start c) (scriptOf i found.tree)
  let entries :=
    .starting :: found.entries ++ telemetryNotes c ++
      (sinkOf c).logged (effects r.session.trace) ++ (if exits failure then [.exiting] else [])
  { code := if failure = none then 0 else 1
    out := r.out
    err := r.err ++ (failure.map (·.report)).getD ""
    log := entries.filter verbosity.shows
    tree := found.tree }

end Program

end TabShell
