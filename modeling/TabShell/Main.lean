import TabShell.Program
/-!
# The command line

What the program finds around it goes into a `Tree`, `Program.run` makes its answer of that, and
the answer is put into effect.
-/

namespace TabShell.Main

/-- the absolute path of a place -/
def pathOf (at_ : Place) : String := "/" ++ "/".intercalate at_

/-- what is at a path -/
def look (path : String) : IO (Option Node) := do
  match ← (IO.FS.realPath path).toBaseIO with
  | .error _ => pure none
  | .ok path =>
    if ← path.isDir then pure (some .directory)
    else match ← (IO.FS.readBinFile path).toBaseIO with
      | .ok content => pure (some (.file content.toList))
      | .error _ => pure none

/-- what is at some places -/
def survey (places : List Place) : IO Tree := do
  let found ← places.eraseDups.mapM fun at_ => do
    pure ((← look (pathOf at_)).map fun node => (at_, node))
  pure ⟨found.filterMap id⟩

/-- the lines of a file, none if it cannot be read -/
def linesOf (path : String) : IO (List String) := do
  match ← (IO.FS.readFile path).toBaseIO with
  | .ok text => pure (text.splitOn "\n")
  | .error _ => pure []

/-- the number of the user, from what the system tells of the process -/
def userNumber? (status : List String) : Option String :=
  (status.find? (·.startsWith "Uid:")).bind fun line => (line.splitOn "\t")[1]?

/-- the home directory of a user, from the lines of the user database -/
def homeOf? (users : List String) (number : String) : Option String :=
  users.findSome? fun line =>
    match line.splitOn ":" with
    | [_, _, user, _, _, home, _] => if user = number then some home else none
    | _ => none

/-- the settings of the environment, and the part of the disk that a run may look at -/
def surroundings (args : List String) : IO Surroundings := do
  let bare : Surroundings :=
    { tree := ⟨[]⟩
      cwd := (Path.parse (← IO.currentDir).toString).names
      home := ← IO.getEnv "HOME"
      configHome := ← IO.getEnv "XDG_CONFIG_HOME"
      cacheHome := ← IO.getEnv "XDG_CACHE_HOME"
      userHome := (userNumber? (← linesOf "/proc/self/status")).bind
        (homeOf? (← linesOf "/etc/passwd")) }
  let tree ← survey ((Program.paths bare args).flatMap (Tree.wayTo bare.cwd))
  pure { bare with tree }

/-- the log, in the working directory -/
def logPath : String := Surroundings.appName ++ ".log"

/-- what a run leaves, put into effect -/
def finish (before : Tree) (r : Finished) : IO Unit := do
  for (at_, _) in r.tree.entries.filter fun e => (before.node? e.1).isNone do
    IO.FS.createDirAll (pathOf at_)
  IO.FS.writeFile logPath r.logText
  IO.print r.out
  IO.eprint r.err

end TabShell.Main

/-- one run of the program -/
def main (args : List String) : IO UInt32 := do
  IO.eprintln ("Logging to " ++ TabShell.Main.logPath)
  let surroundings ← TabShell.Main.surroundings args
  let input ← if args.isEmpty then (← IO.getStdin).readBinToEnd else pure ByteArray.empty
  let finished := TabShell.Program.run
    { surroundings, args, input := input.toList, logSetting := ← IO.getEnv "RUST_LOG" }
  TabShell.Main.finish surroundings.tree finished
  pure finished.code
