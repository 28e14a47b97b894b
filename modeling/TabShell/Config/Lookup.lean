import TabShell.Config.Document
import TabShell.Telemetry
/-!
# Where the configuration is

The file of the working directory comes first, then that of the home directory, then that of the
directory for configurations, which is made if it is missing.  The first that holds text is the
one; whether it can be read as a configuration does not matter for that.

* `Surroundings`              the files, the settings of the environment, and what the user database
                              says;
* `Surroundings.homeDir?`     the home directory;
* `Surroundings.baseDir?`     where the directories of a purpose are;
* `Surroundings.ownDir?`, `Surroundings.makeDir`   the shell's own directory for a purpose, named
                              and made;
* `Surroundings.localPaths`   the files that are looked at first;
* `Config.load`               the configuration, the tree afterwards and the entries of the log.
-/

namespace TabShell

/-- what a process finds around it; a setting that is not there is none -/
structure Surroundings where
  tree : Tree
  cwd : Place
  home : Option String
  configHome : Option String
  cacheHome : Option String
  /-- the home directory that the user database has for the user, if it knows the user -/
  userHome : Option String

/-- a result, the tree afterwards and what was logged -/
structure Found (α : Type) where
  value : α
  tree : Tree
  entries : List LogEntry

namespace Surroundings

/-- the name of the shell's own directories -/
def appName : String := "tb-dashboard"

/-- the name of the file in the working directory and in the home directory -/
def configFile : String := ".tb-dashboard.toml"

/-- what the environment has for a purpose -/
def setting (s : Surroundings) : Purpose → Option String
  | .config => s.configHome
  | .cache => s.cacheHome

/-- the setting for a purpose, if it is an absolute path -/
def setting? (s : Surroundings) (p : Purpose) : Option String :=
  (s.setting p).filter fun path => (Path.parse path).absolute

/-- the home directory: that of the environment, or if this is missing or empty that of the user
database -/
def homeDir? (s : Surroundings) : Option String :=
  s.home.filter (· ≠ "") <|> s.userHome.filter (· ≠ "")

/-- the directory of a purpose inside the home directory -/
def underHome (p : Purpose) : String :=
  match p with
  | .config => ".config"
  | .cache => ".cache"

/-- where the directories of a purpose are: where the setting says, else in the home directory -/
def baseDir? (s : Surroundings) (p : Purpose) : Option String :=
  s.setting? p <|> s.homeDir?.map fun home => joinPath home (underHome p)

/-- the path of the shell's own directory for a purpose -/
def ownDir? (s : Surroundings) (p : Purpose) : Option String :=
  (s.baseDir? p).map fun base => joinPath base appName

/-- the path of the shell's file in a directory for configurations -/
def fileIn (directory : String) : String := joinPath directory "config.toml"

/-- the paths of the files in the working directory and in the home directory -/
def localPaths (s : Surroundings) : List String :=
  configFile :: (s.home.map fun home => joinPath home configFile).toList

/-- the path of the shell's own directory for a purpose, if it is there in the end, and the tree
afterwards -/
def makeDir (s : Surroundings) (p : Purpose) : Except LocationError String × Tree :=
  match s.ownDir? p with
  | none => (.error (.undetermined p), s.tree)
  | some path =>
    match s.tree.makeDirectories s.cwd path with
    | (tree, none) => (.ok path, tree)
    | (tree, some cause) => (.error (.notCreated p path cause), tree)

/-- the path of the shell's file in the directory for configurations, if that directory is there in
the end, and the tree afterwards -/
def globalConfig (s : Surroundings) : Except LocationError String × Tree :=
  ((s.makeDir .config).1.map fileIn, (s.makeDir .config).2)

/-- the path and the text of the first of them that holds text -/
def localConfig? (s : Surroundings) : Option (String × String) :=
  s.localPaths.findSome? fun path => (s.tree.readText? s.cwd path).map fun text => (path, text)

/-- the text of the configuration, if there is one -/
def configText (s : Surroundings) : Found (Option String) :=
  match s.localConfig? with
  | some (path, text) => ⟨some text, s.tree, [.configFound path]⟩
  | none =>
    match s.globalConfig with
    | (.error cause, tree) => ⟨none, tree, [.noConfigLocation cause]⟩
    | (.ok path, tree) =>
      match tree.readText? s.cwd path with
      | some text => ⟨some text, tree, [.configFound path]⟩
      | none => ⟨none, tree, []⟩

end Surroundings

/-- the configuration of a text that may be missing or bad; then it is the default -/
def Config.ofText (text : Option String) : Config × List LogEntry :=
  match text with
  | none => (Config.default, [.configDefaulted])
  | some text =>
    match Config.parse? text with
    | some c => (c, [.configAccepted])
    | none => (Config.default, [.configRejected, .configDefaulted])

/-- the configuration that a process runs with -/
def Config.load (s : Surroundings) : Found Config :=
  let found := s.configText
  let c := Config.ofText found.value
  ⟨c.1, found.tree, found.entries ++ c.2⟩

end TabShell
