import TabShell.Text.Utf8
import TabShell.Text.Quoted
/-!
# A tree of files

Directories and files under one root, without links.  An entry is known by its `Place`, the names
that lead to it from the root.  Programs name entries by paths, which are resolved name by name:
`.` stays, `..` goes up, and every name but the last must be a directory.  Neither a name nor a
path may be longer than its limit.

* `Tree`, `Tree.node?`             the entries and what is at a place;
* `Path.parse`, `joinPath`         a path's names, and a name added to a path;
* `Path.read`                      a path's names, unless it is too long;
* `Tree.find`, `Tree.readText?`    what a path leads to, and its text;
* `Tree.makeDirectories`           all directories of a path that are missing;
* `Tree.Within`                    everything in one tree is in another.

`within_makeNames` says that making directories takes nothing away.
-/

namespace TabShell

open Text

/-- the names that lead from the root to an entry -/
abbrev Place := List String

/-- what is at a place -/
inductive Node where
  | file (content : List UInt8)
  | directory
  deriving Repr, DecidableEq

/-- every entry but the root, which is always a directory -/
structure Tree where
  entries : List (Place × Node)
  deriving Repr

/-- why a path does not lead where it should -/
inductive Obstacle where
  | missing
  | alreadyThere
  | notDirectory
  | isDirectory
  | tooLong
  deriving Repr, DecidableEq

/-- the operating system's words and number for an obstacle -/
def Obstacle.message : Obstacle → String
  | missing => "No such file or directory (os error 2)"
  | alreadyThere => "File exists (os error 17)"
  | notDirectory => "Not a directory (os error 20)"
  | isDirectory => "Is a directory (os error 21)"
  | tooLong => "File name too long (os error 36)"

/-- the most bytes that a name may have -/
def nameLimit : Nat := 255

/-- the most bytes that a path may have -/
def pathLimit : Nat := 4095

/-- a path: whether it starts at the root, its names, and whether it ends in a slash -/
structure Path where
  absolute : Bool
  names : List String
  slashed : Bool
  deriving Repr, DecidableEq

/-- names are parted by one slash or more -/
def Path.parse (text : String) : Path where
  absolute := text.toList.head? = some '/'
  names := ((text.toList.splitOn '/').filter (· ≠ [])).map String.ofList
  slashed := text.toList.getLast? = some '/'

/-- the path that a text is, unless it is too long to be followed -/
def Path.read (text : String) : Except Obstacle Path :=
  if (utf8 text.toList).length ≤ pathLimit then .ok (Path.parse text) else .error .tooLong

/-- the path of a name inside a directory -/
def joinPath (directory name : String) : String :=
  if directory.toList = [] ∨ directory.toList.getLast? = some '/' then directory ++ name
  else directory ++ "/" ++ name

namespace Tree

/-- what is at a place; the root is always there -/
def node? (t : Tree) (at_ : Place) : Option Node :=
  if at_ = [] then some .directory else t.entries.lookup at_

/-- what has a name in a directory -/
def lookUp (t : Tree) (at_ : Place) (name : String) : Except Obstacle (Option Node) :=
  if (utf8 name.toList).length ≤ nameLimit then .ok (t.node? (at_ ++ [name]))
  else .error .tooLong

/-- one name further from a directory -/
def enter (t : Tree) (at_ : Place) (name : String) : Except Obstacle Place :=
  if name = "." then .ok at_
  else if name = ".." then .ok at_.dropLast
  else do
    match ← t.lookUp at_ name with
    | some .directory => pure (at_ ++ [name])
    | some (.file _) => .error .notDirectory
    | none => .error .missing

/-- the directory that a list of names leads to -/
def enterAll (t : Tree) (at_ : Place) (names : List String) : Except Obstacle Place :=
  names.foldlM t.enter at_

/-- where the names of a path start -/
def origin (cwd : Place) (path : Path) : Place := if path.absolute then [] else cwd

/-- one name further, whatever is there -/
def step (at_ : Place) (name : String) : Place :=
  if name = "." then at_ else if name = ".." then at_.dropLast else at_ ++ [name]

/-- the places on the way to the end of a path, the end with them -/
def wayTo (cwd : Place) (path : String) : List Place :=
  let path := Path.parse path
  (path.names.foldl
    (fun (at_, seen) name => (step at_ name, seen ++ [step at_ name]))
    (origin cwd path, [])).2

/-- what a path leads to -/
def find (t : Tree) (cwd : Place) (path : Path) : Except Obstacle Node :=
  match path.names.getLast? with
  | none => if path.absolute then .ok .directory else .error .missing
  | some name => do
    let parent ← t.enterAll (origin cwd path) path.names.dropLast
    if name = "." ∨ name = ".." then pure .directory
    else match ← t.lookUp parent name with
      | none => .error .missing
      | some .directory => pure .directory
      | some (.file content) =>
        if path.slashed then .error .notDirectory else pure (.file content)

/-- the bytes of the file that a path leads to -/
def readBytes (t : Tree) (cwd : Place) (path : String) : Except Obstacle (List UInt8) := do
  match ← t.find cwd (← Path.read path) with
  | .file content => pure content
  | .directory => .error .isDirectory

/-- the text of the file that a path leads to, if it is one and holds text -/
def readText? (t : Tree) (cwd : Place) (path : String) : Option String :=
  match t.readBytes cwd path with
  | .ok content => (decode? content).map String.ofList
  | .error _ => none

/-- an entry more -/
def insert (t : Tree) (at_ : Place) (n : Node) : Tree := ⟨t.entries ++ [(at_, n)]⟩

/-- every name of a path gone through if it is a directory, and made one if it is missing, until an
obstacle stands in the way; what was made before it stays.  Once a name was missing, every name is
one to be made (`making`), and so is the last one anyway: a file of such a name is found already
there, and any other file is no directory. -/
def makeNames (t : Tree) (at_ : Place) (making : Bool) : List String → Tree × Option Obstacle
  | [] => (t, none)
  | name :: rest =>
    if name = "." then t.makeNames at_ making rest
    else if name = ".." then t.makeNames at_.dropLast making rest
    else match t.lookUp at_ name with
      | .error e => (t, some e)
      | .ok (some .directory) => t.makeNames (at_ ++ [name]) making rest
      | .ok (some (.file _)) =>
        (t, some (if making = true ∨ rest = [] then .alreadyThere else .notDirectory))
      | .ok none => (t.insert (at_ ++ [name]) .directory).makeNames (at_ ++ [name]) true rest

/-- all directories on the way to a path, and it, as far as they are missing -/
def makeDirectories (t : Tree) (cwd : Place) (path : String) : Tree × Option Obstacle :=
  match Path.read path with
  | .error e => (t, some e)
  | .ok path => t.makeNames (origin cwd path) false path.names

/-- the entries below a place by their names from there, a slash after those of directories, in
the order of their bytes -/
def listing (t : Tree) (root : Place) : List String :=
  let below := t.entries.filter fun e => root.isPrefixOf e.1 && decide (e.1 ≠ root)
  let names := below.map fun e =>
    "/".intercalate (e.1.drop root.length) ++ (match e.2 with | .directory => "/" | .file _ => "")
  names.mergeSort fun a b => decide (utf8 a.toList ≤ utf8 b.toList)

/-! ## nothing is taken away -/

/-- everything in one tree is in the other -/
def Within (s t : Tree) : Prop := ∀ at_ n, s.node? at_ = some n → t.node? at_ = some n

theorem Within.refl (t : Tree) : Within t t := fun _ _ h => h

theorem Within.trans {r s t : Tree} (h : Within r s) (h' : Within s t) : Within r t :=
  fun at_ n hn => h' at_ n (h at_ n hn)

theorem within_insert {t : Tree} (at_ : Place) (n : Node) : Within t (t.insert at_ n) := by
  intro p m hm
  unfold node? at hm ⊢
  split
  · simpa [*] using hm
  · rename_i hp
    rw [if_neg hp] at hm
    simp [insert, List.lookup_append, hm]

/-- making directories takes nothing away, whether it succeeds or not -/
theorem within_makeNames (t : Tree) (at_ : Place) (making : Bool) (names : List String) :
    Within t (t.makeNames at_ making names).1 := by
  fun_induction makeNames t at_ making names with
  | case1 t => exact Within.refl t
  | case2 _ _ _ _ ih => exact ih
  | case3 _ _ _ _ _ ih => exact ih
  | case4 t => exact Within.refl t
  | case5 _ _ _ _ _ _ _ _ ih => exact ih
  | case6 t => exact Within.refl t
  | case7 _ _ _ _ _ _ _ _ ih => exact (within_insert _ _).trans ih

end Tree

end TabShell
