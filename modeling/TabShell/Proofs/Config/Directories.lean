import TabShell.Proofs.Config.Search
/-!
# The directories that configuration makes

Whoever asks for the shell's own directory may make directories, and a search for a configuration
asks for it if it has found nothing before.  In a tree in which every entry is in a directory, and
under settings that go down all along, nothing else happens to the tree, and it happens once.

* `Surroundings.Ordinary`   such a tree and such settings;
* `Surroundings.Extends`    a tree with more directories, all of them on the way to the own one;
* `makeDir_cases`           the ways in which asking for the directory can end;
* `extends_makeDir`, `makeDir_complete`, `makeDir_stopped`, `makeDir_again`   what they have in
                            common;
* `tree_load_of_none`, `load_again`   what a search makes of the tree, and of what it has made;
* `load_extends`            all together.
-/

namespace TabShell

open Text

namespace Surroundings

/-- a tree in which every entry is in a directory, the working directory in it, and settings whose
paths go down all along, as does that of the home directory, wherever it is known from -/
structure Ordinary (s : Surroundings) : Prop where
  closed : s.tree.Closed
  here : s.tree.node? s.cwd = some .directory
  down : ∀ path, s.home = some path ∨ s.homeDir? = some path ∨ s.configHome = some path ∨
    s.cacheHome = some path → Tree.Down (Path.parse path).names

/-- a tree in which nothing is missing or changed, and all that is new are directories on the way to
the shell's own one -/
structure Extends (s : Surroundings) (purpose : Purpose) (t : Tree) : Prop where
  kept : s.tree.Within t
  added : ∀ place n, t.node? place = some n → s.tree.node? place = none →
    n = .directory ∧ ∃ path, s.ownDir? purpose = some path ∧ place ∈ Tree.wayTo s.cwd path

theorem Extends.refl (s : Surroundings) (purpose : Purpose) : Extends s purpose s.tree where
  kept := .refl s.tree
  added _ _ h h' := nomatch h.symm.trans h'

variable {s : Surroundings} {purpose : Purpose} {path : String}

/-! ## paths -/

theorem Ordinary.origin (h : s.Ordinary) (path : Path) :
    s.tree.node? (Tree.origin s.cwd path) = some .directory := by
  unfold Tree.origin
  split
  · rfl
  · exact h.here

theorem Ordinary.setting (h : s.Ordinary) (hset : s.setting? purpose = some path) :
    Tree.Down (Path.parse path).names := by
  obtain ⟨-, -, hset⟩ := setting?_eq_some_iff.mp hset
  cases purpose with
  | config => exact h.down path (.inr (.inr (.inl hset)))
  | cache => exact h.down path (.inr (.inr (.inr hset)))

theorem Ordinary.baseDir (h : s.Ordinary) (hbase : s.baseDir? purpose = some path) :
    Tree.Down (Path.parse path).names := by
  unfold baseDir? at hbase
  cases hset : s.setting? purpose with
  | some set =>
    rw [hset] at hbase
    exact h.setting (hset.trans hbase)
  | none =>
    rw [hset] at hbase
    obtain ⟨home, hhome, rfl⟩ := Option.map_eq_some_iff.mp hbase
    rw [names_joinPath]
    refine (h.down home (.inr (.inl hhome))).append ?_
    cases purpose <;> decide

theorem Ordinary.ownDir (h : s.Ordinary) (hown : s.ownDir? purpose = some path) :
    Tree.Down (Path.parse path).names := by
  obtain ⟨base, hbase, rfl⟩ := Option.map_eq_some_iff.mp hown
  rw [names_joinPath]
  exact (h.baseDir hbase).append (by decide)

theorem Ordinary.localPath (h : s.Ordinary) (hpath : path ∈ s.localPaths) :
    Tree.Down (Path.parse path).names := by
  rcases List.mem_cons.mp hpath with rfl | hpath
  · decide
  · obtain ⟨home, hhome, rfl⟩ := Option.map_eq_some_iff.mp (Option.mem_toList.mp hpath)
    rw [names_joinPath]
    exact (h.down home (.inl hhome)).append (by decide)

/-! ## the own directory -/

/-- there is no path to it, or one that is too long, or its names are walked down -/
theorem makeDir_cases (h : s.Ordinary) (purpose : Purpose) :
    s.ownDir? purpose = none ∧
      (∀ u, { s with tree := u }.makeDir purpose = (.error (.undetermined purpose), u)) ∨
    ∃ path, s.ownDir? purpose = some path ∧
      ((∀ u, { s with tree := u }.makeDir purpose =
          (.error (.notCreated purpose path .tooLong), u)) ∨
        ∃ made, s.makeDir purpose = (answer purpose path made.2, made.1) ∧
          Tree.Makes s.tree (Tree.origin s.cwd (Path.parse path)) false (Path.parse path).names
            made ∧
          ∀ u, made.1.Within u →
            { s with tree := u }.makeDir purpose = (answer purpose path made.2, u)) := by
  cases hown : s.ownDir? purpose with
  | none => exact .inl ⟨rfl, fun u => makeDir_of_none (s := { s with tree := u }) hown⟩
  | some path =>
    refine .inr ⟨path, rfl, ?_⟩
    have hmakeDir : ∀ u : Tree, { s with tree := u }.makeDir purpose =
        (answer purpose path (u.makeDirectories s.cwd path).2,
          (u.makeDirectories s.cwd path).1) :=
      fun u => makeDir_of_some (s := { s with tree := u }) hown
    by_cases hlength : (utf8 path.toList).length ≤ pathLimit
    · have hmakes := Tree.makes_makeNames h.closed (h.origin (Path.parse path)) false
        (h.ownDir hown)
      refine .inr ⟨_, ?_, hmakes, fun u hu => ?_⟩
      · rw [← Tree.makeDirectories_of_short hlength]
        exact hmakeDir s.tree
      · rw [hmakeDir, Tree.makeDirectories_of_short hlength, hmakes.again u hu false (.inl rfl)]
    · refine .inl fun u => ?_
      rw [hmakeDir, Tree.makeDirectories_of_long hlength]
      rfl

theorem extends_makeDir (h : s.Ordinary) (purpose : Purpose) :
    Extends s purpose (s.makeDir purpose).2 := by
  rcases makeDir_cases h purpose with ⟨-, hmade⟩ | ⟨path, hown, hmade | ⟨made, hmade, hmakes, -⟩⟩
  · rw [hmade s.tree]
    exact .refl s purpose
  · rw [hmade s.tree]
    exact .refl s purpose
  · rw [hmade]
    refine ⟨hmakes.kept, fun place n hn hnew => ?_⟩
    obtain ⟨hn, hplace⟩ := hmakes.added place n hn hnew
    exact ⟨hn, path, hown, by rwa [Tree.wayTo_eq]⟩

/-- if it is given, all directories on the way are there -/
theorem makeDir_complete (h : s.Ordinary) (hok : (s.makeDir purpose).1 = .ok path) :
    s.ownDir? purpose = some path ∧
      ∀ place ∈ Tree.wayTo s.cwd path, (s.makeDir purpose).2.node? place = some .directory := by
  have hown := (makeDir_eq_ok.mp hok).1
  refine ⟨hown, fun place hplace => ?_⟩
  rcases makeDir_cases h purpose with ⟨hnone, -⟩ | ⟨path', hown', hmade | ⟨made, hmade, hmakes, -⟩⟩
  · exact nomatch hown.symm.trans hnone
  · rw [hmade s.tree] at hok
    cases hok
  · cases Option.some.inj (hown.symm.trans hown')
    rw [hmade] at hok ⊢
    cases hfailed : made.2 with
    | none =>
      rw [Tree.wayTo_eq] at hplace
      exact hmakes.complete hfailed place hplace
    | some cause =>
      rw [hfailed] at hok
      cases hok

/-- if a file was in the way, nothing was made -/
theorem makeDir_blocked (h : s.Ordinary) {cause : Obstacle}
    (hfailed : (s.makeDir purpose).1 = .error (.notCreated purpose path cause))
    (hcause : cause = .alreadyThere ∨ cause = .notDirectory) :
    (s.makeDir purpose).2 = s.tree := by
  rcases makeDir_cases h purpose with ⟨-, hmade⟩ | ⟨_, -, hmade | ⟨made, hmade, hmakes, -⟩⟩
  · rw [hmade s.tree]
  · rw [hmade s.tree]
  · rw [hmade] at hfailed ⊢
    cases hobstacle : made.2 with
    | none =>
      rw [hobstacle] at hfailed
      cases hfailed
    | some e =>
      rw [hobstacle] at hfailed
      cases hfailed
      rcases hmakes.failed cause hobstacle with rfl | ⟨-, hsame, -⟩
      · rcases hcause with hcause | hcause <;> cases hcause
      · exact hsame

/-- a file on the way is in the way -/
theorem makeDir_stopped (h : s.Ordinary) (hown : s.ownDir? purpose = some path)
    (hfile : ∃ place ∈ Tree.wayTo s.cwd path, ∃ content,
      s.tree.node? place = some (.file content)) :
    (s.makeDir purpose).2 = s.tree ∧ ∃ e, (s.makeDir purpose).1 = .error e := by
  rcases makeDir_cases h purpose with ⟨hnone, -⟩ | ⟨path', hown', hmade | ⟨made, hmade, hmakes, -⟩⟩
  · exact nomatch hown.symm.trans hnone
  · rw [hmade s.tree]
    exact ⟨rfl, _, rfl⟩
  · cases Option.some.inj (hown.symm.trans hown')
    rw [Tree.wayTo_eq] at hfile
    obtain ⟨hfailed, hsame⟩ := hmakes.stopped hfile
    rw [hmade]
    refine ⟨hsame, ?_⟩
    cases hobstacle : made.2 with
    | none => exact absurd hobstacle hfailed
    | some e => exact ⟨_, rfl⟩

/-- whoever asks again is told the same, and nothing more is made -/
theorem makeDir_again (h : s.Ordinary) {u : Tree} (hu : (s.makeDir purpose).2.Within u) :
    { s with tree := u }.makeDir purpose = ((s.makeDir purpose).1, u) := by
  rcases makeDir_cases h purpose with ⟨-, hmade⟩ | ⟨_, -, hmade | ⟨made, hmade, -, hagain⟩⟩
  · rw [hmade u, hmade s.tree]
  · rw [hmade u, hmade s.tree]
  · rw [hmade] at hu ⊢
    exact hagain u hu

theorem closed_makeDir (h : s.Ordinary) (purpose : Purpose) : (s.makeDir purpose).2.Closed := by
  rcases makeDir_cases h purpose with ⟨-, hmade⟩ | ⟨_, -, hmade | ⟨made, hmade, hmakes, -⟩⟩
  · rw [hmade s.tree]
    exact h.closed
  · rw [hmade s.tree]
    exact h.closed
  · rw [hmade]
    exact hmakes.closed

/-! ## the search -/

/-- directories more are no texts more -/
theorem readText?_makeDir (h : s.Ordinary) (purpose : Purpose)
    (hdown : Tree.Down (Path.parse path).names) :
    (s.makeDir purpose).2.readText? s.cwd path = s.tree.readText? s.cwd path := by
  have hextends := extends_makeDir h purpose
  have horigin := h.origin (Path.parse path)
  refine Tree.readText?_of_files (closed_makeDir h purpose) h.closed (fun place content => ?_) hdown
    (hextends.kept _ _ horigin) horigin
  refine ⟨fun hfile => ?_, hextends.kept place _⟩
  cases hold : s.tree.node? place with
  | none => exact nomatch (hextends.added place _ hfile hold).1
  | some n => rw [← hextends.kept place n hold, hfile]

theorem localConfig?_eq_none :
    s.localConfig? = none ↔ ∀ path ∈ s.localPaths, s.tree.readText? s.cwd path = none := by
  unfold localConfig?
  rw [List.findSome?_eq_none_iff]
  simp only [Option.map_eq_none_iff]

theorem configText_of_some {found : String × String} (h : s.localConfig? = some found) :
    s.configText = ⟨some found.2, s.tree, [.configFound found.1]⟩ := by
  simp only [configText, h]

theorem configText_of_none (h : s.localConfig? = none) :
    s.configText =
      match s.globalConfig with
      | (.error cause, tree) => ⟨none, tree, [.noConfigLocation cause]⟩
      | (.ok path, tree) =>
        match tree.readText? s.cwd path with
        | some text => ⟨some text, tree, [.configFound path]⟩
        | none => ⟨none, tree, []⟩ := by
  unfold configText
  split
  · next hfound => cases h.symm.trans hfound
  · rfl

theorem tree_load_of_some {found : String × String} (h : s.localConfig? = some found) :
    (Config.load s).tree = s.tree := by
  show s.configText.tree = s.tree
  rw [configText_of_some h]

theorem tree_load_of_none (h : s.localConfig? = none) :
    (Config.load s).tree = (s.makeDir .config).2 := by
  show s.configText.tree = _
  rw [configText_of_none h]
  unfold globalConfig
  rcases s.makeDir .config with ⟨cause | directory, tree⟩
  · rfl
  · show Found.tree (match tree.readText? s.cwd (fileIn directory) with
      | some text => ⟨some text, tree, [.configFound (fileIn directory)]⟩
      | none => ⟨none, tree, []⟩) = tree
    cases tree.readText? s.cwd (fileIn directory) <;> rfl

theorem globalConfig_again (h : s.Ordinary) {u : Tree} (hu : s.globalConfig.2.Within u) :
    { s with tree := u }.globalConfig = (s.globalConfig.1, u) := by
  have hagain : { s with tree := u }.makeDir .config = ((s.makeDir .config).1, u) :=
    makeDir_again h hu
  unfold globalConfig
  rw [hagain]

/-- a search in the tree that a search has left finds the same and leaves it as it is -/
theorem load_again (h : s.Ordinary) :
    Config.load { s with tree := (Config.load s).tree } = Config.load s := by
  cases hlocal : s.localConfig? with
  | some found => rw [tree_load_of_some hlocal]
  | none =>
    have htree := tree_load_of_none hlocal
    have hlocal' : { s with tree := (s.makeDir .config).2 }.localConfig? = none := by
      refine localConfig?_eq_none.mpr fun path hpath => ?_
      show (s.makeDir .config).2.readText? s.cwd path = none
      rw [readText?_makeDir h .config (h.localPath hpath)]
      exact localConfig?_eq_none.mp hlocal path hpath
    have hglobal : { s with tree := (s.makeDir .config).2 }.globalConfig = s.globalConfig :=
      globalConfig_again h (.refl _)
    have htext : { s with tree := (s.makeDir .config).2 }.configText = s.configText := by
      rw [configText_of_none hlocal', configText_of_none hlocal, hglobal]
    rw [htree]
    unfold Config.load
    rw [htext]

end Surroundings

open Surroundings

/-- **Configuration makes its own directories and touches nothing else.**  The shell's own directory
for a purpose is in the one that the environment has for the purpose if that is an absolute path,
else in the home directory, of the environment or else of the user database.  Asking for it takes
nothing from the tree and changes nothing in it; what is new are directories on the way to the own
one, all that were missing if it is given, and none if a file is in the way.  Whoever asks again, of
this tree or of one with more in it, is told the same and makes nothing; it is so with the path of
the configuration in that directory, too.  A search for a configuration makes nothing if it finds a
text in the working or in the home directory, else what asking for the directory makes; and a second
search finds the same and makes nothing. -/
theorem load_extends (s : Surroundings) (h : s.Ordinary) :
    (∀ directory, s.ownDir? .config = some directory ↔ s.Owns s.configHome ".config" directory) ∧
    (∀ directory, s.ownDir? .cache = some directory ↔ s.Owns s.cacheHome ".cache" directory) ∧
    (∀ purpose,
      Extends s purpose (s.makeDir purpose).2 ∧
      (∀ path, (s.makeDir purpose).1 = .ok path → s.ownDir? purpose = some path ∧
        ∀ place ∈ Tree.wayTo s.cwd path, (s.makeDir purpose).2.node? place = some .directory) ∧
      (∀ path cause, (s.makeDir purpose).1 = .error (.notCreated purpose path cause) →
        cause = .alreadyThere ∨ cause = .notDirectory → (s.makeDir purpose).2 = s.tree) ∧
      (∀ path, s.ownDir? purpose = some path →
        (∃ place ∈ Tree.wayTo s.cwd path, ∃ content, s.tree.node? place = some (.file content)) →
        (s.makeDir purpose).2 = s.tree ∧ ∃ e, (s.makeDir purpose).1 = .error e) ∧
      ∀ u, (s.makeDir purpose).2.Within u →
        { s with tree := u }.makeDir purpose = ((s.makeDir purpose).1, u)) ∧
    s.globalConfig.2 = (s.makeDir .config).2 ∧
    (∀ u, s.globalConfig.2.Within u →
      { s with tree := u }.globalConfig = (s.globalConfig.1, u)) ∧
    Extends s .config (Config.load s).tree ∧
    ((∃ path ∈ s.localPaths, s.tree.readText? s.cwd path ≠ none) →
      (Config.load s).tree = s.tree) ∧
    ((∀ path ∈ s.localPaths, s.tree.readText? s.cwd path = none) →
      (Config.load s).tree = (s.makeDir .config).2) ∧
    Config.load { s with tree := (Config.load s).tree } = Config.load s := by
  refine ⟨fun _ => ownDir?_eq_some_iff, fun _ => ownDir?_eq_some_iff,
    fun purpose => ⟨extends_makeDir h purpose, fun path => makeDir_complete h,
      fun path cause => makeDir_blocked h, fun path => makeDir_stopped h,
      fun u => makeDir_again h⟩,
    rfl, fun u => globalConfig_again h, ?_, fun hsome => ?_, fun hnone => ?_, load_again h⟩
  · cases hlocal : s.localConfig? with
    | some found =>
      rw [tree_load_of_some hlocal]
      exact .refl s .config
    | none =>
      rw [tree_load_of_none hlocal]
      exact extends_makeDir h .config
  · obtain ⟨path, hpath, hne⟩ := hsome
    cases hlocal : s.localConfig? with
    | some found => exact tree_load_of_some hlocal
    | none => exact absurd (localConfig?_eq_none.mp hlocal path hpath) hne
  · exact tree_load_of_none (localConfig?_eq_none.mpr hnone)

/-- nothing is there of the directories for configurations, and a file in the way of those for what
is cached; the environment has an absolute path for the one and a relative one for the other, and no
home directory, so the user database says where the other is -/
theorem load_extends_home :
    let s : Surroundings :=
      ⟨⟨[(["w"], .directory), (["h"], .directory), (["h", ".cache"], .file [])]⟩, ["w"], none,
        some "/h/x", some "x", some "/h"⟩
    s.Ordinary ∧
    s.ownDir? .config = some "/h/x/tb-dashboard" ∧
    (s.makeDir .config).1 = .ok "/h/x/tb-dashboard" ∧
    (s.makeDir .config).2.node? ["h", "x", "tb-dashboard"] = some .directory ∧
    s.ownDir? .cache = some "/h/.cache/tb-dashboard" ∧
    s.makeDir .cache = (.error (.notCreated .cache "/h/.cache/tb-dashboard" .notDirectory), s.tree) ∧
    Config.load { s with tree := (Config.load s).tree } = Config.load s := by
  intro s
  have hs : s.Ordinary := by
    refine ⟨Tree.closed_of_entries (by decide), rfl, fun path hpath => ?_⟩
    rcases hpath with hpath | hpath | hpath | hpath
    · cases hpath
    all_goals
      cases hpath
      decide
  obtain ⟨hownConfig, hownCache, hmakeDir, -, -, -, -, -, hagain⟩ := load_extends s hs
  have hset : s.Owns (some ("/" ++ "h/x")) ".config" _ := .set rfl
  have huser := (hownCache _).mpr (.user (relative_ne (by decide)) nofun rfl (by decide))
  have hconfig : (s.makeDir .config).1 = .ok "/h/x/tb-dashboard" := by rfl
  have hplaces := ((hmakeDir .config).2.1 _ hconfig).2
  have hcache : (s.makeDir .cache).1 =
      .error (.notCreated .cache "/h/.cache/tb-dashboard" .notDirectory) := by rfl
  have hsame := (hmakeDir .cache).2.2.1 _ _ hcache (.inr rfl)
  exact ⟨hs, (hownConfig _).mpr hset, hconfig, hplaces _ (by decide), huser,
    Prod.ext hcache hsame, hagain⟩

end TabShell
