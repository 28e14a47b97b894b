import Mathlib.Data.List.Basic
import Mathlib.Data.List.Induction
import TabShell.Files
import TabShell.Proofs.Text.Utf8
/-!
# Where paths lead

A path leads from directory to directory, and what it leads to depends on nothing but the places on
its way.  If no name of it is `.` or `..`, the way goes down all along; in a tree in which every
entry is in a directory, it then leads to a file exactly if there is one at the end.

* `Tree.wayFrom`, `wayTo_eq`   the places that names lead through, which are those of `wayTo`;
* `Tree.find_eq_directory`     a path leads to a directory if all its names can be entered;
* `Tree.readText?_congr`       what is read depends on these places;
* `Tree.readText?_eq_some`     a text is read from a file that holds its bytes and from nothing else;
* `Tree.Closed`, `Tree.Down`   every entry is in a directory, names go down all along;
* `Tree.readBytes_of_down`     what such names lead to in such a tree;
* `names_joinPath`             the names of a path inside a directory.
-/

namespace TabShell

open Text

namespace Tree

variable {t u : Tree} {cwd at_ p : Place} {name path : String} {names : List String}

/-- the places that names lead through, one after the other -/
def wayFrom (at_ : Place) : List String → List Place
  | [] => []
  | name :: rest => step at_ name :: wayFrom (step at_ name) rest

theorem wayFrom_append (at_ : Place) (names more : List String) :
    wayFrom at_ (names ++ more) = wayFrom at_ names ++ wayFrom (names.foldl step at_) more := by
  induction names generalizing at_ with
  | nil => rfl
  | cons name names ih => exact congrArg (_ :: ·) (ih (step at_ name))

theorem wayTo_eq (cwd : Place) (path : String) :
    wayTo cwd path = wayFrom (origin cwd (Path.parse path)) (Path.parse path).names := by
  have h : ∀ (names : List String) (at_ : Place) (seen : List Place),
      (names.foldl (fun p name => (step p.1 name, p.2 ++ [step p.1 name])) (at_, seen)).2 =
        seen ++ wayFrom at_ names := by
    intro names
    induction names with
    | nil => exact fun _ seen => (List.append_nil seen).symm
    | cons name names ih =>
      intro at_ seen
      rw [List.foldl_cons, ih, wayFrom, List.append_assoc]
      rfl
  exact h _ _ []

/-! ## what a path leads to -/

theorem step_of_ne (h : name ≠ "." ∧ name ≠ "..") : step at_ name = at_ ++ [name] := by
  unfold step
  rw [if_neg h.1, if_neg h.2]

/-- the two names that are not looked up -/
theorem enter_of_eq (h : name = "." ∨ name = "..") : t.enter at_ name = .ok (step at_ name) := by
  unfold enter step
  rcases h with rfl | rfl <;> rfl

/-- any other name must be that of a directory -/
theorem enter_of_ne (h : name ≠ "." ∧ name ≠ "..") :
    t.enter at_ name =
      if (utf8 name.toList).length ≤ nameLimit then
        match t.node? (step at_ name) with
        | some .directory => .ok (step at_ name)
        | some (.file _) => .error .notDirectory
        | none => .error .missing
      else .error .tooLong := by
  unfold enter lookUp
  rw [if_neg h.1, if_neg h.2, step_of_ne h]
  split
  · cases t.node? (at_ ++ [name]) with
    | none => rfl
    | some n => cases n <;> rfl
  · rfl

/-- whoever gets on gets to the next place -/
theorem eq_step_of_enter (h : t.enter at_ name = .ok p) : p = step at_ name := by
  by_cases hname : name = "." ∨ name = ".."
  · rw [enter_of_eq hname] at h
    exact (Except.ok.inj h).symm
  · rw [enter_of_ne (not_or.mp hname)] at h
    split at h
    · split at h
      · exact (Except.ok.inj h).symm
      · cases h
      · cases h
    · cases h

theorem enterAll_cons (t : Tree) (at_ : Place) (name : String) (names : List String) :
    t.enterAll at_ (name :: names) = t.enter at_ name >>= fun p => t.enterAll p names :=
  List.foldlM_cons

theorem lookUp_eq_ok {n : Option Node} :
    t.lookUp at_ name = .ok n ↔
      (utf8 name.toList).length ≤ nameLimit ∧ t.node? (at_ ++ [name]) = n := by
  unfold lookUp
  split
  · rename_i hshort
    rw [Except.ok.injEq, and_iff_right hshort]
  · rename_i hlong
    exact ⟨nofun, fun h => absurd h.1 hlong⟩

theorem enterAll_cons_of_directory (hname : name ≠ "." ∧ name ≠ "..")
    (hshort : (utf8 name.toList).length ≤ nameLimit)
    (hnode : t.node? (at_ ++ [name]) = some .directory) :
    t.enterAll at_ (name :: names) = t.enterAll (at_ ++ [name]) names := by
  rw [enterAll_cons, enter_of_ne hname, step_of_ne hname, if_pos hshort, hnode]
  rfl

theorem enter_congr (h : t.node? (step at_ name) = u.node? (step at_ name)) :
    t.enter at_ name = u.enter at_ name := by
  by_cases hname : name = "." ∨ name = ".."
  · rw [enter_of_eq hname, enter_of_eq hname]
  · rw [enter_of_ne (not_or.mp hname), enter_of_ne (not_or.mp hname), h]

theorem eq_foldl_of_enterAll (h : t.enterAll at_ names = .ok p) : p = names.foldl step at_ := by
  induction names generalizing at_ with
  | nil => exact (Except.ok.inj h).symm
  | cons name names ih =>
    rw [enterAll_cons] at h
    cases henter : t.enter at_ name with
    | error e =>
      rw [henter] at h
      cases h
    | ok q =>
      rw [henter] at h
      rw [List.foldl_cons, ← eq_step_of_enter henter]
      exact ih h

theorem enterAll_congr (h : ∀ p ∈ wayFrom at_ names, t.node? p = u.node? p) :
    t.enterAll at_ names = u.enterAll at_ names := by
  induction names generalizing at_ with
  | nil => rfl
  | cons name names ih =>
    rw [enterAll_cons, enterAll_cons, enter_congr (h _ (List.mem_cons_self ..))]
    cases henter : u.enter at_ name with
    | error e => rfl
    | ok q =>
      show t.enterAll q names = u.enterAll q names
      rw [eq_step_of_enter henter]
      exact ih fun p hp => h p (List.mem_cons_of_mem _ hp)

/-- what stands at the end of a path, once its directory is found -/
def leaf (t : Tree) (parent : Place) (last : String) (slashed : Bool) : Except Obstacle Node :=
  if last = "." ∨ last = ".." then .ok .directory
  else if (utf8 last.toList).length ≤ nameLimit then
    match t.node? (step parent last) with
    | none => .error .missing
    | some .directory => .ok .directory
    | some (.file content) => if slashed then .error .notDirectory else .ok (.file content)
  else .error .tooLong

theorem find_concat (t : Tree) (cwd : Place) {path : Path} {init : List String} {last : String}
    (h : path.names = init ++ [last]) :
    t.find cwd path =
      t.enterAll (origin cwd path) init >>= fun parent => t.leaf parent last path.slashed := by
  unfold find
  rw [h, List.getLast?_concat, List.dropLast_concat]
  show (t.enterAll (origin cwd path) init >>= fun parent => _) = _
  congr
  funext parent
  unfold leaf
  split
  · rfl
  · rename_i hlast
    unfold lookUp
    rw [step_of_ne (not_or.mp hlast)]
    split
    · cases t.node? (parent ++ [last]) with
      | none => rfl
      | some n => cases n <;> rfl
    · rfl

theorem leaf_eq_directory {parent : Place} {last : String} {slashed : Bool} :
    t.leaf parent last slashed = .ok .directory ↔ ∃ p, t.enterAll parent [last] = .ok p := by
  rw [enterAll_cons]
  unfold leaf
  by_cases hlast : last = "." ∨ last = ".."
  · rw [if_pos hlast, enter_of_eq hlast]
    exact ⟨fun _ => ⟨_, rfl⟩, fun _ => rfl⟩
  · rw [if_neg hlast, enter_of_ne (not_or.mp hlast)]
    split
    · cases t.node? (step parent last) with
      | none => exact ⟨nofun, nofun⟩
      | some n =>
        cases n with
        | file content =>
          refine ⟨fun h => ?_, nofun⟩
          change ite _ _ _ = _ at h
          split at h <;> cases h
        | directory => exact ⟨fun _ => ⟨_, rfl⟩, fun _ => rfl⟩
    · exact ⟨nofun, nofun⟩

/-- a path with names leads to a directory exactly if all its names can be entered -/
theorem find_eq_directory {path : Path} (hnames : path.names ≠ []) :
    t.find cwd path = .ok .directory ↔
      ∃ p, t.enterAll (origin cwd path) path.names = .ok p := by
  rcases List.eq_nil_or_concat' path.names with hnil | ⟨init, last, hconcat⟩
  · exact absurd hnil hnames
  · have henter : t.enterAll (origin cwd path) path.names =
        t.enterAll (origin cwd path) init >>= fun parent => t.enterAll parent [last] := by
      rw [hconcat]
      exact List.foldlM_append
    rw [find_concat t cwd hconcat, henter]
    cases t.enterAll (origin cwd path) init with
    | error e => exact ⟨nofun, nofun⟩
    | ok parent => exact leaf_eq_directory

theorem find_congr {path : Path}
    (h : ∀ p ∈ wayFrom (origin cwd path) path.names, t.node? p = u.node? p) :
    t.find cwd path = u.find cwd path := by
  rcases List.eq_nil_or_concat' path.names with hnames | ⟨init, last, hnames⟩
  · unfold find
    rw [hnames]
    rfl
  · rw [hnames, wayFrom_append] at h
    rw [find_concat t cwd hnames, find_concat u cwd hnames,
      enterAll_congr fun p hp => h p (List.mem_append_left _ hp)]
    cases hparent : u.enterAll (origin cwd path) init with
    | error e => rfl
    | ok parent =>
      show t.leaf parent last _ = u.leaf parent last _
      rw [← eq_foldl_of_enterAll hparent] at h
      unfold leaf
      rw [h (step parent last) (List.mem_append_right _ (List.mem_singleton_self _))]

/-- what a path leads to depends on the places on its way only -/
theorem readText?_congr (h : ∀ p ∈ wayTo cwd path, t.node? p = u.node? p) :
    t.readText? cwd path = u.readText? cwd path := by
  rw [wayTo_eq] at h
  have hbytes : t.readBytes cwd path = u.readBytes cwd path := by
    unfold readBytes Path.read
    split
    · show (t.find cwd (Path.parse path) >>= _) = (u.find cwd (Path.parse path) >>= _)
      rw [find_congr h]
    · rfl
  unfold readText?
  rw [hbytes]

theorem readBytes_eq_ok {content : List UInt8} :
    t.readBytes cwd path = .ok content ↔
      (utf8 path.toList).length ≤ pathLimit ∧
        t.find cwd (Path.parse path) = .ok (.file content) := by
  unfold readBytes Path.read
  split
  · rename_i hlength
    show (t.find cwd (Path.parse path) >>= _) = _ ↔ _
    cases t.find cwd (Path.parse path) with
    | error e => exact ⟨nofun, fun h => nomatch h.2⟩
    | ok n =>
      cases n with
      | file bytes =>
        show Except.ok bytes = .ok content ↔ _
        rw [Except.ok.injEq, Except.ok.injEq, Node.file.injEq, and_iff_right hlength]
      | directory => exact ⟨nofun, fun h => nomatch h.2⟩
  · rename_i hlength
    exact ⟨nofun, fun h => absurd h.1 hlength⟩

theorem readText?_eq_some {text : String} :
    t.readText? cwd path = some text ↔ t.readBytes cwd path = .ok (utf8 text.toList) := by
  unfold readText?
  cases t.readBytes cwd path with
  | error e => exact ⟨nofun, nofun⟩
  | ok content =>
    show (decode? content).map String.ofList = some text ↔ _
    rw [Option.map_eq_some_iff, Except.ok.injEq]
    constructor
    · rintro ⟨s, hs, rfl⟩
      rw [String.toList_ofList]
      exact decode?_eq_some.mp hs
    · intro h
      exact ⟨text.toList, decode?_eq_some.mpr h, String.ofList_toList⟩

/-! ## going down -/

/-- every entry is in a directory -/
def Closed (t : Tree) : Prop :=
  ∀ at_ name, t.node? (at_ ++ [name]) ≠ none → t.node? at_ = some .directory

/-- it is enough to look at the entries that are listed -/
theorem closed_of_entries (h : ∀ e ∈ t.entries, t.node? e.1.dropLast = some .directory) :
    t.Closed := by
  intro at_ name hname
  unfold node? at hname
  rw [if_neg (List.append_ne_nil_of_right_ne_nil at_ (List.cons_ne_nil name []))] at hname
  obtain ⟨e, he, hplace⟩ : ∃ e ∈ t.entries, at_ ++ [name] = e.1 := by
    by_contra hnone
    refine hname (List.lookup_eq_none_iff.mpr fun e he => bne_iff_ne.mpr fun hplace => ?_)
    exact hnone ⟨e, he, hplace⟩
  have hentry := h e he
  rwa [← hplace, List.dropLast_concat] at hentry

theorem Closed.directory (h : t.Closed) {below : Place} (hne : below ≠ [])
    (hbelow : t.node? (at_ ++ below) ≠ none) : t.node? at_ = some .directory := by
  induction below using List.reverseRecOn with
  | nil => exact absurd rfl hne
  | append_singleton init last ih =>
    rw [← List.append_assoc] at hbelow
    have hinit : t.node? (at_ ++ init) = some .directory := h _ last hbelow
    by_cases hnil : init = []
    · rwa [hnil, List.append_nil] at hinit
    · exact ih hnil (by rw [hinit]; exact nofun)

/-- whether names go down all along -/
def Down (names : List String) : Prop := ∀ name ∈ names, name ≠ "." ∧ name ≠ ".."

instance (names : List String) : Decidable (Down names) :=
  inferInstanceAs (Decidable (∀ name ∈ names, name ≠ "." ∧ name ≠ ".."))

theorem Down.append {more : List String} (h : Down names) (h' : Down more) :
    Down (names ++ more) :=
  List.forall_mem_append.mpr ⟨h, h'⟩

/-- whether names can be looked up -/
def Short (names : List String) : Prop := ∀ name ∈ names, (utf8 name.toList).length ≤ nameLimit

/-- names that go down lead to a directory exactly if there is one at the end -/
theorem enterAll_of_down (hclosed : t.Closed) (hdown : Down names)
    (hat : t.node? at_ = some .directory) :
    t.enterAll at_ names = .ok p ↔
      p = at_ ++ names ∧ Short names ∧ t.node? (at_ ++ names) = some .directory := by
  induction names generalizing at_ with
  | nil =>
    rw [List.append_nil]
    show Except.ok at_ = .ok p ↔ _
    rw [Except.ok.injEq]
    exact ⟨fun h => ⟨h.symm, nofun, hat⟩, fun h => h.1.symm⟩
  | cons name names ih =>
    have hname := hdown name (List.mem_cons_self ..)
    have hsplit : at_ ++ name :: names = at_ ++ [name] ++ names := List.append_cons ..
    rw [enterAll_cons, enter_of_ne hname, step_of_ne hname, hsplit]
    -- the first name must lead to a directory, or else nothing can be at the end
    have hfirst : t.node? (at_ ++ [name] ++ names) = some .directory →
        t.node? (at_ ++ [name]) = some .directory := by
      intro hend
      by_cases hnil : names = []
      · rwa [hnil, List.append_nil] at hend
      · exact hclosed.directory hnil (by rw [hend]; exact nofun)
    split
    · rename_i hshort
      cases hnode : t.node? (at_ ++ [name]) with
      | none => exact ⟨nofun, fun h => nomatch (hfirst h.2.2).symm.trans hnode⟩
      | some n =>
        cases n with
        | file content => exact ⟨nofun, fun h => nomatch (hfirst h.2.2).symm.trans hnode⟩
        | directory =>
          show t.enterAll (at_ ++ [name]) names = .ok p ↔ _
          rw [ih (fun n hn => hdown n (List.mem_cons_of_mem name hn)) hnode]
          unfold Short
          rw [List.forall_mem_cons, and_iff_right hshort]
    · rename_i hlong
      exact ⟨nofun, fun h => absurd (h.2.1 name (List.mem_cons_self ..)) hlong⟩

theorem leaf_eq_file {parent : Place} {last : String} {slashed : Bool} {content : List UInt8}
    (hlast : last ≠ "." ∧ last ≠ "..") :
    t.leaf parent last slashed = .ok (.file content) ↔
      (utf8 last.toList).length ≤ nameLimit ∧ slashed = false ∧
        t.node? (parent ++ [last]) = some (.file content) := by
  unfold leaf
  rw [if_neg (not_or.mpr hlast), step_of_ne hlast]
  split
  · rename_i hshort
    rw [and_iff_right hshort]
    cases hnode : t.node? (parent ++ [last]) with
    | none => exact ⟨nofun, fun h => nomatch h.2⟩
    | some n =>
      cases n with
      | directory => exact ⟨nofun, fun h => nomatch h.2⟩
      | file bytes => cases slashed <;> simp
  · rename_i hlong
    exact ⟨nofun, fun h => absurd h.1 hlong⟩

/-- a path that goes down leads to a file exactly if there is one at its end -/
theorem readBytes_of_down {content : List UInt8} (hclosed : t.Closed)
    (hdown : Down (Path.parse path).names)
    (horigin : t.node? (origin cwd (Path.parse path)) = some .directory) :
    t.readBytes cwd path = .ok content ↔
      (utf8 path.toList).length ≤ pathLimit ∧ Short (Path.parse path).names ∧
        (Path.parse path).slashed = false ∧
        t.node? (origin cwd (Path.parse path) ++ (Path.parse path).names) =
          some (.file content) := by
  rw [readBytes_eq_ok]
  refine and_congr_right fun _ => ?_
  rcases List.eq_nil_or_concat' (Path.parse path).names with hnames | ⟨init, last, hnames⟩
  · unfold find
    rw [hnames, List.append_nil, horigin]
    refine ⟨fun h => ?_, fun h => nomatch h.2.2⟩
    change ite _ _ _ = _ at h
    split at h <;> cases h
  · rw [hnames] at hdown ⊢
    have hlast := hdown last (List.mem_append_right _ (List.mem_singleton_self last))
    have hinit : Down init := fun name hname => hdown name (List.mem_append_left _ hname)
    have hshort : Short (init ++ [last]) ↔
        Short init ∧ (utf8 last.toList).length ≤ nameLimit := by
      unfold Short
      rw [List.forall_mem_append, List.forall_mem_singleton]
    rw [find_concat t cwd hnames, hshort, ← List.append_assoc]
    constructor
    · intro h
      cases hparent : t.enterAll (origin cwd (Path.parse path)) init with
      | error e =>
        rw [hparent] at h
        cases h
      | ok parent =>
        rw [hparent] at h
        obtain ⟨rfl, hinitShort, -⟩ := (enterAll_of_down hclosed hinit horigin).mp hparent
        obtain ⟨hlastShort, hslashed, hnode⟩ := (leaf_eq_file hlast).mp h
        exact ⟨⟨hinitShort, hlastShort⟩, hslashed, hnode⟩
    · rintro ⟨⟨hinitShort, hlastShort⟩, hslashed, hnode⟩
      have hparent := hclosed _ last (by rw [hnode]; exact nofun)
      rw [(enterAll_of_down hclosed hinit horigin).mpr ⟨rfl, hinitShort, hparent⟩]
      exact (leaf_eq_file hlast).mpr ⟨hlastShort, hslashed, hnode⟩

/-- trees with the same files have the same to read under a path that goes down -/
theorem readText?_of_files (ht : t.Closed) (hu : u.Closed)
    (hfiles : ∀ p content, t.node? p = some (.file content) ↔ u.node? p = some (.file content))
    (hdown : Down (Path.parse path).names)
    (htorigin : t.node? (origin cwd (Path.parse path)) = some .directory)
    (huorigin : u.node? (origin cwd (Path.parse path)) = some .directory) :
    t.readText? cwd path = u.readText? cwd path := by
  refine Option.ext fun text => ?_
  rw [readText?_eq_some, readText?_eq_some, readBytes_of_down ht hdown htorigin,
    readBytes_of_down hu hdown huorigin, hfiles]

end Tree

/-! ## paths inside directories -/

/-- the texts between the slashes that are not empty -/
def Path.parts (text : List Char) : List (List Char) := (text.splitOn '/').filter (· ≠ [])

theorem Path.parts_nil : parts [] = [] := rfl

theorem Path.parts_append_slash (s t : List Char) :
    parts (s ++ '/' :: t) = parts s ++ parts t := by
  unfold parts
  rw [List.splitOn_append_cons_self, List.filter_append]

theorem names_joinPath (directory name : String) :
    (Path.parse (joinPath directory name)).names =
      (Path.parse directory).names ++ (Path.parse name).names := by
  show (Path.parts _).map String.ofList =
    (Path.parts _).map String.ofList ++ (Path.parts _).map String.ofList
  rw [← List.map_append]
  congr 1
  unfold joinPath
  split
  · rename_i h
    rw [String.toList_append]
    rcases h with hnil | hslash
    · rw [hnil, Path.parts_nil, List.nil_append, List.nil_append]
    · obtain ⟨s, hs⟩ := List.getLast?_eq_some_iff.mp hslash
      rw [hs, List.append_assoc, List.singleton_append, Path.parts_append_slash,
        Path.parts_append_slash, Path.parts_nil, List.append_nil]
  · rw [String.toList_append, String.toList_append, List.append_assoc]
    exact Path.parts_append_slash ..

end TabShell
