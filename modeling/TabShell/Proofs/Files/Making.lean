import TabShell.Proofs.Files.Ways
/-!
# Making directories

Names that go down, in a tree in which every entry is in a directory, are walked until one of them
has no directory.  If nothing is there, nothing is below either, so all that follow are made unless
one of them is too long; if a file is there, nothing has been made so far and nothing will be.

* `makeNames_eq_none`   when all directories are there in the end, for any names;
* `Makes`            what making directories does to the tree, and what comes of doing it again;
* `Makes.done`, `Makes.long`, `Makes.blocked`, `Makes.there`, `Makes.made`   one name at a time;
* `makes_makeNames`  all names.
-/

namespace TabShell.Tree

open Text

variable {t u : Tree} {at_ p below : Place} {name : String} {rest names : List String}
  {making : Bool} {r : Tree × Option Obstacle}

/-! ## one directory more -/

theorem node?_insert (t : Tree) (p : Place) (n : Node) (q : Place) :
    (t.insert p n).node? q = (t.node? q).or (if q = p then some n else none) := by
  unfold node?
  by_cases hq : q = []
  · rw [if_pos hq, if_pos hq]
    rfl
  · rw [if_neg hq, if_neg hq]
    show (t.entries ++ [(p, n)]).lookup q = _
    rw [List.lookup_append, List.lookup_cons]
    by_cases hp : q = p
    · rw [if_pos hp, beq_iff_eq.mpr hp]
    · rw [if_neg hp, beq_eq_false_iff_ne.mpr hp]
      rfl

theorem node?_insert_self {n : Node} (h : t.node? p = none) : (t.insert p n).node? p = some n := by
  rw [node?_insert, h, Option.none_or, if_pos rfl]

theorem file_of_insert {content : List UInt8}
    (h : (t.insert p .directory).node? below = some (.file content)) :
    t.node? below = some (.file content) := by
  rw [node?_insert, Option.or_eq_some_iff] at h
  rcases h with h | ⟨-, h⟩
  · exact h
  · split at h <;> cases h

theorem closed_insert (h : t.Closed) (hat : t.node? at_ = some .directory) :
    (t.insert (at_ ++ [name]) .directory).Closed := by
  intro q last hlast
  have hkept := within_insert (t := t) (at_ ++ [name]) .directory
  rw [node?_insert] at hlast
  cases hold : t.node? (q ++ [last]) with
  | some n => exact hkept q .directory (h q last (by rw [hold]; exact nofun))
  | none =>
    rw [hold] at hlast
    by_cases hnew : q ++ [last] = at_ ++ [name]
    · exact hkept q .directory ((List.append_inj' hnew rfl).1 ▸ hat)
    · rw [if_neg hnew] at hlast
      exact absurd rfl hlast

/-- making directories succeeds exactly if in the end all names can be entered -/
theorem makeNames_eq_none (t : Tree) (at_ : Place) (making : Bool) (names : List String) :
    (t.makeNames at_ making names).2 = none ↔
      ∃ p, (t.makeNames at_ making names).1.enterAll at_ names = .ok p := by
  fun_induction makeNames t at_ making names with
  | case1 => exact ⟨fun _ => ⟨_, rfl⟩, fun _ => rfl⟩
  | case2 _ _ _ rest ih =>
    rw [enterAll_cons, enter_of_eq (.inl rfl)]
    exact ih
  | case3 _ _ _ rest _ ih =>
    rw [enterAll_cons, enter_of_eq (.inr rfl)]
    exact ih
  | case4 t at_ _ name rest hdot hup e hlook =>
    have henter : t.enter at_ name = .error e := by
      unfold enter
      rw [if_neg hdot, if_neg hup, hlook]
      rfl
    rw [enterAll_cons, henter]
    refine iff_of_false (Option.some_ne_none _) ?_
    rintro ⟨p, h⟩
    cases h
  | case5 t at_ _ name rest hdot hup hlook ih =>
    obtain ⟨hshort, hnode⟩ := lookUp_eq_ok.mp hlook
    rw [enterAll_cons_of_directory ⟨hdot, hup⟩ hshort (within_makeNames _ _ _ _ _ _ hnode)]
    exact ih
  | case6 t at_ _ name rest hdot hup content hlook =>
    obtain ⟨hshort, hnode⟩ := lookUp_eq_ok.mp hlook
    rw [enterAll_cons, enter_of_ne ⟨hdot, hup⟩, step_of_ne ⟨hdot, hup⟩, if_pos hshort, hnode]
    refine iff_of_false (Option.some_ne_none _) ?_
    rintro ⟨p, h⟩
    cases h
  | case7 t at_ _ name rest hdot hup hlook ih =>
    obtain ⟨hshort, hnode⟩ := lookUp_eq_ok.mp hlook
    have hmade : (t.insert (at_ ++ [name]) .directory).node? (at_ ++ [name]) = some .directory :=
      node?_insert_self hnode
    rw [enterAll_cons_of_directory ⟨hdot, hup⟩ hshort (within_makeNames _ _ _ _ _ _ hmade)]
    exact ih

theorem makeDirectories_of_short {cwd : Place} {path : String}
    (h : (utf8 path.toList).length ≤ pathLimit) :
    t.makeDirectories cwd path =
      t.makeNames (origin cwd (Path.parse path)) false (Path.parse path).names := by
  unfold makeDirectories Path.read
  rw [if_pos h]

theorem makeDirectories_of_long {cwd : Place} {path : String}
    (h : ¬ (utf8 path.toList).length ≤ pathLimit) :
    t.makeDirectories cwd path = (t, some .tooLong) := by
  unfold makeDirectories Path.read
  rw [if_neg h]

theorem makeDirectories_eq_none {cwd : Place} {path : String}
    (hnames : (Path.parse path).names ≠ []) :
    (t.makeDirectories cwd path).2 = none ↔
      (utf8 path.toList).length ≤ pathLimit ∧
        (t.makeDirectories cwd path).1.find cwd (Path.parse path) = .ok .directory := by
  by_cases h : (utf8 path.toList).length ≤ pathLimit
  · rw [makeDirectories_of_short h, makeNames_eq_none, find_eq_directory hnames,
      and_iff_right h]
  · rw [makeDirectories_of_long h]
    exact ⟨nofun, fun h' => absurd h'.1 h⟩

/-! ## one name of several -/

theorem makeNames_cons (hname : name ≠ "." ∧ name ≠ "..") (t : Tree) (at_ : Place) (making : Bool)
    (rest : List String) :
    t.makeNames at_ making (name :: rest) =
      if (utf8 name.toList).length ≤ nameLimit then
        match t.node? (at_ ++ [name]) with
        | some .directory => t.makeNames (at_ ++ [name]) making rest
        | some (.file _) =>
          (t, some (if making = true ∨ rest = [] then .alreadyThere else .notDirectory))
        | none => (t.insert (at_ ++ [name]) .directory).makeNames (at_ ++ [name]) true rest
      else (t, some .tooLong) := by
  rw [makeNames, if_neg hname.1, if_neg hname.2]
  by_cases hshort : (utf8 name.toList).length ≤ nameLimit
  · have hlook : t.lookUp at_ name = .ok (t.node? (at_ ++ [name])) := if_pos hshort
    rw [if_pos hshort, hlook]
    cases t.node? (at_ ++ [name]) with
    | none => rfl
    | some n => cases n <;> rfl
  · have hlook : t.lookUp at_ name = .error .tooLong := if_neg hshort
    rw [if_neg hshort, hlook]

theorem wayFrom_cons (hname : name ≠ "." ∧ name ≠ "..") (at_ : Place) (rest : List String) :
    wayFrom at_ (name :: rest) = (at_ ++ [name]) :: wayFrom (at_ ++ [name]) rest := by
  rw [wayFrom, step_of_ne hname]

/-- a way that goes down stays below -/
theorem exists_of_mem_wayFrom (hdown : Down names) (h : p ∈ wayFrom at_ names) :
    ∃ below, below ≠ [] ∧ p = at_ ++ below := by
  induction names generalizing at_ with
  | nil => cases h
  | cons name names ih =>
    rw [wayFrom_cons (hdown name (List.mem_cons_self ..))] at h
    rcases List.mem_cons.mp h with rfl | h
    · exact ⟨[name], nofun, rfl⟩
    · obtain ⟨below, -, rfl⟩ := ih (fun n hn => hdown n (List.mem_cons_of_mem name hn)) h
      exact ⟨name :: below, nofun, (List.append_cons ..).symm⟩

/-- what comes of making the directories of some names: the tree afterwards, and the obstacle if
there is one -/
structure Makes (t : Tree) (at_ : Place) (making : Bool) (names : List String)
    (r : Tree × Option Obstacle) : Prop where
  closed : r.1.Closed
  kept : t.Within r.1
  /-- nothing but directories on the way comes to be -/
  added : ∀ p n, r.1.node? p = some n → t.node? p = none → n = .directory ∧ p ∈ wayFrom at_ names
  /-- all of them are there if nothing was in the way -/
  complete : r.2 = none → ∀ p ∈ wayFrom at_ names, r.1.node? p = some .directory
  /-- if something was, it was a file, and nothing was made; or else a name was too long -/
  failed : ∀ e, r.2 = some e → e = .tooLong ∨
    (e = .alreadyThere ∨ e = .notDirectory) ∧ r.1 = t ∧
      ∃ p ∈ wayFrom at_ names, ∃ content, t.node? p = some (.file content)
  /-- a file on the way is in the way -/
  stopped : (∃ p ∈ wayFrom at_ names, ∃ content, t.node? p = some (.file content)) →
    r.2 ≠ none ∧ r.1 = t
  /-- when all that is there is there again, the same comes of it, and nothing is made -/
  again : ∀ u, r.1.Within u → ∀ making', making' = making ∨ r.2 = none ∨ r.2 = some .tooLong →
    u.makeNames at_ making' names = (u, r.2)

namespace Makes

theorem done (hclosed : t.Closed) : Makes t at_ making [] (t, none) where
  closed := hclosed
  kept := .refl t
  added _ _ h h' := nomatch h.symm.trans h'
  complete _ := nofun
  failed := nofun
  stopped := nofun
  again _ _ _ _ := rfl

/-- a name that is too long is not looked up -/
theorem long (hclosed : t.Closed) (hname : name ≠ "." ∧ name ≠ "..")
    (hlong : ¬ (utf8 name.toList).length ≤ nameLimit) :
    Makes t at_ making (name :: rest) (t, some .tooLong) where
  closed := hclosed
  kept := .refl t
  added _ _ h h' := nomatch h.symm.trans h'
  complete := nofun
  failed _ h := .inl (Option.some.inj h).symm
  stopped _ := ⟨nofun, rfl⟩
  again u _ _ _ := by rw [makeNames_cons hname, if_neg hlong]

/-- a file is in the way -/
theorem blocked (hclosed : t.Closed) (hname : name ≠ "." ∧ name ≠ "..")
    (hshort : (utf8 name.toList).length ≤ nameLimit) {content : List UInt8}
    (hfile : t.node? (at_ ++ [name]) = some (.file content)) :
    Makes t at_ making (name :: rest)
      (t, some (if making = true ∨ rest = [] then .alreadyThere else .notDirectory)) where
  closed := hclosed
  kept := .refl t
  added _ _ h h' := nomatch h.symm.trans h'
  complete := nofun
  failed e h := by
    refine .inr ⟨?_, rfl, at_ ++ [name], ?_, content, hfile⟩
    · have he := Option.some.inj h
      split at he
      · exact .inl he.symm
      · exact .inr he.symm
    · rw [wayFrom_cons hname]
      exact List.mem_cons_self ..
  stopped _ := ⟨nofun, rfl⟩
  again u hu making' hmaking := by
    have hsame : making' = making := by
      rcases hmaking with h | h | h
      · exact h
      · cases h
      · have h := Option.some.inj h
        split at h <;> cases h
    rw [makeNames_cons hname, if_pos hshort, hu _ _ hfile, hsame]

/-- a directory is there -/
theorem there (hname : name ≠ "." ∧ name ≠ "..")
    (hshort : (utf8 name.toList).length ≤ nameLimit)
    (hthere : t.node? (at_ ++ [name]) = some .directory)
    (h : Makes t (at_ ++ [name]) making rest r) : Makes t at_ making (name :: rest) r where
  closed := h.closed
  kept := h.kept
  added p n hn hnew := by
    rw [wayFrom_cons hname]
    obtain ⟨hn, hp⟩ := h.added p n hn hnew
    exact ⟨hn, List.mem_cons_of_mem _ hp⟩
  complete hr p hp := by
    rw [wayFrom_cons hname] at hp
    rcases List.mem_cons.mp hp with rfl | hp
    · exact h.kept _ _ hthere
    · exact h.complete hr p hp
  failed e he := by
    rw [wayFrom_cons hname]
    rcases h.failed e he with hlong | ⟨he, ht, p, hp, hfile⟩
    · exact .inl hlong
    · exact .inr ⟨he, ht, p, List.mem_cons_of_mem _ hp, hfile⟩
  stopped hfile := by
    rw [wayFrom_cons hname] at hfile
    obtain ⟨p, hp, content, hfile⟩ := hfile
    rcases List.mem_cons.mp hp with rfl | hp
    · exact nomatch hthere.symm.trans hfile
    · exact h.stopped ⟨p, hp, content, hfile⟩
  again u hu making' hmaking := by
    rw [makeNames_cons hname, if_pos hshort, hu _ _ (h.kept _ _ hthere)]
    exact h.again u hu making' hmaking

/-- nothing is there, and so nothing is below -/
theorem made (hclosed : t.Closed) (hname : name ≠ "." ∧ name ≠ "..")
    (hshort : (utf8 name.toList).length ≤ nameLimit) (hrest : Down rest)
    (hnothing : t.node? (at_ ++ [name]) = none)
    (h : Makes (t.insert (at_ ++ [name]) .directory) (at_ ++ [name]) true rest r) :
    Makes t at_ making (name :: rest) r := by
  have hthere : r.1.node? (at_ ++ [name]) = some .directory :=
    h.kept _ _ (node?_insert_self hnothing)
  -- so no file is in the way of the names that follow
  have hfree : ∀ p ∈ wayFrom at_ (name :: rest), ∀ content, t.node? p ≠ some (.file content) := by
    intro p hp content hfile
    rw [wayFrom_cons hname] at hp
    rcases List.mem_cons.mp hp with rfl | hp
    · exact nomatch hnothing.symm.trans hfile
    · obtain ⟨below, hne, rfl⟩ := exists_of_mem_wayFrom hrest hp
      have hdirectory := hclosed.directory hne (by rw [hfile]; exact nofun)
      exact nomatch hnothing.symm.trans hdirectory
  have hlong : ∀ e, r.2 = some e → e = .tooLong := by
    intro e he
    rcases h.failed e he with hlong | ⟨-, -, p, hp, content, hfile⟩
    · exact hlong
    · refine absurd (file_of_insert hfile) (hfree p ?_ content)
      rw [wayFrom_cons hname]
      exact List.mem_cons_of_mem _ hp
  refine ⟨h.closed, (within_insert _ _).trans h.kept, ?_, ?_, fun e he => .inl (hlong e he), ?_, ?_⟩
  · intro p n hn hnew
    rw [wayFrom_cons hname]
    by_cases hp : p = at_ ++ [name]
    · subst hp
      exact ⟨(Option.some.inj (hn.symm.trans hthere)), List.mem_cons_self ..⟩
    · have hnew' : (t.insert (at_ ++ [name]) .directory).node? p = none := by
        rw [node?_insert, hnew, if_neg hp]
        rfl
      obtain ⟨hn, hp⟩ := h.added p n hn hnew'
      exact ⟨hn, List.mem_cons_of_mem _ hp⟩
  · intro hr p hp
    rw [wayFrom_cons hname] at hp
    rcases List.mem_cons.mp hp with rfl | hp
    · exact hthere
    · exact h.complete hr p hp
  · rintro ⟨p, hp, content, hfile⟩
    exact absurd hfile (hfree p hp content)
  · intro u hu making' _
    rw [makeNames_cons hname, if_pos hshort, hu _ _ hthere]
    refine h.again u hu making' (.inr ?_)
    cases hr : r.2 with
    | none => exact .inl rfl
    | some e => exact .inr (congrArg some (hlong e hr))

end Makes

/-- making directories walks down the names -/
theorem makes_makeNames (hclosed : t.Closed) (hat : t.node? at_ = some .directory)
    (making : Bool) (hdown : Down names) :
    Makes t at_ making names (t.makeNames at_ making names) := by
  induction names generalizing t at_ making with
  | nil => exact .done hclosed
  | cons name rest ih =>
    have hname := hdown name (List.mem_cons_self ..)
    have hrest : Down rest := fun n hn => hdown n (List.mem_cons_of_mem name hn)
    rw [makeNames_cons hname]
    split
    · rename_i hshort
      cases hnode : t.node? (at_ ++ [name]) with
      | none =>
        have hmade := ih (closed_insert hclosed hat) (node?_insert_self hnode) true hrest
        exact .made hclosed hname hshort hrest hnode hmade
      | some n =>
        cases n with
        | file content => exact .blocked hclosed hname hshort hnode
        | directory => exact .there hname hshort hnode (ih hclosed hnode making hrest)
    · rename_i hlong
      exact .long hclosed hname hlong

end TabShell.Tree
