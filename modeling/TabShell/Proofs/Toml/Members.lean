import TabShell.Proofs.Toml.Lines
/-!
# Members of plain documents

If nothing is named twice, the members of a document of plain lines are what was written, the
sections after the entries of no section.

* `lookup_present`        a member is found under its name, unless it is missing;
* `addEntries_plain`, `openTable_plain`   what new names add;
* `tableOf`               members as a table, none if there are none;
* `build?_plain`          what the statements of such a document make of it;
* `memberFields?_present`   the values come back, missing ones as missing;
* `valueOr?_tableOf`        a section that is missing is as good as one without members.
-/

namespace TabShell.Toml

variable {α : Type} {name key : String} {v : Value} {ms inner : Members}
  {fs : List (String × Option Value)} {tables : List (String × Members)}

/-! ## members -/

theorem lookup_eq_none {ms : List (String × α)} (h : name ∉ ms.map Prod.fst) :
    ms.lookup name = none :=
  List.lookup_eq_none_iff.mpr fun _ hm =>
    bne_iff_ne.mpr fun hname => h (hname ▸ List.mem_map_of_mem hm)

theorem lookup_cons_ne {ms : List (String × α)} (h : name ≠ key) (a : α) :
    List.lookup name ((key, a) :: ms) = ms.lookup name := by
  rw [List.lookup_cons, beq_false_of_ne h]

theorem present_append (fs fs' : List (String × Option Value)) :
    present (fs ++ fs') = present fs ++ present fs' := List.filterMap_append

theorem names_present (fs : List (String × Option Value)) :
    ((present fs).map Prod.fst).Sublist (fs.map Prod.fst) := by
  induction fs with
  | nil => exact .slnil
  | cons f fs ih =>
    obtain ⟨name, _ | v⟩ := f
    · exact ih.cons name
    · exact ih.cons_cons name

/-- a member is found under its name, unless it is missing -/
theorem lookup_present (h : (fs.map Prod.fst).Nodup) (name : String) :
    (present fs).lookup name = (fs.lookup name).join := by
  induction fs with
  | nil => rfl
  | cons f fs ih =>
    obtain ⟨key, v⟩ := f
    obtain ⟨hnew, hrest⟩ := List.nodup_cons.mp h
    by_cases hname : name = key
    · subst hname
      rw [List.lookup_cons_self, Option.join_some]
      cases v with
      | none => exact lookup_eq_none fun hmem => hnew ((names_present fs).subset hmem)
      | some v => exact List.lookup_cons_self
    · rw [lookup_cons_ne hname, ← ih hrest]
      cases v with
      | none => rfl
      | some v => exact lookup_cons_ne hname v

/-! ## building -/

/-- members, each under a key without dots -/
def plain (ms : Members) : List (KeyPath × Value) := ms.map fun m => (⟨[], m.1⟩, m.2)

theorem addEntries_plain (h : ((ms ++ inner).map Prod.fst).Nodup) :
    addEntries .defined ms (plain inner) = some (ms ++ inner) := by
  induction inner generalizing ms with
  | nil => rw [List.append_nil]; rfl
  | cons m inner ih =>
    obtain ⟨key, v⟩ := m
    have hnew : ms.lookup key = none := by
      rw [List.map_append, List.nodup_append] at h
      exact lookup_eq_none fun hmem => h.2.2 key hmem key List.mem_cons_self rfl
    rw [List.append_cons] at h ⊢
    have hadd : addEntry .defined ms (⟨[], key⟩, v) = some (ms ++ [(key, v)]) := by
      simp [addEntry, descend, hnew]
    rw [← ih h]
    show (addEntry .defined ms (⟨[], key⟩, v)).bind _ = _
    rw [hadd]
    rfl

theorem openTable_plain (hnew : name ∉ ms.map Prod.fst) (h : (inner.map Prod.fst).Nodup) :
    openTable ⟨[], name⟩ (plain inner) ms = some (ms ++ [(name, .table .defined inner)]) := by
  have hadd : addEntries .defined [] (plain inner) = some inner := addEntries_plain h
  simp only [openTable, descend, lookup_eq_none hnew, hadd]
  rfl

theorem sections_entries (ms : Members) (sts : List Statement) :
    sections (entries ms ++ sts) = (plain ms ++ (sections sts).1, (sections sts).2) := by
  induction ms with
  | nil => rfl
  | cons m ms ih =>
    show sections (.entry ⟨[], m.1⟩ m.2 :: (entries ms ++ sts)) = _
    rw [sections, ih]
    rfl

/-- the sections of a document begin with their headers -/
theorem sections_tables (tables : List (String × Members)) :
    (sections (tables.flatMap sectionStatements)).1 = [] := by
  induction tables with
  | nil => rfl
  | cons t tables ih =>
    rw [List.flatMap_cons, sectionStatements]
    split
    · exact ih
    · rfl

/-- members as a table, none if there are none -/
def tableOf (ms : Members) : Option Value := if ms = [] then none else some (.table .defined ms)

/-- the tables of a document, each under its name -/
def tablesOf (tables : List (String × Members)) : List (String × Option Value) :=
  tables.map fun t => (t.1, tableOf t.2)

/-- new sections come after what is there -/
theorem openTables_plain (h : (ms.map Prod.fst ++ tables.map Prod.fst).Nodup)
    (hinner : ∀ t ∈ tables, (t.2.map Prod.fst).Nodup) :
    (sections (tables.flatMap sectionStatements)).2.foldlM
        (fun ms h => if h.1.1 then openArray h.1.2 h.2 ms else openTable h.1.2 h.2 ms) ms =
      some (ms ++ present (tablesOf tables)) := by
  induction tables generalizing ms with
  | nil =>
    rw [tablesOf, List.map_nil, present, List.filterMap_nil, List.append_nil]
    rfl
  | cons t tables ih =>
    obtain ⟨name, inner⟩ := t
    have hrest : ∀ t ∈ tables, (t.2.map Prod.fst).Nodup := fun t ht =>
      hinner t (List.mem_cons_of_mem _ ht)
    rw [List.flatMap_cons, sectionStatements]
    by_cases hempty : inner = []
    · subst hempty
      have hnames : (ms.map Prod.fst ++ tables.map Prod.fst).Nodup :=
        h.sublist ((List.sublist_cons_self name _).append_left _)
      exact ih hnames hrest
    · have hnames : ((ms ++ [(name, Value.table .defined inner)]).map Prod.fst ++
          tables.map Prod.fst).Nodup := by
        rw [List.map_append, List.append_assoc]
        exact h
      have hnew : name ∉ ms.map Prod.fst := fun hmem =>
        (List.nodup_append.mp h).2.2 name hmem name List.mem_cons_self rfl
      have htable : openTable ⟨[], name⟩ (plain inner) ms =
          some (ms ++ [(name, .table .defined inner)]) :=
        openTable_plain hnew (hinner _ List.mem_cons_self)
      have hpresent : present (tablesOf ((name, inner) :: tables)) =
          (name, .table .defined inner) :: present (tablesOf tables) := by
        simp [present, tablesOf, tableOf, hempty]
      rw [if_neg hempty, List.cons_append, sections, sections_entries, sections_tables,
        List.append_nil, hpresent, List.append_cons, ← ih hnames hrest]
      show (openTable ⟨[], name⟩ (plain inner) ms).bind _ = _
      rw [htable]
      rfl

/-- a document in which nothing is named twice has the members that were written -/
theorem build?_plain (h : (ms.map Prod.fst ++ tables.map Prod.fst).Nodup)
    (hinner : ∀ t ∈ tables, (t.2.map Prod.fst).Nodup) :
    build? (entries ms ++ tables.flatMap sectionStatements) =
      some (ms ++ present (tablesOf tables)) := by
  have hroot : addEntries .defined [] (plain ms) = some ms :=
    addEntries_plain (List.nodup_append.mp h).1
  unfold build?
  rw [sections_entries, sections_tables, List.append_nil]
  simp only [hroot]
  exact openTables_plain h hinner

/-! ## reading members back -/

theorem membersHarmless_filter {names : List String} (h : ∀ f ∈ fs, f.1 ∈ names) :
    membersHarmless ((present fs).filter fun m => decide (m.1 ∉ names)) = true := by
  have hnone : (present fs).filter (fun m => decide (m.1 ∉ names)) = [] := by
    rw [List.filter_eq_nil_iff]
    intro m hm
    obtain ⟨f, hf, hname⟩ := List.mem_map.mp ((names_present fs).subset (List.mem_map_of_mem hm))
    simp [← hname, h f hf]
  rw [hnone, membersHarmless]

/-- the values of named members come back, if nothing else is there -/
theorem memberFields?_present {names : List String} (h : (fs.map Prod.fst).Nodup)
    (hnames : ∀ f ∈ fs, f.1 ∈ names) :
    memberFields? names (present fs) = some (names.map fun name => (fs.lookup name).join) := by
  rw [memberFields?, if_pos (membersHarmless_filter hnames)]
  congr 1
  exact List.map_congr_left fun name _ => lookup_present h name

/-- a section without members is no section, and then its default is as if it were there -/
theorem valueOr?_tableOf {default a : α} {read? : Value → Option α}
    (hmissing : present fs = [] → default = a)
    (hthere : read? (.table .defined (present fs)) = some a) :
    valueOr? default read? (tableOf (present fs)) = some a := by
  unfold tableOf
  split
  · next hempty => exact congrArg some (hmissing hempty)
  · exact hthere

end TabShell.Toml
