import TabShell.Proofs.Command.Spacing
import TabShell.Proofs.Text.Word
/-!
# Commands and their lines

What a line that is read asks for is canonical: its texts have no blanks at their ends, its ids no
commas, and what has to be there is there.  The other way round the plainest line of such a command
is read as that command.

* `ofWords_of_parseChars`   a line means what its words mean;
* `canonical_ofWords`       what is read is canonical;
* `word64?_decimal`         a period is read from its digits;
* `splitIds_intercalate`    ids are read from between their commas;
* `parse_line_iff`          the commands that some line stands for, and their lines.
-/

namespace TabShell

open Text

namespace Command

/-! ## what is read -/

theorem trimmed_trim (s : List Char) : Trimmed (String.ofList (trim s)) := by
  unfold Trimmed
  rw [String.toList_ofList, trim_trim]

theorem ofList_ne_empty {s : List Char} (h : s ≠ []) : String.ofList s ≠ "" := by
  intro hempty
  rw [← String.toList_eq_nil_iff, String.toList_ofList] at hempty
  exact h hempty

theorem mem_splitIds_of_notMem {s id : List Char} (hs : ',' ∉ s) (h : id ∈ splitIds s) :
    id ≠ [] ∧ ',' ∉ id ∧ trim id = id := by
  rw [splitIds_of_notMem hs] at h
  obtain ⟨hid, hne⟩ := List.mem_filter.mp h
  rw [List.mem_singleton.mp hid] at hne ⊢
  exact ⟨of_decide_eq_true hne, fun hcomma => hs (mem_of_mem_trim hcomma), trim_trim s⟩

theorem mem_splitIds {s id : List Char} (h : id ∈ splitIds s) :
    id ≠ [] ∧ ',' ∉ id ∧ trim id = id := by
  induction s using commas_induction with
  | plain s hs => exact mem_splitIds_of_notMem hs h
  | comma s t hs ih =>
    rw [splitIds_comma] at h
    rcases List.mem_append.mp h with h | h
    · exact mem_splitIds_of_notMem hs h
    · exact ih h

theorem canonical_plugins (arg : List Char) :
    Canonical (.plugins ((splitIds arg).map String.ofList)) := by
  intro id hid
  obtain ⟨s, hs, rfl⟩ := List.mem_map.mp hid
  obtain ⟨hne, hcomma, htrim⟩ := mem_splitIds hs
  unfold Trimmed
  rw [String.toList_ofList]
  exact ⟨ofList_ne_empty hne, hcomma, htrim⟩

theorem canonical_ofWords {name arg : List Char} {c : Command}
    (h : ofWords name (trim arg) = .ok c) : c.Canonical := by
  unfold ofWords at h
  simp only at h
  split at h
  -- the names with an argument, and those that are none
  case h_2 =>
    cases h
    exact canonical_plugins (trim arg)
  case h_3 =>
    split at h
    · cases h
      trivial
    · next hne =>
      cases h
      exact ⟨ofList_ne_empty hne, trimmed_trim arg⟩
  case h_4 =>
    split at h
    · cases h
    · next hne =>
      cases h
      exact ⟨ofList_ne_empty hne, trimmed_trim arg⟩
  case h_6 =>
    cases h
    exact trimmed_trim arg
  case h_7 =>
    split at h
    · cases h
    · split at h
      · cases h
        trivial
      · cases h
  case h_13 => cases h
  all_goals
    cases h
    trivial

/-- what a line that speaks means is what its words mean -/
theorem ofWords_of_parseChars {line : List Char} {r : Except CommandError Command}
    (h : parseChars line = r.map some) :
    ofWords (splitWord (trim line)).1 (trim (splitWord (trim line)).2) = r := by
  unfold parseChars at h
  simp only at h
  split at h
  · cases r with
    | error e => cases h
    | ok c => cases h
  · cases hwords : ofWords (splitWord (trim line)).1 (trim (splitWord (trim line)).2) with
    | error e =>
      rw [hwords] at h
      cases r with
      | error e' =>
        cases h
        rfl
      | ok c => cases h
    | ok c =>
      rw [hwords] at h
      cases r with
      | error e => cases h
      | ok c' =>
        cases h
        rfl

theorem canonical_of_parseChars {line : List Char} {c : Command}
    (h : parseChars line = .ok (some c)) : c.Canonical :=
  canonical_ofWords (ofWords_of_parseChars (r := .ok c) h)

theorem canonical_of_parse {line : String} {c : Command} (h : parse line = .ok (some c)) :
    c.Canonical :=
  canonical_of_parseChars h

/-! ## the plainest lines -/

theorem word64?_decimal (n : UInt64) : word64? (decimal n.toNat) = some n :=
  word64?_eq_some_iff.mpr (spells_iff.mpr ⟨0, .inl rfl⟩)

theorem isBlank_of_isDigit {c : Char} (h : c.isDigit = true) : isBlank c = false := by
  have hrange := toNat_of_isDigit h
  unfold isBlank blankRanges
  simp only [List.any_cons, List.any_nil, Bool.or_eq_false_iff, Bool.and_eq_false_iff,
    decide_eq_false_iff_not, and_true]
  omega

theorem trim_decimal (n : Nat) : trim (decimal n) = decimal n :=
  Solid.trim_eq fun _ hc => isBlank_of_isDigit (isDigit_decimal hc)

theorem parse_lineOf {name arg : String} {c : Command}
    (hname : Solid name.toList ∧ isSilent name.toList = false) (harg : Trimmed arg)
    (hwords : ofWords name.toList arg.toList = .ok c) : parse (lineOf name arg) = .ok (some c) := by
  obtain ⟨hsolid, hspeaks⟩ := hname
  have hne : name ≠ "" := by
    rintro rfl
    cases hspeaks
  unfold lineOf
  rw [parse_words hsolid hne (by decide +kernel) (by decide), hspeaks, harg, hwords]
  rfl

theorem splitIds_intercalate {ids : List String}
    (h : ∀ id ∈ ids, id ≠ "" ∧ ',' ∉ id.toList ∧ Trimmed id) :
    (splitIds (",".intercalate ids).toList).map String.ofList = ids := by
  have hcomma : ∀ s ∈ ids.map String.toList, ',' ∉ s := by
    intro s hs
    obtain ⟨id, hid, rfl⟩ := List.mem_map.mp hs
    exact (h id hid).2.1
  rw [String.toList_intercalate]
  by_cases hids : ids = []
  · subst hids
    rfl
  · have hsplit : ([','].intercalate (ids.map String.toList)).splitOn ',' = ids.map String.toList :=
      List.splitOn_intercalate ',' hcomma (by simpa using hids)
    have htrim : (ids.map String.toList).map trim = ids.map String.toList := by
      rw [List.map_map]
      exact List.map_congr_left fun id hid => (h id hid).2.2
    have hkept : (ids.map String.toList).filter (· ≠ []) = ids.map String.toList := by
      refine List.filter_eq_self.mpr fun s hs => decide_eq_true ?_
      obtain ⟨id, hid, rfl⟩ := List.mem_map.mp hs
      exact mt String.toList_eq_nil_iff.mp (h id hid).1
    show (splitIds ([','].intercalate (ids.map String.toList))).map String.ofList = ids
    unfold splitIds
    rw [hsplit, htrim, hkept, List.map_map]
    exact (List.map_congr_left fun id _ => String.ofList_toList).trans (List.map_id ids)

theorem parse_line {c : Command} (h : c.Canonical) : parse c.line = .ok (some c) := by
  cases c with
  | plugins ids =>
    have hplugins := parse_plugins (w := " ") (by decide +kernel) (by decide) (",".intercalate ids)
    rw [splitIds_intercalate h] at hplugins
    exact hplugins
  | select plugin =>
    cases plugin with
    | none => decide +kernel
    | some plugin =>
      obtain ⟨hne, htrimmed⟩ := h
      have hread : ofWords "select".toList plugin.toList =
          .ok (.select (if plugin.toList = [] then none else some (String.ofList plugin.toList))) :=
        rfl
      rw [if_neg (mt String.toList_eq_nil_iff.mp hne), String.ofList_toList] at hread
      exact parse_lineOf (by decide +kernel) htrimmed hread
  | route path =>
    obtain ⟨hne, htrimmed⟩ := h
    have hread : ofWords "route".toList path.toList =
        if path.toList = [] then .error (.missingArgument "route")
        else .ok (.route (String.ofList path.toList)) := rfl
    rw [if_neg (mt String.toList_eq_nil_iff.mp hne), String.ofList_toList] at hread
    exact parse_lineOf (by decide +kernel) htrimmed hread
  | hash fragment =>
    have hread : ofWords "hash".toList fragment.toList =
        .ok (.hash (String.ofList fragment.toList)) := rfl
    rw [String.ofList_toList] at hread
    exact parse_lineOf (by decide +kernel) h hread
  | reload period =>
    have hdigits : (toString period.toNat).toList = decimal period.toNat := Nat.toList_repr
    have hne : decimal period.toNat ≠ [] := Nat.toDigits_ne_nil
    have hread : ofWords "reload".toList (toString period.toNat).toList = .ok (.reload period) := by
      rw [hdigits]
      show (if decimal period.toNat = [] then _ else _) = _
      rw [if_neg hne, word64?_decimal]
    have htrimmed : Trimmed (toString period.toNat) := by
      unfold Trimmed
      rw [hdigits, trim_decimal]
    exact parse_lineOf (by decide +kernel) htrimmed hread
  | _ => decide +kernel

/-- **Commands and their lines.**  The commands that some line stands for are the canonical ones:
the ids of a list hold something but no comma, a plugin and a path hold something, and neither they
nor a fragment begin or end with a blank.  Each of them is what its plainest line is read as. -/
theorem parse_line_iff (c : Command) :
    ((∃ line, parse line = .ok (some c)) ↔ c.Canonical) ∧
    (parse c.line = .ok (some c) ↔ c.Canonical) ∧
    ∀ s : String, Trimmed s ↔
      (∀ c ∈ s.toList.head?, isBlank c = false) ∧ ∀ c ∈ s.toList.getLast?, isBlank c = false :=
  ⟨⟨fun ⟨_, h⟩ => canonical_of_parse h, fun h => ⟨c.line, parse_line h⟩⟩,
    ⟨canonical_of_parse, parse_line⟩, fun _ => trim_eq_self_iff⟩

example : parse (line (.hash "#a= b#,")) = .ok (some (.hash "#a= b#,")) := by decide +kernel

end Command

end TabShell
