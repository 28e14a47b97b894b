import TabShell.Proofs.Command.Canonical
/-!
# Reload periods

A line of the name `reload` and an argument asks for a period or for nothing, and which of the two
depends on the argument alone: it has to be a number below `2 ^ 64`, written with ASCII digits.

* `splitWord_eq`       a word, the blank that ends it, and the rest;
* `Worded`             the lines of a name and an argument;
* `parse_worded`       what such a line means;
* `exists_worded`      where an argument is read, the line has one;
* `parse_reload_iff`   the lines that ask for a period, and those that fail to.
-/

namespace TabShell

open Text

namespace Command

/-! ## lines with an argument -/

/-- blanks part the name from the argument, and there may be more around the two -/
def Worded (line name arg : String) : Prop :=
  arg ≠ "" ∧ Trimmed arg ∧
    ∃ u w v : String, Blanks u.toList ∧ Blanks w.toList ∧ w ≠ "" ∧ Blanks v.toList ∧
      line = u ++ name ++ w ++ arg ++ v

variable {line name arg : String}

theorem parse_worded (hname : Solid name.toList) (hspeaks : isSilent name.toList = false)
    (h : Worded line name arg) : parse line = (ofWords name.toList arg.toList).map some := by
  obtain ⟨-, htrimmed, u, w, v, hu, hw, hw', hv, rfl⟩ := h
  have hne : name ≠ "" := by
    rintro rfl
    cases hspeaks
  have hassoc : u ++ name ++ w ++ arg ++ v = u ++ (name ++ w ++ arg) ++ v := by
    simp only [String.append_assoc]
  rw [hassoc, parse_append_blanks hu hv, parse_words hname hne hw hw', hspeaks, htrimmed]
  rfl

theorem splitWord_eq {s : List Char} (h : (splitWord s).2 ≠ []) :
    ∃ c, isBlank c = true ∧ s = (splitWord s).1 ++ c :: (splitWord s).2 := by
  unfold splitWord at h ⊢
  have hfirst := List.head?_dropWhile_not (fun c => !isBlank c) s
  have hsplit := List.takeWhile_append_dropWhile (p := fun c => !isBlank c) (l := s)
  cases hrest : s.dropWhile fun c => !isBlank c with
  | nil =>
    rw [hrest] at h
    cases h rfl
  | cons c rest =>
    rw [hrest] at hfirst hsplit
    exact ⟨c, by simpa using hfirst, hsplit.symm⟩

/-- where an argument is read, the line has one -/
theorem exists_worded (s : List Char) (h : trim (splitWord (trim s)).2 ≠ []) :
    Worded (String.ofList s) (String.ofList (splitWord (trim s)).1)
      (String.ofList (trim (splitWord (trim s)).2)) := by
  have hsecond : (splitWord (trim s)).2 ≠ [] := by
    intro hnil
    rw [hnil] at h
    cases h rfl
  obtain ⟨c, hc, hwords⟩ := splitWord_eq hsecond
  obtain ⟨u, v, hu, hv, hs⟩ := exists_trim s
  obtain ⟨u', v', hu', hv', harg⟩ := exists_trim (splitWord (trim s)).2
  refine ⟨ofList_ne_empty h, trimmed_trim _, String.ofList u, String.ofList (c :: u'),
    String.ofList (v' ++ v), ?_, ?_, ofList_ne_empty (List.cons_ne_nil c u'), ?_, ?_⟩
  · rwa [String.toList_ofList]
  · rw [String.toList_ofList]
    exact (blanks_singleton hc).append hu'
  · rw [String.toList_ofList]
    exact hv'.append hv
  · simp only [← String.ofList_append]
    apply congrArg String.ofList
    conv_lhs => rw [hs, hwords, harg]
    simp only [List.append_assoc, List.cons_append]

/-! ## periods -/

theorem ofWords_reload {arg : List Char} (h : arg ≠ []) :
    ofWords "reload".toList arg =
      match word64? arg with
      | some period => .ok (.reload period)
      | none => .error (.invalidPeriod (String.ofList arg)) :=
  if_neg h

theorem eq_reload_of_ofWords {name arg : List Char}
    (h : (∃ n, ofWords name arg = .ok (.reload n)) ∨
      ∃ a, ofWords name arg = .error (.invalidPeriod a)) :
    String.ofList name = "reload" ∧ arg ≠ [] := by
  unfold ofWords at h
  simp only at h
  split at h
  case h_4 =>
    rcases h with ⟨n, h⟩ | ⟨a, h⟩
    all_goals
      split at h
      · cases h
      · cases h
  case h_7 hname =>
    refine ⟨hname, ?_⟩
    rintro rfl
    rcases h with ⟨n, h⟩ | ⟨a, h⟩
    · cases h
    · cases h
  all_goals
    rcases h with ⟨n, h⟩ | ⟨a, h⟩
    · cases h
    · cases h

theorem exists_worded_reload
    (h : (∃ n, parse line = .ok (some (.reload n))) ∨
      ∃ a, parse line = .error (.invalidPeriod a)) : ∃ a, Worded line "reload" a := by
  obtain ⟨hname, harg⟩ : String.ofList (splitWord (trim line.toList)).1 = "reload" ∧
      trim (splitWord (trim line.toList)).2 ≠ [] := by
    apply eq_reload_of_ofWords
    rcases h with ⟨n, h⟩ | ⟨a, h⟩
    · exact .inl ⟨n, ofWords_of_parseChars (r := .ok (.reload n)) h⟩
    · exact .inr ⟨a, ofWords_of_parseChars (r := .error (.invalidPeriod a)) h⟩
  have hworded := exists_worded line.toList harg
  rw [String.ofList_toList, hname] at hworded
  exact ⟨_, hworded⟩

theorem parse_worded_reload (h : Worded line "reload" arg) :
    parse line =
      match word64? arg.toList with
      | some period => .ok (some (.reload period))
      | none => .error (.invalidPeriod arg) := by
  have hne : arg.toList ≠ [] := mt String.toList_eq_nil_iff.mp h.1
  rw [parse_worded (by decide +kernel) (by decide +kernel) h, ofWords_reload hne]
  cases word64? arg.toList with
  | none =>
    rw [String.ofList_toList]
    rfl
  | some period => rfl

/-- **Periods are read exactly.**  A line of `reload` and an argument asks for the number that the
argument spells, if that is a word: an optional `+` and digits, zeros in front included.  If the
argument spells nothing, or a number that is no word, it is given back as it stands.  No other line
asks for a period or fails to. -/
theorem parse_reload_iff :
    (∀ line arg : String, Worded line "reload" arg →
      (∀ n : UInt64, parse line = .ok (some (.reload n)) ↔ Spells arg.toList n.toNat) ∧
      (parse line = .error (.invalidPeriod arg) ↔
        ∀ n, Spells arg.toList n → UInt64.size ≤ n)) ∧
    (∀ line : String, (∃ arg, Worded line "reload" arg) ↔
      (∃ n, parse line = .ok (some (.reload n))) ∨ ∃ a, parse line = .error (.invalidPeriod a)) ∧
    ∀ s n, Spells s n ↔ ∃ k,
      s = List.replicate k '0' ++ decimal n ∨ s = '+' :: (List.replicate k '0' ++ decimal n) := by
  refine ⟨?_, ?_, fun s n => spells_iff⟩
  · intro line arg h
    rw [parse_worded_reload h, ← word64?_eq_none_iff]
    cases hword : word64? arg.toList with
    | none =>
      refine ⟨fun n => ?_, ⟨fun _ => rfl, fun _ => rfl⟩⟩
      rw [← word64?_eq_some_iff, hword]
      exact ⟨nofun, nofun⟩
    | some period =>
      refine ⟨fun n => ?_, ⟨nofun, nofun⟩⟩
      rw [← word64?_eq_some_iff, hword]
      constructor
      · intro hn
        cases hn
        rfl
      · intro hn
        cases hn
        rfl
  · intro line
    refine ⟨?_, exists_worded_reload⟩
    rintro ⟨arg, h⟩
    rw [parse_worded_reload h]
    cases word64? arg.toList with
    | none => exact .inr ⟨arg, rfl⟩
    | some period => exact .inl ⟨period, rfl⟩

/-- the largest word behind zeros, the number after it, and a digit that is not ASCII -/
theorem parse_reload_limit :
    parse "\u3000reload \t+00018446744073709551615\r" =
      .ok (some (.reload 18446744073709551615)) ∧
    parse "reload 18446744073709551616" = .error (.invalidPeriod "18446744073709551616") ∧
    parse "reload 1\u0661" = .error (.invalidPeriod "1\u0661") := by
  obtain ⟨hread, -, -⟩ := parse_reload_iff
  have hworded : Worded "\u3000reload \t+00018446744073709551615\r" "reload"
      "+00018446744073709551615" := by
    refine ⟨by decide, Solid.trim_eq (by decide +kernel), "\u3000", " \t", "\r", ?_⟩
    decide +kernel
  have hlarge : Worded "reload 18446744073709551616" "reload" "18446744073709551616" := by
    refine ⟨by decide, Solid.trim_eq (by decide +kernel), "", " ", "", ?_⟩
    decide +kernel
  have hforeign : Worded "reload 1\u0661" "reload" "1\u0661" := by
    refine ⟨by decide, Solid.trim_eq (by decide +kernel), "", " ", "", ?_⟩
    decide +kernel
  refine ⟨?_, ?_, ?_⟩
  · apply ((hread _ _ hworded).1 _).mpr
    exact spells_iff.mpr ⟨3, .inr (by decide +kernel)⟩
  · apply (hread _ _ hlarge).2.mpr
    intro n hn
    have hnext : Spells "18446744073709551616".toList UInt64.size :=
      spells_iff.mpr ⟨0, .inl (by decide +kernel)⟩
    exact (hnext.eq hn).le
  · apply (hread _ _ hforeign).2.mpr
    rintro n ⟨t, rfl | hplus, -, ht⟩
    · cases ht.isDigit '\u0661' (by decide)
    · cases hplus

end Command

end TabShell
