import Mathlib.Data.List.Basic
import TabShell.Proofs.Text.Utf8
import TabShell.Script
/-!
# The lines of a script

A script that is text is read as the lines of that text.  The bytes are cut where the text is, for
no other character has the byte of the line feed in it.  A carriage return at the very end of the
last line is cut off with the others; it is a blank, and blanks around a command do not matter.  A
script of any bytes is read up to a line that is no text, or that asks for the end.

* `textLines`    the lines of a text;
* `reading`      what a line of bytes asks for, if it is text;
* `runFrom_none`, `runFrom_error`, `runFrom_silent`, `runFrom_command`, `runFrom_quit`
                 one line of a script, by its reading;
* `IsText`, `Ends`   lines that are text, and lines that ask for the end;
* `heeded`       the commands on the lines of a script, up to its end;
* `goes_on`, `ends_there`   whether the lines after a line are read;
* `runFrom_induction`       what every line keeps holds of a script;
* `run_utf8`     the script of a text is run line by line.
-/

namespace TabShell.Script

open Text

/-- a line without the one carriage return at its end -/
def unreturned (line : List Char) : List Char :=
  if line.getLast? = some '\r' then line.dropLast else line

/-- what is before each line feed, without a carriage return right before it, and what is after the
last one, unless that is empty -/
def textLines (text : List Char) : List (List Char) :=
  let pieces := text.splitOn '\n'
  pieces.dropLast.map unreturned ++ (pieces.getLast?.filter (· ≠ [])).toList

/-! ## bytes and characters -/

private theorem toNat_high {n : Nat} (hlow : 0x80 ≤ n) (hhigh : n < 0x100) :
    0x80 ≤ (UInt8.ofNat n).toNat := by
  rwa [UInt8.toNat_ofNat', Nat.mod_eq_of_lt hhigh]

/-- a byte of ASCII is in no sequence but its own -/
theorem toNat_of_mem_utf8EncodeChar {c : Char} {b : UInt8} (hb : b.toNat < 0x80)
    (h : b ∈ String.utf8EncodeChar c) : c.toNat = b.toNat := by
  have hlow : ∀ n, 0x80 ≤ n → n < 0x100 → b ≠ UInt8.ofNat n := by
    rintro n hn hn' rfl
    exact absurd hb (Nat.not_lt.mpr (toNat_high hn hn'))
  unfold String.utf8EncodeChar at h
  simp only at h
  split at h
  · next hascii =>
    rw [List.mem_singleton.mp h, UInt8.toNat_ofNat', Nat.mod_eq_of_lt (by omega)]
    rfl
  · exfalso
    split at h
    · simp only [List.mem_cons, List.not_mem_nil, or_false] at h
      rcases h with h | h <;> exact hlow _ (by omega) (by omega) h
    · split at h
      · simp only [List.mem_cons, List.not_mem_nil, or_false] at h
        rcases h with h | h | h <;> exact hlow _ (by omega) (by omega) h
      · simp only [List.mem_cons, List.not_mem_nil, or_false] at h
        rcases h with h | h | h | h <;> exact hlow _ (by omega) (by omega) h

theorem utf8_eq_nil {s : List Char} : utf8 s = [] ↔ s = [] := by
  cases s with
  | nil => exact ⟨fun _ => rfl, fun _ => rfl⟩
  | cons c s =>
    refine ⟨fun h => ?_, nofun⟩
    rw [utf8_cons, List.append_eq_nil_iff] at h
    exact absurd h.1 (String.utf8EncodeChar_ne_nil)

theorem splitOn_append_of_notMem {α : Type} [DecidableEq α] {x : α} {e : List α} (h : x ∉ e)
    (s : List α) : (e ++ s).splitOn x = (s.splitOn x).modifyHead (e ++ ·) := by
  induction e with
  | nil =>
    show s.splitOn x = _
    cases s.splitOn x <;> rfl
  | cons y e ih =>
    have hy : (y == x) = false := beq_eq_false_iff_ne.mpr fun hy => h (hy ▸ List.mem_cons_self ..)
    rw [List.cons_append, List.splitOn_cons_eq_if_modifyHead, hy, if_neg Bool.false_ne_true,
      ih fun he => h (List.mem_cons_of_mem y he), List.modifyHead_modifyHead]
    rfl

/-- the bytes are cut where the text is -/
theorem splitOn_utf8 (s : List Char) : (utf8 s).splitOn 0x0A = (s.splitOn '\n').map utf8 := by
  induction s with
  | nil => rfl
  | cons c s ih =>
    rw [utf8_cons, List.splitOn_cons_eq_if_modifyHead]
    by_cases hc : c = '\n'
    · subst hc
      show (0x0A :: utf8 s).splitOn 0x0A = _
      rw [List.splitOn_cons_eq_if_modifyHead, ih]
      rfl
    · have hbyte : (0x0A : UInt8) ∉ String.utf8EncodeChar c := by
        intro hmem
        exact hc (Char.toNat_inj.mp (toNat_of_mem_utf8EncodeChar (by decide) hmem))
      rw [splitOn_append_of_notMem hbyte, ih, if_neg (by simp [hc])]
      cases s.splitOn '\n' <;> rfl

theorem chomp_utf8 (line : List Char) : chomp (utf8 line) = utf8 (unreturned line) := by
  rcases List.eq_nil_or_concat line with rfl | ⟨init, c, rfl⟩
  · rfl
  · rw [List.concat_eq_append]
    unfold chomp unreturned
    rw [List.getLast?_concat, List.dropLast_concat, utf8_append]
    by_cases hc : c = '\r'
    · subst hc
      have hreturn : utf8 ['\r'] = [0x0D] := by decide
      rw [hreturn, List.getLast?_concat, if_pos rfl, if_pos rfl, List.dropLast_concat]
    · have hlast : (utf8 init ++ utf8 [c]).getLast? ≠ some 0x0D := by
        intro hlast
        have hlast' : (utf8 [c]).getLast? = some 0x0D := by
          cases hbytes : (utf8 [c]).getLast? with
          | none => exact absurd (utf8_eq_nil.mp (List.getLast?_eq_none_iff.mp hbytes)) nofun
          | some b =>
            rw [List.getLast?_append, hbytes] at hlast
            exact hlast
        have hmem : 0x0D ∈ String.utf8EncodeChar c := by
          rw [utf8_cons, utf8_nil, List.append_nil] at hlast'
          exact List.mem_of_getLast? hlast'
        exact hc (Char.toNat_inj.mp (toNat_of_mem_utf8EncodeChar (by decide) hmem))
      rw [if_neg hlast, if_neg (by simpa using hc), utf8_append]

/-! ## what the lines say -/

theorem parseChars_unreturned (line : List Char) :
    Command.parseChars (unreturned line) = Command.parseChars line := by
  rcases List.eq_nil_or_concat line with rfl | ⟨init, c, rfl⟩
  · rfl
  · rw [List.concat_eq_append]
    unfold unreturned
    rw [List.getLast?_concat, List.dropLast_concat]
    split
    · next hc =>
      have hblank : ∀ d ∈ [c], isBlank d = true := by
        intro d hd
        rw [List.mem_singleton.mp hd, Option.some.inj hc]
        rfl
      exact (Command.parseChars_append_blanks (u := []) nofun hblank init).symm
    · rfl

/-- what a line of bytes asks for, if it is text -/
def reading (line : List UInt8) : Option (Except CommandError (Option Command)) :=
  (decode? line).map Command.parseChars

theorem reading_utf8 (line : List Char) : reading (utf8 line) = some (Command.parseChars line) := by
  unfold reading
  rw [decode?_utf8]
  rfl

/-- the lines of the bytes say what those of the text say -/
theorem map_reading_lines (text : List Char) :
    (lines (utf8 text)).map reading =
      (textLines text).map fun line => some (Command.parseChars line) := by
  have hreading : ∀ line, reading (chomp (utf8 line)) = some (Command.parseChars line) := by
    intro line
    rw [chomp_utf8, reading_utf8, parseChars_unreturned]
  unfold lines textLines
  rw [splitOn_utf8]
  rcases List.eq_nil_or_concat (text.splitOn '\n') with hnil | ⟨init, last, hpieces⟩
  · exact absurd hnil (List.splitOn_ne_nil '\n' text)
  · rw [List.concat_eq_append] at hpieces
    rw [hpieces, List.map_append, List.map_singleton]
    simp only [List.getLast?_concat, List.dropLast_concat]
    have hinit : ((init.map utf8).map chomp).map reading =
        (init.map unreturned).map fun line => some (Command.parseChars line) := by
      simp only [List.map_map, Function.comp_def, hreading, parseChars_unreturned]
    -- what is after the last line feed is the only piece that may be no line
    by_cases hlast : last = []
    · subst hlast
      rw [utf8_nil, if_pos rfl, hinit]
      exact congrArg _ (List.append_nil _).symm
    · have hbytes : utf8 last ≠ [] := fun h => hlast (utf8_eq_nil.mp h)
      have hkept : ((some last).filter (· ≠ [])).toList = [last] := by simp [hlast]
      rw [if_neg fun h => hbytes (Option.some.inj h), hkept, List.map_append, List.map_append,
        List.map_append, hinit, List.map_singleton, List.map_singleton, List.map_singleton,
        hreading]

section
variable {line : List UInt8} {r : ScriptRun} {n : Nat} {rest : List (List UInt8)}

theorem runFrom_none (h : reading line = none) :
    runFrom r n (line :: rest) = { r with failed := true } := by
  have hline : decode? line = none := Option.map_eq_none_iff.mp h
  simp only [runFrom, hline]

theorem runFrom_error {e : CommandError} (h : reading line = some (.error e)) :
    runFrom r n (line :: rest) =
      runFrom ⟨r.session.note [.lineSkipped n e], r.out, r.err ++ report n e, r.failed⟩ (n + 1)
        rest := by
  obtain ⟨text, hline, hmeans⟩ := Option.map_eq_some_iff.mp h
  simp only [runFrom, hline, hmeans]

theorem runFrom_silent (h : reading line = some (.ok none)) :
    runFrom r n (line :: rest) = runFrom r (n + 1) rest := by
  obtain ⟨text, hline, hmeans⟩ := Option.map_eq_some_iff.mp h
  simp only [runFrom, hline, hmeans]

theorem runFrom_command {c : Command} (h : reading line = some (.ok (some c))) (hc : c ≠ .quit) :
    runFrom r n (line :: rest) =
      runFrom ⟨r.session.after c, r.out ++ r.session.printed c, r.err, r.failed⟩ (n + 1) rest := by
  obtain ⟨text, hline, hmeans⟩ := Option.map_eq_some_iff.mp h
  simp only [runFrom, hline, hmeans]
  exact if_pos (decide_eq_true hc)

theorem runFrom_quit (h : reading line = some (.ok (some .quit))) :
    runFrom r n (line :: rest) = r := by
  obtain ⟨text, hline, hmeans⟩ := Option.map_eq_some_iff.mp h
  simp only [runFrom, hline, hmeans]
  show ScriptRun.mk r.session (r.out ++ "") r.err r.failed = r
  rw [String.append_empty]

end

/-! ## where a script ends -/

/-- bytes that are those of a text -/
def IsText (bytes : List UInt8) : Prop := ∃ text, bytes = utf8 text

/-- a line that asks for the end of a script -/
def Ends (line : List UInt8) : Prop :=
  ∃ text, line = utf8 text ∧ Command.parseChars text = .ok (some .quit)

theorem reading_eq_none {line : List UInt8} : reading line = none ↔ ¬ IsText line := by
  unfold reading
  rw [Option.map_eq_none_iff]
  exact decode?_eq_none

theorem reading_eq_quit {line : List UInt8} :
    reading line = some (.ok (some .quit)) ↔ Ends line := by
  unfold reading Ends
  rw [Option.map_eq_some_iff]
  exact exists_congr fun text => and_congr_left' decode?_eq_some

instance : DecidablePred IsText := fun _ =>
  decidable_of_iff _ ((not_congr reading_eq_none).trans not_not)

instance : DecidablePred Ends := fun _ => decidable_of_iff _ reading_eq_quit

/-- a script goes on after a line that is text and does not ask for the end -/
theorem goes_on {line : List UInt8} (htext : IsText line) (hends : ¬ Ends line) (r : ScriptRun)
    (n : Nat) :
    ∃ next : ScriptRun, next.failed = r.failed ∧
      ∀ rest, runFrom r n (line :: rest) = runFrom next (n + 1) rest := by
  cases hline : reading line with
  | none => exact absurd htext (reading_eq_none.mp hline)
  | some meant =>
    match meant with
    | .error e =>
      exact ⟨⟨r.session.note [.lineSkipped n e], r.out, r.err ++ report n e, r.failed⟩, rfl,
        fun rest => runFrom_error hline⟩
    | .ok none => exact ⟨r, rfl, fun rest => runFrom_silent hline⟩
    | .ok (some c) =>
      have hc : c ≠ .quit := fun hc => hends (reading_eq_quit.mp (hc ▸ hline))
      exact ⟨⟨r.session.after c, r.out ++ r.session.printed c, r.err, r.failed⟩, rfl,
        fun rest => runFrom_command hline hc⟩

/-- nothing after a line that is no text or asks for the end is read -/
theorem ends_there {line : List UInt8} (h : IsText line → Ends line) (r : ScriptRun) (n : Nat)
    (rest rest' : List (List UInt8)) :
    runFrom r n (line :: rest) = runFrom r n (line :: rest') := by
  by_cases htext : IsText line
  · have hline := reading_eq_quit.mpr (h htext)
    rw [runFrom_quit hline, runFrom_quit hline]
  · have hline := reading_eq_none.mpr htext
    rw [runFrom_none hline, runFrom_none hline]

/-- a line after which nothing is read ends a script, if no other has ended it before -/
theorem runFrom_append_cons {line : List UInt8} (h : IsText line → Ends line) (r : ScriptRun)
    (n : Nat) (before rest rest' : List (List UInt8)) :
    runFrom r n (before ++ line :: rest) = runFrom r n (before ++ line :: rest') := by
  induction before generalizing r n with
  | nil => exact ends_there h r n rest rest'
  | cons l before ih =>
    by_cases hl : IsText l → Ends l
    · exact ends_there hl r n _ _
    · obtain ⟨htext, hends⟩ := Classical.not_imp.mp hl
      obtain ⟨next, -, hnext⟩ := goes_on htext hends r n
      rw [List.cons_append, List.cons_append, hnext, hnext, ih]

/-- the command that a line of bytes asks for, if it asks for one -/
def asked? (line : List UInt8) : Option Command :=
  match reading line with
  | some (.ok c) => c
  | _ => none

/-- the commands on the lines of a script, up to a line that ends it -/
def heeded (lines : List (List UInt8)) : List Command :=
  (lines.takeWhile fun line => decide (IsText line ∧ ¬ Ends line)).filterMap asked?

section
variable {line : List UInt8}

theorem heeded_cons_of_stop (h : IsText line → Ends line) (rest : List (List UInt8)) :
    heeded (line :: rest) = [] := by
  unfold heeded
  rw [List.takeWhile_cons_of_neg (by simpa using h)]
  rfl

theorem heeded_cons {meant : Except CommandError (Option Command)}
    (h : reading line = some meant) (hquit : meant ≠ .ok (some .quit)) (rest : List (List UInt8)) :
    heeded (line :: rest) = (asked? line).toList ++ heeded rest := by
  have htext : IsText line := by
    by_contra huntext
    cases h.symm.trans (reading_eq_none.mpr huntext)
  have hends : ¬ Ends line := fun hends =>
    hquit (Option.some.inj (h.symm.trans (reading_eq_quit.mpr hends)))
  unfold heeded
  rw [List.takeWhile_cons_of_pos (by simp [htext, hends]), List.filterMap_cons]
  cases asked? line <;> rfl

end

/-- what every line of a script keeps, together with the commands that are heeded -/
theorem runFrom_induction {P : List Command → ScriptRun → Prop}
    (untext : ∀ cs r, P cs r → P cs { r with failed := true })
    (skipped : ∀ cs r n e, P cs r →
      P cs ⟨r.session.note [.lineSkipped n e], r.out, r.err ++ report n e, r.failed⟩)
    (heard : ∀ cs r line c, reading line = some (.ok (some c)) → P cs r →
      P (cs ++ [c]) ⟨r.session.after c, r.out ++ r.session.printed c, r.err, r.failed⟩)
    (cs : List Command) {r : ScriptRun} (h : P cs r) (n : Nat) (lines : List (List UInt8)) :
    P (cs ++ heeded lines) (runFrom r n lines) := by
  induction lines generalizing cs r n with
  | nil => rwa [show heeded [] = [] from rfl, List.append_nil]
  | cons line rest ih =>
    cases hline : reading line with
    | none =>
      rw [heeded_cons_of_stop (fun htext => absurd htext (reading_eq_none.mp hline)),
        runFrom_none hline, List.append_nil]
      exact untext cs r h
    | some meant =>
      match meant with
      | .error e =>
        have hasked : asked? line = none := by
          unfold asked?
          rw [hline]
        rw [heeded_cons hline nofun, hasked, runFrom_error hline]
        exact ih cs (skipped cs r n e h) (n + 1)
      | .ok none =>
        have hasked : asked? line = none := by
          unfold asked?
          rw [hline]
        rw [heeded_cons hline nofun, hasked, runFrom_silent hline]
        exact ih cs h (n + 1)
      | .ok (some c) =>
        by_cases hc : c = .quit
        · subst hc
          rw [heeded_cons_of_stop (fun _ => reading_eq_quit.mp hline), runFrom_quit hline,
            List.append_nil]
          exact h
        · have hasked : asked? line = some c := by
            unfold asked?
            rw [hline]
          rw [heeded_cons hline (by simpa using hc), hasked, runFrom_command hline hc,
            Option.toList_some, ← List.append_assoc]
          exact ih (cs ++ [c]) (heard cs r line c hline h) (n + 1)

theorem runFrom_congr (r : ScriptRun) (n : Nat) {ls ls' : List (List UInt8)}
    (h : ls.map reading = ls'.map reading) : runFrom r n ls = runFrom r n ls' := by
  induction ls generalizing r n ls' with
  | nil => rw [List.map_eq_nil_iff.mp h.symm]
  | cons l ls ih =>
    obtain ⟨l', rest, rfl, hl', hrest⟩ := List.map_eq_cons_iff.mp h.symm
    cases hl : reading l with
    | none => rw [runFrom_none hl, runFrom_none (hl'.trans hl)]
    | some meant =>
      rw [hl] at hl'
      match meant with
      | .error e => rw [runFrom_error hl, runFrom_error hl', ih _ _ hrest.symm]
      | .ok none => rw [runFrom_silent hl, runFrom_silent hl', ih _ _ hrest.symm]
      | .ok (some c) =>
        by_cases hc : c = .quit
        · subst hc
          rw [runFrom_quit hl, runFrom_quit hl']
        · rw [runFrom_command hl hc, runFrom_command hl' hc, ih _ _ hrest.symm]

theorem run_utf8 (s : Session) (text : List Char) :
    run s (utf8 text) = runFrom ⟨s, "", "", false⟩ 1 ((textLines text).map utf8) := by
  refine runFrom_congr _ _ ?_
  rw [map_reading_lines, List.map_map]
  exact List.map_congr_left fun line _ => (reading_utf8 line).symm

end TabShell.Script
