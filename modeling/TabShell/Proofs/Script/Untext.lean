import TabShell.Program
import TabShell.Proofs.Script.Commands
/-!
# Scripts that are not text

A script is read line by line, and only as far as its end.  A line that is no text ends it, too: the
script has failed, and the session is the one that the lines before have left.  Nothing after the
end is read, so nothing there can make a script fail.

* `ended`                    lines put together again;
* `runFrom_append`           a script that goes on after some lines;
* `Broken`, `BrokenAt`       lines of which one is no text, and where the first of them is;
* `failed_runFrom_iff`       such lines make a script fail, and no others;
* `run_pieces`               a script as it is cut at line feeds;
* `run_brokenAt`             a script, and the same script cut before a line that is no text;
* `run_untext`               when a script fails, and what it leaves then.
-/

namespace TabShell.Script

open Text Session

/-- lines put together again, each with its line feed -/
def ended (lines : List (List UInt8)) : List UInt8 := lines.flatMap (· ++ [0x0A])

/-! ## one line -/

/-- the carriage return at the end of a line does not matter -/
theorem reading_chomp (line : List UInt8) : reading (chomp line) = reading line := by
  by_cases htext : IsText line
  · obtain ⟨text, rfl⟩ := htext
    rw [chomp_utf8, reading_utf8, reading_utf8, parseChars_unreturned]
  · have hchomp : ¬ IsText (chomp line) := by
      rintro ⟨text, hline⟩
      unfold chomp at hline
      split at hline
      · next hlast =>
        -- a text with a carriage return after it would be a text
        refine htext ⟨text ++ ['\r'], ?_⟩
        rw [utf8_append, ← hline]
        exact (List.dropLast_append_getLast? _ hlast).symm
      · exact htext ⟨text, hline⟩
    rw [reading_eq_none.mpr htext, reading_eq_none.mpr hchomp]

/-! ## several lines -/

theorem runFrom_append {before : List (List UInt8)} (h : ∀ l ∈ before, IsText l ∧ ¬ Ends l)
    (r : ScriptRun) (n : Nat) (rest : List (List UInt8)) :
    runFrom r n (before ++ rest) = runFrom (runFrom r n before) (n + before.length) rest := by
  induction before generalizing r n with
  | nil => rfl
  | cons l before ih =>
    obtain ⟨htext, hends⟩ := h l (List.mem_cons_self ..)
    obtain ⟨next, -, hnext⟩ := goes_on htext hends r n
    rw [List.cons_append, hnext, hnext, ih fun k hk => h k (List.mem_cons_of_mem l hk),
      List.length_cons, Nat.add_right_comm, Nat.add_assoc]

theorem failed_runFrom {before : List (List UInt8)} (h : ∀ l ∈ before, IsText l ∧ ¬ Ends l)
    (r : ScriptRun) (n : Nat) : (runFrom r n before).failed = r.failed := by
  induction before generalizing r n with
  | nil => rfl
  | cons l before ih =>
    obtain ⟨htext, hends⟩ := h l (List.mem_cons_self ..)
    obtain ⟨next, hfailed, hnext⟩ := goes_on htext hends r n
    rw [hnext, ih fun k hk => h k (List.mem_cons_of_mem l hk), hfailed]

/-- an empty line at the end does not matter -/
theorem runFrom_concat_nil (r : ScriptRun) (n : Nat) (lines : List (List UInt8)) :
    runFrom r n (lines ++ [[]]) = runFrom r n lines := by
  have hempty : reading [] = some (.ok none) := rfl
  induction lines generalizing r n with
  | nil => exact runFrom_silent hempty
  | cons l lines ih =>
    by_cases hl : IsText l → Ends l
    · exact ends_there hl r n _ _
    · obtain ⟨htext, hends⟩ := Classical.not_imp.mp hl
      obtain ⟨next, -, hnext⟩ := goes_on htext hends r n
      rw [List.cons_append, hnext, hnext, ih]

/-- among some lines, one is no text, and none before it asks for the end -/
def Broken (lines : List (List UInt8)) : Prop :=
  ∃ before line after, lines = before ++ line :: after ∧ (∀ l ∈ before, ¬ Ends l) ∧ ¬ IsText line

theorem not_broken_nil : ¬ Broken [] := by
  rintro ⟨before, line, after, heq, -⟩
  exact List.append_ne_nil_of_right_ne_nil before (List.cons_ne_nil line after) heq.symm

theorem broken_cons {line : List UInt8} {lines : List (List UInt8)} :
    Broken (line :: lines) ↔ ¬ IsText line ∨ (¬ Ends line ∧ Broken lines) := by
  constructor
  · rintro ⟨_ | ⟨l, before⟩, untext, after, heq, hbefore, huntext⟩
    · rw [(List.cons.inj heq).1]
      exact .inl huntext
    · obtain ⟨rfl, hlines⟩ := List.cons.inj heq
      exact .inr ⟨hbefore line (List.mem_cons_self ..), before, untext, after, hlines,
        fun l hl => hbefore l (List.mem_cons_of_mem line hl), huntext⟩
  · rintro (huntext | ⟨hends, before, untext, after, rfl, hbefore, huntext⟩)
    · exact ⟨[], line, lines, rfl, nofun, huntext⟩
    · exact ⟨line :: before, untext, after, rfl, List.forall_mem_cons.mpr ⟨hends, hbefore⟩, huntext⟩

/-- where the first line is that is no text, if none before it asks for the end -/
structure BrokenAt (lines before : List (List UInt8)) (line : List UInt8)
    (after : List (List UInt8)) : Prop where
  split : lines = before ++ line :: after
  before : ∀ l ∈ before, IsText l ∧ ¬ Ends l
  untext : ¬ IsText line

theorem Broken.exists_first {lines : List (List UInt8)} (h : Broken lines) :
    ∃ before line after, BrokenAt lines before line after := by
  induction lines with
  | nil => exact absurd h not_broken_nil
  | cons l lines ih =>
    by_cases htext : IsText l
    · rcases broken_cons.mp h with huntext | ⟨hends, h⟩
      · exact absurd htext huntext
      · obtain ⟨before, line, after, rfl, hbefore, huntext⟩ := ih h
        exact ⟨l :: before, line, after, rfl, List.forall_mem_cons.mpr ⟨⟨htext, hends⟩, hbefore⟩,
          huntext⟩
    · exact ⟨[], l, lines, rfl, nofun, htext⟩

/-- a script that has not failed before fails exactly by a line that is no text -/
theorem failed_runFrom_iff {r : ScriptRun} (hr : r.failed = false) (n : Nat)
    (lines : List (List UInt8)) : (runFrom r n lines).failed = true ↔ Broken lines := by
  induction lines generalizing r n with
  | nil => exact iff_of_false (by simp [runFrom, hr]) not_broken_nil
  | cons l lines ih =>
    rw [broken_cons]
    by_cases htext : IsText l
    · by_cases hends : Ends l
      · rw [runFrom_quit (reading_eq_quit.mpr hends), hr]
        simp [htext, hends]
      · obtain ⟨next, hfailed, hnext⟩ := goes_on htext hends r n
        rw [hnext, ih (hfailed.trans hr)]
        simp [htext, hends]
    · rw [runFrom_none (reading_eq_none.mpr htext)]
      simp [htext]

/-! ## scripts -/

theorem notMem_of_mem_splitOn {x : UInt8} {bytes piece : List UInt8}
    (h : piece ∈ bytes.splitOn x) : x ∉ piece := by
  induction bytes generalizing piece with
  | nil =>
    rw [List.mem_singleton.mp h]
    exact List.not_mem_nil
  | cons b bytes ih =>
    rw [List.splitOn_cons_eq_if_modifyHead] at h
    split at h
    · rcases List.mem_cons.mp h with rfl | h
      · exact List.not_mem_nil
      · exact ih h
    · next hb =>
      obtain ⟨first, pieces, hpieces⟩ := List.exists_cons_of_ne_nil (List.splitOn_ne_nil x bytes)
      rw [hpieces, List.modifyHead_cons] at h
      rcases List.mem_cons.mp h with rfl | h
      · rintro (_ | ⟨_, hx⟩)
        · exact hb (beq_self_eq_true x)
        · exact ih (hpieces ▸ List.mem_cons_self ..) hx
      · exact ih (hpieces ▸ List.mem_cons_of_mem first h)

theorem splitOn_ended {before : List (List UInt8)} (h : ∀ l ∈ before, 0x0A ∉ l) :
    (ended before).splitOn 0x0A = before ++ [[]] := by
  induction before with
  | nil => rfl
  | cons l before ih =>
    have hl := List.splitOn_append_cons_self_of_not_mem (h l (List.mem_cons_self ..)) (ended before)
    have hbytes : ended (l :: before) = l ++ 0x0A :: ended before := by
      show (l ++ [0x0A]) ++ ended before = _
      rw [List.append_assoc]
      rfl
    rw [hbytes, hl, ih fun k hk => h k (List.mem_cons_of_mem l hk)]
    rfl

theorem run_pieces (s : Session) (bytes : List UInt8) :
    run s bytes = runFrom ⟨s, "", "", false⟩ 1 (bytes.splitOn 0x0A) := by
  have hchomp : ∀ pieces : List (List UInt8),
      runFrom ⟨s, "", "", false⟩ 1 (pieces.map chomp) = runFrom ⟨s, "", "", false⟩ 1 pieces := by
    intro pieces
    refine runFrom_congr _ _ ?_
    rw [List.map_map]
    exact List.map_congr_left fun l _ => reading_chomp l
  unfold run lines
  rw [hchomp]
  split
  · next hlast =>
    rw [← runFrom_concat_nil, List.dropLast_append_getLast? _ hlast]
  · rfl

/-- the script up to a line that is no text, and the script that is cut before it -/
theorem run_brokenAt (s : Session) {bytes line : List UInt8} {before after : List (List UInt8)}
    (h : BrokenAt (bytes.splitOn 0x0A) before line after) :
    (run s (ended before)).failed = false ∧
      run s bytes = { run s (ended before) with failed := true } := by
  obtain ⟨hsplit, hbefore, huntext⟩ := h
  have hpieces : ∀ l ∈ before, 0x0A ∉ l := by
    intro l hl
    have hpiece : l ∈ bytes.splitOn 0x0A := by
      rw [hsplit]
      exact List.mem_append_left _ hl
    exact notMem_of_mem_splitOn hpiece
  have hcut : run s (ended before) = runFrom ⟨s, "", "", false⟩ 1 before := by
    rw [run_pieces, splitOn_ended hpieces, runFrom_concat_nil]
  refine ⟨?_, ?_⟩
  · rw [hcut]
    exact failed_runFrom hbefore _ 1
  · rw [run_pieces, hsplit, runFrom_append hbefore, runFrom_none (reading_eq_none.mpr huntext), hcut]

theorem not_broken_utf8 (text : List Char) : ¬ Broken ((utf8 text).splitOn 0x0A) := by
  rintro ⟨before, line, after, hsplit, -, huntext⟩
  have hline : line ∈ (utf8 text).splitOn 0x0A := by
    rw [hsplit]
    exact List.mem_append_right _ (List.mem_cons_self ..)
  rw [splitOn_utf8] at hline
  obtain ⟨piece, -, rfl⟩ := List.mem_map.mp hline
  exact huntext ⟨piece, rfl⟩

/-- **A script that stops being text fails cleanly.**  Under every configuration a script of any
bytes fails, with the one message that there is for it, exactly if a line of it is no text and none
before that line asks for the end.  There is a first such line then, and the script has come to what
the lines before it come to, which do not fail: the same session with the same log, and so the same
to see, to report and to warn of, wherever events go.  What comes after a line that asks for the end
does not matter, and a text never fails, whatever its lines say. -/
theorem run_untext (c : Config) (bytes : List UInt8) :
    let script := fun bytes => Program.runScript (start c) (.ok bytes)
    let pieces := bytes.splitOn 0x0A
    ((script bytes).2 = some .notText ↔ Broken pieces) ∧
    ((script bytes).2 = none ↔ ¬ Broken pieces) ∧
    Failure.notText.message = "Failed to read command" ∧
    (Broken pieces → ∃ before line after, BrokenAt pieces before line after) ∧
    (∀ before line after, BrokenAt pieces before line after →
      let cut := script (ended before)
      cut.2 = none ∧ (script bytes).1 = { cut.1 with failed := true } ∧
      ∀ sink, (script bytes).1.seen sink = cut.1.seen sink ∧
        sink.logged (effects (script bytes).1.session.trace) =
          sink.logged (effects cut.1.session.trace)) ∧
    (∀ before line after after' bytes', pieces = before ++ line :: after → Ends line →
      bytes'.splitOn 0x0A = before ++ line :: after' → script bytes' = script bytes) ∧
    (IsText bytes → (script bytes).2 = none) := by
  intro script pieces
  have hresult : ∀ bytes, script bytes =
      (run (start c) bytes, if (run (start c) bytes).failed then some .notText else none) :=
    fun _ => rfl
  have hfails : (run (start c) bytes).failed = true ↔ Broken pieces := by
    rw [run_pieces]
    exact failed_runFrom_iff rfl 1 pieces
  have hfine : (script bytes).2 = none ↔ ¬ Broken pieces := by
    rw [hresult, ← hfails]
    simp
  refine ⟨?_, hfine, rfl, Broken.exists_first, ?_, ?_, ?_⟩
  · rw [hresult, ← hfails]
    simp
  · intro before line after h cut
    obtain ⟨hcut, hsame⟩ := run_brokenAt (start c) h
    have hbytes : (script bytes).1 = { cut.1 with failed := true } := hsame
    refine ⟨?_, hbytes, fun sink => ?_⟩
    · show (if (run (start c) (ended before)).failed = true then _ else _) = _
      rw [hcut]
      rfl
    · rw [hbytes]
      exact ⟨rfl, rfl⟩
  · intro before line after after' bytes' hpieces hends hpieces'
    have hrun : run (start c) bytes' = run (start c) bytes := by
      rw [run_pieces, run_pieces, hpieces']
      exact (runFrom_append_cons (fun _ => hends) _ 1 before after' after).trans
        (congrArg _ hpieces.symm)
    rw [hresult, hresult, hrun]
  · rintro ⟨text, rfl⟩
    exact hfine.mpr (not_broken_utf8 text)

/-- a line cut within a character, after one that is no command; and such a line after the end -/
theorem run_untext_midway :
    let script := fun bytes => Program.runScript (start .default) (.ok bytes)
    let first := utf8 "ready\nfoo\r\nroute /\n".toList
    let broken := first ++ [0xE2, 0x82, 0x0A] ++ utf8 "select a\n".toList
    let closed := first ++ utf8 "exit".toList
    (script broken).2 = some .notText ∧
    (script broken).1 = { (script first).1 with failed := true } ∧
    (script closed).2 = none ∧
    script (closed ++ [0x0A, 0xE2, 0x82, 0x0A]) = script closed := by
  intro script first broken closed
  let before := ["ready", "foo\r", "route /"].map fun line => utf8 line.toList
  have hat : BrokenAt (broken.splitOn 0x0A) before [0xE2, 0x82] [utf8 "select a".toList, []] :=
    ⟨by decide +kernel, by decide +kernel, by decide +kernel⟩
  have hbroken : Broken (broken.splitOn 0x0A) :=
    ⟨_, _, _, hat.split, fun l hl => (hat.before l hl).2, hat.untext⟩
  obtain ⟨hfails, -, -, -, hcut, -, -⟩ := run_untext .default broken
  obtain ⟨-, -, -, -, -, hend, htext⟩ := run_untext .default closed
  have hfirst : ended before = first := by decide +kernel
  refine ⟨hfails.mpr hbroken, ?_, htext (by decide +kernel), ?_⟩
  · rw [← hfirst]
    exact (hcut _ _ _ hat).2.1
  · exact hend before (utf8 "exit".toList) [] [[0xE2, 0x82], []] _ (by decide +kernel)
      (by decide +kernel) (by decide +kernel)

end TabShell.Script
