import Mathlib.Data.List.Basic
import Mathlib.Data.List.TakeWhile
import TabShell.Command
import TabShell.Proofs.Text.Trim
/-!
# The space around words

What a line means does not depend on the blanks around its words, nor, in a list of ids, on the
commas without an id between them.

* `parse_words`         a name and an argument, whatever blanks are around them;
* `commas_induction`    texts by what is between their commas;
* `Apart`, `Loosened`   the places of a list of ids where no id is, and lists with more put in there;
* `splitIds_loosened`   it has the same ids;
* `parse_spaced`        lines with more space in them.
-/

namespace TabShell

open Text

namespace Command

/-! ## a name and an argument -/

section
variable {name w : List Char}

theorem splitWord_name (hname : Solid name) : splitWord name = (name, []) := by
  unfold splitWord
  rw [List.takeWhile_eq_self_iff.mpr hname.not_blank, List.dropWhile_eq_nil_iff.mpr hname.not_blank]
  rfl

theorem splitWord_append (hname : Solid name) {c : Char} (hc : isBlank c = true)
    (rest : List Char) : splitWord (name ++ c :: rest) = (name, rest) := by
  unfold splitWord
  rw [List.takeWhile_append_of_pos hname.not_blank, List.dropWhile_append_of_pos hname.not_blank,
    List.takeWhile_cons_of_neg (by simp [hc]), List.dropWhile_cons_of_neg (by simp [hc]),
    List.append_nil]
  rfl

theorem head?_append_name (hne : name ≠ []) (rest : List Char) :
    (name ++ rest).head? = name.head? := by
  cases name with
  | nil => exact absurd rfl hne
  | cons c name => rfl

theorem trim_words (hname : Solid name) (hne : name ≠ []) {arg : List Char}
    (hsome : trim arg ≠ []) :
    ∃ u, Blanks u ∧ trim (name ++ w ++ arg) = name ++ w ++ (u ++ trim arg) := by
  obtain ⟨u, v, hu, hv, harg⟩ := exists_trim arg
  have hassoc : name ++ w ++ arg = [] ++ (name ++ w ++ (u ++ trim arg)) ++ v := by
    rw [List.nil_append, List.append_assoc (name ++ w), ← harg]
  refine ⟨u, hu, ?_⟩
  rw [hassoc, trim_append_blanks Blanks.nil hv, trim_eq_self_iff]
  constructor
  · rw [List.append_assoc, head?_append_name hne]
    exact fun c hc => hname c (List.mem_of_mem_head? hc)
  · rw [← List.append_assoc, List.getLast?_append_of_ne_nil _ hsome]
    exact getLast_trim arg

theorem words_append (hname : Solid name) (hne : name ≠ []) (hw : Blanks w) (hw' : w ≠ [])
    (arg : List Char) :
    let line := trim (name ++ w ++ arg)
    line.head? = name.head? ∧ (splitWord line).1 = name ∧ trim (splitWord line).2 = trim arg := by
  intro line
  by_cases hnone : trim arg = []
  · obtain ⟨u, v, hu, hv, harg⟩ := exists_trim arg
    rw [hnone, List.append_nil] at harg
    have hblank : Blanks (w ++ arg) := hw.append (harg ▸ hu.append hv)
    have hline : line = name := by
      show trim (name ++ w ++ arg) = name
      rw [List.append_assoc]
      exact (trim_append_blanks Blanks.nil hblank name).trans hname.trim_eq
    rw [hline, splitWord_name hname, hnone]
    exact ⟨rfl, rfl, rfl⟩
  · obtain ⟨u, hu, hline⟩ := trim_words (w := w) hname hne hnone
    obtain ⟨c, w', rfl⟩ := List.exists_cons_of_ne_nil hw'
    have hw'' : Blanks (w' ++ u) := Blanks.append (fun d hd => hw d (List.mem_cons_of_mem c hd)) hu
    have hsecond := trim_append_blanks hw'' Blanks.nil (trim arg)
    rw [List.append_nil, trim_trim, List.append_assoc] at hsecond
    have hfirst := splitWord_append hname (hw c (List.mem_cons_self ..)) (w' ++ (u ++ trim arg))
    show (trim _).head? = _ ∧ (splitWord (trim _)).1 = _ ∧ trim (splitWord (trim _)).2 = _
    rw [hline, List.append_assoc, List.cons_append, head?_append_name hne, hfirst]
    exact ⟨rfl, rfl, hsecond⟩

/-- a line of a name and an argument means what they mean without the blanks around them -/
theorem parseChars_words (hname : Solid name) (hne : name ≠ []) (hw : Blanks w) (hw' : w ≠ [])
    (arg : List Char) :
    parseChars (name ++ w ++ arg) =
      if isSilent name then .ok none else (ofWords name (trim arg)).map some := by
  obtain ⟨hhead, hfirst, hsecond⟩ := words_append hname hne hw hw' arg
  unfold parseChars isSilent
  simp only [hhead, hfirst, hsecond]

end

/-! ## ids between commas -/

theorem splitIds_comma (s t : List Char) : splitIds (s ++ ',' :: t) = splitIds s ++ splitIds t := by
  unfold splitIds
  rw [List.splitOn_append_cons_self, List.map_append, List.filter_append]

theorem splitIds_of_notMem {s : List Char} (h : ',' ∉ s) :
    splitIds s = [trim s].filter (· ≠ []) := by
  unfold splitIds
  rw [List.splitOn_eq_singleton h]
  rfl

/-- texts by what is between their commas -/
theorem commas_induction {motive : List Char → Prop} (plain : ∀ s, ',' ∉ s → motive s)
    (comma : ∀ s t, ',' ∉ s → motive t → motive (s ++ ',' :: t)) (s : List Char) : motive s := by
  by_cases hs : ',' ∈ s
  · obtain ⟨p, t, hsplit, hp⟩ := List.eq_append_cons_of_mem hs
    exact hsplit ▸ comma p t hp (commas_induction plain comma t)
  · exact plain s hs
termination_by s.length
decreasing_by
  rw [hsplit, List.length_append, List.length_cons]
  omega

theorem comma_notMem {s : List Char} (h : Blanks s) : ',' ∉ s := by
  intro hcomma
  exact absurd (h ',' hcomma) (by decide)

theorem splitIds_blanks_append {u : List Char} (hu : Blanks u) (s : List Char) :
    splitIds (u ++ s) = splitIds s := by
  have hplain : ∀ s, ',' ∉ s → splitIds (u ++ s) = splitIds s := by
    intro s hs
    have htrim := trim_append_blanks hu Blanks.nil s
    rw [List.append_nil] at htrim
    rw [splitIds_of_notMem hs, splitIds_of_notMem, htrim]
    simp [comma_notMem hu, hs]
  induction s using commas_induction with
  | plain s hs => exact hplain s hs
  | comma s t hs _ => rw [← List.append_assoc, splitIds_comma, splitIds_comma, hplain s hs]

theorem splitIds_append_blanks {v : List Char} (hv : Blanks v) (s : List Char) :
    splitIds (s ++ v) = splitIds s := by
  induction s using commas_induction with
  | plain s hs =>
    have htrim : trim (s ++ v) = trim s := trim_append_blanks Blanks.nil hv s
    rw [splitIds_of_notMem hs, splitIds_of_notMem, htrim]
    simp [comma_notMem hv, hs]
  | comma s t hs ih =>
    rw [List.append_assoc, List.cons_append, splitIds_comma, splitIds_comma, ih]

theorem splitIds_trim (s : List Char) : splitIds (trim s) = splitIds s := by
  obtain ⟨u, v, hu, hv, hs⟩ := exists_trim s
  have hsame := splitIds_append_blanks hv (u ++ trim s)
  rw [← hs, splitIds_blanks_append hu] at hsame
  exact hsame.symm

/-! ## more blanks and commas -/

def Loose (w : List Char) : Prop := ∀ c ∈ w, isBlank c = true ∨ c = ','

instance : DecidablePred Loose := fun w =>
  List.decidableBAll (fun c => isBlank c = true ∨ c = ',') w

/-- no id runs from one text on into another: but for blanks, the one ends with a comma, or is
nothing, or the other begins with a comma, or is nothing -/
def Apart (s t : List Char) : Prop :=
  (∀ c ∈ (trimEnd s).getLast?, c = ',') ∨ ∀ c ∈ (trimStart t).head?, c = ','

instance (s t : List Char) : Decidable (Apart s t) :=
  @instDecidableOr _ _ (Option.decidableForallMem _) (Option.decidableForallMem _)

/-- a list of ids with more blanks and commas put in, once or several times, where no id is -/
inductive Loosened (s : List Char) : List Char → Prop
  | refl : Loosened s s
  | insert {a b w : List Char} (before : Loosened s (a ++ b)) (apart : Apart a b)
      (loose : Loose w) : Loosened s (a ++ w ++ b)

theorem splitIds_loose_append {w : List Char} (hw : Loose w) (s : List Char) :
    splitIds (w ++ s) = splitIds s := by
  induction w with
  | nil => rfl
  | cons c w ih =>
    have hrest := ih fun d hd => hw d (List.mem_cons_of_mem c hd)
    rcases hw c (List.mem_cons_self ..) with hc | rfl
    · exact (splitIds_blanks_append (blanks_singleton hc) (w ++ s)).trans hrest
    · exact (splitIds_comma [] (w ++ s)).trans hrest

theorem splitIds_append_loose {w : List Char} (hw : Loose w) (s : List Char) :
    splitIds (s ++ w) = splitIds s := by
  induction w generalizing s with
  | nil => rw [List.append_nil]
  | cons c w ih =>
    have hrest := ih (fun d hd => hw d (List.mem_cons_of_mem c hd)) (s ++ [c])
    rw [List.append_assoc] at hrest
    refine hrest.trans ?_
    rcases hw c (List.mem_cons_self ..) with hc | rfl
    · exact splitIds_append_blanks (blanks_singleton hc) s
    · exact (splitIds_comma s []).trans (List.append_nil _)

theorem splitIds_of_blanks {w : List Char} (hw : Blanks w) : splitIds w = [] := by
  have hnone := splitIds_blanks_append hw []
  rwa [List.append_nil] at hnone

theorem exists_last_comma {a : List Char} (h : ∀ c ∈ (trimEnd a).getLast?, c = ',') :
    ∃ v, Blanks v ∧ (a = v ∨ ∃ p, a = p ++ ',' :: v) := by
  obtain ⟨v, hv, ha⟩ := exists_trimEnd a
  refine ⟨v, hv, ?_⟩
  rcases List.eq_nil_or_concat (trimEnd a) with hnil | ⟨p, c, hconcat⟩
  · rw [hnil] at ha
    exact .inl ha
  · rw [hconcat, List.concat_eq_append] at h ha
    have hc : c = ',' := h c (List.getLast?_concat ..)
    rw [hc, List.append_assoc] at ha
    exact .inr ⟨p, ha⟩

theorem exists_first_comma {b : List Char} (h : ∀ c ∈ (trimStart b).head?, c = ',') :
    ∃ u, Blanks u ∧ (b = u ∨ ∃ q, b = u ++ ',' :: q) := by
  obtain ⟨u, hu, hb⟩ := exists_trimStart b
  refine ⟨u, hu, ?_⟩
  cases hstart : trimStart b with
  | nil =>
    rw [hstart, List.append_nil] at hb
    exact .inl hb
  | cons c q =>
    rw [hstart] at h hb
    rw [h c rfl] at hb
    exact .inr ⟨q, hb⟩

theorem splitIds_append {a b : List Char} (h : Apart a b) :
    splitIds (a ++ b) = splitIds a ++ splitIds b := by
  rcases h with hlast | hfirst
  · obtain ⟨v, hv, rfl | ⟨p, rfl⟩⟩ := exists_last_comma hlast
    · rw [splitIds_blanks_append hv, splitIds_of_blanks hv, List.nil_append]
    · rw [List.append_assoc, List.cons_append, splitIds_comma, splitIds_comma,
        splitIds_blanks_append hv, splitIds_of_blanks hv, List.append_nil]
  · obtain ⟨u, hu, rfl | ⟨q, rfl⟩⟩ := exists_first_comma hfirst
    · rw [splitIds_append_blanks hu, splitIds_of_blanks hu, List.append_nil]
    · rw [← List.append_assoc, splitIds_comma, splitIds_comma, splitIds_append_blanks hu,
        splitIds_of_blanks hu, List.nil_append]

theorem splitIds_insert {a b w : List Char} (h : Apart a b) (hw : Loose w) :
    splitIds (a ++ w ++ b) = splitIds (a ++ b) := by
  rw [splitIds_append h]
  rcases h with hlast | hhead
  · have hafter : Apart a (w ++ b) := .inl hlast
    rw [List.append_assoc, splitIds_append hafter, splitIds_loose_append hw]
  · have hbefore : Apart (a ++ w) b := .inr hhead
    rw [splitIds_append hbefore, splitIds_append_loose hw]

theorem splitIds_loosened {s t : List Char} (h : Loosened s t) : splitIds t = splitIds s := by
  induction h with
  | refl => rfl
  | insert _ apart loose ih => exact (splitIds_insert apart loose).trans ih

/-! ## lines -/

theorem parse_words {name w : String} (hname : Solid name.toList) (hne : name ≠ "")
    (hw : Blanks w.toList) (hw' : w ≠ "") (arg : String) :
    parse (name ++ w ++ arg) =
      if isSilent name.toList then .ok none
      else (ofWords name.toList (trim arg.toList)).map some := by
  unfold parse
  rw [String.toList_append, String.toList_append]
  exact parseChars_words hname (mt String.toList_eq_nil_iff.mp hne) hw
    (mt String.toList_eq_nil_iff.mp hw') arg.toList

theorem parse_append_blanks {u v : String} (hu : Blanks u.toList) (hv : Blanks v.toList)
    (line : String) : parse (u ++ line ++ v) = parse line := by
  unfold parse
  rw [String.toList_append, String.toList_append]
  exact parseChars_append_blanks hu hv line.toList

theorem parse_plugins {w : String} (hw : Blanks w.toList) (hw' : w ≠ "") (arg : String) :
    parse ("plugins" ++ w ++ arg) =
      .ok (some (.plugins ((splitIds arg.toList).map String.ofList))) := by
  rw [parse_words (by decide +kernel) (by decide) hw hw', ← splitIds_trim arg.toList]
  rfl

/-- **The space around words does not matter.**  Blanks put around a line, any that are, change
neither its command nor its fault; nor does it matter which blanks part a name from its argument.  A
list of ids stays the same when blanks are put around some of them, and commas between, before or
after them. -/
theorem parse_spaced :
    (∀ u line v : String, Blanks u.toList → Blanks v.toList →
      parse (u ++ line ++ v) = parse line) ∧
    (∀ name w w' arg : String, Solid name.toList →
      Blanks w.toList → w ≠ "" → Blanks w'.toList → w' ≠ "" →
      parse (name ++ w ++ arg) = parse (name ++ w' ++ arg)) ∧
    ∀ w arg arg' : String, Blanks w.toList → w ≠ "" → Loosened arg.toList arg'.toList →
      ∃ ids, parse ("plugins" ++ w ++ arg) = .ok (some (.plugins ids)) ∧
        parse ("plugins" ++ w ++ arg') = .ok (some (.plugins ids)) := by
  refine ⟨fun u line v hu hv => parse_append_blanks hu hv line, ?_, ?_⟩
  · intro name w w' arg hname hw hne hw' hne'
    by_cases hempty : name = ""
    · -- without a name the argument is the line
      have hline : ∀ u : String, Blanks u.toList → parse (name ++ u ++ arg) = parse arg := by
        intro u hu
        have hsame := parse_append_blanks hu (v := "") nofun arg
        rw [String.append_empty] at hsame
        rw [hempty, String.empty_append]
        exact hsame
      rw [hline w hw, hline w' hw']
    · rw [parse_words hname hempty hw hne, parse_words hname hempty hw' hne']
  · intro w arg arg' hw hne hloosened
    refine ⟨_, parse_plugins hw hne arg, ?_⟩
    rw [parse_plugins hw hne arg', splitIds_loosened hloosened]

/-- blanks around a line that lacks its argument, and before an argument that looks like a comment;
a list of ids with blanks and commas at two places -/
theorem parse_spaced_wide :
    parse ("\u3000" ++ "route \t" ++ "\u2028") = .error (.missingArgument "route") ∧
    parse ("select" ++ "\u00a0\t" ++ "# a") = .ok (some (.select (some "# a"))) ∧
    parse ("plugins" ++ " " ++ " ,scalars\u2003,,images") =
      .ok (some (.plugins ["scalars", "images"])) := by
  obtain ⟨haround, hbetween, hids⟩ := parse_spaced
  have hfront : Loosened "scalars,images".toList " ,scalars,images".toList :=
    .insert (a := []) (w := " ,".toList) .refl (by decide +kernel) (by decide +kernel)
  have hloosened : Loosened "scalars,images".toList " ,scalars\u2003,,images".toList :=
    .insert (a := " ,scalars".toList) (b := ",images".toList) (w := "\u2003,".toList) hfront
      (by decide +kernel) (by decide +kernel)
  refine ⟨?_, ?_, ?_⟩
  · exact (haround _ "route \t" _ (by decide +kernel) (by decide +kernel)).trans (by decide +kernel)
  · exact (hbetween "select" _ " " "# a" (by decide +kernel) (by decide +kernel) (by decide)
      (by decide +kernel) (by decide)).trans (by decide +kernel)
  · obtain ⟨ids, hplain, hmore⟩ := hids " " _ _ (by decide +kernel) (by decide) hloosened
    rw [hmore, ← hplain]
    decide +kernel

end Command

end TabShell
