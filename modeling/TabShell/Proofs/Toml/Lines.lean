import Mathlib.Data.List.Forall2
import TabShell.Proofs.Toml.Values
/-!
# Documents of plain lines

In the plainest documents every entry and every header has a line of its own, and names need no
quotation marks.  Such a document is read line by line.

* `Says`                 a text that is read as statements, whatever comes after it;
* `says_entry`, `says_header`   a line is read as one statement;
* `present`              the members among named values that may be missing;
* `says_entryLines`, `says_sectionLines`   entries are read as members, a section without entries
                         as nothing.
-/

namespace TabShell.Toml

variable {name key : String} {text r : List Char} {v : Value}

/-! ## names -/

/-- a name that needs no quotation marks -/
def IsWord (name : String) : Prop := name.toList ≠ [] ∧ name.toList.all isBare = true

instance : Decidable (IsWord name) := inferInstanceAs (Decidable (_ ∧ _))

/-- the characters that a plain line begins with -/
def Starts (c : Char) : Prop := c = '[' ∨ isBare c = true

theorem ne_of_isBare {c d : Char} (hc : isBare c = true) (hd : isBare d = false) : c ≠ d := by
  rintro rfl
  cases hc.symm.trans hd

theorem Starts.ne {c d : Char} (hc : Starts c) (hd : isBare d = false) (hopen : d ≠ '[') :
    c ≠ d := by
  rcases hc with rfl | hc
  · exact hopen.symm
  · exact ne_of_isBare hc hd

theorem IsWord.bare (h : IsWord name) : ∀ c ∈ name.toList, isBare c = true :=
  List.all_eq_true.mp h.2

theorem IsWord.exists_cons (h : IsWord name) :
    ∃ c t, name.toList = c :: t ∧ isBare c = true := by
  obtain ⟨c, t, ht⟩ := List.exists_cons_of_ne_nil h.1
  exact ⟨c, t, ht, h.bare c (ht ▸ List.mem_cons_self)⟩

theorem skipBlanks_cons {c : Char} (hc : isBlank c = false) (r : List Char) :
    skipBlanks (c :: r) = c :: r :=
  List.dropWhile_cons_of_neg (by simp [hc])

theorem isBlank_of_isBare {c : Char} (hc : isBare c = true) : isBlank c = false := by
  have hspace : c ≠ ' ' := ne_of_isBare hc rfl
  have htab : c ≠ '\t' := ne_of_isBare hc rfl
  simp [isBlank, hspace, htab]

theorem key?_word (h : IsWord name) {c : Char} (hc : isBare c = false) :
    key? (name.toList ++ c :: r) = some (name.toList, c :: r) := by
  obtain ⟨d, t, ht, hd⟩ := h.exists_cons
  have htake : (name.toList ++ c :: r).takeWhile isBare = name.toList := by
    rw [List.takeWhile_append_of_pos h.bare, List.takeWhile_cons_of_neg (by simp [hc]),
      List.append_nil]
  have hdrop : (name.toList ++ c :: r).dropWhile isBare = c :: r := by
    rw [List.dropWhile_append_of_pos h.bare, List.dropWhile_cons_of_neg (by simp [hc])]
  unfold key?
  split
  · next heq =>
    rw [ht] at heq
    exact absurd (List.cons.inj heq).1 (ne_of_isBare hd rfl)
  · next heq =>
    rw [ht] at heq
    exact absurd (List.cons.inj heq).1 (ne_of_isBare hd rfl)
  · rw [htake, hdrop, if_neg h.1]

/-- a name is a whole key, unless a point comes after it -/
theorem keyPath?_word (h : IsWord name) {c d : Char} {u : List Char} (hc : isBare c = false)
    (hu : skipBlanks (c :: r) = d :: u) (hd : d ≠ '.') :
    keyPath? (name.toList ++ c :: r) = some (⟨[], name⟩, d :: u) := by
  obtain ⟨e, t, ht, he⟩ := h.exists_cons
  have hskip : skipBlanks (name.toList ++ c :: r) = name.toList ++ c :: r := by
    rw [ht]
    exact skipBlanks_cons (isBlank_of_isBare he) _
  have hnames : names? (name.toList ++ c :: r) = some ([name], d :: u) := by
    rw [names?, hskip, key?_word h hc]
    simp only [hu]
    split
    · next heq => exact absurd (List.cons.inj heq).1 hd
    · rw [String.ofList_toList]
  unfold keyPath?
  rw [hnames]
  rfl

/-! ## statements -/

theorem statement?_entryLine (h : IsWord key) (hv : Reads text v) (r : List Char) :
    statement? (entryLine key text ++ r) = some (.entry ⟨[], key⟩ v, '\n' :: r) := by
  obtain ⟨c, t, ht, hc⟩ := h.exists_cons
  obtain ⟨d, u, hu, hd⟩ := hv.starts
  have hline : entryLine key text ++ r =
      key.toList ++ ' ' :: '=' :: ' ' :: (text ++ '\n' :: r) := by
    simp [entryLine]
  have hpath : keyPath? (entryLine key text ++ r) =
      some (⟨[], key⟩, '=' :: ' ' :: (text ++ '\n' :: r)) := by
    rw [hline]
    exact keyPath?_word h rfl rfl (by decide)
  have hgap : skipBlanks (' ' :: (text ++ '\n' :: r)) = text ++ '\n' :: r := by
    rw [hu]
    exact skipBlanks_cons hd _
  have hentry : keyValue? (fun r => some (skipBlanks r)) (value? nestingLimit)
      (entryLine key text ++ r) = some ((⟨[], key⟩, v), '\n' :: r) := by
    unfold keyValue?
    rw [hpath]
    show (value? nestingLimit (skipBlanks (' ' :: (text ++ '\n' :: r)))).map _ = _
    rw [hgap, hv.read]
    rfl
  unfold statement?
  split
  · next heq =>
    rw [hline, ht] at heq
    exact absurd (List.cons.inj heq).1 (ne_of_isBare hc rfl)
  · next heq =>
    rw [hline, ht] at heq
    exact absurd (List.cons.inj heq).1 (ne_of_isBare hc rfl)
  · rw [hentry]
    rfl

theorem statement?_header (h : IsWord name) (r : List Char) :
    statement? ('[' :: name.toList ++ [']', '\n'] ++ r) =
      some (.header false ⟨[], name⟩, '\n' :: r) := by
  obtain ⟨c, t, ht, hc⟩ := h.exists_cons
  have hline : '[' :: name.toList ++ [']', '\n'] ++ r =
      '[' :: (name.toList ++ ']' :: '\n' :: r) := by
    simp
  have hpath : keyPath? (name.toList ++ ']' :: '\n' :: r) =
      some (⟨[], name⟩, ']' :: '\n' :: r) :=
    keyPath?_word h rfl rfl (by decide)
  rw [hline]
  unfold statement?
  split
  · next heq =>
    rw [ht] at heq
    exact absurd (List.cons.inj (List.cons.inj heq).2).1 (ne_of_isBare hc rfl)
  · next heq =>
    rw [← (List.cons.inj heq).2, hpath]
    rfl
  · next hopen => exact absurd rfl (hopen _)

/-- a text that is read as statements, whatever comes after it -/
structure Says (text : List Char) (sts : List Statement) : Prop where
  starts : ∀ c ∈ text.head?, Starts c
  read : ∀ r, statements? (text ++ r) = (statements? r).map (sts ++ ·)

theorem voidAfter?_of_starts {c : Char} (hc : Starts c) (r : List Char) :
    voidAfter? false (c :: r) = some (c :: r) := by
  have hnewline : c ≠ '\n' := hc.ne rfl (by decide)
  have hblank : isBlank c = false := by
    rcases hc with rfl | hc
    · rfl
    · exact isBlank_of_isBare hc
  have hcomment : c ≠ '#' := hc.ne rfl (by decide)
  rw [voidAfter?.eq_4 _ _ fun _ h => absurd h (hc.ne rfl (by decide))]
  simp [hnewline, hblank, hcomment]

namespace Says

variable {text' : List Char} {sts sts' : List Statement}

theorem nil : Says [] [] where
  starts := by simp
  read r := by simp

theorem append (h : Says text sts) (h' : Says text' sts') : Says (text ++ text') (sts ++ sts') where
  starts := by
    cases text with
    | nil => exact h'.starts
    | cons c t => exact h.starts
  read r := by
    rw [List.append_assoc, h.read, h'.read, Option.map_map]
    simp only [Function.comp_def, List.append_assoc]

theorem statements?_eq (h : Says text sts) : statements? text = some sts := by
  have hread := h.read []
  have hnil : statements? [] = some [] := by rw [statements?]; rfl
  rw [List.append_nil, hnil, Option.map_some, List.append_nil] at hread
  exact hread

/-- a line that is read as a statement -/
theorem line {c : Char} {t : List Char} {st : Statement} (hc : Starts c)
    (h : ∀ r, statement? (c :: t ++ r) = some (st, '\n' :: r)) : Says (c :: t) [st] where
  starts d hd := Option.some.inj hd ▸ hc
  read r := by
    have hstatement : statement? (c :: (t ++ r)) = some (st, '\n' :: r) := h r
    have hend : lineEnd? false ('\n' :: r) = some r := rfl
    have hshort : r.length < (c :: (t ++ r)).length := by
      rw [List.length_cons, List.length_append]
      omega
    rw [List.cons_append, statements?, voidAfter?_of_starts hc]
    simp only [hstatement, hend, if_pos hshort]
    rfl

end Says

theorem says_entry (h : IsWord key) (hv : Reads text v) :
    Says (entryLine key text) [.entry ⟨[], key⟩ v] := by
  obtain ⟨c, t, ht, hc⟩ := h.exists_cons
  have hline : entryLine key text = c :: (t ++ [' ', '=', ' '] ++ text ++ ['\n']) := by
    rw [entryLine, ht]
    simp
  have hread := statement?_entryLine h hv
  rw [hline] at hread ⊢
  exact .line (.inr hc) hread

theorem says_header (h : IsWord name) :
    Says ('[' :: name.toList ++ [']', '\n']) [.header false ⟨[], name⟩] :=
  .line (.inl rfl) (statement?_header h)

/-! ## members -/

/-- the members among named values that may be missing -/
def present (fs : List (String × Option Value)) : Members :=
  fs.filterMap fun f => f.2.map (f.1, ·)

/-- an entry that is read as a member, or both missing -/
structure EntryReads (e : String × Option (List Char)) (f : String × Option Value) : Prop where
  name : e.1 = f.1
  word : IsWord f.1
  value : Option.Rel Reads e.2 f.2

theorem EntryReads.map {α : Type} {text : α → List Char} {value : α → Value} (hkey : IsWord key)
    (h : ∀ a, Reads (text a) (value a)) (o : Option α) :
    EntryReads (key, o.map text) (key, o.map value) where
  name := rfl
  word := hkey
  value := by
    cases o with
    | none => exact .none
    | some a => exact .some (h a)

/-- members, each as an entry -/
def entries (ms : Members) : List Statement := ms.map fun m => .entry ⟨[], m.1⟩ m.2

/-- a header with members, nothing if there are none -/
def sectionStatements (t : String × Members) : List Statement :=
  if t.2 = [] then [] else .header false ⟨[], t.1⟩ :: entries t.2

variable {es : List (String × Option (List Char))} {fs : List (String × Option Value)}

theorem says_entryLines (h : List.Forall₂ EntryReads es fs) :
    Says (entryLines es) (entries (present fs)) := by
  induction h with
  | nil => exact .nil
  | @cons e f es fs he _ ih =>
    obtain ⟨key, text⟩ := e
    obtain ⟨name, v⟩ := f
    obtain ⟨rfl, hword, hvalue⟩ := he
    cases hvalue with
    | none => exact ih
    | some hreads => exact (says_entry hword hreads).append ih

theorem isNone_of_present (h : List.Forall₂ EntryReads es fs) :
    es.all (·.2.isNone) = true ↔ present fs = [] := by
  induction h with
  | nil => exact iff_of_true rfl rfl
  | @cons e f es fs he _ ih =>
    obtain ⟨key, text⟩ := e
    obtain ⟨name, v⟩ := f
    obtain ⟨-, -, hvalue⟩ := he
    cases hvalue with
    | none => exact ih
    | some hreads => simp [present]

theorem says_sectionLines (hname : IsWord name) (h : List.Forall₂ EntryReads es fs) :
    Says (sectionLines name es) (sectionStatements (name, present fs)) := by
  unfold sectionLines sectionStatements
  by_cases hempty : present fs = []
  · rw [if_pos ((isNone_of_present h).mpr hempty), if_pos hempty]
    exact .nil
  · rw [if_neg (mt (isNone_of_present h).mp hempty), if_neg hempty]
    exact (says_header hname).append (says_entryLines h)

end TabShell.Toml
