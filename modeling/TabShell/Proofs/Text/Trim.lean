import TabShell.Text.Blank
/-!
# What trimming leaves

* `Blanks`, `Solid`    texts of blanks, and texts without any;
* `exists_trim`        a text is what trimming leaves of it, between blanks;
* `trim_eq_self_iff`   trimming leaves alone the texts that neither begin nor end with a blank.
-/

namespace TabShell.Text

variable {s t : List Char}

/-- a text of blanks -/
def Blanks (s : List Char) : Prop := ∀ c ∈ s, isBlank c = true

/-- a text without blanks -/
def Solid (s : List Char) : Prop := ∀ c ∈ s, isBlank c = false

-- the instances go through the text, never through all characters
instance : DecidablePred Blanks := fun s => List.decidableBAll (isBlank · = true) s

instance : DecidablePred Solid := fun s => List.decidableBAll (isBlank · = false) s

theorem Blanks.nil : Blanks [] := nofun

theorem blanks_singleton {c : Char} (h : isBlank c = true) : Blanks [c] := by
  intro d hd
  rwa [List.mem_singleton.mp hd]

theorem Blanks.append (hs : Blanks s) (ht : Blanks t) : Blanks (s ++ t) := by
  intro c hc
  rcases List.mem_append.mp hc with hc | hc
  · exact hs c hc
  · exact ht c hc

theorem blanks_takeWhile (s : List Char) : Blanks (s.takeWhile isBlank) :=
  List.all_eq_true.mp List.all_takeWhile

theorem trimStart_of_head (h : ∀ c ∈ s.head?, isBlank c = false) : trimStart s = s := by
  cases s with
  | nil => rfl
  | cons c s =>
    have hc : isBlank c = false := h c rfl
    unfold trimStart
    rw [List.dropWhile_cons, hc]
    rfl

theorem trimEnd_of_getLast (h : ∀ c ∈ s.getLast?, isBlank c = false) : trimEnd s = s := by
  rw [← List.head?_reverse] at h
  have hreverse := trimStart_of_head h
  unfold trimStart at hreverse
  unfold trimEnd
  rw [hreverse, List.reverse_reverse]

theorem exists_trimStart (s : List Char) : ∃ u, Blanks u ∧ s = u ++ trimStart s :=
  ⟨s.takeWhile isBlank, blanks_takeWhile s, List.takeWhile_append_dropWhile.symm⟩

theorem exists_trimEnd (s : List Char) : ∃ v, Blanks v ∧ s = trimEnd s ++ v := by
  refine ⟨(s.reverse.takeWhile isBlank).reverse, ?_, ?_⟩
  · intro c hc
    exact blanks_takeWhile s.reverse c (List.mem_reverse.mp hc)
  · unfold trimEnd
    rw [← List.reverse_append, List.takeWhile_append_dropWhile, List.reverse_reverse]

theorem exists_trim (s : List Char) : ∃ u v, Blanks u ∧ Blanks v ∧ s = u ++ trim s ++ v := by
  obtain ⟨u, hu, hstart⟩ := exists_trimStart s
  obtain ⟨v, hv, hend⟩ := exists_trimEnd (trimStart s)
  refine ⟨u, v, hu, hv, ?_⟩
  rw [List.append_assoc]
  exact hstart.trans (congrArg (u ++ ·) hend)

theorem head_trimStart (s : List Char) : ∀ c ∈ (trimStart s).head?, isBlank c = false := by
  intro c hc
  have hfirst := List.head?_dropWhile_not isBlank s
  unfold trimStart at hc
  rw [Option.mem_def.mp hc] at hfirst
  exact hfirst

theorem getLast_trimEnd (s : List Char) : ∀ c ∈ (trimEnd s).getLast?, isBlank c = false := by
  unfold trimEnd
  rw [List.getLast?_reverse]
  exact head_trimStart s.reverse

theorem head_trim (s : List Char) : ∀ c ∈ (trim s).head?, isBlank c = false := by
  intro c hc
  obtain ⟨v, -, hend⟩ := exists_trimEnd (trimStart s)
  refine head_trimStart s c ?_
  rw [hend, List.head?_append]
  exact Option.mem_def.mpr (congrArg (·.or v.head?) (Option.mem_def.mp hc))

theorem getLast_trim (s : List Char) : ∀ c ∈ (trim s).getLast?, isBlank c = false :=
  getLast_trimEnd (trimStart s)

theorem trim_eq_self_iff : trim s = s ↔
    (∀ c ∈ s.head?, isBlank c = false) ∧ ∀ c ∈ s.getLast?, isBlank c = false := by
  constructor
  · intro h
    rw [← h]
    exact ⟨head_trim s, getLast_trim s⟩
  · rintro ⟨hhead, hlast⟩
    unfold trim
    rw [trimStart_of_head hhead]
    exact trimEnd_of_getLast hlast

theorem trim_trim (s : List Char) : trim (trim s) = trim s :=
  trim_eq_self_iff.mpr ⟨head_trim s, getLast_trim s⟩

theorem Solid.not_blank (h : Solid s) : ∀ c ∈ s, (!isBlank c) = true := by
  intro c hc
  rw [h c hc]
  rfl

theorem Solid.trim_eq (h : Solid s) : trim s = s :=
  trim_eq_self_iff.mpr ⟨fun c hc => h c (List.mem_of_mem_head? hc),
    fun c hc => h c (List.mem_of_mem_getLast? hc)⟩

theorem mem_of_mem_trim {c : Char} (h : c ∈ trim s) : c ∈ s := by
  obtain ⟨u, v, -, -, hs⟩ := exists_trim s
  rw [hs]
  exact List.mem_append_left v (List.mem_append_right u h)

end TabShell.Text
