/-!
# Blank characters and the words between them

The blanks are the characters with the Unicode property `White_Space`.

* `isBlank c`        membership in the property;
* `trimStart`, `trimEnd`, `trim`   a text without the blanks at its ends;
* `splitWord s`      the first word of `s` and what follows the blank that ends it;
* `trim_append_blanks`   blanks added around a text do not change what `trim` leaves.
-/

namespace TabShell.Text

/-- the ranges of code points with the property `White_Space` -/
def blankRanges : List (Nat × Nat) :=
  [(0x09, 0x0D), (0x20, 0x20), (0x85, 0x85), (0xA0, 0xA0), (0x1680, 0x1680), (0x2000, 0x200A),
   (0x2028, 0x2029), (0x202F, 0x202F), (0x205F, 0x205F), (0x3000, 0x3000)]

/-- whether a character is a blank -/
def isBlank (c : Char) : Bool :=
  blankRanges.any fun r => decide (r.1 ≤ c.toNat) && decide (c.toNat ≤ r.2)

/-- a text without the blanks in front -/
def trimStart (s : List Char) : List Char := s.dropWhile isBlank

/-- a text without the blanks behind -/
def trimEnd (s : List Char) : List Char := (s.reverse.dropWhile isBlank).reverse

/-- a text without the blanks at either end -/
def trim (s : List Char) : List Char := trimEnd (trimStart s)

/-- the characters before the first blank, and those after it -/
def splitWord (s : List Char) : List Char × List Char :=
  (s.takeWhile fun c => !isBlank c, (s.dropWhile fun c => !isBlank c).drop 1)

/-- blanks in front are dropped -/
theorem trimStart_append {u : List Char} (hu : ∀ c ∈ u, isBlank c = true) (s : List Char) :
    trimStart (u ++ s) = trimStart s := by
  induction u with
  | nil => rfl
  | cons c u ih =>
    have hc : isBlank c = true := hu c (by simp)
    have : trimStart (c :: (u ++ s)) = trimStart (u ++ s) := by simp [trimStart, hc]
    rw [List.cons_append, this, ih fun d hd => hu d (by simp [hd])]

/-- blanks behind are dropped -/
theorem trimEnd_append {v : List Char} (hv : ∀ c ∈ v, isBlank c = true) (s : List Char) :
    trimEnd (s ++ v) = trimEnd s := by
  have h := trimStart_append (u := v.reverse) (fun c hc => hv c (by simpa using hc)) s.reverse
  simp only [trimStart] at h
  simp [trimEnd, List.reverse_append, h]

theorem trimStart_append_of_ne_nil {s : List Char} (hs : trimStart s ≠ []) (v : List Char) :
    trimStart (s ++ v) = trimStart s ++ v := by
  have : ¬ (s.dropWhile isBlank).isEmpty = true := by simpa [trimStart] using hs
  simp [trimStart, List.dropWhile_append, this]

/-- blanks added around a text do not change what `trim` leaves -/
theorem trim_append_blanks {u v : List Char} (hu : ∀ c ∈ u, isBlank c = true)
    (hv : ∀ c ∈ v, isBlank c = true) (s : List Char) : trim (u ++ s ++ v) = trim s := by
  rw [List.append_assoc, trim, trimStart_append hu]
  by_cases hs : trimStart s = []
  · have hv' : trimStart (s ++ v) = [] := by
      have hv0 : trimStart v = [] := by
        have happend := trimStart_append hv []
        rwa [List.append_nil] at happend
      simp only [trimStart, List.dropWhile_append] at hs hv0 ⊢
      simp [hs, hv0]
    rw [trim, hv', hs]
  · rw [trimStart_append_of_ne_nil hs, trimEnd_append hv, trim]

end TabShell.Text
