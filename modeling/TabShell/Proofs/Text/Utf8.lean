import TabShell.Text.Utf8
/-!
# Which bytes are text

The bytes of a text read back as that text.  Here is the converse: bytes that leave no hole are the
bytes of a text, so nothing else can be read.

* `exists_next`                    a sequence that has begun goes on with a byte within its bounds;
* `utf8EncodeChar_ofNat_one` to `utf8EncodeChar_ofNat_four`
                                   a character that was read from so many bytes has these bytes;
* `exists_utf8EncodeChar_append`   bytes without a hole begin with those of a character;
* `decode?_eq_some`, `decode?_eq_none`   what is text, and what is not.
-/

namespace TabShell.Text

/-- after a sequence that has begun, only a byte within its bounds leaves no hole -/
theorem exists_next {left low high value : Nat} {bs : List UInt8}
    (h : none ∉ scanFrom (some ⟨left, low, high, value⟩) bs) :
    ∃ b rest, bs = b :: rest ∧ (low ≤ b.toNat ∧ b.toNat ≤ high) ∧
      (1 < left →
        none ∉ scanFrom (some ⟨left - 1, 0x80, 0xBF, value * 64 + (b.toNat - 0x80)⟩) rest) := by
  cases bs with
  | nil => exact absurd (List.mem_singleton_self _) h
  | cons b rest =>
    by_cases hb : low ≤ b.toNat ∧ b.toNat ≤ high
    · refine ⟨b, rest, rfl, hb, fun hleft => ?_⟩
      rwa [scanFrom_more hb.1 hb.2 hleft] at h
    · have hread : continueSequence ⟨left, low, high, value⟩ b =
          (none :: (beginSequence b).1, (beginSequence b).2) := if_neg hb
      rw [scanFrom_cons] at h
      simp [readByte, hread] at h

private theorem toNat_ofNat_of_isValidChar {n : Nat} (h : n.isValidChar) :
    (Char.ofNat n).val.toNat = n := by
  unfold Char.ofNat
  rw [dif_pos h]
  rfl

private theorem ofNat_eq {n : Nat} {b : UInt8} (h : n = b.toNat) : UInt8.ofNat n = b := by
  rw [h, UInt8.ofNat_toNat]

theorem utf8EncodeChar_ofNat_one {a : UInt8} (ha : a.toNat < 0x80) :
    String.utf8EncodeChar (Char.ofNat a.toNat) = [a] := by
  have hval := toNat_ofNat_of_isValidChar (n := a.toNat) (.inl (by omega))
  unfold String.utf8EncodeChar
  simp only [hval]
  rw [if_pos (by omega), ofNat_eq rfl]

theorem utf8EncodeChar_ofNat_two {a b : UInt8} (ha : 0xC2 ≤ a.toNat ∧ a.toNat < 0xE0)
    (hb : 0x80 ≤ b.toNat ∧ b.toNat ≤ 0xBF) :
    String.utf8EncodeChar (Char.ofNat ((a.toNat - 0xC0) * 64 + (b.toNat - 0x80))) = [a, b] := by
  have hval := toNat_ofNat_of_isValidChar
    (n := (a.toNat - 0xC0) * 64 + (b.toNat - 0x80)) (.inl (by omega))
  unfold String.utf8EncodeChar
  simp only [hval]
  rw [if_neg (by omega), if_pos (by omega), ofNat_eq (b := a) (by omega),
    ofNat_eq (b := b) (by omega)]

/-- the bounds of the second byte exclude overlong forms and surrogates -/
theorem utf8EncodeChar_ofNat_three {a b c : UInt8} (ha : 0xE0 ≤ a.toNat ∧ a.toNat < 0xF0)
    (hb : (if a.toNat = 0xE0 then 0xA0 else 0x80) ≤ b.toNat ∧
      b.toNat ≤ if a.toNat = 0xED then 0x9F else 0xBF)
    (hc : 0x80 ≤ c.toNat ∧ c.toNat ≤ 0xBF) :
    String.utf8EncodeChar
      (Char.ofNat (((a.toNat - 0xE0) * 64 + (b.toNat - 0x80)) * 64 + (c.toNat - 0x80))) =
      [a, b, c] := by
  have hvalid : Nat.isValidChar
      (((a.toNat - 0xE0) * 64 + (b.toNat - 0x80)) * 64 + (c.toNat - 0x80)) := by
    show _ ∨ _
    split at hb <;> split at hb <;> omega
  have hlow : 0x80 ≤ b.toNat ∧ b.toNat ≤ 0xBF := by split at hb <;> split at hb <;> omega
  have hlong : 0x7FF < ((a.toNat - 0xE0) * 64 + (b.toNat - 0x80)) * 64 + (c.toNat - 0x80) := by
    split at hb <;> omega
  unfold String.utf8EncodeChar
  simp only [toNat_ofNat_of_isValidChar hvalid]
  rw [if_neg (by omega), if_neg (by omega), if_pos (by omega), ofNat_eq (b := a) (by omega),
    ofNat_eq (b := b) (by omega), ofNat_eq (b := c) (by omega)]

/-- the bounds of the second byte exclude overlong forms and values above U+10FFFF -/
theorem utf8EncodeChar_ofNat_four {a b c d : UInt8} (ha : 0xF0 ≤ a.toNat ∧ a.toNat < 0xF5)
    (hb : (if a.toNat = 0xF0 then 0x90 else 0x80) ≤ b.toNat ∧
      b.toNat ≤ if a.toNat = 0xF4 then 0x8F else 0xBF)
    (hc : 0x80 ≤ c.toNat ∧ c.toNat ≤ 0xBF) (hd : 0x80 ≤ d.toNat ∧ d.toNat ≤ 0xBF) :
    String.utf8EncodeChar (Char.ofNat
      ((((a.toNat - 0xF0) * 64 + (b.toNat - 0x80)) * 64 + (c.toNat - 0x80)) * 64 +
        (d.toNat - 0x80))) = [a, b, c, d] := by
  have hlow : 0x80 ≤ b.toNat ∧ b.toNat ≤ 0xBF := by split at hb <;> split at hb <;> omega
  have hlong : 0xFFFF < (((a.toNat - 0xF0) * 64 + (b.toNat - 0x80)) * 64 + (c.toNat - 0x80)) * 64 +
      (d.toNat - 0x80) := by
    split at hb <;> omega
  have hvalid : Nat.isValidChar ((((a.toNat - 0xF0) * 64 + (b.toNat - 0x80)) * 64 +
      (c.toNat - 0x80)) * 64 + (d.toNat - 0x80)) := by
    refine .inr ⟨by omega, ?_⟩
    split at hb <;> split at hb <;> omega
  unfold String.utf8EncodeChar
  simp only [toNat_ofNat_of_isValidChar hvalid]
  rw [if_neg (by omega), if_neg (by omega), if_neg (by omega), ofNat_eq (b := a) (by omega),
    ofNat_eq (b := b) (by omega), ofNat_eq (b := c) (by omega), ofNat_eq (b := d) (by omega)]

/-- bytes without a hole begin with the bytes of a character -/
theorem exists_utf8EncodeChar_append {a : UInt8} {bs : List UInt8} (h : none ∉ scan (a :: bs)) :
    ∃ c rest, a :: bs = String.utf8EncodeChar c ++ rest := by
  have hscan : scan (a :: bs) = (beginSequence a).1 ++ scanFrom (beginSequence a).2 bs :=
    scanFrom_cons none a bs
  rw [hscan] at h
  unfold beginSequence at h
  simp only at h
  split at h
  · next hone => exact ⟨_, bs, by rw [utf8EncodeChar_ofNat_one hone]; rfl⟩
  split at h
  · simp at h
  split at h
  · obtain ⟨b, rest, rfl, hb, -⟩ := exists_next h
    have ha : 0xC2 ≤ a.toNat ∧ a.toNat < 0xE0 := by omega
    exact ⟨_, rest, by rw [utf8EncodeChar_ofNat_two ha hb]; rfl⟩
  split at h
  · obtain ⟨b, rest, rfl, hb, hmore⟩ := exists_next h
    obtain ⟨c, rest, rfl, hc, -⟩ := exists_next (hmore (by omega))
    have ha : 0xE0 ≤ a.toNat ∧ a.toNat < 0xF0 := by omega
    exact ⟨_, rest, by rw [utf8EncodeChar_ofNat_three ha hb hc]; rfl⟩
  split at h
  · obtain ⟨b, rest, rfl, hb, hmore⟩ := exists_next h
    obtain ⟨c, rest, rfl, hc, hlast⟩ := exists_next (hmore (by omega))
    obtain ⟨d, rest, rfl, hd, -⟩ := exists_next (hlast (by omega))
    have ha : 0xF0 ≤ a.toNat ∧ a.toNat < 0xF5 := by omega
    exact ⟨_, rest, by rw [utf8EncodeChar_ofNat_four ha hb hc hd]; rfl⟩
  · simp at h

/-- bytes without a hole are the bytes of a text -/
theorem exists_utf8 (bs : List UInt8) (h : none ∉ scan bs) : ∃ s, bs = utf8 s := by
  match bs with
  | [] => exact ⟨[], rfl⟩
  | a :: bs =>
    obtain ⟨c, rest, hbytes⟩ := exists_utf8EncodeChar_append h
    have hshort : rest.length < (a :: bs).length := by
      have hpos := List.length_pos_iff.mpr (String.utf8EncodeChar_ne_nil (c := c))
      rw [hbytes, List.length_append]
      omega
    rw [hbytes, scan_utf8EncodeChar_append] at h
    obtain ⟨s, hs⟩ := exists_utf8 rest fun hrest => h (List.mem_cons_of_mem _ hrest)
    exact ⟨c :: s, by rw [hbytes, hs, utf8_cons]⟩
  termination_by bs.length
  decreasing_by exact hshort

private theorem notMem_of_mapM_id {α : Type} {os : List (Option α)} {as : List α}
    (h : os.mapM id = some as) : none ∉ os := by
  induction os generalizing as with
  | nil => exact List.not_mem_nil
  | cons o os ih =>
    rw [List.mapM_cons] at h
    obtain ⟨a, ha, h⟩ := Option.bind_eq_some_iff.mp h
    obtain ⟨as', has', -⟩ := Option.bind_eq_some_iff.mp h
    rintro (_ | ⟨_, hmem⟩)
    · cases ha
    · exact ih has' hmem

/-- bytes are read as a text if they are its bytes, and only then -/
theorem decode?_eq_some {bs : List UInt8} {s : List Char} : decode? bs = some s ↔ bs = utf8 s := by
  refine ⟨fun h => ?_, fun h => by rw [h, decode?_utf8]⟩
  obtain ⟨t, rfl⟩ := exists_utf8 bs (notMem_of_mapM_id h)
  rw [decode?_utf8] at h
  rw [Option.some.inj h]

/-- bytes that are those of no text are not read -/
theorem decode?_eq_none {bs : List UInt8} : decode? bs = none ↔ ¬ ∃ s, bs = utf8 s := by
  rw [Option.eq_none_iff_forall_ne_some, not_exists]
  exact forall_congr' fun s => not_congr decode?_eq_some

end TabShell.Text
