/-!
# Reading and writing UTF-8

Bytes are read from left to right by an automaton whose memory, `Unfinished`, is the sequence that
has begun and not yet ended.  One pass gives, for each well-formed sequence, its character, and,
for each longest piece that begins a sequence but cannot go on, a hole.

* `utf8 s`        the bytes of a text;
* `scan bs`       the characters and holes of a byte string;
* `decode? bs`    the text, if there is no hole;
* `decodeLossy bs`   the text with U+FFFD in each hole.

`scan_utf8_append` says that the bytes of a text read back as that text, whatever follows.
-/

namespace TabShell.Text

/-- the bytes of a text -/
def utf8 (s : List Char) : List UInt8 := s.flatMap String.utf8EncodeChar

theorem utf8_nil : utf8 [] = [] := rfl

theorem utf8_cons (c : Char) (s : List Char) :
    utf8 (c :: s) = String.utf8EncodeChar c ++ utf8 s := rfl

theorem utf8_append (s t : List Char) : utf8 (s ++ t) = utf8 s ++ utf8 t := by
  simp [utf8, List.flatMap_append]

/-- a sequence that has begun: `left` more bytes are due, the next one between `low` and `high`,
and `value` is what the bytes so far contribute -/
structure Unfinished where
  left : Nat
  low : Nat
  high : Nat
  value : Nat
  deriving Repr, DecidableEq

/-- the effect of a byte: the characters and holes it completes, and the sequence it leaves open -/
abbrev Reading := List (Option Char) × Option Unfinished

/-- a byte where a sequence may begin; the bounds exclude overlong forms, surrogates and values
above U+10FFFF -/
def beginSequence (b : UInt8) : Reading :=
  let n := b.toNat
  if n < 0x80 then ([some (Char.ofNat n)], none)
  else if n < 0xC2 then ([none], none)
  else if n < 0xE0 then ([], some ⟨1, 0x80, 0xBF, n - 0xC0⟩)
  else if n < 0xF0 then
    ([], some ⟨2, if n = 0xE0 then 0xA0 else 0x80, if n = 0xED then 0x9F else 0xBF, n - 0xE0⟩)
  else if n < 0xF5 then
    ([], some ⟨3, if n = 0xF0 then 0x90 else 0x80, if n = 0xF4 then 0x8F else 0xBF, n - 0xF0⟩)
  else ([none], none)

/-- a byte after an unfinished sequence: it goes on with it, or leaves a hole and begins anew -/
def continueSequence (u : Unfinished) (b : UInt8) : Reading :=
  let n := b.toNat
  if u.low ≤ n ∧ n ≤ u.high then
    let value := u.value * 64 + (n - 0x80)
    if u.left ≤ 1 then ([some (Char.ofNat value)], none)
    else ([], some ⟨u.left - 1, 0x80, 0xBF, value⟩)
  else (none :: (beginSequence b).1, (beginSequence b).2)

/-- one byte, whether or not a sequence has begun -/
def readByte : Option Unfinished → UInt8 → Reading
  | none => beginSequence
  | some u => continueSequence u

/-- the characters and holes of bytes that follow an unfinished sequence -/
def scanFrom : Option Unfinished → List UInt8 → List (Option Char)
  | none, [] => []
  | some _, [] => [none]
  | u, b :: r => (readByte u b).1 ++ scanFrom (readByte u b).2 r

/-- the characters and holes of a byte string -/
def scan (bs : List UInt8) : List (Option Char) := scanFrom none bs

/-- the text of a byte string without holes -/
def decode? (bs : List UInt8) : Option (List Char) := (scan bs).mapM id

/-- the text of a byte string, a replacement character in each hole -/
def decodeLossy (bs : List UInt8) : List Char := (scan bs).map fun c => c.getD '\uFFFD'

theorem scanFrom_cons (u : Option Unfinished) (b : UInt8) (r : List UInt8) :
    scanFrom u (b :: r) = (readByte u b).1 ++ scanFrom (readByte u b).2 r := by
  cases u <;> rfl

/-- a lead byte opens its sequence -/
theorem scan_lead {b : UInt8} {u : Unfinished} (h : beginSequence b = ([], some u))
    (r : List UInt8) : scan (b :: r) = scanFrom (some u) r := by
  simp [scan, scanFrom_cons, readByte, h]

/-- a byte within the bounds that is not the last one due -/
theorem scanFrom_more {u : Unfinished} {b : UInt8} (hlow : u.low ≤ b.toNat)
    (hhigh : b.toNat ≤ u.high) (hleft : 1 < u.left) (r : List UInt8) :
    scanFrom (some u) (b :: r) =
      scanFrom (some ⟨u.left - 1, 0x80, 0xBF, u.value * 64 + (b.toNat - 0x80)⟩) r := by
  simp [scanFrom_cons, readByte, continueSequence, hlow, hhigh, Nat.not_le.2 hleft]

/-- a byte within the bounds that is the last one due -/
theorem scanFrom_last {u : Unfinished} {b : UInt8} (hlow : u.low ≤ b.toNat)
    (hhigh : b.toNat ≤ u.high) (hleft : u.left ≤ 1) (r : List UInt8) :
    scanFrom (some u) (b :: r) =
      some (Char.ofNat (u.value * 64 + (b.toNat - 0x80))) :: scan r := by
  simp [scanFrom_cons, readByte, continueSequence, hlow, hhigh, hleft, scan]

private theorem toNat_ofNat_of_lt {n : Nat} (h : n < 256) : (UInt8.ofNat n).toNat = n := by
  simp [UInt8.toNat_ofNat', Nat.mod_eq_of_lt h]

/-- the bytes of one character read back as it -/
theorem scan_utf8EncodeChar_append (c : Char) (r : List UInt8) :
    scan (String.utf8EncodeChar c ++ r) = some c :: scan r := by
  have hc : c.val.toNat < 0xD800 ∨ 0xDFFF < c.val.toNat ∧ c.val.toNat < 0x110000 := by
    simpa [UInt32.isValidChar, Nat.isValidChar] using c.valid
  have hofNat : Char.ofNat c.val.toNat = c := Char.ofNat_toNat c
  generalize hv : c.val.toNat = v at hc hofNat
  unfold String.utf8EncodeChar
  simp only [hv]
  split
  · rename_i h
    have h1 := toNat_ofNat_of_lt (n := v) (by omega)
    simp [scan, scanFrom_cons, readByte, beginSequence, h1, show v < 0x80 by omega, hofNat]
  split
  · rename_i h0 h
    have h1 := toNat_ofNat_of_lt (n := v / 64 % 32 + 192) (by omega)
    have h2 := toNat_ofNat_of_lt (n := v % 64 + 128) (by omega)
    have hlead : beginSequence (UInt8.ofNat (v / 64 % 32 + 192)) =
        ([], some ⟨1, 0x80, 0xBF, v / 64⟩) := by
      simp only [beginSequence, h1]
      rw [if_neg (by omega), if_neg (by omega), if_pos (by omega)]
      simp only [Prod.mk.injEq, Option.some.injEq, Unfinished.mk.injEq, true_and]
      omega
    simp only [List.cons_append, List.nil_append]
    rw [scan_lead hlead,
      scanFrom_last (by simp only [h2]; omega) (by simp only [h2]; omega) (by simp)]
    simp only [h2]
    rw [show v / 64 * 64 + (v % 64 + 128 - 128) = v by omega, hofNat]
  split
  · rename_i h0 h0' h
    have h1 := toNat_ofNat_of_lt (n := v / 4096 % 16 + 224) (by omega)
    have h2 := toNat_ofNat_of_lt (n := v / 64 % 64 + 128) (by omega)
    have h3 := toNat_ofNat_of_lt (n := v % 64 + 128) (by omega)
    have hlead : beginSequence (UInt8.ofNat (v / 4096 % 16 + 224)) =
        ([], some ⟨2, if v / 4096 = 0 then 0xA0 else 0x80,
          if v / 4096 = 13 then 0x9F else 0xBF, v / 4096⟩) := by
      simp only [beginSequence, h1]
      rw [if_neg (by omega), if_neg (by omega), if_neg (by omega), if_pos (by omega)]
      simp only [show v / 4096 % 16 + 224 = 224 ↔ v / 4096 = 0 by omega,
        show v / 4096 % 16 + 224 = 237 ↔ v / 4096 = 13 by omega,
        show v / 4096 % 16 + 224 - 224 = v / 4096 by omega]
    simp only [List.cons_append, List.nil_append]
    rw [scan_lead hlead, scanFrom_more (by simp only [h2]; split <;> omega)
      (by simp only [h2]; split <;> omega) (by simp),
      scanFrom_last (by simp only [h3]; omega) (by simp only [h3]; omega) (by simp)]
    simp only [h2, h3]
    rw [show (v / 4096 * 64 + (v / 64 % 64 + 128 - 128)) * 64 + (v % 64 + 128 - 128) = v by omega,
      hofNat]
  · rename_i h0 h0' h
    have h1 := toNat_ofNat_of_lt (n := v / 262144 % 8 + 240) (by omega)
    have h2 := toNat_ofNat_of_lt (n := v / 4096 % 64 + 128) (by omega)
    have h3 := toNat_ofNat_of_lt (n := v / 64 % 64 + 128) (by omega)
    have h4 := toNat_ofNat_of_lt (n := v % 64 + 128) (by omega)
    have hlead : beginSequence (UInt8.ofNat (v / 262144 % 8 + 240)) =
        ([], some ⟨3, if v / 262144 = 0 then 0x90 else 0x80,
          if v / 262144 = 4 then 0x8F else 0xBF, v / 262144⟩) := by
      simp only [beginSequence, h1]
      rw [if_neg (by omega), if_neg (by omega), if_neg (by omega), if_neg (by omega),
        if_pos (by omega)]
      simp only [show v / 262144 % 8 + 240 = 240 ↔ v / 262144 = 0 by omega,
        show v / 262144 % 8 + 240 = 244 ↔ v / 262144 = 4 by omega,
        show v / 262144 % 8 + 240 - 240 = v / 262144 by omega]
    simp only [List.cons_append, List.nil_append]
    rw [scan_lead hlead, scanFrom_more (by simp only [h2]; split <;> omega)
      (by simp only [h2]; split <;> omega) (by simp),
      scanFrom_more (by simp only [h3]; omega) (by simp only [h3]; omega) (by simp),
      scanFrom_last (by simp only [h4]; omega) (by simp only [h4]; omega) (by simp)]
    simp only [h2, h3, h4]
    rw [show ((v / 262144 * 64 + (v / 4096 % 64 + 128 - 128)) * 64 +
      (v / 64 % 64 + 128 - 128)) * 64 + (v % 64 + 128 - 128) = v by omega, hofNat]

/-- the bytes of a text read back as it, whatever follows -/
theorem scan_utf8_append (s : List Char) (r : List UInt8) :
    scan (utf8 s ++ r) = s.map some ++ scan r := by
  induction s with
  | nil => rfl
  | cons c s ih => simp [utf8_cons, scan_utf8EncodeChar_append, ih]

theorem scan_utf8 (s : List Char) : scan (utf8 s) = s.map some := by
  simpa [scan, scanFrom] using scan_utf8_append s []

theorem decodeLossy_utf8 (s : List Char) : decodeLossy (utf8 s) = s := by
  simp [decodeLossy, scan_utf8, Function.comp_def]

theorem decode?_utf8 (s : List Char) : decode? (utf8 s) = some s := by
  rw [decode?, scan_utf8]
  induction s with
  | nil => rfl
  | cons c s ih => simp [ih]

end TabShell.Text
