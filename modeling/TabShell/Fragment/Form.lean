import TabShell.Text.Utf8
import TabShell.Text.Hexadecimal
/-!
# Parameters in a fragment

A fragment holds parameters, keys with values, in the form `key=value&key=value`.  Bytes outside a
small set are written `%` and two hexadecimal digits, the space is written `+`.

* `Param`                  a key with its value;
* `encodeText`, `decodeText`   one key or value: every text has a written form, and every writing,
                           however malformed, stands for a text;
* `Param.encodeAll`, `Param.decodeAll`   lists of parameters.

`decodeText_encodeText` and `decodeAll_encodeAll` say that what is written reads back.
-/

namespace TabShell.Fragment

open Text

/-- a key with its value -/
structure Param where
  key : String
  value : String
  deriving Repr, DecidableEq

/-! ## one text -/

/-- the bytes that stand for themselves -/
def isPlain (b : UInt8) : Bool :=
  let n := b.toNat
  n = 0x2A || n = 0x2D || n = 0x2E || (0x30 ≤ n && n ≤ 0x39) || (0x41 ≤ n && n ≤ 0x5A) ||
    n = 0x5F || (0x61 ≤ n && n ≤ 0x7A)

/-- the written form of a byte -/
def escapeByte (b : UInt8) : List Char :=
  if isPlain b then [Char.ofNat b.toNat]
  else if b = 0x20 then ['+']
  else ['%', hexUpper (b.toNat / 16), hexUpper (b.toNat % 16)]

/-- the byte of two hexadecimal digits -/
def hexByte? (a b : Char) : Option UInt8 := (hexNumber? [a, b]).map UInt8.ofNat

/-- the bytes that a writing stands for; a `%` without two digits stands for itself -/
def unescapeBytes : List Char → List UInt8
  | [] => []
  | '+' :: r => 0x20 :: unescapeBytes r
  | '%' :: a :: b :: r =>
    match hexByte? a b with
    | some byte => byte :: unescapeBytes r
    | none => 0x25 :: unescapeBytes (a :: b :: r)
  | c :: r => String.utf8EncodeChar c ++ unescapeBytes r

/-- the written form of a text, byte by byte -/
def encodeText (s : List Char) : List Char := (utf8 s).flatMap escapeByte

/-- bytes that are no text give replacement characters -/
def decodeText (s : List Char) : List Char := decodeLossy (unescapeBytes s)

private theorem unescapeBytes_plain :
    ∀ n : Fin 256, isPlain (UInt8.ofNat n) = true →
      Char.ofNat n ≠ '+' ∧ Char.ofNat n ≠ '%' ∧
        String.utf8EncodeChar (Char.ofNat n) = [UInt8.ofNat n] := by
  decide +kernel

private theorem hexByte?_hexUpper :
    ∀ n : Fin 256, hexByte? (hexUpper (n.val / 16)) (hexUpper (n.val % 16)) =
      some (UInt8.ofNat n) := by
  decide +kernel

private theorem ofNat_toNat (b : UInt8) : UInt8.ofNat b.toNat = b := by simp

/-- an escaped byte reads back, whatever follows -/
theorem unescapeBytes_escapeByte_append (b : UInt8) (r : List Char) :
    unescapeBytes (escapeByte b ++ r) = b :: unescapeBytes r := by
  have hlt : b.toNat < 256 := b.toNat_lt
  unfold escapeByte
  split
  · rename_i h
    obtain ⟨hplus, hpercent, henc⟩ := unescapeBytes_plain ⟨b.toNat, hlt⟩ (by simpa using h)
    simp only [ofNat_toNat] at henc hplus hpercent
    rw [List.singleton_append, unescapeBytes.eq_4 _ _ (by simpa using hplus)
      (by intro a b' r' hc; exact absurd hc (by simpa using hpercent)), henc]
    rfl
  split
  · subst b; rfl
  · have h := hexByte?_hexUpper ⟨b.toNat, hlt⟩
    simp only [ofNat_toNat] at h
    simp [unescapeBytes, h]

theorem unescapeBytes_escape_append (bs : List UInt8) (r : List Char) :
    unescapeBytes (bs.flatMap escapeByte ++ r) = bs ++ unescapeBytes r := by
  induction bs with
  | nil => rfl
  | cons b bs ih => simp [unescapeBytes_escapeByte_append, ih]

/-- a text reads back from its written form -/
theorem decodeText_encodeText (s : List Char) : decodeText (encodeText s) = s := by
  have h := unescapeBytes_escape_append (utf8 s) []
  simp only [List.append_nil] at h
  rw [decodeText, encodeText, h, unescapeBytes, List.append_nil, decodeLossy_utf8]

private theorem separators_escapeByte :
    ∀ n : Fin 256, '&' ∉ escapeByte (UInt8.ofNat n) ∧ '=' ∉ escapeByte (UInt8.ofNat n) := by
  decide +kernel

/-- the separators do not occur in a written text -/
theorem separators_encodeText (s : List Char) : '&' ∉ encodeText s ∧ '=' ∉ encodeText s := by
  have h : ∀ b : UInt8, '&' ∉ escapeByte b ∧ '=' ∉ escapeByte b := fun b => by
    simpa only [ofNat_toNat] using separators_escapeByte ⟨b.toNat, b.toNat_lt⟩
  constructor <;> simp only [encodeText, List.mem_flatMap, not_exists, not_and] <;> intro b _
  · exact (h b).1
  · exact (h b).2

/-! ## lists of parameters -/

namespace Param

/-- a key and its value around a `=` -/
def encode (p : Param) : List Char :=
  encodeText p.key.toList ++ '=' :: encodeText p.value.toList

/-- a key and the value after the first `=` -/
def decode (s : List Char) : Param where
  key := String.ofList (decodeText (s.takeWhile (· ≠ '=')))
  value := String.ofList (decodeText ((s.dropWhile (· ≠ '=')).drop 1))

/-- parameters with `&` between them -/
def encodeAll (ps : List Param) : List Char := ['&'].intercalate (ps.map encode)

/-- empty pieces are no parameters -/
def decodeAll (s : List Char) : List Param :=
  ((s.splitOn '&').filter (· ≠ [])).map decode

theorem decode_encode (p : Param) : decode (encode p) = p := by
  have hne : ∀ c ∈ encodeText p.key.toList, decide (c ≠ '=') = true := by
    intro c hc
    have := (separators_encodeText p.key.toList).2
    simp only [decide_eq_true_eq]
    rintro rfl
    exact this hc
  simp only [decode, encode, List.takeWhile_append_of_pos hne, List.dropWhile_append_of_pos hne]
  simp [decodeText_encodeText, String.ofList_toList]

theorem ampersand_encode (p : Param) : '&' ∉ encode p := by
  simp [encode, (separators_encodeText p.key.toList).1, (separators_encodeText p.value.toList).1]

theorem encode_ne_nil (p : Param) : encode p ≠ [] := by simp [encode]

/-- a list of parameters reads back from its written form -/
theorem decodeAll_encodeAll (ps : List Param) : decodeAll (encodeAll ps) = ps := by
  cases ps with
  | nil => simp [decodeAll, encodeAll, List.intercalate]
  | cons p ps =>
    have hsplit : (encodeAll (p :: ps)).splitOn '&' = (p :: ps).map encode :=
      List.splitOn_intercalate '&'
        (by simpa using ⟨ampersand_encode p, fun q _ => ampersand_encode q⟩) (by simp)
    have hall : ((p :: ps).map encode).filter (· ≠ []) = (p :: ps).map encode := by
      rw [List.filter_eq_self]
      simp [encode_ne_nil]
    rw [decodeAll, hsplit, hall, List.map_map]
    simp [Function.comp_def, decode_encode]

end Param

end TabShell.Fragment
