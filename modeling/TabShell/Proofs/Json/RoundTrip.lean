import Mathlib.Data.List.TakeWhile
import TabShell.Json.Printer
import TabShell.Json.Reader
import TabShell.Proofs.Text.Decimal
/-!
# What is printed reads back

A value is printed with a line for each of its parts, and the reader finds the same value there,
whatever follows, unless a number could go on into it.

* `Plain`            the values whose strings are escaped texts and whose numbers are decimals;
* `Ends`             the texts into which no number goes on;
* `block`            what stands after the opening bracket of an array or an object;
* `value?_render`    a printed value is read, and what follows is left;
* `read?_render`     the whole of a text is read, up to blanks at its end.
-/

namespace TabShell.Json

/-- values made of texts and natural numbers -/
inductive Plain : Json → Prop
  | null : Plain null
  | bool (b : Bool) : Plain (bool b)
  | ofNat (n : Nat) : Plain (ofNat n)
  | ofText (s : String) : Plain (ofText s)
  | array {vs : List Json} (items : ∀ v ∈ vs, Plain v) : Plain (array vs)
  | object {ms : List (List Char × Json)} (keys : ∀ m ∈ ms, ∃ s, m.1 = escape s)
      (values : ∀ m ∈ ms, Plain m.2) : Plain (object ms)

/-- texts into which no number goes on -/
def Ends (r : List Char) : Prop :=
  ∀ c ∈ r.head?, c.isDigit = false ∧ c ≠ '.' ∧ c ≠ 'e' ∧ c ≠ 'E'

theorem ends_of_spaces {r : List Char} (h : ∀ c ∈ r, isSpace c = true) : Ends r := by
  intro c hc
  have hspace := h c (List.mem_of_mem_head? hc)
  unfold isSpace at hspace
  simp only [Bool.or_eq_true, decide_eq_true_eq] at hspace
  rcases hspace with ((rfl | rfl) | rfl) | rfl <;> decide

/-! ## strings -/

theorem literal?_short {c e : Char} (hc : shortEscape? c = some e) (r : List Char) :
    literal? ('\\' :: c :: r) = (literal? r).map fun p => ('\\' :: c :: p.1, p.2) := by
  have hu : c ≠ 'u' := by
    rintro rfl
    cases (show shortEscape? 'u' = none by decide).symm.trans hc
  rw [literal?.eq_3 _ _ (by rintro _ _ _ _ _ rfl; contradiction), if_pos (by simp [hc])]

theorem literal?_code {a b c d : Char} {n : Nat} (h : hex4? a b c d = some n) (r : List Char) :
    literal? ('\\' :: 'u' :: a :: b :: c :: d :: r) =
      (literal? r).map fun p => ('\\' :: 'u' :: a :: b :: c :: d :: p.1, p.2) := by
  rw [literal?.eq_2, if_pos (by simp [h])]

theorem literal?_plain {c : Char} (hmark : c ≠ '"') (hslash : c ≠ '\\') (hc : ¬ c.toNat < 0x20)
    (r : List Char) : literal? (c :: r) = (literal? r).map fun p => (c :: p.1, p.2) := by
  rw [literal?.eq_4 _ _ (by rintro _ _ _ _ _ rfl; contradiction) (by rintro _ _ rfl; contradiction),
    if_neg hmark, if_neg (not_or.mpr ⟨hslash, hc⟩)]

theorem literal?_escapeChar (c : Char) (r : List Char) :
    literal? (escapeChar c ++ r) = (literal? r).map fun p => (escapeChar c ++ p.1, p.2) := by
  unfold escapeChar
  iterate 7
    split
    · subst c
      exact literal?_short rfl r
  split
  · next hc =>
    have key : ∀ n : Fin 0x20, hex4? '0' '0' (Nat.digitChar (n.val / 16))
        (Nat.digitChar (n.val % 16)) = some n.val := by decide
    exact literal?_code (key ⟨c.toNat, hc⟩) r
  · exact literal?_plain (by assumption) (by assumption) (by assumption) r

/-- an escaped text is the inside of a string -/
theorem literal?_escape (s r : List Char) :
    literal? (escape s ++ '"' :: r) = some (escape s, r) := by
  induction s with
  | nil => rfl
  | cons c s ih =>
    rw [escape_cons, List.append_assoc, literal?_escapeChar, ih]
    rfl

/-! ## numbers -/

theorem digits_append {ds r : List Char} (hds : ∀ c ∈ ds, c.isDigit = true) (hr : Ends r) :
    digits (ds ++ r) = (ds, r) := by
  unfold digits
  rw [List.takeWhile_append_of_pos hds, List.dropWhile_append_of_pos hds]
  cases r with
  | nil => rw [List.takeWhile_nil, List.append_nil, List.dropWhile_nil]
  | cons c r =>
    have hc : ¬ c.isDigit = true := by simp [(hr c rfl).1]
    rw [List.takeWhile_cons_of_neg hc, List.dropWhile_cons_of_neg hc, List.append_nil]

theorem whole?_decimal (n : Nat) {r : List Char} (hr : Ends r) :
    whole? (Text.decimal n ++ r) = some (Text.decimal n, r) := by
  have hdigits : digits (Text.decimal n ++ r) = (Text.decimal n, r) :=
    digits_append (fun _ => Text.isDigit_decimal) hr
  have hne : Text.decimal n ≠ [] := Nat.toDigits_ne_nil
  unfold whole?
  split
  · next t ht =>
    obtain ⟨c, u, hu⟩ := List.exists_cons_of_ne_nil hne
    rw [hu] at ht ⊢
    obtain ⟨rfl, htail⟩ := List.cons.inj ht
    obtain rfl := Text.decimal_of_zero_cons hu
    rw [← htail]
    rfl
  · rw [hdigits, if_neg hne]

theorem numeral?_decimal (n : Nat) {r : List Char} (hr : Ends r) :
    numeral? (Text.decimal n ++ r) = some (Text.decimal n, r) := by
  obtain ⟨c, u, hdecimal, hdigit⟩ := Text.exists_decimal_cons n
  have hminus : c ≠ '-' := by
    rintro rfl
    cases hdigit
  have hfraction : fraction? r = some ([], r) := by
    unfold fraction?
    split
    · next t => exact absurd rfl (hr '.' rfl).2.1
    · rfl
  have hexponent : exponent? r = some ([], r) := by
    unfold exponent?
    split
    · next c t => rw [if_neg (not_or.mpr (hr c rfl).2.2)]
    · rfl
  have hwhole := whole?_decimal n hr
  unfold numeral?
  rw [hdecimal] at hwhole ⊢
  split
  next minus rest hsign =>
    split at hsign
    · next t ht => exact absurd (List.cons.inj ht).1 hminus
    · cases hsign
      rw [hwhole]
      simp [hfraction, hexponent]

/-! ## parts of a value -/

theorem skip_cons {c : Char} (hc : isSpace c = false) (r : List Char) : skip (c :: r) = c :: r :=
  List.dropWhile_cons_of_neg (by simp [hc])

theorem skip_newline (depth : Nat) (r : List Char) : skip (newline depth ++ r) = skip r := by
  refine List.dropWhile_append_of_pos fun c hc => ?_
  rcases List.mem_cons.mp hc with rfl | hc
  · rfl
  · rw [List.eq_of_mem_replicate hc]
    rfl

theorem value?_newline (nesting depth : Nat) (r : List Char) :
    value? nesting (newline depth ++ r) = value? nesting r := by
  cases nesting with
  | zero => rfl
  | succ nesting => rw [value?, skip_newline, value?]

theorem member?_newline (value? : List Char → Option (Json × List Char)) (depth : Nat)
    (r : List Char) : member? value? (newline depth ++ r) = member? value? r := by
  unfold member?
  rw [skip_newline]

section
variable {α : Type} {close : Char} {item? : List Char → Option (α × List Char)}
  {write : α → List Char}

/-- the parts after the first, each on a line of its own -/
def separated (depth : Nat) (write : α → List Char) (as : List α) : List Char :=
  as.flatMap fun a => ',' :: newline depth ++ write a

/-- what stands after an opening bracket, up to the closing one -/
def block (close : Char) (depth : Nat) (write : α → List Char) : List α → List Char
  | [] => [close]
  | a :: as =>
    newline (depth + 1) ++ write a ++ separated (depth + 1) write as ++ newline depth ++ [close]

theorem separated_cons (depth : Nat) (a : α) (as : List α) :
    separated depth write (a :: as) = ',' :: newline depth ++ write a ++ separated depth write as :=
  List.flatMap_cons

theorem ends_separated (write : α → List Char) (depth depth' : Nat) (as : List α) (r : List Char) :
    Ends (separated depth write as ++ (newline depth' ++ r)) := by
  cases as with
  | nil =>
    intro c hc
    cases hc
    decide
  | cons a as =>
    intro c hc
    cases hc
    decide

theorem length_le_separated (write : α → List Char) {a : α} {as : List α} (ha : a ∈ as)
    (depth : Nat) : (write a).length ≤ (separated depth write as).length := by
  obtain ⟨before, after, rfl⟩ := List.append_of_mem ha
  unfold separated
  rw [List.flatMap_append, List.flatMap_cons]
  simp only [List.length_append, List.length_cons]
  omega

theorem length_lt_block (close : Char) (write : α → List Char) {a : α} {as : List α} (ha : a ∈ as)
    (depth : Nat) : (write a).length < (block close depth write as).length := by
  cases as with
  | nil => cases ha
  | cons b as =>
    unfold block
    simp only [List.length_append, List.length_cons]
    rcases List.mem_cons.mp ha with rfl | ha
    · omega
    · have hle := length_le_separated write ha (depth + 1)
      omega

theorem items?_last {s r t : List Char} {a : α} (hitem : item? s = some (a, r))
    (hr : skip r = close :: t) (hclose : close ≠ ',') :
    items? close item? s = some ([a], t) := by
  rw [items?, hitem]
  simp only
  split
  · next u hu =>
    rw [hr] at hu
    exact absurd (List.cons.inj hu).1 hclose
  · next c u _ hu =>
    rw [hr] at hu
    obtain ⟨rfl, rfl⟩ := List.cons.inj hu
    rw [if_pos rfl]
  · next hu =>
    rw [hr] at hu
    cases hu

theorem items?_comma {s r t : List Char} {a : α} (hitem : item? s = some (a, r))
    (hr : skip r = ',' :: t) (hlen : t.length < s.length) :
    items? close item? s = (items? close item? t).map fun p => (a :: p.1, p.2) := by
  rw [items?, hitem]
  simp only
  split
  · next u hu =>
    rw [hr] at hu
    obtain ⟨-, rfl⟩ := List.cons.inj hu
    rw [if_pos hlen]
  · next c u hne hu =>
    rw [hr] at hu
    obtain ⟨rfl, rfl⟩ := List.cons.inj hu
    exact absurd rfl hne
  · next hu =>
    rw [hr] at hu
    cases hu

/-- the parts are read, once the first of them has been -/
theorem items?_separated {depth depth' : Nat} {as : List α} (hclose : isSpace close = false)
    (hcomma : close ≠ ',')
    (hread : ∀ b ∈ as, ∀ r, Ends r → item? (newline depth ++ write b ++ r) = some (b, r))
    {s r : List Char} {a : α}
    (hfirst : item? s = some (a, separated depth write as ++ (newline depth' ++ close :: r)))
    (hlen : (separated depth write as ++ (newline depth' ++ close :: r)).length ≤ s.length) :
    items? close item? s = some (a :: as, r) := by
  induction as generalizing s a with
  | nil =>
    have hskip : skip (newline depth' ++ close :: r) = close :: r := by
      rw [skip_newline, skip_cons hclose]
    exact items?_last hfirst hskip hcomma
  | cons b as ih =>
    rw [separated_cons] at hfirst hlen
    have hnext := hread b (List.mem_cons_self ..) _
      (ends_separated write depth depth' as (close :: r))
    have hrest := ih (fun c hc => hread c (List.mem_cons_of_mem b hc)) hnext
      (List.suffix_append _ _).length_le
    have hskip : skip (',' :: newline depth ++ write b ++ separated depth write as ++
        (newline depth' ++ close :: r)) = ',' :: (newline depth ++ write b ++
          (separated depth write as ++ (newline depth' ++ close :: r))) := by
      rw [List.append_assoc _ (separated depth write as)]
      exact skip_cons rfl _
    rw [items?_comma hfirst hskip, hrest]
    · rfl
    · rw [List.append_assoc _ (separated depth write as)] at hlen
      exact hlen

theorem bracketed?_block (close : Char) {depth : Nat} {as : List α} (hclose : isSpace close = false)
    (hcomma : close ≠ ',') (hblank : ∀ r, item? (newline (depth + 1) ++ r) = item? r)
    (hhead : ∀ a ∈ as, ∃ c t, write a = c :: t ∧ isSpace c = false ∧ c ≠ close)
    (hread : ∀ a ∈ as, ∀ r, Ends r → item? (write a ++ r) = some (a, r)) (r : List Char) :
    bracketed? close item? (block close depth write as ++ r) = some (as, r) := by
  cases as with
  | nil =>
    unfold bracketed? block
    rw [List.singleton_append, skip_cons hclose]
    exact if_pos rfl
  | cons a as =>
    obtain ⟨c, t, hwrite, hspace, hne⟩ := hhead a (List.mem_cons_self ..)
    have hblock : block close depth write (a :: as) ++ r = newline (depth + 1) ++
        (write a ++ (separated (depth + 1) write as ++ (newline depth ++ close :: r))) := by
      simp [block]
    have hfirst := hread a (List.mem_cons_self ..) _
      (ends_separated write (depth + 1) depth as (close :: r))
    have hrest : ∀ b ∈ as, ∀ r, Ends r →
        item? (newline (depth + 1) ++ write b ++ r) = some (b, r) := by
      intro b hb r hr
      rw [List.append_assoc, hblank]
      exact hread b (List.mem_cons_of_mem a hb) r hr
    have hitems := items?_separated hclose hcomma hrest hfirst
      (List.suffix_append _ _).length_le
    unfold bracketed?
    rw [hblock, skip_newline]
    rw [hwrite] at hitems ⊢
    rw [List.cons_append, skip_cons hspace]
    exact (if_neg hne).trans hitems

end

/-! ## values -/

theorem renderItems_eq (depth : Nat) (vs : List Json) :
    renderItems depth vs = separated depth (render depth) vs := by
  induction vs with
  | nil => rfl
  | cons v vs ih => rw [renderItems, separated_cons, ih]

/-- a key, a colon and a value -/
def renderMember (depth : Nat) (m : List Char × Json) : List Char :=
  renderText m.1 ++ [':', ' '] ++ render depth m.2

theorem renderMembers_eq (depth : Nat) (ms : List (List Char × Json)) :
    renderMembers depth ms = separated depth (renderMember depth) ms := by
  induction ms with
  | nil => rfl
  | cons m ms ih =>
    rw [renderMembers, separated_cons, ih]
    simp [renderMember]

theorem render_array (depth : Nat) (vs : List Json) :
    render depth (array vs) = '[' :: block ']' depth (render (depth + 1)) vs := by
  cases vs with
  | nil => rfl
  | cons v vs =>
    rw [render, renderItems_eq]
    rfl

theorem render_object (depth : Nat) (ms : List (List Char × Json)) :
    render depth (object ms) = '\x7b' :: block '\x7d' depth (renderMember (depth + 1)) ms := by
  cases ms with
  | nil => rfl
  | cons m ms =>
    rw [render, renderMembers_eq]
    simp [block, renderMember]

/-- what a printed value begins with -/
theorem head_render {v : Json} (hv : Plain v) (depth : Nat) :
    ∃ c t, render depth v = c :: t ∧ isSpace c = false ∧ c ≠ ']' := by
  cases hv with
  | null => exact ⟨_, _, rfl, by decide, by decide⟩
  | bool b => cases b <;> exact ⟨_, _, rfl, by decide, by decide⟩
  | ofNat n =>
    obtain ⟨c, t, hc, hdigit⟩ := Text.exists_decimal_cons n
    refine ⟨c, t, hc, ?_, ?_⟩
    · cases hspace : isSpace c with
      | false => rfl
      | true =>
        have hends : Ends [c] := ends_of_spaces fun d hd => List.mem_singleton.mp hd ▸ hspace
        cases hdigit.symm.trans (hends c rfl).1
    · rintro rfl
      cases hdigit
  | ofText s => exact ⟨_, _, rfl, by decide, by decide⟩
  | array items => exact ⟨_, _, render_array depth _, by decide, by decide⟩
  | object keys values => exact ⟨_, _, render_object depth _, by decide, by decide⟩

theorem value?_decimal (nesting n : Nat) {r : List Char} (hr : Ends r) :
    value? (nesting + 1) (Text.decimal n ++ r) = some (number (Text.decimal n), r) := by
  obtain ⟨c, t, hc, hspace, -⟩ := head_render (.ofNat n) 0
  have hdecimal : Text.decimal n = c :: t := hc
  have hdigit : c.isDigit = true :=
    Text.isDigit_decimal (n := n) (by rw [hdecimal]; exact List.mem_cons_self ..)
  have hnumeral := numeral?_decimal n hr
  have hskip : skip (Text.decimal n ++ r) = Text.decimal n ++ r := by
    rw [hdecimal]
    exact skip_cons hspace _
  rw [value?, hskip]
  split
  -- every other value begins with a character that is no digit
  iterate 6
    · next h =>
      rw [hdecimal] at h
      obtain ⟨rfl, -⟩ := List.cons.inj h
      cases hdigit
  · rw [hnumeral]
    rfl

theorem value?_text (nesting : Nat) (s r : List Char) :
    value? (nesting + 1) (renderText (escape s) ++ r) = some (string (escape s), r) := by
  have htext : renderText (escape s) ++ r = '"' :: (escape s ++ '"' :: r) := by
    simp [renderText]
  rw [htext, value?, skip_cons rfl]
  simp only
  rw [literal?_escape]
  rfl

theorem member?_renderMember {value? : List Char → Option (Json × List Char)} {depth : Nat}
    {m : List Char × Json} (hkey : ∃ s, m.1 = escape s) {r : List Char}
    (hspace : ∀ t, value? (' ' :: t) = value? t)
    (hvalue : value? (render depth m.2 ++ r) = some (m.2, r)) :
    member? value? (renderMember depth m ++ r) = some (m, r) := by
  obtain ⟨k, v⟩ := m
  obtain ⟨s, rfl⟩ := hkey
  have hmember : renderMember depth (escape s, v) ++ r =
      '"' :: (escape s ++ '"' :: ':' :: ' ' :: (render depth v ++ r)) := by
    simp [renderMember, renderText]
  unfold member?
  rw [hmember, skip_cons rfl]
  simp [literal?_escape, skip_cons, isSpace, hspace, hvalue]

/-- **What is printed reads back.**  A printed value is read, in as many arrays and objects as its
text is long, and what follows is left. -/
theorem value?_render {v : Json} (hv : Plain v) (depth : Nat) {nesting : Nat}
    (hlen : (render depth v).length ≤ nesting) {r : List Char} (hr : Ends r) :
    value? (nesting + 1) (render depth v ++ r) = some (v, r) := by
  induction hv generalizing depth nesting r with
  | null => rfl
  | bool b => cases b <;> rfl
  | ofNat n => exact value?_decimal nesting n hr
  | ofText s => exact value?_text nesting s.toList r
  | @array vs items ih =>
    rw [render_array, List.length_cons] at hlen
    obtain ⟨nesting, rfl⟩ := Nat.exists_eq_add_of_le' (Nat.le_of_add_left_le hlen)
    have hitem : ∀ v ∈ vs, ∀ r, Ends r →
        value? (nesting + 1) (render (depth + 1) v ++ r) = some (v, r) := by
      intro v hv r hr
      have hshort := length_lt_block ']' (render (depth + 1)) hv depth
      exact ih v hv (depth + 1) (by omega) hr
    have hitems := bracketed?_block ']' rfl (by decide)
      (value?_newline (nesting + 1) (depth + 1)) (fun v hv => head_render (items v hv) (depth + 1))
      hitem r
    rw [render_array, List.cons_append, value?, skip_cons rfl]
    simp only
    rw [hitems]
    rfl
  | @object ms keys values ih =>
    rw [render_object, List.length_cons] at hlen
    obtain ⟨nesting, rfl⟩ := Nat.exists_eq_add_of_le' (Nat.le_of_add_left_le hlen)
    have hmember : ∀ m ∈ ms, ∀ r, Ends r →
        member? (value? (nesting + 1)) (renderMember (depth + 1) m ++ r) = some (m, r) := by
      intro m hm r hr
      have hshort := length_lt_block '\x7d' (renderMember (depth + 1)) hm depth
      have hvalue : (render (depth + 1) m.2).length ≤ (renderMember (depth + 1) m).length :=
        (List.suffix_append _ _).length_le
      exact member?_renderMember (keys m hm) (fun _ => rfl) (ih m hm (depth + 1) (by omega) hr)
    have hhead : ∀ m ∈ ms, ∃ c t, renderMember (depth + 1) m = c :: t ∧ isSpace c = false ∧
        c ≠ '\x7d' := fun m _ => ⟨_, _, rfl, by decide, by decide⟩
    have hmembers := bracketed?_block '\x7d' rfl (by decide)
      (member?_newline (value? (nesting + 1)) (depth + 1)) hhead hmember r
    rw [render_object, List.cons_append, value?, skip_cons rfl]
    simp only
    rw [hmembers]
    rfl

theorem read?_render {v : Json} (hv : Plain v) {r : List Char} (hr : ∀ c ∈ r, isSpace c = true) :
    read? (render 0 v ++ r) = some v := by
  have hlen : (render 0 v).length ≤ (render 0 v ++ r).length := (List.prefix_append _ _).length_le
  have hskip : skip r = [] := List.dropWhile_eq_nil_iff.mpr hr
  unfold read?
  rw [value?_render hv 0 hlen (ends_of_spaces hr)]
  exact if_pos hskip

end TabShell.Json
