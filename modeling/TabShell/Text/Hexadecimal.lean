/-!
# Hexadecimal digits

* `hexValue? c`     the value of a digit of either case;
* `hexNumber? cs`   the number that digits write;
* `hexUpper n`      the upper-case digit of a value below sixteen.
-/

namespace TabShell.Text

/-- the value of a digit of either case -/
def hexValue? (c : Char) : Option Nat :=
  let n := c.toNat
  if 0x30 ≤ n ∧ n ≤ 0x39 then some (n - 0x30)
  else if 0x41 ≤ n ∧ n ≤ 0x46 then some (n - 0x37)
  else if 0x61 ≤ n ∧ n ≤ 0x66 then some (n - 0x57)
  else none

/-- the number that digits write, most significant first -/
def hexNumber? (cs : List Char) : Option Nat :=
  cs.foldlM (fun n c => (hexValue? c).map (n * 16 + ·)) 0

/-- the upper-case digit of a value below sixteen -/
def hexUpper (n : Nat) : Char := if n < 10 then Char.ofNat (0x30 + n) else Char.ofNat (0x37 + n)

end TabShell.Text
