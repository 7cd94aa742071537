/-! Sets of code points given by sorted, disjoint closed ranges. The tables of character
properties beside this file list code points from 0x80 on; the classes that use them decide
the ASCII characters by core's own tests. -/

namespace HclLexis.Unicode

/-- Closed ranges of code points, in increasing order and without overlap. -/
abbrev Ranges := List (Nat × Nat)

def Ranges.contains : Ranges → Nat → Bool
  | [], _ => false
  | (lo, hi) :: rest, n => decide (lo ≤ n) && (decide (n ≤ hi) || Ranges.contains rest n)

def nonAsciiStart : Nat := 0x80

def Ranges.hasNonAscii (ranges : Ranges) (c : Char) : Bool :=
  decide (nonAsciiStart ≤ c.toNat) && ranges.contains c.toNat

end HclLexis.Unicode
