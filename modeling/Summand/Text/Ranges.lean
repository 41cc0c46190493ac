/-!
# Classes of characters

Character classes of the Unicode standard are kept as lists of closed ranges of code points, in
ascending order.  A class is only ever asked whether it covers a character.
-/

namespace Summand.Text

/-- A class of characters: closed ranges of code points, in ascending order. -/
abbrev Ranges := List (Nat × Nat)

namespace Ranges

/-- The code point of the character lies in one of the ranges. -/
def covers (ranges : Ranges) (c : Char) : Bool :=
  ranges.any fun (first, last) => first ≤ c.toNat && c.toNat ≤ last

end Ranges

end Summand.Text
