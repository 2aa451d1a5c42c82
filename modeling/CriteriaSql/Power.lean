/-!
# Powers of two and ten

The two powers that positional numbers are made of.
-/

namespace CriteriaSql

/-- The power of two with an exponent. -/
abbrev pow2 (n : Nat) : Nat := Nat.pow 2 n

/-- The power of ten with an exponent. -/
abbrev pow10 (n : Nat) : Nat := Nat.pow 10 n

end CriteriaSql
