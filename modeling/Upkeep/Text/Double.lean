/-!
The range of double precision.

A number of double precision has 53 significant bits and lies below 2 ^ 1024. Only what is needed to
tell whether a decimal number is too great for it stands here.
-/

namespace Upkeep.Double

/-- The greatest finite number of double precision rounds from all below this one. -/
def overflowBound : Nat := Nat.pow 2 1024 - Nat.pow 2 970

/-- The natural number of double precision that is nearest to a given one; of two that are equally
near, the one whose last bit is zero. -/
def nearest (n : Nat) : Nat :=
  let unit := Nat.pow 2 (Nat.log2 n - 52)
  let q := n / unit
  let r := n % unit
  if unit < 2 * r ∨ (unit = 2 * r ∧ q % 2 = 1) then (q + 1) * unit else q * unit

end Upkeep.Double
