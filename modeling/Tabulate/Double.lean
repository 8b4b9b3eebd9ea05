import Tabulate.Text.Numeral

/-!
# The range of doubles

Numbers in text may be too great for a double, that is, a floating-point number with 53 significant
bits and an exponent of at most 1023.  Everything here is about positive numbers and is exact.
-/

namespace Tabulate
namespace Double

/-- The number of significant bits of a double. -/
def significantBits : Nat := 53

/-- The least number that rounds to infinity: half a unit above the greatest double. -/
def bound : Nat := Nat.pow 2 1024 - Nat.pow 2 970

/-- The nearest number with as many significant bits as a double has.  Of two that are equally near,
the one with the even last bit is taken. -/
def nearest (value : Nat) : Nat :=
  let unit := Nat.pow 2 (value.log2 + 1 - significantBits)
  let units := value / unit
  let rest := value % unit
  if unit < 2 * rest ∨ unit = 2 * rest ∧ units % 2 = 1 then (units + 1) * unit else units * unit

/-- A number that fits in the significant bits is its own nearest number. -/
theorem nearest_of_lt {value : Nat} (small : value < Nat.pow 2 significantBits) :
    nearest value = value := by
  have shift : value.log2 + 1 - significantBits = 0 := by
    rcases Nat.eq_zero_or_pos value with rfl | positive
    · rfl
    · have := (Nat.log2_lt (Nat.ne_of_gt positive)).mpr small
      omega
  simp [nearest, shift, Nat.mod_one]

/-- Whether `mantissa * 10 ^ exponent` rounds to infinity.  Far from the bound the number of digits
decides. -/
def overflows (mantissa : Nat) (exponent : Int) : Bool :=
  let magnitude := (Text.digits mantissa).length + exponent
  if mantissa = 0 ∨ magnitude < 300 then false
  else if magnitude > 400 then true
  else decide (bound * Nat.pow 10 (-exponent).toNat ≤ mantissa * Nat.pow 10 exponent.toNat)

/-- The greatest power of ten that does not round to infinity. -/
def greatestPower : Nat := 308

/-- Whether `significand * 10 ^ exponent` comes out as infinity if both factors are rounded before
they are multiplied. -/
def productOverflows (significand : Nat) (exponent : Int) : Bool :=
  if significand = 0 ∨ exponent < 0 then false
  else if exponent > greatestPower then true
  else decide (bound ≤ nearest significand * nearest (Nat.pow 10 exponent.toNat))

end Double
end Tabulate
