namespace Keychord.Number

structure Parts where
  negative : Bool
  mantissa : Nat
  exponent : Int
  deriving DecidableEq, Repr

def parts? (x : Float) : Option Parts :=
  let bits : Nat := x.toBits.toNat
  let negative := decide (Nat.pow 2 63 ≤ bits)
  let exponent : Nat := bits / Nat.pow 2 52 % Nat.pow 2 11
  let fraction : Nat := bits % Nat.pow 2 52
  if exponent = 2047 then none
  else if exponent = 0 then some ⟨negative, fraction, -1074⟩
  else some ⟨negative, Nat.pow 2 52 + fraction, (exponent : Int) - 1075⟩

def toInt? (x : Float) : Option Int :=
  match parts? x with
  | none => none
  | some p =>
    let magnitude? : Option Nat :=
      if 0 ≤ p.exponent then some (p.mantissa * Nat.pow 2 p.exponent.toNat)
      else if p.mantissa % Nat.pow 2 (-p.exponent).toNat = 0 then
        some (p.mantissa / Nat.pow 2 (-p.exponent).toNat)
      else none
    magnitude?.map fun magnitude => if p.negative then -(magnitude : Int) else magnitude

-- The least size that is too large for a double: halfway from the greatest double to the next power of two.
@[irreducible]
def tooLarge : Nat := Nat.pow 2 1024 - Nat.pow 2 970

-- The double nearest to a whole number, ties to the even neighbour. There is none beyond the range of doubles.
def ofInt? (n : Int) : Option Float := if n.natAbs < tooLarge then some (Float.ofInt n) else none

end Keychord.Number
