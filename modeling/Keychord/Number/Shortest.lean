import Keychord.Number.Double

namespace Keychord.Number

structure Decimal where
  digits : List Char
  point : Int
  deriving DecidableEq, Repr

def leadingExponent (num den : Nat) : Int :=
  let guess : Int := (Nat.toDigits 10 num).length - (Nat.toDigits 10 den).length
  if den * Nat.pow 10 guess.toNat ≤ num * Nat.pow 10 (-guess).toNat then guess else guess - 1

-- A positive double `num / den` with the interval of numbers that are nearer to it than to any other double. The ends are
-- given in quarters of `1 / den`; they belong to the interval if `closed`.
structure Neighbourhood where
  num : Nat
  den : Nat
  low4 : Nat
  high4 : Nat
  closed : Bool

-- The neighbourhood of a positive double. Below a power of two the next double is only half as far away.
def neighbourhood (p : Parts) : Neighbourhood :=
  let up := Nat.pow 2 p.exponent.toNat
  let down := Nat.pow 2 (-p.exponent).toNat
  let below := if p.mantissa = Nat.pow 2 52 && p.exponent ≠ -1074 then 1 else 2
  { num := p.mantissa * up, den := down,
    low4 := (4 * p.mantissa - below) * up, high4 := (4 * p.mantissa + 2) * up,
    closed := p.mantissa % 2 == 0 }

def Neighbourhood.holds (nb : Neighbourhood) (c : Nat) (g : Int) : Bool :=
  let value4 := 4 * c * Nat.pow 10 g.toNat * nb.den
  let low := nb.low4 * Nat.pow 10 (-g).toNat
  let high := nb.high4 * Nat.pow 10 (-g).toNat
  if nb.closed then low ≤ value4 && value4 ≤ high else low < value4 && value4 < high

def Neighbourhood.onGrid? (nb : Neighbourhood) (g : Int) : Option Nat :=
  let num := nb.num * Nat.pow 10 (-g).toNat
  let den := nb.den * Nat.pow 10 g.toNat
  let c := num / den
  let rest := num % den
  match nb.holds c g, nb.holds (c + 1) g with
  | true, true =>
    if 2 * rest < den then some c
    else if den < 2 * rest then some (c + 1)
    else some (if c % 2 = 0 then c else c + 1)
  | true, false => some c
  | false, true => some (c + 1)
  | false, false => none

def Neighbourhood.shortest (nb : Neighbourhood) : Nat × Int :=
  let top := leadingExponent nb.num nb.den
  let grids := (List.range 17).map fun (k : Nat) => top - k
  match grids.findSome? fun g => (nb.onGrid? g).map (·, g) with
  | some hit => hit
  | none => (nb.num, 0)

def shortest (p : Parts) : Decimal :=
  let (c, g) := (neighbourhood p).shortest
  let digits := Nat.toDigits 10 c
  { digits := (digits.reverse.dropWhile (· = '0')).reverse, point := digits.length + g }

def lastPoint : Int := 16

def firstPoint : Int := -3

def Decimal.text (d : Decimal) : String :=
  let zeros (n : Int) := List.replicate n.toNat '0'
  let count : Int := d.digits.length
  String.ofList <|
    if d.point < firstPoint || lastPoint < d.point then
      let exponent := d.point - 1
      let size := Nat.toDigits 10 exponent.natAbs
      (match d.digits with
        | first :: second :: rest => first :: '.' :: second :: rest
        | ds => ds) ++
        'e' :: (if exponent < 0 then '-' else '+') :: (List.replicate (2 - size.length) '0' ++ size)
    else if d.point ≤ 0 then
      '0' :: '.' :: (zeros (-d.point) ++ d.digits)
    else if count ≤ d.point then
      d.digits ++ zeros (d.point - count) ++ ['.', '0']
    else
      d.digits.take d.point.toNat ++ '.' :: d.digits.drop d.point.toNat

def text (x : Float) : String :=
  match parts? x with
  | none => if x.isNaN then "nan" else if x < 0 then "-inf" else "inf"
  | some p =>
    let sign := if p.negative then "-" else ""
    if p.mantissa = 0 then sign ++ "0.0" else sign ++ (shortest p).text

end Keychord.Number
