/-!
# The fewest digits that read back

A positive number is given by an exact fraction together with the ends of the interval of numbers
that are read back as it. `shortest` walks the decimal grids from one digit to seventeen and stops at
the first grid on which a neighbour of the number lies in the interval. Of two such neighbours it
takes the nearer; a number half way between them goes up.
-/

namespace RecordMapper.Decimal

/-- A positive number and the interval around it, as numerators over one denominator. -/
structure Target where
  low : Nat
  value : Nat
  high : Nat
  denominator : Nat
  /-- Whether the ends of the interval belong to it. -/
  closed : Bool

def tenTo (n : Nat) : Nat := Nat.pow 10 n

structure Scaled where
  coefficient : Nat
  exponent : Int
deriving DecidableEq

/-- `coefficient * 10 ^ exponent` with a coefficient of `count` digits; one more than the largest such
coefficient is the next power of ten. -/
def Scaled.ofDigits (count coefficient : Nat) (exponent : Int) : Scaled :=
  if coefficient = tenTo count then ⟨tenTo (count - 1), exponent + 1⟩ else ⟨coefficient, exponent⟩

namespace Target

/-- The exponent `e` with `10 ^ (e - 1) ≤ value / denominator < 10 ^ e`. -/
def magnitude (t : Target) : Int :=
  let places : Int := (Nat.toDigits 10 t.value).length - (Nat.toDigits 10 t.denominator).length
  if t.denominator * tenTo places.toNat ≤ t.value * tenTo (-places).toNat then places + 1
  else places

def holds (t : Target) (s : Scaled) : Bool :=
  let point := s.coefficient * tenTo s.exponent.toNat * t.denominator
  let low := t.low * tenTo (-s.exponent).toNat
  let high := t.high * tenTo (-s.exponent).toNat
  if t.closed then low ≤ point && point ≤ high else low < point && point < high

/-- The neighbour of `t` with `count` digits that lies in its interval, the nearer one if both do. -/
def onGrid (t : Target) (count : Nat) : Option Scaled :=
  let exponent := t.magnitude - count
  let numerator := t.value * tenTo (-exponent).toNat
  let unit := t.denominator * tenTo exponent.toNat
  let below : Scaled := ⟨numerator / unit, exponent⟩
  let above : Scaled := Scaled.ofDigits count (numerator / unit + 1) exponent
  match t.holds below, t.holds above with
  | true, true => some (if 2 * (numerator % unit) < unit then below else above)
  | true, false => some below
  | false, true => some above
  | false, false => none

/-- The first grid with a hit; seventeen digits always suffice for a number of 53 bits. -/
def shortest (t : Target) : Scaled :=
  ((List.range 17).findSome? fun n => t.onGrid (n + 1)).getD ⟨0, 0⟩

end Target

structure NumberFormat where
  /-- Numbers from `10 ^ exponentFrom` on are written with an exponent, if set. -/
  exponentFrom : Option Nat
  /-- Numbers below `10 ^ (-exponentBelow)` are written with an exponent, if set. -/
  exponentBelow : Option Nat
  keepsPoint : Bool

namespace Scaled

def positional (keepsPoint : Bool) (s : Scaled) : List Char :=
  let ds := Nat.toDigits 10 s.coefficient
  if 0 ≤ s.exponent then
    ds ++ List.replicate s.exponent.toNat '0' ++ (if keepsPoint then ['.', '0'] else [])
  else
    let places := s.exponent.natAbs
    if places < ds.length then
      ds.take (ds.length - places) ++ '.' :: ds.drop (ds.length - places)
    else
      '0' :: '.' :: (List.replicate (places - ds.length) '0' ++ ds)

def scientific (s : Scaled) : List Char :=
  let ds := Nat.toDigits 10 s.coefficient
  let power : Int := s.exponent + ds.length - 1
  let sign := if power < 0 then ['-'] else []
  ds.take 1 ++ (if ds.length = 1 then [] else '.' :: ds.drop 1) ++
    'e' :: (sign ++ Nat.toDigits 10 power.natAbs)

def write (format : NumberFormat) (s : Scaled) : List Char :=
  let power : Int := s.exponent + (Nat.toDigits 10 s.coefficient).length
  let large := format.exponentFrom.any fun n => (n : Int) < power
  let small := format.exponentBelow.any fun n => power ≤ -(n : Int)
  if large || small then s.scientific else s.positional format.keepsPoint

end Scaled

end RecordMapper.Decimal
