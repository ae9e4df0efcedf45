import RecordMapper.Decimal.Shortest
/-!
# Double-precision numbers

A number is given by its 64 bits, so that two that compare as equal can still be told apart. Equality
here is the arithmetic one: a NaN differs from itself and the two zeros are equal.
-/

namespace RecordMapper

structure Binary64 where
  bits : UInt64
deriving DecidableEq

namespace Binary64

def twoTo (n : Nat) : Nat := Nat.pow 2 n

def isNegative (x : Binary64) : Bool := twoTo 63 ≤ x.bits.toNat

def biasedExponent (x : Binary64) : Nat := x.bits.toNat / twoTo 52 % twoTo 11

def fraction (x : Binary64) : Nat := x.bits.toNat % twoTo 52

def isFinite (x : Binary64) : Bool := x.biasedExponent ≠ twoTo 11 - 1

def isNaN (x : Binary64) : Bool := !x.isFinite && x.fraction ≠ 0

def isZero (x : Binary64) : Bool := x.biasedExponent = 0 && x.fraction = 0

/-- Equality of numbers: no NaN equals anything, and `-0` equals `0`. -/
def sameNumber (x y : Binary64) : Bool :=
  !x.isNaN && !y.isNaN && (x.bits == y.bits || x.isZero && y.isZero)

/-- The whole number `m` of a finite `m * 2 ^ exponent`, without its sign. -/
def significand (x : Binary64) : Nat :=
  if x.biasedExponent = 0 then x.fraction else twoTo 52 + x.fraction

def exponent (x : Binary64) : Int :=
  if x.biasedExponent = 0 then -1074 else x.biasedExponent - 1075

/-- The magnitude of a finite number and the interval that rounds to it, counted in quarters of its
last place. Below a power of two the gap to the next number is half as wide; the ends of the interval
round to the number when its significand is even. -/
def target (x : Binary64) : Decimal.Target :=
  let m := 4 * x.significand
  let below := if x.fraction = 0 && 1 < x.biasedExponent then 1 else 2
  let up := twoTo (x.exponent - 2).toNat
  { low := (m - below) * up
    value := m * up
    high := (m + 2) * up
    denominator := twoTo (2 - x.exponent).toNat
    closed := x.significand % 2 = 0 }

def magnitudeText (format : Decimal.NumberFormat) (x : Binary64) : List Char :=
  if x.isZero then (if format.keepsPoint then ['0', '.', '0'] else ['0'])
  else x.target.shortest.write format

def write (format : Decimal.NumberFormat) (x : Binary64) : String :=
  if x.isNaN then "NaN"
  else
    let sign := if x.isNegative then "-" else ""
    if x.isFinite then sign ++ String.ofList (x.magnitudeText format) else sign ++ "inf"

/-- Literals are positional at every magnitude and a whole number has no point. -/
def literalFormat : Decimal.NumberFormat := ⟨none, none, false⟩

/-- Diagnostics keep `.0`, and write an exponent from `10 ^ 16` on and below `10 ^ (-4)`. -/
def diagnosticFormat : Decimal.NumberFormat := ⟨some 16, some 4, true⟩

def text (x : Binary64) : String := x.write literalFormat

end Binary64

end RecordMapper
