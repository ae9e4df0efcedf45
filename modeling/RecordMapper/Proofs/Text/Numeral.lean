import RecordMapper.Decimal.Digits
import Mathlib.Algebra.Group.Nat.Defs
import Mathlib.Data.List.Basic
/-!
# Reading numerals

A numeral ends with its run of digits or after a width that is known beforehand. Either way a number that
was padded with zeros is read back, with whatever follows it left over.
-/

namespace RecordMapper.Decimal

def number? (cs : List Char) : Option Nat :=
  if cs ≠ [] ∧ cs.all Char.isDigit = true then some (Nat.ofDigitChars 10 cs 0) else none

def fixed? (width : Nat) (cs : List Char) : Option (Nat × List Char) :=
  if width ≤ cs.length then (number? (cs.take width)).map fun n => (n, cs.drop width) else none

def run? (cs : List Char) : Option (Nat × List Char) :=
  (number? (cs.takeWhile Char.isDigit)).map fun n => (n, cs.dropWhile Char.isDigit)

def signed? : List Char → Option (Int × List Char)
  | '-' :: cs => (run? cs).map fun (n, rest) => (-(n : Int), rest)
  | '+' :: cs => (run? cs).map fun (n, rest) => ((n : Int), rest)
  | cs => (run? cs).map fun (n, rest) => ((n : Int), rest)

theorem padded_ne_nil (width n : Nat) : padded width n ≠ [] := by
  simp [padded, digits, Nat.toDigits_ne_nil]

theorem length_padded {width n : Nat} (hw : 0 < width) (h : n < 10 ^ width) :
    (padded width n).length = width := by
  have hle : (digits n).length ≤ width := (Nat.length_toDigits_le_iff (by decide) hw).2 h
  rw [padded, List.length_append, List.length_replicate]
  omega

theorem number?_padded (width n : Nat) : number? (padded width n) = some n := by
  have hvalue : Nat.ofDigitChars 10 (padded width n) 0 = n := by
    rw [padded, Nat.ofDigitChars_append, Nat.ofDigitChars_replicate_zero, Nat.mul_zero]
    exact Nat.ofDigitChars_toDigits (by decide) (by decide)
  have hdigits : (padded width n).all Char.isDigit = true :=
    List.all_eq_true.2 fun c => isDigit_of_mem_padded
  rw [number?, if_pos ⟨padded_ne_nil width n, hdigits⟩, hvalue]

theorem fixed?_padded_append {width n : Nat} (hw : 0 < width) (h : n < 10 ^ width)
    (rest : List Char) : fixed? width (padded width n ++ rest) = some (n, rest) := by
  have hlength := length_padded hw h
  have hle : width ≤ (padded width n ++ rest).length := by
    rw [List.length_append]
    omega
  rw [fixed?, if_pos hle, List.take_left' hlength, List.drop_left' hlength, number?_padded]
  rfl

theorem run?_padded_append (width n : Nat) {c : Char} (hc : c.isDigit = false) (rest : List Char) :
    run? (padded width n ++ c :: rest) = some (n, c :: rest) := by
  have hdigits : ∀ d ∈ padded width n, d.isDigit = true := fun d => isDigit_of_mem_padded
  have hstop : ¬ c.isDigit = true := by simp [hc]
  rw [run?, List.takeWhile_append_of_pos hdigits, List.dropWhile_append_of_pos hdigits,
    List.takeWhile_cons_of_neg hstop, List.dropWhile_cons_of_neg hstop, List.append_nil,
    number?_padded]
  rfl

theorem signed?_of_isDigit {c : Char} (hc : c.isDigit = true) (cs : List Char) :
    signed? (c :: cs) = (run? (c :: cs)).map fun (n, rest) => ((n : Int), rest) := by
  unfold signed?
  split
  · rename_i h
    rw [(List.cons.inj h).1] at hc
    exact absurd hc (by decide)
  · rename_i h
    rw [(List.cons.inj h).1] at hc
    exact absurd hc (by decide)
  · rfl

theorem signed?_padded_append (width n : Nat) {c : Char} (hc : c.isDigit = false)
    (rest : List Char) : signed? (padded width n ++ c :: rest) = some ((n : Int), c :: rest) := by
  have hrun := run?_padded_append width n hc rest
  obtain ⟨d, ds, hd⟩ := List.exists_cons_of_ne_nil (padded_ne_nil width n)
  have hdigit : d.isDigit = true := isDigit_of_mem_padded (hd ▸ List.mem_cons_self)
  rw [hd, List.cons_append] at hrun ⊢
  rw [signed?_of_isDigit hdigit, hrun]
  rfl

end RecordMapper.Decimal
