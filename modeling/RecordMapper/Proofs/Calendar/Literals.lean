import RecordMapper.Predicate.Compile
import RecordMapper.Proofs.Text.Numeral
import RecordMapper.Proofs.Text.Pieces
import Mathlib.Logic.Function.Basic
/-!
# Reading dates and times back

A reader that knows the order of the parts finds the date or the moment behind a literal again: the year
with its sign and whatever width it has, a leap second in its sixtieth second, and the nanoseconds behind
a fraction of 3, 6 or 9 digits.
-/

namespace RecordMapper

open Decimal

namespace Quoted

def content? (text : String) : Option (List Char) :=
  match scan text with
  | some [.literal content] => some content
  | _ => none

theorem content?_literal (s : String) : content? (literal s) = some s.toList := by
  rw [content?, scan_literal]

end Quoted

theorem injective_of_read? {α β : Type} {write : α → β} {read? : β → Option α}
    (h : ∀ a, read? (write a) = some a) : Function.Injective write := by
  intro a b hab
  apply Option.some.inj
  rw [← h a, hab, h b]

def after? (separator : Char) : List Char → Option (List Char)
  | c :: rest => if c = separator then some rest else none
  | [] => none

theorem after?_cons (separator : Char) (rest : List Char) :
    after? separator (separator :: rest) = some rest := by
  rw [after?, if_pos rfl]

namespace Date

def read? (cs : List Char) : Option (Date × List Char) := do
  let (year, cs) ← signed? cs
  let cs ← after? '-' cs
  let (month, cs) ← fixed? 2 cs
  let cs ← after? '-' cs
  let (day, cs) ← fixed? 2 cs
  let d ← ofYearMonthDay? year month day
  return (d, cs)

def ofLiteral? (text : String) : Option Date := do
  let cs ← Quoted.content? text
  match read? cs with
  | some (d, []) => some d
  | _ => none

theorem day_lt (d : Date) : d.day < 10 ^ 2 := by
  have hdays : Calendar.daysInMonth d.year d.month ≤ 31 := by
    unfold Calendar.daysInMonth
    split
    · split <;> omega
    all_goals omega
  have hday := d.day_range
  omega

theorem ofYearMonthDay?_self (d : Date) : ofYearMonthDay? d.year d.month d.day = some d := by
  rw [ofYearMonthDay?, dif_pos d.month_range, dif_pos d.day_range]

/-- A year is read up to the separator behind it, whatever its width is. -/
theorem signed?_yearText (year : Int) (rest : List Char) :
    signed? (yearText year ++ '-' :: rest) = some (year, '-' :: rest) := by
  have hstop : '-'.isDigit = false := rfl
  have hrun := run?_padded_append 4 year.natAbs hstop rest
  unfold yearText
  dsimp only
  split_ifs with hneg hlong
  · have hyear : -(year.natAbs : Int) = year := by omega
    rw [List.cons_append, signed?, hrun]
    exact congrArg (fun y => some (y, '-' :: rest)) hyear
  · have hyear : (year.natAbs : Int) = year := by omega
    rw [List.cons_append, signed?, hrun]
    exact congrArg (fun y => some (y, '-' :: rest)) hyear
  · have hyear : (year.natAbs : Int) = year := by omega
    rw [signed?_padded_append 4 year.natAbs hstop, hyear]

theorem read?_chars_append (d : Date) (rest : List Char) :
    read? (d.chars ++ rest) = some (d, rest) := by
  have hmonth : d.month < 10 ^ 2 := by
    have := d.month_range
    omega
  simp only [read?, chars, List.append_assoc, List.cons_append, signed?_yearText, after?_cons,
    fixed?_padded_append (by decide) hmonth, fixed?_padded_append (by decide) d.day_lt,
    ofYearMonthDay?_self, Option.bind_eq_bind, Option.bind_some]
  rfl

theorem ofLiteral?_text (d : Date) : ofLiteral? (Quoted.literal d.text) = some d := by
  have hread := d.read?_chars_append []
  rw [List.append_nil] at hread
  simp only [ofLiteral?, Quoted.content?_literal, text, String.toList_ofList, hread,
    Option.bind_eq_bind, Option.bind_some]

end Date

namespace TimeOfDay

def fraction? : List Char → Option Nat
  | [] => some 0
  | '.' :: ds =>
    if ds.length = 3 ∨ ds.length = 6 ∨ ds.length = 9 then
      (number? ds).map fun n => n * 10 ^ (9 - ds.length)
    else none
  | _ => none

def ofShown? (hour minute second nanosecond : Nat) : Option TimeOfDay :=
  if second = 60 then ofParts? hour minute 59 (Calendar.second + nanosecond)
  else ofParts? hour minute second nanosecond

def read? (cs : List Char) : Option TimeOfDay := do
  let (hour, cs) ← fixed? 2 cs
  let cs ← after? ':' cs
  let (minute, cs) ← fixed? 2 cs
  let cs ← after? ':' cs
  let (second, cs) ← fixed? 2 cs
  let nanosecond ← fraction? cs
  ofShown? hour minute second nanosecond

theorem fraction?_padded {width n : Nat} (hw : width = 3 ∨ width = 6 ∨ width = 9)
    (h : n < 10 ^ width) : fraction? ('.' :: padded width n) = some (n * 10 ^ (9 - width)) := by
  have hlength : (padded width n).length = width := length_padded (by omega) h
  rw [fraction?, hlength, if_pos hw, number?_padded]
  rfl

/-- The digits that are left out of a fraction are zeros. -/
theorem fraction?_fractionText (nanosecond : Nat) :
    fraction? (fractionText nanosecond) = some (nanosecond % Calendar.second) := by
  have hlt : nanosecond % Calendar.second < Calendar.second := Nat.mod_lt _ (by decide)
  unfold fractionText
  generalize nanosecond % Calendar.second = n at hlt
  unfold Calendar.second at hlt
  dsimp only
  split_ifs with hzero hmilli hmicro
  · rw [hzero]
    rfl
  · rw [fraction?_padded (.inl rfl) (by omega)]
    exact congrArg some (Nat.div_mul_cancel (Nat.dvd_of_mod_eq_zero hmilli))
  · rw [fraction?_padded (.inr (.inl rfl)) (by omega)]
    exact congrArg some (Nat.div_mul_cancel (Nat.dvd_of_mod_eq_zero hmicro))
  · rw [fraction?_padded (.inr (.inr rfl)) hlt]
    exact congrArg some (Nat.mul_one n)

theorem ofParts?_self (t : TimeOfDay) :
    ofParts? t.hour t.minute t.second t.nanosecond = some t := by
  rw [ofParts?, dif_pos ⟨t.hour_lt, t.minute_lt, t.second_lt, t.nanosecond_lt⟩]

/-- Second 60 is shown during a leap second only, which is the second half of second 59. -/
theorem ofShown?_shownSecond (t : TimeOfDay) :
    ofShown? t.hour t.minute t.shownSecond (t.nanosecond % Calendar.second) = some t := by
  have hnano := t.nanosecond_lt
  have hsecond := t.second_lt
  unfold shownSecond ofShown?
  by_cases hleap : Calendar.second ≤ t.nanosecond
  · have h59 : t.second = 59 := by
      by_contra hne
      rw [if_neg hne] at hnano
      omega
    rw [if_pos h59] at hnano
    have hmod : t.nanosecond % Calendar.second = t.nanosecond - Calendar.second := by
      rw [Nat.mod_eq_sub_mod hleap, Nat.mod_eq_of_lt (by omega)]
    have hsum : Calendar.second + (t.nanosecond - Calendar.second) = t.nanosecond := by omega
    rw [if_pos hleap, if_pos (by rw [h59]), hmod, hsum, ← h59, ofParts?_self]
  · rw [if_neg hleap, if_neg (by omega), Nat.mod_eq_of_lt (Nat.not_le.1 hleap), ofParts?_self]

theorem read?_chars (t : TimeOfDay) : read? t.chars = some t := by
  have hhour : t.hour < 10 ^ 2 := by
    have := t.hour_lt
    omega
  have hminute : t.minute < 10 ^ 2 := by
    have := t.minute_lt
    omega
  have hsecond : t.shownSecond < 10 ^ 2 := by
    have := t.second_lt
    unfold shownSecond
    split_ifs <;> omega
  simp only [read?, chars, List.append_assoc, List.cons_append, after?_cons,
    fixed?_padded_append (by decide) hhour, fixed?_padded_append (by decide) hminute,
    fixed?_padded_append (by decide) hsecond, fraction?_fractionText, ofShown?_shownSecond,
    Option.bind_eq_bind, Option.bind_some]

end TimeOfDay

namespace DateTime

def ofLiteral? (text : String) : Option DateTime := do
  let cs ← Quoted.content? text
  let (date, cs) ← Date.read? cs
  let cs ← after? ' ' cs
  let time ← TimeOfDay.read? cs
  return ⟨date, time⟩

theorem ofLiteral?_text (t : DateTime) : ofLiteral? (Quoted.literal t.text) = some t := by
  simp only [ofLiteral?, Quoted.content?_literal, text, chars, String.toList_ofList,
    Date.read?_chars_append, after?_cons, TimeOfDay.read?_chars, Option.bind_eq_bind,
    Option.bind_some]
  rfl

end DateTime

/-- Literals of dates and of moments lose nothing: a reader finds the value that was written, so values
that differ never have the same literal. -/
theorem calendar_literals_read_back (m : EntityMapping) :
    (∀ d : Date, ∃ text, (Expr.value (.date d)).compile m = .ok text ∧
      Date.ofLiteral? text = some d) ∧
    (∀ t : DateTime, ∃ text, (Expr.value (.dateTime t)).compile m = .ok text ∧
      DateTime.ofLiteral? text = some t) ∧
    Function.Injective (fun d : Date => (Expr.value (.date d)).compile m) ∧
    Function.Injective fun t : DateTime => (Expr.value (.dateTime t)).compile m := by
  refine ⟨?_, ?_, ?_, ?_⟩
  · intro d
    exact ⟨_, rfl, d.ofLiteral?_text⟩
  · intro t
    exact ⟨_, rfl, t.ofLiteral?_text⟩
  · intro d d' h
    exact injective_of_read? Date.ofLiteral?_text (Except.ok.inj h)
  · intro t t' h
    exact injective_of_read? DateTime.ofLiteral?_text (Except.ok.inj h)

/-- A leap second before year zero, with a fraction, and a year of five digits. -/
theorem calendar_literals_read_back_signed :
    let m : EntityMapping := ⟨"Test", none, []⟩
    let d : Date := ⟨12345, 2, 28, by decide, by decide⟩
    let t : DateTime := ⟨⟨-44, 3, 15, by decide, by decide⟩,
      ⟨23, 59, 59, 1000001000, by decide, by decide, by decide, by decide⟩⟩
    (Expr.value (.date d)).compile m = .ok "'+12345-02-28'" ∧
      Date.ofLiteral? "'+12345-02-28'" = some d ∧
      (Expr.value (.dateTime t)).compile m = .ok "'-0044-03-15 23:59:60.000001'" ∧
      DateTime.ofLiteral? "'-0044-03-15 23:59:60.000001'" = some t := by
  intro m d t
  have hd : Quoted.literal d.text = "'+12345-02-28'" := by decide +kernel
  have ht : Quoted.literal t.text = "'-0044-03-15 23:59:60.000001'" := by decide +kernel
  obtain ⟨hdates, hmoments, -, -⟩ := calendar_literals_read_back m
  obtain ⟨text, hc, hread⟩ := hdates d
  obtain ⟨text', hc', hread'⟩ := hmoments t
  obtain rfl := hd.symm.trans (Except.ok.inj hc)
  obtain rfl := ht.symm.trans (Except.ok.inj hc')
  exact ⟨hc, hread, hc', hread'⟩

end RecordMapper
