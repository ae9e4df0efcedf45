import RecordMapper.Proofs.Text.Pieces
import RecordMapper.Predicate.Compile
/-!
# Where the quotes of a fragment come from

The literal of a constant is its spelling, between quotes for text and for dates. No other part of a
fragment brings a quote with it as long as no column has one in its name.
-/

namespace RecordMapper

def EntityMapping.HasPlainColumns (m : EntityMapping) : Prop :=
  ∀ f ∈ m.fields, '\'' ∉ f.column.toList

theorem BinaryOperator.quote_notMem_word {op : BinaryOperator} {word : String}
    (h : op.word? = some word) : '\'' ∉ word.toList := by
  cases op <;> cases h <;> decide

theorem BinaryOperator.quote_notMem_nullTest {op : BinaryOperator} {test : String}
    (h : op.nullTest? = some test) : '\'' ∉ test.toList := by
  cases op <;> cases h <;> decide

namespace Decimal

theorem isDigit_or_eq_of_mem_intText {n : Int} {c : Char} (h : c ∈ (intText n).toList) :
    c.isDigit = true ∨ c = '-' := by
  have hdigits : c ∈ digits n.natAbs ∨ c = '-' := by
    unfold intText natText at h
    split at h
    · rw [String.toList_append, List.mem_append] at h
      rcases h with h | h
      · exact .inr (List.mem_singleton.1 h)
      · rw [String.toList_ofList] at h
        exact .inl h
    · rw [String.toList_ofList] at h
      exact .inl h
  exact hdigits.imp_left isDigit_of_mem_digits

theorem isDigit_or_eq_of_mem_positional {s : Scaled} {c : Char} (h : c ∈ s.positional false) :
    c.isDigit = true ∨ c = '.' := by
  have hd (h : c ∈ Nat.toDigits 10 s.coefficient) : c.isDigit = true := isDigit_of_mem_digits h
  have hzero (n : Nat) (h : c ∈ List.replicate n '0') : c.isDigit = true := by
    rw [(List.mem_replicate.1 h).2]
    rfl
  simp only [Scaled.positional, Bool.false_eq_true, if_false, List.append_nil] at h
  split at h
  · rcases List.mem_append.1 h with h | h
    · exact .inl (hd h)
    · exact .inl (hzero _ h)
  · split at h
    · rcases List.mem_append.1 h with h | h
      · exact .inl (hd (List.mem_of_mem_take h))
      · rcases List.mem_cons.1 h with h | h
        · exact .inr h
        · exact .inl (hd (List.mem_of_mem_drop h))
    · rcases List.mem_cons.1 h with rfl | h
      · exact .inl rfl
      · rcases List.mem_cons.1 h with h | h
        · exact .inr h
        · rcases List.mem_append.1 h with h | h
          · exact .inl (hzero _ h)
          · exact .inl (hd h)

theorem quote_notMem_intText (n : Int) : '\'' ∉ (intText n).toList := by
  intro h
  rcases isDigit_or_eq_of_mem_intText h with h | h
  · exact absurd h (by decide)
  · exact absurd h (by decide)

end Decimal

namespace Binary64

theorem isDigit_or_eq_of_mem_text {x : Binary64} (hx : x.isFinite = true) {c : Char}
    (h : c ∈ x.text.toList) : c.isDigit = true ∨ c = '.' ∨ c = '-' := by
  have hm (h : c ∈ x.magnitudeText literalFormat) : c.isDigit = true ∨ c = '.' ∨ c = '-' := by
    unfold magnitudeText at h
    split at h
    · rw [List.mem_singleton.1 h]
      exact .inl rfl
    · exact (Decimal.isDigit_or_eq_of_mem_positional h).imp_right .inl
  have hnan : x.isNaN = false := by simp [isNaN, hx]
  simp only [text, write, hnan, hx, Bool.false_eq_true, if_false, if_true, String.toList_append,
    String.toList_ofList, List.mem_append] at h
  rcases h with h | h
  · split at h
    · exact .inr (.inr (List.mem_singleton.1 h))
    · cases h
  · exact hm h

theorem quote_notMem_text (x : Binary64) : '\'' ∉ x.text.toList := by
  intro h
  cases hx : x.isFinite with
  | true =>
    rcases isDigit_or_eq_of_mem_text hx h with h | h | h
    · exact absurd h (by decide)
    · exact absurd h (by decide)
    · exact absurd h (by decide)
  | false =>
    have htext : x.text = "NaN" ∨ x.text = "inf" ∨ x.text = "-inf" := by
      unfold text write
      rw [hx]
      cases x.isNaN <;> cases x.isNegative <;> simp
    rcases htext with htext | htext | htext
    · exact absurd (htext ▸ h) (by decide)
    · exact absurd (htext ▸ h) (by decide)
    · exact absurd (htext ▸ h) (by decide)

end Binary64

namespace Value

def isQuoted : Value → Bool
  | string _ | char _ | date _ | dateTime _ => true
  | _ => false

def spelling : Value → List Char
  | null => "null".toList
  | bool b => (if b then "true" else "false").toList
  | int32 n => (Decimal.intText n.toInt).toList
  | int64 n => (Decimal.intText n.toInt).toList
  | float x => x.text.toList
  | string s => s.toList
  | char c => [c]
  | date d => d.text.toList
  | dateTime t => t.text.toList
  | bytes _ | list _ => []

theorem quote_notMem_spelling {v : Value} (h : v.isQuoted = false) : '\'' ∉ v.spelling := by
  cases v with
  | null => decide
  | bool b => cases b <;> decide
  | int32 n => exact Decimal.quote_notMem_intText n.toInt
  | int64 n => exact Decimal.quote_notMem_intText n.toInt
  | float x => exact x.quote_notMem_text
  | string s => cases h
  | char c => cases h
  | date d => cases h
  | dateTime t => cases h
  | bytes data => exact List.not_mem_nil
  | list items => exact List.not_mem_nil

theorem literal_eq_ok {v : Value} {text : String} (h : v.literal = .ok text) :
    text = if v.isQuoted then Quoted.literal (String.ofList v.spelling)
      else String.ofList v.spelling := by
  cases v with
  | null => cases h; rfl
  | bool b => cases h; simp [isQuoted, spelling]
  | int32 n => cases h; simp [isQuoted, spelling]
  | int64 n => cases h; simp [isQuoted, spelling]
  | float x =>
    simp only [literal] at h
    split at h
    · cases h; simp [isQuoted, spelling]
    · cases h
  | string s => cases h; simp [isQuoted, spelling]
  | char c => cases h; rfl
  | date d => cases h; simp [isQuoted, spelling]
  | dateTime t => cases h; simp [isQuoted, spelling]
  | bytes data => cases h
  | list items => cases h

end Value

namespace Quoted

theorem double_of_notMem {s : List Char} (h : '\'' ∉ s) : double s = s := by
  induction s with
  | nil => rfl
  | cons c rest ih =>
    rw [List.mem_cons, not_or] at h
    rw [double, if_neg (Ne.symm h.1), ih h.2]

theorem strip_literal (s : String) : strip (literal s) = String.ofList (double s.toList) := by
  simp [strip, toList_literal]

theorem strip_of_notMem {text : String} (h : '\'' ∉ text.toList) : strip text = text := by
  unfold strip
  split
  · rename_i rest hr
    exact absurd (hr ▸ List.mem_cons_self) h
  · rfl

end Quoted

/-- What is left of a constant inside a pattern is its spelling with quotes doubled. -/
theorem Value.strip_literal {v : Value} {text : String} (h : v.literal = .ok text) :
    Quoted.strip text = String.ofList (Quoted.double v.spelling) := by
  rw [Value.literal_eq_ok h]
  split
  · rw [Quoted.strip_literal, String.toList_ofList]
  · rename_i hq
    have hn := quote_notMem_spelling (Bool.not_eq_true _ ▸ hq)
    rw [Quoted.strip_of_notMem (by simpa using hn), Quoted.double_of_notMem hn]

end RecordMapper
