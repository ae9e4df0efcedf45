import RecordMapper.Value
/-!
# Rows

One row of a result: values by column name, in the order in which the columns came first. A column
stands in a row once, and a later value takes the place of an earlier one.
-/

namespace RecordMapper

namespace Row

/-- `entries` with the value of `column`, at the column's place if it has one, else at the end. -/
def put (entries : List (String × Value)) (column : String) (v : Value) : List (String × Value) :=
  match entries with
  | [] => [(column, v)]
  | (c, w) :: rest => if c = column then (c, v) :: rest else (c, w) :: put rest column v

theorem mem_fst_put {entries : List (String × Value)} {column c : String} {v : Value} :
    c ∈ (put entries column v).map Prod.fst ↔ c ∈ entries.map Prod.fst ∨ c = column := by
  induction entries with
  | nil => simp [put]
  | cons head rest ih =>
    by_cases h : head.1 = column
    · simp only [put, h, if_true, List.map_cons, List.mem_cons]
      constructor
      · rintro (h' | h')
        · exact .inr h'
        · exact .inl (.inr h')
      · rintro ((h' | h') | h')
        · exact .inl h'
        · exact .inr h'
        · exact .inl h'
    · simp only [put, h, if_false, List.map_cons, List.mem_cons, ih, or_assoc]

theorem nodup_put {entries : List (String × Value)} (h : (entries.map Prod.fst).Nodup)
    (column : String) (v : Value) : ((put entries column v).map Prod.fst).Nodup := by
  induction entries with
  | nil => simp [put]
  | cons head rest ih =>
    rw [List.map_cons, List.nodup_cons] at h
    by_cases hc : head.1 = column
    · simp only [put, hc, if_true, List.map_cons, List.nodup_cons]
      exact ⟨hc ▸ h.1, h.2⟩
    · rw [put, if_neg hc, List.map_cons, List.nodup_cons, mem_fst_put]
      exact ⟨fun h' => h'.elim h.1 hc, ih h.2⟩

end Row

structure Row where
  entries : List (String × Value)
  distinct : (entries.map Prod.fst).Nodup

namespace Row

def empty : Row := ⟨[], List.nodup_nil⟩

def insert (r : Row) (column : String) (v : Value) : Row :=
  ⟨put r.entries column v, nodup_put r.distinct column v⟩

def ofList (entries : List (String × Value)) : Row :=
  entries.foldl (fun r (column, v) => r.insert column v) empty

def get? (r : Row) (column : String) : Option Value := r.entries.lookup column

def getNonNull? (r : Row) (column : String) : Option Value :=
  (r.get? column).filter fun v => !v.isNull

def size (r : Row) : Nat := r.entries.length

def isEmpty (r : Row) : Bool := r.entries.isEmpty

def same (r s : Row) : Bool :=
  r.size == s.size && r.entries.all fun (column, v) => (s.get? column).any v.same

instance : BEq Row := ⟨same⟩

theorem lookup_put (entries : List (String × Value)) (column c : String) (v : Value) :
    (put entries column v).lookup c = if c = column then some v else entries.lookup c := by
  have cons (d : String) (w : Value) (rest : List (String × Value)) :
      ((d, w) :: rest).lookup c = if c = d then some w else rest.lookup c := by
    rw [List.lookup_cons]
    by_cases h : c = d
    · simp [h]
    · simp [beq_false_of_ne h, h]
  induction entries with
  | nil => exact cons column v []
  | cons head rest ih =>
    rw [put]
    split <;> rename_i hc <;> simp only [cons, ih]
    · by_cases h : c = column <;> simp [hc, h]
    · by_cases h : c = head.1
      · simp [h, hc]
      · simp [h]

theorem get?_insert (r : Row) (column c : String) (v : Value) :
    (r.insert column v).get? c = if c = column then some v else r.get? c :=
  lookup_put r.entries column c v

end Row

end RecordMapper
