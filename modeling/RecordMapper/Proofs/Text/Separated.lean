import RecordMapper.Connection.Recorder
import RecordMapper.Proofs.Text.Doubled
import RecordMapper.Proofs.Text.Joined
/-!
# Separators of a text

A recorder takes a text apart at its separators, wherever they stand. Where two texts meet, a separator
comes about only if the second one begins with a line break. Quotes that are doubled, or taken off, make
none and break none.
-/

namespace RecordMapper

namespace Recorder

theorem pieces_pos (cs : List Char) : 0 < pieces cs := by
  fun_induction pieces cs with
  | case1 => decide
  | case2 rest ih => omega
  | case3 c rest hno ih => exact ih

theorem pieces_cons_of_ne {c : Char} (h : c ≠ ';') (rest : List Char) :
    pieces (c :: rest) = pieces rest := by
  rw [pieces]
  rintro rest' rfl
  exact absurd rfl h

theorem pieces_separator_append (rest : List Char) :
    pieces (Statement.separator.toList ++ rest) = pieces rest + 1 := rfl

theorem pieces_append {a b : List Char} (hb : b.head? ≠ some '\n') :
    pieces (a ++ b) + 1 = pieces a + pieces b := by
  fun_induction pieces a with
  | case1 => rw [List.nil_append, Nat.add_comm]
  | case2 rest ih =>
    rw [List.cons_append, List.cons_append, pieces]
    omega
  | case3 c rest hno ih =>
    have hcons : pieces (c :: (rest ++ b)) = pieces (rest ++ b) := by
      rw [pieces]
      intro rest' hc hrest
      cases rest with
      | nil =>
        rw [List.nil_append] at hrest
        rw [hrest] at hb
        exact hb rfl
      | cons d rest =>
        obtain ⟨rfl, -⟩ := List.cons.inj hrest
        exact hno rest hc rfl
    rw [List.cons_append, hcons]
    exact ih

theorem pieces_eq_one_iff (cs : List Char) :
    pieces cs = 1 ↔ ¬ Statement.separator.toList <:+: cs := by
  have hseparator : Statement.separator.toList = [';', '\n'] := rfl
  rw [hseparator]
  fun_induction pieces cs with
  | case1 => simp
  | case2 rest ih =>
    have hpos := pieces_pos rest
    constructor
    · intro h
      omega
    · intro h
      exact absurd (List.prefix_append [';', '\n'] rest).isInfix h
  | case3 c rest hno ih =>
    have hstart : ¬ [';', '\n'] <+: c :: rest := by
      rintro ⟨after, hafter⟩
      obtain ⟨hc, hrest⟩ := List.cons.inj hafter
      exact hno after hc.symm hrest.symm
    refine ih.trans ?_
    rw [List.infix_cons_iff, not_or]
    exact ⟨fun h => ⟨hstart, h⟩, And.right⟩

theorem pieces_of_notMem {cs : List Char} (h : '\n' ∉ cs) : pieces cs = 1 := by
  rw [pieces_eq_one_iff]
  intro hinner
  exact h (hinner.subset (by decide))

theorem head?_double (s : List Char) : (Quoted.double s).head? = s.head? := by
  cases s with
  | nil => rfl
  | cons c rest =>
    rw [Quoted.double]
    split_ifs <;> rfl

theorem pieces_double (s : List Char) : pieces (Quoted.double s) = pieces s := by
  fun_induction pieces s with
  | case1 => rfl
  | case2 rest ih => simp [Quoted.double, pieces, ih]
  | case3 c rest hno ih =>
    by_cases hc : c = '\''
    · rw [hc, Quoted.double, if_pos rfl, pieces_cons_of_ne (by decide),
        pieces_cons_of_ne (by decide), ih]
    · rw [Quoted.double, if_neg hc, ← ih, pieces]
      intro after hsemicolon hafter
      have hhead := head?_double rest
      rw [hafter, List.head?_cons] at hhead
      obtain ⟨rest', rfl⟩ := List.head?_eq_some_iff.1 hhead.symm
      exact hno rest' hsemicolon rfl

theorem pieces_intercalate {texts : List String} (hne : texts ≠ []) :
    pieces (String.intercalate Statement.separator texts).toList =
      (texts.map fun text => pieces text.toList).sum := by
  induction texts with
  | nil => exact absurd rfl hne
  | cons text rest ih =>
    cases rest with
    | nil => simp
    | cons next rest =>
      have hjoined := ih (List.cons_ne_nil _ _)
      rw [String.intercalate_cons_of_ne_nil (List.cons_ne_nil _ _), List.map_cons, List.sum_cons,
        ← hjoined]
      generalize String.intercalate Statement.separator (next :: rest) = joined
      have hmeet : pieces (text.toList ++ (Statement.separator.toList ++ joined.toList)) + 1 =
          pieces text.toList + pieces (Statement.separator.toList ++ joined.toList) :=
        pieces_append nofun
      rw [pieces_separator_append] at hmeet
      rw [String.toList_append, String.toList_append, List.append_assoc]
      omega

def separators (text : String) : Nat := pieces text.toList - 1

theorem pieces_eq (text : String) : pieces text.toList = separators text + 1 := by
  have hpos := pieces_pos text.toList
  unfold separators
  omega

theorem separators_eq_zero_iff (text : String) :
    separators text = 0 ↔ ¬ Statement.separator.toList <:+: text.toList := by
  have hpieces := pieces_eq text
  rw [← pieces_eq_one_iff]
  omega

/-- A text with `n` separators in it that completes none begun before it. -/
structure HasSeparators (text : String) (n : Nat) : Prop where
  start : text.toList.head? ≠ some '\n'
  pieces : pieces text.toList = n + 1

namespace HasSeparators

variable {a b text : String} {n k : Nat}

theorem of_notMem (h : '\n' ∉ text.toList) : HasSeparators text 0 where
  start := fun hhead => h (List.mem_of_head? hhead)
  pieces := pieces_of_notMem h

theorem append (ha : HasSeparators a n) (hb : HasSeparators b k) :
    HasSeparators (a ++ b) (n + k) where
  start := by
    rw [String.toList_append, List.head?_append]
    intro h
    rcases Option.or_eq_some_iff.1 h with h | ⟨-, h⟩
    · exact ha.start h
    · exact hb.start h
  pieces := by
    have hmeet := pieces_append (a := a.toList) hb.start
    rw [String.toList_append]
    rw [ha.pieces, hb.pieces] at hmeet
    omega

theorem quote_append {inside : List Char} (hinside : Recorder.pieces inside = n + 1)
    (hb : HasSeparators b 0) : HasSeparators ("'" ++ String.ofList inside ++ b) n where
  start := by simp
  pieces := by
    have hmeet := pieces_append (a := inside) hb.start
    have hlist : ("'" ++ String.ofList inside ++ b).toList = '\'' :: (inside ++ b.toList) := by simp
    rw [hlist, pieces_cons_of_ne (by decide)]
    rw [hinside, hb.pieces] at hmeet
    omega

theorem literal (s : String) : HasSeparators (Quoted.literal s) (separators s) :=
  quote_append ((pieces_double s.toList).trans (pieces_eq s)) (of_notMem (by decide))

theorem pieces_strip (h : HasSeparators text n) :
    Recorder.pieces (Quoted.strip text).toList = n + 1 := by
  by_cases henclosed : Quoted.Enclosed text
  · obtain ⟨inside, hinside⟩ := henclosed
    have hquote : Recorder.pieces (inside ++ ['\'']) + 1 = Recorder.pieces inside + 1 :=
      pieces_append nofun
    have hpieces := h.pieces
    rw [hinside, List.cons_append, pieces_cons_of_ne (by decide)] at hpieces
    rw [Quoted.strip_of_enclosed hinside, String.toList_ofList]
    omega
  · rw [Quoted.strip_of_not_enclosed henclosed]
    exact h.pieces

end HasSeparators

end Recorder

end RecordMapper
