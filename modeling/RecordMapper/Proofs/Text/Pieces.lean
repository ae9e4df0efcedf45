import RecordMapper.Text.Quoted
import Mathlib.Data.List.Basic
/-!
# Reading the literals of a text

A reader that knows nothing of how a text was made splits it into raw characters and literals. Texts
that meet without two quotes touching are read apart; a literal is read back as its content.
-/

namespace RecordMapper.Quoted

/-- A character outside every literal, or a whole literal by its content. -/
inductive Piece where
  | raw (c : Char)
  | literal (content : List Char)
deriving DecidableEq

namespace Piece

def place : Piece → Option Char
  | raw c => some c
  | literal _ => none

def content? : Piece → Option (List Char)
  | raw _ => none
  | literal content => some content

def chars : Piece → List Char
  | raw c => [c]
  | literal content => '\'' :: double content ++ ['\'']

end Piece

def contents (ps : List Piece) : List (List Char) := ps.filterMap Piece.content?

section Contents

variable (c : Char) (content : List Char) (ps qs : List Piece)

@[simp] theorem contents_nil : contents [] = [] := rfl

@[simp] theorem contents_cons_raw : contents (Piece.raw c :: ps) = contents ps := rfl

@[simp] theorem contents_cons_literal :
    contents (Piece.literal content :: ps) = content :: contents ps := rfl

@[simp] theorem contents_append : contents (ps ++ qs) = contents ps ++ contents qs :=
  List.filterMap_append

@[simp] theorem contents_raw (s : List Char) : contents (s.map Piece.raw) = [] := by
  induction s with
  | nil => rfl
  | cons _ _ ih => exact ih

end Contents

inductive Mode where
  | outside
  | inside (content : List Char)
  /-- Behind a quote that ends the literal unless another quote follows. -/
  | closing (content : List Char)

/-- The pieces that are still to come. In a literal two quotes stand for one of its content and a lone
quote is its end; a text that ends in a literal has no reading. -/
def scanFrom : Mode → List Char → Option (List Piece)
  | .outside, [] => some []
  | .inside _, [] => none
  | .closing content, [] => some [Piece.literal content]
  | .outside, c :: rest =>
    if c = '\'' then scanFrom (.inside []) rest
    else (scanFrom .outside rest).map (Piece.raw c :: ·)
  | .inside content, c :: rest =>
    if c = '\'' then scanFrom (.closing content) rest
    else scanFrom (.inside (content ++ [c])) rest
  | .closing content, c :: rest =>
    if c = '\'' then scanFrom (.inside (content ++ [c])) rest
    else (scanFrom .outside rest).map fun ps => Piece.literal content :: Piece.raw c :: ps

/-- The pieces of a text; none if the text ends inside a literal. -/
def scan (text : String) : Option (List Piece) := scanFrom .outside text.toList

/-- A text that does not begin with a quote, so that it cannot lengthen a literal before it. -/
def StartsOutside (chars : List Char) : Prop := ∀ rest, chars ≠ '\'' :: rest

theorem startsOutside_of_notMem {a : List Char} (h : '\'' ∉ a) : StartsOutside a := by
  rintro rest rfl
  exact h List.mem_cons_self

theorem scanFrom_raw {c : Char} (h : c ≠ '\'') (rest : List Char) :
    scanFrom .outside (c :: rest) = (scanFrom .outside rest).map (Piece.raw c :: ·) := by
  simp [scanFrom, h]

theorem scanFrom_closing {rest : List Char} (h : StartsOutside rest) (content : List Char) :
    scanFrom (.closing content) rest =
      (scanFrom .outside rest).map (Piece.literal content :: ·) := by
  cases rest with
  | nil => rfl
  | cons c after =>
    have hc : c ≠ '\'' := fun hc => h after (hc ▸ rfl)
    simp only [scanFrom, if_neg hc, Option.map_map]
    rfl

theorem scanFrom_append {a b : List Char} {ps : List Piece} {mode : Mode}
    (ha : scanFrom mode a = some ps) (hb : StartsOutside b) :
    scanFrom mode (a ++ b) = (scanFrom .outside b).map (ps ++ ·) := by
  induction a generalizing mode ps with
  | nil =>
    cases mode with
    | outside => cases ha; simp
    | inside content => cases ha
    | closing content => cases ha; exact scanFrom_closing hb content
  | cons c rest ih =>
    cases mode with
    | outside =>
      simp only [List.cons_append, scanFrom] at ha ⊢
      split at ha
      · rw [if_pos ‹_›]
        exact ih ha
      · rw [if_neg ‹_›]
        obtain ⟨qs, hq, rfl⟩ := Option.map_eq_some_iff.1 ha
        rw [ih hq, Option.map_map]
        rfl
    | inside content =>
      simp only [List.cons_append, scanFrom] at ha ⊢
      split at ha
      · rw [if_pos ‹_›]
        exact ih ha
      · rw [if_neg ‹_›]
        exact ih ha
    | closing content =>
      simp only [List.cons_append, scanFrom] at ha ⊢
      split at ha
      · rw [if_pos ‹_›]
        exact ih ha
      · rw [if_neg ‹_›]
        obtain ⟨qs, hq, rfl⟩ := Option.map_eq_some_iff.1 ha
        rw [ih hq, Option.map_map]
        rfl

theorem scanFrom_raw_append {a : List Char} (h : '\'' ∉ a) (b : List Char) :
    scanFrom .outside (a ++ b) = (scanFrom .outside b).map (a.map Piece.raw ++ ·) := by
  induction a with
  | nil => simp
  | cons c rest ih =>
    rw [List.mem_cons, not_or] at h
    rw [List.cons_append, scanFrom_raw (Ne.symm h.1), ih h.2, Option.map_map]
    rfl

theorem scanFrom_double (s content : List Char) {b : List Char} (hb : StartsOutside b) :
    scanFrom (.inside content) (double s ++ '\'' :: b) =
      (scanFrom .outside b).map (Piece.literal (content ++ s) :: ·) := by
  induction s generalizing content with
  | nil =>
    rw [double, List.nil_append, List.append_nil, scanFrom, if_pos rfl]
    exact scanFrom_closing hb content
  | cons c rest ih =>
    by_cases hc : c = '\''
    · simp only [double, hc, if_true, List.cons_append, scanFrom, ih]
      simp
    · simp only [double, hc, if_false, List.cons_append, scanFrom, ih]
      simp

theorem scan_of_notMem {text : String} (h : '\'' ∉ text.toList) :
    scan text = some (text.toList.map Piece.raw) := by
  have h' := scanFrom_raw_append h []
  simpa [scan, scanFrom] using h'

theorem scan_literal (s : String) : scan (literal s) = some [Piece.literal s.toList] := by
  have h : StartsOutside [] := fun rest => (List.cons_ne_nil _ rest).symm
  rw [scan, toList_literal, List.cons_append, scanFrom, if_pos rfl, scanFrom_double _ _ h]
  rfl

theorem scan_raw_append {a b : String} {ps : List Piece} (ha : '\'' ∉ a.toList)
    (hb : scan b = some ps) : scan (a ++ b) = some (a.toList.map Piece.raw ++ ps) := by
  unfold scan at hb ⊢
  rw [String.toList_append, scanFrom_raw_append ha, hb, Option.map_some]

theorem scan_append_raw {a b : String} {ps : List Piece} (ha : scan a = some ps)
    (hb : '\'' ∉ b.toList) : scan (a ++ b) = some (ps ++ b.toList.map Piece.raw) := by
  have hs := scan_of_notMem hb
  unfold scan at ha hs ⊢
  rw [String.toList_append, scanFrom_append ha (startsOutside_of_notMem hb), hs, Option.map_some]

theorem scan_around {a separator b : String} {ps qs : List Piece} (ha : scan a = some ps)
    (hb : scan b = some qs) (hs : '\'' ∉ separator.toList) (hn : separator ≠ "") :
    scan (a ++ separator ++ b) = some (ps ++ separator.toList.map Piece.raw ++ qs) := by
  have hout : StartsOutside (separator ++ b).toList := by
    intro rest h
    cases hl : separator.toList with
    | nil => exact hn (String.toList_eq_nil_iff.1 hl)
    | cons c after =>
      rw [String.toList_append, hl, List.cons_append] at h
      obtain ⟨rfl, -⟩ := List.cons.inj h
      exact hs (hl ▸ List.mem_cons_self)
  have hsb := scan_raw_append hs hb
  unfold scan at ha hsb ⊢
  rw [String.append_assoc, String.toList_append, scanFrom_append ha hout, hsb, Option.map_some,
    List.append_assoc]

end RecordMapper.Quoted
