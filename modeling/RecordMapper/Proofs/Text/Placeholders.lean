import Mathlib.Data.List.Basic
/-!
# The placeholders that stand in a text

A placeholder is an `@` with the longest run of word characters behind it. Read that way, one that is
the beginning of another is not taken for it, and what a text refers to can be put together from its
parts as long as each part ends before something that is not a word character.
-/

namespace RecordMapper

/-- Which characters are letters is left open, except for the ones that stand around placeholders. -/
structure Letters where
  is : Char → Bool
  boundary : ∀ c ∈ ['@', ',', ' ', ')', ';'], is c = false

namespace Letters

def ascii : Letters where
  is := Char.isAlpha
  boundary := by
    intro c hc
    simp only [List.mem_cons, List.not_mem_nil, or_false] at hc
    rcases hc with rfl | rfl | rfl | rfl | rfl <;> rfl

variable (l : Letters)

def word (c : Char) : Bool := l.is c || c.isDigit || c == '_'

def placeholdersFrom : List Char → List String
  | [] => []
  | c :: rest =>
    if c = '@' then String.ofList ('@' :: rest.takeWhile l.word) :: placeholdersFrom rest
    else placeholdersFrom rest

def placeholders (text : String) : List String := l.placeholdersFrom text.toList

def Stops (rest : List Char) : Prop := ∀ c, rest.head? = some c → l.word c = false

/-- In front of what stops a name, the text refers to `names` in this order. -/
def Mentions (text : String) (names : List String) : Prop :=
  ∀ rest, l.Stops rest →
    l.placeholdersFrom (text.toList ++ rest) = names ++ l.placeholdersFrom rest

variable {l}

theorem word_eq_false {c : Char} (hc : c ∈ ['@', ',', ' ', ')', ';']) : l.word c = false := by
  rw [word, l.boundary c hc]
  simp only [List.mem_cons, List.not_mem_nil, or_false] at hc
  rcases hc with rfl | rfl | rfl | rfl | rfl <;> rfl

theorem stops_nil : l.Stops [] := nofun

theorem stops_cons {c : Char} {rest : List Char} (h : l.word c = false) : l.Stops (c :: rest) := by
  intro d hd
  rw [← Option.some.inj hd]
  exact h

theorem stops_of_boundary {c : Char} {rest : List Char} (hc : c ∈ ['@', ',', ' ', ')', ';']) :
    l.Stops (c :: rest) :=
  stops_cons (word_eq_false hc)

theorem Stops.append {a rest : List Char} (ha : l.Stops a) (hrest : l.Stops rest) :
    l.Stops (a ++ rest) := by
  cases a with
  | nil => exact hrest
  | cons c a => exact stops_cons (ha c rfl)

theorem placeholdersFrom_append_of_notMem {a : List Char} (ha : '@' ∉ a) (rest : List Char) :
    l.placeholdersFrom (a ++ rest) = l.placeholdersFrom rest := by
  induction a with
  | nil => rfl
  | cons c a ih =>
    rw [List.mem_cons, not_or] at ha
    rw [List.cons_append, placeholdersFrom, if_neg (Ne.symm ha.1)]
    exact ih ha.2

theorem takeWhile_append_of_stops {name rest : List Char} (hname : ∀ c ∈ name, l.word c = true)
    (hrest : l.Stops rest) : (name ++ rest).takeWhile l.word = name := by
  rw [List.takeWhile_append_of_pos hname]
  cases rest with
  | nil => simp
  | cons c rest => simp [hrest c rfl]

namespace Mentions

variable {a b : String} {names names' : List String}

theorem placeholders_eq (h : l.Mentions a names) : l.placeholders a = names := by
  have h' := h [] stops_nil
  simpa [placeholders, placeholdersFrom] using h'

theorem plain (h : '@' ∉ a.toList) : l.Mentions a [] := by
  intro rest _
  exact placeholdersFrom_append_of_notMem h rest

theorem name (h : ∀ c ∈ a.toList, l.word c = true) : l.Mentions ("@" ++ a) ["@" ++ a] := by
  intro rest hrest
  have hat : '@' ∉ a.toList := by
    intro hmem
    have hword := h '@' hmem
    rw [word_eq_false (by decide)] at hword
    cases hword
  have htext : ("@" ++ a).toList ++ rest = '@' :: (a.toList ++ rest) := by simp
  have hname : String.ofList ('@' :: a.toList) = "@" ++ a := by
    apply String.toList_injective
    simp
  rw [htext, placeholdersFrom, if_pos rfl, takeWhile_append_of_stops h hrest, hname,
    placeholdersFrom_append_of_notMem hat]
  rfl

/-- A name in `a` may reach its end, so `b` has to stop it. -/
theorem append (ha : l.Mentions a names) (hb : l.Mentions b names') (hstop : l.Stops b.toList) :
    l.Mentions (a ++ b) (names ++ names') := by
  intro rest hrest
  rw [String.toList_append, List.append_assoc, ha _ (hstop.append hrest), hb rest hrest,
    List.append_assoc]

theorem plain_append (ha : '@' ∉ a.toList) (hb : l.Mentions b names) : l.Mentions (a ++ b) names := by
  intro rest hrest
  rw [String.toList_append, List.append_assoc, placeholdersFrom_append_of_notMem ha]
  exact hb rest hrest

theorem append_plain (ha : l.Mentions a names) (hb : '@' ∉ b.toList) (hstop : l.Stops b.toList) :
    l.Mentions (a ++ b) names := by
  have h := ha.append (plain hb) hstop
  rwa [List.append_nil] at h

theorem intercalate {α : Type} {separator : String} {items : List α} {text : α → String}
    {found : α → List String} (hplain : '@' ∉ separator.toList) (hne : separator ≠ "")
    (hstop : l.Stops separator.toList)
    (h : ∀ item ∈ items, l.Mentions (text item) (found item)) :
    l.Mentions (String.intercalate separator (items.map text)) (items.flatMap found) := by
  induction items with
  | nil => exact plain (by simp)
  | cons item rest ih =>
    have hitem := h item List.mem_cons_self
    cases rest with
    | nil => simpa using hitem
    | cons next rest =>
      have hrest := ih fun item hi => h item (List.mem_cons_of_mem _ hi)
      rw [List.map_cons, List.map_cons, String.intercalate_cons_cons, List.flatMap_cons,
        String.append_assoc]
      refine hitem.append (plain_append hplain hrest) ?_
      rw [String.toList_append]
      intro c hc
      cases hs : separator.toList with
      | nil => exact absurd (String.toList_eq_nil_iff.1 hs) hne
      | cons d s =>
        rw [hs] at hc hstop
        exact hstop c hc

theorem intercalate_map {α : Type} {separator : String} {items : List α} {text name : α → String}
    (hplain : '@' ∉ separator.toList) (hne : separator ≠ "") (hstop : l.Stops separator.toList)
    (h : ∀ item ∈ items, l.Mentions (text item) [name item]) :
    l.Mentions (String.intercalate separator (items.map text)) (items.map name) := by
  have hnames : items.map name = items.flatMap fun item => [name item] := List.map_eq_flatMap
  rw [hnames]
  exact intercalate hplain hne hstop h

end Mentions

end Letters

end RecordMapper
