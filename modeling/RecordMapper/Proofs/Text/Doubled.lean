import RecordMapper.Proofs.Text.Pieces
/-!
# Text that is the inside of a literal

The content of a literal has its quotes in pairs. Whether a text can stand inside a literal as it is
shows in its reading: every literal in it must hold quotes only. A text has a reading exactly when the
number of its quotes is even.
-/

namespace RecordMapper.Quoted

def Mode.written : Mode → List Char
  | outside => []
  | inside content => '\'' :: double content
  | closing content => '\'' :: double content ++ ['\'']

theorem chars_of_scanFrom {mode : Mode} {t : List Char} {ps : List Piece}
    (h : scanFrom mode t = some ps) :
    mode.written ++ t = ps.flatMap Piece.chars ∧ ∀ c, Piece.raw c ∈ ps → c ≠ '\'' := by
  induction t generalizing mode ps with
  | nil =>
    cases mode with
    | outside => cases h; simp [Mode.written]
    | inside content => cases h
    | closing content => cases h; simp [Mode.written, Piece.chars]
  | cons c rest ih =>
    cases mode with
    | outside =>
      rw [scanFrom] at h
      split at h
      · rename_i hc
        subst hc
        exact ih h
      · rename_i hc
        obtain ⟨qs, hq, rfl⟩ := Option.map_eq_some_iff.1 h
        obtain ⟨ht, hraw⟩ := ih hq
        refine ⟨by simpa [Mode.written, Piece.chars] using ht, fun d hd => ?_⟩
        rcases List.mem_cons.1 hd with hd | hd
        · cases hd; exact hc
        · exact hraw d hd
    | inside content =>
      rw [scanFrom] at h
      split at h
      · rename_i hc
        subst hc
        simpa [Mode.written] using ih h
      · rename_i hc
        simpa [Mode.written, double_append, double, hc] using ih h
    | closing content =>
      rw [scanFrom] at h
      split at h
      · rename_i hc
        subst hc
        simpa [Mode.written, double_append, double] using ih h
      · rename_i hc
        obtain ⟨qs, hq, rfl⟩ := Option.map_eq_some_iff.1 h
        obtain ⟨ht, hraw⟩ := ih hq
        refine ⟨by simpa [Mode.written, Piece.chars] using ht, fun d hd => ?_⟩
        rcases List.mem_cons.1 hd with hd | hd
        · cases hd
        rcases List.mem_cons.1 hd with hd | hd
        · cases hd; exact hc
        · exact hraw d hd

theorem scan_eq_literal_iff {text : String} {content : List Char} :
    scan text = some [Piece.literal content] ↔ text = literal (String.ofList content) := by
  constructor
  · intro h
    rw [← String.toList_inj, toList_literal, String.toList_ofList]
    simpa [Mode.written, Piece.chars] using (chars_of_scanFrom h).1
  · rintro rfl
    rw [scan_literal, String.toList_ofList]

def Mode.missing : Mode → Nat
  | inside _ => 1
  | outside | closing _ => 0

theorem isSome_scanFrom_iff {mode : Mode} {t : List Char} :
    (scanFrom mode t).isSome = true ↔ (t.count '\'' + mode.missing) % 2 = 0 := by
  induction t generalizing mode with
  | nil => cases mode <;> simp [scanFrom, Mode.missing]
  | cons c rest ih =>
    by_cases hc : c = '\''
    · subst hc
      cases mode with
      | outside => simp [scanFrom, ih, Mode.missing]
      | inside content =>
        simp only [scanFrom, if_true, ih, List.count_cons_self, Mode.missing]
        omega
      | closing content => simp [scanFrom, ih, Mode.missing]
    · cases mode <;> simp [scanFrom, hc, ih, List.count_cons_of_ne, Mode.missing]

theorem isSome_scan_iff {text : String} :
    (scan text).isSome = true ↔ text.toList.count '\'' % 2 = 0 :=
  isSome_scanFrom_iff

def OnlyQuotes (s : List Char) : Prop := ∀ c ∈ s, c = '\''

/-- Doubled text read from outside, or from behind a quote that a literal of quotes may end with. -/
theorem onlyQuotes_of_scanFrom_double (s : List Char) :
    (∀ ps, scanFrom .outside (double s) = some ps → ∀ c ∈ contents ps, OnlyQuotes c) ∧
      ∀ content ps, OnlyQuotes content → scanFrom (.closing content) (double s) = some ps →
        ∀ c ∈ contents ps, OnlyQuotes c := by
  induction s with
  | nil =>
    refine ⟨?_, ?_⟩
    · intro ps h
      cases h
      simp
    · intro content ps hq h
      cases h
      simpa using hq
  | cons c rest ih =>
    obtain ⟨ihout, ihclose⟩ := ih
    by_cases hc : c = '\''
    · subst hc
      refine ⟨?_, ?_⟩
      · intro ps h
        simp only [double, if_true, scanFrom] at h
        exact ihclose [] ps (by simp [OnlyQuotes]) h
      · intro content ps hq h
        simp only [double, if_true, scanFrom] at h
        refine ihclose _ ps ?_ h
        intro d hd
        rcases List.mem_append.1 hd with hd | hd
        · exact hq d hd
        · exact List.mem_singleton.1 hd
    · refine ⟨?_, ?_⟩
      · intro ps h
        simp only [double, hc, if_false, scanFrom] at h
        obtain ⟨qs, hqs, rfl⟩ := Option.map_eq_some_iff.1 h
        exact ihout qs hqs
      · intro content ps hq h
        simp only [double, hc, if_false, scanFrom] at h
        obtain ⟨qs, hqs, rfl⟩ := Option.map_eq_some_iff.1 h
        intro d hd
        rcases List.mem_cons.1 hd with rfl | hd
        · exact hq
        · exact ihout qs hqs d hd

theorem double_replicate (n : Nat) :
    double (List.replicate n '\'') = List.replicate (2 * n) '\'' := by
  induction n with
  | zero => rfl
  | succ n ih => rw [List.replicate_succ, double, if_pos rfl, ih]; rfl

theorem Piece.exists_double {p : Piece} (hraw : ∀ c, p = raw c → c ≠ '\'')
    (hq : ∀ content, p = literal content → OnlyQuotes content) : ∃ s, p.chars = double s := by
  cases p with
  | raw c => exact ⟨[c], by rw [double, if_neg (hraw c rfl)]; rfl⟩
  | literal content =>
    obtain ⟨n, rfl⟩ : ∃ n, content = List.replicate n '\'' :=
      ⟨content.length, List.eq_replicate_iff.2 ⟨rfl, hq content rfl⟩⟩
    have hn : 2 * (n + 1) = 2 * n + 1 + 1 := by omega
    refine ⟨List.replicate (n + 1) '\'', ?_⟩
    rw [chars, double_replicate, double_replicate, hn, List.replicate_succ, List.replicate_succ']
    rfl

theorem exists_double_iff {text : String} {ps : List Piece} (h : scan text = some ps) :
    (∃ s, text.toList = double s) ↔ ∀ c ∈ contents ps, OnlyQuotes c := by
  constructor
  · rintro ⟨s, hs⟩
    exact (onlyQuotes_of_scanFrom_double s).1 ps (hs ▸ h)
  · intro hq
    obtain ⟨hchars, hraw⟩ := chars_of_scanFrom h
    rw [Mode.written, List.nil_append] at hchars
    rw [hchars]
    clear h hchars
    induction ps with
    | nil => exact ⟨[], rfl⟩
    | cons p rest ih =>
      obtain ⟨s, hs⟩ := Piece.exists_double
        (fun c hc => hraw c (hc ▸ List.mem_cons_self))
        (fun content hc => hq content (by rw [hc]; exact List.mem_cons_self))
      obtain ⟨t, ht⟩ := ih
        (fun c hc => hq c (by cases p <;> simp [hc]))
        (fun c hc => hraw c (List.mem_cons_of_mem _ hc))
      exact ⟨s ++ t, by rw [List.flatMap_cons, hs, ht, double_append]⟩

def Enclosed (text : String) : Prop := ∃ inside, text.toList = '\'' :: inside ++ ['\'']

theorem strip_of_enclosed {text : String} {inside : List Char}
    (h : text.toList = '\'' :: inside ++ ['\'']) : strip text = String.ofList inside := by
  simp [strip, h]

theorem strip_of_not_enclosed {text : String} (h : ¬ Enclosed text) : strip text = text := by
  unfold strip
  split
  · rename_i rest hr
    split
    · rename_i hl
      obtain ⟨inside, rfl⟩ := List.getLast?_eq_some_iff.1 hl
      exact absurd ⟨inside, hr⟩ h
    · rfl
  · rfl

/-- What is left of a text without an enclosing pair of quotes can stand inside a literal as it is
exactly when the text is one literal, or has no such pair and no literal in it but of quotes. -/
theorem exists_double_strip_iff {text : String} {ps : List Piece} (h : scan text = some ps) :
    (∃ s, (strip text).toList = double s) ↔
      (∃ content, ps = [Piece.literal content]) ∨
        ¬ Enclosed text ∧ ∀ c ∈ contents ps, OnlyQuotes c := by
  by_cases he : Enclosed text
  · obtain ⟨inside, hi⟩ := he
    rw [strip_of_enclosed hi, String.toList_ofList]
    constructor
    · rintro ⟨s, rfl⟩
      refine .inl ⟨s, Option.some.inj (h.symm.trans (scan_eq_literal_iff.2 ?_))⟩
      rw [← String.toList_inj, hi, toList_literal, String.toList_ofList]
    · rintro (⟨content, rfl⟩ | ⟨hn, -⟩)
      · rw [scan_eq_literal_iff.1 h, toList_literal, String.toList_ofList] at hi
        exact ⟨content, by simpa using hi.symm⟩
      · exact absurd ⟨inside, hi⟩ hn
  · rw [strip_of_not_enclosed he, exists_double_iff h]
    constructor
    · exact fun hq => .inr ⟨he, hq⟩
    · rintro (⟨content, rfl⟩ | ⟨-, hq⟩)
      · have ht := scan_eq_literal_iff.1 h
        exact absurd ⟨double content, by rw [ht, toList_literal, String.toList_ofList]⟩ he
      · exact hq

end RecordMapper.Quoted
