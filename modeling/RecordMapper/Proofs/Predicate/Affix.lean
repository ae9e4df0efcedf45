import RecordMapper.Proofs.Predicate.Injection
import Mathlib.Data.List.Infix
/-!
# What a pattern of a prefix or a suffix matches

A store reads `%` in a pattern as any run of characters and `_` as any one. Both stand for themselves in
the text that a filter asks for, so its pattern matches whatever begins, or ends, with a text that this
one matches as a pattern: all that is meant, and nothing else exactly if neither sign occurs in it.
-/

namespace RecordMapper

open Quoted (Piece scan)

namespace Like

def isWildcard (c : Char) : Bool := c = '%' || c = '_'

/-- Whether a pattern matches a text, by the rule of `LIKE` without an escape character. -/
def matched : List Char → List Char → Bool
  | [], text => text.isEmpty
  | c :: pattern, text =>
    if c = '%' then text.tails.any fun rest => matched pattern rest
    else
      match text with
      | [] => false
      | d :: rest => (c = '_' || c = d) && matched pattern rest

variable {p q s x : List Char}

theorem matched_nil_iff : matched [] x = true ↔ x = [] := by
  rw [matched, List.isEmpty_iff]

theorem matched_run_iff : matched ('%' :: p) x = true ↔ ∃ y z, x = y ++ z ∧ matched p z = true := by
  rw [matched.eq_def]
  dsimp only
  rw [if_pos rfl, List.any_eq_true]
  constructor
  · rintro ⟨z, hz, hp⟩
    obtain ⟨y, rfl⟩ := (List.mem_tails ..).1 hz
    exact ⟨y, z, rfl, hp⟩
  · rintro ⟨y, z, rfl, hp⟩
    exact ⟨z, (List.mem_tails ..).2 (List.suffix_append y z), hp⟩

theorem matched_cons_iff {c : Char} (hc : c ≠ '%') :
    matched (c :: p) x = true ↔ ∃ d z, x = d :: z ∧ (c = '_' ∨ c = d) ∧ matched p z = true := by
  cases x with
  | nil => simp [matched, hc]
  | cons d z =>
    rw [matched, if_neg hc]
    simp only [Bool.and_eq_true, Bool.or_eq_true, decide_eq_true_eq]
    constructor
    · intro h
      exact ⟨d, z, rfl, h⟩
    · rintro ⟨d', z', hx, h⟩
      obtain ⟨rfl, rfl⟩ := List.cons.inj hx
      exact h

theorem matched_append_iff :
    matched (p ++ q) x = true ↔ ∃ y z, x = y ++ z ∧ matched p y = true ∧ matched q z = true := by
  induction p generalizing x with
  | nil =>
    constructor
    · intro h
      exact ⟨[], x, rfl, rfl, h⟩
    · rintro ⟨y, z, rfl, hy, hz⟩
      rw [matched_nil_iff.1 hy]
      exact hz
  | cons c p ih =>
    rw [List.cons_append]
    by_cases hc : c = '%'
    · subst hc
      constructor
      · intro h
        obtain ⟨u, v, rfl, hv⟩ := matched_run_iff.1 h
        obtain ⟨y, z, rfl, hy, hz⟩ := ih.1 hv
        exact ⟨u ++ y, z, (List.append_assoc ..).symm, matched_run_iff.2 ⟨u, y, rfl, hy⟩, hz⟩
      · rintro ⟨y, z, rfl, hy, hz⟩
        obtain ⟨u, v, rfl, hv⟩ := matched_run_iff.1 hy
        exact matched_run_iff.2 ⟨u, v ++ z, List.append_assoc .., ih.2 ⟨v, z, rfl, hv, hz⟩⟩
    · constructor
      · intro h
        obtain ⟨d, v, rfl, hd, hv⟩ := (matched_cons_iff hc).1 h
        obtain ⟨y, z, rfl, hy, hz⟩ := ih.1 hv
        exact ⟨d :: y, z, rfl, (matched_cons_iff hc).2 ⟨d, y, rfl, hd, hy⟩, hz⟩
      · rintro ⟨y, z, rfl, hy, hz⟩
        obtain ⟨d, v, rfl, hd, hv⟩ := (matched_cons_iff hc).1 hy
        exact (matched_cons_iff hc).2 ⟨d, v ++ z, rfl, hd, ih.2 ⟨v, z, rfl, hv, hz⟩⟩

theorem matched_run : matched ['%'] x = true :=
  matched_run_iff.2 ⟨x, [], (List.append_nil x).symm, rfl⟩

theorem matched_self (s : List Char) : matched s s = true := by
  induction s with
  | nil => rfl
  | cons c s ih =>
    by_cases hc : c = '%'
    · subst hc
      exact matched_run_iff.2 ⟨['%'], s, rfl, ih⟩
    · exact (matched_cons_iff hc).2 ⟨c, s, rfl, .inr rfl, ih⟩

theorem eq_of_matched (hs : ∀ c ∈ s, isWildcard c = false) (h : matched s x = true) : x = s := by
  induction s generalizing x with
  | nil => exact matched_nil_iff.1 h
  | cons c s ih =>
    obtain ⟨hc, hrest⟩ := List.forall_mem_cons.1 hs
    simp only [isWildcard, Bool.or_eq_false_iff, decide_eq_false_iff_not] at hc
    obtain ⟨d, z, rfl, hd, hz⟩ := (matched_cons_iff hc.1).1 h
    obtain rfl := hd.resolve_left hc.2
    rw [ih hrest hz]

/-- A pattern has no sign for a wildcard itself, so none of its matches depends on one. -/
theorem matched_map {g : Char → Char} (hg : ∀ c, isWildcard c = false → g c = c)
    (h : matched p x = true) : matched p (x.map g) = true := by
  induction p generalizing x with
  | nil =>
    rw [matched_nil_iff.1 h]
    rfl
  | cons c p ih =>
    by_cases hc : c = '%'
    · subst hc
      obtain ⟨y, z, rfl, hz⟩ := matched_run_iff.1 h
      rw [List.map_append]
      exact matched_run_iff.2 ⟨y.map g, z.map g, rfl, ih hz⟩
    · obtain ⟨d, z, rfl, hd, hz⟩ := (matched_cons_iff hc).1 h
      refine (matched_cons_iff hc).2 ⟨g d, z.map g, rfl, ?_, ih hz⟩
      by_cases hany : c = '_'
      · exact .inl hany
      · obtain rfl := hd.resolve_left hany
        have hself : isWildcard c = false := by simp [isWildcard, hc, hany]
        exact .inr (hg c hself).symm

structure IsEnd (R : List Char → List Char → Prop) : Prop where
  refl : ∀ s, R s s
  eq_of_length : ∀ {s x}, R s x → s.length = x.length → s = x

theorem isEnd_beginning : IsEnd fun s x => s <+: x :=
  ⟨List.prefix_refl, fun h hl => h.eq_of_length hl⟩

theorem isEnd_ending : IsEnd fun s x => s <:+ x :=
  ⟨List.suffix_refl, fun h hl => h.eq_of_length hl⟩

variable {R : List Char → List Char → Prop}

/-- Whatever the pattern, it tells the texts with a given end from all others only if no wildcard stands
in that end. -/
theorem plain_of_matched_iff (hR : IsEnd R) (h : ∀ x, matched p x = true ↔ R s x) :
    ∀ c ∈ s, isWildcard c = false := by
  let g (c : Char) : Char := if isWildcard c = true then 'x' else c
  have hg (c : Char) (hc : isWildcard c = false) : g c = c := by simp [g, hc]
  have hs : matched p s = true := (h s).2 (hR.refl s)
  -- With its wildcards replaced the text still matches, and no other text of its length has this end.
  have hend : R s (s.map g) := (h _).1 (matched_map hg hs)
  have heq : s = s.map g := hR.eq_of_length hend (List.length_map g).symm
  intro c hc
  have hfix : g c = c := List.map_eq_map_iff.1 (heq.symm.trans (List.map_id s).symm) c hc
  cases hw : isWildcard c with
  | false => rfl
  | true =>
    have hx : 'x' = c := by simpa [g, hw] using hfix
    rw [← hx] at hw
    exact absurd hw (by decide)

/-- A pattern for the texts with a given end: all of them match, and more exactly if the end has a
wildcard in it. -/
structure Seeks (p : List Char) (R : List Char → List Char → Prop) (s : List Char) : Prop where
  matched_iff : ∀ x, matched p x = true ↔ ∃ y, R y x ∧ matched s y = true
  complete : ∀ x, R s x → matched p x = true
  exact_iff : (∀ x, matched p x = true ↔ R s x) ↔ ∀ c ∈ s, isWildcard c = false

theorem seeks_of_matched_iff (hR : IsEnd R)
    (h : ∀ x, matched p x = true ↔ ∃ y, R y x ∧ matched s y = true) : Seeks p R s := by
  have hcomplete (x : List Char) (hx : R s x) : matched p x = true :=
    (h x).2 ⟨s, hx, matched_self s⟩
  refine ⟨h, hcomplete, plain_of_matched_iff hR, ?_⟩
  intro hs x
  constructor
  · intro hx
    obtain ⟨y, hy, hys⟩ := (h x).1 hx
    rwa [eq_of_matched hs hys] at hy
  · exact hcomplete x

theorem seeks_beginning (s : List Char) : Seeks (s ++ ['%']) (fun s x => s <+: x) s := by
  refine seeks_of_matched_iff isEnd_beginning fun x => ?_
  rw [matched_append_iff]
  constructor
  · rintro ⟨y, z, rfl, hy, -⟩
    exact ⟨y, List.prefix_append y z, hy⟩
  · rintro ⟨y, ⟨z, rfl⟩, hy⟩
    exact ⟨y, z, rfl, hy, matched_run⟩

theorem seeks_ending (s : List Char) : Seeks ('%' :: s) (fun s x => s <:+ x) s := by
  refine seeks_of_matched_iff isEnd_ending fun x => ?_
  rw [matched_run_iff]
  constructor
  · rintro ⟨y, z, rfl, hz⟩
    exact ⟨z, List.suffix_append y z, hz⟩
  · rintro ⟨z, ⟨y, rfl⟩, hz⟩
    exact ⟨y, z, rfl, hz⟩

end Like

namespace Expr

variable {m : EntityMapping} {subject : Expr} {t : String}

theorem compile_like (method : Method) (hm : method ≠ .contains) (h : subject.compile m = .ok t)
    (s : String) : ∃ pattern content,
      (call method (some subject) [.value (.string s)]).compile m =
        .ok ("(" ++ t ++ " LIKE " ++ pattern ++ ")") ∧
      scan pattern = some [Piece.literal content] ∧
      method.quotations (.value (.string s), []) = [content] := by
  have hs : (Expr.value (.string s)).compile m = .ok (Quoted.literal s) := rfl
  obtain ⟨content, hrange, hquotations⟩ := Method.range_of_literal hm hs
  have hlike : method.roles? (some subject) [.value (.string s)] =
      some (subject, .value (.string s)) ∧ method.keyword = " LIKE " := by
    cases method with
    | contains => exact absurd rfl hm
    | startsWith => exact ⟨rfl, rfl⟩
    | endsWith => exact ⟨rfl, rfl⟩
  refine ⟨Quoted.literal (String.ofList content), content, ?_, ?_, hquotations _ _ rfl⟩
  · rw [compile_call_eq_ok_iff]
    exact ⟨subject, _, t, _, hlike.1, h, hs, by rw [hlike.2, hrange]⟩
  · rw [Quoted.scan_literal, String.toList_ofList]

end Expr

/-- The literal behind `LIKE` for a text that is to stand at the beginning, or at the end, lets through
what begins, or ends, with a text that this one matches as a pattern. Nothing that is meant is missed, and
nothing else is let through exactly if the text has no wildcard in it. With one in it no pattern would do
better. -/
theorem affix_pattern_exact_iff {m : EntityMapping} {subject : Expr} {t : String}
    (h : subject.compile m = .ok t) (s : String) :
    (∃ pattern content, (subject.startsWith (.value (.string s))).compile m =
        .ok ("(" ++ t ++ " LIKE " ++ pattern ++ ")") ∧ scan pattern = some [Piece.literal content] ∧
      Like.Seeks content (fun s x => s <+: x) s.toList) ∧
    (∃ pattern content, (subject.endsWith (.value (.string s))).compile m =
        .ok ("(" ++ t ++ " LIKE " ++ pattern ++ ")") ∧ scan pattern = some [Piece.literal content] ∧
      Like.Seeks content (fun s x => s <:+ x) s.toList) ∧
    ∀ pattern, (∀ x, Like.matched pattern x = true ↔ s.toList <+: x) ∨
      (∀ x, Like.matched pattern x = true ↔ s.toList <:+ x) →
        ∀ c ∈ s.toList, Like.isWildcard c = false := by
  refine ⟨?_, ?_, ?_⟩
  · obtain ⟨pattern, content, hcompile, hscan, hquotations⟩ :=
      Expr.compile_like .startsWith nofun h s
    obtain rfl : s.toList ++ ['%'] = content := (List.cons.inj hquotations).1
    exact ⟨pattern, _, hcompile, hscan, Like.seeks_beginning s.toList⟩
  · obtain ⟨pattern, content, hcompile, hscan, hquotations⟩ :=
      Expr.compile_like .endsWith nofun h s
    obtain rfl : '%' :: s.toList = content := (List.cons.inj hquotations).1
    exact ⟨pattern, _, hcompile, hscan, Like.seeks_ending s.toList⟩
  · rintro pattern (hbeginning | hending)
    · exact Like.plain_of_matched_iff Like.isEnd_beginning hbeginning
    · exact Like.plain_of_matched_iff Like.isEnd_ending hending

/-- A text with quotes but no wildcard is sought exactly. -/
theorem affix_pattern_exact_iff_quotes :
    let m : EntityMapping := ⟨"Test", none, [⟨"Name", some "[Name]", false, false⟩]⟩
    ∃ pattern content, ((Expr.field "Name").endsWith (.value (.string "'B'"))).compile m =
        .ok ("(" ++ "[Name]" ++ " LIKE " ++ pattern ++ ")") ∧
      scan pattern = some [Piece.literal content] ∧
      ∀ x, Like.matched content x = true ↔ "'B'".toList <:+ x := by
  intro m
  have h : (Expr.field "Name").compile m = .ok "[Name]" := rfl
  obtain ⟨pattern, content, hcompile, hscan, hseeks⟩ := (affix_pattern_exact_iff h "'B'").2.1
  exact ⟨pattern, content, hcompile, hscan, hseeks.exact_iff.2 (by simp [Like.isWildcard])⟩

/-- The filter for texts that begin with `50%` lets `500` through. -/
theorem percent_beginning_not_exact :
    ((Expr.field "Name").startsWith (.value (.string "50%"))).compile
      ⟨"Test", none, [⟨"Name", none, false, false⟩]⟩ =
      .ok ("(" ++ "Name" ++ " LIKE " ++ "'50%%'" ++ ")") ∧
    scan "'50%%'" = some [Piece.literal "50%%".toList] ∧
    Like.matched "50%%".toList "500".toList = true ∧ ¬ "50%".toList <+: "500".toList := by
  refine ⟨rfl, by decide, by decide, by decide⟩

end RecordMapper
