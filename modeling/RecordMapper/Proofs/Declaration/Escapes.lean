import RecordMapper.Declaration.Literal
import RecordMapper.Text.Escaped
import Mathlib.Data.Nat.Digits.Defs
/-!
# Reading escaped tokens

A string token that stands for a text reads back as that text, whatever the text holds: quotes,
control characters, a NUL before a digit, or characters that only a code point can show.
-/

namespace RecordMapper.Declaration.Literal

theorem hexValue?_digitChar {d : Nat} (hd : d < 16) : hexValue? (Nat.digitChar d) = some d := by
  decide +revert

theorem digitChar_ne {d : Nat} (hd : d < 16) :
    Nat.digitChar d ≠ '\x7d' ∧ Nat.digitChar d ≠ '_' := by
  decide +revert

theorem codePoint_digit {d count n : Nat} (hd : d < 16) (hcount : count < 6) (rest : List Char) :
    codePoint count n (Nat.digitChar d :: rest) = codePoint (count + 1) (16 * n + d) rest := by
  obtain ⟨hclose, hline⟩ := digitChar_ne hd
  rw [codePoint, if_neg hclose, if_neg hline, hexValue?_digitChar hd]
  exact if_pos hcount

/-- The induction takes the last digit off: the reader has then read the number without it. -/
theorem codePoint_toDigits (n : Nat) (rest : List Char) (hlength : (Nat.toDigits 16 n).length ≤ 6) :
    codePoint 0 0 (Nat.toDigits 16 n ++ rest) = codePoint (Nat.toDigits 16 n).length n rest := by
  induction n using Nat.strongRecOn generalizing rest with
  | ind n ih =>
    by_cases hn : n < 16
    · rw [Nat.toDigits_of_lt_base hn, List.singleton_append, codePoint_digit hn (by decide)]
      simp
    · have hdigits := Nat.toDigits_of_base_le (b := 16) (by decide) (not_lt.1 hn)
      rw [hdigits, List.length_append, List.length_singleton] at hlength ⊢
      rw [List.append_assoc, ih (n / 16) (by omega) _ (by omega), List.singleton_append,
        codePoint_digit (by omega) (by omega), Nat.div_add_mod]

theorem codePoint_char (c : Char) (rest : List Char) :
    codePoint 0 0 (Nat.toDigits 16 c.toNat ++ '\x7d' :: rest) = some (c, rest) := by
  have hvalid : c.toNat.isValidChar := c.valid
  have hlength : (Nat.toDigits 16 c.toNat).length ≤ 6 := by
    refine Nat.toDigits_length _ _ _ (by decide) (lt_of_lt_of_le ?_ (by decide : 0x110000 ≤ 16 ^ 6))
    rcases hvalid with h | ⟨-, h⟩ <;> omega
  rw [codePoint_toDigits _ _ hlength, codePoint, if_pos rfl,
    if_pos ⟨Nat.length_toDigits_pos, hvalid⟩, Char.ofNat_toNat]

theorem step_char (c : Char) (rest : List Char) :
    step .text (Escaped.char '"' c ++ rest) = some (.inside [c] rest) := by
  unfold Escaped.char
  split_ifs with hnul htab hreturn hfeed hquoted hhidden
  · subst hnul; rfl
  · subst htab; rfl
  · subst hreturn; rfl
  · subst hfeed; rfl
  · rcases hquoted with rfl | rfl
    · rfl
    · rfl
  · have hescape : escape .text ('u' :: '\x7b' :: (Nat.toDigits 16 c.toNat ++ '\x7d' :: rest)) =
        some (c, rest) := by
      simp [escape, codePoint_char]
    simp [Escaped.codePoint, step, hescape]
  · rw [not_or] at hquoted
    obtain ⟨hslash, hquote⟩ := hquoted
    rw [List.singleton_append]
    -- none of the patterns in front of the last one matches
    simp [step, hslash, hreturn]

/-- Reading an escaped text takes a step for each of its characters and one for the closing quote. -/
theorem cookedWithin_content (cs fuel rest : List Char) (hfuel : cs.length < fuel.length) :
    cookedWithin .text fuel (Escaped.content cs ++ '"' :: rest) = some (cs, rest) := by
  induction cs generalizing fuel with
  | nil =>
    obtain _ | ⟨f, fuel⟩ := fuel
    · simp at hfuel
    · rfl
  | cons c cs ih =>
    obtain _ | ⟨f, fuel⟩ := fuel
    · simp at hfuel
    have hrest := ih fuel (by simpa using hfuel)
    have hstep : step .text (Escaped.content (c :: cs) ++ '"' :: rest) =
        some (.inside [c] (Escaped.content cs ++ '"' :: rest)) := by
      rw [Escaped.content]
      split_ifs with hnul
      · obtain ⟨rfl, -⟩ : c = '\x00' ∧ _ := by simpa using hnul
        rfl
      · rw [List.append_assoc, step_char]
    rw [cookedWithin, hstep]
    dsimp only
    rw [hrest]
    rfl

theorem length_le_content (cs : List Char) : cs.length ≤ (Escaped.content cs).length := by
  have hchar (c : Char) : 1 ≤ (Escaped.char '"' c).length := by
    unfold Escaped.char
    split_ifs <;> simp [Escaped.codePoint]
  induction cs with
  | nil => exact le_rfl
  | cons c cs ih =>
    rw [Escaped.content]
    split_ifs
    · simp only [List.length_cons]
      omega
    · rw [List.length_cons, List.length_append]
      have := hchar c
      omega

theorem textContent?_token (s : String) :
    textContent? (Escaped.token s).toList = some s.toList := by
  have hcooked : cooked .text (Escaped.content s.toList ++ ['"']) = some (s.toList, []) := by
    refine cookedWithin_content _ _ _ ?_
    rw [List.length_append, List.length_singleton]
    exact Nat.lt_succ_of_le (length_le_content _)
  rw [Escaped.token, String.toList_ofList, textContent?, quoted, hcooked]
  rfl

end RecordMapper.Declaration.Literal
