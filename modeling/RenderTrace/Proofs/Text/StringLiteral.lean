import RenderTrace.Text.Quoted
import RenderTrace.Token.StringLiteral

/-!
# Writing and reading string literals

A text that is written as a string literal is the text that the literal stands for
(`Token.StringLiteral.text?_stringLiteral`), whatever characters it holds.

Reading goes on character by character, and every way of writing a character is read back in one
step, whatever follows. A NUL is the one character that is written in two ways, depending on what
follows; both of them are read alike.
-/

namespace RenderTrace

open Text

/-! ### Numbers in hexadecimal -/

namespace Lexeme

theorem isHex_digitChar : ∀ d < 16, isHex d.digitChar = true ∧ hexValue d.digitChar = d := by
  decide

theorem unicodeDigits?_digit {d : Nat} (hd : d < 16) {value digits : Nat} (hdigits : digits < 6)
    (cs : List Char) : unicodeDigits? value digits (d.digitChar :: cs) =
      unicodeDigits? (value * 16 + d) (digits + 1) cs := by
  obtain ⟨hhex, hvalue⟩ := isHex_digitChar d hd
  rw [unicodeDigits?, if_pos hhex, hvalue, if_neg (by simpa using Nat.ne_of_lt hdigits)]

/-- The digits of a number are read as the number, if they are few enough. -/
theorem unicodeDigits?_toDigits (n : Nat) (hn : (Nat.toDigits 16 n).length ≤ 6) (cs : List Char) :
    unicodeDigits? 0 0 (Nat.toDigits 16 n ++ cs) =
      unicodeDigits? n (Nat.toDigits 16 n).length cs := by
  induction n using Nat.strongRecOn generalizing cs with
  | ind n ih =>
    by_cases hsmall : n < 16
    · rw [Nat.toDigits_of_lt_base hsmall]
      exact (unicodeDigits?_digit hsmall (by decide) cs).trans (by simp)
    · have hlarge : 16 ≤ n := Nat.le_of_not_lt hsmall
      have hdigits := Nat.toDigits_of_base_le (by decide) hlarge
      rw [hdigits, List.length_append, List.length_singleton] at hn
      rw [hdigits, List.append_assoc, ih (n / 16) (by omega) (by omega), List.singleton_append,
        unicodeDigits?_digit (Nat.mod_lt n (by decide)) (by omega), List.length_append,
        List.length_singleton]
      congr 1
      omega

theorem isScalar_toNat (c : Char) : isScalar c.toNat = true := by
  have hvalid : c.toNat < 0xd800 ∨ 0xdfff < c.toNat ∧ c.toNat < 0x110000 := c.valid
  simpa [isScalar] using hvalid

/-- The escape of a character is read as the number of the character. -/
theorem unicodeEscape?_hexDigits (c : Char) (cs : List Char) :
    unicodeEscape? ('\x7b' :: (hexDigits c.toNat).toList ++ '\x7d' :: cs) = some (c.toNat, cs) := by
  have hlength : (Nat.toDigits 16 c.toNat).length ≤ 6 := by
    rw [Nat.length_toDigits_le_iff (by decide) (by decide)]
    have hscalar := isScalar_toNat c
    simp only [isScalar, Bool.or_eq_true, decide_eq_true_eq, Bool.and_eq_true] at hscalar
    omega
  rw [hexDigits, String.toList_ofList, List.cons_append, unicodeEscape?,
    unicodeDigits?_toDigits _ hlength, unicodeDigits?, if_neg (by decide), if_neg (by simp)]
  simp [isScalar_toNat, Nat.length_toDigits_pos]

end Lexeme

namespace Token.StringLiteral

variable {fuel : Nat} {rest : List Char}

/-- A character that may stand for itself does so. -/
theorem unescape_plain {c : Char} (hquote : c ≠ '"') (hreturn : c ≠ '\r') (hslash : c ≠ '\\') :
    unescape (fuel + 1) (c :: rest) = c :: unescape fuel rest := by
  rw [unescape]
  all_goals intros; simp_all

theorem unescape_unicodeEscape (c : Char) :
    unescape (fuel + 1) ((unicodeEscape c).toList ++ rest) = c :: unescape fuel rest := by
  have hlist : (unicodeEscape c).toList ++ rest =
      '\\' :: 'u' :: ('\x7b' :: (hexDigits c.toNat).toList ++ '\x7d' :: rest) := by
    simp [unicodeEscape]
  have hstep : ∀ {cs more : List Char} {n : Nat}, Lexeme.unicodeEscape? cs = some (n, more) →
      unescape (fuel + 1) ('\\' :: 'u' :: cs) = Char.ofNat n :: unescape fuel more := by
    intro cs more n h
    rw [unescape, h]
  rw [hlist, hstep (Lexeme.unicodeEscape?_hexDigits c rest), Char.ofNat_toNat]

/-- A character that is no NUL is read back, whatever follows. -/
theorem unescape_escapeChar {c : Char} (hc : c.toNat ≠ 0) :
    unescape (fuel + 1) ((escapeChar ['"'] c).toList ++ rest) = c :: unescape fuel rest := by
  unfold escapeChar
  split
  · next h => obtain rfl := beq_iff_eq.1 h; rfl
  split
  · next h => obtain rfl := beq_iff_eq.1 h; rfl
  split
  · next h => obtain rfl := beq_iff_eq.1 h; rfl
  split
  · next h => obtain rfl := beq_iff_eq.1 h; rfl
  split
  · next h =>
    obtain rfl : c = '"' := by simpa using h
    rfl
  split
  · next h => exact absurd (beq_iff_eq.1 h) hc
  split
  · exact unescape_unicodeEscape c
  · next _ hreturn _ hslash hquote _ _ =>
    rw [Char.toString_eq_singleton, String.toList_singleton, List.singleton_append]
    exact unescape_plain (by simpa using hquote) (by simpa using hreturn) (by simpa using hslash)

/-- Each character of a text is written so that it is read back in one step, whatever follows. -/
theorem literalChars_cons (c : Char) (cs : List Char) :
    ∃ written, literalChars (c :: cs) = written :: literalChars cs ∧
      ∀ fuel rest, unescape (fuel + 1) (written.toList ++ rest) = c :: unescape fuel rest := by
  by_cases hc : c.toNat = 0
  · obtain rfl : c = '\x00' := by rw [← Char.ofNat_toNat c, hc]
    cases cs with
    | nil => exact ⟨"\\0", rfl, fun _ _ ↦ rfl⟩
    | cons d ds =>
      by_cases hoctal : (decide ('0' ≤ d) && decide (d ≤ '7')) = true
      · exact ⟨"\\x00", by rw [literalChars]; simp [hoctal], fun _ _ ↦ rfl⟩
      · exact ⟨"\\0", by rw [literalChars]; simp [hoctal], fun _ _ ↦ rfl⟩
  · refine ⟨escapeChar ['"'] c, ?_, fun _ _ ↦ unescape_escapeChar hc⟩
    cases cs <;> simp [literalChars, hc]

/-- The characters of a text are read back up to the closing quote. -/
theorem unescape_literalChars (cs : List Char) {fuel : Nat} (hfuel : cs.length < fuel) :
    unescape fuel ((literalChars cs).flatMap String.toList ++ ['"']) = cs := by
  induction cs generalizing fuel with
  | nil =>
    obtain ⟨fuel, rfl⟩ : ∃ n, fuel = n + 1 := ⟨fuel - 1, (Nat.sub_add_cancel hfuel).symm⟩
    rfl
  | cons c cs ih =>
    obtain ⟨fuel, rfl⟩ : ∃ n, fuel = n + 1 := ⟨fuel - 1, by omega⟩
    obtain ⟨written, hwritten, hread⟩ := literalChars_cons c cs
    rw [hwritten, List.flatMap_cons, List.append_assoc, hread, ih (Nat.lt_of_succ_lt_succ hfuel)]

/-- Every character takes one at least. -/
theorem length_le_literalChars (cs : List Char) :
    cs.length ≤ ((literalChars cs).flatMap String.toList).length := by
  induction cs with
  | nil => exact Nat.zero_le _
  | cons c cs ih =>
    obtain ⟨written, hwritten, hread⟩ := literalChars_cons c cs
    have hsome : written.toList ≠ [] := by
      intro hnil
      have hnothing := hread 0 []
      rw [hnil] at hnothing
      cases hnothing
    have hpositive := List.length_pos_iff.2 hsome
    rw [hwritten, List.flatMap_cons, List.length_append, List.length_cons]
    omega

/-- A text that is written as a string literal is what the literal stands for. -/
theorem text?_stringLiteral (s : String) : text? (stringLiteral s) = some s := by
  have hlist : (stringLiteral s).toList =
      '"' :: ((literalChars s.toList).flatMap String.toList ++ ['"']) := by
    simp [stringLiteral, String.toList_join]
  have hfuel : s.toList.length <
      ((literalChars s.toList).flatMap String.toList ++ ['"']).length + 1 := by
    have hlength := length_le_literalChars s.toList
    rw [List.length_append]
    omega
  rw [text?, hlist]
  show some (String.ofList (unescape _ _)) = some s
  rw [unescape_literalChars _ hfuel, String.ofList_toList]

end Token.StringLiteral

end RenderTrace
