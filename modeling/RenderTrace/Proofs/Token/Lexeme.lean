import Mathlib.Data.List.Basic
import RenderTrace.Token.Lexeme

/-!
# Lexemes are beginnings

Whatever a recogniser leaves is an end of what it was given, so that a lexeme is a beginning: the
characters that it takes and those that it leaves make up the text. This is what lets a lexer tell
by lengths alone which characters a lexeme takes (`Lexeme.taken_append`).
-/

namespace RenderTrace.Lexeme

variable {cs rest : List Char}

/-! ### Taking and leaving -/

theorem suffix_cons (c : Char) (h : rest <:+ cs) : rest <:+ c :: cs :=
  h.trans (List.suffix_cons c cs)

/-- The characters of a lexeme and those that are left make up the text. -/
theorem taken_append (h : rest <:+ cs) : cs.take (cs.length - rest.length) ++ rest = cs := by
  obtain ⟨taken, rfl⟩ := h
  rw [List.length_append, Nat.add_sub_cancel, List.take_left]

/-! ### Names -/

theorem suffix_of_plainName? (h : plainName? cs = some rest) : rest <:+ cs := by
  unfold plainName? at h
  split at h
  · cases h
  · obtain ⟨-, heq⟩ := Option.ite_none_right_eq_some.1 h
    exact Option.some.inj heq ▸ suffix_cons _ (List.dropWhile_suffix _)

theorem suffix_of_anyName? (h : anyName? cs = some rest) : rest <:+ cs := by
  unfold anyName? at h
  split at h
  · obtain ⟨after, hplain, hrest⟩ := Option.bind_eq_some_iff.1 h
    obtain ⟨-, heq⟩ := Option.ite_none_left_eq_some.1 hrest
    exact Option.some.inj heq ▸ suffix_cons _ (suffix_cons _ (suffix_of_plainName? hplain))
  · exact suffix_of_plainName? h

theorem suffix_of_name? (h : name? cs = some rest) : rest <:+ cs :=
  suffix_of_anyName? (Option.ite_none_left_eq_some.1 h).2

theorem afterSuffix_suffix (cs : List Char) : afterSuffix cs <:+ cs := by
  unfold afterSuffix
  cases h : plainName? cs with
  | none => exact List.suffix_rfl
  | some rest => exact suffix_of_plainName? h

/-! ### Escapes and quoted literals -/

theorem suffix_of_unicodeDigits? {value digits n : Nat}
    (h : unicodeDigits? value digits cs = some (n, rest)) : rest <:+ cs := by
  fun_induction unicodeDigits? value digits cs <;> simp_all [List.suffix_cons_iff]

theorem suffix_of_unicodeEscape? {n : Nat} (h : unicodeEscape? cs = some (n, rest)) :
    rest <:+ cs := by
  unfold unicodeEscape? at h
  split at h
  · exact suffix_cons _ (suffix_of_unicodeDigits? h)
  · cases h

theorem suffix_of_afterContinuation? (h : afterContinuation? cs = some rest) : rest <:+ cs := by
  fun_induction afterContinuation? cs <;> simp_all [List.suffix_cons_iff]

theorem suffix_of_element {q : Quoting}
    (h : element q cs = .close rest ∨ element q cs = .more rest) : rest <:+ cs := by
  revert h
  unfold element
  split
  case h_5 after =>
    split
    · next hescape =>
      split
      · rintro (h | h) <;> cases h
        exact suffix_cons _ (suffix_cons _ (suffix_of_unicodeEscape? hescape))
      · rintro (h | h) <;> cases h
    · rintro (h | h) <;> cases h
  case h_6 after | h_7 after =>
    cases hline : afterContinuation? _ with
    | none => rintro (h | h) <;> cases h
    | some after =>
      rintro (h | h) <;> cases h
      exact suffix_cons _ (suffix_of_afterContinuation? hline)
  all_goals
    try split
    all_goals rintro (h | h) <;> cases h <;> simp [List.suffix_cons_iff]

theorem suffix_of_cooked? {q : Quoting} {fuel : Nat} (h : cooked? q fuel cs = some rest) :
    rest <:+ cs := by
  induction fuel generalizing cs with
  | zero => cases h
  | succ fuel ih =>
    rw [cooked?] at h
    split at h
    · next after hclose =>
      exact Option.some.inj h ▸ (afterSuffix_suffix after).trans (suffix_of_element (.inl hclose))
    · next after hmore => exact (ih h).trans (suffix_of_element (.inr hmore))
    · cases h

theorem suffix_of_rawBody? {plain : Char → Bool} {hashes : Nat}
    (h : rawBody? plain hashes cs = some rest) : rest <:+ cs := by
  fun_induction rawBody? plain hashes cs with
  | case2 cs hclose =>
    rw [← Option.some.inj h]
    exact suffix_cons _ ((afterSuffix_suffix _).trans (List.drop_suffix _ _))
  | _ => simp_all [List.suffix_cons_iff]

theorem suffix_of_raw? {plain : Char → Bool} (h : raw? plain cs = some rest) : rest <:+ cs := by
  unfold raw? at h
  dsimp only at h
  split at h
  · next body hbody =>
    obtain ⟨-, hraw⟩ := Option.ite_none_left_eq_some.1 h
    have hdrop := List.drop_suffix (cs.takeWhile (· == '#')).length cs
    rw [hbody] at hdrop
    exact (suffix_cons _ (suffix_of_rawBody? hraw)).trans hdrop
  · cases h

theorem suffix_of_quotedLiteral? (h : quotedLiteral? cs = some rest) : rest <:+ cs := by
  unfold quotedLiteral? at h
  split at h
  case h_1 | h_3 | h_5 => simp [List.suffix_cons_iff, suffix_of_cooked? h]
  case h_2 | h_4 | h_6 => simp [List.suffix_cons_iff, suffix_of_raw? h]
  case h_7 => cases h

theorem suffix_of_closeChar? (h : closeChar? cs = some rest) : rest <:+ cs := by
  unfold closeChar? at h
  split at h
  · exact Option.some.inj h ▸ suffix_cons _ (afterSuffix_suffix _)
  · cases h

theorem suffix_of_charLiteral? (h : charLiteral? cs = some rest) : rest <:+ cs := by
  unfold charLiteral? at h
  split at h
  case h_2 =>
    obtain ⟨⟨n, after⟩, hescape, hclose⟩ := Option.bind_eq_some_iff.1 h
    exact suffix_cons _ (suffix_cons _ (suffix_cons _
      ((suffix_of_closeChar? hclose).trans (suffix_of_unicodeEscape? hescape))))
  case h_1 | h_3 =>
    obtain ⟨-, hclose⟩ := Option.ite_none_right_eq_some.1 h
    simp [List.suffix_cons_iff, suffix_of_closeChar? hclose]
  case h_4 =>
    obtain ⟨-, hclose⟩ := Option.ite_none_left_eq_some.1 h
    simp [List.suffix_cons_iff, suffix_of_closeChar? hclose]
  case h_5 => cases h

theorem suffix_of_byteLiteral? (h : byteLiteral? cs = some rest) : rest <:+ cs := by
  unfold byteLiteral? at h
  split at h
  case h_1 | h_2 =>
    obtain ⟨-, hclose⟩ := Option.ite_none_right_eq_some.1 h
    simp [List.suffix_cons_iff, suffix_of_closeChar? hclose]
  case h_3 =>
    obtain ⟨-, hclose⟩ := Option.ite_none_left_eq_some.1 h
    simp [List.suffix_cons_iff, suffix_of_closeChar? hclose]
  case h_4 => cases h

/-! ### Numbers -/

theorem suffix_of_numberEnd? (h : numberEnd? cs = some rest) : rest <:+ cs := by
  have hbreak : rest = afterSuffix cs := by
    unfold numberEnd? wordBreak? at h
    split at h
    · simp_all
    · obtain ⟨-, heq⟩ := Option.ite_none_left_eq_some.1 h
      simp_all
  exact hbreak ▸ afterSuffix_suffix cs

/-- Where there is no exponent, a number ends at an end of the text that it is told. -/
theorem suffix_of_exponent? {back : Option (List Char)} {signed valued : Bool} {whole : List Char}
    (hcs : cs <:+ whole) (hback : ∀ after, back = some after → after <:+ whole)
    (h : exponent? back signed valued cs = some rest) : rest <:+ whole := by
  fun_induction exponent? back signed valued cs with
  | case1 | case3 | case8 => exact Option.some.inj h ▸ hcs
  | case2 | case4 | case9 => exact hback rest h
  | case5 signed valued c cs _ _ _ ih | case6 signed valued c cs _ _ ih
  | case7 signed valued c cs _ _ _ ih => exact ih ((List.suffix_cons c cs).trans hcs) h

theorem suffix_of_mantissa? {dotted : Bool} (h : mantissa? dotted cs = some rest) :
    rest <:+ cs := by
  fun_induction mantissa? dotted cs with
  | case8 dotted c cs =>
    refine suffix_of_exponent? (List.suffix_cons c cs) (fun after hback ↦ ?_) h
    obtain ⟨-, heq⟩ := Option.ite_none_right_eq_some.1 hback
    exact Option.some.inj heq ▸ List.suffix_rfl
  | _ => simp_all [List.suffix_cons_iff]

theorem suffix_of_digits? {base : Nat} {empty : Bool} (h : digits? base empty cs = some rest) :
    rest <:+ cs := by
  fun_induction digits? base empty cs <;> simp_all [List.suffix_cons_iff]

theorem suffix_of_fractional? (h : fractional? cs = some rest) : rest <:+ cs := by
  unfold fractional? at h
  split at h
  · cases h
  · obtain ⟨-, hbind⟩ := Option.ite_none_right_eq_some.1 h
    obtain ⟨after, hmantissa, hend⟩ := Option.bind_eq_some_iff.1 hbind
    exact suffix_cons _ ((suffix_of_numberEnd? hend).trans (suffix_of_mantissa? hmantissa))

theorem suffix_of_whole? (h : whole? cs = some rest) : rest <:+ cs := by
  obtain ⟨after, hdigits, hend⟩ := Option.bind_eq_some_iff.1 h
  refine (suffix_of_numberEnd? hend).trans ?_
  split at hdigits <;> simp [List.suffix_cons_iff, suffix_of_digits? hdigits]

theorem suffix_of_literal? (h : literal? cs = some rest) : rest <:+ cs := by
  simp only [literal?, Option.orElse_eq_orElse, Option.orElse_eq_or, Option.or_eq_some_iff] at h
  rcases h with h | ⟨-, h | ⟨-, h | ⟨-, h | ⟨-, h⟩⟩⟩⟩
  · exact suffix_of_quotedLiteral? h
  · exact suffix_of_byteLiteral? h
  · exact suffix_of_charLiteral? h
  · exact suffix_of_fractional? h
  · exact suffix_of_whole? h

/-! ### Punctuation -/

theorem cons_of_punctChar? {c : Char} (h : punctChar? cs = some (c, rest)) : cs = c :: rest := by
  unfold punctChar? at h
  split at h
  case h_3 =>
    obtain ⟨-, heq⟩ := Option.ite_none_right_eq_some.1 h
    obtain ⟨rfl, rfl⟩ := Prod.mk.inj (Option.some.inj heq)
    rfl
  all_goals cases h

theorem cons_of_punct? {c : Char} {joint : Bool} (h : punct? cs = some (c, joint, rest)) :
    cs = c :: rest := by
  obtain ⟨⟨d, after⟩, hchar, hrest⟩ := Option.bind_eq_some_iff.1 h
  have hcs := cons_of_punctChar? hchar
  dsimp only at hrest
  split at hrest
  · obtain ⟨behind, -, hrest⟩ := Option.bind_eq_some_iff.1 hrest
    split at hrest
    · cases hrest
    · cases (Option.ite_none_right_eq_some.1 hrest).2
      exact hcs
    · cases hrest
      exact hcs
  · cases hrest
    exact hcs

/-! ### Blanks and comments -/

/-- A line is taken up to its line feed. -/
theorem exists_of_line (cs : List Char) : ∃ front, cs = front ++ (line cs).2 ∧ '\n' ∉ front := by
  fun_induction line cs with
  | case1 | case2 => exact ⟨[], rfl, List.not_mem_nil⟩
  | case3 cs => exact ⟨['\r'], rfl, by decide⟩
  | case4 c cs hc _ l rest heq ih =>
    obtain ⟨front, hcs, hfront⟩ := ih
    refine ⟨c :: front, ?_, List.not_mem_cons_of_ne_of_not_mem (Ne.symm hc) hfront⟩
    rw [List.cons_append, hcs, heq]

theorem line_suffix (cs : List Char) : (line cs).2 <:+ cs := by
  obtain ⟨front, hcs, -⟩ := exists_of_line cs
  exact ⟨front, hcs.symm⟩

theorem exists_of_blockEnd? {depth : Nat} (h : blockEnd? depth cs = some rest) :
    ∃ front, cs = front ++ '*' :: '/' :: rest := by
  fun_induction blockEnd? depth cs with
  | case1 depth cs ih =>
    obtain ⟨front, hcs⟩ := ih h
    exact ⟨'/' :: '*' :: front, congrArg ('/' :: '*' :: ·) hcs⟩
  | case3 cs => exact ⟨[], congrArg ('*' :: '/' :: ·) (Option.some.inj h)⟩
  | case4 depth cs ih =>
    obtain ⟨front, hcs⟩ := ih h
    exact ⟨'*' :: '/' :: front, congrArg ('*' :: '/' :: ·) hcs⟩
  | case5 depth c cs _ _ _ _ ih =>
    obtain ⟨front, hcs⟩ := ih h
    exact ⟨c :: front, congrArg (c :: ·) hcs⟩
  | _ => cases h

/-- A block comment ends with its mark. -/
theorem exists_of_blockComment? (h : blockComment? cs = some rest) :
    ∃ front, cs = '/' :: '*' :: front ++ '*' :: '/' :: rest := by
  unfold blockComment? at h
  split at h
  · obtain ⟨front, hcs⟩ := exists_of_blockEnd? h
    exact ⟨front, by rw [hcs]; rfl⟩
  · cases h

theorem suffix_of_comment? (h : comment? cs = some rest) : rest <:+ cs := by
  have hblock (h : blockComment? cs = some rest) : rest <:+ cs := by
    obtain ⟨front, hcs⟩ := exists_of_blockComment? h
    exact ⟨'/' :: '*' :: front ++ ['*', '/'], by simp [hcs]⟩
  unfold comment? at h
  split at h
  case h_1 | h_4 => exact Option.some.inj h ▸ line_suffix _
  case h_5 => simp_all [List.suffix_cons_iff]
  case h_6 | h_9 => exact hblock h
  all_goals cases h

theorem skipBlanks_suffix (fuel : Nat) (cs : List Char) : skipBlanks fuel cs <:+ cs := by
  fun_induction skipBlanks fuel cs with
  | case2 fuel cs rest hcomment ih => exact ih.trans (suffix_of_comment? hcomment)
  | case3 fuel c rest _ _ ih => exact suffix_cons c ih
  | _ => exact List.suffix_rfl

/-- A documenting comment takes two characters at least, and begins and ends inside of lines. -/
theorem exists_of_docComment? {text : List Char} {inner : Bool}
    (h : docComment? cs = some (text, inner, rest)) :
    ∃ c front d, cs = c :: front ++ d :: rest ∧ c ≠ '\n' ∧ d ≠ '\n' := by
  unfold docComment? at h
  extract_lets jp at h
  have hjp {found} (hfound : jp found = some (text, inner, rest)) : found.2.2 = rest := by
    obtain ⟨-, heq⟩ := Option.ite_none_right_eq_some.1 hfound
    rw [Option.some.inj heq]
  have hblock {side : Bool} (hfound : (((blockComment? cs).map fun after ↦
      (blockText cs after, side, after)) >>= jp) = some (text, inner, rest)) :
      ∃ c front d, cs = c :: front ++ d :: rest ∧ c ≠ '\n' ∧ d ≠ '\n' := by
    obtain ⟨found, hcomment, hrest⟩ := Option.bind_eq_some_iff.1 hfound
    obtain ⟨after, hafter, rfl⟩ := Option.map_eq_some_iff.1 hcomment
    obtain ⟨front, hcs⟩ := exists_of_blockComment? hafter
    refine ⟨'/', '*' :: front ++ ['*'], '/', ?_, by decide, by decide⟩
    rw [hcs, ← hjp hrest]
    simp
  have hline {c : Char} {body : List Char} (hc : c ≠ '\n') (hrest : (line body).2 = rest) :
      ∃ a front d, '/' :: '/' :: c :: body = a :: front ++ d :: rest ∧ a ≠ '\n' ∧ d ≠ '\n' := by
    obtain ⟨front, hbody, hfront⟩ := exists_of_line body
    rw [hrest] at hbody
    rcases List.eq_nil_or_concat front with rfl | ⟨front, d, rfl⟩
    · -- the line is empty behind its three characters
      exact ⟨'/', ['/'], c, by rw [hbody]; rfl, by decide, hc⟩
    · refine ⟨'/', '/' :: c :: front, d, by rw [hbody]; simp, by decide, ?_⟩
      rintro rfl
      simp at hfront
  split at h
  case h_1 body | h_4 body _ => exact hline (by decide) (hjp h)
  case h_2 | h_6 => exact hblock h
  all_goals cases h

end RenderTrace.Lexeme
