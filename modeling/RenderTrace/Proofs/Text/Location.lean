import Mathlib.Data.List.DropRight
import Mathlib.Data.String.Basic
import RenderTrace.Text.Location

/-!
# From places back to bytes

`Location.offset` undoes the counting of lines and columns: for every boundary between characters of
a text it gives the number of bytes before it (`Location.offset_after`). No place leads out of the
text or into a character, and a later place never leads to an earlier byte, so that a span always
stands for a stretch of the text (`Location.offset_turnsBack`).

## One character at a time

A text is counted from its beginning, and turned back from its beginning as well; what a character
in front does to the place behind the others (`columnOf_cons`) is what one step of `bytesBefore`
takes away again.
-/

namespace RenderTrace

namespace Location

open String (utf8Len utf8Len_cons)

/-! ### Counting -/

/-- The number of characters behind the last line feed. -/
def columnOf (cs : List Char) : Nat := (cs.rtakeWhile (· != '\n')).length

/-- The place behind some characters: the line is one more than there are line feeds among them. -/
def after (cs : List Char) : Location := ⟨cs.count '\n' + 1, columnOf cs⟩

theorem columnOf_concat (cs : List Char) (c : Char) :
    columnOf (cs ++ [c]) = if c = '\n' then 0 else columnOf cs + 1 := by
  rw [columnOf, List.rtakeWhile_concat]
  split <;> simp_all [columnOf]

/-- A lexer that walks over characters from the start counts them. -/
theorem advanceAll_start (cs : List Char) : start.advanceAll cs = after cs := by
  induction cs using List.reverseRecOn with
  | nil => rfl
  | append_singleton cs c ih =>
    have hstep : start.advanceAll (cs ++ [c]) = (start.advanceAll cs).advance c :=
      List.foldl_concat ..
    rw [hstep, ih, advance, after, after, columnOf_concat, List.count_append,
      List.count_singleton]
    split <;> simp_all

/-- A character in front is counted if the first line goes on to the end. -/
theorem columnOf_cons (c : Char) (cs : List Char) :
    columnOf (c :: cs) = columnOf cs + if c = '\n' ∨ '\n' ∈ cs then 0 else 1 := by
  induction cs using List.reverseRecOn with
  | nil => simpa [columnOf] using columnOf_concat [] c
  | append_singleton cs d ih =>
    rw [← List.cons_append, columnOf_concat, columnOf_concat, ih]
    by_cases hd : d = '\n'
    · simp [hd]
    · have hmem : '\n' ∈ cs ++ [d] ↔ '\n' ∈ cs := by simp [Ne.symm hd]
      simp only [if_neg hd, hmem, Nat.add_right_comm]

/-! ### Turning back -/

theorem bytesWithin_cons (n : Nat) (c : Char) (cs : List Char) :
    bytesWithin (n + 1) (c :: cs) = c.utf8Size + if c = '\n' then 0 else bytesWithin n cs := by
  by_cases hc : c = '\n'
  · subst hc
    rfl
  · rw [if_neg hc, bytesWithin]
    exact hc

theorem bytesBefore_zero (n : Nat) (cs : List Char) : bytesBefore n 0 cs = bytesWithin n cs := by
  rw [bytesBefore]

theorem bytesBefore_after (before behind : List Char) :
    bytesBefore (columnOf before) (before.count '\n') (before ++ behind) = utf8Len before := by
  induction before with
  | nil => cases behind <;> rfl
  | cons c cs ih =>
    rw [columnOf_cons, List.cons_append, utf8Len_cons, Nat.add_comm (utf8Len cs), ← ih]
    by_cases hc : c = '\n'
    · rw [hc, List.count_cons_self, bytesBefore, if_pos rfl, if_pos (.inl rfl), Nat.add_zero]
    rw [List.count_cons_of_ne hc]
    by_cases hmem : '\n' ∈ cs
    · obtain ⟨n, hn⟩ := Nat.exists_eq_add_of_lt (List.count_pos_iff.2 hmem)
      rw [hn, Nat.zero_add, bytesBefore, if_neg hc, if_pos (.inr hmem), Nat.add_zero]
    · rw [List.count_eq_zero.2 hmem, bytesBefore_zero, bytesBefore_zero, if_neg (by simp_all),
        bytesWithin_cons, if_neg hc]

/-- **Turning back undoes counting.** -/
theorem offset_after (before behind : String) :
    (after before.toList).offset (before ++ behind) = before.utf8ByteSize := by
  have hbytes := bytesBefore_after before.toList behind.toList
  rw [← String.toList_append, ← String.utf8ByteSize_ofList, String.ofList_toList] at hbytes
  exact hbytes

/-! ### Boundaries -/

theorem exists_bytesWithin (n : Nat) (cs : List Char) :
    ∃ before behind, cs = before ++ behind ∧ bytesWithin n cs = utf8Len before := by
  induction cs generalizing n with
  | nil => exact ⟨[], [], rfl, by cases n <;> rfl⟩
  | cons c cs ih =>
    cases n with
    | zero => exact ⟨[], c :: cs, rfl, rfl⟩
    | succ n =>
      by_cases hc : c = '\n'
      · exact ⟨[c], cs, rfl, by simp [bytesWithin_cons, hc]⟩
      · obtain ⟨before, behind, hcs, hbytes⟩ := ih n
        refine ⟨c :: before, behind, congrArg _ hcs, ?_⟩
        rw [bytesWithin_cons, if_neg hc, hbytes, utf8Len_cons, Nat.add_comm]

theorem exists_bytesBefore (n k : Nat) (cs : List Char) :
    ∃ before behind, cs = before ++ behind ∧ bytesBefore n k cs = utf8Len before := by
  induction cs generalizing k with
  | nil =>
    cases k with
    | zero => exact exists_bytesWithin n []
    | succ k => exact ⟨[], [], rfl, rfl⟩
  | cons c cs ih =>
    cases k with
    | zero => exact exists_bytesWithin n (c :: cs)
    | succ k =>
      obtain ⟨before, behind, hcs, hbytes⟩ := ih (if c = '\n' then k else k + 1)
      refine ⟨c :: before, behind, congrArg _ hcs, ?_⟩
      rw [bytesBefore, utf8Len_cons, Nat.add_comm, ← hbytes]
      split <;> rfl

/-- A place leads to a boundary between characters. -/
theorem exists_offset (text : String) (l : Location) :
    ∃ before behind, text.toList = before ++ behind ∧ l.offset text = utf8Len before := by
  unfold offset
  split
  · exact ⟨[], text.toList, rfl, rfl⟩
  · exact exists_bytesBefore l.column _ text.toList

theorem offset_valid (text : String) (l : Location) :
    (⟨l.offset text⟩ : String.Pos.Raw).IsValid text := by
  obtain ⟨before, behind, htext, hoffset⟩ := exists_offset text l
  rw [String.Pos.Raw.isValid_iff_exists_append]
  refine ⟨.ofList before, .ofList behind, ?_, ?_⟩
  · rw [← String.ofList_append, ← htext, String.ofList_toList]
  · rw [String.rawEndPos_ofList, hoffset]

/-! ### Order -/

theorem bytesWithin_mono {n m : Nat} (h : n ≤ m) (cs : List Char) :
    bytesWithin n cs ≤ bytesWithin m cs := by
  induction cs generalizing n m with
  | nil => cases n <;> exact Nat.zero_le _
  | cons c cs ih =>
    cases n with
    | zero => exact Nat.zero_le _
    | succ n =>
      obtain ⟨m, rfl⟩ := Nat.exists_eq_add_of_le' (Nat.le_trans (Nat.le_add_left 1 n) h)
      have hle := ih (Nat.le_of_succ_le_succ h)
      rw [bytesWithin_cons, bytesWithin_cons]
      split <;> omega

/-- A line ends before the next one begins. -/
theorem bytesWithin_le_bytesBefore (n m k : Nat) (cs : List Char) :
    bytesWithin n cs ≤ bytesBefore m (k + 1) cs := by
  induction cs generalizing n with
  | nil => cases n <;> exact Nat.le_refl _
  | cons c cs ih =>
    cases n with
    | zero => exact Nat.zero_le _
    | succ n =>
      have hle := ih n
      rw [bytesWithin_cons, bytesBefore]
      split <;> omega

theorem bytesBefore_mono {n m k j : Nat} (h : k < j ∨ k = j ∧ n ≤ m) (cs : List Char) :
    bytesBefore n k cs ≤ bytesBefore m j cs := by
  induction cs generalizing k j with
  | nil =>
    cases k with
    | zero => cases n <;> exact Nat.zero_le _
    | succ k => exact Nat.zero_le _
  | cons c cs ih =>
    cases k with
    | zero =>
      rw [bytesBefore_zero]
      cases j with
      | zero => exact bytesBefore_zero m _ ▸ bytesWithin_mono (by omega) _
      | succ j => exact bytesWithin_le_bytesBefore n m j _
    | succ k =>
      obtain ⟨j, rfl⟩ := Nat.exists_eq_add_of_le' (by omega : 1 ≤ j)
      have hnext := ih (k := k) (j := j) (by omega)
      have hsame := ih (k := k + 1) (j := j + 1) (by omega)
      rw [bytesBefore, bytesBefore]
      split <;> omega

theorem le_iff {l l' : Location} :
    l.le l' = true ↔ l.line < l'.line ∨ l.line = l'.line ∧ l.column ≤ l'.column := by
  simp [le]

theorem le_refl (l : Location) : l.le l = true := by simp [le]

theorem le_trans {a b c : Location} (hab : a.le b = true) (hbc : b.le c = true) :
    a.le c = true := by
  rw [le_iff] at *
  omega

theorem le_of_advance {at_ l : Location} {c : Char} (h : ((at_.advance c).le l) = true) :
    at_.le l = true ∧ at_ ≠ l := by
  unfold advance at h
  split at h <;> simp [le] at h ⊢ <;> refine ⟨by omega, ?_⟩ <;> rintro rfl <;> omega

/-- Counting on goes forward. -/
theorem le_of_advanceAll {cs : List Char} {at_ l : Location}
    (h : ((at_.advanceAll cs).le l) = true) : at_.le l = true ∧ (cs ≠ [] → at_ ≠ l) := by
  induction cs generalizing at_ with
  | nil => exact ⟨h, fun hno ↦ absurd rfl hno⟩
  | cons c cs ih => exact ⟨(le_of_advance (ih h).1).1, fun _ ↦ (le_of_advance (ih h).1).2⟩

theorem offset_mono (text : String) {l l' : Location} (h : l.le l' = true) :
    l.offset text ≤ l'.offset text := by
  rw [le_iff] at h
  rcases l with ⟨_ | k, n⟩
  · exact Nat.zero_le _
  · rcases l' with ⟨_ | j, m⟩
    · simp at h
    · exact bytesBefore_mono (by simpa using h) _

end Location

/-! ### Stretches -/

open Location

/-- A span stands for a stretch of a text, of no length if it ends before it begins. -/
theorem Span.exists_stretch (text : String) (s : Span) :
    ∃ before inside behind : String, text = before ++ inside ++ behind ∧
      s.bytes text = (before.utf8ByteSize, inside.utf8ByteSize) := by
  obtain ⟨before, behind, htext, hstart⟩ := exists_offset text s.start
  obtain ⟨before', behind', htext', hstop⟩ := exists_offset text s.stop
  have hof {cs : List Char} (h : text.toList = cs) : text = .ofList cs := by
    rw [← h, String.ofList_toList]
  rcases List.append_eq_append_iff.1 (htext.symm.trans htext') with
    ⟨inside, hbefore, -⟩ | ⟨inside, hbefore, -⟩
  · refine ⟨.ofList before, .ofList inside, .ofList behind', ?_, ?_⟩
    · rw [← String.ofList_append, ← String.ofList_append, ← hbefore]
      exact hof htext'
    · rw [bytes, hstart, hstop, hbefore, String.utf8Len_append, Nat.add_sub_cancel_left,
        String.utf8ByteSize_ofList, String.utf8ByteSize_ofList]
  · refine ⟨.ofList before, "", .ofList behind, ?_, ?_⟩
    · rw [String.append_empty, ← String.ofList_append]
      exact hof htext
    · rw [bytes, hstart, hstop, hbefore, String.utf8Len_append, String.utf8ByteSize_ofList,
        String.utf8Len_append, Nat.sub_eq_zero_of_le (Nat.le_add_right _ _)]
      rfl

/-! ### The main statement -/

namespace Location

/-- What turning back promises for a text. -/
structure TurnsBack (text : String) : Prop where
  /-- From the line and the column of a boundary it comes back to the boundary. -/
  offset_eq (p : text.Pos) {before behind : String} (h : p.Splits before behind) :
    (after before.toList).offset text = p.offset.byteIdx
  /-- Any line and column lead to a boundary. -/
  valid (l : Location) : (⟨l.offset text⟩ : String.Pos.Raw).IsValid text
  /-- They do not lead out of the text. -/
  le_size (l : Location) : l.offset text ≤ text.utf8ByteSize
  /-- A later place does not lead to an earlier byte. -/
  mono {l l' : Location} (h : l.line < l'.line ∨ l.line = l'.line ∧ l.column ≤ l'.column) :
    l.offset text ≤ l'.offset text
  /-- The bytes of a span are a stretch of the text. -/
  stretch (s : Span) : ∃ before inside behind : String, text = before ++ inside ++ behind ∧
    s.bytes text = (before.utf8ByteSize, inside.utf8ByteSize)

/-- **Places are turned back into bytes.** For every text, the line and the column of a boundary
between characters lead back to that boundary, every line and column lead to some boundary in the
text, in the order of lines and then columns, and so the bytes of a span lie inside the text. -/
theorem offset_turnsBack (text : String) : TurnsBack text where
  offset_eq p before behind h := by
    rw [h.offset_eq_rawEndPos]
    exact h.eq_append ▸ offset_after before behind
  valid := offset_valid text
  le_size l := (offset_valid text l).le_utf8ByteSize
  mono h := offset_mono text (le_iff.2 h)
  stretch := Span.exists_stretch text

/-- Lines are told by line feeds alone, and columns count characters, however many bytes they
take. -/
example :
    let text := "é\r\nß½"
    (after "é\r\nß".toList, (⟨2, 1⟩ : Location).offset text, (⟨2, 9⟩ : Location).offset text,
      (⟨7, 0⟩ : Location).offset text) = (⟨2, 1⟩, 6, 8, 8) := by
  decide

end Location

end RenderTrace
