import Mathlib.Data.List.Basic
import Mathlib.Data.List.TakeWhile
import Mathlib.Data.Nat.Notation
import ProofOfWork.Target.Hex

/-!
# Proofs/Text/Frame — what stands around a numeral

    blanks ++ mark ++ numeral ++ blanks ──▸ numeral

A numeral may have blanks at both ends of its text and one mark in front, `0x` or `0X`.  Whatever a
text is, it is its bare part in such a frame (`framed_bareText`), and a numeral in a frame is the
bare part of the whole (`Framed.bareText_eq`), as long as nothing in it could be taken for a part of
the frame.
-/

namespace ProofOfWork

/-- **What is left of a text** without the blanks at its ends and one mark. -/
def bareText (text : String) : List Char := dropHexMark (trim text.toList)

/-- What may stand in front of digits. -/
def hexMarks : List (List Char) := [[], ['0', 'x'], ['0', 'X']]

/-- **A numeral in its frame.** -/
def Framed (text : String) (numeral : List Char) : Prop :=
  ∃ front mark back, (∀ c ∈ front, isBlank c = true) ∧ (∀ c ∈ back, isBlank c = true) ∧
    mark ∈ hexMarks ∧ text.toList = front ++ (mark ++ numeral) ++ back

/-! ## Blanks -/

section Blanks

variable {front solid back : List Char}

theorem dropTrailingBlanks_append (blank : ∀ c ∈ back, isBlank c = true) :
    dropTrailingBlanks (solid ++ back) = dropTrailingBlanks solid := by
  have backwards : ∀ c ∈ back.reverse, isBlank c = true :=
    fun c member => blank c (List.mem_reverse.1 member)
  rw [dropTrailingBlanks, List.reverse_append, List.dropWhile_append_of_pos backwards,
    dropTrailingBlanks]

/-- The last character that is left is no blank. -/
theorem getLast?_dropTrailingBlanks (text : List Char) :
    ∀ c ∈ (dropTrailingBlanks text).getLast?, isBlank c = false := by
  intro c last
  rw [dropTrailingBlanks, List.getLast?_reverse] at last
  have := List.head?_dropWhile_not isBlank text.reverse
  rw [last] at this
  simpa using this

/-- A trailing part is cut off, and nothing else. -/
theorem exists_dropTrailingBlanks_append (text : List Char) :
    ∃ back, (∀ c ∈ back, isBlank c = true) ∧ text = dropTrailingBlanks text ++ back := by
  refine ⟨(text.reverse.takeWhile isBlank).reverse, fun c member => ?_, ?_⟩
  · exact List.mem_takeWhile_imp (List.mem_reverse.1 member)
  · rw [dropTrailingBlanks, ← List.reverse_append, List.takeWhile_append_dropWhile,
      List.reverse_reverse]

/-- **Blanks around a solid text are trimmed off it.** -/
theorem trim_append (blankFront : ∀ c ∈ front, isBlank c = true)
    (blankBack : ∀ c ∈ back, isBlank c = true) (first : ∀ c ∈ solid.head?, isBlank c = false)
    (last : ∀ c ∈ solid.getLast?, isBlank c = false) : trim (front ++ solid ++ back) = solid := by
  cases solid with
  | nil =>
    have all : ∀ c ∈ front ++ [] ++ back, isBlank c = true := by
      intro c member
      rw [List.append_nil] at member
      exact (List.mem_append.1 member).elim (blankFront c) (blankBack c)
    rw [trim, List.dropWhile_eq_nil_iff.2 all]
    rfl
  | cons c rest =>
    have own : trim (c :: rest) = c :: rest := trim_eq_self first last
    rw [trim, dropWhile_isBlank_cons (first c rfl)] at own
    rw [trim, List.append_assoc, List.dropWhile_append_of_pos blankFront, List.cons_append,
      dropWhile_isBlank_cons (first c rfl), ← List.cons_append,
      dropTrailingBlanks_append blankBack, own]

/-- **A text is its trimmed form between blanks.** -/
theorem exists_append_trim (text : List Char) :
    ∃ front back, (∀ c ∈ front, isBlank c = true) ∧ (∀ c ∈ back, isBlank c = true) ∧
      text = front ++ trim text ++ back := by
  obtain ⟨back, blankBack, shape⟩ := exists_dropTrailingBlanks_append (text.dropWhile isBlank)
  refine ⟨text.takeWhile isBlank, back, fun c member => List.mem_takeWhile_imp member, blankBack, ?_⟩
  rw [List.append_assoc, trim, ← shape, List.takeWhile_append_dropWhile]

/-- **A trimmed text starts and ends solid**, so it is trimmed once and for all. -/
theorem trim_trim (text : List Char) : trim (trim text) = trim text := by
  refine trim_eq_self (fun c first => ?_) (getLast?_dropTrailingBlanks _)
  obtain ⟨back, -, shape⟩ := exists_dropTrailingBlanks_append (text.dropWhile isBlank)
  have front := List.head?_dropWhile_not isBlank text
  rw [shape, List.head?_append, ← trim, first] at front
  simpa using front

end Blanks

/-! ## Marks -/

/-- A text is one of the marks and what is left without it. -/
theorem exists_mark_append (text : List Char) :
    ∃ mark ∈ hexMarks, text = mark ++ dropHexMark text := by
  unfold dropHexMark
  split
  · exact ⟨['0', 'x'], by decide, rfl⟩
  · exact ⟨['0', 'X'], by decide, rfl⟩
  · exact ⟨[], by decide, rfl⟩

/-- A mark comes off in front of a text that has no letter of a mark in it. -/
theorem dropHexMark_append {mark numeral : List Char} (marked : mark ∈ hexMarks)
    (plain : ∀ c ∈ numeral, c ≠ 'x' ∧ c ≠ 'X') : dropHexMark (mark ++ numeral) = numeral := by
  obtain rfl | rfl | rfl : mark = [] ∨ mark = ['0', 'x'] ∨ mark = ['0', 'X'] := by
    simpa [hexMarks] using marked
  · rw [List.nil_append]
    unfold dropHexMark
    split
    · exact absurd rfl (plain 'x' (by simp)).1
    · exact absurd rfl (plain 'X' (by simp)).2
    · rfl
  · rfl
  · rfl

/-! ## The whole frame -/

/-- **Every text is its bare part in a frame.** -/
theorem framed_bareText (text : String) : Framed text (bareText text) := by
  obtain ⟨front, back, blankFront, blankBack, shape⟩ := exists_append_trim text.toList
  obtain ⟨mark, marked, rest⟩ := exists_mark_append (trim text.toList)
  exact ⟨front, mark, back, blankFront, blankBack, marked, by rw [bareText, ← rest]; exact shape⟩

/-- **The frame of a numeral comes off**, if no blank and no letter of a mark is in the numeral. -/
theorem Framed.bareText_eq {text : String} {numeral : List Char} (framed : Framed text numeral)
    (solid : ∀ c ∈ numeral, isBlank c = false)
    (plain : ∀ c ∈ numeral, c ≠ 'x' ∧ c ≠ 'X') : bareText text = numeral := by
  obtain ⟨front, mark, back, blankFront, blankBack, marked, shape⟩ := framed
  have inside : ∀ c ∈ mark ++ numeral, isBlank c = false := by
    have marks : ∀ c ∈ hexMarks.flatten, isBlank c = false :=
      List.forall_iff_forall_mem.1 (by decide)
    intro c member
    rcases List.mem_append.1 member with ofMark | ofNumeral
    · exact marks c (List.mem_flatten.2 ⟨mark, marked, ofMark⟩)
    · exact solid c ofNumeral
  rw [bareText, shape, trim_append blankFront blankBack
      (fun c first => inside c (List.mem_of_head? first))
      (fun c last => inside c (List.mem_of_getLast? last)),
    dropHexMark_append marked plain]

end ProofOfWork
