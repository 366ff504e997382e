/-!
# Text/Blank — white space and its removal at both ends

`isBlank` holds of the twenty-five characters with the Unicode property `White_Space`: the five
controls from tab to carriage return, next line, and the spaces and separators.  Zero-width marks
such as U+200B and U+FEFF do not have the property.  `trim` drops blanks from both ends of a text
and keeps those inside; a text that neither starts nor ends with a blank is left alone
(`trim_eq_self`).
-/

namespace ProofOfWork

/-- The characters with the Unicode property `White_Space`. -/
def isBlank (c : Char) : Bool :=
  let n := c.toNat
  (0x09 ≤ n && n ≤ 0x0d) || n == 0x20 || n == 0x85 || n == 0xa0 || n == 0x1680 ||
    (0x2000 ≤ n && n ≤ 0x200a) || n == 0x2028 || n == 0x2029 || n == 0x202f || n == 0x205f ||
    n == 0x3000

/-- The text without the blanks at its end. -/
def dropTrailingBlanks (text : List Char) : List Char :=
  (text.reverse.dropWhile isBlank).reverse

/-- **The text without the blanks at either end.** -/
def trim (text : List Char) : List Char :=
  dropTrailingBlanks (text.dropWhile isBlank)

@[simp] theorem trim_nil : trim [] = [] := rfl

/-- Only blanks count as blank at the front. -/
theorem dropWhile_isBlank_cons {c : Char} {text : List Char} (solid : isBlank c = false) :
    (c :: text).dropWhile isBlank = c :: text := by
  simp [solid]

/-- **A text with solid ends is its own trimmed form.** -/
theorem trim_eq_self {text : List Char} (first : ∀ c ∈ text.head?, isBlank c = false)
    (last : ∀ c ∈ text.getLast?, isBlank c = false) : trim text = text := by
  have front : text.dropWhile isBlank = text := by
    cases text with
    | nil => rfl
    | cons c rest => exact dropWhile_isBlank_cons (first c rfl)
  have back : text.reverse.dropWhile isBlank = text.reverse := by
    cases shape : text.reverse with
    | nil => rfl
    | cons c rest =>
      refine dropWhile_isBlank_cons (last c ?_)
      rw [← List.head?_reverse, shape]
      rfl
  rw [trim, front, dropTrailingBlanks, back, List.reverse_reverse]

end ProofOfWork
