/-!
# Blank characters

White space is the 25 code points of the Unicode property together with the four separators
`U+001C` to `U+001F`.  The scanner skips blanks between tokens, numbers are read after all blanks
are dropped, and dates are read from text whose ends are trimmed, so all three share this one set.
The zero-width characters `U+180E`, `U+200B` and `U+FEFF` are not in it.
-/

namespace TableFormula.Text

/-- Whether `n` lies in one of the closed ranges `(first, last)`. -/
def within (ranges : List (Nat × Nat)) (n : Nat) : Bool :=
  ranges.any fun r => r.1 ≤ n && n ≤ r.2

/-- The blank code points, as ascending closed ranges. -/
def blankRanges : List (Nat × Nat) :=
  [(0x0009, 0x000D), (0x001C, 0x0020), (0x0085, 0x0085), (0x00A0, 0x00A0), (0x1680, 0x1680),
   (0x2000, 0x200A), (0x2028, 0x2029), (0x202F, 0x202F), (0x205F, 0x205F), (0x3000, 0x3000)]

/-- Whether a character is white space. -/
def isBlank (c : Char) : Bool :=
  within blankRanges c.toNat

/-- A text without the blanks at its start. -/
def trimStart (cs : List Char) : List Char :=
  cs.dropWhile isBlank

/-- A text without the blanks at its two ends. -/
def trim (cs : List Char) : List Char :=
  (trimStart (trimStart cs).reverse).reverse

theorem isBlank_of_isWhitespace {c : Char} (h : c.isWhitespace = true) : isBlank c = true := by
  simp only [Char.isWhitespace, Bool.or_eq_true, decide_eq_true_eq] at h
  rcases h with ((rfl | rfl) | rfl) | rfl <;> decide

end TableFormula.Text
