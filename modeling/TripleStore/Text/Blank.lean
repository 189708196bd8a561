import TripleStore.Text.Range

/-!
Contract: blank characters, as Unicode's White_Space property lists them.

Owns: the table, and cutting blanks off the two ends of a text.

Does not own: the blanks of a file format, which are fewer.
-/

namespace TripleStore.Text

/-- The ranges of the White_Space property, 25 characters in all. -/
def blankRanges : List (Nat × Nat) :=
  [(0x09, 0x0D), (0x20, 0x20), (0x85, 0x85), (0xA0, 0xA0), (0x1680, 0x1680),
    (0x2000, 0x200A), (0x2028, 0x2029), (0x202F, 0x202F), (0x205F, 0x205F),
    (0x3000, 0x3000)]

def isBlank (character : Char) : Bool :=
  inRanges blankRanges character

def trimChars (characters : List Char) : List Char :=
  ((characters.dropWhile isBlank).reverse.dropWhile isBlank).reverse

def trim (text : String) : String :=
  .ofList (trimChars text.toList)

/-- Every character that core calls white space is blank. -/
theorem isBlank_of_isWhitespace {character : Char} (white : character.isWhitespace = true) :
    isBlank character = true := by
  simp only [Char.isWhitespace, Bool.or_eq_true, decide_eq_true_eq] at white
  rcases white with ((isSpace | isTab) | isReturn) | isNewline
  · subst isSpace
    decide
  · subst isTab
    decide
  · subst isReturn
    decide
  · subst isNewline
    decide

/-- No character from the exclamation mark to the tilde is blank. -/
theorem isBlank_eq_false_of_visible
    {character : Char}
    (low : 0x21 ≤ character.toNat)
    (high : character.toNat ≤ 0x7E) :
    isBlank character = false := by
  simp only [isBlank, inRanges, blankRanges, List.any_cons, List.any_nil, Bool.or_false,
    Bool.or_eq_false_iff, Bool.and_eq_false_iff, decide_eq_false_iff_not]
  omega

end TripleStore.Text
