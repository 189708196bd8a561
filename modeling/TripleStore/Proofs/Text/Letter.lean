/-!
Contract: letters by the numbers of their characters.

Owns: which characters are letters, and that a change of case leaves letters letters and makes no
others.

Does not own: the characters of words (`TripleStore.Query.Lexer`).
-/

namespace TripleStore.Text

variable {letter : Char}

theorem isUpper_iff : letter.isUpper = true ↔ 65 ≤ letter.toNat ∧ letter.toNat ≤ 90 :=
  decide_eq_true_iff.trans (and_congr UInt32.le_iff_toNat_le UInt32.le_iff_toNat_le)

theorem isLower_iff : letter.isLower = true ↔ 97 ≤ letter.toNat ∧ letter.toNat ≤ 122 :=
  Bool.and_eq_true_iff.trans
    (and_congr (decide_eq_true_iff.trans UInt32.le_iff_toNat_le)
      (decide_eq_true_iff.trans UInt32.le_iff_toNat_le))

theorem isAlpha_iff :
    letter.isAlpha = true ↔
      65 ≤ letter.toNat ∧ letter.toNat ≤ 90 ∨ 97 ≤ letter.toNat ∧ letter.toNat ≤ 122 :=
  Bool.or_eq_true_iff.trans (or_congr isUpper_iff isLower_iff)

/-- A letter is a letter when it is made small, as a check of all letters shows. -/
theorem isAlpha_toLower (isLetter : letter.isAlpha = true) : letter.toLower.isAlpha = true := by
  have checked : ∀ code < 123, (Char.ofNat code).isAlpha = true →
      (Char.ofNat code).toLower.isAlpha = true := by
    decide
  have range := isAlpha_iff.mp isLetter
  rw [← Char.ofNat_toNat letter] at isLetter ⊢
  exact checked letter.toNat (by omega) isLetter

/-- Only letters are made capital letters, and all else is left as it is. -/
theorem isAlpha_of_isAlpha_toUpper (isLetter : letter.toUpper.isAlpha = true) :
    letter.isAlpha = true := by
  by_cases isSmall : letter.isLower = true
  · exact Bool.or_eq_true_iff.mpr (Or.inr isSmall)
  · have notSmall : ¬('a'.val ≤ letter.val ∧ letter.val ≤ 'z'.val) := by
      rintro ⟨atLeast, atMost⟩
      exact isSmall (isLower_iff.mpr
        ⟨UInt32.le_iff_toNat_le.mp atLeast, UInt32.le_iff_toNat_le.mp atMost⟩)
    have unchanged : letter.toUpper = letter := dif_neg notSmall
    rwa [unchanged] at isLetter

end TripleStore.Text
