import TripleStore.Proofs.Query.Lexeme

/-!
Contract: the lexeme at the start of a text is the longest spelling that the text starts with.

Owns:
- that a lexeme is found wherever something is spelled, and one that is no shorter;
- that a lexeme is found exactly if it is spelled at the start and nothing longer is, and
  none exactly if nothing is spelled there;
- that the lexeme does not depend on what comes behind it, as far as no longer spelling
  can reach there.

Does not own: what each kind of token is spelled like (`TripleStore.Proofs.Query.Lexeme`).
-/

namespace TripleStore.Query

variable {characters rest front behind word spelling : List Char} {first : Char}
  {kind other : TokenKind} {lexeme : Lexeme}

/-! ## Something is found -/

/-- No word at the start is longer than the spelled one. -/
theorem IsWord.length_le (isWord : IsWord word) (rest : List Char) :
    word.length ≤ (wordSpelling (word ++ rest)).length := by
  rcases isWord with ⟨first, others, starts, goesOn⟩
  rw [List.cons_append, wordSpelling, if_pos starts, List.takeWhile_append_of_pos goesOn]
  simp

theorem IsWord.exists_spelled (isWord : IsWord word) :
    ∃ kind : TokenKind, kind.Spelled word := by
  by_cases reserved : ∃ keyword : Keyword, keyword.Spells word
  · obtain ⟨keyword, spells⟩ := reserved
    exact ⟨_, .keyword keyword word spells⟩
  · exact ⟨_, .identifier word isWord (not_exists.mp reserved)⟩

theorem IsWord.wordSpelling_ne_nil (isWord : IsWord word) (rest : List Char) :
    wordSpelling (word ++ rest) ≠ [] := by
  rw [← List.length_pos_iff]
  exact Nat.lt_of_lt_of_le (List.length_pos_iff.mpr isWord.ne_nil) (isWord.length_le rest)

namespace Lexeme

theorem exists_word? (someLetter : wordSpelling characters ≠ []) :
    ∃ lexeme, word? characters = some lexeme ∧ lexeme.spelling = wordSpelling characters := by
  unfold word?
  split
  · next noLetter => exact absurd noLetter someLetter
  · next first others spelled =>
      split
      · exact ⟨_, rfl, spelled.symm⟩
      · exact ⟨_, rfl, spelled.symm⟩

theorem exists_variableName? (someLetter : wordSpelling characters ≠ []) :
    ∃ lexeme, variableName? ('?' :: characters) = some lexeme ∧
      lexeme.spelling = '?' :: wordSpelling characters := by
  rw [variableName?]
  split
  · next noLetter => exact absurd noLetter someLetter
  · exact ⟨_, rfl, rfl⟩

theorem exists_number? (someDigit : numberSpelling characters ≠ []) :
    ∃ lexeme, number? characters = some lexeme ∧
      lexeme.spelling = numberSpelling characters := by
  unfold number?
  split
  · next noDigit => exact absurd noDigit someDigit
  · next first others spelled => exact ⟨_, rfl, spelled.symm⟩

/-- Every lexeme has a character, so it is no shorter than one. -/
theorem exists_first?_of_isSome (found : (first? characters).isSome = true) :
    ∃ lexeme, first? characters = some lexeme ∧ 1 ≤ lexeme.spelling.length := by
  obtain ⟨lexeme, isFirst⟩ := Option.isSome_iff_exists.mp found
  exact ⟨lexeme, isFirst, List.length_pos_iff.mpr lexeme.spelling_ne_nil⟩

theorem isSome_first?_of_operator? (found : (operator? characters).isSome = true) :
    (first? characters).isSome = true := by
  simp [first?, found]

theorem isSome_first?_of_punctuation? (found : (punctuation? characters).isSome = true) :
    (first? characters).isSome = true := by
  simp [first?, found]

theorem isSome_operator?
    (sign : first ∈ ['<', '>', '-', '+', '/', '%', '=', '|']) :
    (operator? (first :: rest)).isSome = true := by
  cases found : operator? (first :: rest) with
  | some lexeme => rfl
  | none =>
      unfold operator? at found
      split at found <;> simp_all

/-- A sign of two characters is found before the one that it starts with. -/
theorem exists_first?_operator (sign : Operator) (rest : List Char) :
    ∃ lexeme, first? (sign.text.toList ++ rest) = some lexeme ∧
      sign.text.toList.length ≤ lexeme.spelling.length := by
  cases sign with
  | unequal | atMost | atLeast | different =>
      exact ⟨_, first?_of_mark rfl (by decide) rfl (numberSpelling_eq_nil (by decide)),
        Nat.le_refl 2⟩
  | _ =>
      exact exists_first?_of_isSome (isSome_first?_of_operator? (isSome_operator? (by decide)))

end Lexeme

open Lexeme in
/-- Where a word is spelled, a word is found that is no shorter. -/
theorem IsWord.exists_first? (isWord : IsWord word) (rest : List Char) :
    ∃ lexeme, Lexeme.first? (word ++ rest) = some lexeme ∧
      word.length ≤ lexeme.spelling.length := by
  obtain ⟨lexeme, found, spelled⟩ := exists_word? (isWord.wordSpelling_ne_nil rest)
  refine ⟨lexeme, ?_, ?_⟩
  · rw [Lexeme.first?, found]
    rfl
  · rw [spelled]
    exact isWord.length_le rest

namespace TokenKind.Spelled

open Lexeme

/-- Where something is spelled, a lexeme is found that is no shorter. -/
theorem exists_first? (spelled : kind.Spelled spelling) (rest : List Char) :
    ∃ lexeme, first? (spelling ++ rest) = some lexeme ∧
      spelling.length ≤ lexeme.spelling.length := by
  cases spelled with
  | keyword word letters spells => exact spells.isWord.exists_first? rest
  | identifier name isWord unreserved => exact isWord.exists_first? rest
  | variableName name isWord =>
      obtain ⟨lexeme, found, spelled⟩ := exists_variableName? (isWord.wordSpelling_ne_nil rest)
      refine ⟨lexeme, ?_, ?_⟩
      · rw [List.cons_append, Lexeme.first?, word?_eq_none rfl, found]
        rfl
      · rw [spelled, List.length_cons, List.length_cons]
        exact Nat.succ_le_succ (isWord.length_le rest)
  | number text isNumber =>
      have atLeast := isNumber.length_le rest
      have someDigit : numberSpelling (spelling ++ rest) ≠ [] := by
        rw [← List.length_pos_iff]
        exact Nat.lt_of_lt_of_le (List.length_pos_iff.mpr isNumber.ne_nil) atLeast
      obtain ⟨lexeme, found, spelled⟩ := exists_number? someDigit
      refine ⟨lexeme, ?_, spelled ▸ atLeast⟩
      cases spelling with
      | nil => exact absurd rfl isNumber.ne_nil
      | cons first others =>
          rcases isNumber.startsNumber.startsNothingElse with ⟨noLetter, noMark, noQuote⟩
          rw [List.cons_append] at found ⊢
          rw [first?_of_sign noLetter noMark noQuote, found]
          rfl
  | literal content quote quotes absent =>
      rw [List.cons_append, List.append_assoc, List.singleton_append]
      exact ⟨_, first?_literal quotes absent, Nat.le_refl _⟩
  | operator sign => exact exists_first?_operator sign rest
  | _ => exact exists_first?_of_isSome (isSome_first?_of_punctuation? rfl)

/-- A spelling is one of a single kind. -/
theorem kind_unique (spelled : kind.Spelled spelling) (otherSpelled : other.Spelled spelling) :
    kind = other := by
  have separated : Separated [] := by simp [Separated]
  have found := spelled.first?_append separated
  rw [otherSpelled.first?_append separated, Option.some.injEq] at found
  exact (congrArg Lexeme.kind found).symm

end TokenKind.Spelled

/-! ## The longest is found -/

namespace Lexeme

/-- Nothing that the characters start with is spelled and longer than the lexeme. -/
def IsLongest (lexeme : Lexeme) (characters : List Char) : Prop :=
  ∀ kind : TokenKind, ∀ spelling, kind.Spelled spelling → spelling <+: characters →
    spelling.length ≤ lexeme.spelling.length

theorem isLongest_of_first? (found : first? characters = some lexeme) :
    lexeme.IsLongest characters := by
  intro kind spelling spelled atStart
  obtain ⟨rest, rfl⟩ := atStart
  obtain ⟨longer, isFirst, atLeast⟩ := spelled.exists_first? rest
  rw [found, Option.some.injEq] at isFirst
  rw [isFirst]
  exact atLeast

/-- Two lexemes that fit, neither of them shorter, are one. -/
theorem first?_of_isLongest
    (fits : lexeme.Fits characters)
    (isLongest : lexeme.IsLongest characters) :
    first? characters = some lexeme := by
  obtain ⟨spelled, rest, rfl⟩ := fits
  obtain ⟨found, isFirst, atLeast⟩ := spelled.exists_first? rest
  obtain ⟨foundSpelled, foundAtStart⟩ := fits_of_first? isFirst
  have atMost := isLongest found.kind found.spelling foundSpelled foundAtStart
  have sameSpelling : lexeme.spelling = found.spelling :=
    (List.prefix_of_prefix_length_le (List.prefix_append _ rest) foundAtStart atLeast).eq_of_length
      (Nat.le_antisymm atLeast atMost)
  rw [← sameSpelling] at foundSpelled
  have sameKind : lexeme.kind = found.kind := spelled.kind_unique foundSpelled
  rw [isFirst]
  cases lexeme
  cases found
  simp_all

/-- The lexeme at the start of the characters is the longest that is spelled there. -/
theorem first?_eq_some_iff :
    first? characters = some lexeme ↔ lexeme.Fits characters ∧ lexeme.IsLongest characters :=
  ⟨fun found => ⟨fits_of_first? found, isLongest_of_first? found⟩,
    fun longest => first?_of_isLongest longest.1 longest.2⟩

/-- There is no lexeme only where nothing is spelled. -/
theorem first?_eq_none_iff :
    first? characters = none ↔
      ∀ kind : TokenKind, ∀ spelling, kind.Spelled spelling → ¬spelling <+: characters := by
  constructor
  · intro missing kind spelling spelled atStart
    obtain ⟨rest, rfl⟩ := atStart
    obtain ⟨lexeme, found, _⟩ := spelled.exists_first? rest
    rw [missing] at found
    cases found
  · intro nothing
    by_contra someFound
    obtain ⟨lexeme, found⟩ := Option.ne_none_iff_exists'.mp someFound
    obtain ⟨spelled, atStart⟩ := fits_of_first? found
    exact nothing lexeme.kind lexeme.spelling spelled atStart

end Lexeme

/-! ## What comes behind -/

/-- The characters that a spelling can have behind its first one, if it is no literal. -/
def GoesOn (character : Char) : Prop :=
  isWordCharacter character = true ∨ character ∈ ['.', '+', '-', '=', '>']

instance (character : Char) : Decidable (GoesOn character) := by
  unfold GoesOn
  infer_instance

theorem IsWord.isWordCharacter_of_mem
    (isWord : IsWord word)
    {character : Char}
    (member : character ∈ word) :
    isWordCharacter character = true := by
  rcases isWord with ⟨first, others, starts, goesOn⟩
  rcases List.mem_cons.mp member with rfl | later
  · exact isWordCharacter_iff.mpr (Or.inl starts)
  · exact goesOn character later

theorem IsNumberCharacter.goesOn (inNumber : IsNumberCharacter first) : GoesOn first := by
  rcases inNumber with isDigit | sign
  · exact Or.inl (isWordCharacter_iff.mpr (Or.inr isDigit))
  · simp only [List.mem_cons, List.not_mem_nil, or_false] at sign
    rcases sign with rfl | rfl | rfl | rfl | rfl <;> decide

/-- No word character is a quote. -/
theorem isQuote_of_isWordCharacter (inWord : isWordCharacter first = true) :
    isQuote first = false := by
  refine Bool.eq_false_iff.mpr fun quotes => ?_
  rcases isQuote_iff.mp quotes with rfl | rfl <;> exact absurd inWord (by decide)

/-- The spelling starts with no quote, and only some characters come behind its first one. -/
structure IsBare (spelling : List Char) : Prop where
  noQuote : ∀ first ∈ spelling.head?, isQuote first = false
  goesOn : ∀ character ∈ spelling.tail, GoesOn character

theorem isBare_cons
    {others : List Char}
    (noQuote : isQuote first = false)
    (goesOn : (others.all fun character => GoesOn character) = true) :
    IsBare (first :: others) where
  noQuote := by simpa using noQuote
  goesOn := by simpa using goesOn

theorem IsWord.isBare (isWord : IsWord word) : IsBare word where
  noQuote _ isFirst :=
    isQuote_of_isWordCharacter (isWord.isWordCharacter_of_mem (List.mem_of_mem_head? isFirst))
  goesOn _ later := Or.inl (isWord.isWordCharacter_of_mem (List.mem_of_mem_tail later))

theorem IsNumber.isBare {text : List Char} (isNumber : IsNumber text) : IsBare text where
  noQuote first isFirst := by
    cases text with
    | nil => cases isFirst
    | cons digit others =>
        cases isFirst
        exact isNumber.startsNumber.startsNothingElse.2.2
  goesOn _ later := (isNumber.isNumberCharacter (List.mem_of_mem_tail later)).goesOn

/-- The content of a literal may be any characters, and no other spelling may have them. -/
theorem TokenKind.Spelled.literal_or_isBare (spelled : kind.Spelled spelling) :
    (∃ quote content, isQuote quote = true ∧ quote ∉ content ∧
        kind = .literal (.ofList content) ∧ spelling = quote :: (content ++ [quote])) ∨
      IsBare spelling := by
  cases spelled with
  | keyword word letters spells => exact Or.inr spells.isWord.isBare
  | identifier name isWord unreserved => exact Or.inr isWord.isBare
  | variableName name isWord =>
      refine Or.inr ⟨by simp [isQuote], ?_⟩
      intro character later
      exact Or.inl (isWord.isWordCharacter_of_mem later)
  | number text isNumber => exact Or.inr isNumber.isBare
  | literal content quote quotes absent =>
      exact Or.inl ⟨quote, content, quotes, absent, rfl, rfl⟩
  | operator sign => cases sign <;> exact Or.inr (isBare_cons (by decide) (by decide))
  | _ => exact Or.inr (isBare_cons (by decide) (by decide))

theorem TokenKind.Spelled.isBare
    (spelled : kind.Spelled spelling)
    (noQuote : ∀ first ∈ spelling.head?, isQuote first = false) :
    IsBare spelling := by
  rcases spelled.literal_or_isBare with ⟨quote, content, quotes, _, _, written⟩ | bare
  · have isFirst : quote ∈ spelling.head? := by simp [written]
    rw [noQuote quote isFirst] at quotes
    cases quotes
  · exact bare

namespace Lexeme

/-- A lexeme is still found when text behind it is cut off. -/
theorem first?_of_isPrefix
    (found : first? (front ++ behind) = some lexeme)
    (inFront : lexeme.spelling <+: front) :
    first? front = some lexeme := by
  obtain ⟨⟨spelled, _⟩, isLongest⟩ := first?_eq_some_iff.mp found
  refine first?_of_isLongest ⟨spelled, inFront⟩ ?_
  intro kind spelling otherSpelled atStart
  exact isLongest kind spelling otherSpelled (atStart.trans (List.prefix_append front behind))

/-- A lexeme is still found when text is put behind it that no spelling goes on into. -/
theorem first?_append
    (found : first? front = some lexeme)
    (stops : ∀ next ∈ behind.head?, ¬GoesOn next) :
    first? (front ++ behind) = some lexeme := by
  obtain ⟨⟨spelled, inFront⟩, isLongest⟩ := first?_eq_some_iff.mp found
  rcases spelled.literal_or_isBare with ⟨quote, content, quotes, absent, _, written⟩ | bare
  · -- A literal is closed in front, so it does not matter what comes behind.
    obtain ⟨rest, rfl⟩ := inFront
    rw [written, List.cons_append, List.append_assoc, List.singleton_append] at found ⊢
    rw [first?_literal quotes absent] at found
    rw [List.cons_append, List.append_assoc, List.cons_append, first?_literal quotes absent]
    exact found
  · refine first?_of_isLongest ⟨spelled, inFront.trans (List.prefix_append front behind)⟩ ?_
    intro kind spelling otherSpelled atStart
    by_cases fits : spelling.length ≤ front.length
    · have within := List.prefix_of_prefix_length_le atStart (List.prefix_append front behind) fits
      exact isLongest kind spelling otherSpelled within
    · -- A spelling that reaches behind the front would go on with what comes there.
      obtain ⟨more, rfl⟩ := List.prefix_of_prefix_length_le (List.prefix_append front behind)
        atStart (Nat.le_of_not_le fits)
      rw [List.prefix_append_right_inj] at atStart
      obtain ⟨rest, rfl⟩ := inFront
      have otherBare : IsBare (lexeme.spelling ++ rest ++ more) := by
        apply otherSpelled.isBare
        rw [List.append_assoc, List.head?_append_of_ne_nil _ lexeme.spelling_ne_nil]
        exact bare.noQuote
      cases more with
      | nil => simp at fits
      | cons next others =>
          obtain ⟨later, rfl⟩ := atStart
          refine absurd (otherBare.goesOn next ?_) (stops next rfl)
          rw [List.append_assoc, List.tail_append_of_ne_nil lexeme.spelling_ne_nil]
          simp

end Lexeme

end TripleStore.Query
