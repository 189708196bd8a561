import Mathlib.Data.List.Nodup
import Mathlib.Data.List.TakeWhile
import TripleStore.Proofs.Query.Number
import TripleStore.Proofs.Text.Letter

/-!
Contract: what each kind of token is spelled like, and the one lexeme that a spelling is
read as.

Owns:
- `IsWord`, and `TokenKind.Spelled` for every kind but the end of input;
- that the lexeme at the start of the characters is spelled there;
- that every spelling which a blank or the end of the text comes behind is read as the
  lexeme of its kind.

Does not own: blanks between tokens, and the places of tokens
(`TripleStore.Proofs.Query.Tokens`).
-/

namespace TripleStore.Query

open TripleStore.Text (isAlpha_iff isAlpha_of_isAlpha_toUpper isBlank isBlank_eq_false_of_visible)

/-! ## Spellings -/

/-- The expression `[A-Za-z_][A-Za-z0-9_]*`. -/
inductive IsWord : List Char → Prop where
  | letters
      (first : Char)
      (others : List Char)
      (starts : isWordStart first = true)
      (goesOn : ∀ character ∈ others, isWordCharacter character = true) :
      IsWord (first :: others)

/-- The ways in which a kind of token can be written. The end of input is not written. -/
inductive TokenKind.Spelled : TokenKind → List Char → Prop where
  | keyword
      (word : Keyword)
      (letters : List Char)
      (spells : word.Spells letters) :
      Spelled (.keyword word) letters
  | identifier
      (name : List Char)
      (isWord : IsWord name)
      (unreserved : ∀ word : Keyword, ¬word.Spells name) :
      Spelled (.identifier (.ofList name)) name
  | variableName
      (name : List Char)
      (isWord : IsWord name) :
      Spelled (.variableName (.ofList name)) ('?' :: name)
  | number
      (text : List Char)
      (isNumber : IsNumber text) :
      Spelled (.number (.ofList text)) text
  | literal
      (content : List Char)
      (quote : Char)
      (quotes : isQuote quote = true)
      (absent : quote ∉ content) :
      Spelled (.literal (.ofList content)) (quote :: (content ++ [quote]))
  | comma : Spelled .comma [',']
  | dot : Spelled .dot ['.']
  | star : Spelled .star ['*']
  | leftBrace : Spelled .leftBrace ['{']
  | rightBrace : Spelled .rightBrace ['}']
  | leftParenthesis : Spelled .leftParenthesis ['(']
  | rightParenthesis : Spelled .rightParenthesis [')']
  | operator
      (sign : Operator) :
      Spelled (.operator sign) sign.text.toList

/-! ## Characters -/

variable {characters rest : List Char} {first : Char} {word : List Char}

theorem isWordStart_iff :
    isWordStart first = true ↔
      65 ≤ first.toNat ∧ first.toNat ≤ 90 ∨ 97 ≤ first.toNat ∧ first.toNat ≤ 122 ∨ first = '_' := by
  rw [isWordStart, Bool.or_eq_true, isAlpha_iff, beq_iff_eq, or_assoc]

theorem isWordCharacter_iff :
    isWordCharacter first = true ↔ isWordStart first = true ∨ first.isDigit = true := by
  simp only [isWordCharacter, isWordStart, Char.isAlphanum, Bool.or_eq_true]
  exact or_right_comm

theorem isQuote_iff : isQuote first = true ↔ first = '\x27' ∨ first = '"' := by
  simp [isQuote]

/-! ## Words -/

theorem isWord_wordSpelling (found : wordSpelling characters ≠ []) :
    IsWord (wordSpelling characters) ∧ wordSpelling characters <+: characters := by
  cases characters with
  | nil => exact absurd rfl found
  | cons first others =>
      rw [wordSpelling] at found ⊢
      split at found
      · next starts =>
          rw [if_pos starts, List.cons_prefix_cons]
          exact ⟨IsWord.letters first _ starts (List.all_eq_true.mp List.all_takeWhile), rfl,
            List.takeWhile_prefix _⟩
      · exact absurd rfl found

theorem IsWord.ne_nil (isWord : IsWord word) : word ≠ [] := by
  rcases isWord with ⟨first, others, _, _⟩
  exact List.cons_ne_nil first others

/-- A word is found whole if no character follows that could be part of it. -/
theorem IsWord.wordSpelling_append
    (isWord : IsWord word)
    (ends : ∀ next ∈ rest.head?, isWordCharacter next = false) :
    wordSpelling (word ++ rest) = word := by
  rcases isWord with ⟨first, others, starts, goesOn⟩
  have noMore : rest.takeWhile isWordCharacter = [] := by
    cases rest with
    | nil => rfl
    | cons next rest => exact List.takeWhile_cons_of_neg (by simp [ends next rfl])
  rw [List.cons_append, wordSpelling, if_pos starts, List.takeWhile_append_of_pos goesOn, noMore,
    List.append_nil]

/-! ## Reserved words -/

namespace Keyword

theorem text_nodup : (all.map text).Nodup := by
  decide

theorem eq_of_spells
    {keyword other : Keyword}
    (spells : keyword.Spells word)
    (otherSpells : other.Spells word) :
    keyword = other := by
  have sameText : keyword.text = other.text := by
    rw [← String.toList_inj, ← spells, ← otherSpells]
  exact List.inj_on_of_nodup_map text_nodup (mem_all keyword) (mem_all other) sameText

theorem ofWord?_eq_some_iff {keyword : Keyword} :
    ofWord? word = some keyword ↔ keyword.Spells word := by
  constructor
  · intro found
    have spells := List.find?_some found
    exact of_decide_eq_true spells
  · intro spells
    have found : (ofWord? word).isSome = true :=
      List.find?_isSome.mpr ⟨keyword, mem_all keyword, decide_eq_true spells⟩
    rcases Option.isSome_iff_exists.mp found with ⟨other, otherFound⟩
    have otherSpells := List.find?_some otherFound
    rw [otherFound, eq_of_spells (of_decide_eq_true otherSpells) spells]

theorem ofWord?_eq_none_iff : ofWord? word = none ↔ ∀ keyword : Keyword, ¬keyword.Spells word := by
  simp only [Option.eq_none_iff_forall_ne_some, ne_eq, ofWord?_eq_some_iff]

theorem isAlpha_text (keyword : Keyword) :
    keyword.text.toList ≠ [] ∧ keyword.text.toList.all Char.isAlpha = true := by
  cases keyword <;> decide

end Keyword

theorem Keyword.Spells.isWord {keyword : Keyword} (spells : keyword.Spells word) : IsWord word := by
  obtain ⟨someLetter, capitals⟩ := keyword.isAlpha_text
  have letters : ∀ letter ∈ word, letter.isAlpha = true := by
    intro letter member
    apply isAlpha_of_isAlpha_toUpper
    refine List.all_eq_true.mp capitals _ ?_
    rw [← spells]
    exact List.mem_map_of_mem member
  cases word with
  | nil => exact absurd spells.symm someLetter
  | cons first others =>
      refine IsWord.letters first others (by simp [isWordStart, letters first]) ?_
      intro character member
      have isLetter := letters character (List.mem_cons_of_mem first member)
      simp [isWordCharacter, Char.isAlphanum, isLetter]

/-! ## What is read is spelled -/

namespace Lexeme

/-- The lexeme is spelled as its kind is, and the characters start with it. -/
def Fits (lexeme : Lexeme) (characters : List Char) : Prop :=
  lexeme.kind.Spelled lexeme.spelling ∧ lexeme.spelling <+: characters

variable {lexeme : Lexeme}

theorem fits_of_word? (found : word? characters = some lexeme) : lexeme.Fits characters := by
  unfold word? at found
  split at found
  · simp at found
  · next first others spelled =>
      have someLetter : wordSpelling characters ≠ [] := by simp [spelled]
      have isWord := isWord_wordSpelling someLetter
      rw [spelled] at isWord
      split at found
      · next keyword reserved =>
          cases found
          exact ⟨.keyword keyword _ (Keyword.ofWord?_eq_some_iff.mp reserved), isWord.2⟩
      · next unreserved =>
          cases found
          exact ⟨.identifier _ isWord.1 (Keyword.ofWord?_eq_none_iff.mp unreserved), isWord.2⟩

theorem fits_of_variableName? (found : variableName? characters = some lexeme) :
    lexeme.Fits characters := by
  unfold variableName? at found
  split at found
  · next others =>
      split at found
      · simp at found
      · next someName =>
          cases found
          have isWord := isWord_wordSpelling someName
          exact ⟨.variableName _ isWord.1, List.cons_prefix_cons.mpr ⟨rfl, isWord.2⟩⟩
  · simp at found

/-- What is behind the content of a literal starts with its closing quote. -/
theorem closingQuote_isPrefix
    {quote : Char}
    (closed : (rest.takeWhile (· != quote)).length < rest.length) :
    rest.takeWhile (· != quote) ++ [quote] <+: rest := by
  have whole := List.takeWhile_append_dropWhile (p := (· != quote)) (l := rest)
  cases behind : rest.dropWhile (· != quote) with
  | nil =>
      rw [behind, List.append_nil] at whole
      rw [whole] at closed
      exact absurd closed (Nat.lt_irrefl _)
  | cons next others =>
      have isClosing := List.head?_dropWhile_not (· != quote) rest
      rw [behind] at isClosing
      have closes : next = quote := by simpa using isClosing
      rw [behind, closes] at whole
      exact ⟨others, by simpa using whole⟩

theorem fits_of_literal? (found : literal? characters = some lexeme) :
    lexeme.Fits characters := by
  unfold literal? at found
  split at found
  · simp at found
  · next quote others =>
      dsimp only at found
      split at found
      · next closed =>
          cases found
          rw [Bool.and_eq_true, decide_eq_true_eq] at closed
          have absent : quote ∉ others.takeWhile (· != quote) := by
            intro member
            simpa using List.all_eq_true.mp List.all_takeWhile quote member
          exact ⟨.literal _ quote closed.1 absent,
            List.cons_prefix_cons.mpr ⟨rfl, closingQuote_isPrefix closed.2⟩⟩
      · simp at found

theorem fits_of_number? (found : number? characters = some lexeme) : lexeme.Fits characters := by
  unfold number? at found
  split at found
  · simp at found
  · next first others spelled =>
      cases found
      have someDigit : numberSpelling characters ≠ [] := by simp [spelled]
      have isNumber := isNumber_numberSpelling someDigit
      rw [spelled] at isNumber
      exact ⟨.number _ isNumber.1, isNumber.2⟩

theorem fits_of_operator? (found : operator? characters = some lexeme) :
    lexeme.Fits characters := by
  unfold operator? at found
  split at found <;> cases found
  all_goals exact ⟨.operator _, List.prefix_append _ _⟩

theorem fits_of_punctuation? (found : punctuation? characters = some lexeme) :
    lexeme.Fits characters := by
  unfold punctuation? at found
  split at found <;> cases found
  all_goals exact ⟨by constructor, List.prefix_append [_] _⟩

theorem fits_of_first? (found : first? characters = some lexeme) : lexeme.Fits characters := by
  simp only [first?, Option.orElse_eq_orElse, Option.orElse_eq_or, Option.or_eq_some_iff] at found
  rcases found with word | ⟨_, name | ⟨_, literal | ⟨_, number | ⟨_, operator | ⟨_, mark⟩⟩⟩⟩⟩
  · exact fits_of_word? word
  · exact fits_of_variableName? name
  · exact fits_of_literal? literal
  · exact fits_of_number? number
  · exact fits_of_operator? operator
  · exact fits_of_punctuation? mark

end Lexeme

/-! ## What is spelled is read -/

/-- A blank or the end of the text comes next. -/
def Separated (rest : List Char) : Prop :=
  ∀ next ∈ rest.head?, isBlank next = true

theorem isBlank_of_isWordCharacter (inWord : isWordCharacter first = true) :
    isBlank first = false := by
  rcases isWordCharacter_iff.mp inWord with starts | isDigit
  · rcases isWordStart_iff.mp starts with capital | small | rfl
    · exact isBlank_eq_false_of_visible (by omega) (by omega)
    · exact isBlank_eq_false_of_visible (by omega) (by omega)
    · decide
  · have range : 48 ≤ first.toNat ∧ first.toNat ≤ 57 := Char.isDigit_iff_toNat.mp isDigit
    exact isBlank_eq_false_of_visible (by omega) (by omega)

theorem IsNumberCharacter.isBlank (inNumber : IsNumberCharacter first) : isBlank first = false := by
  rcases inNumber with isDigit | sign
  · exact isBlank_of_isWordCharacter (isWordCharacter_iff.mpr (Or.inr isDigit))
  · simp only [List.mem_cons, List.not_mem_nil, or_false] at sign
    rcases sign with rfl | rfl | rfl | rfl | rfl <;> decide

namespace Separated

theorem isWordCharacter_head (separated : Separated rest) :
    ∀ next ∈ rest.head?, isWordCharacter next = false := by
  intro next isNext
  refine Bool.eq_false_iff.mpr fun inWord => ?_
  have blank := separated next isNext
  rw [isBlank_of_isWordCharacter inWord] at blank
  exact absurd blank (by decide)

theorem isNumberCharacter_head (separated : Separated rest) :
    ∀ next ∈ rest.head?, ¬IsNumberCharacter next := by
  intro next isNext inNumber
  have blank := separated next isNext
  rw [inNumber.isBlank] at blank
  exact absurd blank (by decide)

theorem startsNumber_head (separated : Separated rest) :
    ∀ next ∈ rest.head?, ¬StartsNumber next := by
  intro next isNext starts
  exact separated.isNumberCharacter_head next isNext starts.isNumberCharacter

end Separated

namespace Lexeme

theorem word?_eq_none (noLetter : isWordStart first = false) : word? (first :: rest) = none := by
  have noWord : wordSpelling (first :: rest) = [] := by
    rw [wordSpelling, if_neg (by simp [noLetter])]
  unfold word?
  rw [noWord]

theorem word?_eq_some
    (isWord : IsWord word)
    (ends : ∀ next ∈ rest.head?, isWordCharacter next = false) :
    word? (word ++ rest) =
      match Keyword.ofWord? word with
      | some keyword =>
          some { kind := .keyword keyword, spelling := word, spelling_ne_nil := isWord.ne_nil }
      | none =>
          some { kind := .identifier (.ofList word), spelling := word,
                 spelling_ne_nil := isWord.ne_nil } := by
  have spelled := isWord.wordSpelling_append ends
  unfold word?
  split
  · next noWord => exact absurd (spelled.symm.trans noWord) isWord.ne_nil
  · next first others found =>
      rw [spelled] at found
      subst found
      rfl

theorem variableName?_eq_some
    (isWord : IsWord word)
    (ends : ∀ next ∈ rest.head?, isWordCharacter next = false) :
    variableName? ('?' :: (word ++ rest)) =
      some { kind := .variableName (.ofList word), spelling := '?' :: word } := by
  have spelled := isWord.wordSpelling_append ends
  unfold variableName?
  simp only [spelled]
  cases isWord
  rfl

theorem takeWhile_content
    {quote : Char}
    {content : List Char}
    (absent : quote ∉ content) :
    (content ++ quote :: rest).takeWhile (· != quote) = content := by
  rw [List.takeWhile_append_of_pos]
  · simp
  · intro character member
    have different : character ≠ quote := by
      rintro rfl
      exact absent member
    simp [different]

theorem literal?_eq_some
    {quote : Char}
    (quotes : isQuote quote = true)
    {content : List Char}
    (absent : quote ∉ content) :
    literal? (quote :: (content ++ quote :: rest)) =
      some { kind := .literal (.ofList content), spelling := quote :: (content ++ [quote]) } := by
  unfold literal?
  simp [takeWhile_content absent, quotes]

theorem number?_eq_some
    {text : List Char}
    (isNumber : IsNumber text)
    (ends : ∀ next ∈ rest.head?, ¬IsNumberCharacter next) :
    number? (text ++ rest) =
      some { kind := .number (.ofList text), spelling := text,
             spelling_ne_nil := isNumber.ne_nil } := by
  have spelled := isNumber.numberSpelling_append ends
  unfold number?
  split
  · next noNumber => exact absurd (spelled.symm.trans noNumber) isNumber.ne_nil
  · next first others found =>
      rw [spelled] at found
      subst found
      rfl

/-- Behind a character that starts no word, no variable and no literal, the other kinds
are left. -/
theorem first?_of_sign
    (noLetter : isWordStart first = false)
    (noMark : first ≠ '?')
    (noQuote : isQuote first = false) :
    first? (first :: rest) =
      (number? (first :: rest) <|> operator? (first :: rest) <|> punctuation? (first :: rest)) := by
  have noVariable : variableName? (first :: rest) = none := by
    unfold variableName?
    split
    · next others same => exact absurd (List.cons.inj same).1 noMark
    · rfl
  have noLiteral : literal? (first :: rest) = none := by
    simp [literal?, noQuote]
  simp [first?, word?_eq_none noLetter, noVariable, noLiteral]

theorem first?_of_mark
    (noLetter : isWordStart first = false)
    (noMark : first ≠ '?')
    (noQuote : isQuote first = false)
    (noNumber : numberSpelling (first :: rest) = []) :
    first? (first :: rest) = (operator? (first :: rest) <|> punctuation? (first :: rest)) := by
  have numberless : number? (first :: rest) = none := by
    unfold number?
    rw [noNumber]
  rw [first?_of_sign noLetter noMark noQuote, numberless]
  rfl

end Lexeme

namespace TokenKind.Spelled

variable {kind : TokenKind} {spelling : List Char}

theorem ne_nil (spelled : kind.Spelled spelling) : spelling ≠ [] := by
  cases spelled with
  | keyword word letters spells => exact spells.isWord.ne_nil
  | identifier name isWord unreserved => exact isWord.ne_nil
  | number text isNumber => exact isNumber.ne_nil
  | operator sign => cases sign <;> simp [Operator.text]
  | _ => simp

end TokenKind.Spelled

/-- What starts a number starts no word, no variable and no literal. -/
theorem StartsNumber.startsNothingElse (starts : StartsNumber first) :
    isWordStart first = false ∧ first ≠ '?' ∧ isQuote first = false := by
  rcases starts with isDigit | sign
  · have range : 48 ≤ first.toNat ∧ first.toNat ≤ 57 := Char.isDigit_iff_toNat.mp isDigit
    have noLetter : ¬isWordStart first = true := by
      intro starts
      rcases isWordStart_iff.mp starts with capital | small | rfl
      · omega
      · omega
      · exact absurd isDigit (by decide)
    have noMark : first ≠ '?' := by
      rintro rfl
      exact absurd isDigit (by decide)
    have noQuote : ¬isQuote first = true := by
      intro quotes
      rcases isQuote_iff.mp quotes with rfl | rfl <;> exact absurd isDigit (by decide)
    exact ⟨Bool.eq_false_iff.mpr noLetter, noMark, Bool.eq_false_iff.mpr noQuote⟩
  · simp only [List.mem_cons, List.not_mem_nil, or_false] at sign
    rcases sign with rfl | rfl | rfl <;> decide

theorem IsNumber.startsNumber
    {others : List Char}
    (isNumber : IsNumber (first :: others)) :
    StartsNumber first := by
  by_contra noStart
  have atLeast := isNumber.length_le []
  rw [List.append_nil, numberSpelling_eq_nil noStart] at atLeast
  exact absurd atLeast (by simp)

namespace Lexeme

/-- A literal ends at its quote, whatever comes behind. -/
theorem first?_literal
    {quote : Char}
    (quotes : isQuote quote = true)
    {content : List Char}
    (absent : quote ∉ content) :
    first? (quote :: (content ++ quote :: rest)) =
      some { kind := .literal (.ofList content), spelling := quote :: (content ++ [quote]) } := by
  have found : literal? (quote :: (content ++ quote :: rest)) = some _ :=
    literal?_eq_some quotes absent
  rcases isQuote_iff.mp quotes with rfl | rfl
  · rw [first?, word?_eq_none rfl, found]
    rfl
  · rw [first?, word?_eq_none rfl, found]
    rfl

theorem operator?_less (separated : Separated rest) :
    operator? ('<' :: rest) = some { kind := .operator .less, spelling := ['<'] } := by
  cases rest with
  | nil => rfl
  | cons next others =>
      have blank : isBlank next = true := separated next rfl
      have noGreater : next ≠ '>' := by
        rintro rfl
        exact absurd blank (by decide)
      have noEqual : next ≠ '=' := by
        rintro rfl
        exact absurd blank (by decide)
      simp [operator?, noGreater, noEqual]

theorem operator?_greater (separated : Separated rest) :
    operator? ('>' :: rest) = some { kind := .operator .greater, spelling := ['>'] } := by
  cases rest with
  | nil => rfl
  | cons next others =>
      have blank : isBlank next = true := separated next rfl
      have noEqual : next ≠ '=' := by
        rintro rfl
        exact absurd blank (by decide)
      simp [operator?, noEqual]

theorem first?_operator
    (sign : Operator)
    (separated : Separated rest) :
    first? (sign.text.toList ++ rest) =
      some { kind := .operator sign, spelling := sign.text.toList,
             spelling_ne_nil := (TokenKind.Spelled.operator sign).ne_nil } := by
  have signOnly : ∀ {first}, first = '-' ∨ first = '+' → numberSpelling (first :: rest) = [] :=
    fun isSign => numberSpelling_sign isSign separated.startsNumber_head
  cases sign with
  | minus => exact first?_of_mark rfl (by decide) rfl (signOnly (Or.inl rfl))
  | plus => exact first?_of_mark rfl (by decide) rfl (signOnly (Or.inr rfl))
  | less =>
      refine (first?_of_mark rfl (by decide) rfl (numberSpelling_eq_nil (by decide))).trans ?_
      exact congrArg (· <|> punctuation? ('<' :: rest)) (operator?_less separated)
  | greater =>
      refine (first?_of_mark rfl (by decide) rfl (numberSpelling_eq_nil (by decide))).trans ?_
      exact congrArg (· <|> punctuation? ('>' :: rest)) (operator?_greater separated)
  | _ => exact first?_of_mark rfl (by decide) rfl (numberSpelling_eq_nil (by decide))

end Lexeme

/-- Every spelling that a blank or the end of the text comes behind is read whole, as the
kind that it spells. -/
theorem TokenKind.Spelled.first?_append
    {kind : TokenKind}
    {spelling : List Char}
    (spelled : kind.Spelled spelling)
    (separated : Separated rest) :
    Lexeme.first? (spelling ++ rest) =
      some { kind, spelling, spelling_ne_nil := spelled.ne_nil } := by
  cases spelled with
  | keyword word letters spells =>
      have found := Lexeme.word?_eq_some spells.isWord separated.isWordCharacter_head
      rw [Keyword.ofWord?_eq_some_iff.mpr spells] at found
      simp [Lexeme.first?, found]
  | identifier name isWord unreserved =>
      have found := Lexeme.word?_eq_some isWord separated.isWordCharacter_head
      rw [Keyword.ofWord?_eq_none_iff.mpr unreserved] at found
      simp [Lexeme.first?, found]
  | variableName name isWord =>
      have found := Lexeme.variableName?_eq_some isWord separated.isWordCharacter_head
      rw [List.cons_append, Lexeme.first?, Lexeme.word?_eq_none rfl, found]
      rfl
  | number _ isNumber =>
      have found := Lexeme.number?_eq_some isNumber separated.isNumberCharacter_head
      cases spelling with
      | nil => exact absurd rfl isNumber.ne_nil
      | cons first others =>
          rcases isNumber.startsNumber.startsNothingElse with ⟨noLetter, noMark, noQuote⟩
          rw [List.cons_append] at found ⊢
          rw [Lexeme.first?_of_sign noLetter noMark noQuote, found]
          rfl
  | literal content quote quotes absent =>
      rw [List.cons_append, List.append_assoc, List.singleton_append]
      exact Lexeme.first?_literal quotes absent
  | operator sign => exact Lexeme.first?_operator sign separated
  | dot =>
      exact Lexeme.first?_of_mark rfl (by decide) rfl
        (numberSpelling_point separated.startsNumber_head)
  | _ => exact Lexeme.first?_of_mark rfl (by decide) rfl (numberSpelling_eq_nil (by decide))

/-! ## Spellings are visible -/

theorem IsWord.isBlank_head (isWord : IsWord word) :
    ∀ first ∈ word.head?, isBlank first = false := by
  rcases isWord with ⟨first, others, starts, _⟩
  simpa using isBlank_of_isWordCharacter (isWordCharacter_iff.mpr (Or.inl starts))

theorem TokenKind.Spelled.isBlank_head
    {kind : TokenKind}
    {spelling : List Char}
    (spelled : kind.Spelled spelling) :
    ∀ first ∈ spelling.head?, isBlank first = false := by
  cases spelled with
  | keyword word letters spells => exact spells.isWord.isBlank_head
  | identifier name isWord unreserved => exact isWord.isBlank_head
  | number text isNumber =>
      intro first isFirst
      exact (isNumber.isNumberCharacter (List.mem_of_mem_head? isFirst)).isBlank
  | literal content quote quotes absent =>
      intro first isFirst
      cases isFirst
      rcases isQuote_iff.mp quotes with rfl | rfl <;> decide
  | operator sign =>
      intro first isFirst
      cases sign <;> cases isFirst <;> decide
  | _ =>
      intro first isFirst
      cases isFirst
      decide

end TripleStore.Query
