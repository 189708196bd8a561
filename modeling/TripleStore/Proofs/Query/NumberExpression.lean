import Mathlib.Computability.RegularExpressions
import Mathlib.Tactic.IntervalCases
import TripleStore.Proofs.Query.LongestMatch
import TripleStore.Proofs.Query.TokenParser

/-!
Contract: a number is the longest match of its regular expression.

Owns:
- `Expression.number`, the expression `[-+]?[0-9]*\.?[0-9]+([eE][-+]?[0-9]+)?` put together
  from single characters, and that its texts are the numbers;
- that a number is taken exactly where a front of the characters matches, and is then the
  longest front that does, as it is written;
- that nothing is consumed where no number is, though a sign may have been looked at;
- that the tokens go on right behind a number.

Does not own: the spelling of numbers (`TripleStore.Proofs.Query.Number`), nor how parsers are put
together (`TripleStore.Proofs.Query.TokenParser`).
-/

namespace TripleStore.Query

open TripleStore.Text (byteLength)

variable {characters text : List Char} {lexeme : Lexeme}

/-! ## The expression -/

namespace Expression

/-- One of the characters, as `[eE]` has it. -/
def oneOf (characters : List Char) : RegularExpression Char :=
  characters.foldr (fun character others => .char character + others) 0

/-- The part or nothing, as `e?` has it. -/
def atMostOnce (part : RegularExpression Char) : RegularExpression Char :=
  1 + part

/-- The part, and then the part any number of times, as `e+` has it. -/
def atLeastOnce (part : RegularExpression Char) : RegularExpression Char :=
  part * part.star

def decimalDigits : List Char :=
  ['0', '1', '2', '3', '4', '5', '6', '7', '8', '9']

def digit : RegularExpression Char :=
  oneOf decimalDigits

def sign : RegularExpression Char :=
  atMostOnce (oneOf ['-', '+'])

def mantissa : RegularExpression Char :=
  digit.star * atMostOnce (.char '.') * atLeastOnce digit

def exponent : RegularExpression Char :=
  oneOf ['e', 'E'] * sign * atLeastOnce digit

def number : RegularExpression Char :=
  sign * mantissa * atMostOnce exponent

variable {part : RegularExpression Char}

theorem mem_oneOf_iff :
    text ∈ (oneOf characters).matches' ↔ ∃ character ∈ characters, text = [character] := by
  induction characters with
  | nil => simp [oneOf]
  | cons first others inductionHypothesis =>
      have choice : (oneOf (first :: others)).matches' = {[first]} + (oneOf others).matches' := rfl
      rw [choice, Language.mem_add, inductionHypothesis, List.exists_mem_cons_iff]
      rfl

theorem mem_atMostOnce_iff :
    text ∈ (atMostOnce part).matches' ↔ text = [] ∨ text ∈ part.matches' := by
  rw [atMostOnce, RegularExpression.matches'_add, Language.mem_add,
    RegularExpression.matches'_epsilon, Language.mem_one]

theorem mem_decimalDigits_iff {character : Char} :
    character ∈ decimalDigits ↔ character.isDigit = true := by
  constructor
  · have areDigits : decimalDigits.all Char.isDigit = true := by decide
    exact List.all_eq_true.mp areDigits character
  · intro isDigit
    have range : 48 ≤ character.toNat ∧ character.toNat ≤ 57 := Char.isDigit_iff_toNat.mp isDigit
    have listed : ∀ code : Nat, 48 ≤ code → code ≤ 57 → Char.ofNat code ∈ decimalDigits := by
      intro code _ _
      interval_cases code <;> decide
    rw [← Char.ofNat_toNat character]
    exact listed character.toNat range.1 range.2

theorem mem_digit_iff :
    text ∈ digit.matches' ↔ ∃ character : Char, character.isDigit = true ∧ text = [character] := by
  simp only [digit, mem_oneOf_iff, mem_decimalDigits_iff]

/-- Any number of digits. -/
theorem mem_star_digit_iff : text ∈ digit.star.matches' ↔ AreDigits text := by
  rw [RegularExpression.matches'_star, Language.mem_kstar]
  constructor
  · rintro ⟨pieces, rfl, areDigits⟩ character member
    obtain ⟨piece, isPiece, inPiece⟩ := List.mem_flatten.mp member
    obtain ⟨only, isDigit, rfl⟩ := mem_digit_iff.mp (areDigits piece isPiece)
    rwa [List.mem_singleton.mp inPiece]
  · intro areDigits
    refine ⟨text.map fun character => [character], ?_, ?_⟩
    · rw [← List.flatMap_def, List.flatMap_singleton']
    · intro piece isPiece
      obtain ⟨character, member, rfl⟩ := List.mem_map.mp isPiece
      exact mem_digit_iff.mpr ⟨character, areDigits character member, rfl⟩

theorem mem_atLeastOnce_digit_iff :
    text ∈ (atLeastOnce digit).matches' ↔ AreDigits text ∧ text ≠ [] := by
  rw [atLeastOnce, RegularExpression.matches'_mul, Language.mem_mul]
  simp only [mem_digit_iff, mem_star_digit_iff]
  constructor
  · rintro ⟨_, ⟨first, isDigit, rfl⟩, others, areDigits, rfl⟩
    exact ⟨List.forall_mem_cons.mpr ⟨isDigit, areDigits⟩, List.cons_ne_nil first others⟩
  · rintro ⟨areDigits, someDigit⟩
    cases text with
    | nil => exact absurd rfl someDigit
    | cons first others =>
        obtain ⟨isDigit, othersAreDigits⟩ := List.forall_mem_cons.mp areDigits
        exact ⟨[first], ⟨first, isDigit, rfl⟩, others, othersAreDigits, rfl⟩

theorem mem_sign_iff : text ∈ sign.matches' ↔ IsSign text := by
  rw [sign, mem_atMostOnce_iff, mem_oneOf_iff, IsSign]
  simp

theorem mem_mantissa_iff : text ∈ mantissa.matches' ↔ IsMantissa text := by
  rw [mantissa, RegularExpression.matches'_mul, RegularExpression.matches'_mul, Language.mem_mul]
  simp only [Language.mem_mul, mem_star_digit_iff, mem_atMostOnce_iff, mem_atLeastOnce_digit_iff]
  constructor
  · rintro ⟨_, ⟨whole, wholeDigits, point, atMostOne, rfl⟩, fraction,
      ⟨fractionDigits, someDigit⟩, rfl⟩
    exact .parts whole point fraction wholeDigits atMostOne fractionDigits someDigit
  · rintro ⟨whole, point, fraction, wholeDigits, atMostOne, fractionDigits, someDigit⟩
    exact ⟨_, ⟨whole, wholeDigits, point, atMostOne, rfl⟩, fraction,
      ⟨fractionDigits, someDigit⟩, rfl⟩

theorem mem_exponent_iff : text ∈ exponent.matches' ↔ IsExponent text := by
  rw [exponent, RegularExpression.matches'_mul, RegularExpression.matches'_mul, Language.mem_mul]
  simp only [Language.mem_mul, mem_oneOf_iff, mem_sign_iff, mem_atLeastOnce_digit_iff]
  constructor
  · rintro ⟨_, ⟨_, ⟨mark, isMark, rfl⟩, sign, isSign, rfl⟩, digits, ⟨areDigits, someDigit⟩, rfl⟩
    exact .parts mark sign digits (by simpa using isMark) isSign areDigits someDigit
  · rintro ⟨mark, sign, digits, isMark, isSign, areDigits, someDigit⟩
    exact ⟨_, ⟨[mark], ⟨mark, by simpa using isMark, rfl⟩, sign, isSign, rfl⟩, digits,
      ⟨areDigits, someDigit⟩, rfl⟩

/-- The texts of the expression are the numbers. -/
theorem mem_number_iff : text ∈ number.matches' ↔ IsNumber text := by
  rw [number, RegularExpression.matches'_mul, RegularExpression.matches'_mul, Language.mem_mul]
  simp only [Language.mem_mul, mem_sign_iff, mem_mantissa_iff, mem_atMostOnce_iff, mem_exponent_iff]
  constructor
  · rintro ⟨_, ⟨sign, isSign, mantissa, isMantissa, rfl⟩, exponent, atMostOne, rfl⟩
    exact .parts sign mantissa exponent isSign isMantissa atMostOne
  · rintro ⟨sign, mantissa, exponent, isSign, isMantissa, atMostOne⟩
    exact ⟨_, ⟨sign, isSign, mantissa, isMantissa, rfl⟩, exponent, atMostOne, rfl⟩

end Expression

/-! ## The longest match -/

/-- The front starts the characters and matches, and no longer front does. -/
structure IsLongestMatch
    (expression : RegularExpression Char)
    (front characters : List Char) : Prop where
  isPrefix : front <+: characters
  isMatch : front ∈ expression.matches'
  length_le : ∀ other, other <+: characters → other ∈ expression.matches' →
    other.length ≤ front.length

theorem IsLongestMatch.unique
    {expression : RegularExpression Char}
    {front other : List Char}
    (longest : IsLongestMatch expression front characters)
    (otherLongest : IsLongestMatch expression other characters) :
    front = other := by
  have atMost := otherLongest.length_le front longest.isPrefix longest.isMatch
  have atLeast := longest.length_le other otherLongest.isPrefix otherLongest.isMatch
  exact (List.prefix_of_prefix_length_le longest.isPrefix otherLongest.isPrefix atMost).eq_of_length
    (Nat.le_antisymm atMost atLeast)

theorem isLongestMatch_numberSpelling (found : numberSpelling characters ≠ []) :
    IsLongestMatch Expression.number (numberSpelling characters) characters where
  isPrefix := (isNumber_numberSpelling found).2
  isMatch := Expression.mem_number_iff.mpr (isNumber_numberSpelling found).1
  length_le := by
    rintro other ⟨rest, rfl⟩ isMatch
    exact (Expression.mem_number_iff.mp isMatch).length_le rest

/-- Where a front matches, something is spelled. -/
theorem numberSpelling_ne_nil
    {front : List Char}
    (atStart : front <+: characters)
    (isMatch : front ∈ Expression.number.matches') :
    numberSpelling characters ≠ [] := by
  obtain ⟨rest, rfl⟩ := atStart
  have isNumber := Expression.mem_number_iff.mp isMatch
  rw [← List.length_pos_iff]
  exact Nat.lt_of_lt_of_le (List.length_pos_iff.mpr isNumber.ne_nil) (isNumber.length_le rest)

namespace Lexeme

/-- A number is kept as it is written. -/
theorem kind_of_number? (found : number? characters = some lexeme) :
    lexeme.kind = .number (.ofList lexeme.spelling) ∧
      lexeme.spelling = numberSpelling characters ∧ numberSpelling characters ≠ [] := by
  unfold number? at found
  split at found
  · cases found
  · next first others spelled =>
      cases found
      rw [spelled]
      exact ⟨rfl, rfl, List.cons_ne_nil first others⟩

theorem isLongestMatch_of_number? (found : number? characters = some lexeme) :
    IsLongestMatch Expression.number lexeme.spelling characters := by
  obtain ⟨_, spelled, someDigit⟩ := kind_of_number? found
  rw [spelled]
  exact isLongestMatch_numberSpelling someDigit

theorem number?_eq_some_iff :
    number? characters = some lexeme ↔
      lexeme.kind = .number (.ofList lexeme.spelling) ∧
        IsLongestMatch Expression.number lexeme.spelling characters := by
  constructor
  · intro found
    exact ⟨(kind_of_number? found).1, isLongestMatch_of_number? found⟩
  · rintro ⟨isNumber, longest⟩
    obtain ⟨other, found, _⟩ :=
      exists_number? (numberSpelling_ne_nil longest.isPrefix longest.isMatch)
    have sameSpelling := longest.unique (isLongestMatch_of_number? found)
    have sameKind : lexeme.kind = other.kind := by
      rw [isNumber, sameSpelling, (kind_of_number? found).1]
    rw [found, Option.some.injEq]
    obtain ⟨kind, spelling, _⟩ := lexeme
    cases sameKind
    cases sameSpelling
    rfl

theorem isSome_number?_iff :
    (number? characters).isSome = true ↔
      ∃ front, front <+: characters ∧ front ∈ Expression.number.matches' := by
  constructor
  · intro isRead
    obtain ⟨lexeme, found⟩ := Option.isSome_iff_exists.mp isRead
    have longest := isLongestMatch_of_number? found
    exact ⟨lexeme.spelling, longest.isPrefix, longest.isMatch⟩
  · rintro ⟨front, atStart, isMatch⟩
    obtain ⟨lexeme, found, _⟩ := exists_number? (numberSpelling_ne_nil atStart isMatch)
    rw [found]
    rfl

/-! ## Behind a number -/

/-- Where a number is read, no other kind of token starts before it. -/
theorem first?_of_number? (found : number? characters = some lexeme) :
    first? characters = some lexeme := by
  have longest := isLongestMatch_of_number? found
  obtain ⟨rest, whole⟩ := longest.isPrefix
  have isNumber := Expression.mem_number_iff.mp longest.isMatch
  cases spelled : lexeme.spelling with
  | nil => exact absurd spelled isNumber.ne_nil
  | cons first others =>
      rw [spelled] at whole isNumber
      obtain ⟨noLetter, noMark, noQuote⟩ := isNumber.startsNumber.startsNothingElse
      subst whole
      rw [List.cons_append] at found ⊢
      rw [first?_of_sign noLetter noMark noQuote, found]
      rfl

theorem tokensFrom_of_number?
    (found : number? characters = some lexeme)
    (offset : Nat) :
    tokensFrom offset characters = do
      let tokens ← tokensFrom (offset + byteLength lexeme.spelling)
        (characters.drop lexeme.spelling.length)
      return { kind := lexeme.kind, offset } :: tokens := by
  obtain ⟨rest, whole⟩ := (isLongestMatch_of_number? found).isPrefix
  subst whole
  have noBlanks : AreBlank [] := by simp [AreBlank]
  rw [List.drop_left]
  exact tokensFrom_lexeme offset noBlanks lexeme (first?_of_number? found)

end Lexeme

/-! ## What is consumed -/

namespace ParserLibrary

variable (library : ParserLibrary)

theorem exists_number_eq_done_iff :
    (∃ kind rest, library.number characters = .done kind rest) ↔
      ∃ front, front <+: characters ∧ front ∈ Expression.number.matches' := by
  rw [← Lexeme.isSome_number?_iff, Option.isSome_iff_exists]
  simp only [(library.agrees_number characters).eq_done_iff]
  constructor
  · rintro ⟨_, _, lexeme, found, _, _⟩
    exact ⟨lexeme, found⟩
  · rintro ⟨lexeme, found⟩
    exact ⟨_, _, lexeme, found, rfl, rfl⟩

theorem number_eq_done_iff {kind : TokenKind} {rest : List Char} :
    library.number characters = .done kind rest ↔
      ∃ front, IsLongestMatch Expression.number front characters ∧
        kind = .number (.ofList front) ∧ characters = front ++ rest := by
  rw [(library.agrees_number characters).eq_done_iff]
  constructor
  · rintro ⟨lexeme, found, rfl, rfl⟩
    obtain ⟨isNumber, longest⟩ := Lexeme.number?_eq_some_iff.mp found
    exact ⟨lexeme.spelling, longest, isNumber,
      (List.prefix_iff_eq_append.mp longest.isPrefix).symm⟩
  · rintro ⟨front, longest, rfl, rfl⟩
    have isNumber := Expression.mem_number_iff.mp longest.isMatch
    refine ⟨{ kind := .number (.ofList front), spelling := front,
              spelling_ne_nil := isNumber.ne_nil }, ?_, rfl, List.drop_left.symm⟩
    exact Lexeme.number?_eq_some_iff.mpr ⟨rfl, longest⟩

/-- Where no front matches, a sign at most has been looked at. -/
theorem number_eq_failed
    (missing : ¬∃ front, front <+: characters ∧ front ∈ Expression.number.matches') :
    library.number characters = .failed (unsigned characters) := by
  refine library.number_failed ?_
  by_contra found
  have longest := isLongestMatch_numberSpelling found
  exact missing ⟨_, longest.isPrefix, longest.isMatch⟩

-- An exponent without digits is not part of the number, and a sign without digits is no number.
example : standard.number ".5e+x".toList = .done (.number ".5") "e+x".toList := by cbv

example : standard.nextToken "+.".toList = .done (.operator .plus) ['.'] := by cbv

end ParserLibrary

end TripleStore.Query
