import TripleStore.Proofs.Query.LongestMatch
import TripleStore.Proofs.Query.Tokens
import TripleStore.Proofs.Text.Utf8

/-!
Contract: the texts that cannot be cut into tokens, and the place where each of them fails.

Owns:
- `StartsNoToken`, the three ways in which no token starts at a character, with the words
  that each is told in;
- that a text fails where one of them is met behind a front that can be cut into tokens,
  and nowhere else.

Does not own: faults of the grammar (`TripleStore.Proofs.Query.Prompt`).
-/

namespace TripleStore.Query

open TripleStore.Text (byteLength byteLength_append byteLength_toList eq_of_byteLength_eq isBlank)

/-- The signs that start a token on their own. -/
def tokenSigns : List Char :=
  [',', '.', '*', '{', '}', '(', ')', '<', '>', '-', '+', '/', '%', '=', '|']

/-- No token starts at the characters, and the text says why. -/
inductive StartsNoToken : List Char → String → Prop where
  | namelessVariable
      (rest : List Char)
      (noName : ∀ next ∈ rest.head?, isWordStart next = false) :
      StartsNoToken ('?' :: rest) "expected a variable name after '?'"
  | openLiteral
      (quote : Char)
      (rest : List Char)
      (quotes : isQuote quote = true)
      (unclosed : quote ∉ rest) :
      StartsNoToken (quote :: rest) "unterminated string literal"
  | strangeCharacter
      (first : Char)
      (rest : List Char)
      (visible : isBlank first = false)
      (noWord : isWordCharacter first = false)
      (noMark : first ≠ '?')
      (noQuote : isQuote first = false)
      (noSign : first ∉ tokenSigns)
      (noInequality : ¬(first = '!' ∧ rest.head? = some '=')) :
      StartsNoToken (first :: rest) ("unexpected character '" ++ first.toString ++ "'")

variable {characters rest front : List Char} {first : Char} {offset : Nat}
  {tokens : List Token} {error : ParseError} {message : String}

/-! ## Where no token starts -/

namespace Lexeme

theorem first?_eq_none_of_namelessVariable
    (noName : ∀ next ∈ rest.head?, isWordStart next = false) :
    first? ('?' :: rest) = none := by
  have noWord : wordSpelling rest = [] := by
    cases rest with
    | nil => rfl
    | cons next others => rw [wordSpelling, if_neg (by simp [noName next rfl])]
  have noVariable : variableName? ('?' :: rest) = none := by
    rw [variableName?, noWord]
  have noNumber : number? ('?' :: rest) = none := by
    rw [number?, numberSpelling_eq_nil (by decide)]
  rw [first?, word?_eq_none rfl, noVariable, noNumber]
  rfl

theorem literal?_eq_none
    {quote : Char}
    (unclosed : quote ∉ rest) :
    literal? (quote :: rest) = none := by
  have whole : rest.takeWhile (· != quote) = rest := by
    rw [List.takeWhile_eq_self_iff]
    intro character member
    have different : character ≠ quote := by
      intro same
      exact unclosed (same ▸ member)
    simp [different]
  unfold literal?
  simp [whole]

theorem first?_eq_none_of_openLiteral
    {quote : Char}
    (quotes : isQuote quote = true)
    (unclosed : quote ∉ rest) :
    first? (quote :: rest) = none := by
  have noLiteral := literal?_eq_none unclosed
  rcases isQuote_iff.mp quotes with rfl | rfl
  · have noNumber : number? ('\x27' :: rest) = none := by
      rw [number?, numberSpelling_eq_nil (by decide)]
    rw [first?, word?_eq_none rfl, noLiteral, noNumber]
    rfl
  · have noNumber : number? ('"' :: rest) = none := by
      rw [number?, numberSpelling_eq_nil (by decide)]
    rw [first?, word?_eq_none rfl, noLiteral, noNumber]
    rfl

theorem operator?_eq_none
    (noSign : first ∉ tokenSigns)
    (noInequality : ¬(first = '!' ∧ rest.head? = some '=')) :
    operator? (first :: rest) = none := by
  unfold operator?
  split <;> simp_all [tokenSigns]

theorem punctuation?_eq_none (noSign : first ∉ tokenSigns) :
    punctuation? (first :: rest) = none := by
  unfold punctuation?
  split <;> simp_all [tokenSigns]

theorem first?_eq_none_of_strangeCharacter
    (noWord : isWordCharacter first = false)
    (noMark : first ≠ '?')
    (noQuote : isQuote first = false)
    (noSign : first ∉ tokenSigns)
    (noInequality : ¬(first = '!' ∧ rest.head? = some '=')) :
    first? (first :: rest) = none := by
  have neither : ¬(isWordStart first = true ∨ first.isDigit = true) := by
    rw [← isWordCharacter_iff, noWord]
    exact Bool.false_ne_true
  have noLetter : isWordStart first = false := Bool.eq_false_iff.mpr fun starts =>
    neither (Or.inl starts)
  have noStart : ¬StartsNumber first := by
    intro starts
    rcases starts with isDigit | sign
    · exact neither (Or.inr isDigit)
    · simp only [List.mem_cons, List.not_mem_nil, or_false] at sign
      rcases sign with rfl | rfl | rfl <;> exact noSign (by decide)
  rw [first?_of_mark noLetter noMark noQuote (numberSpelling_eq_nil noStart),
    operator?_eq_none noSign noInequality, punctuation?_eq_none noSign]
  rfl

end Lexeme

/-! ## Why no token starts -/

/-- Nothing is spelled that the characters start with. -/
def Unspelled (characters : List Char) : Prop :=
  ∀ kind : TokenKind, ∀ spelling, kind.Spelled spelling → ¬spelling <+: characters

theorem exists_spelled_of_mem_tokenSigns :
    ∀ sign ∈ tokenSigns, ∃ kind : TokenKind, kind.Spelled [sign] := by
  simp only [tokenSigns, List.forall_mem_cons, List.not_mem_nil, false_imp_iff, implies_true,
    and_true]
  exact ⟨⟨_, .comma⟩, ⟨_, .dot⟩, ⟨_, .star⟩, ⟨_, .leftBrace⟩, ⟨_, .rightBrace⟩,
    ⟨_, .leftParenthesis⟩, ⟨_, .rightParenthesis⟩, ⟨_, .operator .less⟩, ⟨_, .operator .greater⟩,
    ⟨_, .operator .minus⟩, ⟨_, .operator .plus⟩, ⟨_, .operator .slash⟩, ⟨_, .operator .percent⟩,
    ⟨_, .operator .equal⟩, ⟨_, .operator .bar⟩⟩

namespace Unspelled

theorem isWordCharacter_eq_false (unspelled : Unspelled (first :: rest)) :
    isWordCharacter first = false := by
  refine Bool.eq_false_iff.mpr fun inWord => ?_
  have atStart : [first] <+: first :: rest := List.prefix_append [first] rest
  rcases isWordCharacter_iff.mp inWord with starts | isDigit
  · obtain ⟨kind, spelled⟩ := (IsWord.letters first [] starts (by simp)).exists_spelled
    exact unspelled kind _ spelled atStart
  · have mantissa : IsMantissa [first] := isMantissa_digits (by simpa [AreDigits]) (by simp)
    have isNumber : IsNumber [first] := .parts [] [first] [] (Or.inl rfl) mantissa (Or.inl rfl)
    exact unspelled _ _ (.number [first] isNumber) atStart

theorem notMem_tokenSigns (unspelled : Unspelled (first :: rest)) : first ∉ tokenSigns := by
  intro isSign
  obtain ⟨kind, spelled⟩ := exists_spelled_of_mem_tokenSigns first isSign
  exact unspelled kind [first] spelled (List.prefix_append [first] rest)

theorem namelessVariable (unspelled : Unspelled ('?' :: rest)) :
    ∀ next ∈ rest.head?, isWordStart next = false := by
  intro next isNext
  refine Bool.eq_false_iff.mpr fun starts => ?_
  cases rest with
  | nil => cases isNext
  | cons letter others =>
      obtain rfl : letter = next := Option.some.inj isNext
      exact unspelled _ _ (.variableName [letter] (.letters letter [] starts (by simp)))
        (List.prefix_append ['?', letter] others)

theorem openLiteral
    {quote : Char}
    (unspelled : Unspelled (quote :: rest))
    (quotes : isQuote quote = true) :
    quote ∉ rest := by
  intro closed
  obtain ⟨content, others, rfl, absent⟩ := List.eq_append_cons_of_mem closed
  refine unspelled _ _ (.literal content quote quotes absent) ⟨others, ?_⟩
  simp

theorem noInequality (unspelled : Unspelled (first :: rest)) :
    ¬(first = '!' ∧ rest.head? = some '=') := by
  intro both
  cases rest with
  | nil => cases both.2
  | cons next others =>
      obtain ⟨rfl, isEqual⟩ := both
      cases isEqual
      exact unspelled _ _ (.operator .different) (List.prefix_append ['!', '='] others)

/-- No spelling goes on into characters that nothing is spelled with. -/
theorem not_goesOn (unspelled : Unspelled characters) :
    ∀ next ∈ characters.head?, ¬GoesOn next := by
  intro next isNext goesOn
  cases characters with
  | nil => cases isNext
  | cons first rest =>
      obtain rfl : first = next := Option.some.inj isNext
      rcases goesOn with inWord | sign
      · rw [unspelled.isWordCharacter_eq_false] at inWord
        cases inWord
      · have signs : ['.', '+', '-', '=', '>'] ⊆ tokenSigns := by decide
        exact unspelled.notMem_tokenSigns (signs sign)

end Unspelled

theorem message_of_openLiteral (quotes : isQuote first = true) :
    (lexicalCause first).message = "unterminated string literal" := by
  rcases isQuote_iff.mp quotes with rfl | rfl <;> rfl

theorem message_of_strangeCharacter
    (noMark : first ≠ '?')
    (noQuote : isQuote first = false) :
    (lexicalCause first).message = "unexpected character '" ++ first.toString ++ "'" := by
  rw [lexicalCause, if_neg (by simpa using noMark), if_neg (by simp [noQuote])]
  rfl

/-- The words are those that a fault at the first character is told in. -/
theorem startsNoToken_iff :
    StartsNoToken (first :: rest) message ↔
      isBlank first = false ∧ Lexeme.first? (first :: rest) = none ∧
        (lexicalCause first).message = message := by
  constructor
  · intro startsNone
    cases startsNone with
    | namelessVariable _ noName =>
        exact ⟨by decide, Lexeme.first?_eq_none_of_namelessVariable noName, rfl⟩
    | openLiteral _ _ quotes unclosed =>
        refine ⟨?_, Lexeme.first?_eq_none_of_openLiteral quotes unclosed, ?_⟩
        · rcases isQuote_iff.mp quotes with rfl | rfl <;> decide
        · exact message_of_openLiteral quotes
    | strangeCharacter _ _ visible noWord noMark noQuote noSign noInequality =>
        exact ⟨visible,
          Lexeme.first?_eq_none_of_strangeCharacter noWord noMark noQuote noSign noInequality,
          message_of_strangeCharacter noMark noQuote⟩
  · rintro ⟨visible, missing, rfl⟩
    have unspelled : Unspelled (first :: rest) := Lexeme.first?_eq_none_iff.mp missing
    by_cases isMark : first = '?'
    · subst isMark
      exact .namelessVariable rest unspelled.namelessVariable
    · cases quotes : isQuote first with
      | true =>
          rw [message_of_openLiteral quotes]
          exact .openLiteral first rest quotes (unspelled.openLiteral quotes)
      | false =>
          rw [message_of_strangeCharacter isMark quotes]
          exact .strangeCharacter first rest visible unspelled.isWordCharacter_eq_false isMark
            quotes unspelled.notMem_tokenSigns unspelled.noInequality

/-! ## Whole texts -/

theorem bind_eq_error_iff
    {Error First Second : Type}
    {first : Except Error First}
    {next : First → Except Error Second}
    {fault : Error} :
    first >>= next = .error fault ↔
      first = .error fault ∨ ∃ value, first = .ok value ∧ next value = .error fault := by
  cases first with
  | error error => simp [bind, Except.bind]
  | ok value => simp [bind, Except.bind]

/-- What is in front of a fault is cut into tokens. -/
theorem exists_front_of_tokensFrom (failed : tokensFrom offset characters = .error error) :
    ∃ front first rest, characters = front ++ first :: rest ∧
      (∃ tokens, tokensFrom offset front = .ok tokens) ∧ isBlank first = false ∧
        Lexeme.first? (first :: rest) = none ∧
          error = { cause := lexicalCause first, offset := offset + byteLength front } := by
  induction scanned characters generalizing offset with
  | blanks blanks areBlank =>
      rw [tokensFrom_blanks areBlank] at failed
      cases failed
  | refusal blanks first rest areBlank visible refused =>
      rw [tokensFrom_refused offset areBlank visible refused] at failed
      cases failed
      exact ⟨blanks, first, rest, rfl, ⟨_, tokensFrom_blanks areBlank⟩, visible, refused, rfl⟩
  | lexeme blanks lexeme rest areBlank found _ inductionHypothesis =>
      rw [tokensFrom_lexeme offset areBlank lexeme found, bind_eq_error_iff] at failed
      rcases failed with othersFailed | ⟨_, _, done⟩
      · obtain ⟨inner, first, later, rfl, ⟨others, cut⟩, visible, refused, rfl⟩ :=
          inductionHypothesis othersFailed
        -- The lexeme is found as well in the part of the text that is in front of the fault.
        rw [← List.append_assoc] at found
        have inFront := Lexeme.first?_of_isPrefix found (List.prefix_append lexeme.spelling inner)
        have cutFront := tokensFrom_lexeme offset areBlank lexeme inFront
        rw [cut] at cutFront
        refine ⟨blanks ++ (lexeme.spelling ++ inner), first, later, ?_, ⟨_, cutFront⟩, visible,
          refused, ?_⟩
        · simp only [List.append_assoc]
        · rw [byteLength_append, byteLength_append, ← Nat.add_assoc, ← Nat.add_assoc]
      · cases done

/-- A fault behind a front that is cut into tokens is met, and no earlier one. -/
theorem tokensFrom_append_refused
    (cut : tokensFrom offset front = .ok tokens)
    (visible : isBlank first = false)
    (refused : Lexeme.first? (first :: rest) = none) :
    tokensFrom offset (front ++ first :: rest) =
      .error { cause := lexicalCause first, offset := offset + byteLength front } := by
  have unspelled : Unspelled (first :: rest) := Lexeme.first?_eq_none_iff.mp refused
  induction scanned front generalizing offset tokens with
  | blanks blanks areBlank => exact tokensFrom_refused offset areBlank visible refused
  | refusal blanks other later areBlank otherVisible otherRefused =>
      rw [tokensFrom_refused offset areBlank otherVisible otherRefused] at cut
      cases cut
  | lexeme blanks lexeme later areBlank found _ inductionHypothesis =>
      rw [tokensFrom_lexeme offset areBlank lexeme found, bind_eq_ok_iff] at cut
      obtain ⟨others, othersCut, _⟩ := cut
      have stillFound := Lexeme.first?_append found unspelled.not_goesOn
      rw [List.append_assoc] at stillFound
      rw [List.append_assoc, List.append_assoc,
        tokensFrom_lexeme offset areBlank lexeme stillFound, inductionHypothesis othersCut,
        byteLength_append, byteLength_append, ← Nat.add_assoc, ← Nat.add_assoc]
      rfl

/-- A text fails at the end of a front exactly if the front can be cut into tokens and none
starts behind it. The fault is told in the words for what is behind. -/
theorem tokenize_fails_iff (front behind message : String) :
    (∃ cause, tokenize (front ++ behind) = .error { cause, offset := front.utf8ByteSize } ∧
        cause.message = message) ↔
      (∃ tokens, tokenize front = .ok tokens) ∧ StartsNoToken behind.toList message := by
  unfold tokenize
  rw [String.toList_append, ← byteLength_toList]
  constructor
  · intro fails
    obtain ⟨cause, failed, rfl⟩ := fails
    obtain ⟨before, first, rest, whole, cut, visible, refused, isError⟩ :=
      exists_front_of_tokensFrom failed
    rw [ParseError.mk.injEq, Nat.zero_add] at isError
    obtain ⟨isBefore, isRest⟩ := eq_of_byteLength_eq whole isError.2
    rw [isBefore, isRest, isError.1]
    exact ⟨cut, startsNoToken_iff.mpr ⟨visible, refused, rfl⟩⟩
  · intro startsNone
    obtain ⟨⟨tokens, cut⟩, startsNone⟩ := startsNone
    cases characters : behind.toList with
    | nil =>
        rw [characters] at startsNone
        cases startsNone
    | cons first rest =>
        rw [characters] at startsNone
        obtain ⟨visible, refused, told⟩ := startsNoToken_iff.mp startsNone
        have failed := tokensFrom_append_refused cut visible refused
        rw [Nat.zero_add] at failed
        exact ⟨lexicalCause first, failed, told⟩

end TripleStore.Query
