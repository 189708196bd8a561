import Mathlib.Data.List.TakeWhile
import TripleStore.Proofs.Query.LexicalFault

/-!
Contract: tokens taken by parsers that know where they stand.

Owns:
- `Outcome`, the ways in which a parser can end, and `ParserLibrary`, all that is asked of
  parsers and of the ways to put them together;
- a parser for each kind of token, and the choice among them;
- that the choice takes the lexeme which the characters begin with, and consumes nothing where
  there is none;
- where a number is looked for in vain, and how far.

Does not own: what lexemes are spelled like (`TripleStore.Query.Lexer`).

A parser that fails has looked at characters and has not consumed them: whatever is tried in its
place is given the same characters again. Only a parser that cuts stops that, and no parser of a
token does.
-/

namespace TripleStore.Query

variable {α β : Type}

theorem dropWhile_eq_drop (test : Char → Bool) (characters : List Char) :
    characters.dropWhile test = characters.drop (characters.takeWhile test).length := by
  have whole := List.takeWhile_append_dropWhile (p := test) (l := characters)
  calc characters.dropWhile test
      = (characters.takeWhile test ++ characters.dropWhile test).drop
          (characters.takeWhile test).length := List.drop_left.symm
    _ = characters.drop (characters.takeWhile test).length := by rw [whole]

/-! ## Parsers -/

/-- How a parser ends. -/
inductive Outcome (α : Type) where
  /-- The characters before the rest are consumed. -/
  | done (value : α) (rest : List Char)
  /-- Nothing is consumed, and something else may be tried. The place is that of the fault, where
  the parser has stopped. -/
  | failed (place : List Char)
  /-- Nothing else may be tried. -/
  | cut (place : List Char)
deriving DecidableEq, Repr

namespace Outcome

def map (change : α → β) : Outcome α → Outcome β
  | done value rest => done (change value) rest
  | failed place => failed place
  | cut place => cut place

def andThen (outcome : Outcome α) (next : α → List Char → Outcome β) : Outcome β :=
  match outcome with
  | done value rest => next value rest
  | failed place => failed place
  | cut place => cut place

/-- What comes instead of a failure. -/
def orElse (outcome other : Outcome α) : Outcome α :=
  match outcome with
  | failed _ => other
  | ended => ended

end Outcome

abbrev Parser (α : Type) := List Char → Outcome α

/-- The parsers of a library and its ways to put parsers together. A parser that fails stops where
it fails, and `optional` and `either` go back to where they started. -/
structure ParserLibrary where
  chosen : {α : Type} → (Char → Option α) → Parser α
  exactly : List Char → Parser (List Char)
  many : (Char → Bool) → Parser (List Char)
  atLeastOne : (Char → Bool) → Parser (List Char)
  mapped : {α β : Type} → (α → β) → Parser α → Parser β
  pair : {α β : Type} → Parser α → Parser β → Parser (α × β)
  optional : {α : Type} → Parser α → Parser (Option α)
  either : {α : Type} → Parser α → Parser α → Parser α
  taken : {α : Type} → Parser α → Parser (List Char)
  chosen_nil : ∀ {α : Type} (choose : Char → Option α), chosen choose [] = .failed []
  chosen_cons : ∀ {α : Type} (choose : Char → Option α) (first : Char) (rest : List Char),
    chosen choose (first :: rest) =
      (choose first).elim (.failed (first :: rest)) fun value => .done value rest
  exactly_append : ∀ word rest, exactly word (word ++ rest) = .done word rest
  exactly_of_not_prefix : ∀ {word characters},
    ¬word <+: characters → exactly word characters = .failed characters
  many_eq : ∀ test characters,
    many test characters = .done (characters.takeWhile test) (characters.dropWhile test)
  atLeastOne_eq : ∀ test characters,
    atLeastOne test characters =
      if characters.takeWhile test = [] then .failed characters
      else .done (characters.takeWhile test) (characters.dropWhile test)
  mapped_eq : ∀ {α β : Type} (change : α → β) (parser : Parser α) characters,
    mapped change parser characters = (parser characters).map change
  pair_eq : ∀ {α β : Type} (first : Parser α) (second : Parser β) characters,
    pair first second characters =
      (first characters).andThen fun value rest => (second rest).map (value, ·)
  optional_eq : ∀ {α : Type} (parser : Parser α) characters,
    optional parser characters = ((parser characters).map some).orElse (.done none characters)
  either_eq : ∀ {α : Type} (first second : Parser α) characters,
    either first second characters = (first characters).orElse (second characters)
  taken_eq : ∀ {α : Type} (parser : Parser α) characters,
    taken parser characters =
      (parser characters).andThen fun _ rest =>
        .done (characters.take (characters.length - rest.length)) rest

namespace ParserLibrary

/-- Parsers as functions that do what is asked. -/
def standard : ParserLibrary where
  chosen choose
    | [] => .failed []
    | first :: rest => (choose first).elim (.failed (first :: rest)) fun value => .done value rest
  exactly word characters :=
    if word.isPrefixOf characters then .done word (characters.drop word.length)
    else .failed characters
  many test characters := .done (characters.takeWhile test) (characters.dropWhile test)
  atLeastOne test characters :=
    if characters.takeWhile test = [] then .failed characters
    else .done (characters.takeWhile test) (characters.dropWhile test)
  mapped change parser characters := (parser characters).map change
  pair first second characters :=
    (first characters).andThen fun value rest => (second rest).map (value, ·)
  optional parser characters :=
    ((parser characters).map some).orElse (.done none characters)
  either first second characters := (first characters).orElse (second characters)
  taken parser characters :=
    (parser characters).andThen fun _ rest =>
      .done (characters.take (characters.length - rest.length)) rest
  chosen_nil _ := rfl
  chosen_cons _ _ _ := rfl
  exactly_append word rest := by simp
  exactly_of_not_prefix := by
    intro word characters notPrefix
    rw [← List.isPrefixOf_iff_prefix] at notPrefix
    exact if_neg notPrefix
  many_eq _ _ := rfl
  atLeastOne_eq _ _ := rfl
  mapped_eq _ _ _ := rfl
  pair_eq _ _ _ := rfl
  optional_eq _ _ := rfl
  either_eq _ _ _ := rfl
  taken_eq _ _ := rfl

variable (library : ParserLibrary)

/-! ## Parsers of tokens -/

def one (test : Char → Bool) : Parser Char :=
  library.chosen fun character => if test character then some character else none

def digits : Parser (List Char) :=
  library.atLeastOne Char.isDigit

def word : Parser (List Char) :=
  library.taken (library.pair (library.one isWordStart) (library.many isWordCharacter))

def wordKind (spelling : List Char) : TokenKind :=
  match Keyword.ofWord? spelling with
  | some keyword => .keyword keyword
  | none => .identifier (.ofList spelling)

def variableName : Parser TokenKind :=
  library.mapped (fun parts => .variableName (.ofList parts.2))
    (library.pair (library.one (· == '?')) library.word)

def quoted (quote : Char) : Parser TokenKind :=
  library.mapped (fun parts => .literal (.ofList parts.2.1))
    (library.pair (library.one (· == quote))
      (library.pair (library.many (· != quote)) (library.one (· == quote))))

def literal : Parser TokenKind :=
  library.either (library.quoted '\x27') (library.quoted '"')

def sign : Parser (Option Char) :=
  library.optional (library.one fun character => character == '-' || character == '+')

def pointed : Parser Unit :=
  library.mapped (fun _ => ())
    (library.pair (library.many Char.isDigit)
      (library.pair (library.one (· == '.')) library.digits))

def mantissa : Parser Unit :=
  library.either library.pointed (library.mapped (fun _ => ()) library.digits)

def exponent : Parser (Option (Char × Option Char × List Char)) :=
  library.optional
    (library.pair (library.one fun character => character == 'e' || character == 'E')
      (library.pair library.sign library.digits))

def number : Parser TokenKind :=
  library.mapped (fun spelling => .number (.ofList spelling))
    (library.taken (library.pair library.sign (library.pair library.mantissa library.exponent)))

def longOperator (sign : Operator) (spelling : List Char) : Parser TokenKind :=
  library.mapped (fun _ => .operator sign) (library.exactly spelling)

def shortOperator? : Char → Option TokenKind
  | '<' => some (.operator .less)
  | '>' => some (.operator .greater)
  | '-' => some (.operator .minus)
  | '+' => some (.operator .plus)
  | '/' => some (.operator .slash)
  | '%' => some (.operator .percent)
  | '=' => some (.operator .equal)
  | '|' => some (.operator .bar)
  | _ => none

def operator : Parser TokenKind :=
  library.either (library.longOperator .unequal ['<', '>'])
    (library.either (library.longOperator .atMost ['<', '='])
      (library.either (library.longOperator .atLeast ['>', '='])
        (library.either (library.longOperator .different ['!', '='])
          (library.chosen shortOperator?))))

def punctuation? : Char → Option TokenKind
  | ',' => some .comma
  | '.' => some .dot
  | '*' => some .star
  | '{' => some .leftBrace
  | '}' => some .rightBrace
  | '(' => some .leftParenthesis
  | ')' => some .rightParenthesis
  | _ => none

/-- A number is tried before operators and punctuation. -/
def nextToken : Parser TokenKind :=
  library.either (library.mapped wordKind library.word)
    (library.either library.variableName
      (library.either library.literal
        (library.either library.number
          (library.either library.operator (library.chosen punctuation?)))))

/-! ## Single steps -/

variable {test : Char → Bool} {first : Char} {characters rest : List Char}

theorem one_cons (passes : test first = true) :
    library.one test (first :: rest) = .done first rest := by
  rw [one, library.chosen_cons, if_pos passes]
  rfl

theorem one_self (character : Char) (rest : List Char) :
    library.one (· == character) (character :: rest) = .done character rest :=
  library.one_cons (beq_self_eq_true character)

theorem one_failed (refused : ∀ first ∈ characters.head?, test first = false) :
    library.one test characters = .failed characters := by
  cases characters with
  | nil => exact library.chosen_nil _
  | cons first rest =>
      have notPassed : ¬test first = true := by simp [refused first rfl]
      rw [one, library.chosen_cons, if_neg notPassed]
      rfl

theorem digits_failed (missing : digitSpelling characters = []) :
    library.digits characters = .failed characters := by
  rw [digits, library.atLeastOne_eq]
  exact if_pos missing

theorem digits_done (found : digitSpelling characters ≠ []) :
    library.digits characters =
      .done (digitSpelling characters) (characters.drop (digitSpelling characters).length) := by
  rw [digits, library.atLeastOne_eq, dropWhile_eq_drop]
  exact if_neg found

/-- What is taken is the front that the parser goes past. -/
theorem taken_done
    {parser : Parser α}
    {front : List Char}
    {value : α}
    (atStart : front <+: characters)
    (takes : parser characters = .done value (characters.drop front.length)) :
    library.taken parser characters = .done front (characters.drop front.length) := by
  obtain ⟨rest, rfl⟩ := atStart
  have length : (front ++ rest).length - rest.length = front.length := by simp
  rw [library.taken_eq, takes, Outcome.andThen, List.drop_left, length, List.take_left]

theorem taken_failed
    {parser : Parser α}
    {place : List Char}
    (fails : parser characters = .failed place) :
    library.taken parser characters = .failed place := by
  rw [library.taken_eq, fails, Outcome.andThen]

theorem optional_of_failed
    {parser : Parser α}
    {place : List Char}
    (fails : parser characters = .failed place) :
    library.optional parser characters = .done none characters := by
  rw [library.optional_eq, fails]
  rfl

theorem either_of_failed
    {first second : Parser α}
    {place : List Char}
    (fails : first characters = .failed place) :
    library.either first second characters = second characters := by
  rw [library.either_eq, fails]
  rfl

/-! ## Numbers -/

theorem sign_done (characters : List Char) :
    ∃ value, library.sign characters = .done value (unsigned characters) := by
  rw [sign, library.optional_eq]
  cases characters with
  | nil =>
      rw [library.one_failed (by simp)]
      exact ⟨none, rfl⟩
  | cons first rest =>
      by_cases isSign : (first == '-' || first == '+') = true
      · rw [library.one_cons isSign, unsigned, signSpelling, if_pos isSign]
        exact ⟨some first, rfl⟩
      · rw [library.one_failed (by simpa using isSign), unsigned, signSpelling, if_neg isSign]
        exact ⟨none, rfl⟩

theorem pointed_done
    {others : List Char}
    (point : characters.drop (digitSpelling characters).length = '.' :: others)
    (someDigit : digitSpelling others ≠ []) :
    library.pointed characters = .done () (others.drop (digitSpelling others).length) := by
  rw [digitSpelling] at point
  rw [pointed, library.mapped_eq, library.pair_eq, library.many_eq, dropWhile_eq_drop, point]
  simp only [Outcome.andThen, library.pair_eq, library.one_self, library.digits_done someDigit,
    Outcome.map]

theorem pointed_failed
    (missing : ∀ others, characters.drop (digitSpelling characters).length = '.' :: others →
      digitSpelling others = []) :
    ∃ place, library.pointed characters = .failed place := by
  rw [digitSpelling] at missing
  rw [pointed, library.mapped_eq, library.pair_eq, library.many_eq, dropWhile_eq_drop]
  cases behind : characters.drop (characters.takeWhile Char.isDigit).length with
  | nil =>
      have noPoint : library.one (· == '.') [] = .failed [] := library.one_failed (by simp)
      simp only [Outcome.andThen, library.pair_eq, noPoint, Outcome.map]
      exact ⟨_, rfl⟩
  | cons first others =>
      by_cases isPoint : first = '.'
      · subst isPoint
        have noDigit := library.digits_failed (missing others behind)
        simp only [Outcome.andThen, library.pair_eq, library.one_self, noDigit, Outcome.map]
        exact ⟨_, rfl⟩
      · have noPoint : library.one (· == '.') (first :: others) = .failed (first :: others) :=
          library.one_failed (by simpa using isPoint)
        simp only [Outcome.andThen, library.pair_eq, noPoint, Outcome.map]
        exact ⟨_, rfl⟩

theorem mantissa_of_pointed_failed
    (missing : ∀ others, characters.drop (digitSpelling characters).length = '.' :: others →
      digitSpelling others = []) :
    library.mantissa characters = (library.digits characters).map fun _ => () := by
  obtain ⟨place, fails⟩ := library.pointed_failed missing
  rw [mantissa, library.either_of_failed fails, library.mapped_eq]

/-- A mantissa is taken with its point, or it is the digits at the start. -/
theorem mantissa_cases (characters : List Char) :
    (mantissaSpelling characters = digitSpelling characters ∧
        library.mantissa characters = (library.digits characters).map fun _ => ()) ∨
      (mantissaSpelling characters ≠ [] ∧
        library.mantissa characters =
          .done () (characters.drop (mantissaSpelling characters).length)) := by
  unfold mantissaSpelling
  dsimp only
  split
  · next others behind =>
      split
      · next noDigit =>
          refine Or.inl ⟨rfl, library.mantissa_of_pointed_failed ?_⟩
          intro rest point
          rw [behind] at point
          cases point
          exact noDigit
      · next someDigit =>
          refine Or.inr ⟨by simp, ?_⟩
          have dropped : characters.drop
              (digitSpelling characters ++ '.' :: digitSpelling others).length =
                others.drop (digitSpelling others).length := by
            rw [List.length_append, ← List.drop_drop, behind, List.length_cons, List.drop_succ_cons]
          rw [mantissa, library.either_eq, library.pointed_done behind someDigit, dropped]
          rfl
  · next noPoint =>
      refine Or.inl ⟨rfl, library.mantissa_of_pointed_failed ?_⟩
      intro others point
      exact absurd point (noPoint others)

theorem mantissa_done (found : mantissaSpelling characters ≠ []) :
    library.mantissa characters =
      .done () (characters.drop (mantissaSpelling characters).length) := by
  rcases library.mantissa_cases characters with ⟨areDigits, asDigits⟩ | ⟨_, pointed⟩
  · rw [areDigits] at found ⊢
    rw [asDigits, library.digits_done found]
    rfl
  · exact pointed

theorem mantissa_failed (missing : mantissaSpelling characters = []) :
    library.mantissa characters = .failed characters := by
  rcases library.mantissa_cases characters with ⟨areDigits, asDigits⟩ | ⟨found, _⟩
  · rw [missing] at areDigits
    rw [asDigits, library.digits_failed areDigits.symm]
    rfl
  · exact absurd missing found

theorem exponent_done (characters : List Char) :
    ∃ value, library.exponent characters =
      .done value (characters.drop (exponentSpelling characters).length) := by
  rw [exponent, library.optional_eq, library.pair_eq]
  cases characters with
  | nil =>
      rw [library.one_failed (by simp)]
      exact ⟨none, rfl⟩
  | cons first rest =>
      by_cases isMark : (first == 'e' || first == 'E') = true
      · obtain ⟨value, signTaken⟩ := library.sign_done rest
        rw [unsigned] at signTaken
        rw [library.one_cons isMark, exponentSpelling, if_pos isMark]
        dsimp only [Outcome.andThen]
        rw [library.pair_eq, signTaken, Outcome.andThen]
        split
        · next noDigit =>
            rw [library.digits_failed noDigit]
            exact ⟨none, rfl⟩
        · next someDigit =>
            rw [library.digits_done someDigit, List.drop_drop, List.length_cons,
              List.drop_succ_cons, List.length_append]
            exact ⟨_, rfl⟩
      · rw [library.one_failed (by simpa using isMark), exponentSpelling, if_neg isMark]
        exact ⟨none, rfl⟩

/-- A number is taken whole and kept as it is written. -/
theorem number_done (found : numberSpelling characters ≠ []) :
    library.number characters =
      .done (.number (.ofList (numberSpelling characters)))
        (characters.drop (numberSpelling characters).length) := by
  have someMantissa : mantissaSpelling (unsigned characters) ≠ [] := by
    intro missing
    exact found (numberSpelling_of_no_mantissa missing)
  obtain ⟨signValue, signTaken⟩ := library.sign_done characters
  obtain ⟨exponentValue, exponentTaken⟩ := library.exponent_done
    ((unsigned characters).drop (mantissaSpelling (unsigned characters)).length)
  have takes : library.pair library.sign (library.pair library.mantissa library.exponent)
      characters = .done (signValue, (), exponentValue)
        (characters.drop (numberSpelling characters).length) := by
    rw [library.pair_eq, signTaken, Outcome.andThen, library.pair_eq,
      library.mantissa_done someMantissa, Outcome.andThen, exponentTaken,
      numberSpelling_of_mantissa someMantissa, List.length_append, List.length_append,
      ← List.drop_drop, ← List.drop_drop]
    rfl
  rw [number, library.mapped_eq, library.taken_done (isNumber_numberSpelling found).2 takes]
  rfl

/-- Where no number is, the parser has looked at a sign at most. -/
theorem number_failed (missing : numberSpelling characters = []) :
    library.number characters = .failed (unsigned characters) := by
  obtain ⟨value, signTaken⟩ := library.sign_done characters
  have noMantissa : mantissaSpelling (unsigned characters) = [] := by
    by_contra found
    rw [numberSpelling_of_mantissa found] at missing
    have parts := (List.append_eq_nil_iff.mp missing).1
    exact found (List.append_eq_nil_iff.mp parts).2
  have fails : library.pair library.sign (library.pair library.mantissa library.exponent)
      characters = .failed (unsigned characters) := by
    rw [library.pair_eq, signTaken, Outcome.andThen, library.pair_eq,
      library.mantissa_failed noMantissa]
    rfl
  rw [number, library.mapped_eq, library.taken_failed fails]
  rfl

/-! ## The other kinds of tokens -/

theorem word_done (found : wordSpelling characters ≠ []) :
    library.word characters =
      .done (wordSpelling characters) (characters.drop (wordSpelling characters).length) := by
  cases characters with
  | nil => exact absurd rfl found
  | cons first rest =>
      by_cases starts : isWordStart first = true
      · have spelled : wordSpelling (first :: rest) = first :: rest.takeWhile isWordCharacter :=
          if_pos starts
        have atStart : first :: rest.takeWhile isWordCharacter <+: first :: rest := by
          rw [List.cons_prefix_cons]
          exact ⟨rfl, List.takeWhile_prefix _⟩
        have takes : library.pair (library.one isWordStart) (library.many isWordCharacter)
            (first :: rest) =
              .done (first, rest.takeWhile isWordCharacter)
                ((first :: rest).drop (first :: rest.takeWhile isWordCharacter).length) := by
          rw [library.pair_eq, library.one_cons starts, Outcome.andThen, library.many_eq,
            dropWhile_eq_drop]
          rfl
        rw [spelled]
        exact library.taken_done atStart takes
      · exact absurd (if_neg starts) found

theorem word_failed (missing : wordSpelling characters = []) :
    ∃ place, library.word characters = .failed place := by
  have noStart : ∀ first ∈ characters.head?, isWordStart first = false := by
    intro first atStart
    cases characters with
    | nil => cases atStart
    | cons head rest =>
        cases atStart
        by_contra starts
        rw [Bool.not_eq_false] at starts
        rw [wordSpelling, if_pos starts] at missing
        cases missing
  refine ⟨characters, library.taken_failed ?_⟩
  rw [library.pair_eq, library.one_failed noStart]
  rfl

theorem quoted_failed
    {quote : Char}
    (missing : ∀ first ∈ characters.head?, first ≠ quote) :
    library.quoted quote characters = .failed characters := by
  have refused : ∀ first ∈ characters.head?, (first == quote) = false := by simpa using missing
  rw [quoted, library.mapped_eq, library.pair_eq, library.one_failed refused]
  rfl

/-- A literal is closed by the next quote of its own kind, or not at all. -/
theorem quoted_cons (quote : Char) (rest : List Char) :
    (quote ∉ rest ∧ library.quoted quote (quote :: rest) = .failed []) ∨
      ∃ content others, rest = content ++ quote :: others ∧ quote ∉ content ∧
        library.quoted quote (quote :: rest) = .done (.literal (.ofList content)) others := by
  rw [quoted, library.mapped_eq, library.pair_eq, library.one_self, Outcome.andThen,
    library.pair_eq, library.many_eq]
  by_cases member : quote ∈ rest
  · obtain ⟨content, others, rfl, absent⟩ := List.eq_append_cons_of_mem member
    have found : (content ++ quote :: others).takeWhile (· != quote) = content :=
      Lexeme.takeWhile_content absent
    refine Or.inr ⟨content, others, rfl, absent, ?_⟩
    rw [dropWhile_eq_drop, found, List.drop_left, Outcome.andThen, library.one_self]
    rfl
  · have passed : ∀ character ∈ rest, (character != quote) = true := by
      intro character inRest
      have different : character ≠ quote := by
        rintro rfl
        exact member inRest
      simp [different]
    have nothingBehind : library.one (· == quote) [] = .failed [] := library.one_failed (by simp)
    refine Or.inl ⟨member, ?_⟩
    rw [List.dropWhile_eq_nil_iff.mpr passed, Outcome.andThen, nothingBehind]
    rfl

theorem longOperator_done (sign : Operator) (spelling rest : List Char) :
    library.longOperator sign spelling (spelling ++ rest) = .done (.operator sign) rest := by
  rw [longOperator, library.mapped_eq, library.exactly_append]
  rfl

theorem longOperator_failed
    {spelling : List Char}
    (sign : Operator)
    (missing : ¬spelling <+: characters) :
    library.longOperator sign spelling characters = .failed characters := by
  rw [longOperator, library.mapped_eq, library.exactly_of_not_prefix missing]
  rfl

/-! ## The lexeme at the start -/

/-- The lexeme is taken off the characters, or nothing is consumed if there is none. -/
def Follows (outcome : Outcome TokenKind) (characters : List Char) : Option Lexeme → Prop
  | some lexeme => outcome = .done lexeme.kind (characters.drop lexeme.spelling.length)
  | none => ∃ place, outcome = .failed place

/-- The parser takes the lexeme that is read at the start of the characters. -/
def Agrees (parser : Parser TokenKind) (read : List Char → Option Lexeme) : Prop :=
  ∀ characters, Follows (parser characters) characters (read characters)

/-- Something is consumed exactly if there is a lexeme, which is then what is consumed. -/
theorem Follows.eq_done_iff
    {outcome : Outcome TokenKind}
    {found : Option Lexeme}
    {kind : TokenKind}
    (follows : Follows outcome characters found) :
    outcome = .done kind rest ↔
      ∃ lexeme, found = some lexeme ∧ kind = lexeme.kind ∧
        rest = characters.drop lexeme.spelling.length := by
  cases found with
  | some lexeme =>
      rw [Follows] at follows
      simp [follows, eq_comm]
  | none =>
      obtain ⟨place, rfl⟩ := follows
      simp

theorem Follows.orElse
    {outcome other : Outcome TokenKind}
    {found otherFound : Option Lexeme}
    (ofFirst : Follows outcome characters found)
    (ofOther : Follows other characters otherFound) :
    Follows (outcome.orElse other) characters (found <|> otherFound) := by
  cases found with
  | some lexeme =>
      rw [Follows] at ofFirst
      rw [ofFirst]
      exact rfl
  | none =>
      obtain ⟨place, rfl⟩ := ofFirst
      exact ofOther

theorem Agrees.either
    {first second : Parser TokenKind}
    {readFirst readSecond : List Char → Option Lexeme}
    (agreesFirst : Agrees first readFirst)
    (agreesSecond : Agrees second readSecond) :
    Agrees (library.either first second) fun characters =>
      readFirst characters <|> readSecond characters := by
  intro characters
  rw [library.either_eq]
  exact (agreesFirst characters).orElse (agreesSecond characters)

theorem agrees_word : Agrees (library.mapped wordKind library.word) Lexeme.word? := by
  intro characters
  rw [library.mapped_eq]
  cases spelled : wordSpelling characters with
  | nil =>
      obtain ⟨place, fails⟩ := library.word_failed spelled
      rw [Lexeme.word?, spelled, fails]
      exact ⟨place, rfl⟩
  | cons first rest =>
      have taken := library.word_done (spelled ▸ List.cons_ne_nil first rest)
      rw [taken, spelled, Lexeme.word?, spelled]
      dsimp only [Outcome.map, wordKind]
      cases Keyword.ofWord? (first :: rest) <;> rfl

theorem agrees_variableName : Agrees library.variableName Lexeme.variableName? := by
  intro characters
  rw [variableName, library.mapped_eq, library.pair_eq]
  cases characters with
  | nil =>
      rw [library.one_failed (by simp)]
      exact ⟨[], rfl⟩
  | cons first rest =>
      by_cases isMark : first = '?'
      · subst isMark
        rw [library.one_self, Outcome.andThen, Lexeme.variableName?]
        cases spelled : wordSpelling rest with
        | nil =>
            obtain ⟨place, fails⟩ := library.word_failed spelled
            rw [fails]
            exact ⟨place, rfl⟩
        | cons letter others =>
            have taken := library.word_done (spelled ▸ List.cons_ne_nil letter others)
            rw [taken, spelled]
            rfl
      · have missing : Lexeme.variableName? (first :: rest) = none := by
          unfold Lexeme.variableName?
          split
          · next same =>
              cases same
              exact absurd rfl isMark
          · rfl
        rw [missing, library.one_failed (by simpa using isMark)]
        exact ⟨first :: rest, rfl⟩

theorem follows_quoted
    {quote : Char}
    (quotes : isQuote quote = true)
    (rest : List Char) :
    Follows (library.quoted quote (quote :: rest)) (quote :: rest)
      (Lexeme.literal? (quote :: rest)) := by
  rcases library.quoted_cons quote rest with
    ⟨unclosed, fails⟩ | ⟨content, others, rfl, absent, takes⟩
  · rw [Lexeme.literal?_eq_none unclosed]
    exact ⟨[], fails⟩
  · have behind : (quote :: (content ++ quote :: others)).drop
        (quote :: (content ++ [quote])).length = others := by
      have whole :
          quote :: (content ++ quote :: others) = quote :: (content ++ [quote]) ++ others := by
        simp
      rw [whole, List.drop_left]
    rw [Lexeme.literal?_eq_some quotes absent, Follows, behind]
    exact takes

theorem agrees_literal : Agrees library.literal Lexeme.literal? := by
  intro characters
  rw [literal, library.either_eq]
  cases characters with
  | nil =>
      rw [library.quoted_failed (by simp), library.quoted_failed (by simp)]
      exact ⟨[], rfl⟩
  | cons first rest =>
      by_cases single : first = '\x27'
      · subst single
        have noDouble : Follows (library.quoted '"' ('\x27' :: rest)) ('\x27' :: rest) none :=
          ⟨_, library.quoted_failed (by simp)⟩
        have either := (library.follows_quoted rfl rest).orElse noDouble
        simpa using either
      rw [library.quoted_failed (by simpa using single), Outcome.orElse]
      by_cases double : first = '"'
      · subst double
        exact library.follows_quoted rfl rest
      · have noQuote : isQuote first = false := by simp [isQuote, single, double]
        have missing : Lexeme.literal? (first :: rest) = none := by simp [Lexeme.literal?, noQuote]
        rw [missing, library.quoted_failed (by simpa using double)]
        exact ⟨first :: rest, rfl⟩

theorem agrees_number : Agrees library.number Lexeme.number? := by
  intro characters
  cases spelled : numberSpelling characters with
  | nil =>
      rw [Lexeme.number?, spelled, library.number_failed spelled]
      exact ⟨_, rfl⟩
  | cons first rest =>
      have taken := library.number_done (spelled ▸ List.cons_ne_nil first rest)
      rw [taken, spelled, Lexeme.number?, spelled]
      rfl

theorem agrees_operator : Agrees library.operator Lexeme.operator? := by
  intro characters
  rw [operator, library.either_eq]
  by_cases unequal : ['<', '>'] <+: characters
  · obtain ⟨rest, rfl⟩ := unequal
    rw [library.longOperator_done]
    rfl
  rw [library.longOperator_failed _ unequal, Outcome.orElse, library.either_eq]
  by_cases atMost : ['<', '='] <+: characters
  · obtain ⟨rest, rfl⟩ := atMost
    rw [library.longOperator_done]
    rfl
  rw [library.longOperator_failed _ atMost, Outcome.orElse, library.either_eq]
  by_cases atLeast : ['>', '='] <+: characters
  · obtain ⟨rest, rfl⟩ := atLeast
    rw [library.longOperator_done]
    rfl
  rw [library.longOperator_failed _ atLeast, Outcome.orElse, library.either_eq]
  by_cases different : ['!', '='] <+: characters
  · obtain ⟨rest, rfl⟩ := different
    rw [library.longOperator_done]
    rfl
  rw [library.longOperator_failed _ different, Outcome.orElse]
  cases characters with
  | nil =>
      rw [library.chosen_nil]
      exact ⟨[], rfl⟩
  | cons first rest =>
      rw [library.chosen_cons]
      unfold Lexeme.operator?
      split
      case h_13 less greater minus plus slash percent equal bar =>
        have missing : shortOperator? first = none := by
          unfold shortOperator?
          split
          · exact (less rest rfl).elim
          · exact (greater rest rfl).elim
          · exact (minus rest rfl).elim
          · exact (plus rest rfl).elim
          · exact (slash rest rfl).elim
          · exact (percent rest rfl).elim
          · exact (equal rest rfl).elim
          · exact (bar rest rfl).elim
          · rfl
        rw [missing]
        exact ⟨first :: rest, rfl⟩
      · next same =>
          cases same
          exact absurd (List.prefix_append ['<', '>'] _) unequal
      · next same =>
          cases same
          exact absurd (List.prefix_append ['<', '='] _) atMost
      · next same =>
          cases same
          exact absurd (List.prefix_append ['>', '='] _) atLeast
      · next same =>
          cases same
          exact absurd (List.prefix_append ['!', '='] _) different
      all_goals
        next same =>
          cases same
          rfl

theorem agrees_punctuation : Agrees (library.chosen punctuation?) Lexeme.punctuation? := by
  intro characters
  cases characters with
  | nil =>
      rw [library.chosen_nil]
      exact ⟨[], rfl⟩
  | cons first rest =>
      rw [library.chosen_cons]
      unfold Lexeme.punctuation?
      split
      case h_8 comma dot star leftBrace rightBrace leftParenthesis rightParenthesis =>
        have missing : punctuation? first = none := by
          unfold punctuation?
          split
          · exact (comma rest rfl).elim
          · exact (dot rest rfl).elim
          · exact (star rest rfl).elim
          · exact (leftBrace rest rfl).elim
          · exact (rightBrace rest rfl).elim
          · exact (leftParenthesis rest rfl).elim
          · exact (rightParenthesis rest rfl).elim
          · rfl
        rw [missing]
        exact ⟨first :: rest, rfl⟩
      all_goals
        next same =>
          cases same
          rfl

/-- The choice among the parsers takes the lexeme that the characters begin with. -/
theorem agrees_nextToken : Agrees library.nextToken Lexeme.first? :=
  .either library library.agrees_word
    (.either library library.agrees_variableName
      (.either library library.agrees_literal
        (.either library library.agrees_number
          (.either library library.agrees_operator library.agrees_punctuation))))

end ParserLibrary

end TripleStore.Query
