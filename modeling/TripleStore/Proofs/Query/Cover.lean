import TripleStore.Proofs.Query.LongestMatch
import TripleStore.Proofs.Query.Tokens
import TripleStore.Proofs.Text.Utf8

/-!
Contract: the places of tokens in the text that they are cut from.

Owns:
- `Stretch`, the part of a text from one token to the next: a spelling, and then blanks;
- that the tokens of a text are the ends of such stretches, which make up the whole text.

Does not own: what a token is spelled like (`TripleStore.Proofs.Query.Lexeme`), and texts that
cannot be cut into tokens.
-/

namespace TripleStore.Query

open TripleStore.Text (byteLength byteLength_append byteLength_toList isBlank)

/-- The kinds whose spelling ends in a word. -/
def TokenKind.IsWordlike : TokenKind → Prop
  | keyword _ | identifier _ | variableName _ => True
  | _ => False

/-- A token, the spelling that starts at its byte, and blanks up to the byte of the next one. -/
structure Stretch (text : List Char) (token next : Token) where
  front : List Char
  spelling : List Char
  blanks : List Char
  behind : List Char
  whole : text = front ++ spelling ++ blanks ++ behind
  starts : token.offset = byteLength front
  ends : next.offset = byteLength (front ++ spelling ++ blanks)
  ne_nil : spelling ≠ []
  spelled : token.kind.Spelled spelling
  areBlank : AreBlank blanks
  /-- No word goes on behind its spelling. -/
  complete : token.kind.IsWordlike →
    ∀ character ∈ (blanks ++ behind).head?, isWordCharacter character = false

def LeadsTo (text : List Char) (token next : Token) : Prop :=
  Nonempty (Stretch text token next)

variable {offset : Nat} {tokens : List Token} {characters rest : List Char}

/-! ## Words are taken whole -/

theorem IsWord.append_singleton
    {word : List Char}
    (isWord : IsWord word)
    {next : Char}
    (goesOn : isWordCharacter next = true) :
    IsWord (word ++ [next]) := by
  rcases isWord with ⟨first, others, starts, othersGoOn⟩
  refine .letters first (others ++ [next]) starts ?_
  intro character member
  rcases List.mem_append.mp member with inOthers | isNext
  · exact othersGoOn character inOthers
  · rw [List.mem_singleton.mp isNext]
    exact goesOn

/-- A spelling that ends in a word can be lengthened by another character of a word. -/
theorem TokenKind.Spelled.exists_longer
    {kind : TokenKind}
    {spelling : List Char}
    (spelled : kind.Spelled spelling)
    (wordlike : kind.IsWordlike)
    {next : Char}
    (goesOn : isWordCharacter next = true) :
    ∃ longer : TokenKind, longer.Spelled (spelling ++ [next]) := by
  cases spelled with
  | keyword word letters spells => exact (spells.isWord.append_singleton goesOn).exists_spelled
  | identifier name isWord unreserved => exact (isWord.append_singleton goesOn).exists_spelled
  | variableName name isWord => exact ⟨_, .variableName _ (isWord.append_singleton goesOn)⟩
  | _ => exact wordlike.elim

/-- A lexeme that ends in a word has all of the word, or it would not be the longest. -/
theorem Lexeme.complete_of_first?
    {lexeme : Lexeme}
    (found : first? (lexeme.spelling ++ rest) = some lexeme)
    (wordlike : lexeme.kind.IsWordlike) :
    ∀ next ∈ rest.head?, isWordCharacter next = false := by
  intro next isNext
  refine Bool.eq_false_iff.mpr fun goesOn => ?_
  obtain ⟨⟨spelled, _⟩, isLongest⟩ := first?_eq_some_iff.mp found
  obtain ⟨kind, longer⟩ := spelled.exists_longer wordlike goesOn
  cases rest with
  | nil => cases isNext
  | cons first others =>
      obtain rfl : first = next := Option.some.inj isNext
      have atMost := isLongest kind _ longer ⟨others, by simp⟩
      rw [List.length_append, List.length_singleton] at atMost
      omega

/-! ## Stretches -/

/-- The first of the tokens is behind blanks only. -/
def StartsIn (front characters : List Char) (tokens : List Token) : Prop :=
  ∃ first others blanks behind, tokens = first :: others ∧ characters = blanks ++ behind ∧
    AreBlank blanks ∧ first.offset = byteLength (front ++ blanks)

/-- Tokens of characters that stand behind others lead from one to the next. -/
theorem isChain_of_tokensFrom
    (front : List Char)
    (atFront : offset = byteLength front)
    (found : tokensFrom offset characters = .ok tokens) :
    StartsIn front characters tokens ∧ tokens.IsChain (LeadsTo (front ++ characters)) := by
  induction scanned characters generalizing front offset tokens with
  | blanks blanks areBlank =>
      rw [tokensFrom_blanks areBlank, atFront, ← byteLength_append] at found
      cases found
      exact ⟨⟨_, [], blanks, [], rfl, (List.append_nil blanks).symm, areBlank, rfl⟩, .singleton _⟩
  | refusal blanks first rest areBlank visible refused =>
      rw [tokensFrom_refused offset areBlank visible refused] at found
      cases found
  | lexeme blanks lexeme rest areBlank isLexeme _ inductionHypothesis =>
      rw [tokensFrom_lexeme offset areBlank lexeme isLexeme, bind_eq_ok_iff] at found
      obtain ⟨others, othersFound, done⟩ := found
      cases done
      have behindLexeme := inductionHypothesis (front ++ blanks ++ lexeme.spelling)
        (by rw [byteLength_append, byteLength_append, ← atFront]) othersFound
      obtain ⟨⟨next, later, nextBlanks, behind, rfl, rfl, nextBlank, nextOffset⟩, chained⟩ :=
        behindLexeme
      have whole : front ++ blanks ++ lexeme.spelling ++ (nextBlanks ++ behind) =
          front ++ (blanks ++ (lexeme.spelling ++ (nextBlanks ++ behind))) := by
        simp only [List.append_assoc]
      rw [whole] at chained
      have starts : offset + byteLength blanks = byteLength (front ++ blanks) := by
        rw [byteLength_append, ← atFront]
      refine ⟨⟨_, _, blanks, _, rfl, rfl, areBlank, starts⟩, .cons_cons ⟨?_⟩ chained⟩
      exact
        { front := front ++ blanks
          spelling := lexeme.spelling
          blanks := nextBlanks
          behind
          whole := by simp only [List.append_assoc]
          starts
          ends := nextOffset
          ne_nil := lexeme.spelling_ne_nil
          spelled := (Lexeme.fits_of_first? isLexeme).1
          areBlank := nextBlank
          complete := fun wordlike => Lexeme.complete_of_first? isLexeme wordlike }

/-- The end of input is at the end of the text, and no other token is one. -/
theorem LaidOut.exists_last
    {Follows : List Char → Prop}
    (laidOut : LaidOut Follows offset tokens characters) :
    ∃ others, tokens = others ++
        [{ kind := .endOfInput, offset := offset + byteLength characters }] ∧
      ∀ token ∈ others, token.kind ≠ .endOfInput := by
  induction laidOut with
  | finish offset blanks areBlank => exact ⟨[], rfl, by simp⟩
  | token offset blanks kind spelling tokens rest areBlank spelled follows others
      inductionHypothesis =>
      obtain ⟨inner, rfl, noEnd⟩ := inductionHypothesis
      have written : kind ≠ .endOfInput := by
        rintro rfl
        cases spelled
      refine ⟨{ kind, offset := offset + byteLength blanks } :: inner, ?_,
        List.forall_mem_cons.mpr ⟨written, noEnd⟩⟩
      rw [byteLength_append, byteLength_append, List.cons_append]
      simp only [Nat.add_assoc]

/-- The text is made up of blanks, then the spellings of its tokens with blanks behind each. -/
theorem tokenize_covers {text : String} (tokenized : tokenize text = .ok tokens) :
    (∃ others, tokens = others ++ [{ kind := .endOfInput, offset := text.utf8ByteSize }] ∧
        ∀ token ∈ others, token.kind ≠ .endOfInput) ∧
      (∃ first others blanks behind, tokens = first :: others ∧ text.toList = blanks ++ behind ∧
        AreBlank blanks ∧ first.offset = byteLength blanks) ∧
      tokens.IsChain (LeadsTo text.toList) := by
  have chained := isChain_of_tokensFrom [] rfl tokenized
  refine ⟨?_, chained.1, chained.2⟩
  simpa [byteLength_toList] using (laidOut_of_tokensFrom tokenized).exists_last

/-- Characters of several bytes are inside a literal and between tokens. -/
theorem tokenize_covers_wide :
    tokenize "\u3000limit'é'9" = .ok
      [⟨.keyword .LIMIT, 3⟩, ⟨.literal "é", 8⟩, ⟨.number "9", 12⟩, ⟨.endOfInput, 13⟩] ∧
    List.IsChain (LeadsTo "\u3000limit'é'9".toList)
      [⟨.keyword .LIMIT, 3⟩, ⟨.literal "é", 8⟩, ⟨.number "9", 12⟩, ⟨.endOfInput, 13⟩] := by
  have tokenized : tokenize "\u3000limit'é'9" = .ok
      [⟨.keyword .LIMIT, 3⟩, ⟨.literal "é", 8⟩, ⟨.number "9", 12⟩, ⟨.endOfInput, 13⟩] := by
    decide +kernel
  exact ⟨tokenized, (tokenize_covers tokenized).2.2⟩

end TripleStore.Query
