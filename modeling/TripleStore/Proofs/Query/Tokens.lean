import TripleStore.Proofs.Query.Lexeme

/-!
Contract: the tokens of a whole text, and the texts that tokens are written as.

Owns:
- `LaidOut`, by which each token of a text is spelled at its place and all else is blank;
- that the tokens which a text is cut into are laid out in it;
- that tokens with a blank between any two of them are what the text is cut into.

Does not own: what a kind of token is spelled like (`TripleStore.Proofs.Query.Lexeme`), and
what tokens mean (`TripleStore.Proofs.Query.Grammar`).
-/

namespace TripleStore.Query

open TripleStore.Text (byteLength isBlank)

def AreBlank (text : List Char) : Prop :=
  ∀ character ∈ text, isBlank character = true

instance (text : List Char) : Decidable (AreBlank text) :=
  decidable_of_iff (text.all isBlank = true) List.all_eq_true

/-- The tokens are spelled in the characters, the first of which is at byte `offset`. Blanks
may come before any token, and `Follows` says what may come right behind a spelling. -/
inductive LaidOut (Follows : List Char → Prop) : Nat → List Token → List Char → Prop where
  | finish
      (offset : Nat)
      (blanks : List Char)
      (areBlank : AreBlank blanks) :
      LaidOut Follows offset [{ kind := .endOfInput, offset := offset + byteLength blanks }] blanks
  | token
      (offset : Nat)
      (blanks : List Char)
      (kind : TokenKind)
      (spelling : List Char)
      (tokens : List Token)
      (rest : List Char)
      (areBlank : AreBlank blanks)
      (spelled : kind.Spelled spelling)
      (follows : Follows rest)
      (others : LaidOut Follows (offset + byteLength blanks + byteLength spelling) tokens rest) :
      LaidOut Follows offset ({ kind, offset := offset + byteLength blanks } :: tokens)
        (blanks ++ spelling ++ rest)

theorem bind_eq_ok_iff
    {Error First Second : Type}
    {first : Except Error First}
    {next : First → Except Error Second}
    {result : Second} :
    first >>= next = .ok result ↔ ∃ value, first = .ok value ∧ next value = .ok result := by
  cases first with
  | error error => simp [bind, Except.bind]
  | ok value => simp [bind, Except.bind]

variable {Follows : List Char → Prop} {offset : Nat} {tokens : List Token}
  {characters : List Char}

/-! ## One token at a time -/

theorem takeWhile_blanks
    {blanks rest : List Char}
    (areBlank : AreBlank blanks)
    (visible : ∀ first ∈ rest.head?, isBlank first = false) :
    (blanks ++ rest).takeWhile isBlank = blanks ∧ (blanks ++ rest).dropWhile isBlank = rest := by
  have noMore : rest.takeWhile isBlank = [] ∧ rest.dropWhile isBlank = rest := by
    cases rest with
    | nil => exact ⟨rfl, rfl⟩
    | cons first others => simp [visible first rfl]
  rw [List.takeWhile_append_of_pos areBlank, List.dropWhile_append_of_pos areBlank, noMore.1,
    noMore.2, List.append_nil]
  exact ⟨rfl, rfl⟩

theorem tokensFrom_blanks (areBlank : AreBlank characters) :
    tokensFrom offset characters =
      .ok [{ kind := .endOfInput, offset := offset + byteLength characters }] := by
  have skipped := takeWhile_blanks areBlank (by simp : ∀ first ∈ [].head?, isBlank first = false)
  rw [List.append_nil] at skipped
  unfold tokensFrom
  split
  · rw [skipped.1]
  · next first others behind => simp [skipped.2] at behind

/-- Behind a lexeme the tokens go on with those of the rest. -/
theorem tokensFrom_lexeme
    (offset : Nat)
    {blanks rest : List Char}
    (areBlank : AreBlank blanks)
    (lexeme : Lexeme)
    (found : Lexeme.first? (lexeme.spelling ++ rest) = some lexeme) :
    tokensFrom offset (blanks ++ (lexeme.spelling ++ rest)) = do
      let tokens ← tokensFrom (offset + byteLength blanks + byteLength lexeme.spelling) rest
      return { kind := lexeme.kind, offset := offset + byteLength blanks } :: tokens := by
  have visible : ∀ first ∈ (lexeme.spelling ++ rest).head?, isBlank first = false := by
    rw [List.head?_append_of_ne_nil _ lexeme.spelling_ne_nil]
    exact (Lexeme.fits_of_first? found).1.isBlank_head
  have skipped := takeWhile_blanks areBlank visible
  rw [tokensFrom]
  split
  · next nothing =>
      rw [skipped.2, List.append_eq_nil_iff] at nothing
      exact absurd nothing.1 lexeme.spelling_ne_nil
  · next first others behind =>
      rw [skipped.2] at behind
      rw [← behind]
      simp only [found, skipped.1, List.drop_left]

/-- A text fails at the first character behind blanks that starts no token. -/
theorem tokensFrom_refused
    (offset : Nat)
    {blanks rest : List Char}
    {first : Char}
    (areBlank : AreBlank blanks)
    (visible : isBlank first = false)
    (refused : Lexeme.first? (first :: rest) = none) :
    tokensFrom offset (blanks ++ first :: rest) =
      .error { cause := lexicalCause first, offset := offset + byteLength blanks } := by
  have skipped := takeWhile_blanks areBlank (by simpa using visible :
    ∀ next ∈ (first :: rest).head?, isBlank next = false)
  rw [tokensFrom]
  split
  · next nothing =>
      rw [skipped.2] at nothing
      cases nothing
  · next next others behind =>
      rw [skipped.2] at behind
      cases behind
      simp only [refused, skipped.1]

theorem areBlank_takeWhile (characters : List Char) : AreBlank (characters.takeWhile isBlank) :=
  List.all_eq_true.mp List.all_takeWhile

/-- What is met in a text from its start on: lexemes, each behind blanks, and then nothing but
blanks or a character that starts no token. -/
inductive Scanned : List Char → Prop where
  | blanks
      (blanks : List Char)
      (areBlank : AreBlank blanks) :
      Scanned blanks
  | refusal
      (blanks : List Char)
      (first : Char)
      (rest : List Char)
      (areBlank : AreBlank blanks)
      (visible : isBlank first = false)
      (refused : Lexeme.first? (first :: rest) = none) :
      Scanned (blanks ++ first :: rest)
  | lexeme
      (blanks : List Char)
      (lexeme : Lexeme)
      (rest : List Char)
      (areBlank : AreBlank blanks)
      (found : Lexeme.first? (lexeme.spelling ++ rest) = some lexeme)
      (others : Scanned rest) :
      Scanned (blanks ++ (lexeme.spelling ++ rest))

/-- Every text is met so, and statements about its tokens are proved by induction on that. -/
theorem scanned (characters : List Char) : Scanned characters := by
  have areBlank := areBlank_takeWhile characters
  have split := List.takeWhile_append_dropWhile (p := isBlank) (l := characters)
  fun_induction tokensFrom 0 characters with
  | case1 =>
      rename_i nothing
      rw [nothing, List.append_nil] at split
      rw [split] at areBlank
      exact .blanks _ areBlank
  | case2 offset characters start first rest behind refused =>
      have visible := List.head?_dropWhile_not isBlank characters
      rw [behind] at split visible
      rw [← split]
      exact .refusal _ first rest areBlank (by simpa using visible) refused
  | case3 offset characters start first rest behind lexeme found =>
      rename_i inductionHypothesis
      obtain ⟨_, remaining, lexemeFirst⟩ := Lexeme.fits_of_first? found
      rw [behind, ← lexemeFirst] at split
      rw [← lexemeFirst] at found
      rw [← lexemeFirst, List.drop_left] at inductionHypothesis
      rw [← split]
      exact .lexeme _ lexeme remaining areBlank found
        (inductionHypothesis (areBlank_takeWhile remaining) List.takeWhile_append_dropWhile)

/-! ## Whole texts -/

/-- The tokens that a text is cut into are laid out in it. -/
theorem laidOut_of_tokensFrom (found : tokensFrom offset characters = .ok tokens) :
    LaidOut (fun _ => True) offset tokens characters := by
  induction scanned characters generalizing offset tokens with
  | blanks blanks areBlank =>
      rw [tokensFrom_blanks areBlank] at found
      cases found
      exact .finish offset blanks areBlank
  | refusal blanks first rest areBlank visible refused =>
      rw [tokensFrom_refused offset areBlank visible refused] at found
      cases found
  | lexeme blanks lexeme rest areBlank isLexeme _ inductionHypothesis =>
      rw [tokensFrom_lexeme offset areBlank lexeme isLexeme, bind_eq_ok_iff] at found
      obtain ⟨others, othersFound, done⟩ := found
      cases done
      have spelled := (Lexeme.fits_of_first? isLexeme).1
      have laidOut := LaidOut.token offset blanks lexeme.kind lexeme.spelling others rest areBlank
        spelled trivial (inductionHypothesis othersFound)
      rwa [List.append_assoc] at laidOut

/-- The end of input is the last token and no other one. -/
theorem LaidOut.exists_kinds (laidOut : LaidOut Follows offset tokens characters) :
    ∃ kinds, tokens.map Token.kind = kinds ++ [.endOfInput] ∧
      ∀ kind ∈ kinds, ∃ spelling, kind.Spelled spelling := by
  induction laidOut with
  | finish offset blanks areBlank => exact ⟨[], rfl, by simp⟩
  | token offset blanks kind spelling tokens rest areBlank spelled follows others
      inductionHypothesis =>
      rcases inductionHypothesis with ⟨kinds, sameKinds, allSpelled⟩
      refine ⟨kind :: kinds, ?_, List.forall_mem_cons.mpr ⟨⟨spelling, spelled⟩, allSpelled⟩⟩
      rw [List.map_cons, sameKinds, List.cons_append]

/-- Tokens with a blank between any two of them are what the text is cut into. -/
theorem LaidOut.tokensFrom_eq (laidOut : LaidOut Separated offset tokens characters) :
    tokensFrom offset characters = .ok tokens := by
  induction laidOut with
  | finish offset blanks areBlank => exact tokensFrom_blanks areBlank
  | token offset blanks kind spelling tokens rest areBlank spelled separated others
      inductionHypothesis =>
      rw [List.append_assoc,
        tokensFrom_lexeme offset areBlank { kind, spelling, spelling_ne_nil := spelled.ne_nil }
          (spelled.first?_append separated), inductionHypothesis]
      rfl

theorem separated_nil : Separated [] := by
  simp [Separated]

theorem separated_space (rest : List Char) : Separated (' ' :: rest) := by
  intro next isNext
  cases isNext
  decide

/-- A spelling with one space in front of it. -/
theorem LaidOut.spaced
    {kind : TokenKind}
    {spelling rest : List Char}
    (spelled : kind.Spelled spelling)
    (separated : Separated rest)
    (others : LaidOut Separated (offset + byteLength [' '] + byteLength spelling) tokens rest) :
    LaidOut Separated offset ({ kind, offset := offset + byteLength [' '] } :: tokens)
      (' ' :: (spelling ++ rest)) := by
  have areBlank : AreBlank [' '] := by
    simpa [AreBlank] using separated_space [] ' ' rfl
  exact LaidOut.token offset [' '] kind spelling tokens rest areBlank spelled separated others

/-- Kinds that can be written can be written next to each other. -/
theorem exists_laidOut
    (kinds : List TokenKind)
    (allSpelled : ∀ kind ∈ kinds, ∃ spelling, kind.Spelled spelling)
    (offset : Nat) :
    ∃ tokens characters, LaidOut Separated offset tokens characters ∧
      tokens.map Token.kind = kinds ++ [.endOfInput] ∧ Separated characters := by
  induction kinds generalizing offset with
  | nil => exact ⟨_, [], .finish offset [] (by simp [AreBlank]), rfl, separated_nil⟩
  | cons kind kinds inductionHypothesis =>
      rcases List.forall_mem_cons.mp allSpelled with ⟨⟨spelling, spelled⟩, othersSpelled⟩
      rcases inductionHypothesis othersSpelled (offset + byteLength [' '] + byteLength spelling)
        with ⟨tokens, rest, others, sameKinds, separated⟩
      refine ⟨_, _, .spaced spelled separated others, ?_, separated_space _⟩
      rw [List.map_cons, sameKinds, List.cons_append]

end TripleStore.Query
