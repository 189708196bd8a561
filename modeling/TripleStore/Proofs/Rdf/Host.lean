import TripleStore.Rdf.Iri

/-!
Contract: the characters of well-formed authorities.

Owns:
- `IsInside`, a character that is no angle bracket;
- that encoded texts, addresses, hosts and authorities have such characters only.

Does not own: the other parts of a reference (`TripleStore.Proofs.Rdf.Iri`).
-/

namespace TripleStore.Rdf

open TripleStore.Text (isHexDigit pieces)

/-- The character can stand in an IRI without being taken for a bracket around it. -/
def IsInside (character : Char) : Prop :=
  character ≠ '<' ∧ character ≠ '>'

instance (character : Char) : Decidable (IsInside character) :=
  inferInstanceAs (Decidable (character ≠ '<' ∧ character ≠ '>'))

/-! ## Classes of characters -/

/-- No bracket is in a class that holds neither. -/
theorem isInside_of_class
    {allowed : Char → Bool}
    (noBrackets : allowed '<' = false ∧ allowed '>' = false)
    {character : Char}
    (isAllowed : allowed character = true) :
    IsInside character := by
  constructor
  · rintro rfl
    rw [noBrackets.1] at isAllowed
    cases isAllowed
  · rintro rfl
    rw [noBrackets.2] at isAllowed
    cases isAllowed

theorem isInside_of_isHexDigit {character : Char} (isHex : isHexDigit character = true) :
    IsInside character :=
  isInside_of_class (by decide) isHex

theorem isInside_of_isDigit {character : Char} (isDigit : character.isDigit = true) :
    IsInside character :=
  isInside_of_class (by decide) isDigit

/-- A byte that is written with a percent sign has no bracket either. -/
theorem forall_isInside_of_isEncoded
    {allowed : Char → Bool}
    (noBrackets : allowed '<' = false ∧ allowed '>' = false)
    {text : List Char}
    (encoded : isEncoded allowed text = true) :
    ∀ character ∈ text, IsInside character := by
  fun_induction isEncoded allowed text with
  | case1 => simp
  | case2 high low rest inductionHypothesis =>
      simp only [Bool.and_eq_true] at encoded
      obtain ⟨⟨isHigh, isLow⟩, restEncoded⟩ := encoded
      have percent : IsInside '%' := by decide
      simp only [List.forall_mem_cons]
      exact ⟨percent, isInside_of_isHexDigit isHigh, isInside_of_isHexDigit isLow,
        inductionHypothesis restEncoded⟩
  | case3 first rest _ inductionHypothesis =>
      rw [Bool.and_eq_true] at encoded
      rw [List.forall_mem_cons]
      exact ⟨isInside_of_class noBrackets encoded.1, inductionHypothesis encoded.2⟩

/-! ## Fronts and pieces -/

/-- The front up to where a test fails, and what comes behind it, are the whole text. -/
theorem forall_mem_of_takeWhile
    {test : Char → Bool}
    {Property : Char → Prop}
    {text : List Char}
    (inFront : ∀ character ∈ text.takeWhile test, Property character)
    (behind : ∀ character ∈ text.drop (text.takeWhile test).length, Property character) :
    ∀ character ∈ text, Property character := by
  have whole := List.prefix_iff_eq_append.mp (List.takeWhile_prefix (l := text) test)
  rw [← whole, List.forall_mem_append]
  exact ⟨inFront, behind⟩

/-- What comes behind the front starts with a character that fails the test. -/
theorem test_eq_false_of_drop
    {test : Char → Bool}
    {text rest : List Char}
    {first : Char}
    (found : text.drop (text.takeWhile test).length = first :: rest) :
    test first = false := by
  have whole : text.takeWhile test ++ text.dropWhile test =
      text.takeWhile test ++ first :: rest := by
    rw [List.takeWhile_append_dropWhile, ← found,
      List.prefix_iff_eq_append.mp (List.takeWhile_prefix test)]
  have behind : text.dropWhile test = first :: rest := List.append_cancel_left whole
  have fails := List.head?_dropWhile_not test text
  rw [behind] at fails
  exact fails

/-- A character of a text is the separator or stands in a piece. -/
theorem forall_mem_of_pieces
    {separator : Char}
    {Property : Char → Prop}
    (ofSeparator : Property separator)
    {text : List Char}
    (inPieces : ∀ piece ∈ pieces separator text, ∀ character ∈ piece, Property character) :
    ∀ character ∈ text, Property character := by
  induction text with
  | nil => simp
  | cons first rest inductionHypothesis =>
      rw [List.forall_mem_cons]
      unfold pieces at inPieces
      split at inPieces
      · next isSeparator =>
          rw [List.forall_mem_cons] at inPieces
          exact ⟨isSeparator ▸ ofSeparator, inductionHypothesis inPieces.2⟩
      · split at inPieces
        · next none => exact absurd none (Text.pieces_ne_nil separator rest)
        · next piece others found =>
            rw [found] at inductionHypothesis
            simp only [List.forall_mem_cons] at inPieces inductionHypothesis
            exact ⟨inPieces.1.1, inductionHypothesis ⟨inPieces.1.2, inPieces.2⟩⟩

/-- The pieces of a text hold characters of it only. -/
theorem forall_mem_pieces
    {separator : Char}
    {Property : Char → Prop}
    {text : List Char}
    (holds : ∀ character ∈ text, Property character) :
    ∀ piece ∈ pieces separator text, ∀ character ∈ piece, Property character := by
  induction text with
  | nil => simp [pieces]
  | cons first rest inductionHypothesis =>
      rw [List.forall_mem_cons] at holds
      have inRest := inductionHypothesis holds.2
      unfold pieces
      split
      · rw [List.forall_mem_cons]
        exact ⟨by simp, inRest⟩
      · split
        · simpa using holds.1
        · next piece others found =>
            rw [found, List.forall_mem_cons] at inRest
            simp only [List.forall_mem_cons]
            exact ⟨⟨holds.1, inRest.1⟩, inRest.2⟩

/-! ## Addresses -/

namespace Host

variable {text : List Char}

theorem forall_isInside_of_isGroup (group : isGroup text = true) :
    ∀ character ∈ text, IsInside character := by
  simp only [isGroup, Bool.and_eq_true, List.all_eq_true] at group
  exact fun character member => isInside_of_isHexDigit (group.2 character member)

theorem forall_isInside_of_isByte (byte : isByte text = true) :
    ∀ character ∈ text, IsInside character := by
  simp only [isByte, Bool.and_eq_true, List.all_eq_true] at byte
  exact fun character member => isInside_of_isDigit (byte.1.1.2 character member)

theorem forall_isInside_of_isDotted (dotted : isDotted text = true) :
    ∀ character ∈ text, IsInside character := by
  simp only [isDotted, Bool.and_eq_true, List.all_eq_true] at dotted
  have dot : IsInside '.' := by decide
  exact forall_mem_of_pieces dot fun piece member =>
    forall_isInside_of_isByte (dotted.2 piece member)

theorem forall_isInside_of_groupCount?
    {admitsDotted : Bool}
    {count : Nat}
    (counted : groupCount? admitsDotted text = some count) :
    ∀ character ∈ text, IsInside character := by
  have colon : IsInside ':' := by decide
  unfold groupCount? at counted
  dsimp only at counted
  split at counted
  · next nothing => simp [nothing]
  · split at counted
    · next groups =>
        rw [List.all_eq_true] at groups
        exact forall_mem_of_pieces colon fun piece member =>
          forall_isInside_of_isGroup (groups piece member)
    · split at counted
      · next lastDotted =>
          simp only [Bool.and_eq_true, List.all_eq_true] at lastDotted
          obtain ⟨⟨_, groups⟩, isLast⟩ := lastDotted
          -- Every piece is the last one or one of those before it.
          have notNil := Text.pieces_ne_nil ':' text
          rw [List.getLast?_eq_some_getLast notNil, Option.any_some] at isLast
          apply forall_mem_of_pieces colon
          intro piece member
          rw [← List.dropLast_concat_getLast notNil, List.mem_append, List.mem_singleton] at member
          rcases member with inFront | rfl
          · exact forall_isInside_of_isGroup (groups piece inFront)
          · exact forall_isInside_of_isDotted isLast
      · cases counted

theorem eq_of_splitGap
    {before after : List Char}
    (split : splitGap text = some (before, after)) :
    text = before ++ ':' :: ':' :: after := by
  fun_induction splitGap text generalizing before with
  | case1 rest =>
      cases split
      rfl
  | case2 first rest _ inductionHypothesis =>
      obtain ⟨⟨front, behind⟩, found, same⟩ := Option.map_eq_some_iff.mp split
      cases same
      rw [inductionHypothesis found, List.cons_append]
  | case3 => cases split

theorem forall_isInside_of_isVersionSix (address : isVersionSix text = true) :
    ∀ character ∈ text, IsInside character := by
  unfold isVersionSix at address
  split at address
  · exact forall_isInside_of_groupCount? (beq_iff_eq.mp address)
  · next before after split =>
      split at address
      · next first second firstCount secondCount =>
          have colon : IsInside ':' := by decide
          rw [eq_of_splitGap split]
          simp only [List.forall_mem_append, List.forall_mem_cons]
          exact ⟨forall_isInside_of_groupCount? firstCount, colon, colon,
            forall_isInside_of_groupCount? secondCount⟩
      · cases address

theorem forall_isInside_of_isLaterVersion
    {allowed : Char → Bool}
    (noBrackets : allowed '<' = false ∧ allowed '>' = false)
    (address : isLaterVersion allowed text = true) :
    ∀ character ∈ text, IsInside character := by
  cases text with
  | nil => simp
  | cons letter rest =>
      simp only [isLaterVersion, Bool.and_eq_true, Bool.or_eq_true, beq_iff_eq] at address
      obtain ⟨⟨isMark, _⟩, behind⟩ := address
      have mark : IsInside letter := by
        rcases isMark with rfl | rfl <;> decide
      have version : ∀ character ∈ rest.takeWhile isHexDigit, IsInside character :=
        fun character member =>
          isInside_of_isHexDigit (List.all_eq_true.mp List.all_takeWhile character member)
      rw [List.forall_mem_cons]
      refine ⟨mark, forall_mem_of_takeWhile version ?_⟩
      split at behind
      · next dotted found =>
          have dot : IsInside '.' := by decide
          simp only [Bool.and_eq_true, List.all_eq_true] at behind
          rw [found, List.forall_mem_cons]
          exact ⟨dot, fun character member =>
            isInside_of_class noBrackets (behind.2 character member)⟩
      · cases behind

end Host

/-! ## Authorities -/

namespace Reference

variable {text : List Char}

theorem forall_isInside_of_isServicePart (service : isServicePart text = true) :
    ∀ character ∈ text, IsInside character := by
  cases text with
  | nil => simp
  | cons first digits =>
      simp only [isServicePart, Bool.and_eq_true, beq_iff_eq, List.all_eq_true] at service
      obtain ⟨rfl, areDigits⟩ := service
      have colon : IsInside ':' := by decide
      rw [List.forall_mem_cons]
      exact ⟨colon, fun character member => isInside_of_isDigit (areDigits character member)⟩

theorem forall_isInside_of_isHost (host : isHost text = true) :
    ∀ character ∈ text, IsInside character := by
  unfold isHost at host
  split at host
  · next rest =>
      dsimp only at host
      split at host
      · next closing service found =>
          rw [Bool.and_eq_true, Bool.or_eq_true] at host
          obtain ⟨address, isService⟩ := host
          have isClosing : closing = ']' := by
            simpa using test_eq_false_of_drop found
          have inAddress : ∀ character ∈ rest.takeWhile (· != ']'), IsInside character := by
            rcases address with versionSix | laterVersion
            · exact Host.forall_isInside_of_isVersionSix versionSix
            · exact Host.forall_isInside_of_isLaterVersion (by decide) laterVersion
          have brackets : IsInside '[' ∧ IsInside ']' := by decide
          rw [List.forall_mem_cons]
          refine ⟨brackets.1, forall_mem_of_takeWhile inAddress ?_⟩
          rw [found, List.forall_mem_cons, isClosing]
          exact ⟨brackets.2, forall_isInside_of_isServicePart isService⟩
      · cases host
  · dsimp only at host
    rw [Bool.and_eq_true] at host
    exact forall_mem_of_takeWhile (forall_isInside_of_isEncoded (by decide) host.1)
      (forall_isInside_of_isServicePart host.2)

theorem forall_isInside_of_isAuthority (authority : isAuthority text = true) :
    ∀ character ∈ text, IsInside character := by
  unfold isAuthority at authority
  dsimp only at authority
  split at authority
  · next host found =>
      rw [Bool.and_eq_true] at authority
      have sign : IsInside '@' := by decide
      refine forall_mem_of_takeWhile (forall_isInside_of_isEncoded (by decide) authority.1) ?_
      rw [found, List.forall_mem_cons]
      exact ⟨sign, forall_isInside_of_isHost authority.2⟩
  · exact forall_isInside_of_isHost authority

end Reference

end TripleStore.Rdf
