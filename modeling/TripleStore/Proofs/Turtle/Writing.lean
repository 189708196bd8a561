import TripleStore.Proofs.Rdf.Term
import TripleStore.Turtle.Graph

/-!
Contract: IRIs and literals that are written out in full.

Owns:
- `Writes`, by which a text writes the token of a node;
- that such a text is read as its token, and that the token stands for its node;
- the tokens and the triple of a statement of such nodes.

Does not own: documents of several statements (`TripleStore.Proofs.Load.TurtleRecords`).
-/

namespace TripleStore.Turtle

open TripleStore.Text (Scalar Scalars)

/-! ## White space -/

theorem skipSpace_of_isWhite {first : Scalar} (white : isWhite first = true) (rest : Scalars) :
    skipSpace (first :: rest) = skipSpace rest := by
  rw [skipSpace, if_pos white]

theorem skipSpace_of_not_isWhite
    {first : Scalar}
    (notWhite : isWhite first = false)
    (notRemark : first ≠ .char '#')
    (rest : Scalars) :
    skipSpace (first :: rest) = first :: rest := by
  rw [skipSpace, if_neg (by simp [notWhite]), if_neg notRemark]

theorem spacePlaces_of_not_isWhite
    {first : Scalar}
    (notWhite : isWhite first = false)
    (notRemark : first ≠ .char '#')
    (rest : Scalars) :
    spacePlaces (first :: rest) = 0 := by
  rw [spacePlaces, skipSpace_of_not_isWhite notWhite notRemark, Nat.sub_self]

/-- Tokens with the white space in front of them skipped. -/
theorem tokens_eq (place : Place) (input : Scalars) :
    tokens place input =
      match skipSpace input with
      | [] => some []
      | first :: rest =>
          (token place (first :: rest)).bind fun piece =>
            (tokens (place.after piece.value) (rest.drop (piece.places - 1))).map
              (piece.value :: ·) := by
  rw [tokens.eq_def]
  split
  · next nothing => rw [nothing]
  · next first rest starts =>
      rw [starts]
      dsimp only
      cases token place (first :: rest) <;> rfl

theorem tokens_nil (place : Place) : tokens place [] = some [] := by
  rw [tokens_eq, skipSpace]

theorem tokens_of_isWhite
    {first : Scalar}
    (white : isWhite first = true)
    (place : Place)
    (rest : Scalars) :
    tokens place (first :: rest) = tokens place rest := by
  rw [tokens_eq, skipSpace_of_isWhite white, ← tokens_eq]

/-- A text that is read as one token, with the tokens behind it. -/
theorem tokens_append
    {place : Place}
    {sign : Char}
    {others : List Char}
    {rest : Scalars}
    {value : Token}
    (notWhite : isWhite (.char sign) = false)
    (notRemark : Scalar.char sign ≠ .char '#')
    (isToken : token place ((sign :: others).map .char ++ rest) =
      some { value, places := (sign :: others).length }) :
    tokens place ((sign :: others).map .char ++ rest) =
      (tokens (place.after value) rest).map (value :: ·) := by
  have behind : (others.map Scalar.char ++ rest).drop others.length = rest := by
    rw [← List.length_map (f := Scalar.char), List.drop_left]
  rw [List.map_cons, List.cons_append] at isToken ⊢
  rw [tokens_eq, skipSpace_of_not_isWhite notWhite notRemark]
  simp only [isToken, Option.bind_some, List.length_cons, Nat.add_sub_cancel, behind]

/-! ## References and strings -/

/-- An IRI that stands between brackets as it is, and that is no reference to another. -/
structure IsPlainIri (iri : List Char) : Prop where
  characters : ∀ character ∈ iri, isReferenceCharacter character = true
  resolves : Rdf.resolveIri? none iri = some iri

theorem referenceBody_append
    {iri : List Char}
    (characters : ∀ character ∈ iri, isReferenceCharacter character = true)
    (rest : Scalars) :
    referenceBody (iri.map .char ++ .char '>' :: rest) =
      some { value := iri, places := iri.length + 1 } := by
  induction iri with
  | nil => simp [referenceBody]
  | cons first others inductionHypothesis =>
      rw [List.forall_mem_cons] at characters
      have notClosing : first ≠ '>' := by
        rintro rfl
        exact absurd characters.1 (by decide)
      have notEscape : first ≠ '\\' := by
        rintro rfl
        exact absurd characters.1 (by decide)
      rw [List.map_cons, List.cons_append, referenceBody]
      · rw [if_pos characters.1, inductionHypothesis characters.2]
        simp [Piece.extend, Nat.add_comm]
      · exact notClosing
      · exact notEscape

theorem iriName_append
    {iri : List Char}
    (characters : ∀ character ∈ iri, isReferenceCharacter character = true)
    (rest : Scalars) :
    iriName ((Rdf.writeIri iri).map .char ++ rest) =
      some { value := .reference iri, places := (Rdf.writeIri iri).length } := by
  have body := referenceBody_append characters rest
  simp [Rdf.writeIri, iriName, body, Piece.convert, Nat.add_comm]

/-- An escape takes two characters, and any other character stands for itself. -/
theorem stringBody_escape (character : Char) (rest : Scalars) :
    stringBody '"' false ((Rdf.escape character).map .char ++ rest) =
      (stringBody '"' false rest).map
        (·.extend [character] (Rdf.escape character).length) := by
  have escaped : ∀ letter : Char, letterEscape? letter = some character →
      Rdf.escape character = ['\\', letter] →
        stringBody '"' false ((Rdf.escape character).map .char ++ rest) =
          (stringBody '"' false rest).map
            (·.extend [character] (Rdf.escape character).length) := by
    intro letter isLetter isEscape
    rw [isEscape, List.map_cons, List.cons_append, stringBody]
    simp [stringEscape, isLetter]
  by_cases isNewline : character = '\n'
  · exact escaped 'n' (by rw [isNewline]; rfl) (by rw [isNewline]; rfl)
  by_cases isReturn : character = '\r'
  · exact escaped 'r' (by rw [isReturn]; rfl) (by rw [isReturn]; rfl)
  by_cases isQuote : character = '"'
  · exact escaped '"' (by rw [isQuote]; rfl) (by rw [isQuote]; rfl)
  by_cases isBackslash : character = '\\'
  · exact escaped '\\' (by rw [isBackslash]; rfl) (by rw [isBackslash]; rfl)
  have isItself : Rdf.escape character = [character] := by
    simp [Rdf.escape, isNewline, isReturn, isQuote, isBackslash]
  rw [isItself, List.map_singleton, List.singleton_append, stringBody]
  simp [isNewline, isReturn, isQuote, isBackslash, endsLine]

theorem stringBody_append (lexical : List Char) (rest : Scalars) :
    stringBody '"' false ((lexical.flatMap Rdf.escape).map .char ++ .char '"' :: rest) =
      some { value := lexical, places := (lexical.flatMap Rdf.escape).length + 1 } := by
  induction lexical with
  | nil =>
      rw [List.flatMap_nil, List.map_nil, List.nil_append, stringBody]
      simp
  | cons first others inductionHypothesis =>
      rw [List.flatMap_cons, List.map_append, List.append_assoc, stringBody_escape,
        inductionHypothesis, List.length_append]
      simp [Piece.extend, Nat.add_assoc]

/-- Only a quote behind the empty string could make it the start of a long one. -/
theorem quotedString_append
    (lexical : List Char)
    {rest : Scalars}
    (noQuote : rest.head? ≠ some (.char '"')) :
    quotedString '"' ((lexical.flatMap Rdf.escape).map .char ++ .char '"' :: rest) =
      some { value := lexical, places := (lexical.flatMap Rdf.escape).length + 1 } := by
  have notLong : ((lexical.flatMap Rdf.escape).map Scalar.char ++ .char '"' :: rest).take 2 ≠
      [.char '"', .char '"'] := by
    intro isLong
    cases lexical with
    | nil =>
        cases rest with
        | nil => cases isLong
        | cons first others =>
            exact noQuote (congrArg some (List.cons.inj (List.cons.inj isLong).2).1)
    | cons first others =>
        have notQuote := Rdf.escape_append_ne_quote first
        rw [List.flatMap_cons] at isLong
        cases spelling : Rdf.escape first with
        | nil => exact notQuote ['"'] [] (by rw [spelling]; rfl)
        | cons sign signs =>
            rw [spelling] at isLong notQuote
            have isQuote : Scalar.char sign = .char '"' := (List.cons.inj isLong).1
            exact notQuote [] signs (by rw [Scalar.char.inj isQuote, List.append_nil])
  rw [quotedString, if_neg notLong, stringBody_append]

/-! ## Tags -/

theorem languageTag_append
    {tag : List Char}
    (characters : ∀ character ∈ tag, isTagCharacter (.char character) = true)
    (wellFormed : Rdf.LanguageTag.isWellFormed (tag.map Char.toLower) = true)
    (next : Scalar)
    (ends : isTagCharacter next = false)
    (rest : Scalars) :
    languageTag (tag.map .char ++ next :: rest) =
      some { value := .language (tag.map Char.toLower), places := tag.length } := by
  have front : ((tag.map Scalar.char) ++ next :: rest).takeWhile isTagCharacter =
      tag.map .char := by
    rw [List.takeWhile_append_of_pos (by simpa using characters),
      List.takeWhile_cons_of_neg (by simp [ends]), List.append_nil]
  have written : (tag.map Scalar.char).filterMap Scalar.char? = tag := by
    rw [List.filterMap_map]
    exact List.filterMap_some
  simp only [languageTag, front, written, wellFormed, if_true]

/-- A text that writes a tag behind a string, with the tag as it is read. A tag of a language
is read in small letters. -/
inductive WritesTag : List Char → Tag → Rdf.Tag → Prop where
  | plain : WritesTag [] .plain .plain
  | language
      {tag : List Char}
      (characters : ∀ character ∈ tag, isTagCharacter (.char character) = true)
      (wellFormed : Rdf.LanguageTag.isWellFormed (tag.map Char.toLower) = true) :
      WritesTag ('@' :: tag) (.language (tag.map Char.toLower)) (.language (tag.map Char.toLower))
  | datatype
      {iri : List Char}
      (plain : IsPlainIri iri) :
      WritesTag ('^' :: '^' :: Rdf.writeIri iri) (.datatype (.reference iri)) (.datatype iri)

variable {written : List Char} {tag : Tag} {meaning : Rdf.Tag}

/-- A dot behind a blank is no part of a tag. -/
theorem literalTag_append (writes : WritesTag written tag meaning) (rest : Scalars) :
    literalTag (written.map .char ++ .char ' ' :: .char '.' :: rest) =
      some { value := tag, places := written.length } := by
  cases writes with
  | plain =>
      have skipped : skipSpace (.char ' ' :: .char '.' :: rest) = .char '.' :: rest := by
        rw [skipSpace_of_isWhite (by decide), skipSpace_of_not_isWhite (by decide) (by decide)]
      rw [List.map_nil, List.nil_append, literalTag, skipped]
      rfl
  | @language tag characters wellFormed =>
      have isTag := languageTag_append characters wellFormed (.char ' ') (by decide)
        (.char '.' :: rest)
      rw [List.map_cons, List.cons_append, literalTag,
        skipSpace_of_not_isWhite (by decide) (by decide)]
      have noSpace : spacePlaces (.char '@' :: (tag.map .char ++ .char ' ' :: .char '.' :: rest)) =
          0 := spacePlaces_of_not_isWhite (by decide) (by decide) _
      simp only [isTag, noSpace, Option.map_some, Piece.convert, id, List.length_cons,
        Nat.add_comm]
  | @datatype iri plain =>
      have isName := iriName_append plain.characters (.char ' ' :: .char '.' :: rest)
      have notSpace : skipSpace ((Rdf.writeIri iri).map .char ++ .char ' ' :: .char '.' :: rest) =
          (Rdf.writeIri iri).map .char ++ .char ' ' :: .char '.' :: rest :=
        skipSpace_of_not_isWhite (by decide) (by decide) _
      rw [List.map_cons, List.map_cons, List.cons_append, List.cons_append, literalTag,
        skipSpace_of_not_isWhite (by decide) (by decide)]
      have noSpace : spacePlaces (.char '^' :: .char '^' ::
          ((Rdf.writeIri iri).map .char ++ .char ' ' :: .char '.' :: rest)) = 0 :=
        spacePlaces_of_not_isWhite (by decide) (by decide) _
      have noSpaceBehind : spacePlaces
          ((Rdf.writeIri iri).map .char ++ .char ' ' :: .char '.' :: rest) = 0 :=
        spacePlaces_of_not_isWhite (by decide) (by decide) _
      simp only [notSpace, isName, noSpace, noSpaceBehind, Option.map_some, Piece.convert,
        List.length_cons, Nat.zero_add, Nat.add_comm 2]

/-! ## Nodes -/

/-- A text that writes a node, with the token that it is read as. -/
inductive Writes : List Char → Token → Rdf.Term → Prop where
  | iri
      {iri : List Char}
      (plain : IsPlainIri iri) :
      Writes (Rdf.writeIri iri) (.name (.reference iri)) (.iri iri)
  | literal
      (lexical : List Char)
      {written : List Char}
      {tag : Tag}
      {meaning : Rdf.Tag}
      (writes : WritesTag written tag meaning) :
      Writes ('"' :: (lexical.flatMap Rdf.escape ++ '"' :: written)) (.literal lexical tag)
        (.literal lexical meaning)

theorem token_writeIri
    {iri : List Char}
    (place : Place)
    (characters : ∀ character ∈ iri, isReferenceCharacter character = true)
    (rest : Scalars) :
    token place ((Rdf.writeIri iri).map .char ++ rest) =
      some { value := .name (.reference iri), places := (Rdf.writeIri iri).length } := by
  have isName := iriName_append characters rest
  have notQuotation : ∀ others,
      iri.map Scalar.char ++ .char '>' :: rest ≠ .char '<' :: others := by
    intro others same
    cases iri with
    | nil => exact absurd (List.cons.inj same).1 (by decide)
    | cons first later =>
        have isOpening : first = '<' := Scalar.char.inj (List.cons.inj same).1
        have isCharacter := characters first List.mem_cons_self
        rw [isOpening] at isCharacter
        exact absurd isCharacter (by decide)
  simp only [Rdf.writeIri, List.map_cons, List.map_append, List.map_nil, List.cons_append,
    List.append_assoc, List.nil_append] at isName ⊢
  rw [token]
  · rw [isName]
    simp [Piece.convert]
  · exact fun others same => notQuotation others same

theorem token_append
    {token : Token}
    {node : Rdf.Term}
    (place : Place)
    (writes : Writes written token node)
    (rest : Scalars) :
    Turtle.token place (written.map .char ++ .char ' ' :: .char '.' :: rest) =
      some { value := token, places := written.length } := by
  cases writes with
  | iri plain => exact token_writeIri place plain.characters _
  | @literal lexical written tag meaning writes =>
      have noQuote : (written.map Scalar.char ++ .char ' ' :: .char '.' :: rest).head? ≠
          some (.char '"') := by
        cases writes with
        | plain => exact fun same => absurd (Option.some.inj same) (by decide)
        | language characters wellFormed =>
            exact fun same => absurd (Option.some.inj same) (by decide)
        | datatype plain => exact fun same => absurd (Option.some.inj same) (by decide)
      have isString := quotedString_append lexical noQuote
      have isTag := literalTag_append writes rest
      have behind : ((lexical.flatMap Rdf.escape).map Scalar.char ++ Scalar.char '"' ::
          (written.map .char ++ .char ' ' :: .char '.' :: rest)).drop
            ((lexical.flatMap Rdf.escape).length + 1) =
              written.map Scalar.char ++ .char ' ' :: .char '.' :: rest := by
        rw [← List.length_map (f := Scalar.char), ← List.drop_drop, List.drop_left,
          List.drop_succ_cons, List.drop_zero]
      simp only [List.map_cons, List.map_append, List.cons_append, List.append_assoc]
      rw [Turtle.token, quotedLiteral, isString]
      simp only [behind, isTag, Option.map_some, Piece.convert, id, List.length_cons,
        List.length_append, Option.some.injEq, Piece.mk.injEq, true_and]
      omega

/-! ## Statements -/

theorem tokens_writeIri
    {iri : List Char}
    (place : Place)
    (plain : IsPlainIri iri)
    (rest : Scalars) :
    tokens place ((Rdf.writeIri iri).map .char ++ rest) =
      (tokens (place.after (.name (.reference iri))) rest).map (.name (.reference iri) :: ·) :=
  tokens_append (by decide) (by decide) (token_writeIri place plain.characters rest)

theorem tokens_node
    {token : Token}
    {node : Rdf.Term}
    (place : Place)
    (writes : Writes written token node)
    (rest : Scalars) :
    tokens place (written.map .char ++ .char ' ' :: .char '.' :: rest) =
      (tokens (place.after token) (.char ' ' :: .char '.' :: rest)).map (token :: ·) := by
  have isToken := token_append place writes rest
  cases writes with
  | iri plain => exact tokens_append (by decide) (by decide) isToken
  | literal lexical writes => exact tokens_append (by decide) (by decide) isToken

theorem tokens_dot
    (place : Place)
    {rest : Scalars}
    (noDigit : rest.head?.any Text.isDigit = false) :
    tokens place (.char '.' :: rest) = (tokens (place.after .dot) rest).map (.dot :: ·) := by
  have isDot : token place (['.'].map .char ++ rest) = some { value := .dot, places := 1 } := by
    rw [List.map_singleton, List.singleton_append, token, if_neg (by simp [noDigit])]
  exact tokens_append (by decide) (by decide) isDot

/-- The text of a statement about an IRI, with the text of its object. -/
def writeStatement (subject predicate object : List Char) : List Char :=
  Rdf.writeIri subject ++ ' ' :: (Rdf.writeIri predicate ++ ' ' :: (object ++ [' ', '.']))

/-- Behind a statement the next one may start. -/
theorem tokens_writeStatement
    {subject predicate object : List Char}
    {token : Token}
    {node : Rdf.Term}
    (subjectPlain : IsPlainIri subject)
    (predicatePlain : IsPlainIri predicate)
    (writes : Writes object token node)
    {rest : Scalars}
    (noDigit : rest.head?.any Text.isDigit = false) :
    tokens .start ((writeStatement subject predicate object).map .char ++ rest) =
      (tokens .start rest).map
        ([.name (.reference subject), .name (.reference predicate), token, .dot] ++ ·) := by
  -- What is expected behind the dot does not depend on what was read before it.
  have atStart : (((Place.start.after (.name (.reference subject))).after
      (.name (.reference predicate))).after token).after .dot = .start := by
    cases writes <;> rfl
  simp only [writeStatement, List.map_append, List.map_cons, List.map_nil, List.append_assoc,
    List.cons_append, List.nil_append]
  rw [tokens_writeIri .start subjectPlain, tokens_of_isWhite (by decide),
    tokens_writeIri _ predicatePlain, tokens_of_isWhite (by decide), tokens_node _ writes,
    tokens_of_isWhite (by decide), tokens_dot _ noDigit, atStart]
  simp only [Option.map_map]
  rfl

/-! ## Trees -/

/-- The token is no bracket. -/
def Token.IsLeaf : Token → Prop
  | .opening _ | .closing _ => False
  | _ => True

theorem nest_of_isLeaf
    {words : List Token}
    (leaves : ∀ word ∈ words, word.IsLeaf)
    (before : List Tree) :
    nest [] before words = some (before.reverse ++ words.map .leaf) := by
  induction words generalizing before with
  | nil => simp [nest]
  | cons first others inductionHypothesis =>
      rw [List.forall_mem_cons] at leaves
      rw [nest, inductionHypothesis leaves.2]
      · simp
      · rintro bracket rfl
        exact leaves.1
      · rintro bracket rfl
        exact leaves.1

theorem trees_of_isLeaf
    {words : List Token}
    (leaves : ∀ word ∈ words, word.IsLeaf) :
    trees words = some (words.map .leaf) :=
  nest_of_isLeaf leaves []

/-! ## Triples -/

/-- Where nothing is abbreviated, a plain IRI stands for itself. -/
theorem iri?_start {iri : List Char} (plain : IsPlainIri iri) :
    Scope.start.iri? (.reference iri) = some iri :=
  plain.resolves

theorem leafNode_of_writes
    {token : Token}
    {node : Rdf.Term}
    (writes : Writes written token node)
    (count : Nat) :
    leafNode .start false token count = some (node, count) := by
  cases writes with
  | iri plain => simp [leafNode, found, iri?_start plain]
  | literal lexical writes =>
      cases writes with
      | plain => rfl
      | language characters wellFormed => rfl
      | datatype plain => simp [leafNode, found, Scope.tag?, iri?_start plain]

theorem statements_nil (scope : Scope) (count : Nat) :
    statements scope [] count = some ([], count) := by
  rw [statements.eq_def]
  rfl

/-- What is said up to the first dot is one statement. -/
theorem statements_append_dot
    (scope : Scope)
    (name : Name)
    {more : List Tree}
    (others : List Tree)
    (noDot : ∀ tree ∈ more, isDot tree = false) :
    statements scope (.leaf (.name name) :: (more ++ .leaf .dot :: others)) = do
      let triples ← statement scope (.leaf (.name name) :: more)
      return triples ++ (← statements scope others) := by
  have front : (Tree.leaf (.name name) :: (more ++ .leaf .dot :: others)).takeWhile (!isDot ·) =
      .leaf (.name name) :: more := by
    rw [List.takeWhile_cons_of_pos (by rfl),
      List.takeWhile_append_of_pos (by simpa using noDot),
      List.takeWhile_cons_of_neg (by simp [isDot]), List.append_nil]
  have behind : (Tree.leaf (.name name) :: (more ++ .leaf .dot :: others)).drop
      (Tree.leaf (.name name) :: more).length = .leaf .dot :: others := by
    rw [List.length_cons, List.drop_succ_cons, List.drop_left]
  rw [statements.eq_def]
  dsimp only
  split
  · next nothing =>
      rw [front, behind] at nothing
      cases nothing
  · next dot rest found =>
      rw [front, behind] at found
      cases found
      rw [front]

theorem run_bind
    {First Second : Type}
    {building : Building First}
    {next : First → Building Second}
    {value : First}
    {count after : Nat}
    (built : building count = some (value, after)) :
    (building >>= next) count = next value after := by
  change (building count).bind _ = _
  rw [built]
  rfl

theorem node_of_writes
    {token : Token}
    {meaning : Rdf.Term}
    (writes : Writes written token meaning)
    (count : Nat) :
    node .start (.leaf token) count = some ((meaning, []), count) := by
  rw [node, run_bind (leafNode_of_writes writes count)]
  rfl

theorem statement_of_writes
    {subject predicate : List Char}
    {token : Token}
    {object : Rdf.Term}
    (subjectPlain : IsPlainIri subject)
    (predicatePlain : IsPlainIri predicate)
    (writes : Writes written token object)
    (count : Nat) :
    statement .start
        [.leaf (.name (.reference subject)), .leaf (.name (.reference predicate)), .leaf token]
        count =
      some ([{ subject := .iri subject, predicate, object }], count) := by
  have isPredicate : Turtle.predicate .start (.name (.reference predicate)) count =
      some (predicate, count) := by
    rw [Turtle.predicate, iri?_start predicatePlain]
    rfl
  have said : objects .start (.iri subject) false predicate [.leaf token] count =
      some ([{ subject := .iri subject, predicate, object }], count) := by
    rw [objects, run_bind (node_of_writes writes count), afterObject]
    · rfl
    · simp
  have described : description .start (.iri subject) false
      [.leaf (.name (.reference predicate)), .leaf token] count =
        some ([{ subject := .iri subject, predicate, object }], count) := by
    rw [description, run_bind isPredicate, said]
  have isSubject : notLiteral (.iri subject) count = some (.iri subject, count) := rfl
  rw [statement, run_bind (node_of_writes (.iri subjectPlain) count)]
  · dsimp only
    rw [run_bind isSubject, run_bind described]
    rfl
  · simp

theorem statements_writeStatement
    {subject predicate : List Char}
    {token : Token}
    {object : Rdf.Term}
    {rest : List Tree}
    {triples : List Rdf.Triple}
    {count : Nat}
    (subjectPlain : IsPlainIri subject)
    (predicatePlain : IsPlainIri predicate)
    (writes : Writes written token object)
    (behind : statements .start rest count = some (triples, count)) :
    statements .start
        (.leaf (.name (.reference subject)) :: .leaf (.name (.reference predicate)) ::
          .leaf token :: .leaf .dot :: rest) count =
      some ({ subject := .iri subject, predicate, object } :: triples, count) := by
  have noDot : ∀ tree ∈ [.leaf (.name (.reference predicate)), .leaf token],
      isDot tree = false := by
    simp only [List.forall_mem_cons]
    refine ⟨rfl, ?_, by simp⟩
    cases writes <;> rfl
  have isStatement := statement_of_writes subjectPlain predicatePlain writes count
  have cut := statements_append_dot .start (.reference subject) rest noDot
  rw [List.cons_append, List.cons_append, List.nil_append] at cut
  rw [cut, run_bind isStatement, run_bind behind]
  rfl

end TripleStore.Turtle
