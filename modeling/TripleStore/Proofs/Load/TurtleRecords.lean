import Mathlib.Data.List.Forall2
import Mathlib.Tactic.Choose
import TripleStore.Load.Turtle
import TripleStore.Proofs.Load.JsonRecords
import TripleStore.Proofs.Rdf.Iri
import TripleStore.Proofs.Text.Letter
import TripleStore.Proofs.Turtle.Graph
import TripleStore.Proofs.Turtle.Writing

/-!
Contract: records that are written as Turtle, one statement to a line.

Owns:
- `TurtleLibrary`, all that is asked of a reader of Turtle, and that the reader of this library
  is one;
- statements about IRIs below one host, with such IRIs and all kinds of literals as objects;
- that a file of their lines gives back the records that they stand for, in order.

Does not own: how one statement is read (`TripleStore.Proofs.Turtle.Writing`), and which terms
a document can hold (`TripleStore.Proofs.Turtle.Graph`).
-/

namespace TripleStore.Load

open TripleStore.Text (Scalar encode decode_encode isAlpha_iff isAlpha_toLower)
open TripleStore.Turtle (IsPlainIri Writes WritesTag)

/-! ## Lines of statements -/

/-- The line states the triple. -/
inductive WritesStatement : List Char → Rdf.Triple → Prop where
  | statement
      {subject predicate written : List Char}
      {token : Turtle.Token}
      {object : Rdf.Term}
      (subjectPlain : IsPlainIri subject)
      (predicatePlain : IsPlainIri predicate)
      (writes : Writes written token object) :
      WritesStatement (Turtle.writeStatement subject predicate written)
        { subject := .iri subject, predicate, object }

/-- The tokens of a text by itself, and what their trees state. -/
structure States (words : List Turtle.Token) (triples : List Rdf.Triple) : Prop where
  leaves : ∀ word ∈ words, word.IsLeaf
  triples : ∀ behind others count,
    Turtle.statements .start behind count = some (others, count) →
      Turtle.statements .start (words.map .leaf ++ behind) count =
        some (triples ++ others, count)

theorem States.append
    {words later : List Turtle.Token}
    {triples others : List Rdf.Triple}
    (states : States words triples)
    (statesLater : States later others) :
    States (words ++ later) (triples ++ others) where
  leaves := List.forall_mem_append.mpr ⟨states.leaves, statesLater.leaves⟩
  triples := by
    intro behind more count read
    rw [List.map_append, List.append_assoc, List.append_assoc]
    exact states.triples _ _ _ (statesLater.triples _ _ _ read)

/-- A digit behind a line would make its dot the start of a number. -/
theorem tokens_line
    {line : List Char}
    {triple : Rdf.Triple}
    (writes : WritesStatement line triple) :
    ∃ words, States words [triple] ∧
      ∀ rest : Text.Scalars, rest.head?.any Text.isDigit = false →
        Turtle.tokens .start (line.map .char ++ rest) =
          (Turtle.tokens .start rest).map (words ++ ·) := by
  obtain ⟨subjectPlain, predicatePlain, writes⟩ := writes
  refine ⟨_, ⟨?_, ?_⟩, fun _ => Turtle.tokens_writeStatement subjectPlain predicatePlain writes⟩
  · simp only [List.forall_mem_cons]
    refine ⟨trivial, trivial, ?_, trivial, by simp⟩
    cases writes <;> exact trivial
  · intro behind others count read
    exact Turtle.statements_writeStatement subjectPlain predicatePlain writes read

theorem tokens_lineEnd
    {lineEnd : List Char}
    (isEnd : lineEnd = ['\n'] ∨ lineEnd = ['\r', '\n'])
    (place : Turtle.Place)
    (rest : Text.Scalars) :
    Turtle.tokens place (lineEnd.map .char ++ rest) = Turtle.tokens place rest := by
  rcases isEnd with rfl | rfl
  · exact Turtle.tokens_of_isWhite (by decide) place rest
  · exact (Turtle.tokens_of_isWhite (by decide) place _).trans
      (Turtle.tokens_of_isWhite (by decide) place rest)

theorem tokens_holdsLines
    {lines : List (List Char)}
    {text : List Char}
    {triples : List Rdf.Triple}
    (holds : HoldsLines lines text)
    (writes : List.Forall₂ WritesStatement lines triples) :
    ∃ words, States words triples ∧ Turtle.tokens .start (text.map .char) = some words := by
  induction holds generalizing triples with
  | nil =>
      cases writes
      exact ⟨[], ⟨by simp, fun _ _ _ read => read⟩, Turtle.tokens_nil .start⟩
  | last line =>
      obtain ⟨triple, _, writesLine, nothing, rfl⟩ := List.forall₂_cons_left_iff.mp writes
      cases nothing
      obtain ⟨words, states, areTokens⟩ := tokens_line writesLine
      have whole := areTokens [] rfl
      rw [List.append_nil, Turtle.tokens_nil, Option.map_some, List.append_nil] at whole
      exact ⟨words, states, whole⟩
  | line line lineEnd lines rest isEnd behind inductionHypothesis =>
      obtain ⟨triple, others, writesLine, writesOthers, rfl⟩ :=
        List.forall₂_cons_left_iff.mp writes
      obtain ⟨words, states, areTokens⟩ := tokens_line writesLine
      obtain ⟨later, statesLater, laterTokens⟩ := inductionHypothesis writesOthers
      have noDigit : ((lineEnd ++ rest).map Text.Scalar.char).head?.any Text.isDigit = false := by
        rcases isEnd with rfl | rfl <;> rfl
      refine ⟨words ++ later, states.append statesLater, ?_⟩
      rw [List.map_append, areTokens _ noDigit, List.map_append, tokens_lineEnd isEnd,
        laterTokens, Option.map_some]

theorem triples?_holdsLines
    {lines : List (List Char)}
    {text : List Char}
    {triples : List Rdf.Triple}
    (holds : HoldsLines lines text)
    (writes : List.Forall₂ WritesStatement lines triples) :
    Turtle.triples? (text.map .char) = some triples := by
  obtain ⟨words, states, areTokens⟩ := tokens_holdsLines holds writes
  have read := states.triples [] [] 0 (Turtle.statements_nil .start 0)
  rw [List.append_nil, List.append_nil] at read
  rw [Turtle.triples?, areTokens]
  simp only [Option.bind_eq_bind, Option.bind_some, Turtle.trees_of_isLeaf states.leaves,
    StateT.run, read]
  rfl

/-! ## What is asked of a reader of Turtle -/

/-- A reader of the triples in Turtle documents. All that is assumed of it is that it gives back
the statements that are written, and that the terms of a document can be told apart once they
are written out. -/
structure TurtleLibrary where
  triplesIn : GraphReader
  triplesIn_written :
    ∀ {lines text triples}, HoldsLines lines text → List.Forall₂ WritesStatement lines triples →
      triplesIn (encode text) = some triples
  isLegible_of_triplesIn :
    ∀ {bytes triples}, triplesIn bytes = some triples → ∀ triple ∈ triples, triple.IsLegible

/-- The reader that the format uses. -/
def turtleLibrary : TurtleLibrary where
  triplesIn := turtleTriples
  triplesIn_written := by
    intro lines text triples holds writes
    rw [turtleTriples, decode_encode, triples?_holdsLines holds writes]
  isLegible_of_triplesIn := Turtle.forall_isLegible_triples

/-- A file of such lines is read as the records of their triples. -/
theorem readGraph_holdsLines
    {lines : List (List Char)}
    {text : List Char}
    {triples : List Rdf.Triple}
    (library : TurtleLibrary)
    (holds : HoldsLines lines text)
    (writes : List.Forall₂ WritesStatement lines triples) :
    readGraph library.triplesIn (encode text) = .ok (triples.map recordOfTriple) := by
  rw [readGraph, library.triplesIn_written holds writes]

/-! ## Statements about IRIs of one host -/

/-- Letters, digits and four signs. -/
def isPlainCharacter (character : Char) : Bool :=
  character.isAlphanum || ['-', '_', '.', '~'].contains character

structure ExampleIri where
  name : List Char
  plain : ∀ character ∈ name, isPlainCharacter character = true

def ExampleIri.text (iri : ExampleIri) : List Char :=
  "http://example.org/".toList ++ iri.name

inductive ExampleTag where
  | plain
  | language
      (first second : Char)
      (areLetters : first.isAlpha = true ∧ second.isAlpha = true)
  | datatype (iri : ExampleIri)

def ExampleTag.write : ExampleTag → List Char
  | plain => []
  | language first second _ => ['@', first, second]
  | datatype iri => '^' :: '^' :: Rdf.writeIri iri.text

inductive ExampleObject where
  | iri (target : ExampleIri)
  | literal (lexical : List Char) (tag : ExampleTag)

namespace ExampleObject

def write : ExampleObject → List Char
  | .iri target => Rdf.writeIri target.text
  | .literal lexical tag => '"' :: (lexical.flatMap Rdf.escape ++ '"' :: tag.write)

/-- The tag of a literal says nothing about its value. -/
def value : ExampleObject → List Char
  | .iri target => target.text
  | .literal lexical _ => lexical

end ExampleObject

structure ExampleStatement where
  subject : ExampleIri
  predicate : ExampleIri
  object : ExampleObject

namespace ExampleStatement

def write (statement : ExampleStatement) : List Char :=
  Turtle.writeStatement statement.subject.text statement.predicate.text statement.object.write

def record (statement : ExampleStatement) : Record where
  subject := .ofList statement.subject.text
  predicate := .ofList statement.predicate.text
  object := .ofList statement.object.value

end ExampleStatement

/-! ## What is written of them -/

theorem isReferenceCharacter_of_isPlainCharacter
    {character : Char}
    (plain : isPlainCharacter character = true) :
    Turtle.isReferenceCharacter character = true := by
  have notPlain : ∀ sign ∈ ['<', '>', '"', '\x7b', '\x7d', '|', '^', '\x60', '\\'],
      (!isPlainCharacter sign) = true :=
    List.all_eq_true.mp rfl
  have signs : ∀ sign ∈ ['-', '_', '.', '~'], decide (0x20 < sign.toNat) = true :=
    List.all_eq_true.mp rfl
  have noControl : 0x20 < character.toNat := by
    rcases Bool.or_eq_true_iff.mp plain with isAlphanumeric | isSign
    · rcases Bool.or_eq_true_iff.mp isAlphanumeric with isLetter | isDigit
      · have range := isAlpha_iff.mp isLetter
        omega
      · have range : 48 ≤ character.toNat ∧ character.toNat ≤ 57 :=
          Char.isDigit_iff_toNat.mp isDigit
        omega
    · exact of_decide_eq_true (signs character (List.contains_iff_mem.mp isSign))
  rw [Turtle.isReferenceCharacter, Bool.and_eq_true, decide_eq_true_eq, Bool.not_eq_true',
    ← Bool.not_eq_true, List.contains_iff_mem]
  refine ⟨noControl, fun isSign => ?_⟩
  have isNotPlain := notPlain character isSign
  rw [plain] at isNotPlain
  cases isNotPlain

theorem isPathCharacter_of_isPlainCharacter
    {character : Char}
    (plain : isPlainCharacter character = true) :
    Rdf.isPathCharacter character = true := by
  have unreserved : Rdf.isUnreserved character = true := by
    unfold isPlainCharacter at plain
    unfold Rdf.isUnreserved
    grind
  rw [Rdf.isPathCharacter, Rdf.isUserCharacter, Rdf.isHostCharacter, unreserved]
  rfl

namespace ExampleIri

theorem ne_of_mem_name
    (iri : ExampleIri)
    (sign : Char)
    (notPlain : isPlainCharacter sign = false) :
    ∀ character ∈ iri.name, character ≠ sign := by
  rintro character member rfl
  rw [iri.plain character member] at notPlain
  cases notPlain

/-- The host ends where the path starts, and the path goes on to the end. -/
theorem ofText_text (iri : ExampleIri) :
    Rdf.Reference.ofText iri.text =
      { scheme := some "http".toList
        authority := some "example.org".toList
        path := '/' :: iri.name
        query := none
        fragment := none } := by
  have isScheme : Rdf.IsScheme "http".toList := ⟨rfl, List.all_eq_true.mp rfl⟩
  have whole : iri.text = "http".toList ++
      ':' :: '/' :: '/' :: ("example.org".toList ++ '/' :: iri.name) := rfl
  have inHost : ∀ character ∈ "example.org".toList,
      (!(['/', '?', '#'].contains character)) = true :=
    List.all_eq_true.mp rfl
  have host : ("example.org".toList ++ '/' :: iri.name).takeWhile
      (fun character => !(['/', '?', '#'].contains character)) = "example.org".toList := by
    rw [List.takeWhile_append_of_pos inHost, List.takeWhile_cons_of_neg (by decide),
      List.append_nil]
  have path : ('/' :: iri.name).takeWhile
      (fun character => character != '?' && character != '#') = '/' :: iri.name := by
    rw [List.takeWhile_eq_self_iff, List.forall_mem_cons]
    refine ⟨by decide, fun character member => ?_⟩
    simp [iri.ne_of_mem_name '?' (by decide) character member,
      iri.ne_of_mem_name '#' (by decide) character member]
  have authority : Rdf.Reference.splitAuthority
      ('/' :: '/' :: ("example.org".toList ++ '/' :: iri.name)) =
        (some "example.org".toList, '/' :: iri.name) := by
    rw [Rdf.Reference.splitAuthority, host, List.drop_left]
  rw [Rdf.Reference.ofText_eq, whole, Rdf.Reference.splitScheme_of_isScheme isScheme]
  simp only [authority, path, List.drop_length]
  rfl

theorem isPlainIri (iri : ExampleIri) : IsPlainIri iri.text where
  characters := by
    refine List.forall_mem_append.mpr ⟨List.all_eq_true.mp rfl, fun character member => ?_⟩
    exact isReferenceCharacter_of_isPlainCharacter (iri.plain character member)
  resolves := by
    have host : Rdf.Reference.isAuthority "example.org".toList = true := by decide
    have path : Rdf.isEncoded Rdf.isPathCharacter ('/' :: iri.name) = true := by
      apply Rdf.isEncoded_of_forall_mem
      rw [List.forall_mem_cons]
      refine ⟨by decide, fun character member => ⟨?_, ?_⟩⟩
      · exact iri.ne_of_mem_name '%' (by decide) character member
      · exact isPathCharacter_of_isPlainCharacter (iri.plain character member)
    have wellFormed : (Rdf.Reference.ofText iri.text).isWellFormed = true := by
      rw [ofText_text, Rdf.Reference.isWellFormed, Option.all_some, host, path]
      rfl
    rw [Rdf.resolveIri?, if_pos wellFormed, ofText_text]
    rfl

end ExampleIri

/-- Two small or capital letters are the name of a language by themselves. -/
theorem isWellFormed_of_isAlpha
    {first second : Char}
    (isFirst : first.isAlpha = true)
    (isSecond : second.isAlpha = true) :
    Rdf.LanguageTag.isWellFormed [first, second] = true := by
  have notHyphen : ∀ {letter : Char}, letter.isAlpha = true → letter ≠ '-' := by
    rintro letter isLetter rfl
    exact absurd isLetter (by decide)
  have onePart : Text.pieces '-' [first, second] = [[first, second]] := by
    simp [Text.pieces, notHyphen isFirst, notHyphen isSecond]
  have isPart : Rdf.LanguageTag.isPart [first, second] = true := by
    simp [Rdf.LanguageTag.isPart, Char.isAlphanum, isFirst, isSecond]
  have starts : Rdf.LanguageTag.start [first, second] = some (.language 0) := by
    simp [Rdf.LanguageTag.start, Rdf.LanguageTag.privateMark, isFirst, isSecond]
  have isRegular : Rdf.LanguageTag.isRegular [[first, second]] = true := by
    simp [Rdf.LanguageTag.isRegular, isPart, starts, Rdf.LanguageTag.isFinal]
  rw [Rdf.LanguageTag.isWellFormed, onePart, isRegular, Bool.or_true]

theorem writesTag_example (tag : ExampleTag) :
    ∃ read meaning, WritesTag tag.write read meaning := by
  cases tag with
  | plain => exact ⟨_, _, .plain⟩
  | language first second areLetters =>
      have isTag : ∀ {letter : Char}, letter.isAlpha = true →
          Turtle.isTagCharacter (.char letter) = true := by
        intro letter isLetter
        simp [Turtle.isTagCharacter, Scalar.holds, Char.isAlphanum, isLetter]
      have characters : ∀ character ∈ [first, second],
          Turtle.isTagCharacter (.char character) = true := by
        simp only [List.forall_mem_cons]
        exact ⟨isTag areLetters.1, isTag areLetters.2, by simp⟩
      exact ⟨_, _, .language characters
        (isWellFormed_of_isAlpha (isAlpha_toLower areLetters.1) (isAlpha_toLower areLetters.2))⟩
  | datatype iri => exact ⟨_, _, .datatype iri.isPlainIri⟩

theorem writes_example (object : ExampleObject) :
    ∃ token node, Writes object.write token node ∧ node.text = object.value := by
  cases object with
  | iri target => exact ⟨_, _, .iri target.isPlainIri, rfl⟩
  | literal lexical tag =>
      obtain ⟨read, meaning, writes⟩ := writesTag_example tag
      exact ⟨_, _, .literal lexical writes, rfl⟩

theorem writesStatement_example (statement : ExampleStatement) :
    ∃ triple, WritesStatement statement.write triple ∧
      recordOfTriple triple = statement.record := by
  obtain ⟨token, node, writes, same⟩ := writes_example statement.object
  refine ⟨_, .statement statement.subject.isPlainIri statement.predicate.isPlainIri writes, ?_⟩
  simp only [recordOfTriple, same]
  rfl

/-- A file with one statement to a line is read as the records of the statements, in their
order, whatever tags their literals have. -/
theorem readTurtle_returns_written_records
    {statements : List ExampleStatement}
    {text : List Char}
    (holds : HoldsLines (statements.map ExampleStatement.write) text) :
    readTurtle (encode text) = .ok (statements.map ExampleStatement.record) := by
  choose tripleOf writes sameRecord using writesStatement_example
  have written : List.Forall₂ WritesStatement (statements.map ExampleStatement.write)
      (statements.map tripleOf) := by
    rw [List.forall₂_map_left_iff, List.forall₂_map_right_iff, List.forall₂_same]
    exact fun statement _ => writes statement
  have records : (statements.map tripleOf).map recordOfTriple =
      statements.map ExampleStatement.record := by
    rw [List.map_map]
    exact List.map_congr_left fun statement _ => sameRecord statement
  rw [readTurtle]
  exact (readGraph_holdsLines turtleLibrary holds written).trans (congrArg Except.ok records)

/-- A text of several lines that looks like the end of a statement. -/
def escapedStatement : ExampleStatement where
  subject := { name := "a.b".toList, plain := List.all_eq_true.mp rfl }
  predicate := { name := [], plain := List.all_eq_true.mp rfl }
  object := .literal "\"é\\ .\r\n".toList (.language 'D' 'e' ⟨rfl, rfl⟩)

def typedStatement : ExampleStatement where
  subject := { name := "~c".toList, plain := List.all_eq_true.mp rfl }
  predicate := { name := "p".toList, plain := List.all_eq_true.mp rfl }
  object := .literal [] (.datatype { name := "t".toList, plain := List.all_eq_true.mp rfl })

def escapedLine : List Char :=
  "<http://example.org/a.b> <http://example.org/> \"\\\"é\\\\ .\\r\\n\"@De .".toList

def typedLine : List Char :=
  "<http://example.org/~c> <http://example.org/p> \"\"^^<http://example.org/t> .".toList

theorem readTurtle_returns_written_records_escaped :
    HoldsLines ([escapedStatement, typedStatement].map ExampleStatement.write)
        (escapedLine ++ (['\r', '\n'] ++ typedLine)) ∧
      readTurtle (encode (escapedLine ++ (['\r', '\n'] ++ typedLine))) =
        .ok
          [{ subject := "http://example.org/a.b"
             predicate := "http://example.org/"
             object := "\"é\\ .\r\n" },
            { subject := "http://example.org/~c"
              predicate := "http://example.org/p"
              object := "" }] := by
  have holds : HoldsLines ([escapedStatement, typedStatement].map ExampleStatement.write)
      (escapedLine ++ (['\r', '\n'] ++ typedLine)) :=
    .line _ _ _ _ (Or.inr rfl) (.last _)
  exact ⟨holds, readTurtle_returns_written_records holds⟩

end TripleStore.Load
