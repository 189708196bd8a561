import TripleStore.Proofs.Query.LexicalFault
import TripleStore.Proofs.Query.Prompt
import TripleStore.Proofs.Query.Validity
import TripleStore.Query.Answer

/-!
Contract: what a fault of a query says about it.

Owns:
- that a fault names characters and tokens of the text only;
- that the message of a fault is on one line if the text is.

Does not own: which fault a text has.
-/

namespace TripleStore.Query

def OneLine (text : String) : Prop :=
  '\n' ∉ text.toList

instance (text : String) : Decidable (OneLine text) := by
  unfold OneLine
  infer_instance

variable {Follows : List Char → Prop} {offset : Nat} {tokens : List Token}
  {characters : List Char} {kind : TokenKind} {name : Variable} {query : SelectQuery}
  {text : String}

theorem OneLine.append
    {front behind : String}
    (frontOneLine : OneLine front)
    (behindOneLine : OneLine behind) :
    OneLine (front ++ behind) := by
  unfold OneLine at *
  rw [String.toList_append, List.mem_append, not_or]
  exact ⟨frontOneLine, behindOneLine⟩

theorem oneLine_ofList (visible : '\n' ∉ characters) : OneLine (.ofList characters) := by
  rwa [OneLine, String.toList_ofList]

theorem oneLine_toString (number : Nat) : OneLine (toString number) := by
  intro member
  have isDigit : '\n'.isDigit = true := by
    apply Nat.isDigit_of_mem_toDigits (by decide) (by decide) (n := number) (b := 10)
    simpa using member
  cases isDigit

/-! ## Tokens of the text -/

/-- The kind is that of the end of input, or is spelled with some of the characters. -/
def TokenKind.IsWithin (kind : TokenKind) (characters : List Char) : Prop :=
  kind = .endOfInput ∨ ∃ spelling, kind.Spelled spelling ∧ spelling ⊆ characters

theorem LaidOut.isWithin (laidOut : LaidOut Follows offset tokens characters) :
    ∀ token ∈ tokens, token.kind.IsWithin characters := by
  induction laidOut with
  | finish offset blanks areBlank => simp [TokenKind.IsWithin]
  | token offset blanks kind spelling tokens rest areBlank spelled follows others
      inductionHypothesis =>
      refine List.forall_mem_cons.mpr ⟨Or.inr ⟨spelling, spelled, by simp⟩, ?_⟩
      intro token member
      rcases inductionHypothesis token member with isEnd | ⟨written, isSpelled, within⟩
      · exact Or.inl isEnd
      · exact Or.inr ⟨written, isSpelled, List.subset_append_of_subset_right _ within⟩

theorem oneLine_describe
    (within : kind.IsWithin characters)
    (oneLine : '\n' ∉ characters) :
    OneLine kind.describe := by
  rcases within with rfl | ⟨spelling, spelled, within⟩
  · decide
  · have inSpelling : '\n' ∉ spelling := fun member => oneLine (within member)
    cases spelled with
    | keyword word letters spells => cases word <;> decide
    | operator sign => cases sign <;> decide
    | identifier name isWord unreserved =>
        exact .append (.append (by decide) (oneLine_ofList inSpelling)) (by decide)
    | variableName name isWord =>
        rw [List.mem_cons, not_or] at inSpelling
        exact .append (by decide) (oneLine_ofList inSpelling.2)
    | number text isNumber => exact .append (by decide) (oneLine_ofList inSpelling)
    | literal content quote quotes absent =>
        rw [List.mem_cons, List.mem_append, not_or, not_or] at inSpelling
        exact .append (.append (by decide) (oneLine_ofList inSpelling.2.1)) (by decide)
    | _ => decide

/-! ## Faults of the text -/

theorem oneLine_lexicalCause {first : Char} (visible : first ≠ '\n') :
    OneLine (lexicalCause first).message := by
  unfold lexicalCause
  split
  · decide
  · split
    · decide
    · have named : OneLine first.toString := by
        simpa [OneLine] using visible.symm
      have front : OneLine "unexpected character '" := by decide
      have behind : OneLine "'" := by decide
      exact .append (.append front named) behind

/-- The cause is the character at which no token starts. -/
theorem lexicalCause_of_tokensFrom
    {error : ParseError}
    (failed : tokensFrom offset characters = .error error) :
    ∃ first ∈ characters, error.cause = lexicalCause first := by
  obtain ⟨front, first, rest, rfl, _, _, _, rfl⟩ := exists_front_of_tokensFrom failed
  exact ⟨first, by simp, rfl⟩

theorem oneLine_parse
    {error : ParseError}
    (failed : parse text = .error error)
    (oneLine : OneLine text) :
    OneLine error.message := by
  have position := oneLine_toString error.offset
  have front : OneLine "parse error at offset " := by decide
  have middle : OneLine ": " := by decide
  suffices cause : OneLine error.cause.message from
    .append (.append (.append front position) middle) cause
  cases tokenized : tokenize text with
  | error fault =>
      rw [parse, tokenized] at failed
      cases failed
      obtain ⟨first, member, isCause⟩ := lexicalCause_of_tokensFrom tokenized
      rw [isCause]
      apply oneLine_lexicalCause
      rintro rfl
      exact oneLine member
  | ok tokens =>
      rw [parse, tokenized] at failed
      obtain ⟨before, after, rfl, stops⟩ := prompt_parseTokens.stops tokens error failed
      obtain ⟨expected, rfl⟩ := stops.fault
      have within : (currentToken after).kind.IsWithin text.toList := by
        cases after with
        | nil => exact Or.inl rfl
        | cons token after => exact (laidOut_of_tokensFrom tokenized).isWithin token (by simp)
      have wanted : OneLine expected.describe := by cases expected <;> decide
      have opening : OneLine "expected " := by decide
      have found : OneLine ", found " := by decide
      exact .append (.append (.append opening wanted) found) (oneLine_describe within oneLine)

/-! ## Variables that do not fit -/

theorem oneLine_variable (isWord : IsWord name.name.toList) : OneLine name.text := by
  have noWord : isWordStart '\n' = false ∧ isWordCharacter '\n' = false := by decide
  have visible : OneLine name.name := by
    intro member
    cases whole : name.name.toList with
    | nil => simp [whole] at member
    | cons first others =>
        rw [whole] at isWord member
        cases isWord with
        | letters _ _ starts goesOn =>
            rcases List.mem_cons.mp member with rfl | later
            · rw [noWord.1] at starts
              cases starts
            · have inWord := goesOn _ later
              rw [noWord.2] at inWord
              cases inWord
  have mark : OneLine "?" := by decide
  exact .append mark visible

namespace SelectQuery

theorem Writable.isWord_listed
    (writable : query.Writable)
    (member : name ∈ query.listedVariables) :
    IsWord name.name.toList := by
  have projection := writable.projection
  unfold listedVariables at member
  cases projected : query.projection with
  | all => simp [projected] at member
  | listed chosen =>
      rw [projected] at projection member
      exact projection.2 name member

theorem Writable.isWord_placed
    (writable : query.Writable)
    (member : name ∈ query.pattern.allVariables) :
    IsWord name.name.toList := by
  obtain ⟨role, inSlot⟩ := (query.pattern.mem_allVariables_iff name).mp member
  have isSlot : (role, query.pattern.slot role) ∈ query.pattern.slots := by
    cases role <;> simp [Pattern.slots, Pattern.slot]
  have slotWritable := writable.slots _ isSlot
  rwa [inSlot] at slotWritable

end SelectQuery

theorem mem_of_firstRepeatAfter?
    {seen names : List Variable}
    (found : firstRepeatAfter? seen names = some name) :
    name ∈ names := by
  induction names generalizing seen with
  | nil => cases found
  | cons first others inductionHypothesis =>
      rw [firstRepeatAfter?] at found
      split at found
      · cases found
        exact List.mem_cons_self
      · exact List.mem_cons_of_mem _ (inductionHypothesis found)

/-- A variable that is complained about is one of the query. -/
theorem oneLine_invalidity
    {fault : Invalidity}
    (writable : query.Writable)
    (found : query.invalidity? = some fault) :
    OneLine fault.message := by
  unfold SelectQuery.invalidity? at found
  simp only [Option.orElse_eq_orElse, Option.orElse_eq_or, Option.or_eq_some_iff,
    Option.map_eq_some_iff] at found
  rcases found with ⟨name, isRepeat, rfl⟩ | ⟨_, ⟨name, isRepeat, rfl⟩ | ⟨_, name, isUnbound, rfl⟩⟩
  · have isWord := writable.isWord_listed (mem_of_firstRepeatAfter? isRepeat)
    have front : OneLine "duplicate projected variable " := by decide
    exact .append front (oneLine_variable isWord)
  · have isWord := writable.isWord_placed (mem_of_firstRepeatAfter? isRepeat)
    have front : OneLine "duplicate pattern variable " := by decide
    exact .append front (oneLine_variable isWord)
  · have isWord := writable.isWord_listed (List.mem_of_find?_eq_some isUnbound)
    have front : OneLine "projected variable " := by decide
    have behind : OneLine " not bound by pattern" := by decide
    exact .append (.append front (oneLine_variable isWord)) behind

/-- A fault of a text on one line is told on one line. -/
theorem oneLine_answer
    {store : Store}
    {error : QueryError}
    (failed : answer store text = .error error)
    (oneLine : OneLine text) :
    OneLine error.message := by
  unfold answer at failed
  cases parsed : parse text with
  | error fault =>
      rw [parsed] at failed
      cases failed
      exact oneLine_parse parsed oneLine
  | ok query =>
      rw [parsed] at failed
      have writable := SelectQuery.writable_of_parse parsed
      simp only [execute] at failed
      split at failed
      · next fault found =>
          cases failed
          have front : OneLine "invalid query: " := by decide
          exact .append front (oneLine_invalidity writable found)
      · cases failed

end TripleStore.Query
