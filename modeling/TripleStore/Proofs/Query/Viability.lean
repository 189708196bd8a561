import Mathlib.Computability.Language
import TripleStore.Proofs.Query.Writing

/-!
Contract: how sentences of the grammar begin.

Owns:
- `sentences`, and `Viable`, by which some sentence begins with kinds of tokens;
- that another choice of names, numbers and literals makes no difference to the grammar;
- that viable kinds which can be written are those that some query begins with.

Does not own: at which token a text that is no query is refused
(`TripleStore.Proofs.Query.Prompt`).
-/

namespace TripleStore.Query

/-- The sentences of the grammar, the end of input left out. -/
def sentences : Language TokenKind :=
  {kinds | ∃ query : SelectQuery, query.Derives kinds}

/-- Some sentence begins with the kinds. The end of input is the last kind of a sentence. -/
def Viable (kinds : List TokenKind) : Prop :=
  ∃ sentence ∈ sentences, kinds <+: sentence ++ [.endOfInput]

/-! ## Other texts in the same places -/

/-- What the names, numbers and literals of a query are replaced with. -/
structure Respelling where
  name : String → String
  number : String → String
  literal : String → String

namespace Respelling

variable (respelling : Respelling)

def kind : TokenKind → TokenKind
  | .variableName name => .variableName (respelling.name name)
  | .number text => .number (respelling.number text)
  | .literal content => .literal (respelling.literal content)
  | other => other

def wanted (wanted : Variable) : Variable where
  name := respelling.name wanted.name

def slot : Slot → Slot
  | .placeholder name => .placeholder (respelling.wanted name)
  | .literal term => .literal (respelling.literal term)

def pattern (pattern : Pattern) : Pattern where
  subject := respelling.slot pattern.subject
  predicate := respelling.slot pattern.predicate
  object := respelling.slot pattern.object

def projection : Projection → Projection
  | .all => .all
  | .listed chosen => .listed (chosen.map respelling.wanted)

def modifier : Modifier → Modifier
  | .distinct => .distinct
  | .all => .all
  | .limit count => .limit (respelling.number count)
  | .offset count => .offset (respelling.number count)
  | .groupBy name => .groupBy (respelling.wanted name)

theorem kind_slot (slot : Slot) : (respelling.slot slot).kind = respelling.kind slot.kind := by
  cases slot <;> rfl

theorem kinds_pattern (pattern : Pattern) :
    (respelling.pattern pattern).kinds = pattern.kinds.map respelling.kind := by
  simp [Pattern.kinds, Respelling.pattern, kind_slot]

theorem kinds_projection (projection : Projection) :
    (respelling.projection projection).kinds = projection.kinds.map respelling.kind := by
  rcases projection with _ | _ | ⟨first, others⟩
  · rfl
  · rfl
  · simp [Respelling.projection, Projection.kinds_listed_cons, moreKinds, List.map_flatMap,
      List.flatMap_map, kind, Respelling.wanted]

theorem kinds_modifier (modifier : Modifier) :
    (respelling.modifier modifier).kinds = modifier.kinds.map respelling.kind := by
  cases modifier <;> rfl

theorem leads_modifier (modifier : Modifier) :
    (respelling.modifier modifier).Leads ↔ modifier.Leads := by
  cases modifier <;> simp [Respelling.modifier, Modifier.Leads]

theorem map_kind_mem_sentences {kinds : List TokenKind} (isSentence : kinds ∈ sentences) :
    kinds.map respelling.kind ∈ sentences := by
  obtain ⟨query, projection, pattern, leading, trailing, dots, listsSome, leads, trails,
    atMostOne⟩ := isSentence
  have stillListsSome : respelling.projection projection ≠ .listed [] := by
    cases projection with
    | all => simp [Respelling.projection]
    | listed chosen => simpa [Respelling.projection] using listsSome
  have stillTrails : ∀ modifier ∈ trailing.map respelling.modifier, ¬modifier.Leads := by
    simpa [leads_modifier] using trails
  have sameLeading :
      (leading.flatMap Modifier.kinds).map respelling.kind = leading.flatMap Modifier.kinds := by
    rcases leads with rfl | rfl | rfl <;> rfl
  have sameDots : dots.map respelling.kind = dots := by
    rcases atMostOne with rfl | rfl <;> rfl
  have derives := SelectQuery.Derives.sentence (respelling.projection projection)
    (respelling.pattern pattern) leading (trailing.map respelling.modifier) dots stillListsSome
    leads stillTrails atMostOne
  have stillSentence : _ ∈ sentences := ⟨_, derives⟩
  simpa [Pattern.clauseKinds, kinds_pattern, kinds_projection, kinds_modifier, sameLeading,
    sameDots, kind, List.flatMap_map, List.map_flatMap] using stillSentence

end Respelling

/-! ## Beginnings of queries -/

open Classical in
/-- Names, numbers and literals are kept where they can be written. -/
noncomputable def writableRespelling : Respelling where
  name := fun name => if (TokenKind.variableName name).Spellable then name else "x"
  number := fun text => if (TokenKind.number text).Spellable then text else "1"
  literal := fun content => if (TokenKind.literal content).Spellable then content else ""

variable {kind : TokenKind} {kinds : List TokenKind}

theorem writableRespelling_kind_of_spellable (spellable : kind.Spellable) :
    writableRespelling.kind kind = kind := by
  cases kind <;> simp [Respelling.kind, writableRespelling, spellable]

theorem spellable_variableName (name : String) :
    (writableRespelling.kind (.variableName name)).Spellable := by
  by_cases spellable : (TokenKind.variableName name).Spellable
  · rwa [writableRespelling_kind_of_spellable spellable]
  · have isWord : IsWord "x".toList := .letters 'x' [] (by decide) (by simp)
    simpa [Respelling.kind, writableRespelling, spellable] using
      (TokenKind.spellable_variableName_iff "x").mpr isWord

theorem spellable_number (text : String) :
    (writableRespelling.kind (.number text)).Spellable := by
  by_cases spellable : (TokenKind.number text).Spellable
  · rwa [writableRespelling_kind_of_spellable spellable]
  · have isNumber : IsNumber "1".toList :=
      (isNumber_numberSpelling (by decide : numberSpelling "1".toList ≠ [])).1
    simpa [Respelling.kind, writableRespelling, spellable] using
      (TokenKind.spellable_number_iff "1").mpr isNumber

theorem spellable_literal (content : String) :
    (writableRespelling.kind (.literal content)).Spellable := by
  by_cases spellable : (TokenKind.literal content).Spellable
  · rwa [writableRespelling_kind_of_spellable spellable]
  · simpa [Respelling.kind, writableRespelling, spellable] using
      (TokenKind.spellable_literal_iff "").mpr (by simp)

theorem spellable_slot (slot : Slot) : (writableRespelling.kind slot.kind).Spellable := by
  cases slot with
  | placeholder name => exact spellable_variableName name.name
  | literal term => exact spellable_literal term

theorem spellable_of_mem_sentence (isSentence : kinds ∈ sentences) :
    ∀ kind ∈ kinds, (writableRespelling.kind kind).Spellable := by
  obtain ⟨query, derives⟩ := isSentence
  have ofFixed : ∀ kind, kind.Spellable → (writableRespelling.kind kind).Spellable := by
    intro kind spellable
    rwa [writableRespelling_kind_of_spellable spellable]
  have ofKeyword := fun word => ofFixed _ (TokenKind.spellable_keyword word)
  rw [derives.forall_mem_iff fun kind isFrame =>
    ofFixed kind (TokenKind.spellable_of_mem_frameKinds isFrame)]
  refine ⟨?_, ?_, ?_⟩
  · rcases query.projection with _ | _ | ⟨first, others⟩
    · simpa [Projection.kinds] using ofFixed _ ⟨_, .star⟩
    · simp [Projection.kinds]
    · have ofComma := ofFixed .comma ⟨_, .comma⟩
      simp only [Projection.kinds_listed_cons, moreKinds, List.forall_mem_cons,
        List.forall_mem_flatMap, spellable_variableName, ofComma]
      simp
  · simp [Pattern.kinds, spellable_slot]
  · intro modifier _
    cases modifier <;> simp [Modifier.kinds, ofKeyword, spellable_number, spellable_variableName]

/-- Kinds that can be written are viable exactly if the tokens of some query begin with them. -/
theorem viable_iff_begins_query (spellable : ∀ kind ∈ kinds, kind.Spellable) :
    Viable kinds ↔ ∃ text tokens query, tokenize text = .ok tokens ∧ parse text = .ok query ∧
      kinds <+: tokens.map Token.kind := by
  constructor
  · rintro ⟨sentence, isSentence, begins⟩
    have kept : kinds.map writableRespelling.kind = kinds := by
      rw [List.map_congr_left fun kind member =>
        writableRespelling_kind_of_spellable (spellable kind member), List.map_id']
    obtain ⟨query, derives⟩ := writableRespelling.map_kind_mem_sentences isSentence
    obtain ⟨tokens, characters, laidOut, sameKinds, _⟩ :=
      exists_laidOut (sentence.map writableRespelling.kind)
        (List.forall_mem_map.mpr (spellable_of_mem_sentence isSentence)) 0
    have tokenized : tokenize (.ofList characters) = .ok tokens := by
      rw [tokenize, String.toList_ofList]
      exact laidOut.tokensFrom_eq
    refine ⟨_, tokens, query, tokenized, parse_of_derives tokenized derives sameKinds, ?_⟩
    have beginsRespelled := begins.map writableRespelling.kind
    rw [kept, List.map_append] at beginsRespelled
    rwa [sameKinds]
  · rintro ⟨text, tokens, query, tokenized, accepted, begins⟩
    obtain ⟨_, sentence, tokenizedAgain, derives, sameKinds⟩ := derives_of_parse accepted
    rw [tokenized] at tokenizedAgain
    cases tokenizedAgain
    exact ⟨sentence, ⟨query, derives⟩, sameKinds ▸ begins⟩

end TripleStore.Query
