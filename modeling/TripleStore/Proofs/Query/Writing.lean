import TripleStore.Proofs.Query.Grammar

/-!
Contract: the queries that can be written down, and the texts that they are written as.

Owns:
- `SelectQuery.Writable`, which says of each part of a query that it can be written;
- `SelectQuery.Writes`, by which a text has the tokens of a query with blanks between them;
- that reading gives writable queries only, and gives back every query from every text that
  writes it.

Does not own: how a token is spelled (`TripleStore.Proofs.Query.Lexeme`), and which tokens a
query has (`TripleStore.Proofs.Query.Grammar`).
-/

namespace TripleStore.Query

/-! ## Writable queries -/

/-- There is a quote that a writable literal does not hold. -/
def Slot.Writable : Slot → Prop
  | placeholder name => IsWord name.name.toList
  | literal term => ¬('\x27' ∈ term.toList ∧ '"' ∈ term.toList)

def Projection.Writable : Projection → Prop
  | .all => True
  | .listed chosen => chosen ≠ [] ∧ ∀ wanted ∈ chosen, IsWord wanted.name.toList

def Modifier.Writable : Modifier → Prop
  | distinct | all => True
  | limit count | offset count => IsNumber count.toList
  | groupBy name => IsWord name.name.toList

structure SelectQuery.Writable (query : SelectQuery) : Prop where
  projection : query.projection.Writable
  slots : ∀ placed ∈ query.pattern.slots, placed.2.Writable
  modifiers : ∀ modifier ∈ query.modifiers, modifier.Writable
  /-- Only the first modifier may be one that leads. -/
  leads : ∀ modifier ∈ query.modifiers.tail, ¬modifier.Leads

/-- The tokens of the query are spelled in the text, with blanks between any two of them
and with any blanks before and behind them. -/
def SelectQuery.Writes (query : SelectQuery) (text : String) : Prop :=
  ∃ tokens kinds, LaidOut Separated 0 tokens text.toList ∧ query.Derives kinds ∧
    tokens.map Token.kind = kinds ++ [.endOfInput]

/-! ## Kinds that can be spelled -/

def TokenKind.Spellable (kind : TokenKind) : Prop :=
  ∃ spelling, kind.Spelled spelling

namespace TokenKind

theorem spellable_variableName_iff (name : String) :
    (variableName name).Spellable ↔ IsWord name.toList := by
  constructor
  · rintro ⟨_, ⟨⟩⟩
    simpa
  · intro isWord
    have spelled := Spelled.variableName _ isWord
    rw [String.ofList_toList] at spelled
    exact ⟨_, spelled⟩

theorem spellable_number_iff (text : String) :
    (number text).Spellable ↔ IsNumber text.toList := by
  constructor
  · rintro ⟨_, ⟨⟩⟩
    simpa
  · intro isNumber
    have spelled := Spelled.number _ isNumber
    rw [String.ofList_toList] at spelled
    exact ⟨_, spelled⟩

theorem spellable_literal_iff (content : String) :
    (literal content).Spellable ↔ ¬('\x27' ∈ content.toList ∧ '"' ∈ content.toList) := by
  constructor
  · intro spellable both
    rcases spellable with ⟨_, spelled⟩
    cases spelled with
    | literal content quote quotes absent =>
        rw [String.toList_ofList] at both
        rcases isQuote_iff.mp quotes with rfl | rfl
        · exact absent both.1
        · exact absent both.2
  · intro notBoth
    have quoted : ∃ quote, isQuote quote = true ∧ quote ∉ content.toList := by
      by_cases single : '\x27' ∈ content.toList
      · exact ⟨'"', by decide, fun double => notBoth ⟨single, double⟩⟩
      · exact ⟨'\x27', by decide, single⟩
    rcases quoted with ⟨quote, quotes, absent⟩
    have spelled := Spelled.literal _ quote quotes absent
    rw [String.ofList_toList] at spelled
    exact ⟨_, spelled⟩

theorem spellable_keyword (word : Keyword) : (keyword word).Spellable := by
  refine ⟨word.text.toList, Spelled.keyword word _ ?_⟩
  cases word <;> decide

theorem spellable_of_mem_frameKinds {kind : TokenKind} (member : kind ∈ frameKinds) :
    kind.Spellable := by
  simp only [frameKinds, List.mem_cons, List.not_mem_nil, or_false] at member
  rcases member with rfl | rfl | rfl | rfl | rfl
  · exact spellable_keyword .SELECT
  · exact spellable_keyword .WHERE
  · exact ⟨_, .leftBrace⟩
  · exact ⟨_, .dot⟩
  · exact ⟨_, .rightBrace⟩

end TokenKind

open TokenKind (spellable_variableName_iff spellable_number_iff spellable_literal_iff
  spellable_keyword)

theorem Slot.spellable_kind_iff (slot : Slot) : slot.kind.Spellable ↔ slot.Writable := by
  cases slot with
  | placeholder name => exact spellable_variableName_iff name.name
  | literal term => exact spellable_literal_iff term

theorem Pattern.spellable_kinds_iff (pattern : Pattern) :
    (∀ kind ∈ pattern.kinds, kind.Spellable) ↔
      ∀ placed ∈ pattern.slots, placed.2.Writable := by
  simp [Pattern.kinds, Pattern.slots, Slot.spellable_kind_iff]

theorem Modifier.spellable_kinds_iff (modifier : Modifier) :
    (∀ kind ∈ modifier.kinds, kind.Spellable) ↔ modifier.Writable := by
  cases modifier <;>
    simp [Modifier.kinds, Modifier.Writable, spellable_keyword, spellable_number_iff,
      spellable_variableName_iff]

theorem Projection.spellable_kinds_iff
    {projection : Projection}
    (listsSome : projection ≠ .listed []) :
    (∀ kind ∈ projection.kinds, kind.Spellable) ↔ projection.Writable := by
  have comma : TokenKind.comma.Spellable := ⟨_, .comma⟩
  have star : TokenKind.star.Spellable := ⟨_, .star⟩
  rcases projection with _ | _ | ⟨first, others⟩
  · simp [Projection.kinds, Projection.Writable, star]
  · exact absurd rfl listsSome
  · simp only [Projection.kinds_listed_cons, moreKinds, List.forall_mem_cons,
      List.forall_mem_flatMap, comma, spellable_variableName_iff, Projection.Writable]
    simp

namespace SelectQuery

variable {query : SelectQuery} {kinds : List TokenKind}

/-! ## Sentences of writable queries -/

theorem Derives.listsSome (derives : query.Derives kinds) : query.projection ≠ .listed [] := by
  rcases derives with ⟨_, _, _, _, _, listsSome⟩
  exact listsSome

theorem Derives.leads (derives : query.Derives kinds) :
    ∀ modifier ∈ query.modifiers.tail, ¬modifier.Leads := by
  rcases derives with ⟨_, _, leading, trailing, _, _, leads, trails⟩
  rcases leads with rfl | rfl | rfl
  · intro modifier member
    exact trails modifier (List.mem_of_mem_tail member)
  · exact trails
  · exact trails

theorem Derives.writable_iff (derives : query.Derives kinds) :
    query.Writable ↔ ∀ kind ∈ kinds, kind.Spellable := by
  rw [derives.forall_mem_iff fun _ => TokenKind.spellable_of_mem_frameKinds,
    Projection.spellable_kinds_iff derives.listsSome, Pattern.spellable_kinds_iff]
  simp only [Modifier.spellable_kinds_iff]
  constructor
  · intro writable
    exact ⟨writable.projection, writable.slots, writable.modifiers⟩
  · intro parts
    exact ⟨parts.1, parts.2.1, parts.2.2, derives.leads⟩

/-- A modifier that leads is taken off the front of the modifiers. -/
theorem Writable.exists_derives (writable : query.Writable) : ∃ kinds, query.Derives kinds := by
  have listsSome : query.projection ≠ .listed [] := by
    intro isEmpty
    have writes := writable.projection
    rw [isEmpty] at writes
    exact writes.1 rfl
  have leads := writable.leads
  rcases query with ⟨projection, pattern, modifiers⟩
  rcases modifiers with _ | ⟨first, others⟩
  · exact ⟨_, .sentence projection pattern [] [] [] listsSome (Or.inl rfl) (by simp) (Or.inl rfl)⟩
  · by_cases firstLeads : first.Leads
    · refine ⟨_, .sentence projection pattern [first] others [] listsSome ?_ leads (Or.inl rfl)⟩
      rcases firstLeads with rfl | rfl
      · exact Or.inr (Or.inl rfl)
      · exact Or.inr (Or.inr rfl)
    · exact ⟨_, .sentence projection pattern [] (first :: others) [] listsSome (Or.inl rfl)
        (List.forall_mem_cons.mpr ⟨firstLeads, leads⟩) (Or.inl rfl)⟩

/-! ## Writing and reading -/

theorem Writable.exists_writes (writable : query.Writable) : ∃ text, query.Writes text := by
  rcases writable.exists_derives with ⟨kinds, derives⟩
  rcases exists_laidOut kinds (derives.writable_iff.mp writable) 0 with
    ⟨tokens, characters, laidOut, sameKinds, _⟩
  refine ⟨.ofList characters, tokens, kinds, ?_, derives, sameKinds⟩
  rwa [String.toList_ofList]

theorem writable_of_parse {text : String} (accepted : parse text = .ok query) :
    query.Writable := by
  rcases derives_of_parse accepted with ⟨tokens, kinds, tokenized, derives, sameKinds⟩
  rcases (laidOut_of_tokensFrom tokenized).exists_kinds with ⟨found, foundKinds, spelled⟩
  rw [sameKinds, List.append_cancel_right_eq] at foundKinds
  rw [derives.writable_iff, foundKinds]
  exact spelled

theorem Writes.parse_eq {text : String} (writes : query.Writes text) :
    parse text = .ok query := by
  rcases writes with ⟨tokens, kinds, laidOut, derives, sameKinds⟩
  exact parse_of_derives laidOut.tokensFrom_eq derives sameKinds

end SelectQuery

/-- Reading gives writable queries only, each of these can be written, and a query comes
back from every text that writes it. -/
theorem parse_inverts_writing (query : SelectQuery) :
    (∀ text, parse text = .ok query → query.Writable) ∧
      (query.Writable → ∃ text, query.Writes text) ∧
        ∀ text, query.Writes text → parse text = .ok query :=
  ⟨fun _ accepted => SelectQuery.writable_of_parse accepted,
    fun writable => writable.exists_writes,
    fun _ writes => writes.parse_eq⟩

/-- The name is a reserved word, and each literal holds the quote that the other one is
written in. -/
def quotedQuery : SelectQuery where
  projection := .all
  pattern :=
    { subject := .placeholder { name := "where" }
      predicate := .literal "say \"\x7b\""
      object := .literal "it's" }
  modifiers := [.limit "-.5E3"]

def quotedText : String :=
  " sElEcT * WHERE \x7b ?where 'say \"\x7b\"' \"it's\" \x7d limit -.5E3"

theorem parse_inverts_writing_quoted :
    quotedQuery.Writes quotedText ∧ parse quotedText = .ok quotedQuery ∧
      quotedQuery.Writable ∧ ∃ text, quotedQuery.Writes text := by
  have isWord : IsWord "where".toList :=
    .letters 'w' "here".toList (by decide) (List.all_eq_true.mp (by decide))
  have isNumber : IsNumber "-.5E3".toList :=
    (isNumber_numberSpelling (by decide : numberSpelling "-.5E3".toList ≠ [])).1
  have laidOut : LaidOut Separated 0 _ quotedText.toList :=
    .spaced (.keyword .SELECT "sElEcT".toList (by decide)) (separated_space _) <|
    .spaced .star (separated_space _) <|
    .spaced (.keyword .WHERE "WHERE".toList (by decide)) (separated_space _) <|
    .spaced .leftBrace (separated_space _) <|
    .spaced (.variableName _ isWord) (separated_space _) <|
    .spaced (.literal "say \"\x7b\"".toList '\x27' (by decide) (by decide)) (separated_space _) <|
    .spaced (.literal "it's".toList '"' (by decide) (by decide)) (separated_space _) <|
    .spaced .rightBrace (separated_space _) <|
    .spaced (.keyword .LIMIT "limit".toList (by decide)) (separated_space _) <|
    .spaced (.number _ isNumber) separated_nil <|
    .finish _ [] (by simp [AreBlank])
  have derives : quotedQuery.Derives _ :=
    .sentence .all quotedQuery.pattern [] [.limit "-.5E3"] [] (by simp) (Or.inl rfl)
      (by simp [Modifier.Leads]) (Or.inl rfl)
  have writes : quotedQuery.Writes quotedText := ⟨_, _, laidOut, derives, rfl⟩
  have inverts := parse_inverts_writing quotedQuery
  have accepted := inverts.2.2 quotedText writes
  have writable := inverts.1 quotedText accepted
  exact ⟨writes, accepted, writable, inverts.2.1 writable⟩

end TripleStore.Query
