import TripleStore.Proofs.Query.Viability

/-!
Contract: readers that refuse a sequence of tokens as early as they can.

Owns:
- `Prompt`, by which a reader refuses the first token that its part of a sentence cannot go
  on with, and looks at nothing behind that token;
- that readers one behind the other are prompt if each of them is;
- that a text which is no query is refused at its first hopeless token.

Does not own: which beginnings of sentences there are (`TripleStore.Proofs.Query.Viability`),
and the faults of texts that cannot be cut into tokens.
-/

namespace TripleStore.Query

variable {kind : TokenKind} {tokens rest before after : List Token} {error : ParseError}
  {part nextPart : Language TokenKind} {Value Result : Type}

/-! ## Readers that look no further than the next token -/

/-- What a reader takes off is a part of a sentence, and is taken off just so wherever the
same token comes next. -/
def Steady
    (read : List Token → Except ParseError (Value × List Token))
    (part : Language TokenKind) : Prop :=
  ∀ tokens value rest, read tokens = .ok (value, rest) →
    ∃ taken, tokens = taken ++ rest ∧ taken.map Token.kind ∈ part ∧
      ∀ others, currentToken others = currentToken rest →
        read (taken ++ others) = .ok (value, others)

/-- The first token of `after` is refused. The tokens before it begin a part of a sentence,
and those behind it do not matter. -/
structure StopsAt
    (read : List Token → Except ParseError Result)
    (part : Language TokenKind)
    (before after : List Token)
    (error : ParseError) : Prop where
  fault : ∃ expected, error =
    { cause := .unexpectedToken expected (currentToken after).kind
      offset := (currentToken after).offset }
  begins : ∃ kinds ∈ part, before.map Token.kind <+: kinds
  again : ∀ others, currentToken others = currentToken after →
    read (before ++ others) = .error error

structure Prompt
    (read : List Token → Except ParseError Result)
    (part : Language TokenKind) : Prop where
  inhabited : ∃ kinds, kinds ∈ part
  stops : ∀ tokens error, read tokens = .error error →
    ∃ before after, tokens = before ++ after ∧ StopsAt read part before after error

theorem refuse_congr
    (expected : Expectation)
    {others : List Token}
    (same : currentToken others = currentToken tokens) :
    (refuse expected others : Except ParseError Result) = refuse expected tokens := by
  unfold refuse
  rw [same]

theorem currentToken_append
    {others : List Token}
    (same : currentToken others = currentToken after) :
    currentToken (before ++ others) = currentToken (before ++ after) := by
  cases before with
  | nil => exact same
  | cons token before => rfl

/-- Only the end of input is seen where there is no token. -/
theorem eq_cons_of_currentToken
    (isKind : (currentToken tokens).kind = kind)
    (notEnd : kind ≠ .endOfInput) :
    ∃ offset others, tokens = { kind, offset } :: others := by
  cases tokens with
  | nil => exact absurd isKind.symm notEnd
  | cons token others =>
      obtain ⟨found, offset⟩ := token
      exact ⟨offset, others, by rw [← isKind]; rfl⟩

theorem currentToken_ne
    {Found : Type}
    {kindOf : Found → TokenKind}
    (absent : ∀ found offset others, tokens = { kind := kindOf found, offset } :: others → False)
    (notEnd : ∀ found, kindOf found ≠ .endOfInput)
    (found : Found) :
    (currentToken tokens).kind ≠ kindOf found := by
  intro isKind
  obtain ⟨offset, others, whole⟩ := eq_cons_of_currentToken isKind (notEnd found)
  exact absent found offset others whole

/-- A reader that refuses whatever starts with the same token stops there. -/
theorem StopsAt.of_refuse
    {read : List Token → Except ParseError Result}
    (expected : Expectation)
    (begins : ∃ kinds ∈ part, before.map Token.kind <+: kinds)
    (refuses : ∀ others, currentToken others = currentToken after →
      read (before ++ others) = refuse expected others)
    (refused : refuse expected after = (.error error : Except ParseError Result)) :
    StopsAt read part before after error := by
  refine ⟨⟨expected, (Except.error.inj refused).symm⟩, begins, ?_⟩
  intro others same
  rw [refuses others same, refuse_congr expected same, refused]

/-! ## One reader behind another -/

/-- What stops behind a part that was taken off stops the whole. -/
theorem StopsAt.behind
    {next read : List Token → Except ParseError Result}
    {taken : List Token}
    (stops : StopsAt next nextPart before after error)
    (isPart : taken.map Token.kind ∈ part)
    (goesOn : ∀ others, currentToken others = currentToken (before ++ after) →
      read (taken ++ others) = next others) :
    StopsAt read (part * nextPart) (taken ++ before) after error where
  fault := stops.fault
  begins := by
    obtain ⟨kinds, isNext, begins⟩ := stops.begins
    refine ⟨_, Language.append_mem_mul isPart isNext, ?_⟩
    rw [List.map_append]
    exact (List.prefix_append_right_inj _).mpr begins
  again := by
    intro others same
    rw [List.append_assoc, goesOn _ (currentToken_append same), stops.again others same]

theorem Prompt.bind
    [Nonempty Value]
    {first : List Token → Except ParseError (Value × List Token)}
    {next : Value × List Token → Except ParseError Result}
    (steady : Steady first part)
    (prompt : Prompt first part)
    (nextPrompt : ∀ value, Prompt (fun rest => next (value, rest)) nextPart) :
    Prompt (fun tokens => first tokens >>= next) (part * nextPart) := by
  obtain ⟨someKinds, isPart⟩ := prompt.inhabited
  obtain ⟨someOthers, isNext⟩ := (nextPrompt (Classical.arbitrary Value)).inhabited
  refine ⟨⟨_, Language.append_mem_mul isPart isNext⟩, ?_⟩
  intro tokens error failed
  cases read : first tokens with
  | error fault =>
      obtain ⟨before, after, rfl, stops⟩ := prompt.stops tokens fault read
      rw [read] at failed
      cases failed
      obtain ⟨kinds, isFront, begins⟩ := stops.begins
      refine ⟨before, after, rfl, stops.fault,
        ⟨_, Language.append_mem_mul isFront isNext, begins.trans (List.prefix_append _ _)⟩, ?_⟩
      intro others same
      rw [stops.again others same]
      rfl
  | ok result =>
      obtain ⟨value, rest⟩ := result
      rw [read] at failed
      obtain ⟨taken, rfl, isTaken, again⟩ := steady tokens value rest read
      obtain ⟨before, after, rfl, stops⟩ := (nextPrompt value).stops rest error failed
      refine ⟨taken ++ before, after, (List.append_assoc _ _ _).symm, stops.behind isTaken ?_⟩
      intro others same
      rw [again others same]
      rfl

/-- A reader that never fails, in front of another one. -/
theorem Prompt.pass
    [Nonempty Value]
    {first : List Token → Value × List Token}
    {next : Value → List Token → Except ParseError Result}
    {read : List Token → Except ParseError Result}
    (inhabited : ∃ kinds, kinds ∈ part)
    (steady : Steady (fun tokens => .ok (first tokens)) part)
    (goesOn : ∀ tokens value rest, first tokens = (value, rest) → read tokens = next value rest)
    (nextPrompt : ∀ value, Prompt (next value) nextPart) :
    Prompt read (part * nextPart) := by
  have prompt : Prompt (fun tokens => .ok (first tokens)) part :=
    ⟨inhabited, fun _ _ failed => by cases failed⟩
  have bound : Prompt
      (fun tokens => (Except.ok (first tokens) : Except ParseError (Value × List Token)) >>=
        fun result => next result.1 result.2)
      (part * nextPart) :=
    prompt.bind steady nextPrompt
  have same : read = fun tokens => next (first tokens).1 (first tokens).2 := by
    funext tokens
    exact goesOn tokens _ _ rfl
  rw [same]
  exact bound

theorem Prompt.mono
    {read : List Token → Except ParseError Result}
    (prompt : Prompt read part)
    (atMost : ∀ kinds ∈ part, kinds ∈ nextPart) :
    Prompt read nextPart := by
  obtain ⟨someKinds, isPart⟩ := prompt.inhabited
  refine ⟨⟨someKinds, atMost _ isPart⟩, ?_⟩
  intro tokens error failed
  obtain ⟨before, after, whole, fault, ⟨kinds, member, begins⟩, again⟩ :=
    prompt.stops tokens error failed
  exact ⟨before, after, whole, fault, ⟨kinds, atMost kinds member, begins⟩, again⟩

theorem prompt_ok (result : List Token → Result) :
    Prompt (fun tokens => .ok (result tokens)) 1 :=
  ⟨⟨[], rfl⟩, fun _ _ failed => by cases failed⟩

/-! ## Readers of one token -/

/-- One token, of one of these kinds. -/
def single (kindOf : Value → TokenKind) : Language TokenKind :=
  {kinds | ∃ value, kinds = [kindOf value]}

theorem steady_of_reads
    {read : List Token → Except ParseError (Value × List Token)}
    (reads : ∀ tokens value rest, read tokens = .ok (value, rest) →
      ∃ kinds ∈ part, Reads kinds tokens rest ∧
        ∀ others behind, Reads kinds others behind → currentToken behind = currentToken rest →
          read others = .ok (value, behind)) :
    Steady read part := by
  intro tokens value rest accepted
  obtain ⟨kinds, isPart, ⟨taken, whole, rfl⟩, again⟩ := reads tokens value rest accepted
  exact ⟨taken, whole, isPart, fun others same => again _ _ ⟨taken, rfl, rfl⟩ same⟩

section SingleToken

variable {kindOf : Value → TokenKind}
  {read : List Token → Except ParseError (Value × List Token)}

theorem steady_single
    (exact : ∀ tokens value rest,
      read tokens = .ok (value, rest) ↔ Reads [kindOf value] tokens rest) :
    Steady read (single kindOf) := by
  apply steady_of_reads
  intro tokens value rest accepted
  refine ⟨_, ⟨value, rfl⟩, (exact _ _ _).mp accepted, ?_⟩
  intro others behind reads _
  exact (exact _ _ _).mpr reads

theorem prompt_single
    [Nonempty Value]
    (expected : Expectation)
    (exact : ∀ tokens value rest,
      read tokens = .ok (value, rest) ↔ Reads [kindOf value] tokens rest)
    (notEnd : ∀ value, kindOf value ≠ .endOfInput)
    (refuses : ∀ tokens, (∃ result, read tokens = .ok result) ∨
      read tokens = refuse expected tokens) :
    Prompt read (single kindOf) := by
  have inhabited : ∃ kinds, kinds ∈ single kindOf := ⟨_, Classical.arbitrary Value, rfl⟩
  refine ⟨inhabited, ?_⟩
  intro tokens error failed
  obtain ⟨someKinds, isPart⟩ := inhabited
  have refusesAgain : ∀ others, currentToken others = currentToken tokens →
      read ([] ++ others) = refuse expected others := by
    intro others same
    rcases refuses others with ⟨⟨value, behind⟩, accepted⟩ | refused
    · -- the same token would have been taken off the tokens that were refused
      obtain ⟨offset, _, rfl, _⟩ := reads_cons_iff.mp ((exact _ _ _).mp accepted)
      have isKind : (currentToken tokens).kind = kindOf value := by
        rw [← same]
        rfl
      obtain ⟨place, rest, rfl⟩ := eq_cons_of_currentToken isKind (notEnd value)
      have again : read ({ kind := kindOf value, offset := place } :: rest) = .ok (value, rest) :=
        (exact _ _ _).mpr (reads_cons_cons.mpr ⟨rfl, reads_nil.mpr rfl⟩)
      rw [failed] at again
      cases again
    · exact refused
  exact ⟨[], tokens, rfl, StopsAt.of_refuse expected ⟨someKinds, isPart, List.nil_prefix⟩
    refusesAgain ((refusesAgain tokens rfl).symm.trans failed)⟩

end SingleToken

instance : Nonempty Slot := ⟨.literal ""⟩

instance : Nonempty Variable := ⟨{ name := "" }⟩

def variableKinds : Language TokenKind :=
  single fun wanted : Variable => .variableName wanted.name

def slotKinds : Language TokenKind :=
  single Slot.kind

theorem steady_readVariable (expected : Expectation) :
    Steady (readVariable expected) variableKinds :=
  steady_single fun _ wanted _ => readVariable_eq_ok_iff expected wanted

theorem prompt_readVariable (expected : Expectation) :
    Prompt (readVariable expected) variableKinds := by
  refine prompt_single expected (fun _ wanted _ => readVariable_eq_ok_iff expected wanted)
    (by simp) ?_
  intro tokens
  fun_cases readVariable expected tokens with
  | case1 => exact Or.inl ⟨_, rfl⟩
  | case2 => exact Or.inr rfl

theorem steady_readSlot : Steady readSlot slotKinds :=
  steady_single fun _ slot _ => readSlot_eq_ok_iff slot

theorem prompt_readSlot : Prompt readSlot slotKinds := by
  refine prompt_single .slot (fun _ slot _ => readSlot_eq_ok_iff slot) Slot.kind_ne_endOfInput ?_
  intro tokens
  fun_cases readSlot tokens with
  | case1 => exact Or.inl ⟨_, rfl⟩
  | case2 => exact Or.inl ⟨_, rfl⟩
  | case3 => exact Or.inr rfl

/-- The one kind that is expected, read as a part that has no value of its own. -/
def readKind (kind : TokenKind) (expected : Expectation) (tokens : List Token) :
    Except ParseError (Unit × List Token) :=
  (expectKind kind expected tokens).map fun rest => ((), rest)

def oneKind (kind : TokenKind) : Language TokenKind :=
  single fun _ : Unit => kind

theorem readKind_eq_ok_iff (expected : Expectation) (value : Unit) :
    readKind kind expected tokens = .ok (value, rest) ↔ Reads [kind] tokens rest := by
  rw [← expectKind_eq_ok_iff expected]
  unfold readKind
  cases expectKind kind expected tokens <;> simp [Except.map]

theorem prompt_readKind (expected : Expectation) (notEnd : kind ≠ .endOfInput) :
    Prompt (readKind kind expected) (oneKind kind) := by
  refine prompt_single expected (fun _ value _ => readKind_eq_ok_iff expected value)
    (fun _ => notEnd) ?_
  intro tokens
  unfold readKind
  fun_cases expectKind kind expected tokens with
  | case1 => exact Or.inl ⟨_, rfl⟩
  | case2 => exact Or.inr rfl
  | case3 => exact Or.inr rfl

theorem Prompt.behindKind
    (expected : Expectation)
    {next : List Token → Except ParseError Result}
    (notEnd : kind ≠ .endOfInput)
    (nextPrompt : Prompt next nextPart) :
    Prompt (fun tokens => expectKind kind expected tokens >>= next)
      (oneKind kind * nextPart) := by
  have bound : Prompt (fun tokens => readKind kind expected tokens >>= fun result => next result.2)
      (oneKind kind * nextPart) :=
    (prompt_readKind expected notEnd).bind
      (steady_single fun _ value _ => readKind_eq_ok_iff expected value) fun _ => nextPrompt
  have same : (fun tokens => expectKind kind expected tokens >>= next) =
      fun tokens => readKind kind expected tokens >>= fun result => next result.2 := by
    funext tokens
    unfold readKind
    cases expectKind kind expected tokens <;> rfl
  rw [same]
  exact bound

/-! ## Lists -/

/-- What stops in the rest of a list stops the whole list. -/
theorem StopsAt.prepend
    {Element : Type}
    {read : List Token → Except ParseError (List Element × List Token)}
    (taken : List Token)
    (element : Element)
    (stops : StopsAt read part before after error)
    (goesOn : ∀ others, read (taken ++ others) = do
      let (more, remaining) ← read others
      return (element :: more, remaining))
    (grows : ∀ kinds ∈ part, taken.map Token.kind ++ kinds ∈ part) :
    StopsAt read part (taken ++ before) after error where
  fault := stops.fault
  begins := by
    obtain ⟨kinds, isPart, begins⟩ := stops.begins
    refine ⟨_, grows kinds isPart, ?_⟩
    rw [List.map_append]
    exact (List.prefix_append_right_inj _).mpr begins
  again := by
    intro others same
    rw [List.append_assoc, goesOn, stops.again others same]
    rfl

theorem prepend_eq_error_iff
    {Element : Type}
    {first : Element}
    {others : Except ParseError (List Element × List Token)} :
    (do
        let (more, remaining) ← others
        return (first :: more, remaining)) = .error error ↔
      others = .error error := by
  cases others <;> simp [bind, Except.bind, pure, Except.pure]

def moreVariableKinds : Language TokenKind :=
  {kinds | ∃ chosen, kinds = moreKinds chosen}

theorem steady_readMoreVariables : Steady readMoreVariables moreVariableKinds := by
  apply steady_of_reads
  intro tokens chosen rest accepted
  obtain ⟨reads, noComma⟩ := (readMoreVariables_eq_ok_iff chosen).mp accepted
  refine ⟨_, ⟨chosen, rfl⟩, reads, ?_⟩
  intro others behind readsAgain same
  exact (readMoreVariables_eq_ok_iff chosen).mpr ⟨readsAgain, same ▸ noComma⟩

theorem readMoreVariables_comma
    (offset : Nat)
    (noVariable : ∀ name, (currentToken rest).kind ≠ .variableName name) :
    readMoreVariables ({ kind := .comma, offset } :: rest) = refuse .variableAfterComma rest := by
  unfold readMoreVariables
  split
  · next same =>
      cases same
      exact absurd rfl (noVariable _)
  · next same =>
      cases same
      rfl
  · next noComma => exact absurd rfl (noComma _ _)

theorem prompt_readMoreVariables : Prompt readMoreVariables moreVariableKinds := by
  refine ⟨⟨[], [], rfl⟩, ?_⟩
  intro tokens error failed
  fun_induction readMoreVariables tokens with
  | case1 place name offset rest inductionHypothesis =>
      obtain ⟨before, after, rfl, stops⟩ := inductionHypothesis (prepend_eq_error_iff.mp failed)
      refine ⟨_, after, rfl, stops.prepend
        [{ kind := .comma, offset := place }, { kind := .variableName name, offset }]
        { name } (fun others => ?_) ?_⟩
      · rw [List.cons_append, List.cons_append, readMoreVariables]
        rfl
      · rintro kinds ⟨chosen, rfl⟩
        exact ⟨{ name } :: chosen, rfl⟩
  | case2 offset rest noVariable =>
      have otherKind := currentToken_ne noVariable (by simp)
      have begins : ∃ kinds ∈ moreVariableKinds, [TokenKind.comma] <+: kinds :=
        ⟨_, ⟨[{ name := "" }], rfl⟩, [_], rfl⟩
      refine ⟨[_], rest, rfl, .of_refuse .variableAfterComma begins ?_ failed⟩
      intro others same
      exact readMoreVariables_comma offset (same ▸ otherKind)
  | case3 => simp at failed

def projectionKinds : Language TokenKind :=
  {kinds | ∃ projection : Projection, projection ≠ .listed [] ∧ kinds = projection.kinds}

/-- The variables of a projection that is no star. -/
def readListed (tokens : List Token) : Except ParseError (Projection × List Token) := do
  let (first, afterFirst) ← readVariable .projection tokens
  let (others, remaining) ← readMoreVariables afterFirst
  return (.listed (first :: others), remaining)

theorem readProjection_eq_readListed (noStar : (currentToken tokens).kind ≠ .star) :
    readProjection tokens = readListed tokens := by
  unfold readProjection
  split
  · exact absurd rfl noStar
  · rfl

theorem prompt_readListed : Prompt readListed projectionKinds := by
  have prompt : Prompt readListed (variableKinds * (moreVariableKinds * 1)) := by
    unfold readListed
    refine (prompt_readVariable .projection).bind (steady_readVariable .projection) ?_
    intro first
    exact prompt_readMoreVariables.bind steady_readMoreVariables fun others => prompt_ok _
  apply prompt.mono
  rintro _ ⟨_, ⟨first, rfl⟩, _, ⟨_, ⟨others, rfl⟩, _, rfl, rfl⟩, rfl⟩
  refine ⟨.listed (first :: others), by simp, ?_⟩
  simp [Projection.kinds_listed_cons]

theorem steady_readProjection : Steady readProjection projectionKinds := by
  apply steady_of_reads
  intro tokens projection rest accepted
  by_cases isStar : (currentToken tokens).kind = .star
  · obtain ⟨offset, others, rfl⟩ := eq_cons_of_currentToken isStar (by simp)
    cases accepted
    refine ⟨_, ⟨.all, by simp, rfl⟩, reads_cons_cons.mpr ⟨rfl, reads_nil.mpr rfl⟩, ?_⟩
    intro others behind reads _
    obtain ⟨_, _, rfl, nothing⟩ := reads_cons_iff.mp reads
    rw [reads_nil] at nothing
    subst nothing
    rfl
  · have listed := accepted
    rw [readProjection_eq_readListed isStar] at listed
    obtain ⟨⟨first, middle⟩, _, read⟩ := bind_eq_ok_iff.mp listed
    obtain ⟨⟨others, remaining⟩, readOthers, finished⟩ := bind_eq_ok_iff.mp read
    cases finished
    have noComma := ((readMoreVariables_eq_ok_iff others).mp readOthers).2
    obtain ⟨listsSome, reads⟩ := (readProjection_eq_ok_iff noComma _).mp accepted
    refine ⟨_, ⟨_, listsSome, rfl⟩, reads, ?_⟩
    intro others behind readsAgain same
    exact (readProjection_eq_ok_iff (same ▸ noComma) _).mpr ⟨listsSome, readsAgain⟩

theorem prompt_readProjection : Prompt readProjection projectionKinds := by
  refine ⟨prompt_readListed.inhabited, ?_⟩
  intro tokens error failed
  by_cases isStar : (currentToken tokens).kind = .star
  · obtain ⟨offset, others, rfl⟩ := eq_cons_of_currentToken isStar (by simp)
    cases failed
  · rw [readProjection_eq_readListed isStar] at failed
    obtain ⟨before, after, rfl, stops⟩ := prompt_readListed.stops tokens error failed
    refine ⟨before, after, rfl, stops.fault, stops.begins, ?_⟩
    intro others same
    rw [readProjection_eq_readListed, stops.again others same]
    rwa [currentToken_append same]

/-! ## The pattern -/

def dotKinds : Language TokenKind :=
  {kinds | kinds = [] ∨ kinds = [.dot]}

def clauseKinds : Language TokenKind :=
  {kinds | ∃ (pattern : Pattern) (dots : List TokenKind),
    (dots = [] ∨ dots = [.dot]) ∧ kinds = pattern.clauseKinds dots}

theorem skipDot_of_ne_dot (noDot : (currentToken tokens).kind ≠ .dot) :
    skipDot tokens = tokens := by
  unfold skipDot
  split
  · exact absurd rfl noDot
  · rfl

theorem steady_skipDot : Steady (fun tokens => .ok ((), skipDot tokens)) dotKinds := by
  intro tokens value rest accepted
  by_cases isDot : (currentToken tokens).kind = .dot
  · obtain ⟨offset, others, rfl⟩ := eq_cons_of_currentToken isDot (by simp)
    cases accepted
    exact ⟨[_], rfl, Or.inr rfl, fun _ _ => rfl⟩
  · simp only [skipDot_of_ne_dot isDot] at accepted
    cases accepted
    refine ⟨[], rfl, Or.inl rfl, ?_⟩
    intro others same
    simp only [List.nil_append, skipDot_of_ne_dot (same ▸ isDot)]

theorem steady_readWhere : Steady readWhere clauseKinds := by
  apply steady_of_reads
  intro tokens pattern rest accepted
  obtain ⟨dots, atMostOne, reads⟩ := (readWhere_eq_ok_iff pattern).mp accepted
  refine ⟨_, ⟨pattern, dots, atMostOne, rfl⟩, reads, ?_⟩
  intro others behind readsAgain _
  exact (readWhere_eq_ok_iff pattern).mpr ⟨dots, atMostOne, readsAgain⟩

theorem prompt_readWhere : Prompt readWhere clauseKinds := by
  have prompt : Prompt readWhere
      (oneKind (.keyword .WHERE) * (oneKind .leftBrace * (slotKinds * (slotKinds * (slotKinds *
        (dotKinds * (oneKind .rightBrace * 1))))))) := by
    unfold readWhere
    refine .behindKind .whereClause (by simp) ?_
    refine .behindKind .openingBrace (by simp) ?_
    refine prompt_readSlot.bind steady_readSlot fun subject => ?_
    refine prompt_readSlot.bind steady_readSlot fun predicate => ?_
    refine prompt_readSlot.bind steady_readSlot fun object => ?_
    have closing : Prompt _ (oneKind .rightBrace * 1) :=
      .behindKind .closingBrace (by simp)
        (prompt_ok fun remaining => (Pattern.mk subject predicate object, remaining))
    refine .pass ⟨[], Or.inl rfl⟩ steady_skipDot ?_ fun _ => closing
    rintro tokens value rest ⟨⟩
    rfl
  apply prompt.mono
  rintro _ ⟨_, ⟨_, rfl⟩, _, ⟨_, ⟨_, rfl⟩, _, ⟨_, ⟨subject, rfl⟩, _, ⟨_, ⟨predicate, rfl⟩, _,
    ⟨_, ⟨object, rfl⟩, _, ⟨dots, atMostOne, _, ⟨_, ⟨_, rfl⟩, _, rfl, rfl⟩, rfl⟩, rfl⟩, rfl⟩, rfl⟩,
    rfl⟩, rfl⟩
  refine ⟨{ subject, predicate, object }, dots, atMostOne, ?_⟩
  simp [Pattern.clauseKinds, Pattern.kinds]

/-! ## Modifiers -/

def leadingKinds : Language TokenKind :=
  {kinds | ∃ leading : List Modifier,
    (leading = [] ∨ leading = [.distinct] ∨ leading = [.all]) ∧
      kinds = leading.flatMap Modifier.kinds}

def trailingKinds : Language TokenKind :=
  {kinds | ∃ trailing : List Modifier,
    (∀ modifier ∈ trailing, ¬modifier.Leads) ∧ kinds = trailing.flatMap Modifier.kinds}

theorem steady_readLeadingModifier :
    Steady (fun tokens => .ok (readLeadingModifier tokens)) leadingKinds := by
  intro tokens value rest accepted
  by_cases isDistinct : (currentToken tokens).kind = .keyword .DISTINCT
  · obtain ⟨offset, others, rfl⟩ := eq_cons_of_currentToken isDistinct (by simp)
    cases accepted
    exact ⟨[_], rfl, ⟨[.distinct], by simp, rfl⟩, fun _ _ => rfl⟩
  · by_cases isAll : (currentToken tokens).kind = .keyword .ALL
    · obtain ⟨offset, others, rfl⟩ := eq_cons_of_currentToken isAll (by simp)
      cases accepted
      exact ⟨[_], rfl, ⟨[.all], by simp, rfl⟩, fun _ _ => rfl⟩
    · have passes : ∀ others, currentToken others = currentToken tokens →
          readLeadingModifier others = ([], others) := by
        intro others same
        rw [← same] at isDistinct isAll
        exact (readLeadingModifier_eq_iff isDistinct isAll []).mpr ⟨by simp, reads_nil.mpr rfl⟩
      simp only [passes tokens rfl] at accepted
      cases accepted
      refine ⟨[], rfl, ⟨[], by simp, rfl⟩, ?_⟩
      intro others same
      simp only [List.nil_append, passes others same]

theorem steady_readModifiers : Steady readModifiers trailingKinds := by
  apply steady_of_reads
  intro tokens trailing rest accepted
  obtain ⟨trails, reads, complete⟩ := trailing_of_readModifiers accepted
  refine ⟨_, ⟨trailing, trails, rfl⟩, reads, ?_⟩
  intro others behind readsAgain same
  exact readModifiers_of_trailing ⟨trails, readsAgain, same ▸ complete⟩

theorem cons_mem_trailingKinds
    {modifier : Modifier}
    (trails : ¬modifier.Leads)
    {kinds : List TokenKind}
    (isPart : kinds ∈ trailingKinds) :
    modifier.kinds ++ kinds ∈ trailingKinds := by
  obtain ⟨trailing, trailAll, rfl⟩ := isPart
  exact ⟨modifier :: trailing, List.forall_mem_cons.mpr ⟨trails, trailAll⟩, rfl⟩

theorem readModifiers_limit
    (offset : Nat)
    (noNumber : ∀ count, (currentToken rest).kind ≠ .number count) :
    readModifiers ({ kind := .keyword .LIMIT, offset } :: rest) =
      refuse .numberAfterLimit rest := by
  rw [readModifiers]
  rintro count place others rfl
  exact noNumber count rfl

theorem readModifiers_offset
    (offset : Nat)
    (noNumber : ∀ count, (currentToken rest).kind ≠ .number count) :
    readModifiers ({ kind := .keyword .OFFSET, offset } :: rest) =
      refuse .numberAfterOffset rest := by
  rw [readModifiers]
  rintro count place others rfl
  exact noNumber count rfl

theorem readModifiers_group
    (offset : Nat)
    (noBy : (currentToken rest).kind ≠ .keyword .BY) :
    readModifiers ({ kind := .keyword .GROUP, offset } :: rest) = refuse .byAfterGroup rest := by
  rw [readModifiers]
  · rintro place name nextPlace others rfl
    exact noBy rfl
  · rintro place others rfl
    exact noBy rfl

theorem readModifiers_groupBy
    (offset byOffset : Nat)
    (noVariable : ∀ name, (currentToken rest).kind ≠ .variableName name) :
    readModifiers ({ kind := .keyword .GROUP, offset } ::
        { kind := .keyword .BY, offset := byOffset } :: rest) =
      refuse .variableAfterGroupBy rest := by
  rw [readModifiers]
  rintro name place others rfl
  exact noVariable name rfl

theorem exists_begins_trailing
    {modifier : Modifier}
    (trails : ¬modifier.Leads)
    {front : List TokenKind}
    (begins : front <+: modifier.kinds) :
    ∃ kinds ∈ trailingKinds, front <+: kinds :=
  ⟨_, cons_mem_trailingKinds trails ⟨[], by simp, rfl⟩, begins.trans (List.prefix_append _ _)⟩

theorem prompt_readModifiers : Prompt readModifiers trailingKinds := by
  have limitTrails : ∀ count, ¬(Modifier.limit count).Leads := by simp [Modifier.Leads]
  have offsetTrails : ∀ count, ¬(Modifier.offset count).Leads := by simp [Modifier.Leads]
  have groupTrails : ∀ name, ¬(Modifier.groupBy name).Leads := by simp [Modifier.Leads]
  refine ⟨⟨[], [], by simp, rfl⟩, ?_⟩
  intro tokens error failed
  fun_induction readModifiers tokens with
  | case1 wordOffset count offset rest inductionHypothesis =>
      obtain ⟨before, after, rfl, stops⟩ := inductionHypothesis (prepend_eq_error_iff.mp failed)
      refine ⟨_, after, rfl, stops.prepend
        [{ kind := .keyword .LIMIT, offset := wordOffset }, { kind := .number count, offset }]
        (.limit count) ?_ fun _ => cons_mem_trailingKinds (limitTrails count)⟩
      intro others
      rw [List.cons_append, List.cons_append, readModifiers]
      rfl
  | case2 offset rest noNumber =>
      have otherKind := currentToken_ne noNumber (by simp)
      have begins := exists_begins_trailing (limitTrails "") (List.prefix_append [_] _)
      refine ⟨[_], rest, rfl, .of_refuse .numberAfterLimit begins ?_ failed⟩
      intro others same
      exact readModifiers_limit offset (same ▸ otherKind)
  | case3 wordOffset count offset rest inductionHypothesis =>
      obtain ⟨before, after, rfl, stops⟩ := inductionHypothesis (prepend_eq_error_iff.mp failed)
      refine ⟨_, after, rfl, stops.prepend
        [{ kind := .keyword .OFFSET, offset := wordOffset }, { kind := .number count, offset }]
        (.offset count) ?_ fun _ => cons_mem_trailingKinds (offsetTrails count)⟩
      intro others
      rw [List.cons_append, List.cons_append, readModifiers]
      rfl
  | case4 offset rest noNumber =>
      have otherKind := currentToken_ne noNumber (by simp)
      have begins := exists_begins_trailing (offsetTrails "") (List.prefix_append [_] _)
      refine ⟨[_], rest, rfl, .of_refuse .numberAfterOffset begins ?_ failed⟩
      intro others same
      exact readModifiers_offset offset (same ▸ otherKind)
  | case5 wordOffset byOffset name offset rest inductionHypothesis =>
      obtain ⟨before, after, rfl, stops⟩ := inductionHypothesis (prepend_eq_error_iff.mp failed)
      refine ⟨_, after, rfl, stops.prepend
        [{ kind := .keyword .GROUP, offset := wordOffset },
          { kind := .keyword .BY, offset := byOffset }, { kind := .variableName name, offset }]
        (.groupBy { name }) ?_ fun _ => cons_mem_trailingKinds (groupTrails _)⟩
      intro others
      rw [List.cons_append, List.cons_append, List.cons_append, readModifiers]
      rfl
  | case6 offset byOffset rest noVariable =>
      have otherKind := currentToken_ne noVariable (by simp)
      have begins := exists_begins_trailing (groupTrails { name := "" })
        (List.prefix_append [_, _] _)
      refine ⟨[_, _], rest, rfl, .of_refuse .variableAfterGroupBy begins ?_ failed⟩
      intro others same
      exact readModifiers_groupBy offset byOffset (same ▸ otherKind)
  | case7 offset rest noVariable noBy =>
      have otherKind := currentToken_ne (fun _ : Unit => noBy) (by simp) ()
      have begins := exists_begins_trailing (groupTrails { name := "" }) (List.prefix_append [_] _)
      refine ⟨[_], rest, rfl, .of_refuse .byAfterGroup begins ?_ failed⟩
      intro others same
      exact readModifiers_group offset (same ▸ otherKind)
  | case8 => simp at failed

/-! ## Whole queries -/

/-- What is left behind a query, which is to be the end of input. -/
def finish (query : SelectQuery) (tokens : List Token) : Except ParseError SelectQuery :=
  if (currentToken tokens).kind = .endOfInput then .ok query else refuse .endOfQuery tokens

theorem prompt_finish (query : SelectQuery) : Prompt (finish query) 1 := by
  refine ⟨⟨[], rfl⟩, ?_⟩
  intro tokens error failed
  have goesOn : (currentToken tokens).kind ≠ .endOfInput := by
    intro ends
    rw [finish, if_pos ends] at failed
    cases failed
  have refuses : ∀ others, currentToken others = currentToken tokens →
      finish query others = refuse .endOfQuery others := by
    intro others same
    rw [finish, if_neg (same ▸ goesOn)]
  exact ⟨[], tokens, rfl, .of_refuse .endOfQuery ⟨[], rfl, List.nil_prefix⟩ refuses
    ((refuses tokens rfl).symm.trans failed)⟩

instance : Nonempty Projection := ⟨.all⟩

instance : Nonempty Pattern := ⟨⟨.literal "", .literal "", .literal ""⟩⟩

/-- The query behind the leading modifiers. -/
def readBody (leading : List Modifier) (tokens : List Token) : Except ParseError SelectQuery := do
  let (projection, afterProjection) ← readProjection tokens
  let (pattern, afterPattern) ← readWhere afterProjection
  let (trailing, remaining) ← readModifiers afterPattern
  finish { projection, pattern, modifiers := leading ++ trailing } remaining

theorem prompt_readBody (leading : List Modifier) :
    Prompt (readBody leading) (projectionKinds * (clauseKinds * (trailingKinds * 1))) := by
  unfold readBody
  refine prompt_readProjection.bind steady_readProjection fun projection => ?_
  refine prompt_readWhere.bind steady_readWhere fun pattern => ?_
  exact prompt_readModifiers.bind steady_readModifiers fun trailing => prompt_finish _

theorem prompt_parseTokens : Prompt parseTokens sentences := by
  have prompt : Prompt parseTokens
      (oneKind (.keyword .SELECT) * (leadingKinds * (projectionKinds * (clauseKinds *
        (trailingKinds * 1))))) := by
    unfold parseTokens
    refine .behindKind .selectKeyword (by simp) ?_
    refine .pass ⟨[], [], by simp, rfl⟩ steady_readLeadingModifier ?_ prompt_readBody
    rintro tokens leading rest passed
    simp only [passed]
    rfl
  apply prompt.mono
  rintro _ ⟨_, ⟨_, rfl⟩, _, ⟨_, ⟨leading, leads, rfl⟩, _, ⟨_, ⟨projection, listsSome, rfl⟩, _,
    ⟨_, ⟨pattern, dots, atMostOne, rfl⟩, _, ⟨_, ⟨trailing, trails, rfl⟩, _, rfl, rfl⟩, rfl⟩, rfl⟩,
    rfl⟩, rfl⟩
  have derives := SelectQuery.Derives.sentence projection pattern leading trailing dots listsSome
    leads trails atMostOne
  exact ⟨_, by simpa [List.append_assoc] using derives⟩

/-- A sentence that begins with the tokens and the one they stop at would be read otherwise. -/
theorem StopsAt.not_viable
    {token : Token}
    (stops : StopsAt parseTokens sentences before (token :: after) error) :
    ¬Viable ((before ++ [token]).map Token.kind) := by
  rintro ⟨sentence, ⟨query, derives⟩, more, whole⟩
  -- the parser does not look at the places of tokens
  have refused := stops.again (token :: more.map fun kind => { kind, offset := 0 }) rfl
  have sameKinds :
      (before ++ token :: more.map fun kind => ({ kind, offset := 0 } : Token)).map Token.kind =
        sentence ++ [.endOfInput] := by
    rw [← whole]
    simp [Function.comp_def]
  obtain ⟨read, rest, split, readKinds, restKinds⟩ := List.map_eq_append_iff.mp sameKinds
  obtain ⟨last, rfl, isEnd⟩ := List.map_eq_singleton_iff.mp restKinds
  have accepted : parseTokens (read ++ [last]) = .ok query :=
    parseTokens_of_derives derives ⟨read, rfl, readKinds⟩ isEnd
  rw [split, accepted] at refused
  cases refused

/-- A text that cannot be cut into tokens is refused where the cutting fails. Any other text
that is no query is refused at its first token that no sentence goes on with. -/
theorem parse_fault_first_hopeless (text : String) :
    (∀ error, tokenize text = .error error → parse text = .error error) ∧
      ∀ tokens error, tokenize text = .ok tokens → parse text = .error error →
        ∃ before token after, tokens = before ++ token :: after ∧
          error.offset = token.offset ∧
          (∃ expected, error.cause = .unexpectedToken expected token.kind) ∧
          Viable (before.map Token.kind) ∧
          ¬Viable ((before ++ [token]).map Token.kind) := by
  constructor
  · intro error failed
    rw [parse, failed]
    rfl
  · intro tokens error tokenized failed
    rw [parse, tokenized] at failed
    obtain ⟨before, after, rfl, stops⟩ := prompt_parseTokens.stops tokens error failed
    obtain ⟨sentence, isSentence, begins⟩ := stops.begins
    obtain ⟨expected, rfl⟩ := stops.fault
    cases after with
    | nil =>
        -- the last token is the end of input, which no sentence holds
        obtain ⟨query, derives⟩ := isSentence
        obtain ⟨kinds, sameKinds, _⟩ := (laidOut_of_tokensFrom tokenized).exists_kinds
        rw [List.append_nil] at sameKinds
        exact absurd (begins.subset (by simp [sameKinds])) derives.endOfInput_notMem
    | cons token after =>
        exact ⟨before, token, after, rfl, rfl, ⟨expected, rfl⟩,
          ⟨sentence, isSentence, begins.trans (List.prefix_append _ _)⟩, stops.not_viable⟩

/-- Behind the comma of the first text there is no variable. The quote of the second is not
closed, and where that text starts is no matter. -/
theorem parse_fault_first_hopeless_after_comma :
    parse "SELECT ?a, WHERE" = .error
        { cause := .unexpectedToken .variableAfterComma (.keyword .WHERE), offset := 11 } ∧
      (∃ before token after,
        ([⟨.keyword .SELECT, 0⟩, ⟨.variableName "a", 7⟩, ⟨.comma, 9⟩, ⟨.keyword .WHERE, 11⟩,
          ⟨.endOfInput, 16⟩] : List Token) = before ++ token :: after ∧ 11 = token.offset ∧
        (∃ expected, ParseCause.unexpectedToken .variableAfterComma (.keyword .WHERE) =
          .unexpectedToken expected token.kind) ∧
        Viable (before.map Token.kind) ∧ ¬Viable ((before ++ [token]).map Token.kind)) ∧
      parse "WHERE 'a" = .error { cause := .unterminatedLiteral, offset := 6 } := by
  have refused : parse "SELECT ?a, WHERE" = .error
      { cause := .unexpectedToken .variableAfterComma (.keyword .WHERE), offset := 11 } := by
    decide +kernel
  have tokenized : tokenize "SELECT ?a, WHERE" = .ok
      [⟨.keyword .SELECT, 0⟩, ⟨.variableName "a", 7⟩, ⟨.comma, 9⟩, ⟨.keyword .WHERE, 11⟩,
        ⟨.endOfInput, 16⟩] := by
    decide +kernel
  have hopeless := (parse_fault_first_hopeless "SELECT ?a, WHERE").2 _ _ tokenized refused
  exact ⟨refused, hopeless, (parse_fault_first_hopeless "WHERE 'a").1 _ (by decide +kernel)⟩

end TripleStore.Query
