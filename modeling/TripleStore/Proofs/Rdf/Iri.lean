import TripleStore.Proofs.Rdf.Host
import TripleStore.Proofs.Rdf.Term

/-!
Contract: IRIs that references resolve to.

Owns:
- that a reference is made up of its parts;
- `IsAbsolute`, by which an IRI starts with a scheme and holds no angle bracket;
- that every IRI that a reference resolves to is absolute, if the base is, and that an
  absolute IRI is legible.

Does not own: how references are written in a document (`TripleStore.Turtle.Lexer`).
-/

namespace TripleStore.Rdf

open TripleStore.Text (pieces)

/-- A text without percent signs is not encoded any further. -/
theorem isEncoded_of_forall_mem
    {allowed : Char → Bool}
    {text : List Char}
    (allAllowed : ∀ character ∈ text, character ≠ '%' ∧ allowed character = true) :
    isEncoded allowed text = true := by
  fun_induction isEncoded allowed text with
  | case1 => rfl
  | case2 high low rest _ => exact absurd rfl (allAllowed '%' List.mem_cons_self).1
  | case3 first rest _ inductionHypothesis =>
      rw [List.forall_mem_cons] at allAllowed
      rw [Bool.and_eq_true]
      exact ⟨allAllowed.1.2, inductionHypothesis allAllowed.2⟩

/-! ## Schemes -/

/-- A letter and other characters of schemes. -/
structure IsScheme (name : List Char) : Prop where
  starts : name.head?.any Char.isAlpha = true
  characters : ∀ character ∈ name, Reference.isSchemeCharacter character = true

/-- The IRI starts with a scheme and holds no bracket. -/
structure IsAbsolute (iri : List Char) : Prop where
  schemed : ∃ name rest, IsScheme name ∧ iri = name ++ ':' :: rest
  inside : ∀ character ∈ iri, IsInside character

theorem IsAbsolute.legible {iri : List Char} (absolute : IsAbsolute iri) : IsLegibleIri iri where
  notLabel := by
    obtain ⟨name, rest, isScheme, rfl⟩ := absolute.schemed
    intro isLabel
    have starts := isScheme.starts
    cases name with
    | nil => cases starts
    | cons first others =>
        have isUnderscore : first = '_' := Option.some.inj isLabel
        have notLetter : Char.isAlpha '_' = false := by decide
        rw [isUnderscore, List.head?_cons, Option.any_some, notLetter] at starts
        cases starts
  opening_notMem := fun member => (absolute.inside _ member).1 rfl
  closing_notMem := fun member => (absolute.inside _ member).2 rfl

theorem IsAbsolute.append
    {iri behind : List Char}
    (absolute : IsAbsolute iri)
    (inside : ∀ character ∈ behind, IsInside character) :
    IsAbsolute (iri ++ behind) where
  schemed := by
    obtain ⟨name, rest, isScheme, rfl⟩ := absolute.schemed
    exact ⟨name, rest ++ behind, isScheme, by simp⟩
  inside := List.forall_mem_append.mpr ⟨absolute.inside, inside⟩

namespace Reference

variable {text : List Char} {reference base target : Reference}

theorem splitScheme_of_isScheme
    {name : List Char}
    (isScheme : IsScheme name)
    (rest : List Char) :
    splitScheme (name ++ ':' :: rest) = (some name, rest) := by
  have noColon : isSchemeCharacter ':' = false := by decide
  have front : (name ++ ':' :: rest).takeWhile isSchemeCharacter = name := by
    rw [List.takeWhile_append_of_pos isScheme.characters,
      List.takeWhile_cons_of_neg (by simp [noColon]), List.append_nil]
  unfold splitScheme
  simp only [front, List.drop_left, isScheme.starts, if_true]

/-- Either a scheme and a colon are split off, or nothing is. -/
theorem splitScheme_cases (text : List Char) :
    (∃ name rest, IsScheme name ∧ text = name ++ ':' :: rest ∧
        splitScheme text = (some name, rest)) ∨
      splitScheme text = (none, text) := by
  have whole := List.prefix_iff_eq_append.mp (List.takeWhile_prefix (l := text) isSchemeCharacter)
  unfold splitScheme
  dsimp only
  split
  · next rest found =>
      rw [found] at whole
      split_ifs with starts
      · refine Or.inl ⟨_, rest, ⟨starts, ?_⟩, whole.symm, rfl⟩
        exact List.all_eq_true.mp List.all_takeWhile
      · exact Or.inr rfl
  · exact Or.inr rfl

/-! ## Parts of a reference -/

/-- The parts in the order in which they are split off. -/
theorem ofText_eq (text : List Char) :
    ofText text =
      let afterScheme := (splitScheme text).2
      let afterAuthority := (splitAuthority afterScheme).2
      let path := afterAuthority.takeWhile fun character => character != '?' && character != '#'
      let afterPath := afterAuthority.drop path.length
      { scheme := (splitScheme text).1
        authority := (splitAuthority afterScheme).1
        path
        query := (splitQuery afterPath).1
        fragment :=
          if (splitQuery afterPath).2 = [] then none else some (splitQuery afterPath).2.tail } :=
  rfl

theorem append_splitScheme (text : List Char) :
    ((splitScheme text).1.map (· ++ [':'])).getD [] ++ (splitScheme text).2 = text := by
  rcases splitScheme_cases text with ⟨name, rest, _, rfl, split⟩ | split
  · simp [split]
  · simp [split]

theorem append_splitAuthority (text : List Char) :
    ((splitAuthority text).1.map ('/' :: '/' :: ·)).getD [] ++ (splitAuthority text).2 = text := by
  unfold splitAuthority
  split
  · simp [List.prefix_iff_eq_append.mp (List.takeWhile_prefix _)]
  · rfl

theorem append_splitQuery (text : List Char) :
    ((splitQuery text).1.map ('?' :: ·)).getD [] ++ (splitQuery text).2 = text := by
  unfold splitQuery
  split
  · simp [List.prefix_iff_eq_append.mp (List.takeWhile_prefix _)]
  · rfl

/-- Behind a path and a query there is nothing or a fragment. -/
theorem head?_splitQuery
    {afterPath : List Char}
    (ends : ∀ character ∈ afterPath.head?, character = '?' ∨ character = '#') :
    ∀ character ∈ (splitQuery afterPath).2.head?, character = '#' := by
  intro character starts
  unfold splitQuery at starts
  split at starts
  · next rest =>
      dsimp only at starts
      obtain ⟨others, found⟩ := List.head?_eq_some_iff.mp starts
      simpa using test_eq_false_of_drop found
  · next notQuery =>
      rcases ends character starts with rfl | rfl
      · obtain ⟨others, found⟩ := List.head?_eq_some_iff.mp starts
        exact absurd found (notQuery others)
      · rfl

theorem text_ofText (text : List Char) : (ofText text).text = text := by
  rw [ofText_eq]
  dsimp only
  -- Each part is put back in front of what was left when it was split off, from the end on.
  generalize afterAuthority_eq : (splitAuthority (splitScheme text).2).2 = afterAuthority
  generalize path_eq :
    (afterAuthority.takeWhile fun character => character != '?' && character != '#') = path
  generalize afterPath_eq : afterAuthority.drop path.length = afterPath
  have ends : ∀ character ∈ afterPath.head?, character = '?' ∨ character = '#' := by
    intro character starts
    obtain ⟨others, found⟩ := List.head?_eq_some_iff.mp starts
    rw [← afterPath_eq, ← path_eq] at found
    have fails := test_eq_false_of_drop found
    simp only [Bool.and_eq_false_iff, bne_eq_false_iff_eq] at fails
    exact fails
  have behindQuery : (((if (splitQuery afterPath).2 = [] then none
      else some (splitQuery afterPath).2.tail).map ('#' :: ·)).getD []) =
        (splitQuery afterPath).2 := by
    cases found : (splitQuery afterPath).2 with
    | nil => rfl
    | cons first others =>
        have isMark := head?_splitQuery ends first (by rw [found]; rfl)
        simp [isMark]
  have whole : path ++ afterPath = afterAuthority := by
    rw [← afterPath_eq, ← path_eq]
    exact List.prefix_iff_eq_append.mp (List.takeWhile_prefix _)
  unfold Reference.text
  simp only [List.append_assoc]
  rw [behindQuery, append_splitQuery, whole, ← afterAuthority_eq, append_splitAuthority,
    append_splitScheme]

/-! ## References without brackets -/

/-- No part of the reference holds a bracket, and its scheme is one. -/
structure HasInside (reference : Reference) : Prop where
  scheme : ∀ name ∈ reference.scheme, IsScheme name
  authority : ∀ name ∈ reference.authority, ∀ character ∈ name, IsInside character
  path : ∀ character ∈ reference.path, IsInside character
  query : ∀ name ∈ reference.query, ∀ character ∈ name, IsInside character
  fragment : ∀ name ∈ reference.fragment, ∀ character ∈ name, IsInside character

theorem isScheme_of_ofText :
    ∀ name ∈ (ofText text).scheme, IsScheme name := by
  rw [ofText_eq]
  intro name isName
  rcases splitScheme_cases text with ⟨other, rest, isScheme, _, split⟩ | split
  · dsimp only at isName
    rw [split] at isName
    cases isName
    exact isScheme
  · dsimp only at isName
    rw [split] at isName
    cases isName

theorem hasInside_ofText (inside : ∀ character ∈ text, IsInside character) :
    (ofText text).HasInside := by
  rw [← text_ofText text, Reference.text] at inside
  simp only [List.forall_mem_append] at inside
  obtain ⟨⟨⟨⟨_, authority⟩, path⟩, query⟩, fragment⟩ := inside
  refine ⟨isScheme_of_ofText, ?_, path, ?_, ?_⟩
  · intro name isName
    rw [isName] at authority
    exact (List.forall_mem_cons.mp (List.forall_mem_cons.mp authority).2).2
  · intro name isName
    rw [isName] at query
    exact (List.forall_mem_cons.mp query).2
  · intro name isName
    rw [isName] at fragment
    exact (List.forall_mem_cons.mp fragment).2

theorem hasInside_of_isWellFormed (wellFormed : (ofText text).isWellFormed = true) :
    (ofText text).HasInside := by
  simp only [isWellFormed, Bool.and_eq_true, Option.all_eq_true] at wellFormed
  obtain ⟨⟨⟨⟨_, authority⟩, path⟩, query⟩, fragment⟩ := wellFormed
  exact ⟨isScheme_of_ofText,
    fun name isName => forall_isInside_of_isAuthority (authority name isName),
    forall_isInside_of_isEncoded (by decide) path,
    fun name isName => forall_isInside_of_isEncoded (by decide) (query name isName),
    fun name isName => forall_isInside_of_isEncoded (by decide) (fragment name isName)⟩

theorem HasInside.forall_isInside (inside : reference.HasInside) :
    ∀ character ∈ reference.text, IsInside character := by
  have signs : IsInside ':' ∧ IsInside '/' ∧ IsInside '?' ∧ IsInside '#' := by decide
  have ofPart : ∀ {part : Option (List Char)} {write : List Char → List Char},
      (∀ name ∈ part, ∀ character ∈ write name, IsInside character) →
        ∀ character ∈ (part.map write).getD [], IsInside character := by
    intro part write written
    cases part with
    | none => simp
    | some name => exact written name rfl
  unfold Reference.text
  simp only [List.forall_mem_append]
  refine ⟨⟨⟨⟨ofPart ?_, ofPart ?_⟩, inside.path⟩, ofPart ?_⟩, ofPart ?_⟩
  · intro name isName
    rw [List.forall_mem_append, List.forall_mem_singleton]
    exact ⟨fun character member =>
      isInside_of_class (by decide) ((inside.scheme name isName).characters character member),
      signs.1⟩
  · intro name isName
    simp only [List.forall_mem_cons]
    exact ⟨signs.2.1, signs.2.1, inside.authority name isName⟩
  · intro name isName
    rw [List.forall_mem_cons]
    exact ⟨signs.2.2.1, inside.query name isName⟩
  · intro name isName
    rw [List.forall_mem_cons]
    exact ⟨signs.2.2.2, inside.fragment name isName⟩

/-- A reference without brackets that has a scheme is an IRI. -/
theorem HasInside.isAbsolute
    (inside : reference.HasInside)
    (hasScheme : reference.scheme.isSome) :
    IsAbsolute reference.text := by
  refine ⟨?_, inside.forall_isInside⟩
  obtain ⟨name, isName⟩ := Option.isSome_iff_exists.mp hasScheme
  have starts : ∃ rest, reference.text = name ++ ':' :: rest := by
    unfold Reference.text
    rw [isName]
    simp
  obtain ⟨rest, whole⟩ := starts
  exact ⟨name, rest, inside.scheme name isName, whole⟩

theorem isSome_scheme_of_isAbsolute {iri : List Char} (absolute : IsAbsolute iri) :
    (ofText iri).scheme.isSome := by
  obtain ⟨name, rest, isScheme, rfl⟩ := absolute.schemed
  rw [ofText_eq]
  simp [splitScheme_of_isScheme isScheme]

/-! ## Resolution -/

section

variable {hasHost : Bool} {path segment slash behind : List Char}

theorem forall_isInside_ascend (inside : ∀ character ∈ path, IsInside character) :
    ∀ character ∈ ascend hasHost path, IsInside character := by
  unfold ascend
  split
  · cases hasHost <;> simp; decide
  · intro character member
    rw [List.mem_reverse] at member
    exact inside character (List.mem_reverse.mp
      (List.mem_of_mem_drop ((List.dropWhile_suffix _).mem member)))

theorem forall_isInside_descend?
    (found : descend? hasHost path segment slash = some behind)
    (pathInside : ∀ character ∈ path, IsInside character)
    (segmentInside : ∀ character ∈ segment, IsInside character)
    (slashInside : ∀ character ∈ slash, IsInside character) :
    ∀ character ∈ behind, IsInside character := by
  unfold descend? at found
  split_ifs at found
  · cases found
    exact forall_isInside_ascend pathInside
  · cases found
    exact pathInside
  · cases found
    simp only [List.forall_mem_append]
    exact ⟨⟨pathInside, segmentInside⟩, slashInside⟩

theorem forall_isInside_followSegments?
    {segments : List (List Char)}
    (found : followSegments? hasHost path segments = some behind)
    (pathInside : ∀ character ∈ path, IsInside character)
    (segmentsInside : ∀ segment ∈ segments, ∀ character ∈ segment, IsInside character) :
    ∀ character ∈ behind, IsInside character := by
  fun_induction followSegments? hasHost path segments with
  | case1 path =>
      cases found
      exact pathInside
  | case2 path last =>
      rw [List.forall_mem_singleton] at segmentsInside
      exact forall_isInside_descend? found pathInside segmentsInside (by simp)
  | case3 path segment rest _ inductionHypothesis =>
      obtain ⟨next, descends, follows⟩ := Option.bind_eq_some_iff.mp found
      rw [List.forall_mem_cons] at segmentsInside
      have slash : IsInside '/' := by decide
      have nextInside := forall_isInside_descend? descends pathInside segmentsInside.1
        (List.forall_mem_singleton.mpr slash)
      exact inductionHypothesis next follows nextInside segmentsInside.2

end

theorem HasInside.directory (inside : base.HasInside) :
    ∀ character ∈ base.directory, IsInside character := by
  unfold Reference.directory
  split
  · split_ifs <;> simp; decide
  · intro character member
    rw [List.mem_reverse] at member
    exact inside.path character (List.mem_reverse.mp ((List.dropWhile_suffix _).mem member))

theorem HasInside.follow?
    {behind : List Char}
    (inside : base.HasInside)
    (textInside : ∀ character ∈ text, IsInside character)
    (found : base.follow? text = some behind) :
    ∀ character ∈ behind, IsInside character := by
  have slash : IsInside '/' := by decide
  unfold Reference.follow? at found
  split at found
  · next rest =>
      rw [List.forall_mem_cons] at textInside
      exact forall_isInside_followSegments? found (List.forall_mem_singleton.mpr slash)
        (forall_mem_pieces textInside.2)
  · exact forall_isInside_followSegments? found inside.directory (forall_mem_pieces textInside)

theorem HasInside.resolve?
    (baseInside : base.HasInside)
    (inside : reference.HasInside)
    (found : base.resolve? reference = some target) :
    target.HasInside := by
  -- From the first part that the reference has, all parts are its own; those before it are
  -- the parts of the base.
  unfold Reference.resolve? at found
  split_ifs at found
  · cases found
    exact inside
  · cases found
    exact ⟨baseInside.scheme, inside.authority, inside.path, inside.query, inside.fragment⟩
  · cases found
    refine ⟨baseInside.scheme, baseInside.authority, baseInside.path, ?_, inside.fragment⟩
    intro name isName
    rw [Option.mem_def, Option.orElse_eq_orElse, Option.orElse_eq_or] at isName
    rcases Option.or_eq_some_iff.mp isName with isOwn | ⟨_, isBase⟩
    · exact inside.query name isOwn
    · exact baseInside.query name isBase
  · obtain ⟨path, follows, rfl⟩ := Option.map_eq_some_iff.mp found
    exact ⟨baseInside.scheme, baseInside.authority, baseInside.follow? inside.path follows,
      inside.query, inside.fragment⟩

theorem isSome_scheme_of_resolve?
    (baseSchemed : base.scheme.isSome)
    (found : base.resolve? reference = some target) :
    target.scheme.isSome := by
  unfold Reference.resolve? at found
  split_ifs at found with schemed
  · cases found
    exact schemed
  · cases found
    exact baseSchemed
  · cases found
    exact baseSchemed
  · obtain ⟨path, _, rfl⟩ := Option.map_eq_some_iff.mp found
    exact baseSchemed

end Reference

/-! ## IRIs that texts refer to -/

/-- A base that a document sets is an IRI which it has resolved before. -/
theorem isAbsolute_of_resolveIri?
    {base : Option Reference}
    {text iri : List Char}
    (isBase : ∀ reference ∈ base, ∃ baseIri, IsAbsolute baseIri ∧ reference = .ofText baseIri)
    (found : resolveIri? base text = some iri) :
    IsAbsolute iri := by
  unfold resolveIri? at found
  dsimp only at found
  rw [Option.ite_none_right_eq_some] at found
  obtain ⟨wellFormed, found⟩ := found
  have inside := Reference.hasInside_of_isWellFormed wellFormed
  cases base with
  | none =>
      rw [Option.ite_none_right_eq_some, Option.some.injEq] at found
      obtain ⟨schemed, rfl⟩ := found
      have absolute := inside.isAbsolute schemed
      rwa [Reference.text_ofText] at absolute
  | some reference =>
      obtain ⟨baseIri, absolute, rfl⟩ := isBase reference rfl
      obtain ⟨target, resolves, rfl⟩ := Option.map_eq_some_iff.mp found
      have baseInside := Reference.hasInside_ofText absolute.inside
      have baseSchemed := Reference.isSome_scheme_of_isAbsolute absolute
      exact (baseInside.resolve? inside resolves).isAbsolute
        (Reference.isSome_scheme_of_resolve? baseSchemed resolves)

end TripleStore.Rdf
