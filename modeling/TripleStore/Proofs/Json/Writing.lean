import Mathlib.Data.List.Forall2
import Mathlib.Data.List.Nodup
import TripleStore.Json.Reader

/-!
Contract: JSON texts that are written for values, and what readers make of them.

Owns:
- the ways in which a character can stand in a string, and a text in quotes;
- members and elements between commas, and objects whose members stand in any order;
- that readers give back the values that such texts are written for.

Does not own: which objects a data file holds.
-/

namespace TripleStore.Json

open TripleStore.Text (Scalar Scalars characters?_map_char hexDigit? hexValue?)

/-! ## Strings as they are written -/

/-- The characters that have an escape of one letter, and the letter. -/
def letterEscapes : List (Char × Char) :=
  [('"', '"'), ('\\', '\\'), ('/', '/'), ('\x08', 'b'), ('\x0c', 'f'), ('\n', 'n'), ('\r', 'r'),
    ('\t', 't')]

/-- The digit is a hexadecimal one, small or capital, and has the value. -/
def IsHexDigit (digit : Char) (value : Nat) : Prop :=
  value < 16 ∧ (digit = value.digitChar ∨ digit = value.digitChar.toUpper)

/-- The values of the four hexadecimal digits of a number. -/
def hexValues (number : Nat) : List Nat :=
  [number / 4096, number / 256 % 16, number / 16 % 16, number % 16]

/-- The ways in which a character can stand in a string. Quotes, backslashes and control
characters cannot stand for themselves. -/
inductive StandsFor : List Char → Char → Prop where
  | raw
      (character : Char)
      (noControl : 0x20 ≤ character.toNat)
      (noQuote : character ≠ '"')
      (noBackslash : character ≠ '\\') :
      StandsFor [character] character
  | letter
      (character letter : Char)
      (pair : (character, letter) ∈ letterEscapes) :
      StandsFor ['\\', letter] character
  | number
      (character : Char)
      (digits : List Char)
      (spelled : List.Forall₂ IsHexDigit digits (hexValues character.toNat)) :
      StandsFor ('\\' :: 'u' :: digits) character

/-- The characters in quotes are written for the text. -/
def WritesText (written : List Char) (text : String) : Prop :=
  ∃ pieces, List.Forall₂ StandsFor pieces text.toList ∧ written = '"' :: (pieces.flatten ++ ['"'])

/-- The parts with a comma before each, which the first one may do without. -/
def separated : Bool → List (List Char) → List Char
  | _, [] => []
  | true, first :: others => first ++ separated false others
  | false, first :: others => ',' :: (first ++ separated false others)

variable {α : Type} {rest : Scalars} {written : List Char} {character : Char}

/-! ## Pieces of strings -/

theorem hexDigit?_of_isHexDigit {value : Nat} {digit : Char} (isDigit : IsHexDigit digit value) :
    hexDigit? (.char digit) = some value := by
  have both : ∀ value < 16, hexDigit? (.char value.digitChar) = some value ∧
      hexDigit? (.char value.digitChar.toUpper) = some value := by
    decide
  obtain ⟨inRange, rfl | rfl⟩ := isDigit
  · exact (both value inRange).1
  · exact (both value inRange).2

theorem mapM_hexDigit?
    {values : List Nat}
    {digits : List Char}
    (spelled : List.Forall₂ IsHexDigit digits values) :
    (digits.map Scalar.char).mapM hexDigit? = some values := by
  induction spelled with
  | nil => rfl
  | cons isDigit others inductionHypothesis =>
      rw [List.map_cons, List.mapM_cons, hexDigit?_of_isHexDigit isDigit, inductionHypothesis]
      rfl

theorem length_digits
    {digits : List Char}
    (spelled : List.Forall₂ IsHexDigit digits (hexValues character.toNat)) :
    (digits.map Scalar.char).length = 4 := by
  rw [List.length_map, spelled.length_eq]
  rfl

/-- The four digits of a character are read as its number. -/
theorem codeUnit_digits
    {digits : List Char}
    (spelled : List.Forall₂ IsHexDigit digits (hexValues character.toNat))
    (rest : Scalars) :
    codeUnit (digits.map .char ++ rest) = .ok character.toNat := by
  have four := length_digits spelled
  have value : hexValue? (digits.map .char) = some character.toNat := by
    rw [hexValue?, mapM_hexDigit? spelled]
    simp only [hexValues, Option.map_some, List.foldl_cons, List.foldl_nil, Option.some.injEq]
    omega
  unfold codeUnit
  simp only [List.take_left' four, value, four, if_true]

/-- No character has the number of half a surrogate pair. -/
theorem not_surrogate (character : Char) :
    isLeading character.toNat = false ∧ isTrailing character.toNat = false := by
  have valid := character.valid
  simp only [isLeading, isTrailing, Bool.and_eq_false_iff, decide_eq_false_iff_not]
  rcases valid with low | ⟨above, _⟩
  · change character.toNat < 0xD800 at low
    omega
  · change 0xDFFF < character.toNat at above
    omega

theorem escape_letter {letter : Char} (pair : (character, letter) ∈ letterEscapes)
    (rest : Scalars) :
    escape (.char letter :: rest) = .ok (character, 1) := by
  simp only [letterEscapes, List.mem_cons, Prod.mk.injEq, List.not_mem_nil, or_false] at pair
  rcases pair with ⟨rfl, rfl⟩ | ⟨rfl, rfl⟩ | ⟨rfl, rfl⟩ | ⟨rfl, rfl⟩ | ⟨rfl, rfl⟩ | ⟨rfl, rfl⟩ |
    ⟨rfl, rfl⟩ | ⟨rfl, rfl⟩ <;> rfl

theorem escape_number
    {digits : List Char}
    (spelled : List.Forall₂ IsHexDigit digits (hexValues character.toNat))
    (rest : Scalars) :
    escape (.char 'u' :: (digits.map .char ++ rest)) = .ok (character, 5) := by
  obtain ⟨notLeading, notTrailing⟩ := not_surrogate character
  simp [escape, numericEscape, codeUnit_digits spelled, notLeading, notTrailing, bind, Except.bind,
    pure, Except.pure]

theorem stringBody_escape
    {places : Nat}
    (escaped : escape rest = .ok (character, places)) :
    stringBody (.char '\\' :: rest) =
      (stringBody (rest.drop places)).map fun read => (.char character :: read.1, read.2) := by
  rw [stringBody, escaped]
  simp only [bind, Except.bind]
  cases stringBody (rest.drop places) <;> rfl

/-- What stands for a character is read as that character. -/
theorem stringBody_piece (stands : StandsFor written character) (rest : Scalars) :
    stringBody (written.map .char ++ rest) =
      (stringBody rest).map fun read => (.char character :: read.1, read.2) := by
  cases stands with
  | raw _ noControl noQuote noBackslash =>
      have visible : isControl (.char character) = false := by
        simpa [isControl, Scalar.holds] using noControl
      rw [List.map_singleton, List.singleton_append, stringBody]
      · simp only [visible]
        cases stringBody rest <;> rfl
      · rintro ⟨⟩
        exact noQuote rfl
      · rintro ⟨⟩
        exact noBackslash rfl
  | letter _ letter pair => exact stringBody_escape (escape_letter pair rest)
  | number _ digits spelled =>
      have read := stringBody_escape (escape_number spelled rest)
      rwa [List.drop_succ_cons, List.drop_left' (length_digits spelled)] at read

theorem stringBody_pieces
    {pieces : List (List Char)}
    {characters : List Char}
    (stands : List.Forall₂ StandsFor pieces characters)
    (rest : Scalars) :
    stringBody (pieces.flatten.map .char ++ .char '"' :: rest) =
      .ok (characters.map .char, rest) := by
  induction stands with
  | nil =>
      rw [List.flatten_nil, List.map_nil, List.nil_append, stringBody]
  | cons first others inductionHypothesis =>
      rw [List.flatten_cons, List.map_append, List.append_assoc, stringBody_piece first,
        inductionHypothesis]
      rfl

/-- What each element on the left has by what it is paired with, all have. -/
theorem forall_mem_of_forall₂
    {β : Type}
    {Related : α → β → Prop}
    {Property : α → Prop}
    (ofPair : ∀ left right, Related left right → Property left)
    {lefts : List α}
    {rights : List β}
    (related : List.Forall₂ Related lefts rights) :
    ∀ left ∈ lefts, Property left := by
  have both := related.imp fun left right pair => And.intro (ofPair left right pair) pair
  exact (List.forall₂_and_left _ _).mp both |>.1

theorem exists_forall₂
    {β : Type}
    {Related : α → β → Prop}
    (exists_left : ∀ right, ∃ left, Related left right)
    (rights : List β) :
    ∃ lefts, List.Forall₂ Related lefts rights := by
  choose leftOf related using exists_left
  refine ⟨rights.map leftOf, ?_⟩
  rw [List.forall₂_map_left_iff, List.forall₂_same]
  exact fun right _ => related right

/-- Nothing that stands in a string is a control character. -/
theorem StandsFor.noControl (stands : StandsFor written character) :
    ∀ unit ∈ written, 0x20 ≤ unit.toNat := by
  cases stands with
  | raw _ noControl _ _ => simpa using noControl
  | letter _ letter pair =>
      have letters : ∀ pair ∈ letterEscapes, 0x20 ≤ pair.2.toNat := by decide
      exact List.forall_mem_cons.mpr ⟨by decide, by simpa using letters _ pair⟩
  | number _ digits spelled =>
      have visible : ∀ value < 16,
          0x20 ≤ value.digitChar.toNat ∧ 0x20 ≤ value.digitChar.toUpper.toNat := by
        decide
      refine List.forall_mem_cons.mpr ⟨by decide, List.forall_mem_cons.mpr ⟨by decide, ?_⟩⟩
      refine forall_mem_of_forall₂ ?_ spelled
      rintro digit value ⟨inRange, rfl | rfl⟩
      · exact (visible value inRange).1
      · exact (visible value inRange).2

theorem exists_standsFor (character : Char) : ∃ written, StandsFor written character := by
  by_cases isQuote : character = '"'
  · exact ⟨_, .letter _ '"' (by simp [isQuote, letterEscapes])⟩
  · by_cases isBackslash : character = '\\'
    · exact ⟨_, .letter _ '\\' (by simp [isBackslash, letterEscapes])⟩
    · by_cases isControl : character.toNat < 0x20
      · have digit : ∀ value < 16, IsHexDigit value.digitChar value :=
          fun value inRange => ⟨inRange, Or.inl rfl⟩
        refine ⟨_, .number _ ((hexValues character.toNat).map Nat.digitChar) ?_⟩
        simp only [hexValues, List.map_cons, List.map_nil]
        exact .cons (digit _ (by omega)) (.cons (digit _ (by omega)) (.cons (digit _ (by omega))
          (.cons (digit _ (by omega)) .nil)))
      · exact ⟨_, .raw _ (by omega) isQuote isBackslash⟩

/-! ## Texts in quotes -/

/-- Characters that can stand for themselves. -/
def isRaw (character : Char) : Bool :=
  0x20 ≤ character.toNat && character != '"' && character != '\\'

/-- The text in quotes, each character standing for itself. -/
def quoted (text : String) : List Char :=
  '"' :: (text.toList ++ ['"'])

theorem writesText_quoted {text : String} (raw : text.toList.all isRaw = true) :
    WritesText (quoted text) text := by
  refine ⟨text.toList.map ([·]), ?_, by simp [quoted, ← List.flatMap_def]⟩
  rw [List.forall₂_map_left_iff, List.forall₂_same]
  intro character member
  have isRaw := List.all_eq_true.mp raw character member
  simp only [Json.isRaw, Bool.and_eq_true, decide_eq_true_eq, bne_iff_ne] at isRaw
  exact .raw character isRaw.1.1 isRaw.1.2 isRaw.2

theorem exists_writesText (text : String) : ∃ written, WritesText written text := by
  obtain ⟨pieces, stands⟩ := exists_forall₂ exists_standsFor text.toList
  exact ⟨_, pieces, stands, rfl⟩

theorem noControl_of_writesText {text : String} (writes : WritesText written text) :
    ∀ unit ∈ written, 0x20 ≤ unit.toNat := by
  obtain ⟨pieces, stands, rfl⟩ := writes
  have inside : ∀ piece ∈ pieces, ∀ unit ∈ piece, 0x20 ≤ unit.toNat := by
    refine forall_mem_of_forall₂ ?_ stands
    intro piece character standsFor
    exact standsFor.noControl
  have quote : 0x20 ≤ '"'.toNat := by decide
  simp only [List.forall_mem_cons, List.forall_mem_append, List.mem_flatten]
  refine ⟨quote, ?_, quote, by simp⟩
  rintro unit ⟨piece, isPiece, member⟩
  exact inside piece isPiece unit member

theorem forall_mem_separated
    {Property : Char → Prop}
    (ofComma : Property ',')
    {parts : List (List Char)}
    (ofParts : ∀ part ∈ parts, ∀ unit ∈ part, Property unit)
    (isFirst : Bool) :
    ∀ unit ∈ separated isFirst parts, Property unit := by
  induction parts generalizing isFirst with
  | nil => cases isFirst <;> simp [separated]
  | cons part others inductionHypothesis =>
      obtain ⟨ofPart, ofOthers⟩ := List.forall_mem_cons.mp ofParts
      have behind := inductionHypothesis ofOthers false
      cases isFirst with
      | true => exact List.forall_mem_append.mpr ⟨ofPart, behind⟩
      | false =>
          exact List.forall_mem_cons.mpr ⟨ofComma, List.forall_mem_append.mpr ⟨ofPart, behind⟩⟩

/-! ## Values at the start of a text -/

/-- The reader takes the characters off any text that starts with them, and takes them for
the value. -/
def Reader.Takes (reader : Reader α) (written : List Char) (value : α) : Prop :=
  ∀ rest, reader.read (written.map .char ++ rest) = .ok (value, rest)

theorem skipBlanks_cons {visible : Scalar} (notBlank : isBlank visible = false) (rest : Scalars) :
    skipBlanks (visible :: rest) = visible :: rest := by
  rw [skipBlanks, List.dropWhile_cons_of_neg (by simp [notBlank])]

theorem readString_of_writesText
    {text : String}
    {written : List Char}
    (writes : WritesText written text)
    (rest : Scalars) :
    ∃ inside, written.map Scalar.char ++ rest = .char '"' :: inside ∧
      readString inside = .ok (text, rest) := by
  obtain ⟨pieces, stands, rfl⟩ := writes
  refine ⟨pieces.flatten.map .char ++ .char '"' :: rest, by simp, ?_⟩
  rw [readString, stringBody_pieces stands]
  simp [bind, Except.bind, characters?_map_char, pure, Except.pure]

theorem takes_of_writesText {text : String} (writes : WritesText written text) :
    Reader.text.Takes written text := by
  intro rest
  obtain ⟨inside, starts, read⟩ := readString_of_writesText writes rest
  rw [starts]
  exact read

theorem takeSeparator_self {separator : Char} (notBlank : isBlank (.char separator) = false)
    (rest : Scalars) :
    takeSeparator separator (.char separator :: rest) = .ok rest := by
  simp [takeSeparator, skipBlanks_cons notBlank]

/-! ## Elements -/

/-- The text opens a value that is neither blank nor the end of a list. -/
def OpensValue (written : List Char) : Prop :=
  ∃ first others, written = first :: others ∧ isBlank (.char first) = false ∧ first ≠ ']'

theorem separated_cons_cons (first second : List Char) (others : List (List Char)) :
    separated true (first :: second :: others) =
      first ++ ',' :: separated true (second :: others) :=
  rfl

theorem readElements_last
    {element : Reader α}
    {input : Scalars}
    {value : α}
    (read : element.read input = .ok (value, .char ']' :: rest)) :
    readElements element input = .ok ([value], rest) := by
  rw [readElements]
  split
  · next failed =>
      rw [read] at failed
      cases failed
  · next again =>
      rw [read] at again
      cases again
      rw [skipBlanks_cons (by decide)]
      rfl

theorem readElements_more
    {element : Reader α}
    {input : Scalars}
    {value : α}
    (read : element.read input = .ok (value, .char ',' :: rest)) :
    readElements element input =
      (readElements element rest).map fun others => (value :: others.1, others.2) := by
  rw [readElements]
  split
  · next failed =>
      rw [read] at failed
      cases failed
  · next again =>
      rw [read] at again
      cases again
      have comma := takeSeparator_self (by decide : isBlank (.char ',') = false) rest
      split
      · next closes =>
          rw [skipBlanks_cons (by decide)] at closes
          cases closes
      · split
        · next failed =>
            rw [comma] at failed
            cases failed
        · next taken =>
            rw [comma] at taken
            cases taken
            cases readElements element rest <;> rfl

theorem readElements_separated
    {element : Reader α}
    {values : List α}
    {parts : List (List Char)}
    (takes : List.Forall₂ element.Takes parts values)
    (notEmpty : parts ≠ [])
    (rest : Scalars) :
    readElements element ((separated true parts).map .char ++ .char ']' :: rest) =
      .ok (values, rest) := by
  induction takes with
  | nil => exact absurd rfl notEmpty
  | @cons part value parts values first others inductionHypothesis =>
      cases others with
      | nil =>
          have read := first (.char ']' :: rest)
          simpa [separated] using readElements_last read
      | @cons second _ later _ _ _ =>
          have behind := inductionHypothesis (List.cons_ne_nil _ _)
          have read := first (.char ',' :: ((separated true (second :: later)).map .char ++
            .char ']' :: rest))
          have more := readElements_more read
          rw [behind] at more
          simpa [separated_cons_cons, Except.map] using more

theorem Reader.read_list
    {element : Reader α}
    {first : Scalar}
    (notBlank : isBlank first = false)
    (notClosing : first ≠ .char ']')
    (rest : Scalars) :
    (Reader.list element).read (.char '[' :: first :: rest) =
      readElements element (first :: rest) := by
  have opening := skipBlanks_cons (by decide : isBlank (.char '[') = false) (first :: rest)
  have inside := skipBlanks_cons notBlank rest
  unfold Reader.list
  simp only [opening, inside]
  split
  · next closes =>
      cases closes
      exact absurd rfl notClosing
  · rfl

/-- Elements between commas, in brackets, are read as a list. -/
theorem Reader.takes_list
    {element : Reader α}
    {values : List α}
    {parts : List (List Char)}
    (takes : List.Forall₂ element.Takes parts values)
    (opens : ∀ part ∈ parts, OpensValue part) :
    (Reader.list element).Takes ('[' :: (separated true parts ++ [']'])) values := by
  intro rest
  cases parts with
  | nil =>
      cases takes
      rfl
  | cons part later =>
      obtain ⟨first, others, rfl, notBlank, notClosing⟩ := opens part List.mem_cons_self
      have read := readElements_separated takes (List.cons_ne_nil _ _) rest
      have inside : (separated true ((first :: others) :: later)).map .char ++ .char ']' :: rest =
          .char first :: ((others ++ separated false later).map .char ++ .char ']' :: rest) := by
        simp [separated]
      rw [inside, ← Reader.read_list notBlank (by simpa using notClosing)] at read
      simpa [separated] using read

/-! ## Members -/

/-- A name in quotes, a colon, and what the reader takes for the value. -/
def WritesMember (field : Reader α) (written : List Char) (member : String × α) : Prop :=
  ∃ name value, WritesText name member.1 ∧ field.Takes value member.2 ∧
    written = name ++ ':' :: value

theorem readName_first {name : String} (writes : WritesText written name) (rest : Scalars) :
    readName true (written.map .char ++ rest) = .ok (some name, rest) := by
  obtain ⟨inside, starts, read⟩ := readString_of_writesText writes rest
  have opening := skipBlanks_cons (by decide : isBlank (.char '"') = false) inside
  rw [starts, readName, opening]
  simp only [takeComma, if_true, bind, Except.bind, opening, read]
  rfl

theorem readName_later {name : String} (writes : WritesText written name) (rest : Scalars) :
    readName false (.char ',' :: (written.map .char ++ rest)) = .ok (some name, rest) := by
  obtain ⟨inside, starts, read⟩ := readString_of_writesText writes rest
  have opening := skipBlanks_cons (by decide : isBlank (.char '"') = false) inside
  have comma := takeSeparator_self (by decide : isBlank (.char ',') = false)
    (.char '"' :: inside)
  have start := skipBlanks_cons (by decide : isBlank (.char ',') = false) (.char '"' :: inside)
  rw [starts, readName, start]
  simp only [takeComma, Bool.false_eq_true, if_false, comma, bind, Except.bind, opening, read]
  rfl

theorem readName_end (isFirst : Bool) (rest : Scalars) :
    readName isFirst (.char '}' :: rest) = .ok (none, rest) := by
  rw [readName, skipBlanks_cons (by decide)]
  rfl

theorem readMember_of_takes {field : Reader α} {value : α} (takes : field.Takes written value)
    (rest : Scalars) :
    readMember field (.char ':' :: (written.map .char ++ rest)) = .ok (value, rest) := by
  have colon := takeSeparator_self (by decide : isBlank (.char ':') = false)
    (written.map .char ++ rest)
  rw [readMember, colon]
  exact takes rest

/-! ## Objects -/

variable {names : List String} {field : Reader α} {found : List (String × α)} {isFirst : Bool}
  {input afterName : Scalars} {name : String} {value : α}

theorem readMembers_end (ends : readName isFirst input = .ok (none, rest)) :
    readMembers names field found isFirst input =
      (inOrder names found).map fun values => (values, rest) := by
  rw [readMembers]
  split
  · next failed =>
      rw [ends] at failed
      cases failed
  · next again =>
      rw [ends] at again
      cases again
      rfl
  · next again =>
      rw [ends] at again
      cases again

/-- A field that is asked for and has not come yet is put to those that have come. -/
theorem readMembers_member
    (named : readName isFirst input = .ok (some name, afterName))
    (fresh : found.lookup name = none)
    (asked : name ∈ names)
    (read : readMember field afterName = .ok (value, rest)) :
    readMembers names field found isFirst input =
      readMembers names field ((name, value) :: found) false rest := by
  rw [readMembers]
  split
  · next failed =>
      rw [named] at failed
      cases failed
  · next again =>
      rw [named] at again
      cases again
  · next again =>
      rw [named] at again
      cases again
      rw [fresh, Option.isSome_none, if_neg Bool.false_ne_true, if_pos asked]
      split
      · next failed =>
          rw [read] at failed
          cases failed
      · next again =>
          rw [read] at again
          cases again
          rfl

theorem readName_part
    (isFirst : Bool)
    (writes : WritesText written name)
    (behind : List Char)
    (others : List (List Char))
    (rest : Scalars) :
    readName isFirst ((separated isFirst ((written ++ behind) :: others)).map .char ++ rest) =
      .ok (some name, behind.map .char ++ ((separated false others).map .char ++ rest)) := by
  cases isFirst with
  | true => simpa [separated] using readName_first writes _
  | false => simpa [separated] using readName_later writes _

theorem readMembers_separated
    (isFirst : Bool)
    {members : List (String × α)}
    {parts : List (List Char)}
    (writes : List.Forall₂ (WritesMember field) parts members)
    (asked : ∀ member ∈ members, member.1 ∈ names)
    (nodup : ((members.reverse ++ found).map Prod.fst).Nodup)
    (rest : Scalars) :
    readMembers names field found isFirst
        ((separated isFirst parts).map .char ++ .char '}' :: rest) =
      (inOrder names (members.reverse ++ found)).map fun values => (values, rest) := by
  induction writes generalizing found isFirst with
  | nil =>
      have nothing : separated isFirst [] = [] := by cases isFirst <;> rfl
      rw [nothing]
      exact readMembers_end (readName_end isFirst rest)
  | @cons part member parts members first others inductionHypothesis =>
      obtain ⟨name, value⟩ := member
      obtain ⟨writtenName, writtenValue, writesName, takesValue, rfl⟩ := first
      obtain ⟨askedFirst, askedOthers⟩ := List.forall_mem_cons.mp asked
      rw [List.reverse_cons, List.append_assoc, List.singleton_append] at nodup ⊢
      have fresh : found.lookup name = none := by
        have later := nodup
        rw [List.map_append, List.map_cons] at later
        have absent := (List.nodup_cons.mp (List.Nodup.of_append_right later)).1
        rw [List.lookup_eq_none_iff]
        intro earlier isFound
        rw [bne_iff_ne]
        rintro rfl
        exact absent (List.mem_map.mpr ⟨earlier, isFound, rfl⟩)
      have named := readName_part isFirst writesName (':' :: writtenValue) parts
        (.char '}' :: rest)
      have read := readMember_of_takes takesValue
        ((separated false parts).map .char ++ .char '}' :: rest)
      rw [readMembers_member named fresh askedFirst read,
        inductionHypothesis false askedOthers nodup]

theorem lookup_of_mem
    {members : List (String × α)}
    (nodup : (members.map Prod.fst).Nodup)
    (member : (name, value) ∈ members) :
    members.lookup name = some value := by
  obtain ⟨front, behind, rfl⟩ := List.append_of_mem member
  rw [List.map_append, List.map_cons] at nodup
  refine List.lookup_eq_some_iff.mpr ⟨front, behind, rfl, ?_⟩
  intro earlier isEarlier
  rw [bne_iff_ne]
  rintro rfl
  exact (List.disjoint_of_nodup_append nodup) (List.mem_map_of_mem isEarlier) List.mem_cons_self

theorem mapM_lookup
    {fields members : List (String × α)}
    (known : ∀ field ∈ fields, members.lookup field.1 = some field.2) :
    ((fields.map Prod.fst).mapM fun name => members.lookup name) = some (fields.map Prod.snd) := by
  induction fields with
  | nil => rfl
  | cons first others inductionHypothesis =>
      obtain ⟨ofFirst, ofOthers⟩ := List.forall_mem_cons.mp known
      rw [List.map_cons, List.mapM_cons, ofFirst, inductionHypothesis ofOthers]
      rfl

/-- Fields are found by their names, wherever they stand. -/
theorem inOrder_of_perm
    {fields members : List (String × α)}
    (nodup : (fields.map Prod.fst).Nodup)
    (order : members.Perm fields) :
    inOrder (fields.map Prod.fst) members = .ok (fields.map Prod.snd) := by
  have everyField : ∀ field ∈ fields, members.lookup field.1 = some field.2 := by
    intro field isField
    exact lookup_of_mem ((order.map Prod.fst).nodup_iff.mpr nodup) (order.mem_iff.mpr isField)
  rw [inOrder, mapM_lookup everyField]

/-- Members between commas, in braces and in any order, are read as a structure. -/
theorem Reader.takes_fields
    {fields members : List (String × α)}
    {parts : List (List Char)}
    (nodup : (fields.map Prod.fst).Nodup)
    (order : members.Perm fields)
    (writes : List.Forall₂ (WritesMember field) parts members) :
    (Reader.fields (fields.map Prod.fst) field).Takes
      ('{' :: (separated true parts ++ ['}'])) (fields.map Prod.snd) := by
  intro rest
  have asked : ∀ member ∈ members, member.1 ∈ fields.map Prod.fst := by
    intro member isMember
    exact List.mem_map_of_mem (order.mem_iff.mp isMember)
  have reversed : (members.reverse ++ []).Perm fields := by
    rw [List.append_nil]
    exact members.reverse_perm.trans order
  have read := readMembers_separated true writes asked
    ((reversed.map Prod.fst).nodup_iff.mpr nodup) rest
  rw [inOrder_of_perm nodup reversed] at read
  have inside : (('{' :: (separated true parts ++ ['}'])).map Scalar.char ++ rest) =
      .char '{' :: ((separated true parts).map .char ++ .char '}' :: rest) := by
    simp
  have opening := skipBlanks_cons (by decide : isBlank (.char '{') = false)
    ((separated true parts).map .char ++ .char '}' :: rest)
  rw [inside]
  unfold Reader.fields
  simp only [opening]
  exact read

theorem Reader.Takes.refine
    {β : Type}
    {reader : Reader α}
    {meaning : α → Option β}
    {result : β}
    (takes : reader.Takes written value)
    (means : meaning value = some result) :
    (reader.refine meaning).Takes written result := by
  intro rest
  unfold Reader.refine
  simp only [takes rest, bind, Except.bind, means]
  rfl

theorem Reader.Takes.whole {reader : Reader α} (takes : reader.Takes written value) :
    reader.whole (written.map .char) = .ok value := by
  have read := takes []
  rw [List.append_nil] at read
  simp only [Reader.whole, read, bind, Except.bind]
  rfl

end TripleStore.Json
