import TripleStore.Json.Magnitude
import TripleStore.Json.Skip

/-!
Contract: JSON values of a known shape, read from the start of a text.

Owns:
- readers, which take at least one place of the text when they succeed;
- texts, lists, and structures whose fields are all of one shape;
- the fault of a value that has another shape than the one asked for.

Does not own: which structures a data file holds (`TripleStore.Load.Json`).

A structure is written as an object with its fields by name, in any order and among
members of other names, or as a list of its fields in their own order.
-/

namespace TripleStore.Json

open TripleStore.Text (Scalars)

/-- A way to read a value from the start of a text. -/
structure Reader (α : Type) where
  read : Scalars → Except Fault (α × Scalars)
  consumes : ∀ {input : Scalars} {value : α} {remaining : Scalars},
    read input = .ok (value, remaining) → remaining.length < input.length

/-! ## Values of another shape -/

def wrongShape {α : Type} : Except Fault α → Fault
  | .ok _ => .mismatched
  | .error fault => fault

/-- The fault of what the text starts with, where a value of another shape is asked
for. A value that holds no others is read to its end first. -/
def refusal : Scalars → Fault
  | [] => .truncated
  | .char 'n' :: rest => wrongShape (skipWord ['u', 'l', 'l'] rest)
  | .char 't' :: rest => wrongShape (skipWord ['r', 'u', 'e'] rest)
  | .char 'f' :: rest => wrongShape (skipWord ['a', 'l', 's', 'e'] rest)
  | .char '"' :: rest => wrongShape (readString rest)
  | .char '[' :: _ => .mismatched
  | .char '{' :: _ => .mismatched
  | input =>
      match number .truncated input with
      | .error fault => fault
      | .ok (numeral, _) => if numeral.overflows then .malformed else .mismatched

/-! ## Texts -/

theorem length_stringBody_lt {input content remaining : Scalars}
    (read : stringBody input = .ok (content, remaining)) :
    remaining.length < input.length := by
  fun_induction stringBody input generalizing content remaining with
  | case1 => simp at read
  | case2 rest =>
    simp only [Except.ok.injEq, Prod.mk.injEq] at read
    rw [← read.2]
    simp
  | case3 rest inductionHypothesis =>
    cases escaped : escape rest with
    | error fault => simp [escaped, bind, Except.bind] at read
    | ok result =>
      obtain ⟨character, places⟩ := result
      simp only [escaped, bind, Except.bind] at read
      cases scanned : stringBody (rest.drop places) with
      | error fault => simp [scanned] at read
      | ok result =>
        obtain ⟨others, afterOthers⟩ := result
        have shorter := inductionHypothesis places scanned
        simp only [scanned, pure, Except.pure, Except.ok.injEq, Prod.mk.injEq] at read
        rw [← read.2]
        simp only [List.length_drop, List.length_cons] at shorter ⊢
        omega
  | case4 => simp at read
  | case5 scalar rest _ _ _ inductionHypothesis =>
    cases scanned : stringBody rest with
    | error fault => simp [scanned, bind, Except.bind] at read
    | ok result =>
      obtain ⟨others, afterOthers⟩ := result
      have shorter := inductionHypothesis scanned
      simp only [scanned, bind, Except.bind, pure, Except.pure, Except.ok.injEq,
        Prod.mk.injEq] at read
      rw [← read.2]
      simp only [List.length_cons]
      omega

theorem length_readString_lt {input remaining : Scalars} {text : String}
    (read : readString input = .ok (text, remaining)) :
    remaining.length < input.length := by
  unfold readString at read
  cases scanned : stringBody input with
  | error fault => simp [scanned, bind, Except.bind] at read
  | ok result =>
    obtain ⟨content, afterContent⟩ := result
    have shorter := length_stringBody_lt scanned
    simp only [scanned, bind, Except.bind] at read
    split at read
    · simp only [pure, Except.pure, Except.ok.injEq, Prod.mk.injEq] at read
      rw [← read.2]
      exact shorter
    · simp at read

def Reader.text : Reader String where
  read input :=
    match skipBlanks input with
    | .char '"' :: rest => readString rest
    | other => .error (refusal other)
  consumes {input} {_} {_} read := by
    have skipped := length_skipBlanks_le input
    split at read
    · next rest starts =>
      have shorter := length_readString_lt read
      simp only [starts, List.length_cons] at skipped
      omega
    · simp at read

/-! ## Lists -/

def takeSeparator (separator : Char) (input : Scalars) : Except Fault Scalars :=
  match skipBlanks input with
  | [] => .error .truncated
  | scalar :: rest => if scalar = .char separator then .ok rest else .error .malformed

theorem length_takeSeparator_lt {separator : Char} {input remaining : Scalars}
    (read : takeSeparator separator input = .ok remaining) :
    remaining.length < input.length := by
  have skipped := length_skipBlanks_le input
  unfold takeSeparator at read
  split at read
  · simp at read
  · next starts =>
    simp only [starts, List.length_cons] at skipped
    split at read
    · cases read
      omega
    · simp at read

def readElements {α : Type} (element : Reader α) (input : Scalars) :
    Except Fault (List α × Scalars) :=
  match _read : element.read input with
  | .error fault => .error fault
  | .ok (value, afterValue) =>
      match _next : skipBlanks afterValue with
      | .char ']' :: remaining => .ok ([value], remaining)
      | _ =>
          match _comma : takeSeparator ',' afterValue with
          | .error fault => .error fault
          | .ok rest => do
              let (others, remaining) ← readElements element rest
              return (value :: others, remaining)
termination_by input.length
decreasing_by
  have shorter := element.consumes _read
  have separated := length_takeSeparator_lt _comma
  omega

theorem length_readElements_lt {α : Type} {element : Reader α} {input remaining : Scalars}
    {values : List α} (read : readElements element input = .ok (values, remaining)) :
    remaining.length < input.length := by
  fun_induction readElements element input generalizing values remaining with
  | case1 => simp at read
  | case2 input value afterValue first rest starts =>
    have shorter := element.consumes first
    have skipped := length_skipBlanks_le afterValue
    simp only [starts, List.length_cons] at skipped
    cases read
    omega
  | case3 => simp at read
  | case4 input value afterValue first rest separated _ inductionHypothesis =>
    have shorter := element.consumes first
    have comma := length_takeSeparator_lt separated
    cases scanned : readElements element rest with
    | error fault => simp [scanned, bind, Except.bind] at read
    | ok result =>
      obtain ⟨others, afterOthers⟩ := result
      have others := inductionHypothesis scanned
      simp only [scanned, bind, Except.bind, pure, Except.pure, Except.ok.injEq,
        Prod.mk.injEq] at read
      rw [← read.2]
      omega

def Reader.list {α : Type} (element : Reader α) : Reader (List α) where
  read input :=
    match skipBlanks input with
    | .char '[' :: rest =>
        match skipBlanks rest with
        | .char ']' :: remaining => .ok ([], remaining)
        | _ => readElements element rest
    | other => .error (refusal other)
  consumes {input} {_} {_} read := by
    have skipped := length_skipBlanks_le input
    split at read
    · next rest starts =>
      simp only [starts, List.length_cons] at skipped
      have inside := length_skipBlanks_le rest
      split at read
      · next closes =>
        simp only [closes, List.length_cons] at inside
        cases read
        omega
      · have shorter := length_readElements_lt read
        omega
    · simp at read

/-! ## Structures -/

/-- What follows the comma that comes before every part but the first. -/
def takeComma (isFirst : Bool) (input : Scalars) : Except Fault Scalars :=
  if isFirst then .ok input else takeSeparator ',' input

theorem length_takeComma_le {isFirst : Bool} {input remaining : Scalars}
    (read : takeComma isFirst input = .ok remaining) :
    remaining.length ≤ input.length := by
  unfold takeComma at read
  split at read
  · cases read
    exact Nat.le_refl _
  · exact Nat.le_of_lt (length_takeSeparator_lt read)

def readPlaces {α : Type} (field : Reader α) :
    Nat → Bool → Scalars → Except Fault (List α × Scalars)
  | 0, _, input => (takeSeparator ']' input).map fun remaining => ([], remaining)
  | count + 1, isFirst, input =>
      match skipBlanks input with
      | .char ']' :: _ => .error .mismatched
      | _ => do
          let (value, afterValue) ← field.read (← takeComma isFirst input)
          let (others, remaining) ← readPlaces field count false afterValue
          return (value :: others, remaining)

theorem length_readPlaces_lt {α : Type} {field : Reader α} {count : Nat} {isFirst : Bool}
    {input remaining : Scalars} {values : List α}
    (read : readPlaces field count isFirst input = .ok (values, remaining)) :
    remaining.length < input.length := by
  induction count generalizing isFirst input values remaining with
  | zero =>
    simp only [readPlaces] at read
    cases closed : takeSeparator ']' input with
    | error fault => simp [closed, Except.map] at read
    | ok rest =>
      have shorter := length_takeSeparator_lt closed
      simp only [closed, Except.map, Except.ok.injEq, Prod.mk.injEq] at read
      rw [← read.2]
      exact shorter
  | succ count inductionHypothesis =>
    simp only [readPlaces] at read
    split at read
    · simp at read
    · cases separated : takeComma isFirst input with
      | error fault => simp [separated, bind, Except.bind] at read
      | ok rest =>
        have comma := length_takeComma_le separated
        cases first : field.read rest with
        | error fault => simp [separated, first, bind, Except.bind] at read
        | ok result =>
          obtain ⟨value, afterValue⟩ := result
          have shorter := field.consumes first
          cases scanned : readPlaces field count false afterValue with
          | error fault => simp [separated, first, scanned, bind, Except.bind] at read
          | ok result =>
            obtain ⟨others, afterOthers⟩ := result
            have others := inductionHypothesis scanned
            simp only [separated, first, scanned, bind, Except.bind, pure, Except.pure,
              Except.ok.injEq, Prod.mk.injEq] at read
            rw [← read.2]
            omega

def readName (isFirst : Bool) (input : Scalars) : Except Fault (Option String × Scalars) :=
  match skipBlanks input with
  | .char '}' :: remaining => .ok (none, remaining)
  | _ => do
      match skipBlanks (← takeComma isFirst input) with
      | [] => .error .truncated
      | .char '"' :: rest => do
          let (name, remaining) ← readString rest
          return (some name, remaining)
      | _ => .error .malformed

theorem length_readName_lt {isFirst : Bool} {input remaining : Scalars}
    {name : Option String} (read : readName isFirst input = .ok (name, remaining)) :
    remaining.length < input.length := by
  have skipped := length_skipBlanks_le input
  unfold readName at read
  split at read
  · next closes =>
    simp only [closes, List.length_cons] at skipped
    cases read
    omega
  · cases separated : takeComma isFirst input with
    | error fault => simp [separated, bind, Except.bind] at read
    | ok rest =>
      have comma := length_takeComma_le separated
      have blanks := length_skipBlanks_le rest
      simp only [separated, bind, Except.bind] at read
      split at read
      · simp at read
      · next inside starts =>
        simp only [starts, List.length_cons] at blanks
        cases scanned : readString inside with
        | error fault => simp [scanned] at read
        | ok result =>
          obtain ⟨text, afterText⟩ := result
          have shorter := length_readString_lt scanned
          simp only [scanned, pure, Except.pure, Except.ok.injEq, Prod.mk.injEq] at read
          rw [← read.2]
          omega
      · simp at read

def readMember {α : Type} (field : Reader α) (input : Scalars) :
    Except Fault (α × Scalars) := do
  field.read (← takeSeparator ':' input)

theorem length_readMember_lt {α : Type} {field : Reader α} {input remaining : Scalars}
    {value : α} (read : readMember field input = .ok (value, remaining)) :
    remaining.length < input.length := by
  unfold readMember at read
  cases separated : takeSeparator ':' input with
  | error fault => simp [separated, bind, Except.bind] at read
  | ok rest =>
    have colon := length_takeSeparator_lt separated
    simp only [separated, bind, Except.bind] at read
    have shorter := field.consumes read
    omega

def skipMember (input : Scalars) : Except Fault Scalars := do
  skipValue [] (← takeSeparator ':' input)

theorem length_skipMember_lt {input remaining : Scalars}
    (read : skipMember input = .ok remaining) :
    remaining.length < input.length := by
  unfold skipMember at read
  cases separated : takeSeparator ':' input with
  | error fault => simp [separated, bind, Except.bind] at read
  | ok rest =>
    have colon := length_takeSeparator_lt separated
    simp only [separated, bind, Except.bind] at read
    have shorter := length_skipValue_lt read
    omega

def inOrder {α : Type} (names : List String) (found : List (String × α)) :
    Except Fault (List α) :=
  match names.mapM fun name => found.lookup name with
  | some values => .ok values
  | none => .error .mismatched

/-- The fields by these names, and what follows the object. Fields that have been read
are in `found`; one that comes twice, and one that never comes, is a wrong shape. -/
def readMembers {α : Type} (names : List String) (field : Reader α)
    (found : List (String × α)) (isFirst : Bool) (input : Scalars) :
    Except Fault (List α × Scalars) :=
  match _name : readName isFirst input with
  | .error fault => .error fault
  | .ok (none, remaining) =>
      (inOrder names found).map fun values => (values, remaining)
  | .ok (some name, afterName) =>
      if (found.lookup name).isSome then
        .error .mismatched
      else if name ∈ names then
        match _value : readMember field afterName with
        | .error fault => .error fault
        | .ok (value, rest) => readMembers names field ((name, value) :: found) false rest
      else
        match _value : skipMember afterName with
        | .error fault => .error fault
        | .ok rest => readMembers names field found false rest
termination_by input.length
decreasing_by
  all_goals have name := length_readName_lt _name
  · have value := length_readMember_lt _value
    omega
  · have value := length_skipMember_lt _value
    omega

theorem length_readMembers_lt {α : Type} {names : List String} {field : Reader α}
    {found : List (String × α)} {isFirst : Bool} {input remaining : Scalars}
    {values : List α}
    (read : readMembers names field found isFirst input = .ok (values, remaining)) :
    remaining.length < input.length := by
  fun_induction readMembers names field found isFirst input with
  | case1 => simp at read
  | case2 found _ _ _ name =>
    have shorter := length_readName_lt name
    cases ordered : inOrder names found with
    | error fault => simp [ordered, Except.map] at read
    | ok values =>
      simp only [ordered, Except.map, Except.ok.injEq, Prod.mk.injEq] at read
      rw [← read.2]
      exact shorter
  | case3 => simp at read
  | case4 => simp at read
  | case5 _ _ _ _ _ name _ _ _ _ value inductionHypothesis =>
    have first := length_readName_lt name
    have second := length_readMember_lt value
    have third := inductionHypothesis read
    omega
  | case6 => simp at read
  | case7 _ _ _ _ _ name _ _ _ value inductionHypothesis =>
    have first := length_readName_lt name
    have second := length_skipMember_lt value
    have third := inductionHypothesis read
    omega

def Reader.fields {α : Type} (names : List String) (field : Reader α) :
    Reader (List α) where
  read input :=
    match skipBlanks input with
    | .char '[' :: rest => readPlaces field names.length true rest
    | .char '{' :: rest => readMembers names field [] true rest
    | other => .error (refusal other)
  consumes {input} {_} {_} read := by
    have skipped := length_skipBlanks_le input
    split at read
    · next rest starts =>
      have shorter := length_readPlaces_lt read
      simp only [starts, List.length_cons] at skipped
      omega
    · next rest starts =>
      have shorter := length_readMembers_lt read
      simp only [starts, List.length_cons] at skipped
      omega
    · simp at read

def Reader.refine {α β : Type} (reader : Reader α) (meaning : α → Option β) :
    Reader β where
  read input := do
    let (value, remaining) ← reader.read input
    match meaning value with
    | some result => return (result, remaining)
    | none => .error .mismatched
  consumes {input} {_} {_} read := by
    cases scanned : reader.read input with
    | error fault => simp [scanned, bind, Except.bind] at read
    | ok result =>
      obtain ⟨value, afterValue⟩ := result
      have shorter := reader.consumes scanned
      simp only [scanned, bind, Except.bind] at read
      split at read
      · simp only [pure, Except.pure, Except.ok.injEq, Prod.mk.injEq] at read
        rw [← read.2]
        exact shorter
      · simp at read

def Reader.whole {α : Type} (reader : Reader α) (input : Scalars) : Except Fault α := do
  let (value, remaining) ← reader.read input
  match skipBlanks remaining with
  | [] => return value
  | _ => .error .malformed

end TripleStore.Json
