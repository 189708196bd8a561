import TripleStore.Text.Lines

/-!
Contract: the lines of bytes that are put together.

Owns:
- `EndsLine`, by which bytes leave no line open;
- that the lines of two parts, the first of which leaves none open, are the lines of the
  one and then those of the other;
- that such bytes have as many lines as newlines;
- the lines of bytes that are written one line after the other.

Does not own: what is on a line.
-/

namespace TripleStore.Text

variable {byte : UInt8} {bytes rest : List UInt8}

/-- There are no bytes, or the last one is a newline. -/
def EndsLine (bytes : List UInt8) : Prop :=
  ∀ last ∈ bytes.getLast?, last = newline

instance (bytes : List UInt8) : Decidable (EndsLine bytes) :=
  Option.decidableForallMem bytes.getLast?

theorem endsLine_nil : EndsLine [] := by
  simp [EndsLine]

/-- What follows the first byte leaves no line open either. -/
theorem EndsLine.tail (ends : EndsLine (byte :: rest)) : EndsLine rest := by
  cases rest with
  | nil => exact endsLine_nil
  | cons second others =>
      unfold EndsLine at ends ⊢
      rwa [List.getLast?_cons_cons] at ends

/-- Only a newline can stand alone. -/
theorem EndsLine.ne_nil (ends : EndsLine (byte :: rest)) (other : byte ≠ newline) :
    rest ≠ [] := by
  intro alone
  subst alone
  exact other (ends byte rfl)

theorem EndsLine.append (ends : EndsLine bytes) (restEnds : EndsLine rest) :
    EndsLine (bytes ++ rest) := by
  intro last member
  rw [List.getLast?_append] at member
  cases ofRest : rest.getLast? with
  | none => exact ends last (by simpa [ofRest] using member)
  | some found => exact restEnds last (by simpa [ofRest] using member)

/-! ## Lines -/

theorem extendFirst_append {pieces : List (List UInt8)} (notEmpty : pieces ≠ [])
    (byte : UInt8) (others : List (List UInt8)) :
    extendFirst byte (pieces ++ others) = extendFirst byte pieces ++ others := by
  cases pieces with
  | nil => exact absurd rfl notEmpty
  | cons first later => rfl

theorem length_extendFirst {pieces : List (List UInt8)} (notEmpty : pieces ≠ []) (byte : UInt8) :
    (extendFirst byte pieces).length = pieces.length := by
  cases pieces with
  | nil => exact absurd rfl notEmpty
  | cons first later => rfl

theorem extendFirst_ne_nil (byte : UInt8) (pieces : List (List UInt8)) :
    extendFirst byte pieces ≠ [] := by
  cases pieces <;> simp [extendFirst]

theorem lines_newline (rest : List UInt8) : lines (newline :: rest) = [] :: lines rest := by
  rw [lines, if_pos rfl]

/-- Where there are bytes there is a line. -/
theorem lines_ne_nil (notEmpty : bytes ≠ []) : lines bytes ≠ [] := by
  induction bytes with
  | nil => exact absurd rfl notEmpty
  | cons byte rest inductionHypothesis =>
      rw [lines]
      split
      · exact List.cons_ne_nil _ _
      · split
        · next carriage =>
            apply inductionHypothesis
            intro none
            simp [none] at carriage
        · exact extendFirst_ne_nil _ _

/-- A part that leaves no line open is cut as if nothing followed. -/
theorem lines_append (ends : EndsLine bytes) (rest : List UInt8) :
    lines (bytes ++ rest) = lines bytes ++ lines rest := by
  induction bytes with
  | nil => rfl
  | cons byte later inductionHypothesis =>
      have together := inductionHypothesis ends.tail
      by_cases isNewline : byte = newline
      · subst isNewline
        rw [List.cons_append, lines_newline, lines_newline, together, List.cons_append]
      · have notEmpty := ends.ne_nil isNewline
        have sameHead : (later ++ rest).head? = later.head? := by
          obtain ⟨second, others, rfl⟩ := List.exists_cons_of_ne_nil notEmpty
          rfl
        rw [List.cons_append, lines, lines, if_neg isNewline, if_neg isNewline, sameHead, together]
        split
        · rfl
        · exact extendFirst_append (lines_ne_nil notEmpty) _ _

theorem length_lines (ends : EndsLine bytes) : (lines bytes).length = bytes.count newline := by
  induction bytes with
  | nil => rfl
  | cons byte rest inductionHypothesis =>
      have counted := inductionHypothesis ends.tail
      by_cases isNewline : byte = newline
      · subst isNewline
        rw [lines_newline, List.length_cons, counted, List.count_cons_self]
      · have notEmpty := ends.ne_nil isNewline
        rw [List.count_cons_of_ne isNewline, ← counted, lines, if_neg isNewline]
        split
        · rfl
        · exact length_extendFirst (lines_ne_nil notEmpty) _

/-! ## Lines that are written one by one -/

/-- No byte ends a line or is cut off its end. -/
def IsPlain (bytes : List UInt8) : Prop :=
  ∀ byte ∈ bytes, byte ≠ newline ∧ byte ≠ carriageReturn

/-- Plain bytes are put in front of the first line. -/
theorem lines_append_of_isPlain (plain : IsPlain bytes) (rest : List UInt8) :
    lines (bytes ++ rest) = bytes.foldr extendFirst (lines rest) := by
  induction bytes with
  | nil => rfl
  | cons byte others inductionHypothesis =>
      obtain ⟨⟨noNewline, noReturn⟩, othersPlain⟩ := List.forall_mem_cons.mp plain
      rw [List.cons_append, lines, if_neg noNewline, if_neg fun carriage => noReturn carriage.1,
        inductionHypothesis othersPlain, List.foldr_cons]

theorem foldr_extendFirst_cons (bytes first : List UInt8) (others : List (List UInt8)) :
    bytes.foldr extendFirst (first :: others) = (bytes ++ first) :: others := by
  induction bytes with
  | nil => rfl
  | cons byte later inductionHypothesis =>
      rw [List.foldr_cons, inductionHypothesis]
      rfl

theorem foldr_extendFirst_nil (notEmpty : bytes ≠ []) : bytes.foldr extendFirst [] = [bytes] := by
  induction bytes with
  | nil => exact absurd rfl notEmpty
  | cons byte later inductionHypothesis =>
      cases later with
      | nil => rfl
      | cons second others =>
          rw [List.foldr_cons, inductionHypothesis (List.cons_ne_nil _ _)]
          rfl

theorem lines_of_isPlain (plain : IsPlain bytes) (notEmpty : bytes ≠ []) :
    lines bytes = [bytes] := by
  have whole := lines_append_of_isPlain plain []
  rwa [List.append_nil, lines, foldr_extendFirst_nil notEmpty] at whole

/-- The two ways in which a line ends. -/
def lineEnds : List (List UInt8) :=
  [[newline], [carriageReturn, newline]]

theorem lines_lineEnd {lineEnd : List UInt8} (isEnd : lineEnd ∈ lineEnds) (rest : List UInt8) :
    lines (lineEnd ++ rest) = [] :: lines rest := by
  simp only [lineEnds, List.mem_cons, List.not_mem_nil, or_false] at isEnd
  rcases isEnd with rfl | rfl
  · exact lines_newline rest
  · rw [List.cons_append, lines, if_neg (by decide), if_pos ⟨rfl, rfl⟩]
    exact lines_newline rest

/-- A plain line and its end are the first line of what they start. -/
theorem lines_cons_of_isPlain
    {lineEnd : List UInt8}
    (plain : IsPlain bytes)
    (isEnd : lineEnd ∈ lineEnds)
    (rest : List UInt8) :
    lines (bytes ++ (lineEnd ++ rest)) = bytes :: lines rest := by
  rw [lines_append_of_isPlain plain, lines_lineEnd isEnd, foldr_extendFirst_cons, List.append_nil]

end TripleStore.Text
