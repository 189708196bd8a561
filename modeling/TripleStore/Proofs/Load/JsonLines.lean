import Mathlib.Data.List.TakeWhile
import TripleStore.Load.Json
import TripleStore.Proofs.Text.Lines

/-!
Contract: files with one record to a line, read in parts.

Owns:
- which errors such a file can give, and how their line numbers move;
- that lines put together are read one after the other;
- that blank lines hold no record and only move the numbers behind them;
- what follows for a file that is cut at the end of a line.

Does not own: what a single line holds (`TripleStore.Load.Json`). All of this is so whatever
reads the lines, as long as what it reads depends on the line alone.
-/

namespace TripleStore.Load

variable {recordOn : LineReader} {number line : Nat} {error : LoadError}
  {first second blanks : List (List UInt8)}

/-! ## Line numbers of errors -/

namespace LoadError

/-- The error with another line number, if it has one. -/
def mapLine (renumber : Nat → Nat) : LoadError → LoadError
  | jsonLine line fault => jsonLine (renumber line) fault
  | error => error

/-- The error is one that so many lines from the given number on can give. -/
def OfLines (number count : Nat) : LoadError → Prop
  | unreadable => True
  | jsonLine line _ => number ≤ line ∧ line < number + count
  | _ => False

theorem mapLine_id (error : LoadError) : error.mapLine id = error := by
  cases error <;> rfl

theorem OfLines.widen
    {inner innerCount count : Nat}
    (ofLines : error.OfLines inner innerCount)
    (lower : number ≤ inner)
    (upper : inner + innerCount ≤ number + count) :
    error.OfLines number count := by
  cases error with
  | jsonLine line fault =>
      obtain ⟨above, below⟩ := ofLines
      exact ⟨Nat.le_trans lower above, Nat.lt_of_lt_of_le below upper⟩
  | _ => exact ofLines

theorem mapLine_congr
    {renumber other : Nat → Nat}
    {count : Nat}
    (ofLines : error.OfLines number count)
    (agree : ∀ line, number ≤ line → line < number + count → renumber line = other line) :
    error.mapLine renumber = error.mapLine other := by
  cases error with
  | jsonLine line fault =>
      rw [mapLine, mapLine, agree line ofLines.1 ofLines.2]
  | _ => rfl

end LoadError

/-- The number of a line is seen in its error only. -/
theorem readLine_renumber (renumber : Nat → Nat) (number : Nat) (bytes : List UInt8) :
    readLine recordOn (renumber number) bytes =
      (readLine recordOn number bytes).mapError (.mapLine renumber) := by
  unfold readLine
  split
  · rfl
  · split
    · rfl
    · next characters _ _ =>
        cases recordOn characters <;> rfl

theorem ofLines_of_readLine
    {bytes : List UInt8}
    (failed : readLine recordOn number bytes = .error error) :
    error.OfLines number 1 := by
  unfold readLine at failed
  split at failed
  · cases failed
    trivial
  · split at failed
    · cases failed
    · next characters _ _ =>
        cases read : recordOn characters with
        | ok record =>
            rw [read] at failed
            cases failed
        | error fault =>
            rw [read] at failed
            cases failed
            exact ⟨Nat.le_refl number, Nat.lt_succ_self number⟩

/-! ## Lines one after the other -/

theorem readLinesFrom_cons (number : Nat) (bytes : List UInt8) (rest : List (List UInt8)) :
    readLinesFrom recordOn number (bytes :: rest) =
      (readLine recordOn number bytes).bind fun record =>
        (readLinesFrom recordOn (number + 1) rest).map (record.toList ++ ·) := by
  rw [readLinesFrom]
  cases readLine recordOn number bytes with
  | error error => rfl
  | ok record => cases readLinesFrom recordOn (number + 1) rest <;> rfl

theorem readLinesFrom_append (number : Nat) (first second : List (List UInt8)) :
    readLinesFrom recordOn number (first ++ second) =
      (readLinesFrom recordOn number first).bind fun records =>
        (readLinesFrom recordOn (number + first.length) second).map (records ++ ·) := by
  induction first generalizing number with
  | nil =>
      change readLinesFrom recordOn number second =
        (readLinesFrom recordOn number second).map ([] ++ ·)
      cases readLinesFrom recordOn number second <;> rfl
  | cons bytes rest inductionHypothesis =>
      have numbers : number + 1 + rest.length = number + (bytes :: rest).length := by
        rw [List.length_cons]
        omega
      rw [List.cons_append, readLinesFrom_cons, readLinesFrom_cons, inductionHypothesis, numbers]
      cases readLine recordOn number bytes with
      | error error => rfl
      | ok record =>
          cases readLinesFrom recordOn (number + 1) rest with
          | error error => rfl
          | ok records =>
              cases readLinesFrom recordOn (number + (bytes :: rest).length) second with
              | error error => rfl
              | ok others =>
                  simp [Except.map, Except.bind]

/-- Lines that are numbered from further on give the same, with numbers further on. -/
theorem readLinesFrom_add (number offset : Nat) (read : List (List UInt8)) :
    readLinesFrom recordOn (number + offset) read =
      (readLinesFrom recordOn number read).mapError (.mapLine (· + offset)) := by
  induction read generalizing number with
  | nil => rfl
  | cons bytes rest inductionHypothesis =>
      rw [readLinesFrom_cons, readLinesFrom_cons, readLine_renumber (· + offset) number bytes,
        Nat.add_right_comm, inductionHypothesis]
      cases readLine recordOn number bytes with
      | error error => rfl
      | ok record => cases readLinesFrom recordOn (number + 1) rest <;> rfl

/-- Only a line that is read can be at fault. -/
theorem ofLines_of_readLinesFrom
    {read : List (List UInt8)}
    (failed : readLinesFrom recordOn number read = .error error) :
    error.OfLines number read.length := by
  induction read generalizing number with
  | nil => cases failed
  | cons bytes rest inductionHypothesis =>
      rw [readLinesFrom_cons] at failed
      rw [List.length_cons]
      cases first : readLine recordOn number bytes with
      | error own =>
          rw [first] at failed
          cases failed
          exact (ofLines_of_readLine first).widen (Nat.le_refl _) (by omega)
      | ok record =>
          cases later : readLinesFrom recordOn (number + 1) rest with
          | ok records =>
              rw [first, later] at failed
              cases failed
          | error own =>
              rw [first, later] at failed
              cases failed
              exact (inductionHypothesis later).widen (Nat.le_succ _) (by omega)

/-! ## Blank lines -/

/-- All characters of the line are blank. -/
def IsBlankLine (bytes : List UInt8) : Prop :=
  ∃ characters, Text.decode? bytes = some characters ∧
    ∀ character ∈ characters, Text.isBlank character = true

theorem readLine_of_isBlankLine {bytes : List UInt8} (blank : IsBlankLine bytes) :
    readLine recordOn number bytes = .ok none := by
  obtain ⟨characters, decoded, areBlank⟩ := blank
  have nothing : Text.trimChars characters = [] := by
    simp [Text.trimChars, List.dropWhile_eq_nil_iff.mpr areBlank]
  unfold readLine
  rw [decoded]
  simp only [nothing, if_true]

theorem readLinesFrom_of_areBlank (areBlank : ∀ bytes ∈ blanks, IsBlankLine bytes) :
    readLinesFrom recordOn number blanks = .ok [] := by
  induction blanks generalizing number with
  | nil => rfl
  | cons bytes rest inductionHypothesis =>
      obtain ⟨blank, restBlank⟩ := List.forall_mem_cons.mp areBlank
      rw [readLinesFrom_cons, readLine_of_isBlankLine blank, inductionHypothesis restBlank]
      rfl

/-- The numbers of lines once so many are put in before the line of the first number. -/
def movedFrom (start count line : Nat) : Nat :=
  if line < start then line else line + count

/-- Blank lines between others add no record, and what is wrong behind them is found so
many lines later. -/
theorem readLinesFrom_insert_blanks
    (number : Nat)
    (first second : List (List UInt8))
    (areBlank : ∀ bytes ∈ blanks, IsBlankLine bytes) :
    readLinesFrom recordOn number (first ++ blanks ++ second) =
      (readLinesFrom recordOn number (first ++ second)).mapError
        (.mapLine (movedFrom (number + first.length) blanks.length)) := by
  rw [List.append_assoc, readLinesFrom_append, readLinesFrom_append number first second,
    readLinesFrom_append _ blanks, readLinesFrom_of_areBlank areBlank, readLinesFrom_add]
  cases front : readLinesFrom recordOn number first with
  | error error =>
      have kept : error.mapLine id =
          error.mapLine (movedFrom (number + first.length) blanks.length) := by
        apply LoadError.mapLine_congr (ofLines_of_readLinesFrom front)
        intro line _ below
        rw [movedFrom, if_pos below]
        rfl
      rw [LoadError.mapLine_id] at kept
      exact congrArg Except.error kept
  | ok records =>
      cases behind : readLinesFrom recordOn (number + first.length) second with
      | ok others => rfl
      | error error =>
          have moved : error.mapLine (· + blanks.length) =
              error.mapLine (movedFrom (number + first.length) blanks.length) := by
            apply LoadError.mapLine_congr (ofLines_of_readLinesFrom behind)
            intro line above _
            rw [movedFrom, if_neg (Nat.not_lt_of_le above)]
          exact congrArg Except.error moved

/-! ## Files in parts -/

/-- Whole lines are read first, and what follows them as a file of its own, but with its
lines numbered behind them. -/
theorem readLines_append_eq
    {front : List UInt8}
    (recordOn : LineReader)
    (ends : Text.EndsLine front)
    (behind : List UInt8) :
    readLines recordOn (front ++ behind) =
      (readLines recordOn front).bind fun records =>
        ((readLines recordOn behind).mapError (.mapLine (· + front.count Text.newline))).map
          (records ++ ·) := by
  unfold readLines
  rw [Text.lines_append ends, readLinesFrom_append, Text.length_lines ends, readLinesFrom_add]

theorem error_of_readLines {bytes : List UInt8} (failed : readLines recordOn bytes = .error error) :
    error = .unreadable ∨ ∃ line fault, error = .jsonLine line fault := by
  have ofLines := ofLines_of_readLinesFrom failed
  cases error with
  | unreadable => exact Or.inl rfl
  | jsonLine line fault => exact Or.inr ⟨line, fault, rfl⟩
  | json fault => exact ofLines.elim
  | turtle => exact ofLines.elim
  | unknownFormat name => exact ofLines.elim

theorem readLines_insert_blanks
    {front blanks : List UInt8}
    (ends : Text.EndsLine front)
    (blanksEnd : Text.EndsLine blanks)
    (areBlank : ∀ bytes ∈ Text.lines blanks, IsBlankLine bytes)
    (behind : List UInt8) :
    readLines recordOn (front ++ blanks ++ behind) =
      (readLines recordOn (front ++ behind)).mapError
        (.mapLine (movedFrom (1 + front.count Text.newline) (blanks.count Text.newline))) := by
  unfold readLines
  rw [Text.lines_append (ends.append blanksEnd), Text.lines_append ends, Text.lines_append ends,
    readLinesFrom_insert_blanks 1 _ _ areBlank, Text.length_lines ends,
    Text.length_lines blanksEnd]

/-- Whatever reads the single lines, a file whose front is whole lines gives the error of the
front, if it has one, and else its records and then those of the rest, or the error of the rest
with the lines of the front counted in. Blank lines put in at the cut change no record, and move
the numbers of the lines behind them only. -/
theorem readLines_append
    (recordOn : LineReader)
    (front behind : List UInt8)
    (ends : Text.EndsLine front) :
    (∀ error, readLines recordOn front = .error error →
        readLines recordOn (front ++ behind) = .error error) ∧
      (∀ records, readLines recordOn front = .ok records →
        (∀ others, readLines recordOn behind = .ok others →
            readLines recordOn (front ++ behind) = .ok (records ++ others)) ∧
          (∀ line fault, readLines recordOn behind = .error (.jsonLine line fault) →
            readLines recordOn (front ++ behind) =
              .error (.jsonLine (line + front.count Text.newline) fault)) ∧
          (readLines recordOn behind = .error .unreadable →
            readLines recordOn (front ++ behind) = .error .unreadable)) ∧
      (∀ error, readLines recordOn behind = .error error →
        error = .unreadable ∨ ∃ line fault, error = .jsonLine line fault) ∧
      ∀ blanks, Text.EndsLine blanks → (∀ bytes ∈ Text.lines blanks, IsBlankLine bytes) →
        readLines recordOn (front ++ blanks ++ behind) =
          (readLines recordOn (front ++ behind)).mapError
            (.mapLine (movedFrom (1 + front.count Text.newline)
              (blanks.count Text.newline))) := by
  refine ⟨?_, ?_, fun _ => error_of_readLines, ?_⟩
  · intro error failed
    rw [readLines_append_eq recordOn ends, failed]
    rfl
  · intro records succeeded
    have whole := readLines_append_eq recordOn ends behind
    rw [succeeded] at whole
    refine ⟨?_, ?_, ?_⟩
    · intro others read
      rw [whole, read]
      rfl
    · intro line fault failed
      rw [whole, failed]
      rfl
    · intro failed
      rw [whole, failed]
      rfl
  · intro blanks blanksEnd areBlank
    exact readLines_insert_blanks ends blanksEnd areBlank behind

/-- A record, a blank line, and a third line that is no JSON. -/
theorem readLines_append_third_line :
    Text.EndsLine "[\"a\",\"p\",\"b\"]\r\n \n".toUTF8.toList ∧
      readJsonLines "[\"a\",\"p\",\"b\"]\r\n \n".toUTF8.toList =
        .ok [{ subject := "a", predicate := "p", object := "b" }] ∧
      readJsonLines "x".toUTF8.toList = .error (.jsonLine 1 .malformed) ∧
      readJsonLines ("[\"a\",\"p\",\"b\"]\r\n \n".toUTF8.toList ++ "x".toUTF8.toList) =
        .error (.jsonLine 3 .malformed) := by
  have ends : Text.EndsLine "[\"a\",\"p\",\"b\"]\r\n \n".toUTF8.toList := by
    decide +kernel
  have front : readJsonLines "[\"a\",\"p\",\"b\"]\r\n \n".toUTF8.toList =
      .ok [{ subject := "a", predicate := "p", object := "b" }] := by
    decide +kernel
  have behind : readJsonLines "x".toUTF8.toList = .error (.jsonLine 1 .malformed) := by
    decide +kernel
  have newlines : "[\"a\",\"p\",\"b\"]\r\n \n".toUTF8.toList.count Text.newline = 2 := by
    decide +kernel
  have together :=
    ((readLines_append jsonRecord _ "x".toUTF8.toList ends).2.1 _ front).2.1 _ _ behind
  rw [newlines] at together
  exact ⟨ends, front, behind, together⟩

end TripleStore.Load
