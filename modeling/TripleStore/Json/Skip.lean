import TripleStore.Json.Scan

/-!
Contract: taking off a JSON value that nobody asked for.

Owns: values of any depth, checked for their form only.

Does not own: values whose content matters (`TripleStore.Json.Reader`).

The brackets that enclose the place that is read stand in a list, innermost first, so
that depth costs no more than length.
-/

namespace TripleStore.Json

open TripleStore.Text (Scalars leadingDigits)

inductive Bracket where
  | list
  | object
deriving DecidableEq, Repr

def skipKey (input : Scalars) : Except Fault Scalars :=
  match skipBlanks input with
  | [] => .error .truncated
  | .char '"' :: rest => do
      match skipBlanks (← skipString rest) with
      | [] => .error .truncated
      | .char ':' :: remaining => return remaining
      | _ => .error .malformed
  | _ => .error .malformed

/-- What follows a value that holds no other values. A number that the text ends
inside of is malformed here. -/
def skipAtom : Scalars → Except Fault Scalars
  | [] => .error .truncated
  | .char 'n' :: rest => skipWord ['u', 'l', 'l'] rest
  | .char 't' :: rest => skipWord ['r', 'u', 'e'] rest
  | .char 'f' :: rest => skipWord ['a', 'l', 's', 'e'] rest
  | .char '"' :: rest => skipString rest
  | input => (number .malformed input).map Prod.snd

/-! ## Reading never lengthens what remains -/

theorem length_skipString_lt {input remaining : Scalars}
    (read : skipString input = .ok remaining) :
    remaining.length < input.length := by
  fun_induction skipString input with
  | case1 => simp at read
  | case2 rest =>
    cases read
    simp
  | case3 rest inductionHypothesis =>
    cases escaped : skipEscape rest with
    | error fault => simp [escaped, bind, Except.bind] at read
    | ok places =>
      simp only [escaped, bind, Except.bind] at read
      have shorter := inductionHypothesis places read
      simp only [List.length_drop, List.length_cons] at shorter ⊢
      omega
  | case4 => simp at read
  | case5 scalar rest _ _ _ inductionHypothesis =>
    have shorter := inductionHypothesis read
    simp only [List.length_cons]
    omega

theorem length_skipWord_le {word : List Char} {input remaining : Scalars}
    (read : skipWord word input = .ok remaining) :
    remaining.length ≤ input.length := by
  fun_induction skipWord word input with
  | case1 input =>
    cases read
    exact Nat.le_refl _
  | case2 => simp at read
  | case3 expected others rest inductionHypothesis =>
    have shorter := inductionHypothesis read
    simp only [List.length_cons]
    omega
  | case4 => simp at read

theorem length_someDigits_lt {atEnd : Fault} {input remaining : Scalars}
    {found : List Char} (read : someDigits atEnd input = .ok (found, remaining)) :
    remaining.length < input.length := by
  cases input with
  | nil => simp [someDigits, leadingDigits] at read
  | cons first rest =>
    cases leading : leadingDigits (first :: rest) with
    | nil => simp [someDigits, leading] at read
    | cons digit others =>
      simp only [someDigits, leading, Except.ok.injEq, Prod.mk.injEq] at read
      rw [← read.2]
      simp only [List.length_drop, List.length_cons]
      omega

theorem length_fractionDigits_le {atEnd : Fault} {input remaining : Scalars}
    {found : List Char} (read : fractionDigits atEnd input = .ok (found, remaining)) :
    remaining.length ≤ input.length := by
  unfold fractionDigits at read
  split at read
  · have shorter := length_someDigits_lt read
    simp only [List.length_cons]
    omega
  · cases read
    exact Nat.le_refl _

theorem length_takeSign_le (input : Scalars) : (takeSign input).2.length ≤ input.length := by
  unfold takeSign
  split <;> simp

theorem length_powerDigits_le {atEnd : Fault} {input remaining : Scalars}
    {found : Bool × List Char} (read : powerDigits atEnd input = .ok (found, remaining)) :
    remaining.length ≤ input.length := by
  unfold powerDigits at read
  split at read
  · cases read
    exact Nat.le_refl _
  · next letter rest =>
    split at read
    · cases scanned : someDigits atEnd (takeSign rest).2 with
      | error fault => simp [scanned, bind, Except.bind] at read
      | ok result =>
        obtain ⟨digits, afterDigits⟩ := result
        have shorter := length_someDigits_lt scanned
        have signed := length_takeSign_le rest
        simp only [scanned, bind, Except.bind, pure, Except.pure, Except.ok.injEq,
          Prod.mk.injEq] at read
        rw [← read.2]
        simp only [List.length_cons]
        omega
    · cases read
      exact Nat.le_refl _

theorem length_numeral_lt {atEnd : Fault} {input remaining : Scalars} {found : Numeral}
    (read : numeral atEnd input = .ok (found, remaining)) :
    remaining.length < input.length := by
  unfold numeral at read
  cases scannedWhole : someDigits atEnd input with
  | error fault => simp [scannedWhole, bind, Except.bind] at read
  | ok wholeResult =>
    obtain ⟨whole, afterWhole⟩ := wholeResult
    have first := length_someDigits_lt scannedWhole
    simp only [scannedWhole, bind, Except.bind] at read
    split at read
    · simp at read
    · cases scannedFraction : fractionDigits atEnd afterWhole with
      | error fault => simp [scannedFraction] at read
      | ok fractionResult =>
        obtain ⟨fraction, afterFraction⟩ := fractionResult
        have second := length_fractionDigits_le scannedFraction
        simp only [scannedFraction] at read
        cases scannedPower : powerDigits atEnd afterFraction with
        | error fault => simp [scannedPower] at read
        | ok powerResult =>
          obtain ⟨power, afterPower⟩ := powerResult
          have third := length_powerDigits_le scannedPower
          simp only [scannedPower, pure, Except.pure, Except.ok.injEq, Prod.mk.injEq] at read
          rw [← read.2]
          omega

theorem length_number_lt {atEnd : Fault} {input remaining : Scalars} {found : Numeral}
    (read : number atEnd input = .ok (found, remaining)) :
    remaining.length < input.length := by
  unfold number at read
  split at read
  · have shorter := length_numeral_lt read
    simp only [List.length_cons]
    omega
  · exact length_numeral_lt read

theorem length_skipAtom_lt {input remaining : Scalars}
    (read : skipAtom input = .ok remaining) :
    remaining.length < input.length := by
  unfold skipAtom at read
  split at read
  · simp at read
  · exact Nat.lt_succ_of_le (length_skipWord_le read)
  · exact Nat.lt_succ_of_le (length_skipWord_le read)
  · exact Nat.lt_succ_of_le (length_skipWord_le read)
  · exact Nat.lt_succ_of_lt (length_skipString_lt read)
  · cases scanned : number .malformed input with
    | error fault => simp [scanned, Except.map] at read
    | ok result =>
      obtain ⟨numeral, afterNumber⟩ := result
      have shorter := length_number_lt scanned
      simp only [scanned, Except.map, Except.ok.injEq] at read
      rw [← read]
      exact shorter

theorem length_skipKey_lt {input remaining : Scalars}
    (read : skipKey input = .ok remaining) :
    remaining.length < input.length := by
  have skipped := length_skipBlanks_le input
  unfold skipKey at read
  split at read
  · simp at read
  · next rest starts =>
    rw [starts] at skipped
    simp only [List.length_cons] at skipped
    cases scanned : skipString rest with
    | error fault => simp [scanned, bind, Except.bind] at read
    | ok afterKey =>
      have key := length_skipString_lt scanned
      have blanks := length_skipBlanks_le afterKey
      simp only [scanned, bind, Except.bind] at read
      split at read
      · simp at read
      · next colon =>
        rw [colon] at blanks
        simp only [pure, Except.pure, Except.ok.injEq] at read
        subst read
        simp only [List.length_cons] at blanks
        omega
      · simp at read
  · simp at read

/-! ## Values -/

mutual

/-- What follows a value and all that is left open around it. -/
def skipValue (enclosing : List Bracket) (input : Scalars) : Except Fault Scalars :=
  match _start : skipBlanks input with
  | .char '[' :: rest =>
      match _next : skipBlanks rest with
      | .char ']' :: remaining => skipRest enclosing remaining
      | _ => skipValue (.list :: enclosing) rest
  | .char '{' :: rest =>
      match _next : skipBlanks rest with
      | .char '}' :: remaining => skipRest enclosing remaining
      | _ =>
          match _key : skipKey rest with
          | .ok value => skipValue (.object :: enclosing) value
          | .error fault => .error fault
  | atom =>
      match _read : skipAtom atom with
      | .ok remaining => skipRest enclosing remaining
      | .error fault => .error fault
termination_by input.length
decreasing_by
  all_goals have atStart := length_skipBlanks_le input
  all_goals simp only [*, List.length_cons] at atStart
  · have atNext := length_skipBlanks_le rest
    simp only [*, List.length_cons] at atNext
    omega
  · omega
  · have atNext := length_skipBlanks_le rest
    simp only [*, List.length_cons] at atNext
    omega
  · have key := length_skipKey_lt _key
    omega
  · have shorter := length_skipAtom_lt _read
    omega

/-- What follows the values and brackets that are left open after a value. -/
def skipRest (enclosing : List Bracket) (input : Scalars) : Except Fault Scalars :=
  match enclosing with
  | [] => .ok input
  | bracket :: outer =>
      match bracket, _next : skipBlanks input with
      | _, [] => .error .truncated
      | .list, .char ',' :: rest => skipValue (bracket :: outer) rest
      | .list, .char ']' :: rest => skipRest outer rest
      | .object, .char ',' :: rest =>
          match _key : skipKey rest with
          | .ok value => skipValue (bracket :: outer) value
          | .error fault => .error fault
      | .object, .char '}' :: rest => skipRest outer rest
      | _, _ => .error .malformed
termination_by input.length
decreasing_by
  all_goals have atNext := length_skipBlanks_le input
  all_goals simp only [*, List.length_cons] at atNext
  · omega
  · omega
  · have key := length_skipKey_lt _key
    omega
  · omega

end

/-- Taking off a value takes at least one place, and taking off what is left open
around it takes none that it does not read. -/
theorem length_skip (input : Scalars) :
    (∀ enclosing remaining, skipValue enclosing input = .ok remaining →
      remaining.length < input.length) ∧
    (∀ enclosing remaining, skipRest enclosing input = .ok remaining →
      remaining.length ≤ input.length) := by
  induction bound : input.length using Nat.strongRecOn generalizing input with
  | ind length inductionHypothesis =>
    subst bound
    have atStart := length_skipBlanks_le input
    constructor
    · intro enclosing remaining read
      rw [skipValue.eq_def] at read
      split at read
      · next rest start =>
        have atNext := length_skipBlanks_le rest
        simp only [start, List.length_cons] at atStart
        split at read
        · next inside next =>
          simp only [next, List.length_cons] at atNext
          have rest := (inductionHypothesis inside.length (by omega) inside rfl).2 _ _ read
          omega
        · have value := (inductionHypothesis rest.length (by omega) rest rfl).1 _ _ read
          omega
      · next rest start =>
        have atNext := length_skipBlanks_le rest
        simp only [start, List.length_cons] at atStart
        split at read
        · next inside next =>
          simp only [next, List.length_cons] at atNext
          have rest := (inductionHypothesis inside.length (by omega) inside rfl).2 _ _ read
          omega
        · split at read
          · next value key =>
            have shorter := length_skipKey_lt key
            have value := (inductionHypothesis value.length (by omega) value rfl).1 _ _ read
            omega
          · simp at read
      · split at read
        · next afterAtom scanned =>
          have shorter := length_skipAtom_lt scanned
          have rest := (inductionHypothesis afterAtom.length (by omega) afterAtom rfl).2 _ _ read
          omega
        · simp at read
    · intro enclosing remaining read
      rw [skipRest.eq_def] at read
      split at read
      · cases read
        exact Nat.le_refl _
      · split at read
        · simp at read
        · next rest start =>
          simp only [start, List.length_cons] at atStart
          have value := (inductionHypothesis rest.length (by omega) rest rfl).1 _ _ read
          omega
        · next rest start =>
          simp only [start, List.length_cons] at atStart
          have outer := (inductionHypothesis rest.length (by omega) rest rfl).2 _ _ read
          omega
        · next rest start =>
          simp only [start, List.length_cons] at atStart
          split at read
          · next value key =>
            have shorter := length_skipKey_lt key
            have value := (inductionHypothesis value.length (by omega) value rfl).1 _ _ read
            omega
          · simp at read
        · next rest start =>
          simp only [start, List.length_cons] at atStart
          have outer := (inductionHypothesis rest.length (by omega) rest rfl).2 _ _ read
          omega
        · simp at read

theorem length_skipValue_lt {enclosing : List Bracket} {input remaining : Scalars}
    (read : skipValue enclosing input = .ok remaining) :
    remaining.length < input.length :=
  (length_skip input).1 enclosing remaining read

end TripleStore.Json
