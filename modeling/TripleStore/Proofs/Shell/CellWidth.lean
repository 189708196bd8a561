import Mathlib.Tactic.IntervalCases
import Mathlib.Tactic.NormNum
import TripleStore.Proofs.Query.FirstFault
import TripleStore.Proofs.Query.Tokens
import TripleStore.Query.Answer
import TripleStore.Shell.Settings
import TripleStore.Table

/-!
Contract: the cell widths that settings admit, and the machine words that measure a table.

Owns:
- that settings admit the widths from three up to the greatest word, and no others;
- `Table.ruleLength`, the number of dashes below a header as words compute it, and
  `Table.RuleFits`, by which no step of that leaves the words;
- for which of the admitted widths the rules of all answers fit.

Does not own: what a table looks like (`TripleStore.Proofs.Table`).

Settings bound a width from below, and only its text bounds it from above, by the words. The
rule of an answer has up to three times as many dashes, so that not every admitted width fits.
-/

namespace TripleStore

/-! ## The rule in words -/

namespace Table

/-- The number of dashes below a header, as words of 64 bits compute it. -/
def ruleLength (width cellCount : UInt64) : UInt64 :=
  (width + 2) * cellCount

/-- Neither the sum nor the product leaves the words. -/
structure RuleFits (width cellCount : Nat) : Prop where
  sum_lt : width + 2 < UInt64.size
  product_lt : (width + 2) * cellCount < UInt64.size

/-- The greatest width that fits for a header of so many cells. -/
def widestFitting (cellCount : Nat) : Nat :=
  (UInt64.size - 1) / max 1 cellCount - 2

variable {width cellCount : Nat}

theorem length_rule (width cellCount : Nat) :
    (rule width cellCount).length = (width + 2) * cellCount + 1 := by
  simp [rule]

/-- Words wrap around at their size. -/
theorem toNat_ruleLength (width cellCount : Nat) :
    (ruleLength (.ofNat width) (.ofNat cellCount)).toNat =
      (width + 2) * cellCount % UInt64.size := by
  have two : (2 : UInt64).toNat = 2 := rfl
  have size : UInt64.size = 2 ^ 64 := rfl
  rw [ruleLength, UInt64.toNat_mul, UInt64.toNat_add, UInt64.toNat_ofNat', UInt64.toNat_ofNat', two,
    size, Nat.mod_add_mod, ← Nat.mul_mod]

theorem RuleFits.length_rule (fits : RuleFits width cellCount) :
    (rule width cellCount).length =
      (ruleLength (.ofNat width) (.ofNat cellCount)).toNat + 1 := by
  rw [Table.length_rule, toNat_ruleLength, Nat.mod_eq_of_lt fits.product_lt]

theorem ruleFits_iff_le_widestFitting (few : cellCount ≤ 3) :
    RuleFits width cellCount ↔ width ≤ widestFitting cellCount := by
  have size : UInt64.size = 18446744073709551616 := rfl
  have inWords : RuleFits width cellCount ↔
      width + 2 < UInt64.size ∧ (width + 2) * cellCount < UInt64.size :=
    ⟨fun fits => ⟨fits.sum_lt, fits.product_lt⟩, fun fits => ⟨fits.1, fits.2⟩⟩
  rw [inWords, widestFitting, size]
  interval_cases cellCount <;> norm_num <;> omega

/-- A width that fits for three columns fits for fewer. -/
theorem widestFitting_three_le (few : cellCount ≤ 3) :
    widestFitting 3 ≤ widestFitting cellCount := by
  unfold widestFitting
  have atMost : max 1 cellCount ≤ 3 := by omega
  exact Nat.sub_le_sub_right (Nat.div_le_div_left atMost (by omega)) 2

end Table

/-! ## The columns of answers -/

namespace Query

variable {store : Store} {text : String} {query : SelectQuery} {answer : Answer}

/-- An answer is projected from a query without a fault. -/
theorem exists_valid_of_answer (answered : Query.answer store text = .ok answer) :
    ∃ query : SelectQuery, query.Valid ∧ answer.columns = query.projected.map Variable.text := by
  unfold Query.answer execute at answered
  cases read : parse text with
  | error error => simp [read] at answered
  | ok query =>
      cases fault : query.invalidity? with
      | some fault => simp [read, fault, Except.mapError] at answered
      | none =>
          simp only [read, fault, Except.mapError, Except.ok.injEq] at answered
          exact ⟨query, query.invalidity?_eq_none_iff.mp fault, by rw [← answered, project]⟩

theorem length_columns_le (answered : Query.answer store text = .ok answer) :
    answer.columns.length ≤ 3 := by
  obtain ⟨query, valid, columns⟩ := exists_valid_of_answer answered
  rw [columns, List.length_map]
  exact valid.length_projected_le

/-- The query for all triples, with a column for each role. -/
def everyTriple : SelectQuery where
  projection := .all
  pattern :=
    { subject := .placeholder ⟨"s"⟩, predicate := .placeholder ⟨"p"⟩, object := .placeholder ⟨"o"⟩ }
  modifiers := []

theorem exists_answer_of_three_columns (store : Store) :
    ∃ text answer, Query.answer store text = .ok answer ∧ answer.columns.length = 3 := by
  have read : parse "SELECT * WHERE \x7b ?s ?p ?o \x7d" = .ok everyTriple := by
    decide +kernel
  have answered : Query.answer store "SELECT * WHERE \x7b ?s ?p ?o \x7d" =
      .ok (project store everyTriple ((Plan.build store everyTriple.pattern).run store)) := by
    rw [Query.answer, read]
    rfl
  exact ⟨_, _, answered, rfl⟩

end Query

/-! ## The widths of settings -/

namespace Shell

open TripleStore.Query (bind_eq_ok_iff)
open TripleStore.Text (decimalValue)

variable {argument : Option String} {lookup : Setting → Option String} {settings : Settings}
  {text : String} {width : Nat}

theorem decimalValue_toDigits (number : Nat) : decimalValue (Nat.toDigits 10 number) = number :=
  calc decimalValue (Nat.toDigits 10 number)
      = Nat.ofDigitChars 10 (Nat.toDigits 10 number) 0 := by
        simp only [decimalValue, Nat.ofDigitChars, Nat.mul_comm]
    _ = number := Nat.ofDigitChars_ten_toDigits

/-- The characters without the plus sign that they may start with. -/
def withoutPlus : List Char → List Char
  | '+' :: rest => rest
  | characters => characters

theorem withoutPlus_eq_self
    {characters : List Char}
    (areDigits : characters.all Char.isDigit = true) :
    withoutPlus characters = characters := by
  unfold withoutPlus
  split
  · cases areDigits
  · rfl

/-- A text writes the value of its digits, if there are some and nothing else is, and if the
value is below the bound. -/
theorem width?_eq_some_iff :
    width? text = some width ↔
      withoutPlus text.toList ≠ [] ∧ (withoutPlus text.toList).all Char.isDigit = true ∧
        decimalValue (withoutPlus text.toList) = width ∧ width < widthBound := by
  have written : width? text =
      if withoutPlus text.toList ≠ [] ∧ (withoutPlus text.toList).all Char.isDigit ∧
          decimalValue (withoutPlus text.toList) < widthBound then
        some (decimalValue (withoutPlus text.toList))
      else
        none := rfl
  rw [written, Option.ite_none_right_eq_some, Option.some.injEq]
  constructor
  · rintro ⟨⟨someDigit, areDigits, small⟩, rfl⟩
    exact ⟨someDigit, areDigits, rfl, small⟩
  · rintro ⟨someDigit, areDigits, rfl, small⟩
    exact ⟨⟨someDigit, areDigits, small⟩, rfl⟩

/-- Every number below the bound is written by its own digits. -/
theorem width?_repr (small : width < widthBound) : width? width.repr = some width := by
  have areDigits : (Nat.toDigits 10 width).all Char.isDigit = true := by
    rw [List.all_eq_true]
    intro digit member
    exact Nat.isDigit_of_mem_toDigits (by decide) (by decide) member
  rw [width?_eq_some_iff, Nat.toList_repr, withoutPlus_eq_self areDigits]
  exact ⟨Nat.toDigits_ne_nil, areDigits, decimalValue_toDigits width, small⟩

theorem bounds_of_cellWidthFrom (found : Settings.cellWidthFrom lookup = .ok width) :
    minimumCellWidth ≤ width ∧ width < widthBound := by
  unfold Settings.cellWidthFrom at found
  split at found
  · cases found
    decide
  · split at found
    · next written =>
        split at found
        · next wide =>
            cases found
            exact ⟨wide, (width?_eq_some_iff.mp written).2.2.2⟩
        · cases found
    · cases found

theorem cellWidthFrom_of_load (loaded : Settings.load argument lookup = .ok settings) :
    Settings.cellWidthFrom lookup = .ok settings.cellWidth := by
  unfold Settings.load at loaded
  obtain ⟨dataFile, _, loaded⟩ := bind_eq_ok_iff.mp loaded
  obtain ⟨dataFormat, _, loaded⟩ := bind_eq_ok_iff.mp loaded
  obtain ⟨cellWidth, found, done⟩ := bind_eq_ok_iff.mp loaded
  cases done
  exact found

/-- Only the cell width is set. -/
def onlyCellWidth (value : String) : Setting → Option String
  | .cellWidth => some value
  | _ => none

theorem load_onlyCellWidth
    (width : Nat)
    (wide : 3 ≤ width)
    (small : width < UInt64.size) :
    Settings.load (some "data") (onlyCellWidth width.repr) =
      .ok { dataFile := "data", dataFormat := none, cellWidth := width } := by
  have found : Settings.cellWidthFrom (onlyCellWidth width.repr) = .ok width := by
    unfold Settings.cellWidthFrom onlyCellWidth
    simp only [width?_repr small]
    exact if_pos wide
  unfold Settings.load
  rw [found]
  rfl

/-- Settings admit the widths from three up to the greatest word, and no others. -/
theorem exists_load_iff (width : Nat) :
    (∃ argument lookup settings, Settings.load argument lookup = .ok settings ∧
        settings.cellWidth = width) ↔
      3 ≤ width ∧ width < UInt64.size := by
  constructor
  · rintro ⟨argument, lookup, settings, loaded, rfl⟩
    exact bounds_of_cellWidthFrom (cellWidthFrom_of_load loaded)
  · rintro ⟨wide, small⟩
    exact ⟨_, _, _, load_onlyCellWidth width wide small, rfl⟩

/-! ## Which widths fit -/

/-- Admitted widths are at least three. For an answer the rule fits exactly up to a width that
depends on the number of its columns, and the dashes of the table are then counted by words. The
rules of all answers fit exactly up to the third of the greatest word, less two. -/
theorem rules_fit_iff_cellWidth_le
    (loaded : Settings.load argument lookup = .ok settings)
    (store : Store) :
    3 ≤ settings.cellWidth ∧
      (∀ text answer, Query.answer store text = .ok answer →
        answer.columns.length ≤ 3 ∧
          (Table.RuleFits settings.cellWidth answer.columns.length ↔
            settings.cellWidth ≤ Table.widestFitting answer.columns.length) ∧
          (Table.RuleFits settings.cellWidth answer.columns.length →
            (Table.rule settings.cellWidth answer.columns.length).length =
              (Table.ruleLength (.ofNat settings.cellWidth)
                (.ofNat answer.columns.length)).toNat + 1)) ∧
      ((∀ text answer, Query.answer store text = .ok answer →
          Table.RuleFits settings.cellWidth answer.columns.length) ↔
        settings.cellWidth ≤ 6148914691236517203) := by
  have wide := (bounds_of_cellWidthFrom (cellWidthFrom_of_load loaded)).1
  refine ⟨wide, ?_, ?_⟩
  · intro text answer answered
    have few := Query.length_columns_le answered
    exact ⟨few, Table.ruleFits_iff_le_widestFitting few, Table.RuleFits.length_rule⟩
  · constructor
    · intro allFit
      obtain ⟨text, answer, answered, three⟩ := Query.exists_answer_of_three_columns store
      have fits := allFit text answer answered
      rw [three] at fits
      exact (Table.ruleFits_iff_le_widestFitting (by decide)).mp fits
    · intro small text answer answered
      have few := Query.length_columns_le answered
      exact (Table.ruleFits_iff_le_widestFitting few).mpr
        (Nat.le_trans small (Table.widestFitting_three_le few))

theorem rules_fit_at_greatest_fitting_width :
    Settings.load (some "data") (onlyCellWidth "6148914691236517203") =
        .ok { dataFile := "data", dataFormat := none, cellWidth := 6148914691236517203 } ∧
      ∀ text answer, Query.answer Store.empty text = .ok answer →
        Table.RuleFits 6148914691236517203 answer.columns.length := by
  have digits : Nat.repr 6148914691236517203 = "6148914691236517203" := by decide
  have loaded := load_onlyCellWidth 6148914691236517203 (by decide) (by decide)
  rw [digits] at loaded
  obtain ⟨_, _, allFit⟩ := rules_fit_iff_cellWidth_le loaded Store.empty
  exact ⟨loaded, allFit.mpr (Nat.le_refl _)⟩

/-- With the greatest width already the rule of a single column leaves the words, which count
one dash for it. -/
theorem rule_leaves_words_at_greatest_width :
    Settings.load (some "data") (onlyCellWidth "18446744073709551615") =
        .ok { dataFile := "data", dataFormat := none, cellWidth := 18446744073709551615 } ∧
      Query.answer Store.empty "SELECT ?s WHERE \x7b ?s 'p' 'o' \x7d" =
        .ok { columns := ["?s"], rows := [] } ∧
      ¬ Table.RuleFits 18446744073709551615 ["?s"].length ∧
      (18446744073709551615 + 2) * ["?s"].length = 2 ^ 64 + 1 ∧
      Table.ruleLength 18446744073709551615 1 = 1 := by
  have digits : Nat.repr 18446744073709551615 = "18446744073709551615" := by decide
  have loaded := load_onlyCellWidth 18446744073709551615 (by decide) (by decide)
  rw [digits] at loaded
  have tooLong : ¬ Table.RuleFits 18446744073709551615 ["?s"].length := by
    intro fits
    exact absurd fits.product_lt (by decide)
  exact ⟨loaded, by decide +kernel, tooLong, by decide, by decide⟩

end Shell

end TripleStore
