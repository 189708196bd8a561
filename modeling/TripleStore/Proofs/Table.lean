import Mathlib.Data.List.Forall2
import TripleStore.Table

/-!
Contract: what the table of a grid looks like, and which grids have the same one.

Owns:
- `IsTable`, by which a text is made of lines of cells of one width;
- `LooksAlike`, by which two texts fill a cell in the same way;
- that the table of a grid is such a text, and that grids of one shape have the same
  table just if their cells look alike place by place.

Does not own: widths that leave no room for the mark of a cut.
-/

namespace TripleStore.Table

/-! ## Cells -/

variable {width : Nat}

/-- The text with blanks behind it, up to the width. -/
def padded (width : Nat) (text : List Char) : List Char :=
  text ++ List.replicate (width - text.length) ' '

/-- The first part of a text that is cut to the width. -/
def kept (width : Nat) (text : List Char) : List Char :=
  text.take (width - 2)

theorem fit_of_lt {text : List Char} (short : text.length < width) :
    fit width text = padded width text :=
  if_pos short

theorem fit_of_le {text : List Char} (long : width ≤ text.length) :
    fit width text = kept width text ++ cutMark :=
  if_neg (Nat.not_lt.mpr long)

theorem length_kept {text : List Char} (long : width ≤ text.length) :
    (kept width text).length = width - 2 := by
  rw [kept, List.length_take]
  omega

theorem length_fit (wide : 2 ≤ width) (text : List Char) : (fit width text).length = width := by
  by_cases short : text.length < width
  · rw [fit_of_lt short, padded, List.length_append, List.length_replicate]
    omega
  · have long : width ≤ text.length := Nat.le_of_not_lt short
    rw [fit_of_le long, List.length_append, length_kept long]
    change width - 2 + 2 = width
    omega

/-- A text that fits ends with a blank, and one that was cut with the mark of the cut. -/
theorem fit_ne_of_lt_of_le
    {short long : List Char}
    (isShort : short.length < width)
    (isLong : width ≤ long.length) :
    fit width short ≠ fit width long := by
  intro same
  rw [fit_of_lt isShort, fit_of_le isLong] at same
  have lastOfShort : (padded width short).getLast? = some ' ' := by
    have blanks : width - short.length = (width - short.length - 1) + 1 := by omega
    rw [padded, blanks, List.replicate_succ', ← List.append_assoc, List.getLast?_concat]
  have lastOfLong : (kept width long ++ cutMark).getLast? = some '.' := by
    rw [cutMark, List.getLast?_append]
    rfl
  rw [same, lastOfLong] at lastOfShort
  exact absurd lastOfShort (by decide)

/-- Both texts fit and are the same with their blanks, or both are cut and the same up to
the cut. -/
def LooksAlike (width : Nat) (left right : String) : Prop :=
  (left.length < width ∧ right.length < width ∧
      padded width left.toList = padded width right.toList) ∨
    (width ≤ left.length ∧ width ≤ right.length ∧
      kept width left.toList = kept width right.toList)

theorem fit_eq_iff {left right : String} :
    fit width left.toList = fit width right.toList ↔ LooksAlike width left right := by
  unfold LooksAlike
  rw [← String.length_toList, ← String.length_toList]
  by_cases leftShort : left.toList.length < width
  · by_cases rightShort : right.toList.length < width
    · rw [fit_of_lt leftShort, fit_of_lt rightShort]
      simp [leftShort, rightShort, Nat.not_le.mpr leftShort]
    · have different := fit_ne_of_lt_of_le leftShort (Nat.le_of_not_lt rightShort)
      simp [leftShort, rightShort, Nat.not_le.mpr leftShort, different]
  · have leftLong : width ≤ left.toList.length := Nat.le_of_not_lt leftShort
    by_cases rightShort : right.toList.length < width
    · have different := (fit_ne_of_lt_of_le rightShort leftLong).symm
      simp [leftShort, Nat.not_le.mpr rightShort, different]
    · have rightLong : width ≤ right.toList.length := Nat.le_of_not_lt rightShort
      rw [fit_of_le leftLong, fit_of_le rightLong, List.append_cancel_right_eq]
      simp [leftLong, rightLong, leftShort]

/-! ## Lines -/

/-- The line shows the cells in their order, each with just as many characters as the
width and with the separator behind it. -/
structure IsLine (width : Nat) (cells : List String) (line : List Char) : Prop where
  exists_drawn : ∃ drawn : List (List Char),
    List.Forall₂ (fun cell text => text = fit width cell.toList ∧ text.length = width)
        cells drawn ∧
      line = (drawn.flatMap fun text => text ++ [' ', '|', ' ']) ++ ['\n']
  length_eq : line.length = cells.length * (width + 3) + 1

theorem row_cons (cell : String) (cells : List String) :
    row width (cell :: cells) = fit width cell.toList ++ (separator ++ row width cells) := by
  simp [row]

theorem length_row (wide : 2 ≤ width) (cells : List String) :
    (row width cells).length = cells.length * (width + 3) + 1 := by
  induction cells with
  | nil => simp [row]
  | cons cell cells inductionHypothesis =>
      have ofSeparator : separator.length = 3 := rfl
      rw [row_cons, List.length_append, List.length_append, length_fit wide,
        inductionHypothesis, ofSeparator, List.length_cons, Nat.succ_mul]
      omega

theorem isLine_row (wide : 2 ≤ width) (cells : List String) :
    IsLine width cells (row width cells) where
  exists_drawn := by
    refine ⟨cells.map fun cell => fit width cell.toList, ?_, ?_⟩
    · rw [List.forall₂_map_right_iff, List.forall₂_same]
      intro cell _
      exact ⟨rfl, length_fit wide cell.toList⟩
    · rw [List.flatMap_map]
      rfl
  length_eq := length_row wide cells

/-- In lines of as many cells each cell starts at the same place. -/
theorem row_eq_iff
    (wide : 2 ≤ width)
    {left right : List String}
    (sameLength : left.length = right.length) :
    row width left = row width right ↔ List.Forall₂ (LooksAlike width) left right := by
  induction left generalizing right with
  | nil =>
      rw [List.eq_nil_of_length_eq_zero sameLength.symm]
      exact ⟨fun _ => .nil, fun _ => rfl⟩
  | cons cell cells inductionHypothesis =>
      cases right with
      | nil => cases sameLength
      | cons other others =>
          have sameRest : cells.length = others.length := Nat.succ.inj sameLength
          have inCell : (fit width cell.toList).length = (fit width other.toList).length := by
            rw [length_fit wide, length_fit wide]
          rw [List.forall₂_cons, ← inductionHypothesis sameRest, ← fit_eq_iff, row_cons, row_cons,
            List.append_eq_append_iff_of_size_eq_left inCell, List.append_cancel_left_eq]

/-! ## Tables -/

/-- The text is the line of the header, a rule of dashes behind it, and the lines of the
other rows. -/
def IsTable (width : Nat) (grid : List (List String)) (text : List Char) : Prop :=
  match grid with
  | [] => text = []
  | header :: rows => ∃ first others,
      IsLine width header first ∧ List.Forall₂ (IsLine width) rows others ∧
        text = first ++ (List.replicate ((width + 2) * header.length) '-' ++ ['\n']) ++
          others.flatten

/-- Both grids have as many rows, and as many cells in each. -/
def SameShape (left right : List (List String)) : Prop :=
  left.map List.length = right.map List.length

theorem isTable_draw (wide : 2 ≤ width) (grid : List (List String)) :
    IsTable width grid (draw width grid) := by
  cases grid with
  | nil => rfl
  | cons header rows =>
      refine ⟨row width header, rows.map (row width), isLine_row wide header, ?_, ?_⟩
      · rw [List.forall₂_map_right_iff, List.forall₂_same]
        intro cells _
        exact isLine_row wide cells
      · rw [← List.flatMap_def]
        rfl

theorem rows_eq_iff
    (wide : 2 ≤ width)
    {left right : List (List String)}
    (sameShape : SameShape left right) :
    left.flatMap (row width) = right.flatMap (row width) ↔
      List.Forall₂ (List.Forall₂ (LooksAlike width)) left right := by
  induction left generalizing right with
  | nil =>
      rw [List.map_eq_nil_iff.mp sameShape.symm]
      exact ⟨fun _ => .nil, fun _ => rfl⟩
  | cons cells rows inductionHypothesis =>
      cases right with
      | nil => cases sameShape
      | cons others otherRows =>
          obtain ⟨sameLength, sameRest⟩ := List.cons.inj sameShape
          have inRow : (row width cells).length = (row width others).length := by
            rw [length_row wide, length_row wide, sameLength]
          rw [List.forall₂_cons, ← inductionHypothesis sameRest, ← row_eq_iff wide sameLength,
            List.flatMap_cons, List.flatMap_cons,
            List.append_eq_append_iff_of_size_eq_left inRow]

theorem draw_eq_iff
    (wide : 2 ≤ width)
    {left right : List (List String)}
    (sameShape : SameShape left right) :
    draw width left = draw width right ↔
      List.Forall₂ (List.Forall₂ (LooksAlike width)) left right := by
  cases left with
  | nil =>
      rw [List.map_eq_nil_iff.mp sameShape.symm]
      exact ⟨fun _ => .nil, fun _ => rfl⟩
  | cons header rows =>
      cases right with
      | nil => cases sameShape
      | cons otherHeader otherRows =>
          obtain ⟨sameLength, sameRest⟩ := List.cons.inj sameShape
          have inHeader : (row width header).length = (row width otherHeader).length := by
            rw [length_row wide, length_row wide, sameLength]
          -- Rows of as many cells have the same rule, so only the lines around it count.
          rw [List.forall₂_cons, ← row_eq_iff wide sameLength, ← rows_eq_iff wide sameRest, draw,
            draw, sameLength, List.append_assoc, List.append_assoc,
            List.append_eq_append_iff_of_size_eq_left inHeader, List.append_cancel_left_eq]

/-- Every table is made of lines of cells of its width. Grids of one shape have the same
table just if their cells look alike place by place, and a text that was cut looks like none
that was not. -/
theorem render_shows_cells (width : Nat) (wide : 2 ≤ width) :
    (∀ grid, IsTable width grid (render width grid).toList) ∧
      (∀ left right, SameShape left right →
        (render width left = render width right ↔
          List.Forall₂ (List.Forall₂ (LooksAlike width)) left right)) ∧
      ∀ short long : List Char, short.length < width → width ≤ long.length →
        fit width short ≠ fit width long := by
  refine ⟨?_, ?_, ?_⟩
  · intro grid
    rw [render, String.toList_ofList]
    exact isTable_draw wide grid
  · intro left right sameShape
    rw [render, render, String.ofList_inj]
    exact draw_eq_iff wide sameShape
  · intro short long isShort isLong
    exact fit_ne_of_lt_of_le isShort isLong

/-- The cells hold a line end, a bar, characters of several bytes and what the mark of a cut
is written with. -/
theorem render_shows_cells_of_four_characters :
    let grid := [["?x"], ["é\n", "ab.."]]
    let other := [["?x "], ["é\n ", "ab| |"]]
    2 ≤ 4 ∧ SameShape grid other ∧ render 4 grid = render 4 other ∧
      IsTable 4 grid (render 4 grid).toList ∧ fit 4 ['a', 'b'] ≠ fit 4 ['a', 'b', '.', '.'] := by
  intro grid other
  have wide : 2 ≤ 4 := by decide
  obtain ⟨isTable, sameTable, cutDiffers⟩ := render_shows_cells 4 wide
  have alike : List.Forall₂ (List.Forall₂ (LooksAlike 4)) grid other := by
    have header : LooksAlike 4 "?x" "?x " := Or.inl (by decide)
    have lineEnd : LooksAlike 4 "é\n" "é\n " := Or.inl (by decide)
    have cut : LooksAlike 4 "ab.." "ab| |" := Or.inr (by decide)
    exact .cons (.cons header .nil) (.cons (.cons lineEnd (.cons cut .nil)) .nil)
  exact ⟨wide, rfl, (sameTable grid other rfl).mpr alike, isTable grid,
    cutDiffers _ _ (by decide) (by decide)⟩

end TripleStore.Table
