import TripleStore.Proofs.Text.Lines
import TripleStore.Proofs.Text.Utf8
import TripleStore.Shell.Session

/-!
Contract: the lines that a session hears from an input that is text.

Owns:
- that each line of a text is text, and ends where a newline stands;
- `LineEditor`, all that is asked of an edit of lines, and that taking back what backspaces
  take back is one;
- `heard?`, and that all lines of a text are heard.

Does not own: what a session makes of a line (`TripleStore.Proofs.Shell.Session`).
-/

namespace TripleStore.Shell

open TripleStore.Text (encode extendFirst lines newline carriageReturn backspace
  applyBackspaces Draft decode?_encode)

variable {text : List Char}

/-! ## Lines of a text -/

theorem encode_newline (rest : List Char) : encode ('\n' :: rest) = newline :: encode rest := by
  rw [Text.encode_cons, Text.utf8EncodeChar_of_small (by decide)]
  rfl

theorem encode_carriageReturn (rest : List Char) :
    encode ('\r' :: rest) = carriageReturn :: encode rest := by
  rw [Text.encode_cons, Text.utf8EncodeChar_of_small (by decide)]
  rfl

/-- A character other than these two has neither of their bytes. -/
theorem isPlain_utf8EncodeChar
    {character : Char}
    (noNewline : character ≠ '\n')
    (noReturn : character ≠ '\r') :
    Text.IsPlain (String.utf8EncodeChar character) := by
  intro byte member
  refine ⟨?_, ?_⟩
  · rintro rfl
    have same := (Text.mem_utf8EncodeChar_iff (by decide)).mp member
    exact noNewline (Char.toNat_inj.mp same)
  · rintro rfl
    have same := (Text.mem_utf8EncodeChar_iff (by decide)).mp member
    exact noReturn (Char.toNat_inj.mp same)

/-- The bytes are those of some characters of the text that are no newlines. -/
def IsLineOf (text : List Char) (bytes : List UInt8) : Prop :=
  ∃ characters, bytes = encode characters ∧ '\n' ∉ characters ∧ characters ⊆ text

theorem IsLineOf.mono
    {bytes : List UInt8}
    (isLine : IsLineOf text bytes)
    (first : Char) :
    IsLineOf (first :: text) bytes := by
  obtain ⟨characters, rfl, oneLine, within⟩ := isLine
  exact ⟨characters, rfl, oneLine, List.subset_cons_of_subset first within⟩

/-- A character that ends no line is put in front of the first line. -/
theorem isLineOf_foldr_extendFirst
    {first : Char}
    (noNewline : first ≠ '\n')
    {pieces : List (List UInt8)}
    (areLines : ∀ bytes ∈ pieces, IsLineOf text bytes) :
    ∀ bytes ∈ (String.utf8EncodeChar first).foldr extendFirst pieces,
      IsLineOf (first :: text) bytes := by
  cases pieces with
  | nil =>
      have alone : IsLineOf (first :: text) (String.utf8EncodeChar first) :=
        ⟨[first], by simp, by simpa using noNewline.symm, by simp⟩
      rw [Text.foldr_extendFirst_nil String.utf8EncodeChar_ne_nil]
      simpa using alone
  | cons piece others =>
      obtain ⟨ofPiece, ofOthers⟩ := List.forall_mem_cons.mp areLines
      obtain ⟨characters, rfl, oneLine, within⟩ := ofPiece
      have longer : IsLineOf (first :: text)
          (String.utf8EncodeChar first ++ encode characters) := by
        refine ⟨first :: characters, rfl, ?_, List.cons_subset_cons first within⟩
        simpa [noNewline.symm] using oneLine
      rw [Text.foldr_extendFirst_cons]
      exact List.forall_mem_cons.mpr
        ⟨longer, fun bytes member => (ofOthers bytes member).mono first⟩

theorem isLineOf_lines (text : List Char) :
    ∀ bytes ∈ lines (encode text), IsLineOf text bytes := by
  induction text with
  | nil => simp [lines]
  | cons first rest inductionHypothesis =>
      have kept : ∀ bytes ∈ lines (encode rest), IsLineOf (first :: rest) bytes :=
        fun bytes member => (inductionHypothesis bytes member).mono first
      by_cases isNewline : first = '\n'
      · subst isNewline
        rw [encode_newline, Text.lines_newline]
        exact List.forall_mem_cons.mpr ⟨⟨[], rfl, by simp, by simp⟩, kept⟩
      · have extended := isLineOf_foldr_extendFirst isNewline inductionHypothesis
        by_cases isReturn : first = '\r'
        · subst isReturn
          rw [encode_carriageReturn, lines, if_neg (by decide)]
          split
          · exact kept
          · rwa [Text.utf8EncodeChar_of_small (by decide)] at extended
        · rwa [Text.encode_cons,
            Text.lines_append_of_isPlain (isPlain_utf8EncodeChar isNewline isReturn)]

/-! ## What was typed -/

theorem dropBytes_subset (count : Nat) (characters : List Char) :
    Draft.dropBytes count characters ⊆ characters := by
  fun_induction Draft.dropBytes count characters with
  | case1 => exact List.Subset.refl _
  | case2 => exact List.Subset.refl _
  | case3 count first rest inductionHypothesis =>
      exact List.subset_cons_of_subset first inductionHypothesis

/-- What is kept has been kept before or is typed now. -/
theorem kept_type_subset (draft : Draft) (cluster : List Char) :
    (draft.type cluster).kept ⊆ cluster ++ draft.kept := by
  unfold Draft.type
  split
  · unfold Draft.takeBack
    split
    · exact List.subset_append_right _ _
    · exact List.subset_append_of_subset_right _ (dropBytes_subset _ _)
  · simp [Draft.add]

theorem kept_foldl_type_subset (typed : List (List Char)) (draft : Draft) :
    (typed.foldl Draft.type draft).kept ⊆ draft.kept ++ typed.flatten := by
  induction typed generalizing draft with
  | nil => simp
  | cons cluster others inductionHypothesis =>
      intro character member
      have later := inductionHypothesis (draft.type cluster) member
      have earlier := @kept_type_subset draft cluster character
      simp only [List.flatten_cons, List.mem_append] at later earlier ⊢
      tauto

theorem applyBackspaces_subset (characters : List Char) :
    applyBackspaces characters ⊆ characters := by
  intro character member
  rw [applyBackspaces, Draft.text, List.mem_reverse] at member
  simpa [Draft.empty] using kept_foldl_type_subset _ _ member

/-! ## What is asked of an edit -/

/-- What becomes of a line between being typed and being read. All that is assumed of it is
that it adds nothing, and that it leaves a line alone in which nothing is taken back. -/
structure LineEditor where
  edit : List Char → List Char
  edit_subset : ∀ line, edit line ⊆ line
  edit_eq_self : ∀ {line}, backspace ∉ line → edit line = line

/-- The edit that the shell makes. -/
def lineEditor : LineEditor where
  edit := applyBackspaces
  edit_subset := applyBackspaces_subset
  edit_eq_self := Text.applyBackspaces_eq_self

/-! ## Lines that are heard -/

/-- What the line reader delivers for the input, if all of it is text. -/
def heard? (input : List UInt8) : Option (List String) :=
  (lines input).mapM typed?

theorem editedWith?_encode (edit : List Char → List Char) (characters : List Char) :
    editedWith? edit (encode characters) = some (.ofList (edit characters)) := by
  rw [editedWith?, decode?_encode, Option.map_some]

theorem exists_edited
    (editor : LineEditor)
    {pieces : List (List UInt8)}
    (areLines : ∀ bytes ∈ pieces, IsLineOf text bytes) :
    ∃ heard, pieces.mapM (editedWith? editor.edit) = some heard ∧
      (∀ line ∈ heard, '\n' ∉ line.toList) ∧
      (backspace ∉ text → heard.map (fun line => encode line.toList) = pieces) := by
  induction pieces with
  | nil => exact ⟨[], rfl, by simp, by simp⟩
  | cons bytes others inductionHypothesis =>
      obtain ⟨ofFirst, ofOthers⟩ := List.forall_mem_cons.mp areLines
      obtain ⟨characters, rfl, oneLine, within⟩ := ofFirst
      obtain ⟨heard, othersHeard, othersOneLine, unchanged⟩ := inductionHypothesis ofOthers
      have left := editor.edit_subset characters
      refine ⟨.ofList (editor.edit characters) :: heard, ?_, ?_, ?_⟩
      · rw [List.mapM_cons, editedWith?_encode, othersHeard]
        rfl
      · refine List.forall_mem_cons.mpr ⟨?_, othersOneLine⟩
        rw [String.toList_ofList]
        exact fun member => oneLine (left member)
      · intro without
        have same := editor.edit_eq_self fun member => without (within member)
        rw [List.map_cons, unchanged without, String.toList_ofList, same]

/-- All lines of a text are heard, and unchanged if nothing is taken back. -/
theorem exists_heard (text : List Char) :
    ∃ heard, heard? (encode text) = some heard ∧
      (∀ line ∈ heard, '\n' ∉ line.toList) ∧
      (backspace ∉ text →
        heard.map (fun line => encode line.toList) = lines (encode text)) :=
  exists_edited lineEditor (isLineOf_lines text)

theorem endsLine_encode (ends : ∀ last ∈ text.getLast?, last = '\n') :
    Text.EndsLine (encode text) := by
  rcases List.eq_nil_or_concat text with rfl | ⟨front, last, rfl⟩
  · exact Text.endsLine_nil
  · have isNewline : last = '\n' := ends last (by simp)
    subst isNewline
    rw [List.concat_eq_append, Text.encode_append, encode_newline]
    intro byte isLast
    simpa [eq_comm] using isLast

/-- Where the first part leaves no line open, the parts are heard one after the other. -/
theorem heard?_append
    {first second : List UInt8}
    {heard others : List String}
    (ends : Text.EndsLine first)
    (ofFirst : heard? first = some heard)
    (ofSecond : heard? second = some others) :
    heard? (first ++ second) = some (heard ++ others) := by
  unfold heard? at *
  rw [Text.lines_append ends, List.mapM_append, ofFirst, ofSecond]
  rfl

end TripleStore.Shell
