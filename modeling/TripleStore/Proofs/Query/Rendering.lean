import TripleStore.Proofs.Query.Tokens
import TripleStore.Proofs.Text.Utf8

/-!
Contract: texts that are put together from spellings with blanks between them.

Owns:
- `Piece`, a spelling and the blanks behind it, and the text of a list of pieces;
- that such a text is cut into the kinds that were spelled, each at the byte at which its
  spelling was put.

Does not own: what can stand between tokens without a blank
(`TripleStore.Proofs.Query.LongestMatch`).
-/

namespace TripleStore.Query

open TripleStore.Text (byteLength byteLength_append byteLength_toList isBlank)

/-- A kind of token in one of its spellings, and the blanks behind the spelling. -/
structure Piece where
  kind : TokenKind
  spelling : List Char
  blanks : List Char
  spelled : kind.Spelled spelling
  areBlank : AreBlank blanks

namespace Piece

def characters (piece : Piece) : List Char :=
  piece.spelling ++ piece.blanks

/-- The text of some blanks and then the pieces. -/
def render (blanks : List Char) (pieces : List Piece) : String :=
  .ofList (blanks ++ pieces.flatMap characters)

/-- The tokens of the pieces, each at the end of the text of those before it, and the end of
input at the end of the text. -/
def tokens (blanks : List Char) (pieces : List Piece) : List Token :=
  pieces.mapIdx (fun place piece =>
      { kind := piece.kind, offset := (render blanks (pieces.take place)).utf8ByteSize }) ++
    [{ kind := .endOfInput, offset := (render blanks pieces).utf8ByteSize }]

/-- There is a blank between any two spellings. -/
def Apart (pieces : List Piece) : Prop :=
  pieces.IsChain fun left _ => left.blanks ≠ []

variable {piece : Piece} {pieces : List Piece} {front blanks : List Char}

theorem render_cons :
    render blanks (piece :: pieces) = render (blanks ++ piece.spelling ++ piece.blanks) pieces := by
  simp [render, characters]

theorem tokens_cons :
    tokens blanks (piece :: pieces) =
      { kind := piece.kind, offset := byteLength blanks } ::
        tokens (blanks ++ piece.spelling ++ piece.blanks) pieces := by
  have atStart : (render blanks []).utf8ByteSize = byteLength blanks := by
    rw [← byteLength_toList]
    simp [render]
  rw [tokens, List.mapIdx_cons, List.take_zero, atStart]
  simp only [List.take_succ_cons, render_cons]
  rfl

theorem tokens_nil :
    tokens blanks [] = [{ kind := .endOfInput, offset := byteLength blanks }] := by
  simp [tokens, render, ← byteLength_toList]

/-- Blanks come behind every piece but the last one. -/
theorem Apart.separated (apart : Apart (piece :: pieces)) :
    Separated (piece.blanks ++ pieces.flatMap characters) := by
  intro next isNext
  cases isBlanks : piece.blanks with
  | cons first others =>
      have areBlank := piece.areBlank
      rw [isBlanks] at isNext areBlank
      obtain rfl : first = next := Option.some.inj isNext
      exact areBlank first List.mem_cons_self
  | nil =>
      cases pieces with
      | nil => simp [isBlanks] at isNext
      | cons later others => exact absurd isBlanks (List.isChain_cons_cons.mp apart).1

/-- The blanks are those in front of the first piece, and the front is all before them. -/
theorem laidOut_render
    (front : List Char)
    (areBlank : AreBlank blanks)
    (apart : Apart pieces) :
    LaidOut Separated (byteLength front) (tokens (front ++ blanks) pieces)
      (blanks ++ pieces.flatMap characters) := by
  induction pieces generalizing front blanks with
  | nil =>
      rw [tokens_nil, List.flatMap_nil, List.append_nil, byteLength_append]
      exact .finish (byteLength front) blanks areBlank
  | cons piece pieces inductionHypothesis =>
      have others := inductionHypothesis (front ++ blanks ++ piece.spelling) piece.areBlank
        apart.of_cons
      rw [byteLength_append, byteLength_append] at others
      have laidOut := LaidOut.token (byteLength front) blanks piece.kind piece.spelling _ _ areBlank
        piece.spelled apart.separated others
      rw [tokens_cons, List.flatMap_cons, byteLength_append]
      simp only [characters, List.append_assoc] at laidOut ⊢
      exact laidOut

/-- A text of pieces that are apart is cut into the kinds that were spelled, each at the byte
at which its spelling was put. -/
theorem tokenize_render
    (blanks : List Char)
    (pieces : List Piece)
    (areBlank : AreBlank blanks)
    (apart : Apart pieces) :
    tokenize (render blanks pieces) = .ok (tokens blanks pieces) := by
  have laidOut := laidOut_render [] areBlank apart
  rw [List.nil_append] at laidOut
  rw [tokenize, render, String.toList_ofList]
  exact laidOut.tokensFrom_eq

/-- Without the blanks the first two signs would be one operator, and the third would be the
sign of the number. -/
def signPieces : List Piece :=
  have isNumber : IsNumber ".5E-3".toList :=
    (isNumber_numberSpelling (by decide : numberSpelling ".5E-3".toList ≠ [])).1
  [{ kind := .operator .less, spelling := ['<'], blanks := ['\u3000']
     spelled := .operator .less, areBlank := by decide },
    { kind := .operator .equal, spelling := ['='], blanks := [' ', '\n']
      spelled := .operator .equal, areBlank := by decide },
    { kind := .operator .minus, spelling := ['-'], blanks := [' ']
      spelled := .operator .minus, areBlank := by decide },
    { kind := .number ".5E-3", spelling := ".5E-3".toList, blanks := ['\t']
      spelled := .number _ isNumber, areBlank := by decide },
    { kind := .literal "é's", spelling := '"' :: ("é's".toList ++ ['"']), blanks := [' ']
      spelled := .literal _ '"' (by decide) (by decide), areBlank := by decide },
    { kind := .keyword .BY, spelling := ['b', 'Y'], blanks := []
      spelled := .keyword .BY _ (by decide), areBlank := by decide }]

theorem tokenize_render_signs :
    AreBlank [' '] ∧ Apart signPieces ∧
      tokenize " <\u3000= \n- .5E-3\t\"é's\" bY" = .ok
        [⟨.operator .less, 1⟩, ⟨.operator .equal, 5⟩, ⟨.operator .minus, 8⟩,
          ⟨.number ".5E-3", 10⟩, ⟨.literal "é's", 16⟩, ⟨.keyword .BY, 23⟩, ⟨.endOfInput, 25⟩] := by
  have areBlank : AreBlank [' '] := by decide
  have apart : Apart signPieces := by simp [Apart, signPieces]
  exact ⟨areBlank, apart, tokenize_render [' '] signPieces areBlank apart⟩

end Piece

end TripleStore.Query
