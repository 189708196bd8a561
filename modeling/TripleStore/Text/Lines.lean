/-!
Contract: bytes cut into lines.

Owns: where a line ends.

Does not own: reading the bytes of a line as characters.

A line ends at a newline or at the end of the bytes. One carriage return directly
before the newline belongs to the line end. There is no line after the last newline.
-/

namespace TripleStore.Text

def newline : UInt8 := 0x0A

def carriageReturn : UInt8 := 0x0D

def extendFirst (byte : UInt8) : List (List UInt8) → List (List UInt8)
  | [] => [[byte]]
  | first :: others => (byte :: first) :: others

/-- The lines of the bytes, without their line ends. -/
def lines : List UInt8 → List (List UInt8)
  | [] => []
  | byte :: rest =>
      if byte = newline then
        [] :: lines rest
      else if byte = carriageReturn ∧ rest.head? = some newline then
        lines rest
      else
        extendFirst byte (lines rest)

end TripleStore.Text
