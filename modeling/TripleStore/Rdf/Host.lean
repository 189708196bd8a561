import TripleStore.Text.Decimal
import TripleStore.Text.Pieces

/-!
Contract: addresses that stand for the host of an IRI.

Owns: which texts are addresses of the sixth and of later versions of the protocol.

Does not own: named hosts, and the brackets around an address (`TripleStore.Rdf.Iri`).
-/

namespace TripleStore.Rdf.Host

open TripleStore.Text (decimalValue isHexDigit pieces)

def isGroup (text : List Char) : Bool :=
  0 < text.length && text.length ≤ 4 && text.all isHexDigit

def isByte (text : List Char) : Bool :=
  0 < text.length && text.length ≤ 3 && text.all Char.isDigit && decimalValue text ≤ 255 &&
    (text.length == 1 || text.head? != some '0')

def isDotted (text : List Char) : Bool :=
  let parts := pieces '.' text
  parts.length == 4 && parts.all isByte

/-- The number of groups that the text stands for. The last one may be dotted, if that
is admitted, and then counts as two. -/
def groupCount? (admitsDotted : Bool) (text : List Char) : Option Nat :=
  let parts := pieces ':' text
  if text = [] then
    some 0
  else if parts.all isGroup then
    some parts.length
  else if admitsDotted && parts.dropLast.all isGroup && parts.getLast?.any isDotted then
    some (parts.length + 1)
  else
    none

def splitGap : List Char → Option (List Char × List Char)
  | ':' :: ':' :: rest => some ([], rest)
  | first :: rest => (splitGap rest).map fun (before, after) => (first :: before, after)
  | [] => none

/-- Eight groups, or fewer with a gap that stands for the missing ones. -/
def isVersionSix (text : List Char) : Bool :=
  match splitGap text with
  | none => groupCount? true text == some 8
  | some (before, after) =>
      match groupCount? false before, groupCount? true after with
      | some first, some second => first + second < 8
      | _, _ => false

def isLaterVersion (allowed : Char → Bool) : List Char → Bool
  | [] => false
  | letter :: rest =>
      let version := rest.takeWhile isHexDigit
      (letter == 'v' || letter == 'V') && version ≠ [] &&
        match rest.drop version.length with
        | '.' :: address => address ≠ [] && address.all allowed
        | _ => false

end TripleStore.Rdf.Host
