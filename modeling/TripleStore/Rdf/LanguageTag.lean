import TripleStore.Text.Pieces

/-!
Contract: language tags in small letters.

Owns: which texts are well-formed tags.

Does not own: which tags are registered.

A tag is a language, then a script, a region, variants, extensions and a private part,
each of which may be missing, except that only the private part can stand without a
language. A few older tags have forms of their own.
-/

namespace TripleStore.Rdf.LanguageTag

/-- The tags that are admitted although no rule describes them. -/
def exceptional : List String :=
  ["art-lojban", "cel-gaulish", "en-gb-oed", "i-ami", "i-bnn", "i-default", "i-enochian",
    "i-hak", "i-klingon", "i-lux", "i-mingo", "i-navajo", "i-pwn", "i-tao", "i-tay", "i-tsu",
    "no-bok", "no-nyn", "sgn-be-fr", "sgn-be-nl", "sgn-ch-de", "zh-guoyu", "zh-hakka",
    "zh-min", "zh-min-nan", "zh-xiang"]

inductive Stage where
  | language (extensions : Nat)
  | fullLanguage
  | script
  | region
  /-- A one-letter part, which has to be followed by another if nothing follows yet. -/
  | extension (isEmpty : Bool)
  | privateUse (isEmpty : Bool)
deriving DecidableEq, Repr

namespace Stage

def beforeScript : Stage → Bool
  | language _ | fullLanguage => true
  | _ => false

def beforeRegion (stage : Stage) : Bool :=
  stage.beforeScript || stage == script

def beforeVariant (stage : Stage) : Bool :=
  stage.beforeRegion || stage == region

end Stage

def isRegion (part : List Char) : Bool :=
  (part.length == 2 && part.all Char.isAlpha) || (part.length == 3 && part.all Char.isDigit)

/-- At least five letters and digits, or four of which the first is a digit. -/
def isVariant (part : List Char) : Bool :=
  part.all Char.isAlphanum &&
    ((5 ≤ part.length && part.head?.any Char.isAlpha) ||
      (4 ≤ part.length && part.head?.any Char.isDigit))

def privateMark : List Char := ['x']

def start (part : List Char) : Option Stage :=
  if part = privateMark then
    some (.privateUse true)
  else if 2 ≤ part.length ∧ part.all Char.isAlpha then
    some (if part.length < 4 then .language 0 else .fullLanguage)
  else
    none

def next (stage : Stage) (part : List Char) : Option Stage :=
  match stage with
  | .privateUse _ => some (.privateUse false)
  | stage =>
      if part.length = 1 then
        if stage = .extension true then none
        else if part = privateMark then some (.privateUse true)
        else some (.extension true)
      else
        match stage with
        | .extension _ => some (.extension false)
        | .language extensions =>
            if part.length = 3 ∧ part.all Char.isAlpha then
              if extensions < 3 then some (.language (extensions + 1)) else none
            else
              afterLanguage stage part
        | stage => afterLanguage stage part
where
  afterLanguage (stage : Stage) (part : List Char) : Option Stage :=
    if stage.beforeScript && part.length == 4 && part.all Char.isAlpha then some .script
    else if stage.beforeRegion && isRegion part then some .region
    else if stage.beforeVariant && isVariant part then some .region
    else none

def isFinal : Stage → Bool
  | .extension isEmpty => !isEmpty
  | .privateUse isEmpty => !isEmpty
  | _ => true

def isPart (part : List Char) : Bool :=
  0 < part.length && part.length ≤ 8 && part.all Char.isAlphanum

def isRegular (parts : List (List Char)) : Bool :=
  parts.all isPart &&
    match parts with
    | [] => false
    | first :: rest => ((start first).bind fun stage => rest.foldlM next stage).any isFinal

def isWellFormed (tag : List Char) : Bool :=
  exceptional.any (·.toList == tag) || isRegular (Text.pieces '-' tag)

end TripleStore.Rdf.LanguageTag
