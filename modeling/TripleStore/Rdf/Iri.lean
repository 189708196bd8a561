import TripleStore.Rdf.Host
import TripleStore.Text.Range

/-!
Contract: IRIs and references to them.

Owns:
- the five parts of a reference, and the characters that each may hold;
- resolving a reference against a base.

Does not own: how IRIs are written in a document (`TripleStore.Turtle.Lexer`).

A reference that has a scheme or an authority of its own keeps its path as it is
written. Of any other reference the dot segments are taken out, and those of the base are
left alone.
-/

namespace TripleStore.Rdf

open TripleStore.Text (inRanges isHexDigit pieces)

/-! ## Characters -/

def unreservedRanges : List (Nat × Nat) :=
  [(0xA0, 0xD7FF), (0xF900, 0xFDCF), (0xFDF0, 0xFFEF), (0x10000, 0x1FFFD),
    (0x20000, 0x2FFFD), (0x30000, 0x3FFFD), (0x40000, 0x4FFFD), (0x50000, 0x5FFFD),
    (0x60000, 0x6FFFD), (0x70000, 0x7FFFD), (0x80000, 0x8FFFD), (0x90000, 0x9FFFD),
    (0xA0000, 0xAFFFD), (0xB0000, 0xBFFFD), (0xC0000, 0xCFFFD), (0xD0000, 0xDFFFD),
    (0xE1000, 0xEFFFD)]

def privateRanges : List (Nat × Nat) :=
  [(0xE000, 0xF8FF), (0xF0000, 0xFFFFD), (0x100000, 0x10FFFD)]

def isUnreserved (character : Char) : Bool :=
  character.isAlphanum || ['-', '.', '_', '~'].contains character ||
    inRanges unreservedRanges character

def isSubDelimiter (character : Char) : Bool :=
  ['!', '$', '&', '\x27', '(', ')', '*', '+', ',', ';', '='].contains character

def isHostCharacter (character : Char) : Bool :=
  isUnreserved character || isSubDelimiter character

def isUserCharacter (character : Char) : Bool :=
  isHostCharacter character || character == ':'

def isAddressCharacter (character : Char) : Bool :=
  character.toNat < 0x80 && isUserCharacter character

def isPathCharacter (character : Char) : Bool :=
  isUserCharacter character || character == '@' || character == '/'

def isFragmentCharacter (character : Char) : Bool :=
  isPathCharacter character || character == '?'

def isQueryCharacter (character : Char) : Bool :=
  isFragmentCharacter character || inRanges privateRanges character

/-- Whether the text holds only allowed characters and bytes written as a percent sign
with two hexadecimal digits. -/
def isEncoded (allowed : Char → Bool) : List Char → Bool
  | [] => true
  | '%' :: high :: low :: rest => isHexDigit high && isHexDigit low && isEncoded allowed rest
  | first :: rest => allowed first && isEncoded allowed rest

/-! ## Parts -/

/-- A reference by its parts. It is an IRI if it has a scheme. -/
structure Reference where
  scheme : Option (List Char)
  authority : Option (List Char)
  path : List Char
  query : Option (List Char)
  fragment : Option (List Char)
deriving DecidableEq, Repr

namespace Reference

def isSchemeCharacter (character : Char) : Bool :=
  character.isAlphanum || ['+', '-', '.'].contains character

/-- The scheme before the first colon, if there is one, and what follows. -/
def splitScheme (text : List Char) : Option (List Char) × List Char :=
  let name := text.takeWhile isSchemeCharacter
  match text.drop name.length with
  | ':' :: rest => if name.head?.any Char.isAlpha then (some name, rest) else (none, text)
  | _ => (none, text)

def splitAuthority : List Char → Option (List Char) × List Char
  | '/' :: '/' :: rest =>
      let name := rest.takeWhile fun character => !(['/', '?', '#'].contains character)
      (some name, rest.drop name.length)
  | text => (none, text)

def splitQuery : List Char → Option (List Char) × List Char
  | '?' :: rest =>
      let name := rest.takeWhile (· != '#')
      (some name, rest.drop name.length)
  | text => (none, text)

def ofText (text : List Char) : Reference :=
  let (scheme, afterScheme) := splitScheme text
  let (authority, afterAuthority) := splitAuthority afterScheme
  let path := afterAuthority.takeWhile fun character => character != '?' && character != '#'
  let (query, afterQuery) := splitQuery (afterAuthority.drop path.length)
  { scheme, authority, path, query
    fragment := if afterQuery = [] then none else some afterQuery.tail }

def text (reference : Reference) : List Char :=
  ((reference.scheme.map (· ++ [':'])).getD []) ++
    ((reference.authority.map ('/' :: '/' :: ·)).getD []) ++ reference.path ++
      ((reference.query.map ('?' :: ·)).getD []) ++
        ((reference.fragment.map ('#' :: ·)).getD [])

/-! ## Which references are well formed -/

def isServicePart : List Char → Bool
  | [] => true
  | first :: digits => first == ':' && digits.all Char.isDigit

def isHost : List Char → Bool
  | '[' :: rest =>
      let address := rest.takeWhile (· != ']')
      match rest.drop address.length with
      | _ :: service =>
          (Host.isVersionSix address || Host.isLaterVersion isAddressCharacter address) &&
            isServicePart service
      | [] => false
  | text =>
      let name := text.takeWhile (· != ':')
      isEncoded isHostCharacter name && isServicePart (text.drop name.length)

def isAuthority (text : List Char) : Bool :=
  let user := text.takeWhile fun character => character != '@' && character != '['
  match text.drop user.length with
  | '@' :: host => isEncoded isUserCharacter user && isHost host
  | _ => isHost text

/-- Whether nothing at the start of the reference could be taken for a scheme that it
does not have: there is no colon before the first slash of its path. -/
def isUnmistakable (reference : Reference) : Bool :=
  reference.scheme.isSome || reference.authority.isSome ||
    !((reference.path.takeWhile (· != '/')).contains ':')

def isWellFormed (reference : Reference) : Bool :=
  reference.isUnmistakable &&
    reference.authority.all isAuthority && isEncoded isPathCharacter reference.path &&
      reference.query.all (isEncoded isQueryCharacter) &&
        reference.fragment.all (isEncoded isFragmentCharacter)

/-! ## Resolution

The paths that are gone through below are empty or end with a slash, up to the last
segment. None may go on from two slashes that would be taken for an authority. -/

/-- The path without its last segment. A path below a host keeps its first slash. -/
def ascend (hasHost : Bool) (path : List Char) : List Char :=
  match ((path.reverse.drop 1).dropWhile (· != '/')).reverse with
  | [] => if hasHost then ['/'] else []
  | parent => parent

/-- Whether the start of the path could be taken for an authority that is not there. -/
def isMistakable (hasHost : Bool) (path : List Char) : Bool :=
  !hasHost && ['/', '/'].isPrefixOf path

/-- The path with one more segment, which the given slash ends. One dot stays where it is
and two dots go up, and both take in their slash. Only two dots lead on from a mistakable
path. -/
def descend? (hasHost : Bool) (path segment slash : List Char) : Option (List Char) :=
  if segment = ['.', '.'] then some (ascend hasHost path)
  else if isMistakable hasHost path then none
  else if segment = ['.'] then some path
  else some (path ++ segment ++ slash)

def followSegments? (hasHost : Bool) (path : List Char) :
    List (List Char) → Option (List Char)
  | [] => some path
  | [last] => descend? hasHost path last []
  | segment :: rest =>
      (descend? hasHost path segment ['/']).bind (followSegments? hasHost · rest)

/-- The path up to and with its last slash. A host without a path has the root. -/
def directory (base : Reference) : List Char :=
  match (base.path.reverse.dropWhile (· != '/')).reverse with
  | [] => if base.authority.isSome then ['/'] else []
  | path => path

def follow? (base : Reference) : List Char → Option (List Char)
  | '/' :: rest => followSegments? base.authority.isSome ['/'] (pieces '/' rest)
  | path => followSegments? base.authority.isSome base.directory (pieces '/' path)

def resolve? (base reference : Reference) : Option Reference :=
  if reference.scheme.isSome then
    some reference
  else if reference.authority.isSome then
    some { reference with scheme := base.scheme }
  else if reference.path = [] then
    some
      { base with
        query := reference.query <|> base.query
        fragment := reference.fragment }
  else
    (base.follow? reference.path).map fun path =>
      { reference with scheme := base.scheme, authority := base.authority, path }

end Reference

/-- The IRI that a text refers to. Without a base it has to be one already. -/
def resolveIri? (base : Option Reference) (text : List Char) : Option (List Char) :=
  let reference := Reference.ofText text
  if reference.isWellFormed then
    match base with
    | some base => (base.resolve? reference).map Reference.text
    | none => if reference.scheme.isSome then some text else none
  else
    none

end TripleStore.Rdf
