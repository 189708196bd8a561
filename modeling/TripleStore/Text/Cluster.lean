import TripleStore.Text.ClusterPart

/-!
Contract: texts cut into clusters, each of which reads as one character.

Owns:
- when a character belongs to the cluster before it;
- the clusters of a text, which make up the whole text.

Does not own: what a character contributes to a cluster (`TripleStore.Text.ClusterPart`).

The rules are those of extended grapheme clusters. Whether a character joins on depends
on the characters before it only, so a text is cut from left to right.
-/

namespace TripleStore.Text

/-- How much of a picture that goes on the characters before a place end in. -/
inductive PictureState where
  | none
  | complete
  | joined
deriving DecidableEq, Repr

/-- How much of a group of consonants the characters before a place end in. -/
inductive ConsonantState where
  | none
  | single
  | linked
deriving DecidableEq, Repr

structure ClusterContext where
  last : ClusterPart
  picture : PictureState
  consonants : ConsonantState
  /-- Whether the halves of flags right before the place are odd in number. -/
  hasHalfFlag : Bool
deriving DecidableEq, Repr

namespace ClusterPart

def isControl : ClusterPart → Bool
  | carriageReturn | lineFeed | control => true
  | _ => false

def isExtending : ClusterPart → Bool
  | extender | nonJoiner | linker => true
  | _ => false

/-- Whether the two jamo or syllables are parts of one syllable. -/
def formSyllable : ClusterPart → ClusterPart → Bool
  | leadingJamo, leadingJamo | leadingJamo, vowelJamo | leadingJamo, openSyllable
  | leadingJamo, closedSyllable => true
  | openSyllable, vowelJamo | openSyllable, trailingJamo => true
  | vowelJamo, vowelJamo | vowelJamo, trailingJamo => true
  | closedSyllable, trailingJamo | trailingJamo, trailingJamo => true
  | _, _ => false

end ClusterPart

def PictureState.next (state : PictureState) (part : ClusterPart) : PictureState :=
  if part = .pictograph then .complete
  else if state = .complete ∧ part.isExtending then .complete
  else if state = .complete ∧ part = .joiner then .joined
  else .none

def ConsonantState.next (state : ConsonantState) : ClusterPart → ConsonantState
  | .consonant => .single
  | .linker => if state = .none then .none else .linked
  | .extender | .joiner => state
  | _ => .none

namespace ClusterContext

def start (part : ClusterPart) : ClusterContext where
  last := part
  picture := PictureState.none.next part
  consonants := ConsonantState.none.next part
  hasHalfFlag := part = .regional

def next (context : ClusterContext) (part : ClusterPart) : ClusterContext where
  last := part
  picture := context.picture.next part
  consonants := context.consonants.next part
  hasHalfFlag := part = .regional && !context.hasHalfFlag

def joins (context : ClusterContext) (part : ClusterPart) : Bool :=
  if context.last.isControl || part.isControl then
    context.last = .carriageReturn && part = .lineFeed
  else
    context.last.formSyllable part || part.isExtending || part = .joiner || part = .spacing ||
      context.last = .prepender ||
        (context.consonants = .linked && part = .consonant) ||
          (context.picture = .joined && part = .pictograph) ||
            (context.hasHalfFlag && part = .regional)

end ClusterContext

/-- What of the text belongs to the cluster before it, and the clusters of the rest. -/
def cutClusters (context : ClusterContext) : List Char → List Char × List (List Char)
  | [] => ([], [])
  | character :: rest =>
      let part := ClusterPart.ofChar character
      let (joined, others) := cutClusters (context.next part) rest
      if context.joins part then
        (character :: joined, others)
      else
        ([], (character :: joined) :: others)

def clusters : List Char → List (List Char)
  | [] => []
  | first :: rest =>
      let (joined, others) := cutClusters (.start (.ofChar first)) rest
      (first :: joined) :: others

/-! ## Nothing is lost -/

theorem append_flatten_cutClusters (context : ClusterContext) (text : List Char) :
    (cutClusters context text).1 ++ (cutClusters context text).2.flatten = text := by
  induction text generalizing context with
  | nil => rfl
  | cons character rest inductionHypothesis =>
    have whole := inductionHypothesis (context.next (ClusterPart.ofChar character))
    simp only [cutClusters]
    split <;> simp [whole]

@[simp] theorem flatten_clusters (text : List Char) : (clusters text).flatten = text := by
  cases text with
  | nil => rfl
  | cons first rest =>
    simp [clusters, append_flatten_cutClusters]

end TripleStore.Text
