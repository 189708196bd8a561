import TripleStore.Text.Cluster
import TripleStore.Text.Utf8

/-!
Contract: backspaces in a text that was typed.

Owns: the text that is left when every backspace has taken back what it takes back.

Does not own: what a cluster is (`TripleStore.Text.Cluster`).

A backspace takes back the cluster before it that has not been taken back yet. How much
that is was noted when the cluster was typed, as a number of bytes that is itself kept
in one byte, so of a cluster of 256 bytes and more some is left.
-/

namespace TripleStore.Text

def backspace : Char := '\x08'

structure Draft where
  kept : List Char
  /-- The noted sizes of the clusters that can be taken back, last one first. -/
  sizes : List UInt8
deriving DecidableEq, Repr

namespace Draft

def empty : Draft where
  kept := []
  sizes := []

/-- The characters without the first ones that make up so many bytes. -/
def dropBytes : Nat → List Char → List Char
  | _, [] => []
  | 0, characters => characters
  | bytes + 1, first :: rest => dropBytes (bytes + 1 - first.utf8Size) rest

/-- The draft without the last cluster that can be taken back, if there is one. -/
def takeBack (draft : Draft) : Draft :=
  match draft.sizes with
  | [] => draft
  | size :: others => { kept := dropBytes size.toNat draft.kept, sizes := others }

def add (draft : Draft) (cluster : List Char) : Draft where
  kept := cluster.reverse ++ draft.kept
  sizes := (byteLength cluster).toUInt8 :: draft.sizes

def type (draft : Draft) (cluster : List Char) : Draft :=
  if cluster = [backspace] then draft.takeBack else draft.add cluster

def text (draft : Draft) : List Char :=
  draft.kept.reverse

@[simp] theorem text_empty : empty.text = [] := rfl

@[simp] theorem text_add (draft : Draft) (cluster : List Char) :
    (draft.add cluster).text = draft.text ++ cluster := by
  simp [add, text]

end Draft

/-- The text that is left when every backspace has taken effect. -/
def applyBackspaces (text : List Char) : List Char :=
  ((clusters text).foldl Draft.type .empty).text

theorem text_foldl_type (typed : List (List Char)) (draft : Draft)
    (without : [backspace] ∉ typed) :
    (typed.foldl Draft.type draft).text = draft.text ++ typed.flatten := by
  induction typed generalizing draft with
  | nil => simp
  | cons first rest inductionHypothesis =>
    simp only [List.mem_cons, not_or] at without
    have notBackspace : first ≠ [backspace] := fun equal => without.1 equal.symm
    rw [List.foldl_cons, inductionHypothesis _ without.2, Draft.type, if_neg notBackspace,
      Draft.text_add, List.flatten_cons, List.append_assoc]

theorem applyBackspaces_eq_self {text : List Char} (without : backspace ∉ text) :
    applyBackspaces text = text := by
  have notTyped : [backspace] ∉ clusters text := by
    intro isTyped
    refine without ?_
    rw [← flatten_clusters text]
    exact List.mem_flatten.mpr ⟨[backspace], isTyped, List.mem_singleton.mpr rfl⟩
  rw [applyBackspaces, text_foldl_type _ _ notTyped, flatten_clusters]
  rfl

end TripleStore.Text
