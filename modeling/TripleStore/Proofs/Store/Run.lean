import TripleStore.Proofs.Store.Contents
import TripleStore.Store.Basic

/-!
Contract: runs of edits on a store, beside the plain map that they amount to.

Owns:
- `Edit`, one of the four operations that change a store, and runs of edits;
- what an edit and a run do to a plain map from keys to payloads;
- `SameTerms`, by which two stores have the same lexicons, as before and after an erasure.

Does not own: that the store and the map agree (`TripleStore.Proofs.Store.Refinement`).
-/

namespace TripleStore

namespace Store

/-- An operation that can change a store. -/
inductive Edit where
  | insertRecord (record : Record) (value : String)
  /-- The identifiers need not stand for terms. -/
  | insert (triple : Triple)
  | erase (key : Key)
  | eraseRecord (record : Record)
deriving DecidableEq, Repr

namespace Edit

/-- The store after the edit. -/
def apply (store : Store) : Edit → Store
  | insertRecord record value => (store.insertRecord record value).2
  | insert triple => store.insert triple
  | erase key => (store.erase key).2
  | eraseRecord record => (store.eraseRecord record).2

/-- What the edit does to a plain map. A record is written under the key of the triple
that the store gives back for it, and erased only if all its terms are known. -/
def mirror (store : Store) (contents : Contents) : Edit → Contents
  | insertRecord record value =>
      contents.insert (store.insertRecord record value).1.toKey value
  | insert triple => contents.insert triple.toKey triple.value
  | erase key => contents.erase key
  | eraseRecord record =>
      match store.key? record with
      | some key => contents.erase key
      | none => contents

end Edit

/-- The store after the edits, in order. -/
def run (store : Store) : List Edit → Store
  | [] => store
  | edit :: rest => run (edit.apply store) rest

/-- What a run of edits, in order, does to a plain map. -/
def mirror (store : Store) (contents : Contents) : List Edit → Contents
  | [] => contents
  | edit :: rest => mirror (edit.apply store) (edit.mirror store contents) rest

/-- The store that the edits make of an empty one. -/
def afterEdits (edits : List Edit) : Store :=
  empty.run edits

/-- The plain map that the edits make of an empty one. -/
def contentsAfter (edits : List Edit) : Contents :=
  empty.mirror ∅ edits

/-! ## Lexicons -/

structure SameTerms (left right : Store) : Prop where
  entities : left.entityTerms = right.entityTerms
  predicates : left.predicateTerms = right.predicateTerms

theorem sameTerms_erase (store : Store) (key : Key) :
    SameTerms store (store.erase key).2 := by
  unfold erase
  split <;> exact ⟨rfl, rfl⟩

end Store

end TripleStore
