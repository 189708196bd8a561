import Std.Data.ExtTreeMap

/-!
Contract: laws of extensional maps that the theory of the store rests on.

Owns:
- when a write or an erasure gives a map back, and which of two writes is left;
- the list of a map's entries: its names are those of the map, and no entry comes twice.

Does not own: any map of the store.
-/

namespace TripleStore.Map

variable {Name Value : Type} [Ord Name] [Std.TransOrd Name] [Std.LawfulEqOrd Name]
variable {map : Std.ExtTreeMap Name Value} {name : Name} {value : Value}

/-! ## Writes and erasures of one name -/

/-- Where one name was changed, maps are compared at that name and at all others. -/
theorem eq_of_getElem?_eq
    {left right : Std.ExtTreeMap Name Value}
    (name : Name)
    (own : left[name]? = right[name]?)
    (others : ∀ other, name ≠ other → left[other]? = right[other]?) :
    left = right := by
  apply Std.ExtTreeMap.ext_getElem?
  intro other
  by_cases same : name = other
  · exact same ▸ own
  · exact others other same

theorem erase_eq_self (missing : name ∉ map) : map.erase name = map := by
  apply eq_of_getElem?_eq name
  · rw [Std.ExtTreeMap.getElem?_erase_self, Std.ExtTreeMap.getElem?_eq_none missing]
  · intro other different
    simp [Std.ExtTreeMap.getElem?_erase, different]

theorem insert_eq_self (found : map[name]? = some value) : map.insert name value = map := by
  apply eq_of_getElem?_eq name
  · rw [Std.ExtTreeMap.getElem?_insert_self, found]
  · intro other different
    simp [Std.ExtTreeMap.getElem?_insert, different]

theorem insertIfNew_eq_self (member : name ∈ map) : map.insertIfNew name value = map := by
  apply Std.ExtTreeMap.ext_getElem?
  intro other
  simp [Std.ExtTreeMap.getElem?_insertIfNew, member]

theorem insert_insert (old : Value) :
    (map.insert name old).insert name value = map.insert name value := by
  apply eq_of_getElem?_eq name
  · rw [Std.ExtTreeMap.getElem?_insert_self, Std.ExtTreeMap.getElem?_insert_self]
  · intro other different
    simp [Std.ExtTreeMap.getElem?_insert, different]

theorem insert_erase (found : map[name]? = some value) :
    (map.erase name).insert name value = map := by
  apply eq_of_getElem?_eq name
  · rw [Std.ExtTreeMap.getElem?_insert_self, found]
  · intro other different
    simp [Std.ExtTreeMap.getElem?_insert, Std.ExtTreeMap.getElem?_erase, different]

theorem erase_insert (missing : name ∉ map) : (map.insert name value).erase name = map := by
  apply eq_of_getElem?_eq name
  · rw [Std.ExtTreeMap.getElem?_erase_self, Std.ExtTreeMap.getElem?_eq_none missing]
  · intro other different
    simp [Std.ExtTreeMap.getElem?_insert, Std.ExtTreeMap.getElem?_erase, different]

/-! ## The list of entries -/

theorem mem_of_mem_toList {entry : Name × Value} (listed : entry ∈ map.toList) :
    entry.1 ∈ map := by
  rw [← Std.ExtTreeMap.mem_keys, ← Std.ExtTreeMap.map_fst_toList_eq_keys]
  exact List.mem_map_of_mem listed

theorem distinct_names (map : Std.ExtTreeMap Name Value) :
    map.toList.Pairwise fun left right => left.1 ≠ right.1 := by
  refine map.distinct_keys_toList.imp ?_
  intro left right different same
  exact different (by simp [same])

theorem nodup_toList (map : Std.ExtTreeMap Name Value) : map.toList.Nodup := by
  refine (distinct_names map).imp ?_
  intro left right different same
  exact different (congrArg Prod.fst same)

/-- A map is what its entries make up, in whatever order they come. -/
theorem ofList_eq_of_perm_toList
    [DecidableEq Name]
    {entries : List (Name × Value)}
    (perm : entries.Perm map.toList) :
    Std.ExtTreeMap.ofList entries = map := by
  have distinct : entries.Pairwise fun left right => ¬compare left.1 right.1 = .eq :=
    perm.symm.pairwise map.distinct_keys_toList fun different same =>
      different (Std.OrientedCmp.eq_symm same)
  apply Std.ExtTreeMap.ext_getElem?
  intro name
  cases found : map[name]? with
  | some value =>
      have member : (name, value) ∈ entries := by
        rw [perm.mem_iff, Std.ExtTreeMap.mem_toList_iff_getElem?_eq_some]
        exact found
      exact Std.ExtTreeMap.getElem?_ofList_of_mem Std.ReflCmp.compare_self distinct member
  | none =>
      apply Std.ExtTreeMap.getElem?_ofList_of_contains_eq_false
      rw [List.contains_eq_mem, decide_eq_false_iff_not, (perm.map Prod.fst).mem_iff,
        Std.ExtTreeMap.map_fst_toList_eq_keys, Std.ExtTreeMap.mem_keys]
      intro member
      rw [← Std.ExtTreeMap.isSome_getElem?_iff_mem, found] at member
      cases member

end TripleStore.Map
