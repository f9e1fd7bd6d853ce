import Mathlib.Data.Finmap

/-! # Finite maps after an update

What `insert` and `erase` leave under every key, and which updates of one key absorb each other. An
`AList` has an order, a `Finmap` has none.
-/

namespace FiniteMap

variable {κ α : Type} [DecidableEq κ]

theorem lookup_insert (map : AList fun _ : κ => α) (key key' : κ) (value : α) :
    (map.insert key value).lookup key' = if key' = key then some value else map.lookup key' := by
  split
  · rename_i hEq
    rw [hEq, AList.lookup_insert]
  · rename_i hNe
    rw [AList.lookup_insert_ne hNe]

theorem lookup_erase (map : AList fun _ : κ => α) (key key' : κ) :
    (map.erase key).lookup key' = if key' = key then none else map.lookup key' := by
  split
  · rename_i hEq
    rw [hEq, AList.lookup_erase]
  · rename_i hNe
    rw [AList.lookup_erase_ne hNe]

theorem erase_erase (map : AList fun _ : κ => α) (key : κ) :
    (map.erase key).erase key = map.erase key :=
  AList.ext (List.kerase_of_notMem_keys (List.notMem_keys_kerase key map.nodupKeys))

theorem insert_erase (map : AList fun _ : κ => α) (key : κ) (value : α) :
    (map.erase key).insert key value = map.insert key value := by
  have hEntries := congrArg AList.entries (erase_erase map key)
  exact AList.ext (congrArg (List.cons (⟨key, value⟩ : Sigma fun _ : κ => α)) hEntries)

theorem erase_insert (map : AList fun _ : κ => α) (key : κ) (value : α) :
    (map.insert key value).erase key = map.erase key :=
  AList.ext (List.kerase_cons_eq rfl)

section Unordered

theorem finmap_lookup_insert (map : Finmap fun _ : κ => α) (key key' : κ) (value : α) :
    (map.insert key value).lookup key' = if key' = key then some value else map.lookup key' := by
  split
  · rename_i hEq
    rw [hEq, Finmap.lookup_insert]
  · rename_i hNe
    rw [Finmap.lookup_insert_of_ne map hNe]

theorem finmap_lookup_erase (map : Finmap fun _ : κ => α) (key key' : κ) :
    (map.erase key).lookup key' = if key' = key then none else map.lookup key' := by
  split
  · rename_i hEq
    rw [hEq, Finmap.lookup_erase]
  · rename_i hNe
    rw [Finmap.lookup_erase_ne hNe]

end Unordered

end FiniteMap
