import SrgpGame.Lib.Machine

set_option autoImplicit false

/-!
# Maps with an inverse

Guava's `BiMap` is a map in which no two keys share a value, so that it can be read in both
directions. `forcePut` keeps it so: it drops the entry of another key that has the new value. This
file has the map, and says when a `forcePut` keeps a family of values registered.

## Main definitions

* `BiMap` — a map without two keys of one value; `BiMap.get`, `BiMap.keyOf`, `BiMap.forcePut`.
* `BiMap.Registers` — the map has every value of a family under its key.

## Main results

* `BiMap.keyOf_eq_some` — both directions say the same.
* `BiMap.registers_iff` — a family is registered just if it has no value twice and both directions
  of the map know it.
* `BiMap.Registers.forcePut_iff` — a `forcePut` keeps the family registered just if no other key
  has the new value.
-/

/-- A map in which no two keys share a value. -/
structure BiMap (α β : Type) [DecidableEq α] where
  map : AList fun _ : α => β
  inj : ∀ k k' v, map.lookup k = some v → map.lookup k' = some v → k = k'

namespace BiMap

variable {α β : Type} [DecidableEq α]

/-- `HashBiMap.create`. -/
def empty : BiMap α β := ⟨∅, fun k _ v h => by simp at h⟩

/-- The value of a key. -/
def get (b : BiMap α β) (k : α) : Option β := b.map.lookup k

@[simp] lemma get_empty (k : α) : (empty : BiMap α β).get k = none := rfl

variable [DecidableEq β]

/-- `inverse().get`: the key of a value. -/
def keyOf (b : BiMap α β) (v : β) : Option α :=
  (b.map.entries.find? fun entry => entry.2 = v).map Sigma.fst

/-- The entries of `forcePut`: another key with the new value is dropped. -/
def forced (b : BiMap α β) (k : α) (v : β) : AList fun _ : α => β :=
  (b.map.filterKeys fun k' => b.map.lookup k' ≠ some v).insert k v

lemma lookup_forced (b : BiMap α β) (k k' : α) (v : β) :
    (b.forced k v).lookup k' =
      if k' = k then some v else if b.get k' = some v then none else b.get k' := by
  rw [forced, AList.lookup_insert_ite, AList.lookup_filterKeys]
  by_cases hk : k' = k
  · rw [if_pos hk, if_pos hk]
  · rw [if_neg hk, if_neg hk]
    by_cases hv : b.map.lookup k' = some v <;> simp [get, hv]

/-- After the removal a key with the new value is the new key. -/
lemma eq_of_lookup_forced {b : BiMap α β} {k k' : α} {v : β}
    (h : (b.forced k v).lookup k' = some v) : k' = k := by
  rw [lookup_forced] at h
  by_contra hk
  rw [if_neg hk] at h
  by_cases hv : b.get k' = some v
  · rw [if_pos hv] at h
    cases h
  · rw [if_neg hv] at h
    exact hv h

/-- Away from the new value the entries are those of before. -/
lemma get_of_lookup_forced {b : BiMap α β} {k k' : α} {v v' : β} (hv : v' ≠ v)
    (h : (b.forced k v).lookup k' = some v') : b.get k' = some v' := by
  rw [lookup_forced] at h
  by_cases hk : k' = k
  · rw [if_pos hk] at h
    exact absurd (Option.some.inj h).symm hv
  · rw [if_neg hk] at h
    split at h
    · cases h
    · exact h

/-- `forcePut`. -/
def forcePut (b : BiMap α β) (k : α) (v : β) : BiMap α β where
  map := b.forced k v
  inj k₁ k₂ v' h₁ h₂ := by
    by_cases hv : v' = v
    · subst hv
      rw [eq_of_lookup_forced h₁, eq_of_lookup_forced h₂]
    · exact b.inj k₁ k₂ v' (get_of_lookup_forced hv h₁) (get_of_lookup_forced hv h₂)

lemma get_forcePut (b : BiMap α β) (k k' : α) (v : β) :
    (b.forcePut k v).get k' =
      if k' = k then some v else if b.get k' = some v then none else b.get k' :=
  b.lookup_forced k k' v

/-- **Both directions say the same.** -/
lemma keyOf_eq_some {b : BiMap α β} {k : α} {v : β} : b.keyOf v = some k ↔ b.get k = some v := by
  rw [keyOf, Option.map_eq_some_iff]
  constructor
  · rintro ⟨⟨k', v'⟩, hfind, rfl⟩
    obtain rfl : v' = v := by simpa using List.find?_some hfind
    exact AList.mem_lookup_iff.mpr (List.mem_of_find?_eq_some hfind)
  · intro hget
    have hmem : (⟨k, v⟩ : Sigma fun _ : α => β) ∈ b.map.entries := AList.mem_lookup_iff.mp hget
    cases hfind : b.map.entries.find? fun entry => entry.2 = v with
    | none =>
      have hnone := List.find?_eq_none.mp hfind ⟨k, v⟩ hmem
      simp at hnone
    | some entry =>
      obtain ⟨k', v'⟩ := entry
      obtain rfl : v' = v := by simpa using List.find?_some hfind
      have hget' : b.map.lookup k' = some v' :=
        AList.mem_lookup_iff.mpr (List.mem_of_find?_eq_some hfind)
      exact ⟨⟨k', v'⟩, rfl, b.inj k' k v' hget' hget⟩

/-! ## Registered families -/

/-- The map has every value of the family under its key. -/
def Registers (b : BiMap α β) (f : α → Option β) : Prop :=
  ∀ k v, f k = some v → b.get k = some v

/-- **A registered family** has no value twice, and both directions of the map know it. -/
theorem registers_iff {b : BiMap α β} {f : α → Option β} :
    b.Registers f ↔
      (∀ k k' v, f k = some v → f k' = some v → k = k') ∧
        (∀ k v, f k = some v → b.keyOf v = some k) ∧ ∀ k v, f k = some v → b.get k = some v := by
  constructor
  · intro h
    refine ⟨fun k k' v hk hk' => ?_, fun k v hk => ?_, h⟩
    · exact b.inj k k' v (h k v hk) (h k' v hk')
    · exact keyOf_eq_some.mpr (h k v hk)
  · rintro ⟨-, -, hget⟩
    exact hget

namespace Registers

variable {b : BiMap α β} {f f' : α → Option β} {k : α} {v : β}

/-- **A forced entry** keeps the family registered, with the new value at the key, just if no other
key of the family has that value. -/
theorem forcePut_iff (h : b.Registers f)
    (hf' : ∀ k', f' k' = if k' = k then some v else f k') :
    (b.forcePut k v).Registers f' ↔ ∀ k', k' ≠ k → f k' ≠ some v := by
  constructor
  · intro hput k' hk hv
    have hf : f' k' = some v := by rw [hf', if_neg hk, hv]
    have hget := hput k' v hf
    rw [get_forcePut, if_neg hk, if_pos (h k' v hv)] at hget
    cases hget
  · intro hfree k' v' hv'
    rw [hf'] at hv'
    rw [get_forcePut]
    by_cases hk : k' = k
    · rw [if_pos hk] at hv' ⊢
      exact hv'
    · rw [if_neg hk] at hv' ⊢
      have hother : b.get k' ≠ some v := by
        intro hv
        rw [h k' v' hv'] at hv
        exact hfree k' hk (by rw [hv', hv])
      rw [if_neg hother]
      exact h k' v' hv'

end Registers

end BiMap
