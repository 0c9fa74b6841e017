import Mathlib.Data.Set.Card
import Mathlib.Logic.Relation
import Mathlib.Tactic.Common

set_option autoImplicit false

/-!
# Searching along all paths

A search visits a node and then, one after another, all nodes that the node leads to; it remembers
the nodes it has come along, and fails where it comes to one of them again, or to a node that is
not as it should be. On finitely many nodes such a search passes exactly if every node that can be
reached is as it should be and none of them is on a cycle.

## Main definitions

* `PathSearch.Passes` — the search passes.
* `PathSearch.Sound` — all nodes that can be reached are as they should be, and there is no cycle.

## Main results

* `PathSearch.passes_iff` — the search passes just if this is so.
-/

namespace PathSearch

variable {V : Type*} {ok : V → Prop} {E : V → V → Prop} {path : Set V} {v w : V}

/-- **The search passes** from `v` on, when it has come along `path`. -/
inductive Passes (ok : V → Prop) (E : V → V → Prop) : Set V → V → Prop
  | visit {path : Set V} {v : V} (hnew : v ∉ path) (hok : ok v)
      (hnext : ∀ w, E v w → Passes ok E (insert v path) w) : Passes ok E path v

/-- **What the search is for**: every node that can be reached from `v` is as it should be, and none
of them can be reached from itself. -/
structure Sound (ok : V → Prop) (E : V → V → Prop) (v : V) : Prop where
  ok : ∀ w, Relation.ReflTransGen E v w → ok w
  acyclic : ∀ w, Relation.ReflTransGen E v w → ¬Relation.TransGen E w w

/-- What is sound from a node on is sound from the next nodes on. -/
lemma Sound.next (h : Sound ok E v) (hw : E v w) : Sound ok E w where
  ok u hu := h.ok u (.head hw hu)
  acyclic u hu := h.acyclic u (.head hw hu)

/-- A node that leads to no other is sound if it is as it should be. -/
lemma sound_of_no_edge (hv : ok v) (hE : ∀ w, ¬E v w) : Sound ok E v := by
  have hreach : ∀ w, Relation.ReflTransGen E v w → w = v := by
    intro w hw
    rcases Relation.ReflTransGen.cases_head hw with rfl | ⟨u, hu, -⟩
    · rfl
    · exact absurd hu (hE u)
  refine ⟨fun w hw => hreach w hw ▸ hv, fun w hw hcycle => ?_⟩
  obtain ⟨u, hu, -⟩ := Relation.TransGen.head'_iff.mp (hreach w hw ▸ hcycle)
  exact hE u hu

/-- A search that passes comes to sound nodes only, and to none on its way. -/
lemma Passes.sound (h : Passes ok E path v) :
    Sound ok E v ∧ ∀ w, Relation.ReflTransGen E v w → w ∉ path := by
  induction h with
  | @visit path v hnew hok hnext ih =>
    have hcycle : ¬Relation.TransGen E v v := by
      intro hvv
      obtain ⟨w, hw, hwv⟩ := Relation.TransGen.head'_iff.mp hvv
      exact (ih w hw).2 v hwv (Set.mem_insert v path)
    refine ⟨⟨fun u hu => ?_, fun u hu => ?_⟩, fun u hu => ?_⟩
    · rcases Relation.ReflTransGen.cases_head hu with rfl | ⟨w, hw, hwu⟩
      · exact hok
      · exact (ih w hw).1.ok u hwu
    · rcases Relation.ReflTransGen.cases_head hu with rfl | ⟨w, hw, hwu⟩
      · exact hcycle
      · exact (ih w hw).1.acyclic u hwu
    · rcases Relation.ReflTransGen.cases_head hu with rfl | ⟨w, hw, hwu⟩
      · exact hnew
      · exact fun hmem => (ih w hw).2 u hwu (Set.mem_insert_of_mem v hmem)

/-- From a sound node on the search passes, if it comes to no node on its way. Induction on the
number of nodes that are not on the way. -/
lemma Sound.passes (hfin : {v | ok v}.Finite) (h : Sound ok E v)
    (hpath : ∀ w, Relation.ReflTransGen E v w → w ∉ path) : Passes ok E path v := by
  generalize hn : ({v | ok v} \ path).ncard = n
  induction n using Nat.strong_induction_on generalizing path v with
  | _ n ih =>
    have hv : ok v := h.ok v .refl
    have hnew : v ∉ path := hpath v .refl
    refine .visit hnew hv fun w hw => ih _ ?_ (h.next hw) ?_ rfl
    · rw [← hn]
      refine Set.ncard_lt_ncard ?_ (hfin.subset Set.sdiff_subset)
      refine Set.ssubset_iff_subset_ne.mpr ⟨Set.sdiff_subset_sdiff_right (Set.subset_insert v path),
        fun heq => ?_⟩
      have hmem : v ∈ {v | ok v} \ insert v path := heq ▸ ⟨hv, hnew⟩
      exact hmem.2 (Set.mem_insert v path)
    · intro u hu hmem
      rcases hmem with rfl | hmem
      · exact h.acyclic u .refl (Relation.TransGen.head' hw hu)
      · exact hpath u (.head hw hu) hmem

/-- **A search from the beginning passes** just if all nodes that can be reached are as they should
be and there is no cycle. -/
theorem passes_iff (hfin : {v | ok v}.Finite) : Passes ok E ∅ v ↔ Sound ok E v :=
  ⟨fun h => h.sound.1, fun h => h.passes hfin fun w _ => Set.notMem_empty w⟩

end PathSearch
