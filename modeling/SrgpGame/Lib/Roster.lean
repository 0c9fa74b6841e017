import Mathlib.Logic.Function.Basic
import Mathlib.Tactic.Common

set_option autoImplicit false

/-!
# Rosters

A roster has groups, each with an owner and with the ranks of its members, and for each person a
note of the group that the person belongs to. Membership is thus recorded twice. This file has the
elementary changes of a roster, and the conditions under which they keep the two records in step,
and under which every group keeps exactly one member of the highest rank, its owner.

## Main definitions

* `Roster` — the groups, and the notes.
* `Roster.setRank`, `setOwner`, `setHome`, `setGroup` — the elementary changes.
* `Roster.Linked` — the two records of membership agree.
* `Roster.Led` — in each group exactly its owner has the highest rank.

## Main results

* `Roster.Linked.join`, `Linked.leave`, `Linked.found`, `Linked.disband` — what keeps the records in
  step.
* `Roster.Led.join`, `Led.leave`, `Led.setRank`, `Led.handOver` — what keeps the owners.
-/

/-- A group: its owner, and the ranks of its members. -/
@[ext]
structure Roster.Group (π ρ : Type*) where
  owner : π
  /-- The rank of a person, if a member. -/
  rank : π → Option ρ

/-- The groups, and for each person the note of a group. The note may name a group that does not
exist. -/
@[ext]
structure Roster (γ π ρ : Type*) where
  group : γ → Option (Roster.Group π ρ)
  home : π → Option γ

namespace Roster

variable {γ π ρ : Type*} [DecidableEq γ] [DecidableEq π]

/-! ## Elementary changes -/

/-- Gives a person a rank in a group that exists, or takes it away. -/
def setRank (r : Roster γ π ρ) (g : γ) (p : π) (rank : Option ρ) : Roster γ π ρ :=
  { r with group := fun g' =>
      if g' = g then (r.group g).map fun G => { G with rank := Function.update G.rank p rank }
      else r.group g' }

/-- Makes a person the owner of a group that exists. -/
def setOwner (r : Roster γ π ρ) (g : γ) (p : π) : Roster γ π ρ :=
  { r with group := fun g' =>
      if g' = g then (r.group g).map fun G => { G with owner := p } else r.group g' }

/-- Changes the note of a person. -/
def setHome (r : Roster γ π ρ) (p : π) (home : Option γ) : Roster γ π ρ :=
  { r with home := Function.update r.home p home }

/-- Adds a group, or removes it. -/
def setGroup (r : Roster γ π ρ) (g : γ) (G : Option (Group π ρ)) : Roster γ π ρ :=
  { r with group := Function.update r.group g G }

/-! ## Invariants -/

/-- **The two records of membership agree.** -/
def Linked (r : Roster γ π ρ) : Prop :=
  ∀ g G, r.group g = some G → ∀ p, (G.rank p).isSome ↔ r.home p = some g

/-- **Exactly the owner has the highest rank**, `head`, in each group. -/
def Led (head : ρ) (r : Roster γ π ρ) : Prop :=
  ∀ g G, r.group g = some G → ∀ p, G.rank p = some head ↔ p = G.owner

/-- A person whose note names no group that exists. -/
def Homeless (r : Roster γ π ρ) (p : π) : Prop :=
  ∀ g, r.home p = some g → r.group g = none

variable {r : Roster γ π ρ} {g : γ} {p : π} {head : ρ}

omit [DecidableEq γ] [DecidableEq π] in
/-- **Nobody is a member of two groups.** -/
lemma Linked.unique (h : Linked r) {g' : γ} {G G' : Group π ρ} (hG : r.group g = some G)
    (hG' : r.group g' = some G') (hp : (G.rank p).isSome) (hp' : (G'.rank p).isSome) :
    g = g' := by
  have hhome := (h g G hG p).mp hp
  have hhome' := (h g' G' hG' p).mp hp'
  rw [hhome] at hhome'
  exact Option.some.inj hhome'

omit [DecidableEq γ] [DecidableEq π] in
/-- A homeless person is no member of any group. -/
lemma Linked.rank_of_homeless (h : Linked r) (hp : Homeless r p) {G : Group π ρ}
    (hG : r.group g = some G) : G.rank p = none := by
  by_contra hrank
  have hhome := (h g G hG p).mp (Option.isSome_iff_ne_none.mpr hrank)
  rw [hp g hhome] at hG
  cases hG

/-! ## Groups after a change -/

/-- What a group is after a rank was changed. -/
lemma group_setRank {rank : Option ρ} {g' : γ} {G' : Group π ρ} :
    (r.setRank g p rank).group g' = some G' ↔
      (g' ≠ g ∧ r.group g' = some G') ∨
        ∃ G, g' = g ∧ r.group g = some G ∧
          G' = { G with rank := Function.update G.rank p rank } := by
  by_cases hg : g' = g
  · subst hg
    simp only [setRank, if_true, Option.map_eq_some_iff, ne_eq, not_true_eq_false, false_and,
      false_or, true_and]
    constructor
    · rintro ⟨G, hG, rfl⟩
      exact ⟨G, hG, rfl⟩
    · rintro ⟨G, hG, rfl⟩
      exact ⟨G, hG, rfl⟩
  · simp [setRank, hg]

/-- A group that does not exist has no ranks to change. -/
lemma setRank_of_none (hg : r.group g = none) (rank : Option ρ) : r.setRank g p rank = r := by
  apply Roster.ext
  · funext g'
    show (if g' = g then _ else _) = _
    split
    · next heq =>
      rw [heq, hg]
      rfl
    · rfl
  · rfl

omit [DecidableEq π] in
/-- What a group is after its owner was changed. -/
lemma group_setOwner {g' : γ} {G' : Group π ρ} :
    (r.setOwner g p).group g' = some G' ↔
      (g' ≠ g ∧ r.group g' = some G') ∨
        ∃ G, g' = g ∧ r.group g = some G ∧ G' = { G with owner := p } := by
  by_cases hg : g' = g
  · subst hg
    simp only [setOwner, if_true, Option.map_eq_some_iff, ne_eq, not_true_eq_false, false_and,
      false_or, true_and]
    constructor
    · rintro ⟨G, hG, rfl⟩
      exact ⟨G, hG, rfl⟩
    · rintro ⟨G, hG, rfl⟩
      exact ⟨G, hG, rfl⟩
  · simp [setOwner, hg]

omit [DecidableEq π] in
/-- What a group is after another was added or removed. -/
lemma group_setGroup {G : Option (Group π ρ)} {g' : γ} :
    (r.setGroup g G).group g' = if g' = g then G else r.group g' := by
  rw [setGroup]
  exact Function.update_apply _ _ _ _

omit [DecidableEq γ] in
/-- What a note is after a note was changed. -/
lemma home_setHome {home : Option γ} {p' : π} :
    (r.setHome p home).home p' = if p' = p then home else r.home p' :=
  Function.update_apply _ _ _ _

/-! ## What keeps the records in step -/

/-- A member may get any rank. -/
theorem Linked.setRank (h : Linked r) (hp : r.home p = some g) (rank : ρ) :
    Linked (r.setRank g p (some rank)) := by
  intro g' G' hG' p'
  rcases group_setRank.mp hG' with ⟨-, hG⟩ | ⟨G, rfl, hG, rfl⟩
  · exact h g' G' hG p'
  · show (Function.update G.rank p (some rank) p').isSome ↔ r.home p' = some g'
    rw [Function.update_apply]
    split
    · next hp' =>
      subst hp'
      exact iff_of_true rfl hp
    · exact h g' G hG p'

omit [DecidableEq π] in
/-- Any person may be made the owner. -/
theorem Linked.setOwner (h : Linked r) (g : γ) (p : π) : Linked (r.setOwner g p) := by
  intro g' G' hG' p'
  rcases group_setOwner.mp hG' with ⟨-, hG⟩ | ⟨G, rfl, hG, rfl⟩
  · exact h g' G' hG p'
  · exact h g' G hG p'

omit [DecidableEq γ] in
/-- The note of a homeless person may be changed to another that names no group. -/
theorem Linked.setHome (h : Linked r) (hp : Homeless r p) {home : Option γ}
    (hhome : ∀ g, home = some g → r.group g = none) : Linked (r.setHome p home) := by
  intro g' G' hG' p'
  rw [home_setHome]
  split
  · next hp' =>
    subst hp'
    have hrank := h.rank_of_homeless hp hG'
    rw [hrank]
    refine iff_of_false Bool.false_ne_true fun hg' => ?_
    have hnone : r.group g' = none := hhome g' hg'
    have hsome : r.group g' = some G' := hG'
    rw [hnone] at hsome
    cases hsome
  · exact h g' G' hG' p'

/-- **A homeless person may join a group.** -/
theorem Linked.join (h : Linked r) (hp : Homeless r p) (rank : ρ) :
    Linked ((r.setHome p (some g)).setRank g p (some rank)) := by
  intro g' G' hG' p'
  have hother : ∀ {G}, r.group g' = some G → p' ≠ p →
      ((G.rank p').isSome ↔ (r.setHome p (some g)).home p' = some g') := by
    intro G hG hne
    rw [home_setHome, if_neg hne]
    exact h g' G hG p'
  rcases group_setRank.mp hG' with ⟨hne, hG⟩ | ⟨G, rfl, hG, rfl⟩
  · by_cases hp' : p' = p
    · subst hp'
      have hrank := h.rank_of_homeless hp hG
      show (G'.rank p').isSome ↔ (r.setHome p' (some g)).home p' = some g'
      rw [hrank, home_setHome, if_pos rfl]
      exact iff_of_false Bool.false_ne_true fun hg => hne (Option.some.inj hg).symm
    · exact hother hG hp'
  · show (Function.update G.rank p (some rank) p').isSome ↔
      (r.setHome p (some g')).home p' = some g'
    by_cases hp' : p' = p
    · subst hp'
      rw [Function.update_self, home_setHome, if_pos rfl]
      exact iff_of_true rfl rfl
    · rw [Function.update_of_ne hp']
      exact hother hG hp'

/-- **A member may leave its group.** -/
theorem Linked.leave (h : Linked r) (hp : r.home p = some g) {home : Option γ}
    (hhome : ∀ g, home = some g → r.group g = none) :
    Linked ((r.setRank g p none).setHome p home) := by
  intro g' G' hG' p'
  have hnone : ∀ {G}, r.group g' = some G → home ≠ some g' := by
    intro G hG heq
    rw [hhome g' heq] at hG
    cases hG
  rw [home_setHome]
  rcases group_setRank.mp hG' with ⟨hne, hG⟩ | ⟨G, rfl, hG, rfl⟩
  · split
    · next hp' =>
      subst hp'
      refine iff_of_false (fun hrank => hne ?_) (hnone hG)
      have hhome' := (h g' G' hG p').mp hrank
      rw [hp] at hhome'
      exact (Option.some.inj hhome').symm
    · exact h g' G' hG p'
  · show (Function.update G.rank p none p').isSome ↔ _
    split
    · next hp' =>
      subst hp'
      rw [Function.update_self]
      exact iff_of_false Bool.false_ne_true (hnone hG)
    · next hp' =>
      rw [Function.update_of_ne hp']
      exact h g' G hG p'

omit [DecidableEq π] in
/-- **Any group may be disbanded.** -/
theorem Linked.disband (h : Linked r) (g : γ) : Linked (r.setGroup g none) := by
  intro g' G' hG' p'
  rw [group_setGroup] at hG'
  split at hG'
  · cases hG'
  · exact h g' G' hG' p'

/-- **A homeless person may found a group** that no note names. -/
theorem Linked.found (h : Linked r) (hp : Homeless r p) (hg : ∀ q, r.home q ≠ some g) (rank : ρ) :
    Linked ((r.setHome p (some g)).setGroup g
      (some ⟨p, Function.update (fun _ => none) p (some rank)⟩)) := by
  intro g' G' hG' p'
  show _ ↔ (r.setHome p (some g)).home p' = some g'
  rw [home_setHome]
  rw [group_setGroup] at hG'
  split at hG'
  · next heq =>
    obtain rfl := Option.some.inj hG'
    subst heq
    show (Function.update (fun _ => none) p (some rank) p').isSome ↔ _
    rw [Function.update_apply]
    split
    · exact iff_of_true rfl rfl
    · exact iff_of_false Bool.false_ne_true (hg p')
  · next hne =>
    split
    · next hp' =>
      subst hp'
      have hrank := h.rank_of_homeless hp hG'
      rw [hrank]
      exact iff_of_false Bool.false_ne_true fun heq => hne (Option.some.inj heq).symm
    · exact h g' G' hG' p'

/-! ## What keeps the owners -/

/-- Who is not the owner may get any other rank, or none. -/
theorem Led.setRank (h : Led head r) (hp : ∀ G, r.group g = some G → p ≠ G.owner)
    {rank : Option ρ} (hrank : rank ≠ some head) : Led head (r.setRank g p rank) := by
  intro g' G' hG' p'
  rcases group_setRank.mp hG' with ⟨-, hG⟩ | ⟨G, rfl, hG, rfl⟩
  · exact h g' G' hG p'
  · show Function.update G.rank p rank p' = some head ↔ p' = G.owner
    rw [Function.update_apply]
    split
    · next hp' =>
      subst hp'
      exact iff_of_false hrank (hp G hG)
    · exact h g' G hG p'

omit [DecidableEq γ] in
/-- Notes have nothing to do with it. -/
theorem Led.setHome (h : Led head r) (p : π) (home : Option γ) : Led head (r.setHome p home) := h

omit [DecidableEq π] in
/-- A group that is gone has no leader to agree on. -/
theorem Led.disband (h : Led head r) (g : γ) : Led head (r.setGroup g none) := by
  intro g' G' hG' p'
  rw [group_setGroup] at hG'
  split at hG'
  · cases hG'
  · exact h g' G' hG' p'

/-- The founder of a group is its owner, and has the highest rank. -/
theorem Led.found (h : Led head r) (g : γ) (p : π) :
    Led head (r.setGroup g (some ⟨p, Function.update (fun _ => none) p (some head)⟩)) := by
  intro g' G' hG' p'
  rw [group_setGroup] at hG'
  split at hG'
  · obtain rfl := Option.some.inj hG'
    show Function.update (fun _ => none) p (some head) p' = some head ↔ p' = p
    rw [Function.update_apply]
    split
    · next hp' => exact iff_of_true rfl hp'
    · next hp' => exact iff_of_false (Option.some_ne_none head).symm hp'
  · exact h g' G' hG' p'

/-- **The owner may hand over a group** to another person, and keep another rank. -/
theorem Led.handOver (h : Led head r) {q : π} (hne : q ≠ p)
    (hp : ∀ G, r.group g = some G → G.owner = p) {rank : Option ρ} (hrank : rank ≠ some head) :
    Led head (((r.setRank g q (some head)).setRank g p rank).setOwner g q) := by
  intro g' G' hG' p'
  rcases group_setOwner.mp hG' with ⟨hg, hG'⟩ | ⟨G₂, rfl, hG₂, rfl⟩
  · rcases group_setRank.mp hG' with ⟨-, hG'⟩ | ⟨_, rfl, -, -⟩
    · rcases group_setRank.mp hG' with ⟨-, hG⟩ | ⟨_, rfl, -, -⟩
      · exact h g' G' hG p'
      · exact absurd rfl hg
    · exact absurd rfl hg
  · rcases group_setRank.mp hG₂ with ⟨hg, -⟩ | ⟨G₁, -, hG₁, rfl⟩
    · exact absurd rfl hg
    rcases group_setRank.mp hG₁ with ⟨hg, -⟩ | ⟨G, -, hG, rfl⟩
    · exact absurd rfl hg
    show Function.update (Function.update G.rank q (some head)) p rank p' = some head ↔ p' = q
    by_cases hp' : p' = p
    · subst hp'
      rw [Function.update_self]
      exact iff_of_false hrank hne.symm
    · rw [Function.update_of_ne hp', Function.update_apply]
      split
      · next hq => exact iff_of_true rfl hq
      · next hq =>
        refine iff_of_false (fun hhead => hp' ?_) hq
        rw [(h g' G hG p').mp hhead, hp G hG]

end Roster
