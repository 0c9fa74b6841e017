import Mathlib.Data.Finset.Card
import Mathlib.Data.List.Chain
import Mathlib.Logic.Function.Basic
import Mathlib.Tactic.Common

set_option autoImplicit false

/-!
# Best-first search

A search for a shortest walk in a graph whose edges all have length one. It keeps the nodes that it
has met but not expanded in an open list, and always expands one of them for which the length of
the way to it and an estimate of the way from it to the goal are least together. It stops as soon
as the goal is met.

The search itself is not defined here, only its single changes, so that every program that makes
these changes in some order can use the results.

## Main definitions

* `BestFirst.IsWalk` — a list of nodes is a walk.
* `BestFirst.Search` — the state of a search, with its changes `relax` and `close`.
* `BestFirst.Inv` — the invariant, with the edges that are not relaxed yet.
* `BestFirst.Expanding` — a node is being expanded.

## Main results

* `BestFirst.Inv.frontier` — every walk out of the expanded nodes passes a node of the open list.
* `BestFirst.Inv.choose`, `BestFirst.Expanding.relax`, `BestFirst.Expanding.close` — the three
  changes of a search keep the invariant.
* `BestFirst.Expanding.shortest` — the way to a goal that is met is a shortest walk.
* `BestFirst.Inv.not_isWalk` — when the open list is empty there is no walk.
-/

namespace BestFirst

variable {V : Type*}

/-! ## Walks -/

/-- **A walk** from `start` to `v`: a list of nodes in which each has an edge to the next. -/
structure IsWalk (E : V → V → Prop) (start v : V) (l : List V) : Prop where
  head : l.head? = some start
  last : l.getLast? = some v
  chain : l.IsChain E

/-- There is a walk of `n` edges from `start`. -/
inductive Reach (E : V → V → Prop) (start : V) : ℕ → V → Prop
  | start : Reach E start 0 start
  | step {n : ℕ} {a b : V} : Reach E start n a → E a b → Reach E start (n + 1) b

section Walks

variable {E : V → V → Prop} {start a b : V} {l : List V}

lemma isWalk_singleton : IsWalk E start start [start] := ⟨rfl, rfl, List.isChain_singleton start⟩

/-- A walk is continued along an edge. -/
lemma IsWalk.concat (h : IsWalk E start a l) (hab : E a b) : IsWalk E start b (l ++ [b]) where
  head := by rw [List.head?_append, h.head, Option.some_or]
  last := List.getLast?_concat
  chain := by
    refine h.chain.append (List.isChain_singleton b) fun x hx y hy => ?_
    rw [h.last] at hx
    obtain rfl := Option.some.inj hx
    obtain rfl := Option.some.inj hy
    exact hab

/-- A walk of `n` edges has `n + 1` nodes. -/
lemma IsWalk.reach (h : IsWalk E start a l) : ∃ n, l.length = n + 1 ∧ Reach E start n a := by
  induction l using List.reverseRecOn generalizing a with
  | nil => cases h.head
  | append_singleton l b ih =>
    obtain rfl : b = a := Option.some.inj (List.getLast?_concat.symm.trans h.last)
    rcases List.eq_nil_or_concat' l with rfl | ⟨l', c, rfl⟩
    · obtain rfl : b = start := Option.some.inj h.head
      exact ⟨0, rfl, .start⟩
    · obtain ⟨hl, -, hbetween⟩ := List.isChain_append.mp h.chain
      have hhead : (l' ++ [c]).head? = some start := by
        rw [← h.head, List.head?_append_of_ne_nil (l' ++ [c])]
        exact List.concat_ne_nil c l'
      obtain ⟨n, hn, hreach⟩ := ih ⟨hhead, List.getLast?_concat, hl⟩
      refine ⟨n + 1, by rw [List.length_append, hn]; rfl, .step hreach ?_⟩
      exact hbetween c (List.getLast?_concat ▸ rfl) b rfl

/-- What follows on a walk follows by an edge. -/
lemma IsWalk.eq_or_edge (h : IsWalk E start a l) : ∀ x ∈ l, x = start ∨ ∃ c, E c x := by
  have hchain : ∀ l : List V, l.IsChain E → ∀ x ∈ l, l.head? = some x ∨ ∃ c, E c x := by
    intro l hl
    induction l with
    | nil => exact fun x hx => absurd hx List.not_mem_nil
    | cons c l ih =>
      obtain ⟨hnext, hl⟩ := List.isChain_cons.mp hl
      intro x hx
      rcases List.mem_cons.mp hx with rfl | hx
      · exact .inl rfl
      · rcases ih hl x hx with h | h
        · exact .inr ⟨c, hnext x h⟩
        · exact .inr h
  intro x hx
  refine (hchain l h.chain x hx).imp_left fun hx => ?_
  exact Option.some.inj (hx.symm.trans h.head)

end Walks

/-! ## The search -/

/-- **The state of a search.** -/
structure Search (V : Type*) where
  /-- The nodes that are met and not expanded. -/
  openList : List V
  /-- The expanded nodes. -/
  closed : Finset V
  /-- Where the way to a node that is met comes from. -/
  parent : V → Option V
  /-- The length of this way. -/
  g : V → ℕ

namespace Search

/-- A node has been met. -/
def Met (s : Search V) (v : V) : Prop := v ∈ s.closed ∨ v ∈ s.openList

/-- At the start, only the start has been met. -/
def init (start : V) : Search V := ⟨[], {start}, fun _ => none, fun _ => 0⟩

variable [DecidableEq V] (s : Search V) (a b : V)

/-- The way to `b` now comes from `a`. -/
def reparent : Search V :=
  { s with parent := Function.update s.parent b (some a), g := Function.update s.g b (s.g a + 1) }

/-- **An edge of an expanded node** is relaxed: the way along it is taken if it is the first to its
end, or shorter than the way that there was. -/
def relax : Search V :=
  if b ∈ s.closed then s
  else if b ∈ s.openList then if s.g a + 1 < s.g b then s.reparent a b else s
  else { s.reparent a b with openList := s.openList ++ [b] }

@[simp] lemma relax_closed : (s.relax a b).closed = s.closed := by
  rw [relax]
  split_ifs <;> rfl

/-- A node whose edges are all relaxed is closed. -/
def close : Search V :=
  { s with openList := s.openList.erase a, closed := insert a s.closed }

variable {s a b}

lemma mem_close_openList (hnodup : s.openList.Nodup) :
    b ∈ (s.close a).openList ↔ b ≠ a ∧ b ∈ s.openList :=
  hnodup.mem_erase_iff

/-- A node that is closed has been met already. -/
lemma close_met (ha : s.Met a) : (s.close a).Met b ↔ s.Met b := by
  by_cases hb : b = a
  · rw [hb]
    exact iff_of_true (.inl (Finset.mem_insert_self a _)) ha
  · rw [Met, Met]
    refine or_congr ?_ (List.mem_erase_of_ne hb)
    exact Finset.mem_insert.trans (or_iff_right hb)

end Search

/-- **A scan of a list** for an element with the least value. -/
lemma foldl_least {α : Type*} (f : α → ℤ) (l : List α) (a : α) :
    l.foldl (fun a b => if f b < f a then b else a) a ∈ a :: l ∧
      ∀ u ∈ a :: l, f (l.foldl (fun a b => if f b < f a then b else a) a) ≤ f u := by
  induction l generalizing a with
  | nil => exact ⟨List.mem_singleton_self a, fun u hu => List.mem_singleton.mp hu ▸ Int.le_refl _⟩
  | cons b l ih =>
    rw [List.foldl_cons]
    by_cases hlt : f b < f a
    · obtain ⟨hmem, hle⟩ := ih b
      rw [if_pos hlt]
      refine ⟨List.mem_cons_of_mem a hmem, fun u hu => ?_⟩
      rcases List.mem_cons.mp hu with rfl | hu
      · exact (hle b List.mem_cons_self).trans hlt.le
      · exact hle u hu
    · obtain ⟨hmem, hle⟩ := ih a
      rw [if_neg hlt]
      refine ⟨?_, fun u hu => ?_⟩
      · rcases List.mem_cons.mp hmem with h | h
        · rw [h]
          exact List.mem_cons_self
        · exact List.mem_cons_of_mem a (List.mem_cons_of_mem b h)
      · rcases List.mem_cons.mp hu with rfl | hu
        · exact hle u List.mem_cons_self
        · rcases List.mem_cons.mp hu with rfl | hu
          · exact (hle a List.mem_cons_self).trans (Int.not_lt.mp hlt)
          · exact hle u (List.mem_cons_of_mem a hu)

/-! ## The invariant -/

section Invariant

variable (E : V → V → Prop) (start goal : V) (cells : Finset V)

/-- **The invariant of a search** with the settled nodes, whose edges are all relaxed but for the
waived ones. -/
structure Inv (s : Search V) (settled : Finset V) (waived : V → V → Prop) : Prop where
  start_mem : start ∈ s.closed
  start_g : s.g start = 0
  start_parent : s.parent start = none
  closed_subset : s.closed ⊆ settled
  settled_met : ∀ v ∈ settled, s.Met v
  nodup : s.openList.Nodup
  disjoint : ∀ v ∈ s.openList, v ∉ s.closed
  met_mem : ∀ v, s.Met v → v ∈ cells
  goal_free : ¬s.Met goal
  /-- The way to a node comes from a settled node. -/
  tree : ∀ v, s.Met v → v ≠ start →
    ∃ p ∈ settled, s.parent v = some p ∧ E p v ∧ s.g v = s.g p + 1
  /-- No walk to a settled node is shorter than the way to it. -/
  optimal : ∀ v ∈ settled, ∀ n, Reach E start n v → s.g v ≤ n
  covered : ∀ a ∈ settled, ∀ b, E a b → ¬waived a b → s.Met b ∧ (b ∉ s.closed → s.g b ≤ s.g a + 1)
  /-- A way is not longer than there are settled nodes. -/
  depth : ∀ v, s.Met v → s.g v ≤ settled.card

variable {E start goal cells} {h : V → ℕ} {s : Search V} {cur a b v : V} {done : List V} {n : ℕ}

/-- An estimate is consistent if it changes at most by one along an edge. -/
lemma Reach.estimate (hcons : ∀ a b, E a b → h a ≤ h b + 1) (hreach : Reach E start n v) :
    h start ≤ n + h v := by
  induction hreach with
  | start => exact Nat.le_add_left _ _
  | step _ hab ih =>
    have := hcons _ _ hab
    omega

/-- **Every walk out of the closed nodes passes the open list**, at a node for which the way and the
estimate together are no longer than the walk and the estimate at its end. -/
theorem Inv.frontier (hinv : Inv E start goal cells s s.closed fun _ _ => False)
    (hcons : ∀ a b, E a b → h a ≤ h b + 1) (hreach : Reach E start n v) :
    v ∈ s.closed ∨ ∃ u ∈ s.openList, s.g u + h u ≤ n + h v := by
  induction hreach with
  | start => exact .inl hinv.start_mem
  | @step n a b hreach hab ih =>
    rcases ih with ha | ⟨u, hu, hle⟩
    · -- the edge from a closed node is relaxed
      obtain ⟨hmet, hg⟩ := hinv.covered a ha b hab id
      rcases hmet with hb | hb
      · exact .inl hb
      · have hga := hinv.optimal a ha n hreach
        have hgb := hg (hinv.disjoint b hb)
        exact .inr ⟨b, hb, by omega⟩
    · have := hcons a b hab
      exact .inr ⟨u, hu, by omega⟩

/-- **When the open list is empty** no walk leads to the goal. -/
theorem Inv.not_isWalk (hinv : Inv E start goal cells s s.closed fun _ _ => False)
    (hopen : s.openList = []) (l : List V) : ¬IsWalk E start goal l := by
  intro hl
  obtain ⟨n, -, hreach⟩ := hl.reach
  rcases hinv.frontier (h := fun _ => 0) (fun _ _ _ => Nat.zero_le _) hreach with hgoal | ⟨u, hu, -⟩
  · exact hinv.goal_free (.inl hgoal)
  · rw [hopen] at hu
    exact List.not_mem_nil hu

/-! ### The changes of a search -/

variable [DecidableEq V]

variable (E start goal h cells) in
/-- **A node is being expanded**: its edges to `done` are relaxed. -/
structure Expanding (s : Search V) (cur : V) (done : List V) : Prop where
  inv : Inv E start goal cells s (insert cur s.closed) fun a b => a = cur ∧ b ∉ done
  room : s.g cur + 1 ≤ (insert cur s.closed).card
  /-- No walk to the goal is shorter than what is estimated for this node. -/
  least : ∀ n, Reach E start n goal → s.g cur + h cur ≤ n

/-- A search starts with the expansion of the start. -/
lemma expanding_init (hne : goal ≠ start) (hmem : start ∈ cells)
    (hcons : ∀ a b, E a b → h a ≤ h b + 1) (hgoal : h goal = 0) :
    Expanding E start goal cells h (Search.init start) start [] := by
  have hmet : ∀ v, (Search.init start).Met v ↔ v = start := fun v => by
    simp [Search.Met, Search.init]
  have hsettled : insert start (Search.init start).closed = {start} :=
    Finset.insert_eq_of_mem (Finset.mem_singleton_self start)
  constructor
  · rw [hsettled]
    constructor
    · exact Finset.mem_singleton_self start
    · rfl
    · rfl
    · exact Finset.Subset.refl _
    · exact fun v hv => (hmet v).mpr (Finset.mem_singleton.mp hv)
    · exact List.nodup_nil
    · exact fun v hv => absurd hv List.not_mem_nil
    · exact fun v hv => (hmet v).mp hv ▸ hmem
    · exact fun hv => hne ((hmet goal).mp hv)
    · exact fun v hv hstart => absurd ((hmet v).mp hv) hstart
    · exact fun v _ n _ => Nat.zero_le n
    · exact fun a ha b _ hw => absurd ⟨Finset.mem_singleton.mp ha, List.not_mem_nil⟩ hw
    · exact fun v _ => Nat.zero_le _
  · rw [hsettled, Finset.card_singleton]
    exact Nat.le_refl 1
  · intro n hreach
    have := hreach.estimate hcons
    rw [hgoal] at this
    exact (Nat.zero_add _).trans_le this

/-- **A node of the open list for which the estimate is least** is expanded. -/
theorem Inv.choose (hinv : Inv E start goal cells s s.closed fun _ _ => False)
    (hcons : ∀ a b, E a b → h a ≤ h b + 1) (hgoal : h goal = 0) (hmem : a ∈ s.openList)
    (hleast : ∀ u ∈ s.openList, s.g a + h a ≤ s.g u + h u) :
    Expanding E start goal cells h s a [] := by
  have hclosed : a ∉ s.closed := hinv.disjoint a hmem
  have hcard : (insert a s.closed).card = s.closed.card + 1 := Finset.card_insert_of_notMem hclosed
  refine ⟨{ hinv with
    closed_subset := Finset.subset_insert a _
    settled_met := ?_
    tree := ?_
    optimal := ?_
    covered := ?_
    depth := ?_ }, ?_, ?_⟩
  · intro v hv
    rcases Finset.mem_insert.mp hv with rfl | hv
    · exact .inr hmem
    · exact .inl hv
  · intro v hv hne
    obtain ⟨p, hp, htree⟩ := hinv.tree v hv hne
    exact ⟨p, Finset.mem_insert_of_mem hp, htree⟩
  · intro v hv n hreach
    rcases Finset.mem_insert.mp hv with rfl | hv
    · rcases hinv.frontier hcons hreach with hv | ⟨u, hu, hle⟩
      · exact absurd hv hclosed
      · have := hleast u hu
        omega
    · exact hinv.optimal v hv n hreach
  · intro c hc b hcb hw
    rcases Finset.mem_insert.mp hc with rfl | hc
    · exact absurd ⟨rfl, List.not_mem_nil⟩ hw
    · exact hinv.covered c hc b hcb id
  · intro v hv
    have := hinv.depth v hv
    omega
  · have := hinv.depth a (.inr hmem)
    omega
  · intro n hreach
    rcases hinv.frontier hcons hreach with hv | ⟨u, hu, hle⟩
    · exact absurd (.inl hv) hinv.goal_free
    · have := hleast u hu
      omega

/-- A node that is met on a way of at most the length that there was. -/
lemma Expanding.reparent (hexp : Expanding E start goal cells h s cur done) (hcur : E cur b)
    (hgoal : b ≠ goal) (hmem : b ∈ cells) (hb : b ∉ insert cur s.closed)
    (hle : s.Met b → s.g cur + 1 ≤ s.g b) {l : List V} (hl : l.Nodup)
    (hiff : ∀ v, v ∈ l ↔ v ∈ s.openList ∨ v = b) :
    Expanding E start goal cells h { s.reparent cur b with openList := l } cur (done ++ [b]) := by
  obtain ⟨hinv, hroom, hleast⟩ := hexp
  have hsettled : ∀ v ∈ insert cur s.closed, v ≠ b := by
    rintro v hv rfl
    exact hb hv
  have hstart : start ≠ b := hsettled start (Finset.mem_insert_of_mem hinv.start_mem)
  have hcurb : cur ≠ b := hsettled cur (Finset.mem_insert_self cur _)
  have hclosed : b ∉ s.closed := fun h => hb (Finset.mem_insert_of_mem h)
  have hmet : ∀ v,
      ({ s.reparent cur b with openList := l } : Search V).Met v ↔ s.Met v ∨ v = b := by
    intro v
    rw [Search.Met, Search.Met, or_assoc]
    exact or_congr Iff.rfl (hiff v)
  have hg : ∀ v, v ≠ b → ({ s.reparent cur b with openList := l } : Search V).g v = s.g v :=
    fun v hv => Function.update_of_ne hv _ _
  have hgb : ({ s.reparent cur b with openList := l } : Search V).g b = s.g cur + 1 :=
    Function.update_self _ _ _
  refine ⟨{
    start_mem := hinv.start_mem
    start_g := (hg start hstart).trans hinv.start_g
    start_parent := (Function.update_of_ne hstart _ _).trans hinv.start_parent
    closed_subset := hinv.closed_subset
    settled_met := fun v hv => (hmet v).mpr (.inl (hinv.settled_met v hv))
    nodup := hl
    disjoint := ?_
    met_mem := ?_
    goal_free := ?_
    tree := ?_
    optimal := fun v hv n hreach => (hg v (hsettled v hv)).trans_le (hinv.optimal v hv n hreach)
    covered := ?_
    depth := ?_ }, ?_, ?_⟩
  · intro v hv
    rcases (hiff v).mp hv with hv | rfl
    · exact hinv.disjoint v hv
    · exact hclosed
  · intro v hv
    rcases (hmet v).mp hv with hv | rfl
    · exact hinv.met_mem v hv
    · exact hmem
  · intro hv
    rcases (hmet goal).mp hv with hv | hv
    · exact hinv.goal_free hv
    · exact hgoal hv.symm
  · intro v hv hne
    by_cases hvb : v = b
    · subst hvb
      refine ⟨cur, Finset.mem_insert_self cur _, Function.update_self _ _ _, hcur, ?_⟩
      rw [hgb, hg cur hcurb]
    · obtain ⟨p, hp, hparent, hedge, hlength⟩ :=
        hinv.tree v (((hmet v).mp hv).resolve_right hvb) hne
      refine ⟨p, hp, (Function.update_of_ne hvb _ _).trans hparent, hedge, ?_⟩
      rw [hg v hvb, hg p (hsettled p hp), hlength]
  · intro a ha c hac hw
    by_cases hcb : c = b
    · subst hcb
      refine ⟨(hmet c).mpr (.inr rfl), fun _ => ?_⟩
      rw [hgb, hg a (hsettled a ha)]
      by_cases hacur : a = cur
      · rw [hacur]
      · -- an edge that was relaxed before
        obtain ⟨hold, hgc⟩ := hinv.covered a ha c hac fun h => hacur h.1
        exact (hle hold).trans (hgc hclosed)
    · obtain ⟨hold, hgc⟩ := hinv.covered a ha c hac fun ⟨h1, h2⟩ =>
        hw ⟨h1, fun h => (List.mem_append.mp h).elim h2 fun h => hcb (List.mem_singleton.mp h)⟩
      refine ⟨(hmet c).mpr (.inl hold), fun hc => ?_⟩
      rw [hg c hcb, hg a (hsettled a ha)]
      exact hgc hc
  · intro v hv
    by_cases hvb : v = b
    · rw [hvb, hgb]
      exact hroom
    · rw [hg v hvb]
      exact hinv.depth v (((hmet v).mp hv).resolve_right hvb)
  · rw [hg cur hcurb]
    exact hroom
  · intro n hreach
    rw [hg cur hcurb]
    exact hleast n hreach

/-- An edge whose end needs no change. -/
lemma Expanding.skip (hexp : Expanding E start goal cells h s cur done) (hmet : s.Met b)
    (hle : b ∉ s.closed → s.g b ≤ s.g cur + 1) :
    Expanding E start goal cells h s cur (done ++ [b]) := by
  refine ⟨{ hexp.inv with covered := ?_ }, hexp.room, hexp.least⟩
  intro a ha c hac hw
  by_cases hcb : a = cur ∧ c = b
  · obtain ⟨rfl, rfl⟩ := hcb
    exact ⟨hmet, hle⟩
  · refine hexp.inv.covered a ha c hac fun ⟨h1, h2⟩ => hw ⟨h1, fun h => ?_⟩
    rcases List.mem_append.mp h with h | h
    · exact h2 h
    · exact hcb ⟨h1, List.mem_singleton.mp h⟩

/-- **An edge is relaxed.** -/
theorem Expanding.relax (hexp : Expanding E start goal cells h s cur done) (hcur : E cur b)
    (hgoal : b ≠ goal) (hmem : b ∈ cells) :
    Expanding E start goal cells h (s.relax cur b) cur (done ++ [b]) := by
  have hinv := hexp.inv
  rw [Search.relax]
  split_ifs with hclosed hopen hlt
  · exact hexp.skip (.inl hclosed) fun h => absurd hclosed h
  · -- a shorter way to a node of the open list
    have hb : b ∉ insert cur s.closed := by
      rw [Finset.mem_insert]
      rintro (rfl | h)
      · omega
      · exact hclosed h
    refine hexp.reparent hcur hgoal hmem hb (fun _ => hlt.le) hinv.nodup fun v => ?_
    exact (or_iff_left_of_imp fun h => h ▸ hopen).symm
  · exact hexp.skip (.inr hopen) fun _ => Nat.le_of_not_lt hlt
  · -- a new node
    have hfree : ¬s.Met b := fun h => h.elim hclosed hopen
    have hb : b ∉ insert cur s.closed := fun h => hfree (hinv.settled_met b h)
    refine hexp.reparent hcur hgoal hmem hb (fun h => absurd h hfree) ?_ fun v => ?_
    · exact List.nodup_append.mpr ⟨hinv.nodup, List.nodup_singleton b,
        fun x hx y hy hxy => hopen (List.mem_singleton.mp hy ▸ hxy ▸ hx)⟩
    · rw [List.mem_append, List.mem_singleton]

/-- **A node is closed** when all its edges are relaxed. -/
theorem Expanding.close (hexp : Expanding E start goal cells h s cur done)
    (hdone : ∀ b, E cur b → b ∈ done) :
    Inv E start goal cells (s.close cur) (s.close cur).closed fun _ _ => False := by
  have hinv := hexp.inv
  have hmet : ∀ v, (s.close cur).Met v ↔ s.Met v := fun v =>
    Search.close_met (hinv.settled_met cur (Finset.mem_insert_self cur _))
  exact {
    start_mem := Finset.mem_insert_of_mem hinv.start_mem
    start_g := hinv.start_g
    start_parent := hinv.start_parent
    closed_subset := Finset.Subset.refl _
    settled_met := fun v hv => (hmet v).mpr (hinv.settled_met v hv)
    nodup := hinv.nodup.erase cur
    disjoint := fun v hv hclosed => by
      obtain ⟨hne, hv⟩ := hinv.nodup.mem_erase_iff.mp hv
      rcases Finset.mem_insert.mp hclosed with h | h
      · exact hne h
      · exact hinv.disjoint v hv h
    met_mem := fun v hv => hinv.met_mem v ((hmet v).mp hv)
    goal_free := fun hv => hinv.goal_free ((hmet goal).mp hv)
    tree := fun v hv => hinv.tree v ((hmet v).mp hv)
    optimal := hinv.optimal
    covered := fun a ha b hab _ => by
      obtain ⟨hb, hg⟩ := hinv.covered a ha b hab fun ⟨h1, h2⟩ => h2 (hdone b (h1 ▸ hab))
      exact ⟨(hmet b).mpr hb, fun h => hg fun hb => h (Finset.mem_insert_of_mem hb)⟩
    depth := fun v hv => hinv.depth v ((hmet v).mp hv) }

/-! ### The way to the goal -/

/-- The nodes on the way to `v`, from its parent back to the start. -/
inductive Chain (parent : V → Option V) : V → List V → Prop
  | start {v : V} : parent v = none → Chain parent v []
  | step {v p : V} {l : List V} : parent v = some p → Chain parent p l → Chain parent v (p :: l)

omit [DecidableEq V] in
/-- A way is not changed by a node that is not on it. -/
lemma Chain.congr {parent parent' : V → Option V} {l : List V} (hchain : Chain parent v l)
    (hv : parent' v = parent v) (hl : ∀ x ∈ l, parent' x = parent x) : Chain parent' v l := by
  induction hchain with
  | start hnone => exact .start (hv.trans hnone)
  | step hparent hchain ih =>
    refine .step (hv.trans hparent) (ih (hl _ List.mem_cons_self) fun x hx => ?_)
    exact hl x (List.mem_cons_of_mem _ hx)

/-- Every node that is met has a way, on which all nodes are met. -/
lemma Expanding.exists_chain (hexp : Expanding E start goal cells h s cur done) (hv : s.Met v) :
    ∃ l, Chain s.parent v l ∧ l.length = s.g v ∧ IsWalk E start v (v :: l).reverse ∧
      ∀ x ∈ l, s.Met x := by
  have hinv := hexp.inv
  induction hlength : s.g v generalizing v with
  | zero =>
    by_cases hstart : v = start
    · rw [hstart]
      exact ⟨[], .start hinv.start_parent, rfl, isWalk_singleton,
        fun x hx => absurd hx List.not_mem_nil⟩
    · obtain ⟨p, -, -, -, hg⟩ := hinv.tree v hv hstart
      omega
  | succ n ih =>
    have hstart : v ≠ start := by
      rintro rfl
      rw [hinv.start_g] at hlength
      cases hlength
    obtain ⟨p, hp, hparent, hedge, hg⟩ := hinv.tree v hv hstart
    have hmet : s.Met p := hinv.settled_met p hp
    obtain ⟨l, hchain, hl, hwalk, hall⟩ := ih hmet (by omega)
    refine ⟨p :: l, .step hparent hchain, by rw [List.length_cons, hl], ?_, ?_⟩
    · rw [List.reverse_cons]
      exact hwalk.concat hedge
    · exact fun x hx => (List.mem_cons.mp hx).elim (fun h => h ▸ hmet) (hall x)

/-- **The way to the goal is a shortest walk**, if the estimate next to the goal is not too small:
it is known when the goal is met. -/
theorem Expanding.shortest (hexp : Expanding E start goal cells h s cur done)
    (hgoal : E cur goal) (hnext : 1 ≤ h cur) :
    ∃ l, Chain (s.relax cur goal).parent goal l ∧ IsWalk E start goal (goal :: l).reverse ∧
      (∀ w, IsWalk E start goal w → (goal :: l).length ≤ w.length) ∧ l.length ≤ cells.card := by
  have hcur : s.Met cur := hexp.inv.settled_met cur (Finset.mem_insert_self cur _)
  have hfree := hexp.inv.goal_free
  have hparent : (s.relax cur goal).parent = Function.update s.parent goal (some cur) := by
    rw [Search.relax, if_neg fun h => hfree (.inl h), if_neg fun h => hfree (.inr h)]
    rfl
  have hne : ∀ x, s.Met x → x ≠ goal := by
    rintro x hx rfl
    exact hfree hx
  obtain ⟨l, hchain, hl, hwalk, hall⟩ := hexp.exists_chain hcur
  refine ⟨cur :: l, ?_, ?_, fun w hw => ?_, ?_⟩
  · rw [hparent]
    refine .step (Function.update_self _ _ _) (hchain.congr ?_ fun x hx => ?_)
    · exact Function.update_of_ne (hne cur hcur) _ _
    · exact Function.update_of_ne (hne x (hall x hx)) _ _
  · rw [List.reverse_cons]
    exact hwalk.concat hgoal
  · obtain ⟨n, hn, hreach⟩ := hw.reach
    have := hexp.least n hreach
    rw [List.length_cons, List.length_cons, hl, hn]
    omega
  · have hcard : (insert cur s.closed).card ≤ cells.card :=
      Finset.card_le_card fun v hv => hexp.inv.met_mem v (hexp.inv.settled_met v hv)
    rw [List.length_cons, hl]
    exact hexp.room.trans hcard

end Invariant

end BestFirst
