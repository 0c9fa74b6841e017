import SrgpGame.Fight.AStar
import SrgpGame.Lib.BestFirst
import Mathlib.Data.Int.Interval
import Mathlib.Data.Finset.Prod
import Mathlib.Tactic.Linarith

set_option autoImplicit false

/-!
# Shortest paths

The path finder is a best-first search with the distance in rows and columns as its estimate. On a
grid with fewer than `2 ^ 23` nodes its numbers are exact, so that it finds a shortest path
wherever there is one.

## Main definitions

* `Adjacent`, `AStar.Step` — the steps of a walk on a grid.
* `Mirrors` — a path finder is in the state of a best-first search.

## Main results

* `Mirrors.visit`, `Mirrors.visitAll`, `Mirrors.searchLoop` — the loops of a search make the
  changes of a best-first search.
* `pathSearch_shortest` — what is found is a shortest path, and nothing only if there is none.
-/

namespace SrgpGame.Fight

open BestFirst

/-! ## The grid -/

/-- Two nodes are neighbours. -/
def Adjacent (a b : Cell) : Prop := (a.1 - b.1).natAbs + (a.2 - b.2).natAbs = 1

/-- The distance in rows and columns. -/
def manhattan (goal a : Cell) : ℕ := (goal.1 - a.1).natAbs + (goal.2 - a.2).natAbs

/-- The coordinates of a node are exact, even with a half added. -/
def Exact (a : Cell) : Prop := a.1.natAbs < 2 ^ 23 ∧ a.2.natAbs < 2 ^ 23

namespace AStar

variable (aStar : AStar) {a b : Cell}

/-- A search can walk on a node: a mark of an earlier search does not count. -/
def walkable (c : Cell) : Bool := (aStar.posXYNodeDict c).init.nodeType = .movable

/-- **A step** from a node to a neighbour on which one can walk. -/
def Step (a b : Cell) : Prop := Adjacent a b ∧ aStar.contains b ∧ aStar.walkable b

/-- The nodes of the grid. -/
def cells : Finset Cell :=
  @Finset.Ico ℤ _ Int.instLocallyFiniteOrder 0 aStar.mapHeight ×ˢ
    @Finset.Ico ℤ _ Int.instLocallyFiniteOrder 0 aStar.mapLength

variable {aStar}

lemma contains_iff {c : Cell} : aStar.contains c ↔
    (0 ≤ c.1 ∧ c.1 < aStar.mapHeight) ∧ 0 ≤ c.2 ∧ c.2 < aStar.mapLength := by
  simp [contains]

lemma mem_cells {c : Cell} : c ∈ aStar.cells ↔ aStar.contains c := by
  rw [cells, Finset.mem_product, Finset.mem_Ico, Finset.mem_Ico, contains_iff]

lemma card_cells : aStar.cells.card = aStar.mapHeight.toNat * aStar.mapLength.toNat := by
  rw [cells, Finset.card_product, Int.card_Ico, Int.card_Ico, sub_zero, sub_zero]

lemma mem_neighbourNodes : b ∈ aStar.neighbourNodes a ↔ aStar.contains b ∧ Adjacent a b := by
  rw [neighbourNodes, List.mem_filter, and_comm]
  refine and_congr_right fun _ => ?_
  obtain ⟨i, j⟩ := b
  simp only [List.mem_cons, List.not_mem_nil, or_false, Prod.mk.injEq, Adjacent]
  omega

/-- The estimate changes at most by one with a step. -/
lemma Step.manhattan_le {goal : Cell} (h : aStar.Step a b) :
    manhattan goal a ≤ manhattan goal b + 1 := by
  have := h.1
  unfold Adjacent at this
  unfold manhattan
  omega

/-- The coordinates of a grid that is not too large are exact, and so is every distance in it. -/
lemma contains_bound (hsize : aStar.mapHeight * aStar.mapLength < 2 ^ 23)
    (ha : aStar.contains a) (hb : aStar.contains b) : Exact a ∧ manhattan b a < 2 ^ 23 := by
  obtain ⟨⟨h1, h2⟩, h3, h4⟩ := contains_iff.mp ha
  obtain ⟨⟨h5, h6⟩, h7, h8⟩ := contains_iff.mp hb
  have hsum : aStar.mapHeight + aStar.mapLength ≤ aStar.mapHeight * aStar.mapLength + 1 := by
    nlinarith
  unfold Exact manhattan
  omega

lemma card_cells_lt (hsize : aStar.mapHeight * aStar.mapLength < 2 ^ 23)
    (ha : aStar.contains a) : aStar.cells.card < 2 ^ 23 := by
  obtain ⟨⟨h1, h2⟩, h3, h4⟩ := contains_iff.mp ha
  rw [card_cells]
  zify
  rw [Int.toNat_of_nonneg (by omega), Int.toNat_of_nonneg (by omega)]
  exact hsize

end AStar

/-! ## The numbers -/

section Numbers

variable {a b : Cell}

/-- Differences of exact coordinates are exact. -/
lemma sub_eq {x y : ℤ} (hlt : (x - y).natAbs < 2 ^ 24) :
    Single.sub (2 * x) (2 * y) = 2 * (x - y) := by
  rw [Single.sub, ← mul_sub, Single.round_two_mul hlt]

lemma ofCell_eq (ha : Exact a) : Vector2.ofCell a = ⟨2 * a.1, 2 * a.2⟩ := by
  unfold Exact at ha
  rw [Vector2.ofCell, Single.ofInt, Single.ofInt, Single.round_two_mul (by omega),
    Single.round_two_mul (by omega)]

/-- The position of a node leads back to it. -/
lemma toCell_ofCell (ha : Exact a) : (Vector2.ofCell a).toCell = a := by
  unfold Exact at ha
  rw [Vector2.toCell, Vector2.ofCell, Single.toInt_ofInt (by omega), Single.toInt_ofInt (by omega)]

/-- The length of a step. -/
lemma distance_eq (ha : Exact a) (hb : Exact b) (h : Adjacent a b) :
    Single.round (Vector2.distance (Vector2.ofCell a) (Vector2.ofCell b)) = 2 := by
  have hdistance : Vector2.distance (Vector2.ofCell a) (Vector2.ofCell b) = 2 := by
    rw [ofCell_eq ha, ofCell_eq hb, Vector2.distance]
    unfold Exact Adjacent at *
    simp only
    rw [sub_eq (by omega), sub_eq (by omega), Int.natAbs_mul, Int.natAbs_mul]
    have hcases : (a.1 - b.1).natAbs = 0 ∧ (a.2 - b.2).natAbs = 1 ∨
        (a.1 - b.1).natAbs = 1 ∧ (a.2 - b.2).natAbs = 0 := by omega
    have hsqrt : (Nat.sqrt (2 ^ 2) : ℤ) = 2 := congrArg Nat.cast (Nat.sqrt_eq' 2)
    rcases hcases with ⟨h1, h2⟩ | ⟨h1, h2⟩
    · rw [h1, h2]
      exact hsqrt
    · rw [h1, h2]
      exact hsqrt
  rw [hdistance]
  decide

/-- The estimate is the distance in rows and columns. -/
lemma estimate_eq {aStar : AStar} (hend : aStar.globalEndPos = Vector2.ofCell b)
    (ha : Exact a) (hb : Exact b) (hlt : manhattan b a < 2 ^ 23) :
    aStar.estimate a = 2 * manhattan b a := by
  rw [AStar.estimate, hend, ofCell_eq ha, ofCell_eq hb]
  unfold Exact at ha hb
  simp only
  rw [sub_eq (by omega), sub_eq (by omega), abs_mul, abs_mul, Single.add, abs_two, ← mul_add,
    Int.abs_eq_natAbs, Int.abs_eq_natAbs]
  unfold manhattan at *
  rw [Single.round_two_mul (by omega)]
  push_cast
  rfl

end Numbers

/-! ## The search as a best-first search -/

/-- **A path finder is in the state of a best-first search** for `goal`, on the grid that it had
before. -/
structure Mirrors (grid : AStar) (goal : Cell) (aStar : AStar) (s : Search Cell) : Prop where
  mapHeight : aStar.mapHeight = grid.mapHeight
  mapLength : aStar.mapLength = grid.mapLength
  globalEndPos : aStar.globalEndPos = Vector2.ofCell goal
  nodeType : ∀ v, (aStar.posXYNodeDict v).nodeType = (grid.posXYNodeDict v).init.nodeType
  openList : aStar.openList = s.openList
  isInOpenList : ∀ v, (aStar.posXYNodeDict v).aStarState = .isInOpenList ↔ v ∈ s.openList
  isInCloseList : ∀ v, (aStar.posXYNodeDict v).aStarState = .isInCloseList ↔ v ∈ s.closed
  parentNode : ∀ v, (aStar.posXYNodeDict v).parentNode = s.parent v
  numbers : ∀ v, s.Met v → (aStar.posXYNodeDict v).G = 2 * s.g v ∧
    (aStar.posXYNodeDict v).H = 2 * manhattan goal v ∧
    (aStar.posXYNodeDict v).F = 2 * (s.g v + manhattan goal v : ℕ)

section Mirrors

variable {grid aStar : AStar} {start goal A B : Cell} {s : Search Cell} {done : List Cell}

lemma Mirrors.neighbourNodes (hm : Mirrors grid goal aStar s) (c : Cell) :
    aStar.neighbourNodes c = grid.neighbourNodes c := by
  rw [AStar.neighbourNodes, AStar.neighbourNodes]
  refine List.filter_congr fun b _ => ?_
  rw [AStar.contains, AStar.contains, hm.mapHeight, hm.mapLength]

/-- A node of the open list, or a new one, with the numbers of a way. -/
lemma Mirrors.reparent (hm : Mirrors grid goal aStar s) (hB : B ∉ s.closed) {l l' : List Cell}
    (hll : l = l') (hl : ∀ v, v ∈ l' ↔ v ∈ s.openList ∨ v = B) {f : Node → Node}
    (htype : (f (aStar.posXYNodeDict B)).nodeType = (aStar.posXYNodeDict B).nodeType)
    (hstate : (f (aStar.posXYNodeDict B)).aStarState = .isInOpenList)
    (hparent : (f (aStar.posXYNodeDict B)).parentNode = some A)
    (hG : (f (aStar.posXYNodeDict B)).G = 2 * (s.g A + 1 : ℕ))
    (hH : (f (aStar.posXYNodeDict B)).H = 2 * manhattan goal B)
    (hF : (f (aStar.posXYNodeDict B)).F = 2 * (s.g A + 1 + manhattan goal B : ℕ)) :
    Mirrors grid goal { aStar.modify B f with openList := l }
      { s.reparent A B with openList := l' } where
  mapHeight := hm.mapHeight
  mapLength := hm.mapLength
  globalEndPos := hm.globalEndPos
  nodeType v := by
    simp only [AStar.modify, Function.update_apply]
    split_ifs with h
    · rw [h, htype]
      exact hm.nodeType B
    · exact hm.nodeType v
  openList := hll
  isInOpenList v := by
    simp only [AStar.modify, Function.update_apply]
    split_ifs with h
    · exact iff_of_true hstate ((hl v).mpr (.inr h))
    · exact (hm.isInOpenList v).trans ((or_iff_left h).symm.trans (hl v).symm)
  isInCloseList v := by
    simp only [AStar.modify, Function.update_apply]
    split_ifs with h
    · refine iff_of_false (fun h' => ?_) (h ▸ hB)
      rw [hstate] at h'
      cases h'
    · exact hm.isInCloseList v
  parentNode v := by
    simp only [AStar.modify, Search.reparent, Function.update_apply]
    split_ifs
    · exact hparent
    · exact hm.parentNode v
  numbers v hv := by
    simp only [AStar.modify, Search.reparent, Function.update_apply]
    split_ifs with h
    · subst h
      exact ⟨hG, hH, hF⟩
    · refine hm.numbers v (hv.imp id fun hv => ?_)
      exact ((hl v).mp hv).resolve_right h

/-- What a search on a grid that is not too large does not leave. -/
structure OnGrid (grid : AStar) (start goal : Cell) : Prop where
  size : grid.mapHeight * grid.mapLength < 2 ^ 23
  start_mem : grid.contains start
  goal_mem : grid.contains goal

/-- The search for a goal expands a node. -/
abbrev Expands (grid : AStar) (start goal : Cell) : Search Cell → Cell → List Cell → Prop :=
  Expanding grid.Step start goal grid.cells (manhattan goal)

/-- Nothing is done with a neighbour on which one cannot walk. -/
lemma Mirrors.visit_wall (hm : Mirrors grid goal aStar s) (hB : grid.contains B)
    (hadj : Adjacent A B) (hstep : ¬grid.Step A B) : aStar.visit A B = (aStar, false) := by
  have htype : (aStar.posXYNodeDict B).nodeType ≠ .movable := by
    intro h
    rw [hm.nodeType B] at h
    exact hstep ⟨hadj, hB, decide_eq_true h⟩
  rw [AStar.visit]
  simp only [if_pos htype]

/-- **An edge of the search** is relaxed; the goal is met with the edge to it. -/
theorem Mirrors.visit (hm : Mirrors grid goal aStar s) (hgrid : OnGrid grid start goal)
    (hexp : Expands grid start goal s A done) (hstep : grid.Step A B) :
    ∃ aStar', aStar.visit A B = (aStar', decide (B = goal)) ∧
      Mirrors grid goal aStar' (s.relax A B) := by
  obtain ⟨hadj, hB, hwalk⟩ := hstep
  have hinv := hexp.inv
  have hmetA : s.Met A := hinv.settled_met A (Finset.mem_insert_self A _)
  have hA : grid.contains A := AStar.mem_cells.mp (hinv.met_mem A hmetA)
  obtain ⟨hexactA, -⟩ := AStar.contains_bound hgrid.size hA hgrid.goal_mem
  obtain ⟨hexactB, hfar⟩ := AStar.contains_bound hgrid.size hB hgrid.goal_mem
  obtain ⟨hexactG, -⟩ := AStar.contains_bound hgrid.size hgrid.goal_mem hgrid.goal_mem
  -- the numbers of the way over `A`
  have hroom : s.g A + 1 < 2 ^ 23 := by
    have hcard : (insert A s.closed).card ≤ grid.cells.card :=
      Finset.card_le_card fun v hv => hinv.met_mem v (hinv.settled_met v hv)
    have := AStar.card_cells_lt hgrid.size hA
    have := hexp.room
    omega
  obtain ⟨hGA, -, -⟩ := hm.numbers A hmetA
  have hcurG := distance_eq hexactA hexactB hadj
  have hG : Single.add 2 (aStar.posXYNodeDict A).G = 2 * (s.g A + 1 : ℕ) := by
    have hsum : (2 + 2 * s.g A : ℤ) = 2 * (s.g A + 1 : ℕ) := by omega
    rw [hGA, Single.add, hsum, Single.round_two_mul (by omega)]
  have hF : Single.add (2 * (s.g A + 1 : ℕ)) (2 * manhattan goal B) =
      2 * (s.g A + 1 + manhattan goal B : ℕ) := by
    rw [Single.add, ← mul_add, ← Nat.cast_add, Single.round_two_mul (by omega)]
  have hH : aStar.estimate B = 2 * manhattan goal B :=
    estimate_eq hm.globalEndPos hexactB hexactG hfar
  have htype : (aStar.posXYNodeDict B).nodeType = .movable := by
    rw [hm.nodeType B]
    exact of_decide_eq_true hwalk
  have hne : s.Met B → B ≠ goal := by
    rintro hmet rfl
    exact hinv.goal_free hmet
  rw [AStar.visit, Search.relax]
  simp only [htype, ne_eq, not_true_eq_false, if_false, hcurG, hG]
  cases hstate : (aStar.posXYNodeDict B).aStarState with
  | isInCloseList =>
    have hclosed : B ∈ s.closed := (hm.isInCloseList B).mp hstate
    simp only [if_pos hclosed, decide_eq_false (hne (.inl hclosed))]
    exact ⟨aStar, rfl, hm⟩
  | isInOpenList =>
    have hopen : B ∈ s.openList := (hm.isInOpenList B).mp hstate
    have hclosed : B ∉ s.closed := hinv.disjoint B hopen
    obtain ⟨hGB, hHB, -⟩ := hm.numbers B (.inr hopen)
    have hlt : (2 * (s.g A + 1 : ℕ) : ℤ) < (aStar.posXYNodeDict B).G ↔ s.g A + 1 < s.g B := by
      rw [hGB]
      omega
    simp only [if_neg hclosed, if_pos hopen, hlt, decide_eq_false (hne (.inr hopen))]
    split_ifs
    · have hmirrors : Mirrors grid goal
          { aStar.modify B (Node.reparent A (2 * (s.g A + 1 : ℕ))) with
            openList := aStar.openList }
          { s.reparent A B with openList := s.openList } := by
        refine hm.reparent hclosed hm.openList (fun v => ?_) rfl hstate rfl rfl hHB ?_
        · exact (or_iff_left_of_imp fun h => h ▸ hopen).symm
        · simp only [Node.reparent, hHB]
          exact hF
      exact ⟨_, rfl, hmirrors⟩
    · exact ⟨aStar, rfl, hm⟩
  | free =>
    have hfree : ¬s.Met B := by
      rintro (h | h)
      · rw [(hm.isInCloseList B).mpr h] at hstate
        cases hstate
      · rw [(hm.isInOpenList B).mpr h] at hstate
        cases hstate
    have hzero : (2 * manhattan goal B : ℤ) ≤ 0 ↔ B = goal := by
      rw [Prod.ext_iff]
      unfold manhattan
      omega
    simp only [if_neg fun h => hfree (.inl h), if_neg fun h => hfree (.inr h), hH, hzero]
    refine ⟨_, rfl, hm.reparent (fun h => hfree (.inl h)) ?_ (fun v => ?_) rfl rfl rfl rfl rfl hF⟩
    · exact congrArg (· ++ [B]) hm.openList
    · rw [List.mem_append, List.mem_singleton]

/-- **The neighbours of a node** are relaxed one after the other, until the goal is met. -/
theorem Mirrors.visitAll (hm : Mirrors grid goal aStar s) (hgrid : OnGrid grid start goal)
    (hexp : Expands grid start goal s A done) {rest : List Cell}
    (hrest : ∀ B ∈ rest, B ∈ grid.neighbourNodes A) :
    (∃ aStar' s' done', AStar.visitAll A rest aStar = (aStar', none) ∧
      Mirrors grid goal aStar' s' ∧ Expands grid start goal s' A done' ∧ s'.closed = s.closed ∧
      ∀ B, B ∈ done ∨ B ∈ rest ∧ grid.Step A B → B ∈ done') ∨
    ∃ aStar' s' done', AStar.visitAll A rest aStar = (aStar', some goal) ∧
      Expands grid start goal s' A done' ∧ grid.Step A goal ∧
      Mirrors grid goal aStar' (s'.relax A goal) := by
  induction rest generalizing aStar s done with
  | nil => exact .inl ⟨aStar, s, done, rfl, hm, hexp, rfl, fun B hB => hB.elim id fun h =>
      absurd h.1 List.not_mem_nil⟩
  | cons B rest ih =>
    obtain ⟨hB, hadj⟩ := AStar.mem_neighbourNodes.mp (hrest B List.mem_cons_self)
    have hrest' : ∀ C ∈ rest, C ∈ grid.neighbourNodes A :=
      fun C hC => hrest C (List.mem_cons_of_mem _ hC)
    by_cases hstep : grid.Step A B
    · obtain ⟨aStar', hvisit, hm'⟩ := hm.visit hgrid hexp hstep
      by_cases hgoal : B = goal
      · -- the goal is met
        refine .inr ⟨aStar', s, done, ?_, hexp, hgoal ▸ hstep, hgoal ▸ hm'⟩
        rw [AStar.visitAll, hvisit, decide_eq_true hgoal, hgoal]
      · have hexp' := hexp.relax hstep hgoal (AStar.mem_cells.mpr hB)
        rw [decide_eq_false hgoal] at hvisit
        rw [AStar.visitAll, hvisit]
        rcases ih hm' hexp' hrest' with ⟨aStar₂, s₂, done₂, hrun, hm₂, hexp₂, hclosed, hdone⟩ | h
        · refine .inl ⟨aStar₂, s₂, done₂, hrun, hm₂, hexp₂, hclosed.trans (s.relax_closed A B), ?_⟩
          rintro C (hC | ⟨hC, hstepC⟩)
          · exact hdone C (.inl (List.mem_append_left _ hC))
          · rcases List.mem_cons.mp hC with rfl | hC
            · exact hdone C (.inl (List.mem_append_right _ (List.mem_singleton_self C)))
            · exact hdone C (.inr ⟨hC, hstepC⟩)
        · exact .inr h
    · rw [AStar.visitAll, hm.visit_wall hB hadj hstep]
      rcases ih hm hexp hrest' with ⟨aStar₂, s₂, done₂, hrun, hm₂, hexp₂, hclosed, hdone⟩ | h
      · refine .inl ⟨aStar₂, s₂, done₂, hrun, hm₂, hexp₂, hclosed, ?_⟩
        rintro C (hC | ⟨hC, hstepC⟩)
        · exact hdone C (.inl hC)
        · rcases List.mem_cons.mp hC with rfl | hC
          · exact absurd hstepC hstep
          · exact hdone C (.inr ⟨hC, hstepC⟩)
      · exact .inr h

/-- A node is closed. -/
lemma Mirrors.close (hm : Mirrors grid goal aStar s) (hnodup : s.openList.Nodup)
    (hmet : s.Met A) : Mirrors grid goal (aStar.close A) (s.close A) := by
  have hbeq : (instBEqProd : BEq Cell) = instBEqOfDecidableEq := lawful_beq_subsingleton _ _
  have hnode : ∀ v, ((aStar.close A).posXYNodeDict v) = if v = A then
      { aStar.posXYNodeDict A with aStarState := .isInCloseList } else aStar.posXYNodeDict v :=
    fun v => Function.update_apply _ _ _ _
  refine { hm with
    nodeType := fun v => ?_
    openList := ?_
    isInOpenList := fun v => ?_
    isInCloseList := fun v => ?_
    parentNode := fun v => ?_
    numbers := fun v hv => ?_ }
  · rw [hnode]
    split_ifs with h
    · exact h ▸ hm.nodeType A
    · exact hm.nodeType v
  · rw [AStar.close, Search.close, hbeq, hm.openList]
  · rw [hnode, Search.mem_close_openList hnodup]
    split_ifs with h
    · refine iff_of_false (fun h' => ?_) fun h' => h'.1 h
      cases h'
    · exact (hm.isInOpenList v).trans (and_iff_right h).symm
  · rw [hnode, Search.close, Finset.mem_insert]
    split_ifs with h
    · exact iff_of_true rfl (.inl h)
    · exact (hm.isInCloseList v).trans (or_iff_right h).symm
  · rw [hnode]
    split_ifs with h
    · exact h ▸ hm.parentNode A
    · exact hm.parentNode v
  · have hnumbers := hm.numbers v ((Search.close_met hmet).mp hv)
    rw [hnode]
    split_ifs with h
    · exact h ▸ hnumbers
    · exact hnumbers

/-- What is chosen to be expanded is in the open list and has the least `F`. -/
lemma leastF_spec (hopen : aStar.openList ≠ []) :
    aStar.leastF A ∈ aStar.openList ∧ ∀ u ∈ aStar.openList,
      (aStar.posXYNodeDict (aStar.leastF A)).F ≤ (aStar.posXYNodeDict u).F := by
  obtain ⟨a, l, hlist⟩ := List.exists_cons_of_ne_nil hopen
  obtain ⟨hmem, hle⟩ := foldl_least (fun v => (aStar.posXYNodeDict v).F) (a :: l) a
  rw [AStar.leastF, hlist, List.headD_cons]
  refine ⟨?_, fun u hu => hle u (List.mem_cons_of_mem a hu)⟩
  rcases List.mem_cons.mp hmem with h | h
  · rw [h]
    exact List.mem_cons_self
  · exact h

variable (grid start goal) in
/-- What the loop of a search answers: the goal, with a shortest way back to the start, or nothing
if there is no walk. -/
def Answers (aStar : AStar) : Option Cell → Prop
  | none => ∀ w, ¬IsWalk grid.Step start goal w
  | some path => path = goal ∧ ∃ l,
      Chain (fun v => (aStar.posXYNodeDict v).parentNode) goal l ∧
      IsWalk grid.Step start goal (goal :: l).reverse ∧
      (∀ w, IsWalk grid.Step start goal w → (goal :: l).length ≤ w.length) ∧
      l.length ≤ grid.cells.card

/-- **A round of the loop**: the goal is met, or one more node is closed. -/
theorem Mirrors.aStarSearch (hm : Mirrors grid goal aStar s) (hgrid : OnGrid grid start goal)
    (hexp : Expands grid start goal s A []) :
    (∃ aStar', aStar.aStarSearch A = (aStar', some goal) ∧
      Answers grid start goal aStar' (some goal)) ∨
    ∃ aStar' s', aStar.aStarSearch A = (aStar', none) ∧
      Mirrors grid goal (aStar'.close A) s' ∧ s'.closed = insert A s.closed ∧
      Inv grid.Step start goal grid.cells s' s'.closed fun _ _ => False := by
  have hrest : ∀ B ∈ aStar.neighbourNodes A, B ∈ grid.neighbourNodes A := by
    rw [hm.neighbourNodes]
    exact fun B hB => hB
  rcases hm.visitAll hgrid hexp hrest with
    ⟨aStar', s', done', hrun, hm', hexp', hclosed, hdone⟩ |
    ⟨aStar', s', done', hrun, hexp', hstep, hm'⟩
  · have hinv := hexp'.inv
    refine .inr ⟨aStar', s'.close A, hrun, ?_, congrArg (insert A) hclosed, ?_⟩
    · exact hm'.close hinv.nodup (hinv.settled_met A (Finset.mem_insert_self A _))
    · refine hexp'.close fun B hstep => hdone B (.inr ⟨?_, hstep⟩)
      rw [hm.neighbourNodes]
      exact AStar.mem_neighbourNodes.mpr ⟨hstep.2.1, hstep.1⟩
  · have hnext : 1 ≤ manhattan goal A := by
      have := hstep.1
      unfold Adjacent at this
      unfold manhattan
      omega
    obtain ⟨l, hchain, hwalk, hshort, hlength⟩ := hexp'.shortest hstep hnext
    refine .inl ⟨aStar', hrun, rfl, l, ?_, hwalk, hshort, hlength⟩
    rw [funext hm'.parentNode]
    exact hchain

/-- **The loop of a search** ends, with the right answer. -/
theorem Mirrors.searchLoop (hm : Mirrors grid goal aStar s) (hgrid : OnGrid grid start goal)
    (hexp : Expands grid start goal s (aStar.leastF A) []) {fuel : ℕ}
    (hfuel : grid.cells.card < fuel + (insert (aStar.leastF A) s.closed).card) :
    ∃ aStar' answer, AStar.searchLoop fuel A aStar = .ok (aStar', answer) ∧
      Answers grid start goal aStar' answer := by
  induction fuel generalizing A aStar s with
  | zero =>
    -- not more nodes can be settled than there are
    have hcard : (insert (aStar.leastF A) s.closed).card ≤ grid.cells.card :=
      Finset.card_le_card fun v hv => hexp.inv.met_mem v (hexp.inv.settled_met v hv)
    omega
  | succ fuel ih =>
    rw [AStar.searchLoop]
    rcases hm.aStarSearch hgrid hexp with
      ⟨aStar', hrun, hanswer⟩ | ⟨aStar', s', hrun, hm', hclosed, hinv⟩
    · simp only [hrun]
      exact ⟨aStar', some goal, rfl, hanswer⟩
    · simp only [hrun]
      by_cases hopen : (aStar'.close (aStar.leastF A)).openList = []
      · rw [if_pos hopen]
        exact ⟨_, none, rfl, hinv.not_isWalk (hm'.openList.symm.trans hopen)⟩
      · rw [if_neg hopen]
        obtain ⟨hmem, hleast⟩ := @leastF_spec _ (aStar.leastF A) hopen
        rw [hm'.openList] at hmem hleast
        refine ih hm' (hinv.choose (fun a b h => h.manhattan_le) ?_ hmem fun u hu => ?_) ?_
        · unfold manhattan
          omega
        · have := hleast u hu
          rw [(hm'.numbers u (.inr hu)).2.2, (hm'.numbers _ (.inr hmem)).2.2] at this
          omega
        · rw [Finset.card_insert_of_notMem (hinv.disjoint _ hmem), hclosed]
          omega

/-- A search starts as a best-first search does. -/
lemma mirrors_start (hgrid : OnGrid grid start goal) :
    Mirrors grid goal (grid.start (Vector2.ofCell start) (Vector2.ofCell goal))
      (Search.init start) := by
  obtain ⟨hstart, hfar⟩ := AStar.contains_bound hgrid.size hgrid.start_mem hgrid.goal_mem
  obtain ⟨hgoal, -⟩ := AStar.contains_bound hgrid.size hgrid.goal_mem hgrid.goal_mem
  have hnode : ∀ v, (grid.start (Vector2.ofCell start) (Vector2.ofCell goal)).posXYNodeDict v =
      if v = start then { (grid.posXYNodeDict start).init with
        aStarState := .isInCloseList, G := 0, H := 2 * manhattan goal start,
        F := 2 * manhattan goal start }
      else (grid.posXYNodeDict v).init := by
    intro v
    unfold Exact at hstart
    have hF : Single.add 0 (2 * manhattan goal start) = 2 * manhattan goal start := by
      rw [Single.add, zero_add, Single.round_two_mul (by omega)]
    unfold AStar.start
    rw [toCell_ofCell hstart]
    simp only [AStar.modify, Function.update_apply]
    rw [estimate_eq rfl hstart hgoal hfar, hF]
    rfl
  constructor
  · rfl
  · rfl
  · rfl
  · intro v
    rw [hnode]
    split_ifs with h
    · rw [h]
    · rfl
  · rfl
  · intro v
    rw [hnode]
    refine iff_of_false (fun h => ?_) List.not_mem_nil
    split_ifs at h
    cases h
  · intro v
    rw [hnode, Search.init, Finset.mem_singleton]
    split_ifs with h
    · exact iff_of_true rfl h
    · exact iff_of_false (fun h => by cases h) h
  · intro v
    rw [hnode]
    split_ifs <;> rfl
  · intro v hv
    obtain rfl : v = start := hv.elim Finset.mem_singleton.mp fun h => absurd h List.not_mem_nil
    rw [hnode, if_pos rfl]
    exact ⟨rfl, rfl, by rw [Search.init, Nat.zero_add]⟩

/-- **The way back from the goal** collects the positions of the nodes on it, and marks the
nodes. -/
lemma markPath_eq {v : Cell} {l : List Cell} {fuel : ℕ} {vec2List : List Vector2}
    (hchain : Chain (fun v => (aStar.posXYNodeDict v).parentNode) v l) (hfuel : l.length < fuel) :
    ∃ aStar', AStar.markPath fuel v vec2List aStar =
        .ok (aStar', vec2List ++ l.map Vector2.onPath) ∧
      aStar'.mapHeight = aStar.mapHeight ∧ aStar'.mapLength = aStar.mapLength ∧
      ∀ w, (aStar'.posXYNodeDict w).nodeType =
        if w ∈ v :: l then .aStarPath else (aStar.posXYNodeDict w).nodeType := by
  induction fuel generalizing aStar v l vec2List with
  | zero => exact absurd hfuel (Nat.not_lt_zero _)
  | succ fuel ih =>
    have hmark : ∀ w, ((aStar.modify v fun node => { node with
        nodeType := .aStarPath }).posXYNodeDict w).nodeType =
        if w = v then .aStarPath else (aStar.posXYNodeDict w).nodeType := by
      intro w
      simp only [AStar.modify, Function.update_apply]
      split_ifs
      · rfl
      · rfl
    -- a mark does not change where a way comes from
    have hparent : ∀ w, ((aStar.modify v fun node => { node with
        nodeType := .aStarPath }).posXYNodeDict w).parentNode =
        (aStar.posXYNodeDict w).parentNode := by
      intro w
      simp only [AStar.modify, Function.update_apply]
      split_ifs with h
      · rw [h]
      · rfl
    rw [AStar.markPath]
    cases hchain with
    | start hnone =>
      simp only [hparent, hnone]
      refine ⟨aStar.modify v fun node => { node with nodeType := .aStarPath },
        by rw [List.map_nil, List.append_nil], rfl, rfl, fun w => ?_⟩
      rw [hmark]
      simp only [List.mem_singleton]
    | @step _ p l hsome hchain =>
      simp only [hparent, hsome]
      obtain ⟨aStar', hrun, hheight, hlength, htype⟩ := @ih (aStar.modify v fun node => { node with
        nodeType := .aStarPath }) p l (vec2List ++ [Vector2.onPath p])
        (hchain.congr (hparent p) fun w _ => hparent w) (Nat.lt_of_succ_lt_succ hfuel)
      refine ⟨aStar', hrun.trans ?_, hheight, hlength, fun w => ?_⟩
      · rw [List.map_cons, List.append_assoc]
        rfl
      · rw [htype, hmark]
        by_cases hw : w ∈ p :: l
        · rw [if_pos hw, if_pos (List.mem_cons_of_mem v hw)]
        · rw [if_neg hw]
          refine if_congr ?_ rfl rfl
          rw [List.mem_cons]
          exact (or_iff_left hw).symm

end Mirrors

/-! ## The searches -/

/-- **What a search has to find**: nothing if there is no walk, and else a shortest one, of which it
returns all positions but the last, backwards. -/
structure FindsShortest (grid : AStar) (start goal : Cell) (result : Option (List Vector2)) :
    Prop where
  none_iff : result = none ↔ ¬∃ w, IsWalk grid.Step start goal w
  isWalk : ∀ path, result = some path →
    IsWalk grid.Step start goal ((path.map Vector2.toCell).reverse ++ [goal])
  shortest : ∀ path, result = some path → ∀ w, IsWalk grid.Step start goal w →
    path.length + 1 ≤ w.length

/-- A returned position leads back to its node. -/
lemma toCell_onPath {grid : AStar} {start goal c : Cell} (hgrid : OnGrid grid start goal)
    (hc : grid.contains c) : (Vector2.onPath c).toCell = c := by
  obtain ⟨⟨hlt1, hlt2⟩, -⟩ := AStar.contains_bound hgrid.size hc hgrid.goal_mem
  obtain ⟨⟨hpos, -⟩, -⟩ := AStar.contains_iff.mp hc
  rw [Vector2.toCell, Vector2.onPath, Vector2.ofCell]
  simp only
  rw [Single.toInt_add_one hpos (by omega), Single.toInt_ofInt (by omega)]

/-- **On a grid with fewer than `2 ^ 23` nodes** the searches end, and find a shortest path. -/
theorem searches_shortest {grid : AStar} {start goal : Cell} (hgrid : OnGrid grid start goal)
    (hne : start ≠ goal) {fuel : ℕ} (hfuel : grid.cells.card < fuel) :
    ∃ aStar₁ aStar₂ result,
      grid.pathSearch fuel (Vector2.ofCell start) (Vector2.ofCell goal) = .ok (aStar₁, result) ∧
      grid.checkPath fuel (Vector2.ofCell start) (Vector2.ofCell goal) =
        .ok (aStar₂, result.isSome) ∧
      FindsShortest grid start goal result := by
  obtain ⟨hexact, -⟩ := AStar.contains_bound hgrid.size hgrid.start_mem hgrid.goal_mem
  have hcell : (Vector2.ofCell start).toCell = start := toCell_ofCell hexact
  have hcons : ∀ a b, grid.Step a b → manhattan goal a ≤ manhattan goal b + 1 :=
    fun a b h => h.manhattan_le
  have hexp : Expands grid start goal (Search.init start) start [] :=
    expanding_init hne.symm (AStar.mem_cells.mpr hgrid.start_mem) hcons
      (by unfold manhattan; omega)
  obtain ⟨aStar, answer, hloop, hanswer⟩ := (mirrors_start hgrid).searchLoop hgrid (A := start)
    hexp (hfuel.trans_le (Nat.le_add_right _ _))
  unfold AStar.pathSearch AStar.checkPath
  rw [hcell, if_pos hgrid.start_mem, if_pos hgrid.start_mem, hloop]
  cases answer with
  | none =>
    refine ⟨aStar, aStar, none, rfl, rfl, ?_, fun path h => ?_, fun path h => ?_⟩
    · exact iff_of_true rfl fun ⟨w, hw⟩ => hanswer w hw
    · cases h
    · cases h
  | some path =>
    obtain ⟨rfl, l, hchain, hwalk, hshort, hlength⟩ := hanswer
    obtain ⟨aStar', hmark, -⟩ := @markPath_eq _ _ _ fuel [] hchain (hlength.trans_lt hfuel)
    have hcells : (l.map Vector2.onPath).map Vector2.toCell = l := by
      rw [List.map_map]
      refine (List.map_congr_left fun c hc => ?_).trans (List.map_id l)
      refine toCell_onPath hgrid ?_
      rcases hwalk.eq_or_edge c (List.mem_reverse.mpr (List.mem_cons_of_mem _ hc)) with
        rfl | ⟨b, hstep⟩
      · exact hgrid.start_mem
      · exact hstep.2.1
    refine ⟨aStar', aStar, some (l.map Vector2.onPath), ?_, rfl, ?_, fun positions h => ?_,
      fun positions h => ?_⟩
    · simp only [hmark, List.nil_append]
      rfl
    · exact iff_of_false (Option.some_ne_none _) fun h => h ⟨_, hwalk⟩
    · obtain rfl := Option.some.inj h
      rw [hcells, ← List.reverse_cons]
      exact hwalk
    · obtain rfl := Option.some.inj h
      rw [List.length_map]
      exact hshort

/-! ### Grids that are built -/

/-- A grid with the nodes that were set on it. -/
def AStar.build (mapHeight mapLength : ℤ) (blocks : List (Cell × NodeType)) : AStar :=
  blocks.foldl (fun aStar block => aStar.setBlock block.1 block.2) (initMap mapHeight mapLength)

/-- Nodes that are set stay on the grid. -/
lemma AStar.setBlock_size (aStar : AStar) (c : Cell) (type : NodeType) :
    (aStar.setBlock c type).mapHeight = aStar.mapHeight ∧
      (aStar.setBlock c type).mapLength = aStar.mapLength := by
  rw [setBlock]
  split_ifs
  · exact ⟨rfl, rfl⟩
  · exact ⟨rfl, rfl⟩

lemma AStar.build_size (mapHeight mapLength : ℤ) (blocks : List (Cell × NodeType)) :
    (build mapHeight mapLength blocks).mapHeight = mapHeight ∧
      (build mapHeight mapLength blocks).mapLength = mapLength := by
  induction blocks using List.reverseRecOn with
  | nil => exact ⟨rfl, rfl⟩
  | append_singleton blocks block ih =>
    obtain ⟨h1, h2⟩ := (build mapHeight mapLength blocks).setBlock_size block.1 block.2
    rw [build, List.foldl_append]
    exact ⟨h1.trans ih.1, h2.trans ih.2⟩

/-- **Every grid with fewer than `2 ^ 23` nodes that is built**: both searches end, and find a
shortest path to a node that is not the start, or nothing if there is none. -/
theorem pathSearch_shortest (mapHeight mapLength : ℤ) (blocks : List (Cell × NodeType))
    (start goal : Cell) (hsize : mapHeight * mapLength < 2 ^ 23)
    (hstart : (AStar.build mapHeight mapLength blocks).contains start)
    (hgoal : (AStar.build mapHeight mapLength blocks).contains goal) (hne : start ≠ goal)
    (fuel : ℕ) (hfuel : mapHeight * mapLength < fuel) :
    ∃ aStar₁ aStar₂ result,
      (AStar.build mapHeight mapLength blocks).pathSearch fuel (Vector2.ofCell start)
        (Vector2.ofCell goal) = .ok (aStar₁, result) ∧
      (AStar.build mapHeight mapLength blocks).checkPath fuel (Vector2.ofCell start)
        (Vector2.ofCell goal) = .ok (aStar₂, result.isSome) ∧
      FindsShortest (AStar.build mapHeight mapLength blocks) start goal result := by
  obtain ⟨hheight, hlength⟩ := AStar.build_size mapHeight mapLength blocks
  refine searches_shortest ⟨by rw [hheight, hlength]; exact hsize, hstart, hgoal⟩ hne ?_
  obtain ⟨⟨h1, h2⟩, h3, h4⟩ := AStar.contains_iff.mp hstart
  rw [AStar.card_cells]
  zify
  rw [Int.toNat_of_nonneg (by omega), Int.toNat_of_nonneg (by omega), hheight, hlength]
  exact hfuel

/-- A path around a wall. -/
theorem pathSearch_shortest_wall :
    ∃ result, FindsShortest (AStar.build 5 5 [((2, 2), .block), ((2, 1), .block)]) (1, 1) (3, 1)
      result :=
  let ⟨_, _, result, _, _, h⟩ := pathSearch_shortest 5 5 [((2, 2), .block), ((2, 1), .block)]
    (1, 1) (3, 1) (by decide) (by decide) (by decide) (by decide) 26 (by decide)
  ⟨result, h⟩

/-- **On larger grids the numbers are not exact**: in a column of `2 ^ 23 + 3` nodes the path from
the last but one to the last is said to start at the last. -/
theorem pathSearch_inexact :
    ¬∀ (mapHeight mapLength : ℤ) (blocks : List (Cell × NodeType)) (start goal : Cell),
      (AStar.build mapHeight mapLength blocks).contains start →
      (AStar.build mapHeight mapLength blocks).contains goal →
      (AStar.build mapHeight mapLength blocks).walkable goal → start ≠ goal →
      ∀ fuel : ℕ, mapHeight * mapLength < fuel → ∃ aStar result,
        (AStar.build mapHeight mapLength blocks).pathSearch fuel (Vector2.ofCell start)
          (Vector2.ofCell goal) = .ok (aStar, result) ∧
        FindsShortest (AStar.build mapHeight mapLength blocks) start goal result := by
  intro h
  obtain ⟨aStar, result, hrun, hfinds⟩ := h (2 ^ 23 + 3) 1 [((2 ^ 23 + 2, 0), .movable)]
    (2 ^ 23 + 1, 0) (2 ^ 23 + 2, 0) (by decide) (by decide) (by decide) (by decide) (2 ^ 23 + 4)
    (by decide)
  have hresult : ((AStar.build (2 ^ 23 + 3) 1 [((2 ^ 23 + 2, 0), .movable)]).pathSearch
      (2 ^ 23 + 4) (Vector2.ofCell (2 ^ 23 + 1, 0)) (Vector2.ofCell (2 ^ 23 + 2, 0))).toOption.map
        Prod.snd = some (some [⟨2 * (2 ^ 23 + 2), 0⟩]) := by
    decide +kernel
  rw [hrun] at hresult
  obtain rfl : result = some [⟨2 * (2 ^ 23 + 2), 0⟩] := Option.some.inj hresult
  have hhead := (hfinds.isWalk _ rfl).head
  revert hhead
  decide

end SrgpGame.Fight
