import SrgpGame.Fight.ShortestPath

set_option autoImplicit false

/-!
# What a search explores

On every grid, whatever the rounding of its numbers does, a search only meets nodes to which one can
walk, closes no node twice, and comes from each node back to its start. So it ends, and so does the
way back.

## Main definitions

* `Explores` — what holds of the lists and the parents of a search.
* `Found` — what a search leaves when it meets a goal.

## Main results

* `Explores.visitAll`, `Explores.close` — a round of the loop keeps what holds.
* `explores_searchLoop` — every search ends.
-/

namespace SrgpGame.Fight

open BestFirst

/-- A search for a position takes the node for its goal. -/
def AStar.AtGoal (grid : AStar) (endPos : Vector2) (c : Cell) : Prop :=
  ({ grid with globalEndPos := endPos } : AStar).estimate c ≤ 0

/-- The parent of each node stands behind it, but for the last, which has none. -/
def Ordered (parent : Cell → Option Cell) : List Cell → Prop
  | [] => True
  | v :: l => (l = [] ∧ parent v = none ∨ ∃ p ∈ l, parent v = some p) ∧ Ordered parent l

/-- From each node of the list there is a way back. -/
lemma Ordered.exists_chain {parent : Cell → Option Cell} {order : List Cell}
    (h : Ordered parent order) {v : Cell} (hv : v ∈ order) :
    ∃ l, Chain parent v l ∧ l.length < order.length ∧ ∀ x ∈ l, x ∈ order := by
  induction order generalizing v with
  | nil => exact absurd hv List.not_mem_nil
  | cons w order ih =>
    obtain ⟨hw, horder⟩ := h
    rcases List.mem_cons.mp hv with rfl | hv
    · rcases hw with ⟨-, hnone⟩ | ⟨p, hp, hparent⟩
      · exact ⟨[], .start hnone, Nat.zero_lt_succ _, fun x hx => absurd hx List.not_mem_nil⟩
      · obtain ⟨l, hchain, hlength, hl⟩ := ih horder hp
        refine ⟨p :: l, .step hparent hchain, Nat.succ_lt_succ hlength, fun x hx => ?_⟩
        rcases List.mem_cons.mp hx with rfl | hx
        · exact List.mem_cons_of_mem _ hp
        · exact List.mem_cons_of_mem _ (hl x hx)
    · obtain ⟨l, hchain, hlength, hl⟩ := ih horder hv
      exact ⟨l, hchain, Nat.lt_succ_of_lt hlength, fun x hx => List.mem_cons_of_mem _ (hl x hx)⟩

lemma Ordered.congr {parent parent' : Cell → Option Cell} {order : List Cell}
    (h : Ordered parent order) (heq : ∀ v ∈ order, parent' v = parent v) :
    Ordered parent' order := by
  induction order with
  | nil => trivial
  | cons w order ih =>
    refine ⟨?_, ih h.2 fun v hv => heq v (List.mem_cons_of_mem _ hv)⟩
    rw [heq w List.mem_cons_self]
    exact h.1

/-- **A search that expands `A`** on the grid that there was before: `order` has the closed nodes,
the last one first. -/
structure Explores (grid : AStar) (start : Cell) (endPos : Vector2) (A : Cell) (aStar : AStar)
    (order : List Cell) : Prop where
  mapHeight : aStar.mapHeight = grid.mapHeight
  mapLength : aStar.mapLength = grid.mapLength
  globalEndPos : aStar.globalEndPos = endPos
  nodeType : ∀ v, (aStar.posXYNodeDict v).nodeType = (grid.posXYNodeDict v).init.nodeType
  isInOpenList : ∀ v, (aStar.posXYNodeDict v).aStarState = .isInOpenList ↔ v ∈ aStar.openList
  isInCloseList : ∀ v, (aStar.posXYNodeDict v).aStarState = .isInCloseList ↔ v ∈ order
  nodup : aStar.openList.Nodup
  order_nodup : order.Nodup
  start_mem : start ∈ order
  /-- The search has walked to every node that it has met. -/
  reached : ∀ v, v ∈ order ∨ v ∈ aStar.openList → ∃ w, IsWalk grid.Step start v w
  ordered : Ordered (fun v => (aStar.posXYNodeDict v).parentNode) order
  /-- The node that is expanded has been met, from a closed node. -/
  current : A ∈ order ∨ A ∈ aStar.openList ∧
    ∃ p ∈ order, (aStar.posXYNodeDict A).parentNode = some p
  parents : ∀ v ∈ aStar.openList,
    ∃ p, (p ∈ order ∨ p = A) ∧ (aStar.posXYNodeDict v).parentNode = some p

section Explores

variable {grid aStar : AStar} {start A B v : Cell} {endPos : Vector2} {order : List Cell}

lemma Explores.neighbourNodes (h : Explores grid start endPos A aStar order) (c : Cell) :
    aStar.neighbourNodes c = grid.neighbourNodes c := by
  rw [AStar.neighbourNodes, AStar.neighbourNodes]
  refine List.filter_congr fun b _ => ?_
  rw [AStar.contains, AStar.contains, h.mapHeight, h.mapLength]

lemma Explores.not_mem_order (h : Explores grid start endPos A aStar order)
    (hv : v ∈ aStar.openList) : v ∉ order := by
  intro hclosed
  have hopen := (h.isInOpenList v).mpr hv
  rw [(h.isInCloseList v).mpr hclosed] at hopen
  cases hopen

/-- A node that is met from `A`. -/
lemma Explores.reparent (h : Explores grid start endPos A aStar order) (hstep : grid.Step A B)
    (hB : B ∉ order) {l : List Cell} (hnodup : l.Nodup)
    (hl : ∀ v, v ∈ l ↔ v ∈ aStar.openList ∨ v = B) {f : Node → Node}
    (htype : (f (aStar.posXYNodeDict B)).nodeType = (aStar.posXYNodeDict B).nodeType)
    (hstate : (f (aStar.posXYNodeDict B)).aStarState = .isInOpenList)
    (hparent : (f (aStar.posXYNodeDict B)).parentNode = some A) :
    Explores grid start endPos A { aStar.modify B f with openList := l } order := by
  have hne : A ≠ B := by
    rintro rfl
    have := hstep.1
    unfold Adjacent at this
    omega
  have hnode : ∀ v, ({ aStar.modify B f with openList := l } : AStar).posXYNodeDict v =
      if v = B then f (aStar.posXYNodeDict B) else aStar.posXYNodeDict v :=
    fun v => Function.update_apply _ _ _ _
  have hwalk : ∃ w, IsWalk grid.Step start A w :=
    h.reached A (h.current.imp id And.left)
  refine { h with
    nodeType := fun v => ?_
    isInOpenList := fun v => ?_
    isInCloseList := fun v => ?_
    nodup := hnodup
    reached := fun v hv => ?_
    ordered := h.ordered.congr fun v hv => ?_
    current := ?_
    parents := fun v hv => ?_ }
  · rw [hnode]
    split_ifs with hv
    · rw [hv, htype]
      exact h.nodeType B
    · exact h.nodeType v
  · rw [hnode]
    split_ifs with hv
    · exact iff_of_true hstate ((hl v).mpr (.inr hv))
    · exact (h.isInOpenList v).trans ((or_iff_left hv).symm.trans (hl v).symm)
  · rw [hnode]
    split_ifs with hv
    · refine iff_of_false (fun hclosed => ?_) (hv ▸ hB)
      rw [hstate] at hclosed
      cases hclosed
    · exact h.isInCloseList v
  · by_cases hvB : v = B
    · obtain ⟨w, hw⟩ := hwalk
      exact ⟨_, hvB ▸ hw.concat hstep⟩
    · exact h.reached v (hv.imp id fun hv => ((hl v).mp hv).resolve_right hvB)
  · simp only
    rw [hnode, if_neg fun hvB : v = B => hB (hvB ▸ hv)]
  · refine h.current.imp id fun ⟨hA, p, hp, hparentA⟩ => ⟨(hl A).mpr (.inl hA), p, hp, ?_⟩
    rw [hnode, if_neg hne]
    exact hparentA
  · rw [hnode]
    split_ifs with hvB
    · exact ⟨A, .inr rfl, hparent⟩
    · exact h.parents v (((hl v).mp hv).resolve_right hvB)

/-- **An edge of a node that is expanded.** What is found has not been met before, and is estimated
to be the goal. -/
theorem Explores.visit (h : Explores grid start endPos A aStar order)
    (hB : B ∈ grid.neighbourNodes A) :
    Explores grid start endPos A (aStar.visit A B).1 order ∧
      ((aStar.visit A B).2 = true →
        B ∈ (aStar.visit A B).1.openList ∧ grid.AtGoal endPos B) := by
  obtain ⟨hmem, hadj⟩ := AStar.mem_neighbourNodes.mp hB
  unfold AStar.visit
  by_cases htype : (aStar.posXYNodeDict B).nodeType = .movable
  · have hstep : grid.Step A B :=
      ⟨hadj, hmem, decide_eq_true ((h.nodeType B).symm.trans htype)⟩
    simp only [htype, ne_eq, not_true_eq_false, if_false]
    cases hstate : (aStar.posXYNodeDict B).aStarState with
    | isInCloseList => exact ⟨h, fun hfalse => by cases hfalse⟩
    | isInOpenList =>
      have hopen : B ∈ aStar.openList := (h.isInOpenList B).mp hstate
      simp only
      split_ifs
      · have hexplores := h.reparent hstep (h.not_mem_order hopen) h.nodup
          (fun v => (or_iff_left_of_imp fun hv => hv ▸ hopen).symm)
          (f := Node.reparent A (Single.add (Single.round (Vector2.distance (Vector2.ofCell A)
            (Vector2.ofCell B))) (aStar.posXYNodeDict A).G)) rfl hstate rfl
        exact ⟨hexplores, fun hfalse => by cases hfalse⟩
      · exact ⟨h, fun hfalse => by cases hfalse⟩
    | free =>
      have hclosed : B ∉ order := fun hB => by
        rw [(h.isInCloseList B).mpr hB] at hstate
        cases hstate
      have hopen : B ∉ aStar.openList := fun hB => by
        rw [(h.isInOpenList B).mpr hB] at hstate
        cases hstate
      refine ⟨h.reparent hstep hclosed ?_ (fun v => ?_) rfl rfl rfl, fun hfound => ⟨?_, ?_⟩⟩
      · exact List.nodup_append.mpr ⟨h.nodup, List.nodup_singleton B,
          fun x hx y hy hxy => hopen (List.mem_singleton.mp hy ▸ hxy ▸ hx)⟩
      · exact List.mem_append.trans (or_congr Iff.rfl List.mem_singleton)
      · exact List.mem_append_right _ (List.mem_singleton_self B)
      · rw [AStar.AtGoal, ← h.globalEndPos]
        exact of_decide_eq_true hfound
  · simp only [htype, ne_eq, not_false_eq_true, if_true]
    exact ⟨h, fun hfalse => by cases hfalse⟩

/-- **The neighbours of a node** are visited until a goal is met. -/
theorem Explores.visitAll (h : Explores grid start endPos A aStar order) {rest : List Cell}
    (hrest : ∀ B ∈ rest, B ∈ grid.neighbourNodes A) :
    ∃ aStar' path, AStar.visitAll A rest aStar = (aStar', path) ∧
      Explores grid start endPos A aStar' order ∧
      ∀ B, path = some B → B ∈ aStar'.openList ∧ grid.AtGoal endPos B := by
  induction rest generalizing aStar with
  | nil => exact ⟨aStar, none, rfl, h, fun B hB => by cases hB⟩
  | cons B rest ih =>
    obtain ⟨hexplores, hfound⟩ := h.visit (hrest B List.mem_cons_self)
    rw [AStar.visitAll]
    cases hvisit : aStar.visit A B with
    | mk aStar' found =>
      rw [hvisit] at hexplores hfound
      cases found with
      | true =>
        refine ⟨aStar', some B, rfl, hexplores, fun C hC => ?_⟩
        obtain rfl := Option.some.inj hC
        exact hfound rfl
      | false =>
        exact ih hexplores fun C hC => hrest C (List.mem_cons_of_mem _ hC)

lemma close_parentNode (aStar : AStar) (A v : Cell) :
    ((aStar.close A).posXYNodeDict v).parentNode = (aStar.posXYNodeDict v).parentNode := by
  simp only [AStar.close, AStar.modify, Function.update_apply]
  split_ifs with hv
  · rw [hv]
  · rfl

/-- The nodes that are closed when `A` is. -/
def settle (A : Cell) (order : List Cell) : List Cell := if A ∈ order then order else A :: order

lemma mem_settle : v ∈ settle A order ↔ v ∈ order ∨ v = A := by
  rw [settle]
  split_ifs with hA
  · exact (or_iff_left_of_imp fun hv => hv ▸ hA).symm
  · rw [List.mem_cons, or_comm]

/-- A node is closed; the start is closed from the beginning. -/
lemma Explores.close (h : Explores grid start endPos A aStar order) :
    Explores grid start endPos start (aStar.close A) (settle A order) := by
  have hnode : ∀ v, (aStar.close A).posXYNodeDict v = if v = A then
      { aStar.posXYNodeDict A with aStarState := .isInCloseList } else aStar.posXYNodeDict v :=
    fun v => Function.update_apply _ _ _ _
  have hopen : ∀ v, v ∈ (aStar.close A).openList ↔ v ≠ A ∧ v ∈ aStar.openList :=
    fun v => h.nodup.mem_erase_iff
  refine { h with
    nodeType := fun v => ?_
    isInOpenList := fun v => ?_
    isInCloseList := fun v => ?_
    nodup := h.nodup.erase A
    order_nodup := ?_
    start_mem := mem_settle.mpr (.inl h.start_mem)
    reached := fun v hv => ?_
    ordered := ?_
    current := .inl (mem_settle.mpr (.inl h.start_mem))
    parents := fun v hv => ?_ }
  · rw [hnode]
    split_ifs with hv
    · exact hv ▸ h.nodeType A
    · exact h.nodeType v
  · rw [hnode, hopen]
    split_ifs with hv
    · refine iff_of_false (fun hstate => ?_) fun hstate => hstate.1 hv
      cases hstate
    · exact (h.isInOpenList v).trans (and_iff_right hv).symm
  · rw [hnode, mem_settle]
    split_ifs with hv
    · exact iff_of_true rfl (.inr hv)
    · exact (h.isInCloseList v).trans (or_iff_left hv).symm
  · rw [settle]
    split_ifs with hA
    · exact h.order_nodup
    · exact List.nodup_cons.mpr ⟨hA, h.order_nodup⟩
  · refine h.reached v ?_
    rcases hv with hv | hv
    · rcases mem_settle.mp hv with hv | rfl
      · exact .inl hv
      · exact h.current.imp id And.left
    · exact .inr ((hopen v).mp hv).2
  · have hordered : Ordered (fun v => ((aStar.close A).posXYNodeDict v).parentNode) order :=
      h.ordered.congr fun v _ => close_parentNode aStar A v
    rw [settle]
    split_ifs with hA
    · exact hordered
    · obtain ⟨-, p, hp, hparentA⟩ := h.current.resolve_left hA
      exact ⟨.inr ⟨p, hp, (close_parentNode aStar A A).trans hparentA⟩, hordered⟩
  · obtain ⟨p, hp, hparentv⟩ := h.parents v ((hopen v).mp hv).2
    exact ⟨p, .inl (mem_settle.mpr hp), (close_parentNode aStar A v).trans hparentv⟩

/-- A node of the open list is expanded. -/
lemma Explores.choose (h : Explores grid start endPos start aStar order)
    (hA : A ∈ aStar.openList) : Explores grid start endPos A aStar order := by
  have hparents : ∀ v ∈ aStar.openList,
      ∃ p ∈ order, (aStar.posXYNodeDict v).parentNode = some p := by
    intro v hv
    obtain ⟨p, hp, hparent⟩ := h.parents v hv
    exact ⟨p, hp.elim id fun hp => hp ▸ h.start_mem, hparent⟩
  refine { h with current := .inr ⟨hA, hparents A hA⟩, parents := fun v hv => ?_ }
  obtain ⟨p, hp, hparent⟩ := hparents v hv
  exact ⟨p, .inl hp, hparent⟩

/-- The closed nodes are nodes of the grid. -/
lemma Explores.length_le (h : Explores grid start endPos A aStar order)
    (hstart : grid.contains start) :
    order.length ≤ grid.cells.card := by
  rw [← List.toFinset_card_of_nodup h.order_nodup]
  refine Finset.card_le_card fun v hv => AStar.mem_cells.mpr ?_
  obtain ⟨w, hw⟩ := h.reached v (.inl (List.mem_toFinset.mp hv))
  rcases hw.eq_or_edge v (List.mem_of_getLast? hw.last) with rfl | ⟨b, hstep⟩
  · exact hstart
  · exact hstep.2.1

/-- **What a search leaves** when it meets a goal: a way back to the start, on which all nodes but
the start are ends of steps. -/
structure Found (grid : AStar) (start : Cell) (endPos : Vector2) (aStar : AStar) (path : Cell) :
    Prop where
  ne_start : path ≠ start
  isWalk : ∃ w, IsWalk grid.Step start path w
  atGoal : grid.AtGoal endPos path
  chain : ∃ l, Chain (fun v => (aStar.posXYNodeDict v).parentNode) path l ∧
    l.length ≤ grid.cells.card ∧ ∀ v ∈ path :: l, v = start ∨ ∃ u, grid.Step u v

/-- A goal that is met has a way back. -/
lemma Explores.found (h : Explores grid start endPos A aStar order) (hstart : grid.contains start)
    (hB : B ∈ aStar.openList) (hgoal : grid.AtGoal endPos B) :
    Found grid start endPos aStar B := by
  have hstep : ∀ v, v ∈ order ∨ v ∈ aStar.openList → v = start ∨ ∃ u, grid.Step u v := by
    intro v hv
    obtain ⟨w, hw⟩ := h.reached v hv
    exact hw.eq_or_edge v (List.mem_of_getLast? hw.last)
  have hclose := h.close
  obtain ⟨p, hp, hparent⟩ := h.parents B hB
  obtain ⟨l, hchain, hlength, hl⟩ := hclose.ordered.exists_chain (mem_settle.mpr hp)
  rw [funext (close_parentNode aStar A)] at hchain
  refine ⟨?_, h.reached B (.inr hB), hgoal, p :: l, .step hparent hchain, ?_, fun v hv => ?_⟩
  · rintro rfl
    exact h.not_mem_order hB h.start_mem
  · exact hlength.trans_le (hclose.length_le hstart)
  · rcases List.mem_cons.mp hv with rfl | hv
    · exact hstep v (.inr hB)
    · have hsettle : v ∈ settle A order := by
        rcases List.mem_cons.mp hv with rfl | hv
        · exact mem_settle.mpr hp
        · exact hl v hv
      rcases mem_settle.mp hsettle with hv | rfl
      · exact hstep v (.inl hv)
      · exact hstep v (h.current.imp id And.left)

/-- **Every search ends**, on every grid. -/
theorem explores_searchLoop (hstart : grid.contains start)
    (h : Explores grid start endPos (aStar.leastF A) aStar order) {fuel : ℕ}
    (hfuel : grid.cells.card < fuel + (settle (aStar.leastF A) order).length) :
    ∃ aStar' path, AStar.searchLoop fuel A aStar = .ok (aStar', path) ∧
      (∀ v, (aStar'.posXYNodeDict v).nodeType = (grid.posXYNodeDict v).init.nodeType) ∧
      aStar'.mapHeight = grid.mapHeight ∧ aStar'.mapLength = grid.mapLength ∧
      ∀ goal, path = some goal → Found grid start endPos aStar' goal := by
  induction fuel generalizing A aStar order with
  | zero =>
    have := h.close.length_le hstart
    omega
  | succ fuel ih =>
    rw [AStar.searchLoop]
    have hrest : ∀ B ∈ aStar.neighbourNodes (aStar.leastF A),
        B ∈ grid.neighbourNodes (aStar.leastF A) := by
      rw [h.neighbourNodes]
      exact fun B hB => hB
    obtain ⟨aStar', path, hrun, h', hpath⟩ := h.visitAll hrest
    have hsearch : aStar.aStarSearch (aStar.leastF A) = (aStar', path) := hrun
    cases path with
    | some goal =>
      simp only [hsearch]
      refine ⟨aStar', some goal, rfl, h'.nodeType, h'.mapHeight, h'.mapLength, fun B hB => ?_⟩
      obtain rfl := Option.some.inj hB
      exact h'.found hstart (hpath _ rfl).1 (hpath _ rfl).2
    | none =>
      simp only [hsearch]
      have hclose := h'.close
      by_cases hopen : (aStar'.close (aStar.leastF A)).openList = []
      · rw [if_pos hopen]
        exact ⟨_, none, rfl, hclose.nodeType, hclose.mapHeight, hclose.mapLength,
          fun B hB => by cases hB⟩
      · rw [if_neg hopen]
        obtain ⟨hmem, -⟩ := @leastF_spec _ (aStar.leastF A) hopen
        refine ih (hclose.choose hmem) ?_
        -- the node that is chosen next has not been closed
        rw [settle, if_neg (hclose.not_mem_order hmem), List.length_cons]
        omega

/-- A search starts with nothing but its start. -/
lemma explores_start {startPos : Vector2} (hcell : startPos.toCell = start) :
    Explores grid start endPos start (grid.start startPos endPos) [start] := by
  have hnode : ∀ v, ∃ F G H, (grid.start startPos endPos).posXYNodeDict v =
      if v = start then { (grid.posXYNodeDict start).init with
        aStarState := .isInCloseList, F := F, G := G, H := H }
      else (grid.posXYNodeDict v).init := by
    intro v
    unfold AStar.start
    rw [hcell]
    simp only [AStar.modify, Function.update_apply]
    exact ⟨_, _, _, rfl⟩
  constructor
  · rfl
  · rfl
  · rfl
  · intro v
    obtain ⟨F, G, H, hv⟩ := hnode v
    rw [hv]
    split_ifs with h
    · rw [h]
    · rfl
  · intro v
    obtain ⟨F, G, H, hv⟩ := hnode v
    rw [hv]
    refine iff_of_false (fun h => ?_) List.not_mem_nil
    split_ifs at h
    cases h
  · intro v
    obtain ⟨F, G, H, hv⟩ := hnode v
    rw [hv, List.mem_singleton]
    split_ifs with h
    · exact iff_of_true rfl h
    · exact iff_of_false (fun h => by cases h) h
  · exact List.nodup_nil
  · exact List.nodup_singleton start
  · exact List.mem_singleton_self start
  · intro v hv
    obtain rfl : v = start := hv.elim List.mem_singleton.mp fun h => absurd h List.not_mem_nil
    exact ⟨[v], isWalk_singleton⟩
  · refine ⟨.inl ⟨rfl, ?_⟩, trivial⟩
    obtain ⟨F, G, H, hv⟩ := hnode start
    show ((grid.start startPos endPos).posXYNodeDict start).parentNode = none
    rw [hv, if_pos rfl]
    rfl
  · exact .inl (List.mem_singleton_self start)
  · exact fun v hv => absurd hv List.not_mem_nil

end Explores

/-! ## What is left of a search -/

/-- Two path finders have the same grid for their next searches. -/
structure SameGrid (aStar fresh : AStar) : Prop where
  mapHeight : aStar.mapHeight = fresh.mapHeight
  mapLength : aStar.mapLength = fresh.mapLength
  nodeType : ∀ v, (aStar.posXYNodeDict v).init.nodeType = (fresh.posXYNodeDict v).init.nodeType

lemma SameGrid.trans {a b c : AStar} (hab : SameGrid a b) (hbc : SameGrid b c) : SameGrid a c :=
  ⟨hab.mapHeight.trans hbc.mapHeight, hab.mapLength.trans hbc.mapLength,
    fun v => (hab.nodeType v).trans (hbc.nodeType v)⟩

lemma SameGrid.contains {a b : AStar} (h : SameGrid a b) (c : Cell) :
    a.contains c = b.contains c := by
  rw [AStar.contains, AStar.contains, h.mapHeight, h.mapLength]

lemma Node.init_init (node : Node) : node.init.init = node.init := by
  unfold Node.init
  by_cases h : node.nodeType = .aStarPath
  · simp [h]
  · simp [h]

/-- The search of a position starts and ends at nodes. -/
lemma searchLoop_start {grid : AStar} {startPos : Vector2} (hstart : grid.contains startPos.toCell)
    (endPos : Vector2) {fuel : ℕ} (hfuel : grid.cells.card < fuel) :
    ∃ aStar path, AStar.searchLoop fuel startPos.toCell (grid.start startPos endPos) =
        .ok (aStar, path) ∧ SameGrid aStar grid ∧
      ∀ goal, path = some goal → Found grid startPos.toCell endPos aStar goal := by
  obtain ⟨aStar, path, hrun, htype, hheight, hlength, hfound⟩ :=
    @explores_searchLoop grid (grid.start startPos endPos) startPos.toCell startPos.toCell endPos _
      hstart (explores_start rfl) fuel (hfuel.trans_le (Nat.le_add_right _ _))
  refine ⟨aStar, path, hrun, ⟨hheight, hlength, fun v => ?_⟩, hfound⟩
  rw [← (grid.posXYNodeDict v).init_init, Node.init, Node.init, htype v]

end SrgpGame.Fight
