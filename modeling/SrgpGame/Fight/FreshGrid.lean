import SrgpGame.Fight.Exploring
import SrgpGame.Lib.Runs

set_option autoImplicit false

/-!
# The path finder as on a fresh grid

One path finder serves a whole fight. What a search writes into the nodes is reset by the next one:
the lists, the states and the parents, and the marks of the path, which become nodes on which one
can walk. That is right for all nodes of a path but its start, which may be a wall or on the
boundary.

## Main definitions

* `Alike` — two path finders differ at most in the numbers of nodes that are not met.
* `Call`, `perform` — the calls of a path finder.
* `AsFresh` — a call answers as on a fresh grid.
* `Keeps` — a call does not mark a wall.

## Main results

* `Alike.searchLoop`, `Alike.markPath` — searches do not see the numbers that are left over.
* `asFresh_run` — as long as no call marks a wall, all answer as on a fresh grid.
* `not_asFresh` — a search from the boundary opens it.
-/

namespace SrgpGame.Fight

open BestFirst

/-! ## What a search does not see -/

/-- Two nodes differ at most in their numbers, and then a search has met neither. -/
def AlikeNode (node node' : Node) : Prop :=
  node = node' ∨ node.aStarState = .free ∧ node'.aStarState = .free ∧
    node.nodeType = node'.nodeType ∧ node.parentNode = node'.parentNode

/-- **Two path finders differ at most in the numbers of nodes that are not met.** -/
structure Alike (a b : AStar) : Prop where
  mapHeight : a.mapHeight = b.mapHeight
  mapLength : a.mapLength = b.mapLength
  openList : a.openList = b.openList
  closeList : a.closeList = b.closeList
  globalEndPos : a.globalEndPos = b.globalEndPos
  node : ∀ v, AlikeNode (a.posXYNodeDict v) (b.posXYNodeDict v)

section Alike

variable {grid a b a' : AStar} {start A B : Cell} {endPos : Vector2} {order : List Cell}

lemma AlikeNode.parentNode {node node' : Node} (h : AlikeNode node node') :
    node.parentNode = node'.parentNode := by
  rcases h with rfl | ⟨-, -, -, h⟩
  · rfl
  · exact h

lemma Alike.node_eq (h : Alike a b) {v : Cell} (hv : (a.posXYNodeDict v).aStarState ≠ .free) :
    a.posXYNodeDict v = b.posXYNodeDict v :=
  (h.node v).resolve_right fun hfree => hv hfree.1

lemma Alike.modify (h : Alike a b) {f f' : Node → Node}
    (hnode : AlikeNode (f (a.posXYNodeDict B)) (f' (b.posXYNodeDict B))) :
    Alike (a.modify B f) (b.modify B f') :=
  { h with
    node := fun v => by
      simp only [AStar.modify, Function.update_apply]
      split_ifs
      · exact hnode
      · exact h.node v }

lemma Alike.estimate (h : Alike a b) (c : Cell) : a.estimate c = b.estimate c := by
  rw [AStar.estimate, AStar.estimate, h.globalEndPos]

lemma Alike.contains (h : Alike a b) (c : Cell) : a.contains c = b.contains c := by
  rw [AStar.contains, AStar.contains, h.mapHeight, h.mapLength]

/-- A node that a search has met is not free. -/
lemma Explores.not_free (h : Explores grid start endPos A a order) {v : Cell}
    (hv : v ∈ order ∨ v ∈ a.openList) : (a.posXYNodeDict v).aStarState ≠ .free := by
  rcases hv with hv | hv
  · rw [(h.isInCloseList v).mpr hv]
    decide
  · rw [(h.isInOpenList v).mpr hv]
    decide

/-- **An edge** is treated alike. -/
lemma Alike.visit (h : Alike a b) (hA : (a.posXYNodeDict A).aStarState ≠ .free) :
    (a.visit A B).2 = (b.visit A B).2 ∧ Alike (a.visit A B).1 (b.visit A B).1 := by
  have hopenList : a.openList ++ [B] = b.openList ++ [B] := congrArg (· ++ [B]) h.openList
  unfold AStar.visit
  rw [← h.node_eq hA, ← h.estimate B]
  rcases h.node B with hnodeB | ⟨hfree, hfree', htype, -⟩
  · rw [← hnodeB]
    by_cases hmovable : (a.posXYNodeDict B).nodeType = .movable
    · simp only [hmovable, ne_eq, not_true_eq_false, if_false]
      cases hstate : (a.posXYNodeDict B).aStarState with
      | isInCloseList => exact ⟨rfl, h⟩
      | isInOpenList =>
        simp only
        split_ifs
        · exact ⟨rfl, h.modify (.inl (congrArg (Node.reparent A _) hnodeB))⟩
        · exact ⟨rfl, h⟩
      | free =>
        have hmodify := h.modify (.inl (congrArg (Node.meet A (Single.add (Single.round
          (Vector2.distance (Vector2.ofCell A) (Vector2.ofCell B))) (a.posXYNodeDict A).G)
          (a.estimate B)) hnodeB))
        exact ⟨rfl, { hmodify with openList := hopenList }⟩
    · simp only [hmovable, ne_eq, not_false_eq_true, if_true]
      exact ⟨trivial, h⟩
  · -- all that differs is overwritten
    by_cases hmovable : (a.posXYNodeDict B).nodeType = .movable
    · have hmovable' : (b.posXYNodeDict B).nodeType = .movable := htype ▸ hmovable
      simp only [hmovable, hmovable', hfree, hfree', ne_eq, not_true_eq_false, if_false]
      have hmeet : ∀ G H, (a.posXYNodeDict B).meet A G H = (b.posXYNodeDict B).meet A G H := by
        intro G H
        rw [Node.meet, Node.meet, htype]
      have hmodify := h.modify (.inl (hmeet (Single.add (Single.round
        (Vector2.distance (Vector2.ofCell A) (Vector2.ofCell B))) (a.posXYNodeDict A).G)
        (a.estimate B)))
      exact ⟨trivial, { hmodify with openList := hopenList }⟩
    · have hmovable' : (b.posXYNodeDict B).nodeType ≠ .movable := htype ▸ hmovable
      simp only [if_pos hmovable, if_pos hmovable']
      exact ⟨trivial, h⟩

/-- The neighbours of a node are visited alike. -/
lemma Alike.visitAll (h : Alike a b) (hexplores : Explores grid start endPos A a order)
    {rest : List Cell} (hrest : ∀ B ∈ rest, B ∈ grid.neighbourNodes A) :
    (AStar.visitAll A rest a).2 = (AStar.visitAll A rest b).2 ∧
      Alike (AStar.visitAll A rest a).1 (AStar.visitAll A rest b).1 := by
  induction rest generalizing a b with
  | nil => exact ⟨rfl, h⟩
  | cons B rest ih =>
    have hA := hexplores.not_free (hexplores.current.imp id And.left)
    obtain ⟨hfound, hvisit⟩ := @Alike.visit a b A B h hA
    have hexplores' := (hexplores.visit (hrest B List.mem_cons_self)).1
    rw [AStar.visitAll, AStar.visitAll]
    cases hcase : a.visit A B with
    | mk a₁ found =>
      cases hcase' : b.visit A B with
      | mk b₁ found' =>
        rw [hcase] at hfound hvisit hexplores'
        rw [hcase'] at hfound hvisit
        obtain rfl : found = found' := hfound
        cases found with
        | true => exact ⟨rfl, hvisit⟩
        | false =>
          exact ih hvisit hexplores' fun C hC => hrest C (List.mem_cons_of_mem _ hC)

lemma Alike.leastF (h : Alike a b)
    (hopen : ∀ v ∈ a.openList, (a.posXYNodeDict v).aStarState ≠ .free) (A : Cell) :
    a.leastF A = b.leastF A := by
  rw [AStar.leastF, AStar.leastF, ← h.openList]
  have hfold : ∀ (l : List Cell) (c : Cell),
      (∀ v ∈ c :: l, (a.posXYNodeDict v).aStarState ≠ .free) →
      l.foldl (fun A B => if (a.posXYNodeDict B).F < (a.posXYNodeDict A).F then B else A) c =
        l.foldl (fun A B => if (b.posXYNodeDict B).F < (b.posXYNodeDict A).F then B else A) c := by
    intro l
    induction l with
    | nil => exact fun _ _ => rfl
    | cons d l ih =>
      intro c hfree
      have hd := List.mem_cons_of_mem c (List.mem_cons_self (a := d) (l := l))
      rw [List.foldl_cons, List.foldl_cons, h.node_eq (hfree d hd),
        h.node_eq (hfree c List.mem_cons_self)]
      refine ih _ fun v hv => hfree v ?_
      rcases List.mem_cons.mp hv with rfl | hv
      · split_ifs
        · exact hd
        · exact List.mem_cons_self
      · exact List.mem_cons_of_mem c (List.mem_cons_of_mem d hv)
  cases hlist : a.openList with
  | nil => rfl
  | cons c l =>
    rw [hlist] at hopen
    refine hfold (c :: l) c fun v hv => ?_
    rcases List.mem_cons.mp hv with rfl | hv
    · exact hopen v List.mem_cons_self
    · exact hopen v hv

lemma Alike.close (h : Alike a b) (hA : (a.posXYNodeDict A).aStarState ≠ .free) :
    Alike (a.close A) (b.close A) := by
  have hmodify : Alike (a.modify A fun node => { node with aStarState := .isInCloseList })
      (b.modify A fun node => { node with aStarState := .isInCloseList }) :=
    h.modify (.inl (congrArg (fun node : Node => { node with aStarState := .isInCloseList })
      (h.node_eq hA)))
  exact { hmodify with
    openList := congrArg (List.erase · A) h.openList
    closeList := congrArg (· ++ [A]) h.closeList }

/-- **The loops of two searches** do the same. -/
theorem Alike.searchLoop (h : Alike a b)
    (hexplores : Explores grid start endPos (a.leastF A) a order) {fuel : ℕ} {path : Option Cell}
    (hrun : AStar.searchLoop fuel A a = .ok (a', path)) :
    ∃ b', AStar.searchLoop fuel A b = .ok (b', path) ∧ Alike a' b' := by
  induction fuel generalizing A a b order with
  | zero => cases hrun
  | succ fuel ih =>
    have hneighbours : b.neighbourNodes (a.leastF A) = grid.neighbourNodes (a.leastF A) := by
      rw [← hexplores.neighbourNodes, AStar.neighbourNodes, AStar.neighbourNodes]
      exact List.filter_congr fun c _ => (h.contains c).symm
    obtain ⟨hpath, hvisit⟩ := h.visitAll hexplores fun B hB => hB
    obtain ⟨a₁, path₁, hrun₁, hexplores₁, -⟩ := hexplores.visitAll fun B hB => hB
    rw [AStar.searchLoop] at hrun ⊢
    rw [← h.leastF (fun v hv => hexplores.not_free (.inr hv)) A]
    rw [AStar.aStarSearch, hexplores.neighbourNodes] at hrun
    rw [AStar.aStarSearch, hneighbours]
    cases hrun₂ : AStar.visitAll (a.leastF A) (grid.neighbourNodes (a.leastF A)) b with
    | mk b₁ path₂ =>
      rw [hrun₁] at hpath hvisit
      rw [hrun₂] at hpath hvisit
      obtain rfl : path₁ = path₂ := hpath
      simp only [hrun₁] at hrun
      cases path₁ with
      | some goal =>
        obtain ⟨rfl, rfl⟩ := Prod.mk.inj (Except.ok.inj hrun)
        exact ⟨b₁, rfl, hvisit⟩
      | none =>
        have hA : (a₁.posXYNodeDict (a.leastF A)).aStarState ≠ .free :=
          hexplores₁.not_free (hexplores₁.current.imp id And.left)
        have hclose : Alike (a₁.close (a.leastF A)) (b₁.close (a.leastF A)) := hvisit.close hA
        simp only at hrun ⊢
        rw [← hclose.openList]
        by_cases hopen : (a₁.close (a.leastF A)).openList = []
        · rw [if_pos hopen] at hrun ⊢
          obtain ⟨rfl, rfl⟩ := Prod.mk.inj (Except.ok.inj hrun)
          exact ⟨_, rfl, hclose⟩
        · rw [if_neg hopen] at hrun ⊢
          obtain ⟨hmem, -⟩ := @leastF_spec _ (a.leastF A) hopen
          exact ih hclose (hexplores₁.close.choose hmem) hrun

/-- The ways back are alike. -/
lemma Alike.markPath (h : Alike a b) {fuel : ℕ} {path : Cell} {vec2List : List Vector2} :
    (AStar.markPath fuel path vec2List a).map Prod.snd =
      (AStar.markPath fuel path vec2List b).map Prod.snd := by
  induction fuel generalizing a b path vec2List with
  | zero => rfl
  | succ fuel ih =>
    have hmark : Alike (a.modify path fun node => { node with nodeType := .aStarPath })
        (b.modify path fun node => { node with nodeType := .aStarPath }) := by
      refine h.modify ?_
      rcases h.node path with heq | ⟨hfree, hfree', -, hparent⟩
      · exact .inl (congrArg (fun node : Node => { node with nodeType := .aStarPath }) heq)
      · exact .inr ⟨hfree, hfree', rfl, hparent⟩
    rw [AStar.markPath, AStar.markPath]
    simp only [(hmark.node path).parentNode]
    split
    · rfl
    · exact ih hmark

/-- **Searches on the same grid** start alike. -/
lemma SameGrid.alike_start (h : SameGrid a b) (startPos endPos : Vector2) :
    Alike (a.start startPos endPos) (b.start startPos endPos) := by
  refine ⟨h.mapHeight, h.mapLength, rfl, rfl, rfl, fun v => ?_⟩
  simp only [AStar.start, AStar.modify, Function.update_apply]
  split_ifs
  · refine .inl ?_
    simp only [AStar.pathNodeInit, h.nodeType startPos.toCell]
    rfl
  · exact .inr ⟨rfl, rfl, h.nodeType v, rfl⟩

/-! ## What is left of a search -/

/-- **A search marks no wall**: its start is not one, or it finds nothing. -/
def MarksNoWall (grid : AStar) (startPos endPos : Vector2) : Prop :=
  grid.walkable startPos.toCell ∨
    ¬∃ v w, v ≠ startPos.toCell ∧ grid.AtGoal endPos v ∧ IsWalk grid.Step startPos.toCell v w

/-- A path that is marked on walkable nodes leaves the grid as it was. -/
lemma SameGrid.markPath (h : SameGrid a b) {fuel : ℕ} {path : Cell} {l : List Cell}
    (hchain : Chain (fun v => (a.posXYNodeDict v).parentNode) path l) (hfuel : l.length < fuel)
    (hwalk : ∀ v ∈ path :: l, b.walkable v) :
    ∃ a', AStar.markPath fuel path [] a = .ok (a', l.map Vector2.onPath) ∧ SameGrid a' b := by
  obtain ⟨a', hmark, hheight, hlength, htype⟩ := @markPath_eq _ _ _ fuel [] hchain hfuel
  refine ⟨a', hmark, hheight.trans h.mapHeight, hlength.trans h.mapLength, fun v => ?_⟩
  by_cases hv : v ∈ path :: l
  · rw [Node.init, htype, if_pos hv, of_decide_eq_true (hwalk v hv)]
    rfl
  · rw [← h.nodeType v, Node.init, Node.init, htype, if_neg hv]

/-- **A search on the same grid** has the same result, and leaves the grid as it was if it marks no
wall. -/
theorem SameGrid.pathSearch (h : SameGrid a b) {startPos : Vector2}
    (hstart : a.contains startPos.toCell) {fuel : ℕ} (hfuel : a.cells.card < fuel) :
    ∃ a' b' result, a.pathSearch fuel startPos endPos = .ok (a', result) ∧
      b.pathSearch fuel startPos endPos = .ok (b', result) ∧
      (MarksNoWall a startPos endPos → SameGrid a' a) := by
  obtain ⟨a₁, path, hrun, hsame, hfound⟩ := searchLoop_start hstart endPos hfuel
  obtain ⟨b₁, hrun', halike⟩ := @Alike.searchLoop a (a.start startPos endPos)
    (b.start startPos endPos) a₁ startPos.toCell startPos.toCell endPos _
    (h.alike_start startPos endPos) (explores_start rfl) fuel path hrun
  unfold AStar.pathSearch
  rw [if_pos hstart, if_pos (h.contains _ ▸ hstart), hrun, hrun']
  cases path with
  | none => exact ⟨a₁, b₁, none, rfl, rfl, fun _ => hsame⟩
  | some goal =>
    obtain ⟨hne, ⟨w, hw⟩, hgoal, l, hchain, hlength, hstep⟩ := hfound goal rfl
    obtain ⟨a', hmark, -⟩ := @markPath_eq _ _ _ fuel [] hchain (hlength.trans_lt hfuel)
    have hmark' := @Alike.markPath a₁ b₁ halike fuel goal []
    rw [hmark] at hmark'
    cases hcase : AStar.markPath fuel goal [] b₁ with
    | error fault =>
      rw [hcase] at hmark'
      cases hmark'
    | ok result =>
      obtain ⟨b', vec2List⟩ := result
      rw [hcase] at hmark'
      obtain rfl : l.map Vector2.onPath = vec2List := Except.ok.inj hmark'
      refine ⟨a', b', some (l.map Vector2.onPath), ?_, ?_, fun hkeeps => ?_⟩
      · simp only [hmark]
        rfl
      · simp only [hcase]
        rfl
      · -- all nodes of the path can be walked on
        have hwalk : a.walkable startPos.toCell := by
          refine hkeeps.resolve_right fun hno => hno ⟨goal, w, hne, hgoal, hw⟩
        obtain ⟨a'', hmark'', hsame'⟩ := hsame.markPath hchain (hlength.trans_lt hfuel)
          fun v hv => (hstep v hv).elim (fun h => h ▸ hwalk) fun ⟨u, hu⟩ => hu.2.2
        rw [hmark] at hmark''
        obtain ⟨rfl, -⟩ := Prod.mk.inj (Except.ok.inj hmark'')
        exact hsame'

/-- A check on the same grid has the same result, and leaves the grid as it was. -/
theorem SameGrid.checkPath (h : SameGrid a b) {startPos : Vector2}
    (hstart : a.contains startPos.toCell) {fuel : ℕ} (hfuel : a.cells.card < fuel) :
    ∃ a' b' result, a.checkPath fuel startPos endPos = .ok (a', result) ∧
      b.checkPath fuel startPos endPos = .ok (b', result) ∧ SameGrid a' a := by
  obtain ⟨a₁, path, hrun, hsame, -⟩ := searchLoop_start hstart endPos hfuel
  obtain ⟨b₁, hrun', -⟩ := @Alike.searchLoop a (a.start startPos endPos)
    (b.start startPos endPos) a₁ startPos.toCell startPos.toCell endPos _
    (h.alike_start startPos endPos) (explores_start rfl) fuel path hrun
  unfold AStar.checkPath
  rw [if_pos hstart, if_pos (h.contains _ ▸ hstart), hrun, hrun']
  exact ⟨a₁, b₁, path.isSome, rfl, rfl, hsame⟩

/-- A node that is set on both grids. -/
lemma SameGrid.setBlock (h : SameGrid a b) (c : Cell) (type : NodeType) :
    SameGrid (a.setBlock c type) (b.setBlock c type) := by
  rw [AStar.setBlock, AStar.setBlock, h.contains c]
  split_ifs
  · refine ⟨h.mapHeight, h.mapLength, fun v => ?_⟩
    simp only [AStar.modify, Function.update_apply]
    split_ifs
    · rfl
    · exact h.nodeType v
  · exact h

end Alike

/-! ## Runs of calls -/

/-- A call of a path finder. -/
inductive Call where
  | pathSearch (startPos endPos : Vector2)
  | checkPath (startPos endPos : Vector2)
  | setBlock (c : Cell) (type : NodeType)
  deriving DecidableEq, Repr

/-- What a call answers. -/
inductive Answer where
  | path (vec2List : Option (List Vector2))
  | reachable (found : Bool)
  | done
  deriving DecidableEq, Repr

/-- **A call** on a path finder. -/
def perform (fuel : ℕ) (aStar : AStar) : Call → Except SearchFault (AStar × Answer)
  | .pathSearch startPos endPos =>
    (aStar.pathSearch fuel startPos endPos).map fun (aStar, path) => (aStar, .path path)
  | .checkPath startPos endPos =>
    (aStar.checkPath fuel startPos endPos).map fun (aStar, found) => (aStar, .reachable found)
  | .setBlock c type => .ok (aStar.setBlock c type, .done)

/-- The nodes that a call sets. -/
def Call.blocks : Call → List (Cell × NodeType)
  | .setBlock c type => [(c, type)]
  | _ => []

/-- A path finder in use, with the nodes that have been set so far. -/
structure Use where
  aStar : AStar
  blocks : List (Cell × NodeType)

/-- A call is made. -/
def Use.next (fuel : ℕ) (used : Use) (call : Call) : Use where
  aStar := ((perform fuel used.aStar call).toOption.map Prod.fst).getD used.aStar
  blocks := used.blocks ++ call.blocks

/-- The start of a search is a node of the grid. -/
def Call.InGrid (mapHeight mapLength : ℤ) : Call → Bool
  | .pathSearch startPos _ | .checkPath startPos _ =>
    (AStar.initMap mapHeight mapLength).contains startPos.toCell
  | .setBlock _ _ => true

/-- **A call answers as on a fresh grid** with the nodes that have been set so far. -/
def AsFresh (fuel : ℕ) (mapHeight mapLength : ℤ) (used : Use) (call : Call) : Prop :=
  ∃ aStar fresh answer, perform fuel used.aStar call = .ok (aStar, answer) ∧
    perform fuel (AStar.build mapHeight mapLength used.blocks) call = .ok (fresh, answer)

/-- A call does not mark a wall. -/
def Keeps (used : Use) : Call → Prop
  | .pathSearch startPos endPos => MarksNoWall used.aStar startPos endPos
  | _ => True

/-- **One call** answers as on a fresh grid, and leaves the grid as it was if it marks no wall. -/
lemma asFresh_step {mapHeight mapLength : ℤ} {fuel : ℕ} (hfuel : mapHeight * mapLength < fuel)
    {used : Use} (h : SameGrid used.aStar (AStar.build mapHeight mapLength used.blocks))
    {call : Call} (hgrid : call.InGrid mapHeight mapLength) :
    AsFresh fuel mapHeight mapLength used call ∧ (Keeps used call →
      SameGrid (used.next fuel call).aStar
        (AStar.build mapHeight mapLength (used.next fuel call).blocks)) := by
  obtain ⟨hheight, hlength⟩ := AStar.build_size mapHeight mapLength used.blocks
  have hcontains : ∀ c, used.aStar.contains c = (AStar.initMap mapHeight mapLength).contains c := by
    intro c
    rw [h.contains, AStar.contains, AStar.contains, hheight, hlength]
    rfl
  have hcard : ∀ c, used.aStar.contains c → used.aStar.cells.card < fuel := by
    intro c hc
    obtain ⟨⟨h1, h2⟩, h3, h4⟩ := AStar.contains_iff.mp hc
    rw [AStar.card_cells]
    zify
    rw [Int.toNat_of_nonneg (by omega), Int.toNat_of_nonneg (by omega), h.mapHeight, hheight,
      h.mapLength, hlength]
    exact hfuel
  cases call with
  | pathSearch startPos endPos =>
    have hstart : used.aStar.contains startPos.toCell := (hcontains _).trans hgrid
    obtain ⟨a', b', result, hrun, hrun', hsame⟩ :=
      @SameGrid.pathSearch _ _ endPos h startPos hstart fuel (hcard _ hstart)
    have hperform : perform fuel used.aStar (.pathSearch startPos endPos) =
        .ok (a', .path result) := by
      rw [perform, hrun]
      rfl
    refine ⟨⟨a', b', .path result, hperform, by rw [perform, hrun']; rfl⟩, fun hkeeps => ?_⟩
    rw [Use.next, hperform]
    simp only [Call.blocks, List.append_nil]
    exact (hsame hkeeps).trans h
  | checkPath startPos endPos =>
    have hstart : used.aStar.contains startPos.toCell := (hcontains _).trans hgrid
    obtain ⟨a', b', result, hrun, hrun', hsame⟩ :=
      @SameGrid.checkPath _ _ endPos h startPos hstart fuel (hcard _ hstart)
    have hperform : perform fuel used.aStar (.checkPath startPos endPos) =
        .ok (a', .reachable result) := by
      rw [perform, hrun]
      rfl
    refine ⟨⟨a', b', .reachable result, hperform, by rw [perform, hrun']; rfl⟩, fun _ => ?_⟩
    rw [Use.next, hperform]
    simp only [Call.blocks, List.append_nil]
    exact hsame.trans h
  | setBlock c type =>
    refine ⟨⟨_, _, .done, rfl, rfl⟩, fun _ => ?_⟩
    rw [Use.next]
    simp only [Call.blocks, AStar.build, List.foldl_append]
    exact h.setBlock c type

/-- **As long as no call marks a wall** all calls answer as on a fresh grid. -/
theorem asFresh_run (mapHeight mapLength : ℤ) (fuel : ℕ) (hfuel : mapHeight * mapLength < fuel)
    (calls : List Call) (hgrid : ∀ call ∈ calls, call.InGrid mapHeight mapLength)
    (hkeeps : Runs.EveryStep (Use.next fuel) Keeps
      ⟨AStar.initMap mapHeight mapLength, []⟩ calls) :
    Runs.EveryStep (Use.next fuel) (AsFresh fuel mapHeight mapLength)
      ⟨AStar.initMap mapHeight mapLength, []⟩ calls := by
  -- the grid is the fresh one as far as searches see it, whatever calls are still to come
  let inv : Use → List Call → Prop := fun used calls =>
    SameGrid used.aStar (AStar.build mapHeight mapLength used.blocks) ∧
      ∀ call ∈ calls, call.InGrid mapHeight mapLength
  refine Runs.everyStep_of_inv inv ?_ ?_ ⟨⟨rfl, rfl, fun _ => rfl⟩, hgrid⟩ hkeeps
  · rintro used call calls ⟨h, hin⟩ hcall
    refine ⟨(asFresh_step hfuel h (hin call List.mem_cons_self)).2 hcall, fun c hc => ?_⟩
    exact hin c (List.mem_cons_of_mem _ hc)
  · rintro used call calls ⟨h, hin⟩ -
    exact (asFresh_step hfuel h (hin call List.mem_cons_self)).1

/-- Two searches between inner nodes and a wall that is set between them. -/
theorem asFresh_run_wall :
    Runs.EveryStep (Use.next 26) (AsFresh 26 5 5) ⟨AStar.initMap 5 5, []⟩
      [.pathSearch (Vector2.ofCell (1, 1)) (Vector2.ofCell (1, 3)), .setBlock (1, 2) .block,
        .checkPath (Vector2.ofCell (1, 1)) (Vector2.ofCell (1, 3))] :=
  asFresh_run 5 5 26 (by decide) _ (by decide)
    ⟨.inl (by decide), trivial, trivial, trivial⟩

/-- **A search from the boundary opens it**: the node `(0, 1)` is not reachable on the grid of three
rows and columns, but it is after a search that starts there. -/
theorem not_asFresh :
    ¬∀ (mapHeight mapLength : ℤ) (calls : List Call),
      (∀ call ∈ calls, call.InGrid mapHeight mapLength) →
      ∀ fuel : ℕ, mapHeight * mapLength < fuel →
        Runs.EveryStep (Use.next fuel) (AsFresh fuel mapHeight mapLength)
          ⟨AStar.initMap mapHeight mapLength, []⟩ calls := by
  intro h
  obtain ⟨-, ⟨aStar, fresh, answer, hused, hfresh⟩, -⟩ := h 3 3
    [.pathSearch (Vector2.ofCell (0, 1)) (Vector2.ofCell (1, 1)),
      .checkPath (Vector2.ofCell (1, 1)) (Vector2.ofCell (0, 1))] (by decide) 10 (by decide)
  have hfound : (perform 10 (Use.next 10 ⟨AStar.initMap 3 3, []⟩
      (.pathSearch (Vector2.ofCell (0, 1)) (Vector2.ofCell (1, 1)))).aStar
      (.checkPath (Vector2.ofCell (1, 1)) (Vector2.ofCell (0, 1)))).toOption.map Prod.snd =
        some (.reachable true) := by
    decide +kernel
  have hnone : (perform 10 (AStar.initMap 3 3)
      (.checkPath (Vector2.ofCell (1, 1)) (Vector2.ofCell (0, 1)))).toOption.map Prod.snd =
        some (.reachable false) := by
    decide +kernel
  rw [hused] at hfound
  have hfresh' : perform 10 (AStar.initMap 3 3)
      (.checkPath (Vector2.ofCell (1, 1)) (Vector2.ofCell (0, 1))) = .ok (fresh, answer) := hfresh
  rw [hfresh'] at hnone
  have hboth : some (Answer.reachable true) = some (Answer.reachable false) :=
    hfound.symm.trans hnone
  cases hboth

end SrgpGame.Fight
