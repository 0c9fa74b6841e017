import SrgpGame.Lib.Single
import Mathlib.Logic.Function.Basic

set_option autoImplicit false

/-!
# The path finder of a fight

`AStar` looks for shortest paths on the grid of a fight. A search first resets all nodes of the
grid, then expands nodes until it meets the goal or has nothing left to expand, and at last marks
the path that it found in the types of its nodes.

## Main definitions

* `AStar` — the grid with its nodes, and the lists of a search.
* `AStar.initMap`, `AStar.setBlock` — how a grid is made.
* `AStar.pathSearch`, `AStar.checkPath` — the searches.

## Design notes

Coordinates and path lengths are of type `float` in the source; here they are counted in halves,
with the rounding that the type has (`Single`). A reference to a node is its row and column, the
keys of the table, and `pos` and `neighbourNodes`, which `initMap` sets once, are computed from
them. The loops have a bound on their rounds, `fuel`. The overload of `pathSearch` that takes a
table resets the nodes of this table before it calls the other one.
-/

namespace SrgpGame.Fight

/-- `NodeType`: the kinds of nodes. -/
inductive NodeType where
  | boundary
  | movable
  | block
  /-- The node is on the path that a search found. -/
  | aStarPath
  deriving DecidableEq, Repr

/-- `AStarState`: what a search has done with a node. -/
inductive AStarState where
  | free
  | isInOpenList
  | isInCloseList
  deriving DecidableEq, Repr

/-- `Vector2`: two `float`s, counted in halves. -/
structure Vector2 where
  x : ℤ
  y : ℤ
  deriving DecidableEq, Repr

/-- A row and a column. -/
abbrev Cell := ℤ × ℤ

namespace Vector2

/-- `new Vector2(i, j)`. -/
def ofCell (c : Cell) : Vector2 := ⟨Single.ofInt c.1, Single.ofInt c.2⟩

/-- `new Vector2(path.pos.x + 0.5f, path.pos.y)`: the position that is returned for a node. -/
def onPath (c : Cell) : Vector2 := ⟨Single.add (ofCell c).x 1, (ofCell c).y⟩

/-- The keys that are looked up for a position. -/
def toCell (pos : Vector2) : Cell := (Single.toInt pos.x, Single.toInt pos.y)

/-- `distance`. The root is whole for positions that share a coordinate. -/
def distance (pos1 pos2 : Vector2) : ℤ :=
  Nat.sqrt ((Single.sub pos1.x pos2.x).natAbs ^ 2 + (Single.sub pos1.y pos2.y).natAbs ^ 2)

end Vector2

/-- `Node`, without its place. -/
structure Node where
  nodeType : NodeType
  aStarState : AStarState
  parentNode : Option Cell
  F : ℤ
  G : ℤ
  H : ℤ
  deriving DecidableEq, Repr

/-- `init`. The numbers that the source sets here are variables of the method, not the fields. -/
def Node.init (node : Node) : Node :=
  { node with
    parentNode := none
    aStarState := .free
    nodeType := if node.nodeType = .aStarPath then .movable else node.nodeType }

/-- A node that is met: its way comes from `parent`. -/
def Node.meet (parent : Cell) (G H : ℤ) (node : Node) : Node :=
  { node with
    parentNode := some parent, G := G, H := H, F := Single.add G H, aStarState := .isInOpenList }

/-- A node that is met again on a shorter way. -/
def Node.reparent (parent : Cell) (G : ℤ) (node : Node) : Node :=
  { node with parentNode := some parent, G := G, F := Single.add G node.H }

/-- **`AStar`**, with a table of `mapHeight` rows and `mapLength` columns. -/
structure AStar where
  mapHeight : ℤ
  mapLength : ℤ
  posXYNodeDict : Cell → Node
  openList : List Cell
  closeList : List Cell
  globalEndPos : Vector2

/-- How a search can fail. -/
inductive SearchFault where
  /-- There is no node at the start. -/
  | nullPointer
  | outOfFuel
  deriving DecidableEq, Repr

namespace AStar

/-- `posXYNodeDict.contains`. -/
def contains (aStar : AStar) (c : Cell) : Bool :=
  0 ≤ c.1 && c.1 < aStar.mapHeight && (0 ≤ c.2 && c.2 < aStar.mapLength)

/-- Changes a node in place. -/
def modify (aStar : AStar) (c : Cell) (f : Node → Node) : AStar :=
  { aStar with
    posXYNodeDict := Function.update aStar.posXYNodeDict c (f (aStar.posXYNodeDict c)) }

/-! ## The grid -/

/-- `initMap`, on a new path finder: a boundary around movable nodes. -/
def initMap (mapHeight mapLength : ℤ) : AStar where
  mapHeight := mapHeight
  mapLength := mapLength
  posXYNodeDict := fun (i, j) =>
    { nodeType :=
        if i = 0 then .boundary
        else if j = 0 then .boundary
        else if i = mapHeight - 1 then .boundary
        else if j = mapLength - 1 then .boundary
        else .movable
      aStarState := .free
      parentNode := none
      F := 0
      G := 0
      H := 0 }
  openList := []
  closeList := []
  globalEndPos := ⟨0, 0⟩

/-- `neighbourNodes`: up, down, left and right, where there are nodes. -/
def neighbourNodes (aStar : AStar) (c : Cell) : List Cell :=
  [(c.1, c.2 + 1), (c.1, c.2 - 1), (c.1 - 1, c.2), (c.1 + 1, c.2)].filter aStar.contains

/-- `setBlock`. Without a type it is `NodeType.block`. -/
def setBlock (aStar : AStar) (c : Cell) (type : NodeType) : AStar :=
  if aStar.contains c then aStar.modify c fun node => { node with nodeType := type } else aStar

/-! ## The search -/

/-- `pathNodeInit`. -/
def pathNodeInit (aStar : AStar) : AStar :=
  { aStar with posXYNodeDict := fun c => (aStar.posXYNodeDict c).init }

/-- The estimate `H` of a node. -/
def estimate (aStar : AStar) (c : Cell) : ℤ :=
  Single.add |Single.sub aStar.globalEndPos.x (Vector2.ofCell c).x|
    |Single.sub aStar.globalEndPos.y (Vector2.ofCell c).y|

/-- What both searches do before their loops: only the start is closed. -/
def start (aStar : AStar) (startPos endPos : Vector2) : AStar :=
  let aStar :=
    { aStar.pathNodeInit with openList := [], closeList := [], globalEndPos := endPos }
  let A := startPos.toCell
  let H := aStar.estimate A
  { aStar.modify A fun node =>
      { node with
        G := 0
        H := H
        F := Single.add 0 H
        parentNode := none
        aStarState := .isInCloseList } with
    closeList := [A] }

/-- The edge from `A` to a neighbour `B`, and whether `B` is the goal. -/
def visit (aStar : AStar) (A B : Cell) : AStar × Bool :=
  let nodeB := aStar.posXYNodeDict B
  let nodeA := aStar.posXYNodeDict A
  if nodeB.nodeType ≠ .movable then (aStar, false)
  else
    let curG := Single.round (Vector2.distance (Vector2.ofCell A) (Vector2.ofCell B))
    match nodeB.aStarState with
    | .isInOpenList =>
      if Single.add curG nodeA.G < nodeB.G then
        (aStar.modify B (Node.reparent A (Single.add curG nodeA.G)), false)
      else (aStar, false)
    | .free =>
      let H := aStar.estimate B
      let aStar := aStar.modify B (Node.meet A (Single.add curG nodeA.G) H)
      -- the least positive number is `Float.MIN_VALUE`
      ({ aStar with openList := aStar.openList ++ [B] }, H ≤ 0)
    | .isInCloseList => (aStar, false)

/-- The loop of `aStarSearch` over the neighbours of `A`. -/
def visitAll (A : Cell) : List Cell → AStar → AStar × Option Cell
  | [], aStar => (aStar, none)
  | B :: neighbours, aStar =>
    match aStar.visit A B with
    | (aStar, true) => (aStar, some B)
    | (aStar, false) => visitAll A neighbours aStar

/-- `aStarSearch`: the neighbours of `A`; the goal if it is one of them that was free. -/
def aStarSearch (aStar : AStar) (A : Cell) : AStar × Option Cell :=
  visitAll A (aStar.neighbourNodes A) aStar

/-- The first node of the open list with the least `F`; `A` if the list is empty. -/
def leastF (aStar : AStar) (A : Cell) : Cell :=
  aStar.openList.foldl
    (fun A B => if (aStar.posXYNodeDict B).F < (aStar.posXYNodeDict A).F then B else A)
    (aStar.openList.headD A)

/-- A node whose neighbours have been looked at. -/
def close (aStar : AStar) (A : Cell) : AStar :=
  { aStar.modify A fun node => { node with aStarState := .isInCloseList } with
    openList := aStar.openList.erase A
    closeList := aStar.closeList ++ [A] }

/-- The loop of a search: the goal when it is met, nothing when the open list gets empty. -/
def searchLoop : ℕ → Cell → AStar → Except SearchFault (AStar × Option Cell)
  | 0, _, _ => .error .outOfFuel
  | fuel + 1, A, aStar =>
    let A := aStar.leastF A
    match aStar.aStarSearch A with
    | (aStar, some path) => .ok (aStar, some path)
    | (aStar, none) =>
      let aStar := aStar.close A
      if aStar.openList = [] then .ok (aStar, none) else searchLoop fuel A aStar

/-- The way back from the goal: marks its nodes and collects their positions. -/
def markPath : ℕ → Cell → List Vector2 → AStar → Except SearchFault (AStar × List Vector2)
  | 0, _, _, _ => .error .outOfFuel
  | fuel + 1, path, vec2List, aStar =>
    let aStar := aStar.modify path fun node => { node with nodeType := .aStarPath }
    match (aStar.posXYNodeDict path).parentNode with
    | none => .ok (aStar, vec2List)
    | some parent => markPath fuel parent (vec2List ++ [Vector2.onPath parent]) aStar

/-- **`pathSearch`**: the way back from the goal to the start. -/
def pathSearch (fuel : ℕ) (aStar : AStar) (startPos endPos : Vector2) :
    Except SearchFault (AStar × Option (List Vector2)) :=
  if aStar.contains startPos.toCell then
    match searchLoop fuel startPos.toCell (aStar.start startPos endPos) with
    | .error fault => .error fault
    | .ok (aStar, none) => .ok (aStar, none)
    | .ok (aStar, some path) =>
      (markPath fuel path [] aStar).map fun (aStar, vec2List) => (aStar, some vec2List)
  else .error .nullPointer

/-- **`checkPath`**: whether there is a way. -/
def checkPath (fuel : ℕ) (aStar : AStar) (startPos endPos : Vector2) :
    Except SearchFault (AStar × Bool) :=
  if aStar.contains startPos.toCell then
    (searchLoop fuel startPos.toCell (aStar.start startPos endPos)).map
      fun (aStar, path) => (aStar, path.isSome)
  else .error .nullPointer

end AStar

end SrgpGame.Fight
