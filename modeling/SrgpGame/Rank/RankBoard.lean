import SrgpGame.Lib.BinarySearch
import SrgpGame.Lib.Machine
import SrgpGame.Lib.Method
import SrgpGame.Lib.SubList

set_option autoImplicit false

/-!
# Rank boards

A rank board keeps one object for every key, with the value by which it is ranked, and a list of
these objects sorted by a comparator. The objects are shared between the key map and the list and
are changed in place: an update finds the object in the list by binary search, takes it out,
changes it, and puts it back where a second search says.

## Main definitions

* `RankObj`, `RankObjUtil` — an object, and what makes objects of values and compares them.
* `RankBoard` — the board, with a heap for the shared objects.
* `RankBoard.innerUpdate`, `RankBoard.getRank` — an update, and the rank of a value.
* `RankBoard.load` — a saved value is put on the board.
* `RankBoard.getKeysAround`, `RankBoard.getRankInfo` — the neighbours of a key, and the objects from
  one rank to another.

## Design notes

A reference is a position in `objs`, the objects in the order of their creation. The index that
`indexCreator.incrementAndGet()` would hand out is an argument of an update: the counter is shared
by all boards. The index is also written into the value (`ixSetter`), which no method here reads.
What is shown of the objects (`viewFunction`) and the greatest number of them that is shown
(`MAX_RANK_NUM`) are arguments of `getRankInfo`.
-/

namespace SrgpGame.Rank

/-- `RankObj`: an object of the board. -/
structure RankObj (κ : Type) where
  key : κ
  sort1 : Int64
  sort2 : Int64
  ix : Int64
  deriving DecidableEq, Repr

/-- `CacheRank.DEFAULT_Comp`: greater values first, then the second value. -/
def defaultComp {κ : Type} (a b : RankObj κ) : Ordering :=
  (compare b.sort1 a.sort1).then (compare a.sort2 b.sort2)

/-- `RankObjUtil`: how values become objects, and how objects are compared. -/
structure RankObjUtil (T κ : Type) where
  keyGetter : T → κ
  sort1Getter : T → Int64
  /-- May be missing. -/
  sort2Getter : Option (T → Int64)
  /-- Whether there is an `ixSetter`; only then objects get an index. -/
  ixSetter : Bool
  /-- The comparator that the utility was made with. -/
  userComparator : RankObj κ → RankObj κ → Ordering

namespace RankObjUtil

variable {T κ : Type} (utils : RankObjUtil T κ)

/-- The comparator of the board: the one given, then the index. -/
def comparator (a b : RankObj κ) : Ordering := (utils.userComparator a b).then (compare a.ix b.ix)

/-- `updateObj`, with the index that the counter hands out. -/
def updateObj (val : T) (n : RankObj κ) (freshIx : Int64) : RankObj κ where
  key := utils.keyGetter val
  sort1 := utils.sort1Getter val
  sort2 := (utils.sort2Getter.map (· val)).getD n.sort2
  ix := if utils.ixSetter then freshIx else n.ix

/-- `newObj`: an object whose numbers are all zero, updated. -/
def newObj (val : T) (freshIx : Int64) : RankObj κ :=
  utils.updateObj val ⟨utils.keyGetter val, 0, 0, 0⟩ freshIx

/-- `loadObj`: an object whose numbers are all zero, with those of a value. It gets no index. -/
def loadObj (val : T) : RankObj κ where
  key := utils.keyGetter val
  sort1 := utils.sort1Getter val
  sort2 := (utils.sort2Getter.map (· val)).getD 0
  ix := 0

/-- `noChange`: whether an object already has the numbers of a value. -/
def noChange (val : T) (n : RankObj κ) : Bool :=
  utils.sort1Getter val = n.sort1 && utils.sort2Getter.all fun sort2 => sort2 val = n.sort2

end RankObjUtil

/-- `RankBoard`: the sorted list and the key map, both with references to objects. -/
structure RankBoard (κ : Type) where
  /-- The objects that references lead to. -/
  objs : List (RankObj κ)
  sortedVal : List ℕ
  allObj : AList fun _ : κ => ℕ

/-- What an update can throw. -/
inductive RankFault where
  /-- `RuntimeException("add duplicated element into sortedLst")`. -/
  | duplicated
  /-- A reference that leads nowhere; there is none in Java. -/
  | dangling
  deriving DecidableEq, Repr

/-- What `subList` can throw. -/
inductive SubListFault where
  | indexOutOfBounds
  | illegalArgument
  deriving DecidableEq, Repr

namespace RankBoard

variable {T κ : Type}

/-- A new board. -/
def create : RankBoard κ := ⟨[], [], ∅⟩

/-- The objects of the sorted list. -/
def sortedObjs (board : RankBoard κ) : List (RankObj κ) :=
  board.sortedVal.filterMap (board.objs[·]?)

/-- The keys in the order of the ranking. -/
def keys (board : RankBoard κ) : List κ := board.sortedObjs.map RankObj.key

/-- **`getRankInfo`**: what is shown of the objects from one rank to another. -/
def getRankInfo {M : Type} (board : RankBoard κ) (viewFunction : List (RankObj κ) → M)
    (maxRankNum start end' : Int32) : Except SubListFault M :=
  let size : Int32 := .ofNat board.sortedVal.length
  let maxNum := min size maxRankNum
  let end' := if end' < 0 then maxNum else end'
  let fromIndex := max 0 start
  let toIndex := min maxNum end'
  if fromIndex < 0 then .error .indexOutOfBounds
  else if size < toIndex then .error .indexOutOfBounds
  else if toIndex < fromIndex then .error .illegalArgument
  else .ok (viewFunction (SubList.subList board.sortedObjs fromIndex.toInt.toNat
    toIndex.toInt.toNat))

variable (utils : RankObjUtil T κ)

/-- How the object at a position of the list compares with `obj`. -/
def compareAt (board : RankBoard κ) (obj : RankObj κ) (i : ℕ) : Ordering :=
  match (board.sortedVal[i]?).bind (board.objs[·]?) with
  | some x => utils.comparator x obj
  | none => .gt

/-- `Collections.binarySearch(sortedVal, obj, utils.comparator)`. -/
def search (board : RankBoard κ) (obj : RankObj κ) : ℤ :=
  BinarySearch.binarySearch (board.compareAt utils obj) board.sortedVal.length

/-- `add`: puts an object where the search says that it belongs. -/
def add (ref : ℕ) (obj : RankObj κ) : EStateM RankFault (RankBoard κ) Unit := do
  let board ← get
  let search := board.search utils obj
  if search < 0 then
    set { board with sortedVal := board.sortedVal.insertIdx (-search - 1).toNat ref }
  else throw .duplicated

variable [DecidableEq κ]

/-- **An update**: the index of the object, or `-1` when it is not found in the list. -/
def innerUpdate (val : T) (freshIx : Int64) : EStateM RankFault (RankBoard κ) Int64 := do
  let board ← get
  let key := utils.keyGetter val
  match board.allObj.lookup key with
  | none =>
    let obj := utils.newObj val freshIx
    let ref := board.objs.length
    set { board with objs := board.objs ++ [obj], allObj := board.allObj.insert key ref }
    add utils ref obj
    return obj.ix
  | some ref =>
    match board.objs[ref]? with
    | none => throw .dangling
    | some obj =>
      if utils.noChange val obj then return obj.ix
      else
        let idx := board.search utils obj
        if 0 ≤ idx then
          let obj := utils.updateObj val obj freshIx
          set { board with
            objs := board.objs.set ref obj, sortedVal := board.sortedVal.eraseIdx idx.toNat }
          add utils ref obj
          return obj.ix
        else return -1

/-- **`load`**: a value of a key that is not on the board is put on it. -/
def load (val : T) : EStateM RankFault (RankBoard κ) Unit := do
  let board ← get
  let key := utils.keyGetter val
  match board.allObj.lookup key with
  | none =>
    let obj := utils.loadObj val
    let ref := board.objs.length
    set { board with objs := board.objs ++ [obj], allObj := board.allObj.insert key ref }
    add utils ref obj
  | some _ => return

/-- `getKeysAround(key, lowerRange, upperRange)`: up to `lowerRange` keys before a key, and after it
up to `upperRange` and as many as there are too few before it. -/
def getKeysAroundRanges (board : RankBoard κ) (key : Option κ) (lowerRange upperRange : Int32) :
    List κ :=
  match key.bind fun key => (board.allObj.lookup key).bind (board.objs[·]?) with
  | none => []
  | some obj =>
    let ix : Int32 := .ofInt (board.search utils obj)
    if ix < 0 then []
    else
      let size : Int32 := .ofNat board.sortedVal.length
      let lower := SubList.subList board.keys (max 0 (ix - lowerRange)).toInt.toNat ix.toInt.toNat
      let delta := lowerRange - .ofNat lower.length
      let upperRange := upperRange + delta
      let upper := min (upperRange + ix) (size - 1)
      lower ++ SubList.subList board.keys (ix + 1).toInt.toNat (upper.toInt + 1).toNat

/-- **`getKeysAround(key, range)`**: the neighbours of a key. -/
def getKeysAround (board : RankBoard κ) (key : Option κ) (range : Int32) : List κ :=
  board.getKeysAroundRanges utils key (range / 2) (range - range / 2)

/-- `getRank`: the position of the object of a value, `-1` when there is none. -/
def getRank (board : RankBoard κ) (val : Option T) : ℤ :=
  match val with
  | none => -1
  | some val =>
    match (board.allObj.lookup (utils.keyGetter val)).bind (board.objs[·]?) with
    | none => -1
    | some obj => board.search utils obj

/-- The board after an update. -/
def next (board : RankBoard κ) (update : T × Int64) : RankBoard κ :=
  (innerUpdate utils update.1 update.2).finalState board

end RankBoard

end SrgpGame.Rank
