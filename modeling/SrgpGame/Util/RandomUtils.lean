import Mathlib.Data.Finset.Image
import Mathlib.Data.List.Sort
import Mathlib.Data.Nat.Count
import SrgpGame.Func.Weight

set_option autoImplicit false

/-!
# Random choices

`RandomUtils` chooses at random: an id by weight, some keys of a map by weight, an index by rate,
some elements of a pool.

## Main definitions

* `Converter.toInteger`, `split` — how a configuration is read from a text.
* `Draw` — what is left of a method that draws one number.
* `drawOfString`, `drawOfMap`, `randomString` — the choice of an id.
* `randomKeys`, `randomIX`, `randomByWeight`, `randomPool` — the other choices.

## Design notes

A map is an association list, which has the entries in the order of an iteration. Two maps are equal
if their entries are the same in any order; a map that is a key of a cache does not change. A list
is as long as it takes: memory is not limited. What `Character.digit` knows of a character is a
parameter, and so is `GameUtil.checkIntFlag`.
-/

namespace SrgpGame.Util

open EStateM
open Func (Rng nextInt)

/-! ## Reading a configuration -/

/-- `String.split` at a character: the parts, without empty ones at the end. A text without the
character is one part. -/
def split (c : Char) (s : List Char) : List (List Char) :=
  if c ∈ s then ((s.splitOn c).reverse.dropWhile List.isEmpty).reverse else [s]

section Text

variable (digit : Char → Option ℕ)

/-- `Integer.parseInt`, nothing when it throws. -/
def parseInt (s : List Char) : Option Int32 :=
  let negative := s.head? = some '-'
  let digits := if negative ∨ s.head? = some '+' then s.tail else s
  if digits = [] then none
  else
    match digits.mapM digit with
    | none => none
    | some ds =>
      let magnitude : ℤ := ds.foldl (fun n d => 10 * n + d) 0
      let value := if negative then -magnitude else magnitude
      if -2 ^ 31 ≤ value ∧ value < 2 ^ 31 then some (Int32.ofInt value) else none

/-- `Converter.toInteger`: zero for a text that is no integer. -/
def Converter.toInteger (s : List Char) : Int32 :=
  if s = [] then 0 else (parseInt digit s).getD 0

/-- One round of the loop that reads a configuration. -/
def readInfo (acc : Int32 × List (Int32 × Int32)) (idInfo : List Char) :
    Except Thrown (Int32 × List (Int32 × Int32)) :=
  match split ':' idInfo with
  | id :: weight :: _ =>
    let id := Converter.toInteger digit id
    let weight := Converter.toInteger digit weight
    .ok (acc.1 + weight, acc.2 ++ [(id, weight)])
  | _ => .error .indexOutOfBounds

/-- The sum of the weights and the entries of a configuration `id:weight,id:weight`. -/
def readConfig (str : String) : Except Thrown (Int32 × List (Int32 × Int32)) :=
  (split ',' str.toList).foldlM (readInfo digit) (0, [])

end Text

/-! ## An id by weight -/

/-- **What is left of a method** when it draws a number: the bound of the number, and the result for
each number, nothing if the method comes to its end without one. -/
structure Draw where
  bound : Int32
  result : Int32 → Option Int32

/-- The rest of the method. -/
def Draw.run (draw : Draw) : EStateM Thrown Rng Int32 := do
  let random ← nextInt draw.bound
  return (draw.result random).getD 0

/-- The loop over the entries, from a random number on. -/
def walk : List (Int32 × Int32) → Int32 → Option Int32
  | [], _ => none
  | (id, weight) :: config, randomAuth =>
    if randomAuth ≤ weight then some id else walk config (randomAuth - weight)

/-- The caches of sums and of configurations that were read. -/
structure Caches where
  /-- `CACHE`, by map. -/
  cache : List ((AList fun _ : Int32 => Int32) × Int32)
  /-- `randomCache`, by text. -/
  randomCache : AList fun _ : String => Int32 × List (Int32 × Int32)

/-- The caches at first. -/
def Caches.empty : Caches := ⟨[], ∅⟩

/-- `CACHE.get`. -/
def Caches.get (caches : Caches) (config : AList fun _ : Int32 => Int32) : Option Int32 :=
  (caches.cache.find? fun e => decide (e.1.entries.Perm config.entries)).map Prod.snd

/-- `CACHE.putIfAbsent`. -/
def Caches.putIfAbsent (caches : Caches) (config : AList fun _ : Int32 => Int32)
    (totalWeight : Int32) : Caches :=
  if (caches.get config).isSome then caches
  else { caches with cache := (config, totalWeight) :: caches.cache }

/-- The entries of a map. -/
def entriesOf (config : AList fun _ : Int32 => Int32) : List (Int32 × Int32) :=
  config.entries.map fun e => (e.1, e.2)

/-- The sum of the weights of a map. -/
def sumWeights (config : AList fun _ : Int32 => Int32) : Int32 :=
  (entriesOf config).foldl (fun sum e => sum + e.2) 0

/-- `random(str)` up to the random number, for a text with a separator. -/
def drawOfString (digit : Char → Option ℕ) (str : String) : EStateM Thrown Caches Draw := do
  let caches ← get
  let reference ←
    match caches.randomCache.lookup str with
    | some reference => pure reference
    | none => do
      let reference ← ofExcept fun _ => readConfig digit str
      modify fun caches =>
        { caches with randomCache := caches.randomCache.insert str reference }
      pure reference
  return ⟨reference.1 + 1, walk reference.2⟩

/-- `random(config, useCache)` up to the random number, for a map with entries. -/
def drawOfMap (config : AList fun _ : Int32 => Int32) (useCache : Bool) :
    EStateM Thrown Caches Draw := do
  let caches ← get
  let totalWeight ←
    match if useCache then caches.get config else none with
    | some totalWeight => pure totalWeight
    | none => do
      let totalWeight := sumWeights config
      if useCache then modify fun caches => caches.putIfAbsent config totalWeight
      pure totalWeight
  return ⟨totalWeight, fun random => walk (entriesOf config) (random + 1)⟩

/-- What the methods that choose an id work on. -/
structure RandomState where
  caches : Caches
  rng : Rng

/-- A method on the caches. -/
def onCaches {α : Type} : EStateM Thrown Caches α → EStateM Thrown RandomState α :=
  zoom RandomState.caches fun caches s => { s with caches := caches }

/-- A method on the generator. -/
def onRng {α : Type} : EStateM Thrown Rng α → EStateM Thrown RandomState α :=
  zoom RandomState.rng fun rng s => { s with rng := rng }

/-- **`random(str)`**: a text without a separator is the id. -/
def randomString (digit : Char → Option ℕ) (str : String) : EStateM Thrown RandomState Int32 :=
  if ',' ∉ str.toList ∧ ':' ∉ str.toList then pure (Converter.toInteger digit str.toList)
  else do
    let draw ← onCaches (drawOfString digit str)
    onRng draw.run

/-! ## Keys by weight -/

/-- `count` random numbers from one to `totalWeight`. -/
def randomWeights (totalWeight : Int32) : ℕ → EStateM Thrown Rng (List Int32)
  | 0 => pure []
  | count + 1 => do
    let random ← nextInt totalWeight
    let randomWeight ← randomWeights totalWeight count
    return (random + 1) :: randomWeight

/-- The loop over the entries: whenever the sum of the weights reaches the least of the numbers that
are left, the key is taken and the number is done. It ends when no number is left. -/
def takeReached : List (Int32 × Int32) → Int32 → List Int32 → Finset Int32 →
    List Int32 × Finset Int32
  | [], _, randomWeight, result => (randomWeight, result)
  | _ :: _, _, [], result => ([], result)
  | (key, value) :: entries, weight, least :: randomWeight, result =>
    let weight := weight + value
    if least ≤ weight then takeReached entries weight randomWeight (insert key result)
    else takeReached entries weight (least :: randomWeight) result

/-- The loop that fills up with the keys that are left. -/
def fillUp : List Int32 → List Int32 → Finset Int32 → Finset Int32
  | [], _, result => result
  | _ :: _, [], result => result
  | key :: keys, least :: randomWeight, result =>
    if key ∈ result then fillUp keys (least :: randomWeight) result
    else fillUp keys randomWeight (insert key result)

/-- **`random(size, totalWeight, data)`**. -/
def randomKeys (size totalWeight : Int32) (data : AList fun _ : Int32 => Int32) :
    EStateM Thrown Rng (Finset Int32) := do
  let randomWeight ← randomWeights totalWeight size.toInt.toNat
  let randomWeight := randomWeight.mergeSort fun a b => a ≤ b
  let (randomWeight, result) := takeReached (entriesOf data) 0 randomWeight ∅
  return fillUp ((entriesOf data).map Prod.fst).reverse randomWeight result

/-! ## An index by rate -/

/-- The first loop of `randomIX`: the first index of negative rate that is not used, or the sum of
the rates that are not used, and these rates, with zero for those that are. -/
def collectRates (used : ℕ → Bool) :
    ℕ → List Int32 → Int32 × List Int32 → ℕ ⊕ (Int32 × List Int32)
  | _, [], acc => .inr acc
  | i, rate :: rates, (sum, tmp) =>
    if used i then collectRates used (i + 1) rates (sum, tmp ++ [0])
    else if rate < 0 then .inl i
    else collectRates used (i + 1) rates (sum + rate, tmp ++ [rate])

/-- The second loop of `randomIX`: the index at which the sum exceeds the random number. -/
def indexAt (random : Int32) : ℕ → List Int32 → Int32 → Option ℕ
  | _, [], _ => none
  | i, rate :: tmp, sum =>
    if 0 < rate then
      let sum := sum + rate
      if random < sum then some i else indexAt random (i + 1) tmp sum
    else indexAt random (i + 1) tmp sum

/-- **`randomIX`**. -/
def randomIX (checkIntFlag : Int32 → ℕ → Bool) (attRate : List Int32) (usedIX : Int32) :
    EStateM Thrown Rng Int32 :=
  match collectRates (checkIntFlag usedIX) 0 attRate (0, []) with
  | .inl i => pure (Int32.ofNat i)
  | .inr (sum, tmp) =>
    if 0 < sum then do
      let random ← nextInt sum
      return ((indexAt random 0 tmp 0).map Int32.ofNat).getD (-1)
    else pure (-1)

/-! ## An element by weight -/

section Weighted

variable {α : Type} (getWeight : α → Int32)

/-- The loop over a pool, from a random number on. -/
def walkPool : List α → Int32 → Option α
  | [], _ => none
  | t :: pool, randomAuth =>
    if randomAuth ≤ getWeight t then some t else walkPool pool (randomAuth - getWeight t)

/-- **`random(totalWeight, pool)`**: an element by weight; the only one there is, without a random
number. -/
def randomByWeight (totalWeight : Int32) (pool : List α) : EStateM Thrown Rng (Option α) :=
  if pool.isEmpty then pure none
  else if 0 < totalWeight ∧ pool.length = 1 then pure pool.head?
  else do
    let random ← nextInt totalWeight
    return walkPool getWeight pool (random + 1)

end Weighted

/-! ## Elements of a pool -/

section Pool

variable {α : Type}

/-- A number below `bound`. -/
def nextIndex (bound : ℕ) (rng : Rng) : ℕ × Rng :=
  (rng.draw 0 % bound, ⟨fun n => rng.draw (n + 1)⟩)

/-- `Collections.swap`. -/
def swap (data : List α) (i j : ℕ) : List α :=
  match data[i]?, data[j]? with
  | some a, some b => (data.set i b).set j a
  | _, _ => data

/-- `Collections.shuffle`: from the end on, every element changes places with one that is not behind
it. -/
def shuffle : ℕ → List α → Rng → List α × Rng
  | 0, data, rng => (data, rng)
  | 1, data, rng => (data, rng)
  | i + 2, data, rng =>
    let (j, rng) := nextIndex (i + 2) rng
    shuffle (i + 1) (swap data (i + 1) j) rng

/-- The loop of `random(pool, size)` that adds the pool until the list is long enough; nothing while
it has not come to its end. -/
def padTo (pool : List α) (size : ℕ) : ℕ → List α → Option (List α)
  | fuel, data =>
    if size ≤ data.length then some data
    else
      match fuel with
      | 0 => none
      | fuel + 1 => padTo pool size fuel (data ++ pool)

/-- **`random(pool, size)`**, nothing while it has not come to its end. -/
def randomPool (fuel : ℕ) (pool : Option (List α)) (size : Int32) (rng : Rng) :
    Option (List α × Rng) :=
  match pool with
  | none => some ([], rng)
  | some pool =>
    if size ≤ 0 then some ([], rng)
    else do
      let size := (max 1 size).toInt.toNat
      let data ← padTo pool size fuel pool
      let (data, rng) := shuffle data.length data rng
      let (start, rng) := nextIndex (data.length - size + 1) rng
      return ((data.drop start).take size, rng)

end Pool

end SrgpGame.Util
