import SrgpGame.Shop.GroupShopItem
import SrgpGame.Shop.ShopBO

set_option autoImplicit false

/-!
# How a shop is refreshed

A shop names the rule by which its items are replaced, and the parameters of the rule. Only the rule
for guild levels gives items: it draws them from a group, none of them twice. The other rules read
their parameters, and give no items.

## Main definitions

* `RefreshState` — what a refresh works on.
* `Parameters` — what it is given.
* `refreshFix`, `refreshWeight`, `refreshGuildLevel`, `refreshVip`, `refreshSequence` — the rules.
* `ShopRefreshRule.refresh` — by rule.

## Design notes

What is commented out in the rules is left out, and so are the logs. An array that is null is empty
where no method tells them apart. `StringUtils.join` is given an array of numbers as an object, so
the text it makes depends on more than the numbers: the outcome of the comparison is a parameter.
-/

namespace SrgpGame.ShopRefresh

open EStateM (ofExcept zoom)
open Func (Rng nextInt)
open Shop (elementAt)
open Util (RandomState Converter.toInteger onRng randomByWeight randomString shuffle)

/-- What is known of texts. -/
structure Texts where
  /-- `Character.digit`. -/
  digit : Char → Option ℕ
  /-- Whether a sequence that is joined has another length than a text. -/
  changed : List Int32 → String → Bool

/-! ## Shops -/

/-- `ShopItemVO`. -/
structure ShopItemVO where
  cid : Int32
  index : Int32
  sold : Int32
  deriving DecidableEq, Repr

/-- `create`. -/
def create (index : Int32) (config : ShopItemConfig) : ShopItemVO := ⟨config.id, index, 0⟩

/-- `ShopExtraVO`. -/
structure ShopExtraVO where
  nextGroupIndex : Int32
  groupSequence : List Int32
  usedGroupSequence : Finset String

/-- A new `ShopExtraVO`. -/
def ShopExtraVO.init : ShopExtraVO := ⟨0, [], ∅⟩

/-- What a refresh works on. -/
structure RefreshState where
  /-- `ShopBO.ShopItemGroup`. -/
  shopItemGroup : AList fun _ : Int32 => GroupShopItem
  random : RandomState
  /-- `ShopVO.getExtraData`. -/
  extraVO : ShopExtraVO

/-- What a refresh is given: the level of the player's guild, and the parameters of the shop. -/
structure Parameters where
  guildLevel : Option Int32
  refreshParams : List String
  deriving DecidableEq, Repr

/-- A method on the random choices. -/
def onRandom {α : Type} : EStateM Thrown RandomState α → EStateM Thrown RefreshState α :=
  zoom RefreshState.random fun random s => { s with random := random }

/-- A method on a group of the state. -/
def onGroup {α : Type} (destGroup : Int32) (group : GroupShopItem)
    (x : EStateM Thrown GroupShopItem α) : EStateM Thrown RefreshState α :=
  zoom (fun _ => group)
    (fun group s => { s with shopItemGroup := s.shopItemGroup.insert destGroup group }) x

variable (texts : Texts)

/-! ## Fixed groups, weights and levels of players -/

/-- `Fix.refresh`. -/
def refreshFix (params : Parameters) : EStateM Thrown RefreshState (List ShopItemVO) := do
  ofExcept fun _ => CodeShop.shopRefreshRuleParamError.throwIfTrue (params.refreshParams = [])
  return []

/-- The parameters of a rule that has two. -/
def twoParams : List String → Except Thrown (String × String)
  | [groupRule, quantity] => .ok (groupRule, quantity)
  | _ => CodeShop.shopRefreshRuleParamError.throwException

/-- The parameters of a rule that has three. -/
def threeParams : List String → Except Thrown (String × String × String)
  | [groupRule, levelOffset, quantity] => .ok (groupRule, levelOffset, quantity)
  | _ => CodeShop.shopRefreshRuleParamError.throwException

/-- `Weight.refresh`: a group is drawn, and nothing is done with it. -/
def refreshWeight (params : Parameters) : EStateM Thrown RefreshState (List ShopItemVO) := do
  let (groupRule, _) ← ofExcept fun _ => twoParams params.refreshParams
  let _destGroup ← onRandom (randomString texts.digit groupRule)
  return []

/-- `Vip.refresh`: as with weights. -/
def refreshVip (params : Parameters) : EStateM Thrown RefreshState (List ShopItemVO) := do
  let (groupRule, _) ← ofExcept fun _ => threeParams params.refreshParams
  let _destGroup ← onRandom (randomString texts.digit groupRule)
  return []

/-! ## Guild levels -/

/-- **The loop of `GuildLevel.refresh`**, with `rounds` left from `i` on: an item that is drawn goes
from the copy to the results, and its weight from the sum. -/
def refreshLoop : ℕ → Int32 → Int32 → List ShopItemConfig → List ShopItemVO →
    EStateM Thrown Rng (List ShopItemVO)
  | 0, _, _, _, results => pure results
  | rounds + 1, i, copyWeight, copy, results => do
    match ← randomByWeight ShopItemConfig.weight copyWeight copy with
    | none => refreshLoop rounds (i + 1) copyWeight copy results
    | some randomConfig =>
      let results := results ++ [create i randomConfig]
      let copy := SortedSet.remove ShopItemConfig.cmp randomConfig copy
      let copyWeight := copyWeight - randomConfig.weight
      if copy.isEmpty then return results
      else if copyWeight ≤ 0 then return results
      else refreshLoop rounds (i + 1) copyWeight copy results

/-- `GuildLevel.refresh` from the group on that is drawn. -/
def refreshGroup (destGroup level quantity : Int32) :
    EStateM Thrown RefreshState (List ShopItemVO) := do
  let s ← get
  match s.shopItemGroup.lookup destGroup with
  | none => ofExcept fun _ => CodeShop.shopGroupNotFound.throwException
  | some groupShopItem =>
    let (copyWeight, copy) ← onGroup destGroup groupShopItem (matchByGuildLevel level)
    ofExcept fun _ => CodeShop.shopGroupNotFound.throwIfTrue (copy = [])
    onRandom (onRng (refreshLoop quantity.toInt.toNat 0 copyWeight copy []))

/-- **`GuildLevel.refresh`**: without a guild there are no items. -/
def refreshGuildLevel (params : Parameters) : EStateM Thrown RefreshState (List ShopItemVO) :=
  match params.guildLevel with
  | none => return []
  | some level => do
    let (groupRule, quantity) ← ofExcept fun _ => twoParams params.refreshParams
    let destGroup ← onRandom (randomString texts.digit groupRule)
    refreshGroup destGroup level (Converter.toInteger texts.digit quantity.toList)

/-! ## Sequences of groups -/

/-- `toIntArray`: empty parts of a text with separators do not count. -/
def toIntArray (data : String) : List Int32 :=
  if data.toList = [] then []
  else if ':' ∈ data.toList then
    ((data.toList.splitOn ':').filter (· ≠ [])).map (Converter.toInteger texts.digit)
  else [Converter.toInteger texts.digit data.toList]

/-- The choice of `randomSequence`. -/
def chooseSequence (pool : List String) : EStateM Thrown Rng String := do
  let pool ← modifyGet fun rng => shuffle pool.length pool rng
  let index ← nextInt (Int32.ofNat pool.length)
  match pool[index.toInt.toNat]? with
  | none => throw .indexOutOfBounds
  | some newSequence => return newSequence

/-- The extra data with a new sequence. -/
def ShopExtraVO.startSequence (extraVO : ShopExtraVO) (newSequence : String) : ShopExtraVO where
  nextGroupIndex := 0
  groupSequence := toIntArray texts newSequence
  usedGroupSequence := insert newSequence extraVO.usedGroupSequence

/-- `randomSequence`. -/
def randomSequence (pool : List String) : EStateM Thrown RefreshState Unit := do
  let newSequence ← onRandom (onRng (chooseSequence pool))
  modify fun s => { s with extraVO := s.extraVO.startSequence texts newSequence }

/-- Whether the used sequences are forgotten, when a sequence was used up. -/
def startsAnew (extraVO : ShopExtraVO) (params : List String) : Bool :=
  texts.changed extraVO.groupSequence (params.headD "") ∨
    params.length ≤ extraVO.usedGroupSequence.card

/-- The sequence of groups that is used from now on, where there was none or it was used up. -/
def nextSequence (extraVO : ShopExtraVO) (params : List String) :
    EStateM Thrown RefreshState Unit :=
  if extraVO.groupSequence = [] then randomSequence texts params
  else if (extraVO.groupSequence.length : ℤ) ≤ extraVO.nextGroupIndex.toInt then do
    let used := if startsAnew texts extraVO params then ∅ else extraVO.usedGroupSequence
    modify fun s => { s with extraVO := { extraVO with usedGroupSequence := used } }
    randomSequence texts (params.filter (· ∉ used))
  else return ()

/-- `Sequence.refresh`. -/
def refreshSequence (params : Parameters) : EStateM Thrown RefreshState (List ShopItemVO) := do
  ofExcept fun _ => CodeShop.shopRefreshRuleParamError.throwIfTrue (params.refreshParams = [])
  let s ← get
  nextSequence texts s.extraVO params.refreshParams
  let _destGroup ← ofExcept fun s =>
    elementAt s.extraVO.groupSequence s.extraVO.nextGroupIndex.toInt
  modify fun s =>
    { s with extraVO := { s.extraVO with nextGroupIndex := s.extraVO.nextGroupIndex + 1 } }
  return []

/-! ## The rules -/

/-- `ShopRefreshRule`. -/
inductive ShopRefreshRule where
  | fix | weight | guildLevel | vip | sequence
  deriving DecidableEq, Repr

namespace ShopRefreshRule

/-- `getType`. -/
def getType : ShopRefreshRule → String
  | fix => "fix"
  | weight => "weight"
  | guildLevel => "guildLv"
  | vip => "vip"
  | sequence => "sequence"

/-- All rules. -/
def all : List ShopRefreshRule := [fix, weight, guildLevel, vip, sequence]

/-- `Enums.get(ShopRefreshRule.class, type)`. -/
def ofType (type : String) : Option ShopRefreshRule := all.find? fun rule => rule.getType = type

/-- **`refresh`**, by rule. -/
def refresh (params : Parameters) :
    ShopRefreshRule → EStateM Thrown RefreshState (List ShopItemVO)
  | fix => refreshFix params
  | weight => refreshWeight texts params
  | guildLevel => refreshGuildLevel texts params
  | vip => refreshVip texts params
  | sequence => refreshSequence texts params

end ShopRefreshRule

end SrgpGame.ShopRefresh
