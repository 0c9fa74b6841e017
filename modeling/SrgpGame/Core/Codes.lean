import SrgpGame.Lib.Machine

set_option autoImplicit false

/-!
# Result codes and exceptions

A request handler reports a failure by throwing a `LogicException` that carries a numeric code.
A code belongs to a module: `ICode.get` adds the module id and the code within the module. Code
that runs into a fault of the virtual machine throws an unchecked exception instead.

## Main definitions

* `Thrown` — what a method can throw.
* `ICode` — a code of a module, with `throwIfTrue`.
* `CodeSystem`, `CodeGeneral`, `CodePlayer`, `CodeDepot`, `CodeGoods`, `CodeShop`, `CodeGuild`,
  `CodeMail`, `CodePay`, `CodeHero`, `CodeSkill`, `CodeFriend`, `CodeChat`, `CodeActivity` — the
  codes used by the methods modelled in this development.
-/

namespace SrgpGame

/-- What a method can throw: a `LogicException` with its code, or an unchecked exception. -/
inductive Thrown where
  /-- `LogicException` with the code it carries. -/
  | logic (code : Int32)
  /-- `NullPointerException`. -/
  | nullPointer
  /-- `IllegalArgumentException`. -/
  | illegalArgument
  /-- `ArithmeticException`, from a division by zero. -/
  | arithmetic
  /-- `IndexOutOfBoundsException`. -/
  | indexOutOfBounds
  deriving DecidableEq, Repr

/-- A code of a module. -/
structure ICode where
  /-- The module id. -/
  module : Int32
  /-- The code within the module. -/
  code : Int32
  deriving DecidableEq, Repr

/-- The code that a `LogicException` carries. -/
def ICode.get (c : ICode) : Int32 := c.module + c.code

/-- Throws the code. -/
def ICode.throwException {α : Type} (c : ICode) : Except Thrown α :=
  .error (.logic c.get)

/-- Throws the code when the condition holds. -/
def ICode.throwIfTrue (c : ICode) (cond : Prop) [Decidable cond] : Except Thrown Unit :=
  if cond then c.throwException else .ok ()

@[simp] lemma ICode.throwIfTrue_eq_ok {c : ICode} {cond : Prop} [Decidable cond] {u : Unit} :
    c.throwIfTrue cond = .ok u ↔ ¬cond := by
  unfold throwIfTrue throwException
  split <;> simp_all

namespace ModuleID

def system : Int32 := 0
def general : Int32 := 10000
def player : Int32 := 20000
def goods : Int32 := 40000
def depot : Int32 := 50000
def skill : Int32 := 60000
def shop : Int32 := 110000
def guild : Int32 := 120000
def mail : Int32 := 130000
def chat : Int32 := 190000
def friends : Int32 := 300000
def activity : Int32 := 420000
def pay : Int32 := 430000
def hero : Int32 := 450000

end ModuleID

namespace CodeSystem

def suc : ICode := ⟨ModuleID.system, 0⟩

end CodeSystem

namespace CodeGeneral

def generalInvokeParamError : ICode := ⟨ModuleID.general, 3⟩
def generalUnSupportOperation : ICode := ⟨ModuleID.general, 12⟩

end CodeGeneral

namespace CodePlayer

def playerNotFindPlayer : ICode := ⟨ModuleID.player, 1⟩
def playerMoneyMinus : ICode := ⟨ModuleID.player, 4⟩
def playerNameAlreadyUse : ICode := ⟨ModuleID.player, 5⟩
def playerNameIsNull : ICode := ⟨ModuleID.player, 6⟩
def playerNameFormationError : ICode := ⟨ModuleID.player, 19⟩

end CodePlayer

namespace CodeDepot

def depotGoodsNumNotEnough : ICode := ⟨ModuleID.depot, 1⟩
def depotContactsMinus : ICode := ⟨ModuleID.depot, 2⟩
def depotTreasureMinus : ICode := ⟨ModuleID.depot, 5⟩
def depotChanceMinus : ICode := ⟨ModuleID.depot, 8⟩
def depotCnyTypeError : ICode := ⟨ModuleID.depot, 9⟩
def depotGoodsNotFound : ICode := ⟨ModuleID.depot, 13⟩
def depotSocietyExpMinus : ICode := ⟨ModuleID.depot, 14⟩

end CodeDepot

namespace CodeGoods

def goodsTypeError : ICode := ⟨ModuleID.goods, 3⟩
def goodsFuncsEndlessLoop : ICode := ⟨ModuleID.goods, 6⟩
def goodsConfigError : ICode := ⟨ModuleID.goods, 7⟩

end CodeGoods

namespace CodeShop

def shopNotFound : ICode := ⟨ModuleID.shop, 1⟩
def shopUnknownPlaceHolder : ICode := ⟨ModuleID.shop, 2⟩
def shopDataException : ICode := ⟨ModuleID.shop, 3⟩
def shopLimit : ICode := ⟨ModuleID.shop, 4⟩
def shopRefreshRuleParamError : ICode := ⟨ModuleID.shop, 6⟩
def shopGroupNotFound : ICode := ⟨ModuleID.shop, 7⟩
def shopNotAllowManualRefresh : ICode := ⟨ModuleID.shop, 11⟩
def shopMaxManualRefresh : ICode := ⟨ModuleID.shop, 12⟩
def shopRequireGuildVip : ICode := ⟨ModuleID.shop, 13⟩

end CodeShop

namespace CodeGuild

def notFindGuild : ICode := ⟨ModuleID.guild, 6⟩
def enterGuildCD : ICode := ⟨ModuleID.guild, 7⟩
def alredyInGuild : ICode := ⟨ModuleID.guild, 8⟩
def rightLevelMemberFull : ICode := ⟨ModuleID.guild, 9⟩
def maxReqSize : ICode := ⟨ModuleID.guild, 10⟩
def memberFull : ICode := ⟨ModuleID.guild, 11⟩
def notJoinGuild : ICode := ⟨ModuleID.guild, 12⟩
def rightMinus : ICode := ⟨ModuleID.guild, 13⟩
def reqTimeout : ICode := ⟨ModuleID.guild, 14⟩
def alreadyDissolution : ICode := ⟨ModuleID.guild, 15⟩
def alreadyInGuild : ICode := ⟨ModuleID.guild, 16⟩
def notFindDonateConfig : ICode := ⟨ModuleID.guild, 18⟩
def alreadyDonate : ICode := ⟨ModuleID.guild, 19⟩
def guildMoneyMinus : ICode := ⟨ModuleID.guild, 21⟩
def guildCoinMinus : ICode := ⟨ModuleID.guild, 22⟩
def levelLimit : ICode := ⟨ModuleID.guild, 26⟩
def notMatchGuild : ICode := ⟨ModuleID.guild, 29⟩

end CodeGuild

namespace CodeMail

def mailNotFind : ICode := ⟨ModuleID.mail, 1⟩
def mailEmptyAccessory : ICode := ⟨ModuleID.mail, 2⟩
def mailCanNotDeleteMail : ICode := ⟨ModuleID.mail, 4⟩
def mailParamsError : ICode := ⟨ModuleID.mail, 6⟩
def mailInLimit : ICode := ⟨ModuleID.mail, 9⟩
def mailAlreadyPick : ICode := ⟨ModuleID.mail, 10⟩

end CodeMail

namespace CodePay

def notFindPlayer : ICode := ⟨ModuleID.pay, 1⟩
def notFincOrderItem : ICode := ⟨ModuleID.pay, 2⟩
def execFail : ICode := ⟨ModuleID.pay, 3⟩

end CodePay

namespace CodeHero

def heroNotConfig : ICode := ⟨ModuleID.hero, 1⟩
def heroNotFound : ICode := ⟨ModuleID.hero, 2⟩
def heroFullLevel : ICode := ⟨ModuleID.hero, 4⟩
def heroMaxStage : ICode := ⟨ModuleID.hero, 7⟩
def heroNotSameStar : ICode := ⟨ModuleID.hero, 8⟩
def heroNotSameId : ICode := ⟨ModuleID.hero, 9⟩
def heroSpMinus : ICode := ⟨ModuleID.hero, 11⟩

end CodeHero

namespace CodeSkill

def skillNotConfig : ICode := ⟨ModuleID.skill, 1⟩
def skillNotFound : ICode := ⟨ModuleID.skill, 2⟩
def skillPreNeeded : ICode := ⟨ModuleID.skill, 3⟩
def skillEquippedOn : ICode := ⟨ModuleID.skill, 4⟩
def skillEquippedOff : ICode := ⟨ModuleID.skill, 5⟩
def skillArmLimit : ICode := ⟨ModuleID.skill, 14⟩
def skillWeaponLimit : ICode := ⟨ModuleID.skill, 15⟩
def sealNotEquip : ICode := ⟨ModuleID.skill, 16⟩
def skillNotLearn : ICode := ⟨ModuleID.skill, 18⟩
def skillStarLimit : ICode := ⟨ModuleID.skill, 19⟩

end CodeSkill

namespace CodeFriend

def badReq : ICode := ⟨ModuleID.friends, 1⟩
def maxFriendListSize : ICode := ⟨ModuleID.friends, 2⟩
def maxFriendListSizeOther : ICode := ⟨ModuleID.friends, 3⟩
def inMyBlackList : ICode := ⟨ModuleID.friends, 5⟩
def notAllowedAdd : ICode := ⟨ModuleID.friends, 6⟩
def notFriend : ICode := ⟨ModuleID.friends, 7⟩
def maxBlessNum : ICode := ⟨ModuleID.friends, 8⟩
def inMyFriendList : ICode := ⟨ModuleID.friends, 12⟩

end CodeFriend

namespace CodeChat

def chatTypeError : ICode := ⟨ModuleID.chat, 2⟩
def chatCD : ICode := ⟨ModuleID.chat, 3⟩
def chatBan : ICode := ⟨ModuleID.chat, 4⟩

end CodeChat

namespace CodeActivity

def activityExecBevLimit : ICode := ⟨ModuleID.activity, 6⟩
def activityExecParamsError : ICode := ⟨ModuleID.activity, 8⟩
def activityExecCdExists : ICode := ⟨ModuleID.activity, 9⟩
def activityServerDataError : ICode := ⟨ModuleID.activity, 10⟩

end CodeActivity

end SrgpGame
