import SrgpGame.Depot.Currency

set_option autoImplicit false

/-!
# Functions: parameters, formulas and the player

A function (`AbstractFunc`) is one configured effect on a player: a cost or a gain of a currency,
of goods or of guild money. This file has its parameters, the formulas that compute an amount
from the player's attributes, and the part of the player that functions read and change.

## Main definitions

* `FuncParam`, `FuncConfig`, `FuncType`, `AbstractFunc` — a function and its parameters.
* `Formula`, `formulaType` — the formulas, by the number that selects them.
* `GuildVO`, `FixedDropVO`, `PlayerVO` — the player.
-/

namespace SrgpGame.Func

/-! ## Functions -/

/-- `FuncParam`: the parameters of a function. -/
structure FuncParam where
  /-- What the function is about: a currency type, a goods id or a guild id. -/
  param : Int32
  /-- The amount; negative for a cost. -/
  value : Int64
  /-- Whether a gain may exceed the upper limit of a currency. -/
  overMax : Bool := true
  /-- A formula for currencies, a weight configuration for goods. -/
  param2 : Int32 := 0
  /-- A factor for the formula, in ten-thousandths; zero for none. -/
  param3 : Int32 := 0
  /-- `EvtParamType.PAY` of `extraParams`: the amount was paid for. -/
  pay : Bool := false
  deriving DecidableEq, Repr

/-- `FuncConfig`. -/
structure FuncConfig where
  type : Int32
  param : FuncParam
  deriving DecidableEq, Repr

/-- `FuncConfig.copy`: `overMax` is not copied. -/
def FuncConfig.copy (config : FuncConfig) : FuncConfig :=
  { config with param := { config.param with overMax := true } }

/-- The functions that change what a player or a guild owns. -/
inductive FuncType where
  | changeCurFunc | changeGoodsFunc | changeGuildMnyFunc
  deriving DecidableEq, Repr

/-- `AbstractFunc`: a function with its parameters. -/
structure AbstractFunc where
  type : FuncType
  param : FuncParam
  /-- The configuration of guaranteed drops that the function is under. -/
  steadyExecId : Int32 := 0
  deriving DecidableEq, Repr

/-! ## Formulas -/

/-- The attributes of a player that formulas read. -/
structure PlayerAtt where
  iq : Int64
  eq : Int64
  frsg : Int64
  deriving DecidableEq, Repr

/-- A formula: an attribute times `mul`, divided by `div`, plus `add`. -/
structure Formula where
  att : PlayerAtt → Int64
  mul : Int64 := 1
  div : Int64 := 1
  add : Int64 := 0

/-- The value of a formula for a player. -/
def Formula.getValue (f : Formula) (att : PlayerAtt) : Int64 := f.att att * f.mul / f.div + f.add

def operateChance : Formula := { att := PlayerAtt.frsg }
def operateContacts : Formula := { att := PlayerAtt.eq }
def operateMoney : Formula := { att := PlayerAtt.iq }
def questPrize1 : Formula := { att := PlayerAtt.iq, mul := 1, add := 20000 }
def questPrize2 : Formula := { att := PlayerAtt.iq, mul := 2, add := 100000 }
def questPrize3 : Formula := { att := PlayerAtt.iq, mul := 3, add := 200000 }
def searchChanceHigh : Formula := { att := PlayerAtt.frsg, add := 5000 }
def searchContactsHigh : Formula := { att := PlayerAtt.eq, add := 5000 }
def searchMoneyHigh : Formula := { att := PlayerAtt.iq, add := 5000 }
def searchChanceCenter : Formula := { att := PlayerAtt.frsg, div := 5, add := 3000 }
def searchContactsCenter : Formula := { att := PlayerAtt.eq, div := 5, add := 3000 }
def searchMoneyCenter : Formula := { att := PlayerAtt.iq, div := 5, add := 3000 }
def searchChanceLow : Formula := { att := PlayerAtt.frsg, div := 10, add := 1000 }
def searchContactsLow : Formula := { att := PlayerAtt.eq, div := 10, add := 1000 }
def searchMoneyLow : Formula := { att := PlayerAtt.iq, div := 10, add := 1000 }

/-- The formulas with their numbers. -/
def formulas : List (Int32 × Formula) :=
  [(301, operateChance), (302, operateContacts), (303, operateMoney),
    (401, questPrize1), (402, questPrize2), (403, questPrize3),
    (501, searchChanceHigh), (502, searchContactsHigh), (503, searchMoneyHigh),
    (504, searchChanceCenter), (505, searchContactsCenter), (506, searchMoneyCenter),
    (507, searchChanceLow), (508, searchContactsLow), (509, searchMoneyLow)]

/-- `Enums.get(FormulaType.class, id)`: the formula with a number. -/
def formulaType (id : Int32) : Option Formula :=
  (formulas.find? fun f => f.1 = id).map Prod.snd

/-! ## The player -/

/-- `GuildVO`, as far as functions change it. -/
structure GuildVO where
  id : Int32
  mny : Int64
  deriving DecidableEq, Repr

/-- `FixedDropVO`: the counters of guaranteed drops, by configuration. -/
structure FixedDropVO where
  /-- How often functions under the configuration came up. -/
  triggerCountMap : AList fun _ : Int32 => Int32
  /-- How often one of them was selected. -/
  dropCountMap : AList fun _ : Int32 => Int32

/-- `PlayerVO`, as far as functions read or change it. -/
structure PlayerVO where
  depotVO : DepotVO
  /-- The player's guild, if there is one. -/
  guild : Option GuildVO
  att : PlayerAtt
  fixedDropVO : FixedDropVO

/-- A player with an empty depot and no guild. -/
def PlayerVO.init (att : PlayerAtt) : PlayerVO := ⟨DepotVO.init, none, att, ⟨∅, ∅⟩⟩

/-- The player with another depot. -/
def PlayerVO.setDepotVO (pvo : PlayerVO) (depotVO : DepotVO) : PlayerVO :=
  { pvo with depotVO := depotVO }

/-- The player with another guild state. -/
def PlayerVO.setGuild (pvo : PlayerVO) (guild : Option GuildVO) : PlayerVO :=
  { pvo with guild := guild }

namespace PlayerVO

variable (pvo : PlayerVO) (depotVO : DepotVO) (guild' : Option GuildVO)

@[simp] lemma guild_setDepotVO : (pvo.setDepotVO depotVO).guild = pvo.guild := rfl
@[simp] lemma att_setDepotVO : (pvo.setDepotVO depotVO).att = pvo.att := rfl
@[simp] lemma depotVO_setGuild : (pvo.setGuild guild').depotVO = pvo.depotVO := rfl
@[simp] lemma guild_setGuild : (pvo.setGuild guild').guild = guild' := rfl
@[simp] lemma att_setGuild : (pvo.setGuild guild').att = pvo.att := rfl

end PlayerVO

end SrgpGame.Func
