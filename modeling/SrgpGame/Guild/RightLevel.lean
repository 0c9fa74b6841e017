import Mathlib.Algebra.Order.Ring.Int
import Mathlib.Tactic.Common

set_option autoImplicit false

/-!
# Rights in a guild

A member of a guild has a level, and the level has rights: the two lower levels have those that are
listed, the two higher ones all but those that are listed.

## Main definitions

* `GuildRight` — what a member may have the right to do.
* `RightLevel` — the levels, with their ids.
* `RightLevel.haveRight` — which rights a level has.
-/

namespace SrgpGame.Guild

/-- `GuildRight`. -/
inductive GuildRight where
  | MODIFY_GUILD_NAME
  | MODIFY_GUILD_QQ
  | MODIFY_GUILD_VX
  | DISSOLUTION_GUILD
  | CHG_OWNER
  | MODIFY_RIGHT_LEVEL
  | DONATE
  | MODIFY_GUILD_NOTICE
  | MODIFY_GUILD_DESC
  | JOIN_GUILD_BOSS
  | OPEN_TASK_GUILD_BOSS
  | TRE_OPEN_TASK_GUILD_BOSS
  | APPROVAL_JOIN_GUILD
  | DISMISS_GUILD_MEMBER
  | USE_GUILD_SHOP
  | OUT_GUILD
  | CHAT
  deriving DecidableEq, Repr

/-- `RightLevel.Checker`: a list of rights that it contains or excludes, and possibly a parent whose
rights it has too. -/
inductive Checker where
  | root (rights : List GuildRight) (contain : Bool)
  | child (parent : Checker) (rights : List GuildRight) (contain : Bool)

/-- `Checker.haveRight`. -/
def Checker.haveRight : Checker → GuildRight → Bool
  | .root rights contain, right =>
    if contain then rights.contains right else !rights.contains right
  | .child parent rights contain, right =>
    (if contain then rights.contains right else !rights.contains right) || parent.haveRight right

/-- `RightLevel`. -/
inductive RightLevel where
  | Level3
  | Level2
  | Level1
  | Level0
  deriving DecidableEq, Repr

namespace RightLevel

/-- The number of a level. -/
def getId : RightLevel → ℤ
  | .Level3 => 101
  | .Level2 => 102
  | .Level1 => 103
  | .Level0 => 104

/-- What a level may do. -/
def checker : RightLevel → Checker
  | .Level3 => level3
  | .Level2 => .child level3 [.APPROVAL_JOIN_GUILD, .TRE_OPEN_TASK_GUILD_BOSS] true
  | .Level1 => .root [.MODIFY_GUILD_NAME, .DISSOLUTION_GUILD, .CHG_OWNER] false
  | .Level0 => .root [.OUT_GUILD] false
where
  level3 : Checker := .root [.DONATE, .JOIN_GUILD_BOSS, .CHAT, .OUT_GUILD, .USE_GUILD_SHOP] true

/-- Whether the level has the right. -/
def haveRight (level : RightLevel) (right : GuildRight) : Bool := level.checker.haveRight right

/-- `Enums.get` of a level, by its id. -/
def get (id : ℤ) : Option RightLevel :=
  if id = 101 then some .Level3
  else if id = 102 then some .Level2
  else if id = 103 then some .Level1
  else if id = 104 then some .Level0
  else none

/-- A level is found by its id, and no other is. -/
lemma get_eq_some {id : ℤ} {level : RightLevel} : get id = some level ↔ id = level.getId := by
  rw [get]
  constructor
  · intro h
    split_ifs at h <;> cases h <;> assumption
  · rintro rfl
    cases level <;> rfl

/-- Only the highest level may hand over the guild. -/
lemma haveRight_CHG_OWNER {level : RightLevel} (h : level.haveRight .CHG_OWNER = true) :
    level = .Level0 := by
  cases level with
  | Level0 => rfl
  | _ => exact absurd h (by decide)

/-- The highest level may not leave the guild. -/
lemma not_haveRight_OUT_GUILD : haveRight .Level0 .OUT_GUILD = false := rfl

end RightLevel

end SrgpGame.Guild
