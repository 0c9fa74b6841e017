import Mathlib.Data.Finset.Insert
import SrgpGame.Func.Functions
import SrgpGame.Lib.BiMap

set_option autoImplicit false

/-!
# The names of players

A player has a name, which a player can change for a goods item. Three caches know of names:
`CachePlayer` finds a player by name, `CachePlayerBase` has a map from the ids to the names with its
inverse and a record of each player, and `CacheName` has the names that are in use.

## Main definitions

* `trim`, `checkPlayerName` — what is asked of a new name.
* `PlayerVO`, `NameCaches` — a player, and the caches.
* `modifyName` — the change of a name.
* `World`, `World.init`, `modifyNameBy` — the players with the caches, their loading, and a call.

## Main results

* `run_checkAndExec_cost` — what is asked of the depot and of the listeners.
* `modifyName_of_accepted`, `modifyName_of_not_accepted` — a call that passes its checks and its
  payment, and any other.

## Design notes

A text is the list of its characters. What the texts are compared with is not part of the server:
which characters the encoding GBK has, and the dirty words, are parameters. The message to the
client, the tree of names for searching, and what the friend module keeps of names are left out, as
no method here reads them. The listeners to the payment may do anything to what functions work on,
and may throw, which ends the call before a name is changed. Every player has a name.
-/

namespace SrgpGame.Player

open EStateM Func

/-! ## Checks -/

/-- What a change of name reads elsewhere. -/
structure Setup where
  /-- The tables of the functions. -/
  cfgs : Configs
  /-- The listeners to the events of the depot. -/
  happen : DepotEvent → Exec Unit
  /-- GBK has the character; one that it has not is replaced by a question mark. -/
  inGBK : Char → Bool
  /-- `CacheWord.haveDirtyWord`. -/
  haveDirtyWord : List Char → Bool
  /-- `CacheDisDataPlayer.ModifyPlayerNameCost.first`: the goods item that a change costs. -/
  modifyPlayerNameCost : Int32

/-- `String.trim`. -/
def trim (text : List Char) : List Char :=
  ((text.dropWhile fun c => c ≤ ' ').reverse.dropWhile fun c => c ≤ ' ').reverse

/-- The number of bytes of a text in GBK. -/
def gbkLength (inGBK : Char → Bool) : List Char → ℕ
  | [] => 0
  | c :: text => gbkLength inGBK text + if 128 ≤ c.toNat ∧ inGBK c then 2 else 1

/-- `CacheWord.KEY_WORDS`. -/
def keyWords : List Char :=
  ['!', '\x22', '#', '$', '%', '&', '\x27', '(', ')', '*', '+', ',', '-', '.', '/', ':', ';', '<',
    '=', '>', '?', '@', '[', '\x5c', ']', '^', '\x60', '\x7b', '|', '\x7d', '~', '【', '】', '【',
    '】', '［', '］']

/-- `CacheWord.haveKeyWord`. -/
def haveKeyWord (key : List Char) : Bool := keyWords.any fun c => key.contains c

/-- The characters of `StringVerifyUtil.PATTERN_ABC_1`. -/
def isABC1 (c : Char) : Bool :=
  ['_', ' ', '\t', '\n', '\x0b', '\x0c', '\r', '@'].contains c || ('a' ≤ c && c ≤ 'z') ||
    ('A' ≤ c && c ≤ 'Z') || ('0' ≤ c && c ≤ '9') || ('\u4e00' ≤ c && c ≤ '\u9fa5')

/-- `StringVerifyUtil.isPATTERN_ABC_1`. -/
def isPATTERN_ABC_1 (str : List Char) : Bool := str.all isABC1

/-- The checks of the form of a name. -/
def checkLen (setup : Setup) (name : List Char) (min max : ℕ) : Except Thrown Unit := do
  CodePlayer.playerNameIsNull.throwIfTrue (name = [])
  CodePlayer.playerNameFormationError.throwIfTrue (gbkLength setup.inGBK name < min)
  CodePlayer.playerNameFormationError.throwIfTrue (max < gbkLength setup.inGBK name)
  CodePlayer.playerNameFormationError.throwIfTrue (haveKeyWord name)
  CodePlayer.playerNameFormationError.throwIfTrue (setup.haveDirtyWord name)

/-- What is asked of a new name: its form, and that it is not in use. -/
def checkPlayerName (setup : Setup) (usedName : Finset (List Char)) (name : List Char) :
    Except Thrown Unit := do
  checkLen setup name 2 14
  CodePlayer.playerNameFormationError.throwIfTrue (isPATTERN_ABC_1 name = false)
  CodePlayer.playerNameAlreadyUse.throwIfTrue (name ∈ usedName)

/-! ## Players and caches -/

/-- `PlayerVO`: the id, the name, and what a payment works on. -/
structure PlayerVO where
  id : Int32
  name : List Char
  pays : Func.PlayerVO

/-- `PlayerInfoVO`. -/
structure PlayerInfoVO where
  pid : Int32
  name : Option (List Char)
  deriving DecidableEq

/-- What is known of names apart from the players. -/
structure NameCaches where
  /-- `CachePlayer.playerNameMappingPlayer`. -/
  playerNameMappingPlayer : AList fun _ : List Char => Int32
  /-- `CachePlayerBase.PID_PNAME`. -/
  pidPName : BiMap Int32 (List Char)
  /-- `CachePlayerBase.PID_BaseInfo`. -/
  pidBaseInfo : AList fun _ : Int32 => PlayerInfoVO
  /-- `CacheName.usedName`. -/
  usedName : Finset (List Char)

namespace NameCaches

variable (caches : NameCaches)

/-- The caches before a player is loaded. -/
def empty : NameCaches := ⟨∅, BiMap.empty, ∅, ∅⟩

/-- `CachePlayerBase.getPIDByPname`. -/
def getPIDByPname (pname : List Char) : Option Int32 := caches.pidPName.keyOf pname

/-- `CachePlayerBase.getPnameByPid`. -/
def getPnameByPid (pid : Int32) : Option (List Char) := caches.pidPName.get pid

/-- `CachePlayerBase.getBaseInfo`. -/
def getBaseInfo (pid : Int32) : Option PlayerInfoVO := caches.pidBaseInfo.lookup pid

/-- `CachePlayer.addPlayer`. -/
def addPlayer (player : PlayerVO) : NameCaches :=
  { caches with
    playerNameMappingPlayer := caches.playerNameMappingPlayer.insert player.name player.id }

/-- `CachePlayer.resetPlayerName`. -/
def resetName (player : PlayerVO) (oldName : List Char) : NameCaches :=
  { caches with
    playerNameMappingPlayer :=
      (caches.playerNameMappingPlayer.erase oldName).insert player.name player.id }

/-- `CachePlayerBase.updateBasInfo`: the id is set with the record, the name by the update. -/
def updateBasInfo (pvo : PlayerVO) : NameCaches :=
  let baseInfo := (caches.getBaseInfo pvo.id).getD ⟨pvo.id, none⟩
  { caches with
    pidBaseInfo := caches.pidBaseInfo.insert pvo.id { baseInfo with name := some pvo.name } }

/-- `PID_PNAME.forcePut`. -/
def putPName (pvo : PlayerVO) : NameCaches :=
  { caches with pidPName := caches.pidPName.forcePut pvo.id pvo.name }

/-- `CacheName.addUsedName`. -/
def addUsedName (name : List Char) : NameCaches :=
  { caches with usedName := insert name caches.usedName }

/-- `CachePlayerBase.addBaseInfo`: a name that is taken is reported and not entered again. -/
def addBaseInfo (pvo : PlayerVO) : NameCaches :=
  let named :=
    match caches.getPIDByPname pvo.name with
    | some _ => caches
    | none => caches.putPName pvo
  (named.updateBasInfo pvo).addUsedName pvo.name

/-- `CachePlayerBase.resetPlayerName`. -/
def resetPlayerName (pvo : PlayerVO) : NameCaches := (caches.putPName pvo).updateBasInfo pvo

end NameCaches

/-! ## The payment -/

/-- The payment for a change of name: one goods item. -/
def cost (setup : Setup) : AbstractFunc :=
  { type := .changeGoodsFunc, param := { param := setup.modifyPlayerNameCost, value := -1 } }

/-- The item is there, by the counter and by the saved count, which is only asked where the id is
positive. -/
def Affords (setup : Setup) (depotVO : DepotVO) : Prop :=
  1 ≤ getGoodsQuantity depotVO setup.modifyPlayerNameCost ∧
    (0 < setup.modifyPlayerNameCost →
      ∃ n, depotVO.goodsCounts.lookup setup.modifyPlayerNameCost = some n ∧ 1 ≤ n)

lemma checkGoodsEnough_one {depotVO : DepotVO} {gid : Int32} :
    checkGoodsEnough depotVO gid 1 = .ok () ↔ 1 ≤ getGoodsQuantity depotVO gid := by
  rw [checkGoodsEnough, ICode.throwIfTrue_eq_ok]
  exact Int32.not_lt

/-- The item is recorded as a cost. -/
lemma record_cost (setup : Setup) (player : Func.PlayerVO) :
    (cost setup).record player CheckRecs.empty =
      CheckRecs.empty.addGoods setup.modifyPlayerNameCost 1 := by
  have hone : (-1 : Int64).abs.toInt32 = 1 := by decide
  show (if (-1 : Int64) < 0 then
    CheckRecs.empty.addGoods setup.modifyPlayerNameCost (-1 : Int64).abs.toInt32
      else CheckRecs.empty) = _
  rw [if_pos (by decide), hone]

/-- The recorded cost is checked like the parameters. -/
lemma check_record_cost {setup : Setup} {player : Func.PlayerVO} :
    ((cost setup).record player CheckRecs.empty).check player = .ok () ↔
      1 ≤ getGoodsQuantity player.depotVO setup.modifyPlayerNameCost := by
  have hgoods : (CheckRecs.empty.addGoods setup.modifyPlayerNameCost 1).goods.entries =
      [⟨setup.modifyPlayerNameCost, 1⟩] := AList.entries_insert_of_notMem (AList.notMem_empty _)
  have hcur : (CheckRecs.empty.addGoods setup.modifyPlayerNameCost 1).cur.entries = [] := rfl
  have hguild : (CheckRecs.empty.addGoods setup.modifyPlayerNameCost 1).guildMny = none := rfl
  rw [record_cost, CheckRecs.check, hgoods, hcur, hguild, ← checkGoodsEnough_one]
  cases hone : checkGoodsEnough player.depotVO setup.modifyPlayerNameCost 1 <;>
    simp [hone, bind, Except.bind, pure, Except.pure]

/-- The parameters are checked. -/
lemma check_cost {setup : Setup} {player : Func.PlayerVO} :
    (cost setup).check player = .ok () ↔
      1 ≤ getGoodsQuantity player.depotVO setup.modifyPlayerNameCost := by
  have hone : (-1 : Int64).abs.toInt32 = 1 := by decide
  show (if (-1 : Int64) < 0 then
    checkGoodsEnough player.depotVO setup.modifyPlayerNameCost (-1 : Int64).abs.toInt32
      else .ok ()) = _ ↔ _
  rw [if_pos (by decide), hone]
  exact checkGoodsEnough_one

/-- What the listeners do to whom the payment is told. -/
def told (setup : Setup) : Exec Unit :=
  if 0 < setup.modifyPlayerNameCost then
    match setup.cfgs.goods.getGoodsConfigById setup.modifyPlayerNameCost with
    | none => throw (.logic CodeDepot.depotGoodsNotFound.get)
    | some config => onGoodsChange setup.happen config (-1)
  else pure ()

/-- The execution asks for the saved count, takes nothing, and tells the listeners. -/
lemma run_exec_cost {setup : Setup} {e e' : ExecState} :
    ((cost setup).exec setup.cfgs (eventDepotBOImpl setup.cfgs setup.happen) 1).run e =
        .ok () e' ↔
      (0 < setup.modifyPlayerNameCost →
        ∃ n, e.player.depotVO.goodsCounts.lookup setup.modifyPlayerNameCost = some n ∧ 1 ≤ n) ∧
          (told setup).run e = .ok () e' := by
  have hnum : ∀ rng, (ChangeGoodsFunc.num setup.cfgs (cost setup).param 1).run rng =
      .ok (-1) rng := fun rng => rfl
  have hneg : (-1 : Int32) < 0 := by decide
  have habs : (-1 : Int32).abs = 1 := by decide
  refine ChangeGoodsFunc.exec_eq_ok_iff.trans ?_
  by_cases hid : 0 < setup.modifyPlayerNameCost
  · rw [told, if_pos hid]
    constructor
    · rintro ⟨n, rng, hdraw, hrest⟩
      rw [hnum] at hdraw
      cases hdraw
      rcases hrest with ⟨hid', -⟩ | ⟨-, hdepot⟩
      · exact absurd hid hid'
      · obtain ⟨config, hconfig, s₁, hbooked, hlisten⟩ :=
          run_changeGoodsNum_eventDepotBOImpl.mp hdepot
        obtain ⟨depotVO, m, hchange, rfl⟩ := run_changeGoodsNum_depotBOImpl.mp hbooked
        obtain ⟨saved, hsaved, hle, hsame⟩ := (changeGoodsNum_neg hneg).mp hchange
        cases hsame
        have hconfig' : setup.cfgs.goods.getGoodsConfigById setup.modifyPlayerNameCost =
            some config := hconfig
        rw [hconfig']
        exact ⟨fun _ => ⟨m, hsaved, habs ▸ hle⟩, hlisten⟩
    · rintro ⟨hitem, htold⟩
      obtain ⟨n, hn, hle⟩ := hitem hid
      refine ⟨-1, e.rng, hnum _, .inr ⟨hid, ?_⟩⟩
      cases hconfig : setup.cfgs.goods.getGoodsConfigById setup.modifyPlayerNameCost with
      | none =>
        rw [hconfig] at htold
        cases htold
      | some config =>
        rw [hconfig] at htold
        refine run_changeGoodsNum_eventDepotBOImpl.mpr ⟨config, hconfig, e, ?_, htold⟩
        exact run_changeGoodsNum_depotBOImpl.mpr ⟨e.player.depotVO, n,
          (changeGoodsNum_neg hneg).mpr ⟨n, hn, by rw [habs]; exact hle, rfl⟩, rfl⟩
  · rw [told, if_neg hid]
    constructor
    · rintro ⟨n, rng, hdraw, hrest⟩
      rw [hnum] at hdraw
      cases hdraw
      rcases hrest with ⟨-, rfl⟩ | ⟨hid', -⟩
      · exact ⟨fun h => absurd h hid, rfl⟩
      · exact absurd hid' hid
    · rintro ⟨-, htold⟩
      cases htold
      exact ⟨-1, e.rng, hnum _, .inl ⟨hid, rfl⟩⟩

/-- **The payment** returns just if the item is there and the listeners return. -/
theorem run_checkAndExec_cost {setup : Setup} {e e' : ExecState} :
    ((cost setup).checkAndExec setup.cfgs (eventDepotBOImpl setup.cfgs setup.happen)).run e =
        .ok () e' ↔
      Affords setup e.player.depotVO ∧ (told setup).run e = .ok () e' := by
  unfold AbstractFunc.checkAndExec
  rw [run_bind_eq_ok]
  constructor
  · rintro ⟨_, s, hfirst, hrest⟩
    obtain ⟨hcounter, rfl⟩ := run_ofExcept_eq_ok.mp hfirst
    obtain ⟨_, s', hsecond, hlast⟩ := run_bind_eq_ok.mp hrest
    obtain ⟨-, rfl⟩ := run_ofExcept_eq_ok.mp hsecond
    obtain ⟨hsaved, htold⟩ := run_exec_cost.mp hlast
    exact ⟨⟨check_cost.mp hcounter, hsaved⟩, htold⟩
  · rintro ⟨⟨hcounter, hsaved⟩, htold⟩
    refine ⟨(), e, run_ofExcept_eq_ok.mpr ⟨check_cost.mpr hcounter, rfl⟩, ?_⟩
    refine run_bind_eq_ok.mpr ⟨(), e, ?_, run_exec_cost.mpr ⟨hsaved, htold⟩⟩
    exact run_ofExcept_eq_ok.mpr ⟨check_record_cost.mpr hcounter, rfl⟩

/-! ## The change of a name -/

/-- What `modifyName` works on: the player, the caches and the random generator. -/
structure NameState where
  player : PlayerVO
  caches : NameCaches
  rng : Rng

/-- The player and the generator, as a payment sees them. -/
def NameState.toExec (s : NameState) : ExecState := ⟨s.player.pays, s.rng⟩

/-- The state after a payment. -/
def NameState.ofExec (e : ExecState) (s : NameState) : NameState :=
  { s with player := { s.player with pays := e.player }, rng := e.rng }

/-- `setName`. -/
def NameState.setName (s : NameState) (name : List Char) : NameState :=
  { s with player := { s.player with name := name } }

/-- The caches after a change of name. The new name is not added to those in use. -/
def NameState.resetCaches (s : NameState) (oldName : List Char) : NameState :=
  { s with caches := (s.caches.resetName s.player oldName).resetPlayerName s.player }

/-- `newName.trim()`. -/
def trimmed : Option (List Char) → Except Thrown (List Char)
  | some text => .ok (trim text)
  | none => .error .nullPointer

/-- The payment by the player. -/
def pay (setup : Setup) : EStateM Thrown NameState Unit :=
  zoom NameState.toExec NameState.ofExec
    ((cost setup).checkAndExec setup.cfgs (eventDepotBOImpl setup.cfgs setup.happen))

/-- `modifyName`. -/
def modifyName (setup : Setup) (newName : Option (List Char)) :
    EStateM Thrown NameState Unit := do
  let playerName ← ofExcept fun _ => trimmed newName
  ofExcept fun s => checkPlayerName setup s.caches.usedName playerName
  pay setup
  let s ← get
  let oldName := s.player.name
  modify fun s => s.setName playerName
  modify fun s => s.resetCaches oldName

/-- A call with this name passes its checks and its payment. -/
def Accepted (setup : Setup) (s : NameState) (name : List Char) : Prop :=
  checkPlayerName setup s.caches.usedName name = .ok () ∧
    Affords setup s.player.pays.depotVO ∧ Returns (told setup) s.toExec

/-- What the payment does when it returns. -/
lemma run_pay {setup : Setup} {s s' : NameState} :
    (pay setup).run s = .ok () s' ↔ Affords setup s.player.pays.depotVO ∧
      ∃ e, (told setup).run s.toExec = .ok () e ∧ s' = NameState.ofExec e s := by
  have hpay := @run_checkAndExec_cost setup s.toExec
  unfold pay
  rw [run_zoom]
  cases hrun : ((cost setup).checkAndExec setup.cfgs
      (eventDepotBOImpl setup.cfgs setup.happen)).run s.toExec with
  | ok _ e =>
    obtain ⟨hitem, htold⟩ := hpay.mp hrun
    constructor
    · intro h
      cases h
      exact ⟨hitem, e, htold, rfl⟩
    · rintro ⟨-, e', htold', rfl⟩
      cases htold.symm.trans htold'
      rfl
  | error _ e =>
    refine iff_of_false (fun h => by cases h) ?_
    rintro ⟨hitem, e', htold, -⟩
    cases hrun.symm.trans (hpay.mpr ⟨hitem, htold⟩)

/-- Whether it returns or throws, only what functions work on changes in the payment. -/
lemma finalState_pay (setup : Setup) (s : NameState) :
    ∃ e, (pay setup).finalState s = NameState.ofExec e s := by
  rw [finalState, pay, run_zoom]
  cases ((cost setup).checkAndExec setup.cfgs
      (eventDepotBOImpl setup.cfgs setup.happen)).run s.toExec with
  | ok _ e => exact ⟨e, rfl⟩
  | error _ e => exact ⟨e, rfl⟩

/-- **A change of name that is accepted** sets the name and then the caches. -/
theorem modifyName_of_accepted {setup : Setup} {text : List Char} {s : NameState}
    (h : Accepted setup s (trim text)) :
    ∃ e, (modifyName setup (some text)).finalState s =
      ((NameState.ofExec e s).setName (trim text)).resetCaches s.player.name := by
  obtain ⟨hcheck, hitem, ⟨⟩, e, htold⟩ := h
  have htrim : trimmed (some text) = .ok (trim text) := rfl
  refine ⟨e, ?_⟩
  unfold modifyName
  refine (finalState_ofExcept_bind_of_ok s htrim _).trans ?_
  refine (finalState_ofExcept_bind_of_ok s hcheck _).trans ?_
  exact finalState_bind_of_ok (run_pay.mpr ⟨hitem, e, htold, rfl⟩) _

/-- **Any other call** changes no name and no cache. -/
theorem modifyName_of_not_accepted {setup : Setup} {newName : Option (List Char)} {s : NameState}
    (h : ∀ text, newName = some text → ¬Accepted setup s (trim text)) :
    ∃ e, (modifyName setup newName).finalState s = NameState.ofExec e s := by
  unfold modifyName
  cases newName with
  | none => exact ⟨s.toExec, rfl⟩
  | some text =>
    have htrim : trimmed (some text) = .ok (trim text) := rfl
    rw [finalState_ofExcept_bind_of_ok s htrim]
    cases hcheck : checkPlayerName setup s.caches.usedName (trim text) with
    | error _ => exact ⟨s.toExec, finalState_ofExcept_bind_of_error s hcheck _⟩
    | ok _ =>
      rw [finalState_ofExcept_bind_of_ok s hcheck]
      cases hpay : (pay setup).run s with
      | ok _ s' =>
        obtain ⟨hitem, e, htold, -⟩ := run_pay.mp hpay
        exact absurd ⟨hcheck, hitem, (), e, htold⟩ (h text rfl)
      | error _ s' =>
        obtain ⟨e, hrest⟩ := finalState_pay setup s
        refine ⟨e, (finalState_bind_of_error hpay _).trans ?_⟩
        rw [← finalState_eq_of_error hpay, hrest]

/-! ## The players -/

/-- The players in memory, by id, with the caches. -/
structure World where
  players : AList fun _ : Int32 => PlayerVO
  caches : NameCaches
  rng : Rng

/-- A player is loaded. -/
def World.load (w : World) (player : PlayerVO) : World :=
  { w with
    players := w.players.insert player.id player
    caches := (w.caches.addPlayer player).addBaseInfo player }

/-- The server after the players were loaded. -/
def World.init (players : List PlayerVO) (rng : Rng) : World :=
  players.foldl World.load ⟨∅, NameCaches.empty, rng⟩

/-- A call of `modifyName`. -/
structure NameCall where
  pid : Int32
  newName : Option (List Char)
  deriving DecidableEq, Repr

/-- The state that a player's call works on. -/
def World.view (w : World) (player : PlayerVO) : NameState := ⟨player, w.caches, w.rng⟩

/-- The server after a method of a player. -/
def World.update (w : World) (pid : Int32) (s : NameState) : World :=
  ⟨w.players.insert pid s.player, s.caches, s.rng⟩

/-- The server after a call, whether it returned or threw. Only a player calls. -/
def modifyNameBy (setup : Setup) (w : World) (c : NameCall) : World :=
  match w.players.lookup c.pid with
  | none => w
  | some player => w.update c.pid ((modifyName setup c.newName).finalState (w.view player))

end SrgpGame.Player
