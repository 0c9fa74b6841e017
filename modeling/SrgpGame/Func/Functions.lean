import SrgpGame.Func.Weight

set_option autoImplicit false

/-!
# The functions

Each function has a check of its parameters, a record of what it will cost, and its execution. The
costs recorded by all functions of an executor are added up in one `CheckRecs` and checked once
more as a whole.

## Main definitions

* `ExecState` — what a function runs on: the player and the random generator.
* `DepotBO`, `depotBOImpl`, `eventDepotBOImpl` — the depot that functions call, without events and
  with them.
* `ChangeCurFunc.exec`, `ChangeGoodsFunc.exec`, `ChangeGuildMnyFunc.exec` — the executions.
* `AbstractFunc.check`, `AbstractFunc.record`, `AbstractFunc.exec` — by the type of a function.
* `CheckRecs`, `CheckRecs.check` — the recorded costs and their check.
* `AbstractFunc.checkAndExec` — a function on its own.

## Main results

* `ChangeCurFunc.run_exec`, `ChangeGoodsFunc.exec_eq_ok_iff`, `ChangeGuildMnyFunc.run_exec` — what
  an execution does.

## Design notes

The functions call the depot through its interface, as they do in the source. The server has
`EventDepotBOImpl` there, which tells listeners of each change. They may do anything to the player,
and may throw when the change is already booked: they are a parameter.
-/

namespace SrgpGame.Func

/-- What functions run on. -/
structure ExecState where
  player : PlayerVO
  rng : Rng

/-- A step of the executor: it may change the state and may throw. -/
abbrev Exec := EStateM Thrown ExecState

/-- A random choice. -/
def drawn {α : Type} (x : EStateM Thrown Rng α) : Exec α := fun s =>
  match x.run s.rng with
  | .ok a rng => .ok a { s with rng := rng }
  | .error e rng => .error e { s with rng := rng }

/-- A change of the depot that may throw. -/
def changeDepot (f : DepotVO → Except Thrown DepotVO) : Exec Unit := fun s =>
  match f s.player.depotVO with
  | .ok depotVO => .ok () { s with player := s.player.setDepotVO depotVO }
  | .error e => .error e s

lemma run_drawn_eq_ok {α : Type} {x : EStateM Thrown Rng α} {s s' : ExecState} {a : α} :
    (drawn x).run s = .ok a s' ↔ ∃ rng, x.run s.rng = .ok a rng ∧ s' = ⟨s.player, rng⟩ := by
  have hrun : (drawn x).run s =
      match x.run s.rng with
      | .ok a rng => .ok a { s with rng := rng }
      | .error e rng => .error e { s with rng := rng } := rfl
  rw [hrun]
  cases x.run s.rng with
  | ok b rng => simp [eq_comm]
  | error e rng => simp

lemma run_changeDepot_eq_ok {f : DepotVO → Except Thrown DepotVO} {s s' : ExecState} :
    (changeDepot f).run s = .ok () s' ↔
      ∃ depotVO, f s.player.depotVO = .ok depotVO ∧ s' = ⟨s.player.setDepotVO depotVO, s.rng⟩ := by
  have hrun : (changeDepot f).run s =
      match f s.player.depotVO with
      | .ok depotVO => .ok () { s with player := s.player.setDepotVO depotVO }
      | .error e => .error e s := rfl
  rw [hrun]
  cases f s.player.depotVO with
  | ok d => simp [eq_comm]
  | error e => simp

/-! ## The depot -/

/-- `EventTypeDepot`: an event of the depot, with its parameters. -/
inductive DepotEvent where
  | goods (cid : Int32) (before after change : Int64)
  | goodsCollectType (collectType : Int32) (before after : Int64)
  | currency (type : Int32) (before after change : Int64) (pay : Bool)
  deriving DecidableEq, Repr

/-- `DepotBO`: the methods of the depot that functions call. -/
structure DepotBO where
  changeGoodsNum : Int32 → Int32 → Exec Unit
  changeCurByType : CurrencyType → Int64 → (overMax pay : Bool) → Exec Unit

/-- `DepotBOImpl`: the depot without events. -/
def depotBOImpl (cfgs : Configs) : DepotBO where
  changeGoodsNum cid num :=
    changeDepot fun depotVO => (changeGoodsNum cfgs.goods depotVO cid num).map Prod.fst
  changeCurByType type cur overMax _ :=
    changeDepot fun depotVO => changeCurByType depotVO type cur overMax

/-- A change of goods in the depot without events. -/
lemma run_changeGoodsNum_depotBOImpl {cfgs : Configs} {cid num : Int32} {s s' : ExecState} :
    ((depotBOImpl cfgs).changeGoodsNum cid num).run s = .ok () s' ↔
      ∃ depotVO m, changeGoodsNum cfgs.goods s.player.depotVO cid num = .ok (depotVO, m) ∧
        s' = ⟨s.player.setDepotVO depotVO, s.rng⟩ := by
  rw [depotBOImpl, run_changeDepot_eq_ok]
  constructor
  · rintro ⟨depotVO, hmap, rfl⟩
    obtain ⟨⟨_, m⟩, hchange, rfl⟩ := Except.map_eq_ok.mp hmap
    exact ⟨_, m, hchange, rfl⟩
  · rintro ⟨depotVO, m, hchange, rfl⟩
    exact ⟨depotVO, Except.map_eq_ok.mpr ⟨_, hchange, rfl⟩, rfl⟩

/-- `onGoodsChange`: the events after a change of goods. -/
def onGoodsChange (happen : DepotEvent → Exec Unit) (config : GoodsConfig) (changeDelta : Int32) :
    Exec Unit := do
  let s ← get
  let after := (getGoodsQuantity s.player.depotVO config.id).toInt64
  happen (.goods config.id (after - changeDelta.toInt64) after changeDelta.toInt64)
  let s ← get
  let after := (getGoodsQuantity s.player.depotVO config.collectType).toInt64
  happen (.goodsCollectType config.collectType (after - changeDelta.toInt64) after)

/-- **`EventDepotBOImpl`**: the depot whose changes `happen` for the listeners, once they are
booked. -/
def eventDepotBOImpl (cfgs : Configs) (happen : DepotEvent → Exec Unit) : DepotBO where
  changeGoodsNum cid num :=
    match cfgs.goods.getGoodsConfigById cid with
    | none => throw (.logic CodeDepot.depotGoodsNotFound.get)
    | some config => do
      (depotBOImpl cfgs).changeGoodsNum cid num
      onGoodsChange happen config num
  changeCurByType type cur overMax pay := do
    let s ← get
    let before := getCurByType s.player.depotVO type
    (depotBOImpl cfgs).changeCurByType type cur overMax pay
    happen (.currency type.getType before (before + cur) cur pay)

section Events

variable {cfgs : Configs} {happen : DepotEvent → Exec Unit} {s s' : ExecState}

/-- A change of goods that is told to the listeners: the goods have a configuration, the change is
booked, and the listeners to it return. -/
lemma run_changeGoodsNum_eventDepotBOImpl {cid num : Int32} :
    ((eventDepotBOImpl cfgs happen).changeGoodsNum cid num).run s = .ok () s' ↔
      ∃ config, cfgs.goods.getGoodsConfigById cid = some config ∧
        ∃ s₁, ((depotBOImpl cfgs).changeGoodsNum cid num).run s = .ok () s₁ ∧
          (onGoodsChange happen config num).run s₁ = .ok () s' := by
  simp only [eventDepotBOImpl]
  cases hconfig : cfgs.goods.getGoodsConfigById cid with
  | none =>
    refine iff_of_false (fun h => by cases h) ?_
    rintro ⟨config, hsome, -⟩
    cases hsome
  | some config =>
    simp only [EStateM.run_bind_eq_ok]
    constructor
    · rintro ⟨⟨⟩, s₁, hchange, hlisten⟩
      exact ⟨config, rfl, s₁, hchange, hlisten⟩
    · rintro ⟨_, hsome, s₁, hchange, hlisten⟩
      obtain rfl := Option.some.inj hsome
      exact ⟨(), s₁, hchange, hlisten⟩

end Events

/-! ## Recorded costs -/

/-- The costs recorded by the functions of an executor: by currency, by goods, and of the guild. -/
structure CheckRecs where
  /-- `CheckRecCur.curCostRec`. -/
  cur : AList fun _ : Option CurrencyType => Int64
  /-- `CheckRecGoods.goodsCost`. -/
  goods : AList fun _ : Int32 => Int32
  /-- `CheckRecGuildMny.num`; absent while no function has recorded a cost of guild money. -/
  guildMny : Option Int64

namespace CheckRecs

def empty : CheckRecs := ⟨∅, ∅, none⟩

/-- `CheckRecCur.addCost`. -/
def addCost (recs : CheckRecs) (type : Option CurrencyType) (num : Int64) : CheckRecs :=
  { recs with cur := recs.cur.insert type (recs.cur.getOrDefault type 0 + num) }

/-- `CheckRecGoods.add`. -/
def addGoods (recs : CheckRecs) (gid num : Int32) : CheckRecs :=
  { recs with goods := recs.goods.insert gid (recs.goods.getOrDefault gid 0 + num) }

/-- `CheckRecGuildMny.addNum`. -/
def addNum (recs : CheckRecs) (num : Int64) : CheckRecs :=
  { recs with guildMny := some (recs.guildMny.getD 0 + num) }

end CheckRecs

/-- Throws when the guild money would become negative by `num`. Without a guild it passes. -/
def checkGuildMny (player : PlayerVO) (num : Int64) : Except Thrown Unit :=
  match player.guild with
  | none => .ok ()
  | some guild => CodeGuild.guildMoneyMinus.throwIfTrue (guild.mny + num < 0)

/-- `reCheckRecs`: checks the recorded costs against what the player has. -/
def CheckRecs.check (recs : CheckRecs) (player : PlayerVO) : Except Thrown Unit := do
  for e in recs.cur.entries do
    checkCurEnough player.depotVO e.1 e.2.abs
  for e in recs.goods.entries do
    checkGoodsEnough player.depotVO e.1 e.2
  match recs.guildMny with
  | none => return ()
  | some num => checkGuildMny player num

/-! ## Currencies -/

namespace ChangeCurFunc

/-- The value of the formula that the parameters name. -/
def formulaValue (att : PlayerAtt) (param : FuncParam) : Option Int64 :=
  (formulaType param.param2).map (·.getValue att)

/-- `(int)(value * param3 / 10000)`. -/
def scaled (param : FuncParam) (value : Int64) : Int64 :=
  (value * param.param3.toInt64 / 10000).toInt32.toInt64

/-- The amount that an execution books. -/
def changeVal (att : PlayerAtt) (param : FuncParam) (execNum : Int32) : Int64 :=
  let changeVal := (formulaValue att param).getD 0
  let changeVal := if param.param3 ≠ 0 then scaled param changeVal else changeVal
  (changeVal + param.value) * execNum.toInt64

/-- The amount is computed and booked. -/
def exec (depotBO : DepotBO) (param : FuncParam) (execNum : Int32) : Exec Unit := do
  let s ← get
  let changeVal := changeVal s.player.att param execNum
  match CurrencyType.ofType param.param with
  | none => return ()
  | some type =>
    -- the currency `NULL` is passed over in silence
    if type = .null then return ()
    else depotBO.changeCurByType type changeVal param.overMax param.pay

/-- `CurCostChecker.check`. -/
def check (player : PlayerVO) (param : FuncParam) : Except Thrown Unit := do
  CodeDepot.depotCnyTypeError.throwIfTrue (CurrencyType.ofType param.param = none)
  if param.value < 0 then
    checkCurEnough player.depotVO (CurrencyType.ofType param.param) param.value.abs

/-- What is recorded for a negative value: the value of the formula in its place if there is one,
scaled. -/
def record (player : PlayerVO) (param : FuncParam) (recs : CheckRecs) : CheckRecs :=
  if param.value < 0 then
    let changeVal := (formulaValue player.att param).getD param.value
    let changeVal := if 0 < param.param3 then scaled param changeVal else changeVal
    recs.addCost (CurrencyType.ofType param.param) changeVal
  else recs

/-- **An execution on a currency** other than `NULL` is a change of its balance; on `NULL` it does
nothing. -/
theorem run_exec {depotBO : DepotBO} {param : FuncParam} {execNum : Int32} {type : CurrencyType}
    (htype : CurrencyType.ofType param.param = some type) (s : ExecState) :
    (exec depotBO param execNum).run s =
      (if type = .null then pure () else depotBO.changeCurByType type
        (changeVal s.player.att param execNum) param.overMax param.pay).run s := by
  unfold exec
  rw [EStateM.run_bind, EStateM.run_get]
  simp only [htype]

end ChangeCurFunc

/-! ## Goods -/

namespace ChangeGoodsFunc

/-- The number of goods that an execution books: a cost as it is, a gain times `execNum` or drawn
at random. -/
def num (cfgs : Configs) (param : FuncParam) (execNum : Int32) : EStateM Thrown Rng Int32 :=
  if param.value < 0 then pure param.value.toInt32
  else do
    let value ← getValue cfgs param execNum
    return value.toInt32

/-- The number is drawn and booked. -/
def exec (cfgs : Configs) (depotBO : DepotBO) (param : FuncParam) (execNum : Int32) :
    Exec Unit := do
  let num ← drawn (num cfgs param execNum)
  if 0 < param.param then
    depotBO.changeGoodsNum param.param num

/-- `GoodsCostChecker.check`. -/
def check (player : PlayerVO) (param : FuncParam) : Except Thrown Unit :=
  if param.value < 0 then checkGoodsEnough player.depotVO param.param param.value.abs.toInt32
  else .ok ()

def record (param : FuncParam) (recs : CheckRecs) : CheckRecs :=
  if param.value < 0 then recs.addGoods param.param param.value.abs.toInt32 else recs

/-- **An execution on goods** draws the number and changes the goods if the id is positive. -/
theorem exec_eq_ok_iff {cfgs : Configs} {depotBO : DepotBO} {param : FuncParam} {execNum : Int32}
    {s s' : ExecState} :
    (exec cfgs depotBO param execNum).run s = .ok () s' ↔
      ∃ n rng, (num cfgs param execNum).run s.rng = .ok n rng ∧
        ((¬0 < param.param ∧ s' = ⟨s.player, rng⟩) ∨ (0 < param.param ∧
          (depotBO.changeGoodsNum param.param n).run ⟨s.player, rng⟩ = .ok () s')) := by
  unfold exec
  rw [EStateM.run_bind_eq_ok]
  constructor
  · rintro ⟨n, s₁, hdraw, hrest⟩
    obtain ⟨rng, hn, rfl⟩ := run_drawn_eq_ok.mp hdraw
    refine ⟨n, rng, hn, ?_⟩
    by_cases hid : 0 < param.param
    · rw [if_pos hid] at hrest
      exact .inr ⟨hid, hrest⟩
    · rw [if_neg hid] at hrest
      have hs : s' = ⟨s.player, rng⟩ := by simpa [eq_comm] using hrest
      exact .inl ⟨hid, hs⟩
  · rintro ⟨n, rng, hn, hrest⟩
    refine ⟨n, ⟨s.player, rng⟩, run_drawn_eq_ok.mpr ⟨rng, hn, rfl⟩, ?_⟩
    rcases hrest with ⟨hid, rfl⟩ | ⟨hid, hchange⟩
    · rw [if_neg hid]
      rfl
    · rw [if_pos hid]
      exact hchange

end ChangeGoodsFunc

/-! ## Guild money -/

namespace ChangeGuildMnyFunc

/-- The player's guild, unless the parameters name another one. -/
def checkAndGetGuildVO (player : PlayerVO) (param : FuncParam) : Option GuildVO :=
  player.guild.filter fun guild => param.param ≤ 0 ∨ param.param = guild.id

/-- `changeGuildMny`. -/
def changeGuildMny (guild : GuildVO) (delta : Int64) : GuildVO :=
  { guild with mny := guild.mny + delta }

/-- The player after the change: without a guild to change, as before. -/
def changed (player : PlayerVO) (param : FuncParam) : PlayerVO :=
  match checkAndGetGuildVO player param with
  | none => player
  | some guild => player.setGuild (changeGuildMny guild param.value)

def exec (param : FuncParam) : Exec Unit :=
  modify fun s => { s with player := changed s.player param }

/-- `GuildMnyCostChecker.check`: the value is checked against the money of the player's guild,
whichever guild the parameters name. -/
def check (player : PlayerVO) (param : FuncParam) : Except Thrown Unit :=
  checkGuildMny player param.value

def record (param : FuncParam) (recs : CheckRecs) : CheckRecs :=
  if param.value < 0 then recs.addNum param.value else recs

/-- **An execution on guild money** never throws. -/
theorem run_exec (param : FuncParam) (s : ExecState) :
    (exec param).run s = .ok () { s with player := changed s.player param } := rfl

@[simp] lemma att_changed (player : PlayerVO) (param : FuncParam) :
    (changed player param).att = player.att := by
  unfold changed
  split <;> rfl

end ChangeGuildMnyFunc

/-! ## Any function -/

namespace AbstractFunc

/-- The check of the parameters. -/
def check (player : PlayerVO) (f : AbstractFunc) : Except Thrown Unit :=
  match f.type with
  | .changeCurFunc => ChangeCurFunc.check player f.param
  | .changeGoodsFunc => ChangeGoodsFunc.check player f.param
  | .changeGuildMnyFunc => ChangeGuildMnyFunc.check player f.param

/-- Records the cost together with the costs recorded before. -/
def record (player : PlayerVO) (recs : CheckRecs) (f : AbstractFunc) : CheckRecs :=
  match f.type with
  | .changeCurFunc => ChangeCurFunc.record player f.param recs
  | .changeGoodsFunc => ChangeGoodsFunc.record f.param recs
  | .changeGuildMnyFunc => ChangeGuildMnyFunc.record f.param recs

/-- Executes the function `execNum` times. -/
def exec (cfgs : Configs) (depotBO : DepotBO) (execNum : Int32) (f : AbstractFunc) : Exec Unit :=
  match f.type with
  | .changeCurFunc => ChangeCurFunc.exec depotBO f.param execNum
  | .changeGoodsFunc => ChangeGoodsFunc.exec cfgs depotBO f.param execNum
  | .changeGuildMnyFunc => ChangeGuildMnyFunc.exec f.param

/-- `checkAndExec`: the parameters and the recorded cost are checked, then the function is executed
once. -/
def checkAndExec (cfgs : Configs) (depotBO : DepotBO) (f : AbstractFunc) : Exec Unit := do
  EStateM.ofExcept fun s => check s.player f
  EStateM.ofExcept fun s => (record s.player CheckRecs.empty f).check s.player
  exec cfgs depotBO 1 f

end AbstractFunc

end SrgpGame.Func
