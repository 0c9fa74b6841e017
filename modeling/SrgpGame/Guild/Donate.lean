import SrgpGame.Func.ExecOnce
import SrgpGame.Func.Upheld
import SrgpGame.Guild.GuildExp
import SrgpGame.Guild.RightLevel

set_option autoImplicit false

/-!
# Donations to a guild

A member gives something to the guild and gets something for it; the guild gets money and
experience. A mark at the member prevents a second donation until it is reset.

## Main definitions

* `DonateConfig`, `DonateVO` — what can be donated, and the parties of a donation.
* `checkDonate`, `serve`, `donate` — the checks, the executor of costs and prizes, and the method.
* `DonateRight` — what is required of a call.
* `RejectedBy` — the executor rejects the cost and the prizes.
* `Safe` — when a call does what is required.
* `Event`, `step` — what happens, and how many donations returned since the last reset.

## Main results

* `donateRight_iff` — when a call does what is required.
* `donatedOnce_run_iff` — the same for every call of a run, with one donation between two resets.

## Design notes

The level of the guild is checked last. At the top level `addGuildExp` throws, when the cost is paid
and everything is given, and before the mark is set. What functions read and change is left open,
but for the money of the guild.
-/

namespace SrgpGame.Donate

open EStateM Runs
open BaseExecutor
open FixedDrop (PlayerVO)
open Func (FuncConfig FuncParam FixedExecConfig)
open Guild (RightLevel)
open GuildExp (GuildLVCfg ExpFits getByLV addGuildExp)

/-! ## The parties -/

/-- `DonateConfig`. -/
structure DonateConfig where
  cost : Option FuncConfig
  /-- A missing list is an empty one. -/
  prize : List FuncConfig
  guildExpPrize : Int32
  guildMoneyPrize : Int32

/-- What functions read and change: the money of the guild, and everything else. -/
structure Owned (τ : Type) where
  others : τ
  mny : Int64

/-- `GuildMemberVO`. -/
structure GuildMemberVO where
  /-- What was donated; nothing if it is not positive. -/
  donateCid : Int32

/-- `GuildVO`, without its money. -/
structure GuildVO where
  growth : GuildExp.GuildVO
  /-- The level of the member in `memberRights`. -/
  memberRight : Option RightLevel

/-- The parties of a donation. -/
structure DonateVO (τ : Type) where
  player : PlayerVO (Owned τ)
  memberVO : Option GuildMemberVO
  /-- The guild of the member. -/
  guildVO : Option GuildVO

/-- The tables, and the functions by their types. -/
structure DonateCfgs (τ ρ κ : Type) where
  donateCfg : Int32 → Option DonateConfig
  guildLv : List GuildLVCfg
  fixedExec : Int32 → Option FixedExecConfig
  getFunc : Int32 → Option (FuncParam → AbstractFunc (Owned τ) ρ)
  recs : CheckRec (Owned τ) ρ κ

variable {τ ρ κ : Type} (cfgs : DonateCfgs τ ρ κ)

/-! ## The method -/

/-- The checks of `donate`. -/
def checkDonate (donateCid : Int32) (vo : DonateVO τ) :
    Except Thrown (GuildVO × DonateConfig) :=
  match vo.memberVO, vo.guildVO with
  | none, _ => CodeGuild.notJoinGuild.throwException
  | _, none => CodeGuild.notJoinGuild.throwException
  | some memberVO, some guildVO => do
    CodeGuild.rightMinus.throwIfTrue
      ¬∃ level ∈ guildVO.memberRight, level.haveRight .DONATE = true
    match cfgs.donateCfg donateCid with
    | none => CodeGuild.notFindDonateConfig.throwException
    | some config =>
      CodeGuild.alreadyDonate.throwIfTrue (0 < memberVO.donateCid)
      return (guildVO, config)

/-- The function of a configuration. -/
def toFunc (funcConfig : FuncConfig) : Option (AbstractFunc (Owned τ) ρ) :=
  (cfgs.getFunc funcConfig.type).map fun getFunc => getFunc funcConfig.copy.param

/-- `addSyncFunc`. -/
def addSyncFunc (exec : BaseFuncsExecutor (Owned τ) ρ κ) (funcConfig : Option FuncConfig) :
    Exec (Owned τ) ρ Unit :=
  match funcConfig with
  | none => throw .nullPointer
  | some funcConfig =>
    match toFunc cfgs funcConfig with
    | none => throw .nullPointer
    | some func => exec.acceptFunc func

variable [DecidableEq κ]

/-- The executor of the cost and the prizes, built and checked. -/
def checked (cmd : Option Int32) (config : DonateConfig) :
    Exec (Owned τ) ρ (BaseFuncsExecutor (Owned τ) ρ κ) := do
  let executor : BaseFuncsExecutor (Owned τ) ρ κ ← getExecutor cmd
  addSyncFunc cfgs executor config.cost
  each (fun funcConfig => addSyncFunc cfgs executor (some funcConfig)) config.prize
  executor.checks cfgs.fixedExec cfgs.recs true

/-- The executor of the cost and the prizes. -/
def serve (cmd : Option Int32) (config : DonateConfig) : Exec (Owned τ) ρ Unit := do
  let executor : BaseFuncsExecutor (Owned τ) ρ κ ← getExecutor cmd
  addSyncFunc cfgs executor config.cost
  each (fun funcConfig => addSyncFunc cfgs executor (some funcConfig)) config.prize
  executor.exec cfgs.fixedExec cfgs.recs true 1

/-- `setMny`, with a sum. -/
def addMny (player : PlayerVO (Owned τ)) (guildMoneyPrize : Int32) : PlayerVO (Owned τ) :=
  { player with others := { player.others with
    mny := player.others.mny + guildMoneyPrize.toInt64 } }

/-- **`donate`**. -/
def donate (cmd : Option Int32) (donateCid : Int32) : EStateM Thrown (DonateVO τ) Unit := do
  let (guildVO, config) ← ofExcept (checkDonate cfgs donateCid)
  zoom DonateVO.player (fun player vo => { vo with player := player })
    (withExecutors (serve cfgs cmd config))
  modify fun vo => { vo with player := addMny vo.player config.guildMoneyPrize }
  zoom (fun _ => guildVO.growth)
    (fun growth vo => { vo with guildVO := some { guildVO with growth := growth } })
    (addGuildExp cfgs.guildLv config.guildExpPrize)
  modify fun vo => { vo with memberVO := some ⟨donateCid⟩ }

/-! ## What is required -/

/-- Nothing is changed that matters. -/
structure Unchanged (vo vo' : DonateVO τ) : Prop where
  owned : vo'.player.others = vo.player.others
  guildVO : vo'.guildVO = vo.guildVO
  memberVO : vo'.memberVO = vo.memberVO

/-- The player, before executors are used. -/
def start (player : PlayerVO (Owned τ)) : ExecState (Owned τ) ρ := ⟨player, ⟨fun _ => [], 0⟩, []⟩

/-- The functions of the cost and the prizes. -/
def funcsOf (config : DonateConfig) : List (Option (AbstractFunc (Owned τ) ρ)) :=
  (config.cost :: config.prize.map some).map fun funcConfig => funcConfig.bind (toFunc cfgs)

/-- **A donation is made**: the functions of the cost and of all prizes are executed, each once;
then the money and the experience are added, and the mark is set. -/
structure Donated (cmd : Option Int32) (donateCid : Int32) (config : DonateConfig)
    (guildVO : GuildVO) (vo vo' : DonateVO τ) : Prop where
  served : ∃ s, (serve cfgs cmd config).run (start vo.player) = .ok () s ∧
    (executed s.log).map some = funcsOf cfgs config ∧
    vo'.player.others.others = s.player.others.others ∧
    vo'.player.others.mny.toInt = s.player.others.mny.toInt + config.guildMoneyPrize.toInt
  added : ∃ growth, GuildExp.Added cfgs.guildLv guildVO.growth config.guildExpPrize growth ∧
    vo'.guildVO = some { guildVO with growth := growth }
  marked : vo'.memberVO = some ⟨donateCid⟩ ∧ 0 < donateCid

/-- **What is required of a call**: it throws and changes nothing, or a donation is made. -/
def DonateRight (cmd : Option Int32) (donateCid : Int32) (vo : DonateVO τ) : Prop :=
  (∃ e vo', (donate cfgs cmd donateCid).run vo = .error e vo' ∧ Unchanged vo vo') ∨
    ∃ vo' guildVO config, (donate cfgs cmd donateCid).run vo = .ok () vo' ∧
      checkDonate cfgs donateCid vo = .ok (guildVO, config) ∧
      Donated cfgs cmd donateCid config guildVO vo vo'

/-- **The executor rejects the cost and the prizes**: building it throws or a check does, or one of
the functions in its turn, and what functions change is as it was. -/
def RejectedBy (cmd : Option Int32) (config : DonateConfig) (player : PlayerVO (Owned τ)) : Prop :=
  match (checked cfgs cmd config).run (start player) with
  | .error _ s => s.player.others = player.others
  | .ok executor s => Stops (fun player' => player'.others = player.others)
      ((executor.selected s).map fun func => func.exec executor.cmd 1) s.player

/-- **When a call does what is required**: the checks fail; or the executor rejects the functions;
or it returns, there is a next level, the sums are integers of the machine, and the id is a mark;
or, without a next level, nothing was to be changed at all. -/
def Safe (cmd : Option Int32) (donateCid : Int32) (vo : DonateVO τ) : Prop :=
  (∃ e, checkDonate cfgs donateCid vo = .error e) ∨
    ∃ guildVO config, checkDonate cfgs donateCid vo = .ok (guildVO, config) ∧
      (RejectedBy cfgs cmd config vo.player ∨
        ∃ s, (serve cfgs cmd config).run (start vo.player) = .ok () s ∧
          ((∃ nextCfg, getByLV cfgs.guildLv (guildVO.growth.level + 1) = some nextCfg ∧
              ExpFits guildVO.growth config.guildExpPrize nextCfg ∧
              -2 ^ 63 ≤ s.player.others.mny.toInt + config.guildMoneyPrize.toInt ∧
              s.player.others.mny.toInt + config.guildMoneyPrize.toInt < 2 ^ 63 ∧
              0 < donateCid) ∨
            (getByLV cfgs.guildLv (guildVO.growth.level + 1) = none ∧
              config.guildExpPrize = 0 ∧
              (addMny s.player config.guildMoneyPrize).others = vo.player.others)))

/-! ## A call -/

section Call

variable {cfgs} {cmd : Option Int32} {donateCid : Int32} {vo : DonateVO τ} {guildVO : GuildVO}
  {config : DonateConfig} {s s' : ExecState (Owned τ) ρ} {e : Thrown}

omit [DecidableEq κ] in
/-- What the checks have found. -/
lemma checkDonate_eq_ok (h : checkDonate cfgs donateCid vo = .ok (guildVO, config)) :
    vo.guildVO = some guildVO ∧
      ∃ memberVO, vo.memberVO = some memberVO ∧ ¬0 < memberVO.donateCid := by
  unfold checkDonate at h
  cases hmember : vo.memberVO with
  | none =>
    rw [hmember] at h
    cases h
  | some memberVO =>
    cases hguild : vo.guildVO with
    | none =>
      rw [hmember, hguild] at h
      cases h
    | some guildVO' =>
      simp only [hmember, hguild] at h
      obtain ⟨⟨⟩, -, h⟩ := Except.bind_eq_ok.mp h
      cases hconfig : cfgs.donateCfg donateCid with
      | none =>
        rw [hconfig] at h
        cases h
      | some config' =>
        simp only [hconfig] at h
        obtain ⟨⟨⟩, hmark, h⟩ := Except.bind_eq_ok.mp h
        obtain ⟨rfl, rfl⟩ := Prod.mk.inj (Except.ok.inj h)
        exact ⟨rfl, memberVO, rfl, ICode.throwIfTrue_eq_ok.mp hmark⟩

/-- The executor throws. -/
lemma run_donate_of_error (hcheck : checkDonate cfgs donateCid vo = .ok (guildVO, config))
    (hserve : (serve cfgs cmd config).run (start vo.player) = .error e s) :
    (donate cfgs cmd donateCid).run vo = .error e { vo with player := s.player } := by
  have hserve' : (serve cfgs cmd config).run ⟨vo.player, ⟨fun _ => [], 0⟩, []⟩ = .error e s :=
    hserve
  rw [donate, run_bind, run_ofExcept, hcheck]
  simp only
  rw [run_bind, run_zoom, run_withExecutors]
  simp only [hserve']

/-- The executor returns; then `addGuildExp` returns or throws. -/
lemma run_donate_of_ok (hcheck : checkDonate cfgs donateCid vo = .ok (guildVO, config))
    (hserve : (serve cfgs cmd config).run (start vo.player) = .ok () s) :
    (∀ growth, (addGuildExp cfgs.guildLv config.guildExpPrize).run guildVO.growth =
        .ok () growth →
      (donate cfgs cmd donateCid).run vo =
        .ok () ⟨addMny s.player config.guildMoneyPrize, some ⟨donateCid⟩,
          some { guildVO with growth := growth }⟩) ∧
    ∀ e growth, (addGuildExp cfgs.guildLv config.guildExpPrize).run guildVO.growth =
        .error e growth →
      (donate cfgs cmd donateCid).run vo =
        .error e ⟨addMny s.player config.guildMoneyPrize, vo.memberVO,
          some { guildVO with growth := growth }⟩ := by
  have hserve' : (serve cfgs cmd config).run ⟨vo.player, ⟨fun _ => [], 0⟩, []⟩ = .ok () s := hserve
  rw [donate, run_bind, run_ofExcept, hcheck]
  simp only
  rw [run_bind, run_zoom, run_withExecutors]
  simp only [hserve']
  rw [run_bind, run_modify]
  simp only
  rw [run_bind, run_zoom]
  constructor
  · intro growth hadd
    simp only [hadd]
    rfl
  · intro e growth hadd
    simp only [hadd]

/-- A function that is accepted. -/
lemma books_addSyncFunc {executor : BaseFuncsExecutor (Owned τ) ρ κ}
    {funcs : List (AbstractFunc (Owned τ) ρ)} {funcConfig : Option FuncConfig}
    (h : Books cfgs.recs funcs executor s)
    (hrun : (addSyncFunc cfgs executor funcConfig).run s = .ok () s') :
    ∃ func, funcConfig.bind (toFunc cfgs) = some func ∧
      Books cfgs.recs (funcs ++ [func]) executor s' := by
  cases funcConfig with
  | none => cases hrun
  | some funcConfig =>
    rw [addSyncFunc] at hrun
    cases hfunc : toFunc cfgs funcConfig with
    | none =>
      simp only [hfunc] at hrun
      cases hrun
    | some func =>
      simp only [hfunc] at hrun
      obtain ⟨s₁, haccept, hbooks⟩ := h.acceptFunc func
      cases haccept.symm.trans hrun
      exact ⟨func, hfunc, hbooks⟩

/-- Functions that are accepted one after the other. -/
lemma books_addSyncFuncs {executor : BaseFuncsExecutor (Owned τ) ρ κ}
    {funcs : List (AbstractFunc (Owned τ) ρ)} {prize : List FuncConfig}
    (h : Books cfgs.recs funcs executor s)
    (hrun : (each (fun funcConfig => addSyncFunc cfgs executor (some funcConfig)) prize).run s =
      .ok () s') :
    ∃ prizes, prizes.map some = (prize.map some).map (fun c => c.bind (toFunc cfgs)) ∧
      Books cfgs.recs (funcs ++ prizes) executor s' := by
  induction prize generalizing funcs s with
  | nil =>
    cases hrun
    exact ⟨[], rfl, by rwa [List.append_nil]⟩
  | cons funcConfig prize ih =>
    obtain ⟨s₁, hfirst, hrest⟩ := run_each_cons_eq_ok.mp hrun
    obtain ⟨func, hfunc, hbooks⟩ := books_addSyncFunc h hfirst
    obtain ⟨prizes, hprizes, hbooks'⟩ := ih hbooks hrest
    refine ⟨func :: prizes, ?_, ?_⟩
    · rw [List.map_cons, hprizes, ← hfunc]
      rfl
    · rwa [List.append_assoc, List.singleton_append] at hbooks'

/-- No guaranteed drop is for a function of a configuration. -/
def NotFixed (cfgs : DonateCfgs τ ρ κ) : Prop :=
  ∀ funcConfig func, toFunc cfgs funcConfig = some func → cfgs.fixedExec func.steadyExecId = none

/-- **An executor that returns** has executed the cost and all prizes, each once. -/
lemma executed_of_serve (hfixed : NotFixed cfgs) {player : PlayerVO (Owned τ)}
    (hrun : (serve cfgs cmd config).run (start player) = .ok () s) :
    (executed s.log).map some = funcsOf cfgs config := by
  obtain ⟨executor, s₁, hget, -, -, -, hbooks⟩ := getExecutor_run cfgs.recs cmd
    (s := (start player : ExecState (Owned τ) ρ)) rfl
  obtain ⟨executor', s₂, hget', hrun⟩ := run_bind_eq_ok.mp hrun
  cases hget.symm.trans hget'
  obtain ⟨⟨⟩, s₃, hcost, hrun⟩ := run_bind_eq_ok.mp hrun
  obtain ⟨⟨⟩, s₄, hprize, hexec⟩ := run_bind_eq_ok.mp hrun
  obtain ⟨func, hfunc, hbooks₃⟩ := books_addSyncFunc hbooks hcost
  obtain ⟨prizes, hprizes, hbooks₄⟩ := books_addSyncFuncs hbooks₃ hprize
  have hall : ([] ++ [func] ++ prizes).map some = funcsOf cfgs config := by
    rw [funcsOf, List.map_cons, ← hprizes, hfunc]
    rfl
  rw [hbooks₄.executed_of_exec (fun f hf => ?_) hexec, hall]
  -- the functions are those of configurations
  have hmem : some f ∈ funcsOf cfgs config := hall ▸ List.mem_map_of_mem hf
  obtain ⟨funcConfig, -, hconfig⟩ := List.mem_map.mp hmem
  obtain ⟨c, -, hc⟩ := Option.bind_eq_some_iff.mp hconfig
  exact hfixed c f hc

/-- The sum of the guild's money, if it is an integer of the machine. -/
lemma toInt_mny_addMny_iff (player : PlayerVO (Owned τ)) (prize : Int32) :
    (addMny player prize).others.mny.toInt = player.others.mny.toInt + prize.toInt ↔
      -2 ^ 63 ≤ player.others.mny.toInt + prize.toInt ∧
        player.others.mny.toInt + prize.toInt < 2 ^ 63 := by
  have hprize : prize.toInt64.toInt = prize.toInt := Int32.toInt_toInt64 prize
  have hsum : (addMny player prize).others.mny = player.others.mny + prize.toInt64 := rfl
  constructor
  · intro h
    rw [← h]
    exact ⟨Int64.le_toInt _, Int64.toInt_lt _⟩
  · rintro ⟨hlow, hhigh⟩
    rw [hsum, Int64.toInt_add_of_fits (by omega) (by omega), hprize]

/-- An experience that does not change by a sum. -/
lemma add_eq_self_iff (exp prize : Int32) : exp + prize = exp ↔ prize = 0 := by
  constructor
  · intro h
    have hsub : exp + prize - exp = 0 := by rw [h, Int32.sub_self]
    rwa [Int32.add_comm, Int32.add_sub_cancel] at hsub
  · rintro rfl
    exact Int32.add_zero exp

/-- The executor throws and has changed nothing just if it rejects the functions. -/
lemma rejectedBy_iff (player : PlayerVO (Owned τ)) :
    RejectedBy cfgs cmd config player ↔ ∃ e s,
      (serve cfgs cmd config).run (start player) = .error e s ∧
        s.player.others = player.others := by
  have hserve : serve cfgs cmd config =
      checked cfgs cmd config >>= fun executor => executor.runSelectedFuncs 1 := by
    simp only [serve, checked, BaseFuncsExecutor.exec, bind_assoc]
  rw [RejectedBy, hserve, run_bind]
  cases hrun : (checked cfgs cmd config).run (start player) with
  | error e s =>
    constructor
    · exact fun hsame => ⟨e, s, rfl, hsame⟩
    · rintro ⟨_, _, ⟨⟩, hsame⟩
      exact hsame
  | ok executor s =>
    obtain ⟨_, s₁, hget, hrest⟩ := run_bind_eq_ok.mp hrun
    cases hget
    obtain ⟨⟨⟩, s₂, -, hrest⟩ := run_bind_eq_ok.mp hrest
    obtain ⟨⟨⟩, s₃, -, hchecks⟩ := run_bind_eq_ok.mp hrest
    obtain ⟨-, hfunction, hselected⟩ := fields_of_checks hchecks
    have hfollows := follows_runSelectedFuncs hfunction hselected 1 s
    unfold Follows at hfollows
    simp only
    rw [← List.append_nil (List.map _ _), stops_iff, run_bind, hfollows]
    cases (executor.runSelectedFuncs 1).run s with
    | ok u s' => exact iff_of_false (by rintro ⟨_, _, ⟨⟩, -⟩) (by rintro ⟨_, _, ⟨⟩, -⟩)
    | error e s' =>
      constructor
      · rintro ⟨_, _, ⟨⟩, hsame⟩
        exact ⟨e, s', rfl, hsame⟩
      · rintro ⟨_, _, ⟨⟩, hsame⟩
        exact ⟨e, s'.player, rfl, hsame⟩

/-- If the executor throws, it must have changed nothing. -/
lemma donateRight_iff_of_error (hcheck : checkDonate cfgs donateCid vo = .ok (guildVO, config))
    (hserve : (serve cfgs cmd config).run (start vo.player) = .error e s) :
    DonateRight cfgs cmd donateCid vo ↔ s.player.others = vo.player.others := by
  have hrun := run_donate_of_error hcheck hserve
  constructor
  · rintro (⟨e', vo', hrun', hsame⟩ | ⟨vo', _, _, hrun', -⟩)
    · cases hrun.symm.trans hrun'
      exact hsame.owned
    · cases hrun.symm.trans hrun'
  · intro hsame
    exact .inl ⟨e, _, hrun, hsame, rfl, rfl⟩

/-- At the top level the call throws in the end, so it must have had nothing to change. -/
lemma donateRight_iff_of_top (hcheck : checkDonate cfgs donateCid vo = .ok (guildVO, config))
    (hserve : (serve cfgs cmd config).run (start vo.player) = .ok () s)
    (hnext : getByLV cfgs.guildLv (guildVO.growth.level + 1) = none) :
    DonateRight cfgs cmd donateCid vo ↔ config.guildExpPrize = 0 ∧
      (addMny s.player config.guildMoneyPrize).others = vo.player.others := by
  obtain ⟨hguild, -⟩ := checkDonate_eq_ok hcheck
  have hrun := (run_donate_of_ok hcheck hserve).2 _ _
    ((GuildExp.run_addGuildExp ..).trans (GuildExp.run_checkGuildLevelUp_of_none hnext))
  constructor
  · rintro (⟨e', vo', hrun', hsame⟩ | ⟨vo', _, _, hrun', -⟩)
    · cases hrun.symm.trans hrun'
      have hgrowth := congrArg GuildVO.growth (Option.some.inj (hsame.guildVO.trans hguild))
      have hexp := (GuildExp.GuildVO.mk.inj hgrowth).2.1
      exact ⟨(add_eq_self_iff ..).mp hexp, hsame.owned⟩
    · cases hrun.symm.trans hrun'
  · rintro ⟨hprize, hsame⟩
    refine .inl ⟨_, _, hrun, hsame, ?_, rfl⟩
    rw [hguild, hprize, Int32.add_zero]

/-- Below the top level a donation is made, if the sums fit and the id is a mark. -/
lemma donateRight_iff_of_next (hfixed : NotFixed cfgs)
    (hcheck : checkDonate cfgs donateCid vo = .ok (guildVO, config))
    (hserve : (serve cfgs cmd config).run (start vo.player) = .ok () s) {nextCfg : GuildLVCfg}
    (hnext : getByLV cfgs.guildLv (guildVO.growth.level + 1) = some nextCfg) :
    DonateRight cfgs cmd donateCid vo ↔ ExpFits guildVO.growth config.guildExpPrize nextCfg ∧
      -2 ^ 63 ≤ s.player.others.mny.toInt + config.guildMoneyPrize.toInt ∧
      s.player.others.mny.toInt + config.guildMoneyPrize.toInt < 2 ^ 63 ∧ 0 < donateCid := by
  obtain ⟨growth, hadd, hadded⟩ :=
    GuildExp.run_addGuildExp_of_some config.guildExpPrize hnext
  have hrun := (run_donate_of_ok hcheck hserve).1 growth hadd
  rw [← hadded]
  constructor
  · rintro (⟨e', vo', hrun', -⟩ | ⟨vo', _, _, hrun', hcheck', hdonated⟩)
    · cases hrun.symm.trans hrun'
    · cases hrun.symm.trans hrun'
      cases hcheck.symm.trans hcheck'
      obtain ⟨s', hserve', -, -, hmny⟩ := hdonated.served
      cases hserve.symm.trans hserve'
      obtain ⟨growth', hadded', hgrowth⟩ := hdonated.added
      obtain rfl := congrArg GuildVO.growth (Option.some.inj hgrowth)
      obtain ⟨hlow, hhigh⟩ := (toInt_mny_addMny_iff ..).mp hmny
      exact ⟨hadded', hlow, hhigh, hdonated.marked.2⟩
  · rintro ⟨hadded', hlow, hhigh, hpos⟩
    refine .inr ⟨_, guildVO, config, hrun, hcheck, ?_, ⟨growth, hadded', rfl⟩, rfl, hpos⟩
    exact ⟨s, hserve, executed_of_serve hfixed hserve, rfl,
      (toInt_mny_addMny_iff ..).mpr ⟨hlow, hhigh⟩⟩

/-- **A call does what is required** just if it is safe. -/
theorem donateRight_iff (hfixed : NotFixed cfgs) :
    DonateRight cfgs cmd donateCid vo ↔ Safe cfgs cmd donateCid vo := by
  unfold Safe
  simp only [rejectedBy_iff]
  cases hcheck : checkDonate cfgs donateCid vo with
  | error e =>
    have hrun : (donate cfgs cmd donateCid).run vo = .error e vo := by
      rw [donate, run_bind, run_ofExcept, hcheck]
    exact iff_of_true (.inl ⟨e, vo, hrun, rfl, rfl, rfl⟩) (.inl ⟨e, rfl⟩)
  | ok found =>
    obtain ⟨guildVO, config⟩ := found
    simp only [reduceCtorEq, exists_false, false_or, Except.ok.injEq, Prod.mk.injEq]
    cases hserve : (serve cfgs cmd config).run (start vo.player) with
    | error e s =>
      rw [donateRight_iff_of_error hcheck hserve]
      constructor
      · intro hsame
        exact ⟨guildVO, config, ⟨rfl, rfl⟩, .inl ⟨e, s, hserve, hsame⟩⟩
      · rintro ⟨_, _, ⟨rfl, rfl⟩, ⟨e', s', hserve', hsame⟩ | ⟨s', hserve', -⟩⟩
        · cases hserve.symm.trans hserve'
          exact hsame
        · cases hserve.symm.trans hserve'
    | ok u s =>
      cases hnext : getByLV cfgs.guildLv (guildVO.growth.level + 1) with
      | none =>
        rw [donateRight_iff_of_top hcheck hserve hnext]
        constructor
        · intro hnothing
          exact ⟨guildVO, config, ⟨rfl, rfl⟩, .inr ⟨s, hserve, .inr ⟨hnext, hnothing⟩⟩⟩
        · rintro ⟨_, _, ⟨rfl, rfl⟩, ⟨e', s', hserve', -⟩ | ⟨s', hserve', hsafe⟩⟩
          · cases hserve.symm.trans hserve'
          · cases hserve.symm.trans hserve'
            rcases hsafe with ⟨nextCfg, hnext', -⟩ | ⟨-, hnothing⟩
            · cases hnext.symm.trans hnext'
            · exact hnothing
      | some nextCfg =>
        rw [donateRight_iff_of_next hfixed hcheck hserve hnext]
        constructor
        · intro hfits
          exact ⟨guildVO, config, ⟨rfl, rfl⟩, .inr ⟨s, hserve, .inl ⟨nextCfg, hnext, hfits⟩⟩⟩
        · rintro ⟨_, _, ⟨rfl, rfl⟩, ⟨e', s', hserve', -⟩ | ⟨s', hserve', hsafe⟩⟩
          · cases hserve.symm.trans hserve'
          · cases hserve.symm.trans hserve'
            rcases hsafe with ⟨nextCfg', hnext', hfits⟩ | ⟨hnext', -⟩
            · cases hnext.symm.trans hnext'
              exact hfits
            · cases hnext.symm.trans hnext'

end Call

/-! ## Runs -/

/-- What happens to the parties. -/
inductive Event (τ : Type) where
  | donate (cmd : Option Int32) (donateCid : Int32)
  | reset
  /-- Something else, after which everything but the mark may be as in `vo`. -/
  | elsewhere (vo : DonateVO τ)

/-- The parties, and how many donations returned since the last reset. -/
structure DonateRun (τ : Type) where
  vo : DonateVO τ
  donations : ℕ := 0

/-- `systemReset`, `cmdReset` and `resetGuildMember`, on another day. -/
def resetMark (vo : DonateVO τ) : DonateVO τ :=
  { vo with memberVO := vo.memberVO.map fun _ => ⟨0⟩ }

/-- The mark stays where there is one; a new member has none. -/
def keepMark (vo vo' : DonateVO τ) : DonateVO τ :=
  { vo' with memberVO := vo.memberVO.or (vo'.memberVO.map fun _ => ⟨0⟩) }

/-- What an event does. -/
def step (s : DonateRun τ) : Event τ → DonateRun τ
  | .donate cmd donateCid =>
    match (donate cfgs cmd donateCid).run s.vo with
    | .ok _ vo => ⟨vo, s.donations + 1⟩
    | .error _ vo => ⟨vo, s.donations⟩
  | .reset => ⟨resetMark s.vo, 0⟩
  | .elsewhere vo => ⟨keepMark s.vo vo, s.donations⟩

/-- A donation that returned since the last reset has left its mark. -/
def Marked (s : DonateRun τ) : Prop :=
  s.donations = 0 ∨
    s.donations = 1 ∧ ∃ memberVO, s.vo.memberVO = some memberVO ∧ 0 < memberVO.donateCid

section Run

variable {cfgs} {s : DonateRun τ} {event : Event τ}

/-- **Marks are kept** by calls that do what is required. -/
lemma Marked.step (h : Marked s)
    (hright : ∀ cmd donateCid, event = .donate cmd donateCid →
      DonateRight cfgs cmd donateCid s.vo) :
    Marked (step cfgs s event) := by
  cases event with
  | donate cmd donateCid =>
    rcases hright cmd donateCid rfl with
      ⟨e, vo', hrun, hsame⟩ | ⟨vo', guildVO, config, hrun, hcheck, hdonated⟩
    · have hstep : Donate.step cfgs s (.donate cmd donateCid) = ⟨vo', s.donations⟩ := by
        simp only [Donate.step, hrun]
      rw [hstep]
      unfold Marked
      rw [hsame.memberVO]
      exact h
    · have hstep : Donate.step cfgs s (.donate cmd donateCid) = ⟨vo', s.donations + 1⟩ := by
        simp only [Donate.step, hrun]
      obtain ⟨-, memberVO, hmember, hunmarked⟩ := checkDonate_eq_ok hcheck
      -- a call after a donation is refused
      have hnone : s.donations = 0 := by
        rcases h with hnone | ⟨-, memberVO', hmember', hmarked⟩
        · exact hnone
        · cases hmember.symm.trans hmember'
          exact absurd hmarked hunmarked
      rw [hstep]
      exact .inr ⟨by rw [hnone], _, hdonated.marked⟩
  | reset => exact .inl rfl
  | elsewhere vo =>
    rcases h with hnone | ⟨hone, memberVO, hmember, hmarked⟩
    · exact .inl hnone
    · refine .inr ⟨hone, memberVO, ?_, hmarked⟩
      show s.vo.memberVO.or _ = some memberVO
      rw [hmember, Option.some_or]

lemma Marked.donations_le (h : Marked s) : s.donations ≤ 1 := by
  rcases h with h | ⟨h, -⟩
  · omega
  · omega

variable (cfgs) in
/-- **In a run every call does what is required, and one donation at most returns between two
resets**, just if every call is safe. -/
theorem donatedOnce_run_iff (hfixed : NotFixed cfgs) (vo : DonateVO τ) (events : List (Event τ)) :
    EveryStep (step cfgs)
        (fun s event => (∀ cmd donateCid, event = .donate cmd donateCid →
          DonateRight cfgs cmd donateCid s.vo) ∧ (step cfgs s event).donations ≤ 1)
        ⟨vo, 0⟩ events ↔
      EveryStep (step cfgs)
        (fun s event => ∀ cmd donateCid, event = .donate cmd donateCid →
          Safe cfgs cmd donateCid s.vo) ⟨vo, 0⟩ events := by
  refine everyStep_congr (fun s _ => Marked s) (fun s event _ hinv hsafe => ?_)
    (fun s event _ hinv => ?_) (.inl rfl)
  · exact hinv.step fun cmd cid heq => (donateRight_iff hfixed).mpr (hsafe cmd cid heq)
  · simp only [donateRight_iff hfixed]
    refine and_iff_left_of_imp fun hsafe => ?_
    have hmarked : Marked (step cfgs s event) :=
      hinv.step fun cmd cid heq => (donateRight_iff hfixed).mpr (hsafe cmd cid heq)
    exact hmarked.donations_le

end Run

/-! ## Example -/

/-- A function that changes a sum of money. -/
def changeCur (param : FuncParam) : AbstractFunc (Owned Int64) Unit where
  steadyExecId := 0
  depotCapacityChecker := none
  paramChecker := none
  record := pure none
  exec _ _ := modify fun player =>
    { player with others := { player.others with others := player.others.others + param.value } }

/-- A donation of ten, for ten of experience and of money; two levels are above the first. -/
def tenCfgs : DonateCfgs Int64 Unit Unit where
  donateCfg donateCid :=
    if donateCid = 55200001 then some ⟨some ⟨4, { param := 80400002, value := -10 }⟩, [], 10, 10⟩
    else none
  guildLv := GuildExp.tenRows
  fixedExec _ := none
  getFunc type := if type = 4 then some changeCur else none
  recs := { getClass := fun _ => (), accept := fun _ _ => (), check := fun _ => pure () }

/-- A member with a hundred, of a guild of some level. -/
def memberAt (level : Int32) : DonateVO Int64 where
  player := ⟨⟨100, 0⟩, ⟨∅, ∅⟩, ⟨fun _ => 0⟩⟩
  memberVO := some ⟨0⟩
  guildVO := some ⟨⟨level, 0, []⟩, some .Level3⟩

lemma notFixed_tenCfgs : NotFixed tenCfgs := fun _ _ _ => rfl

/-- A donation, one that is refused, and another one after a reset. -/
theorem donatedOnce_run_iff_twice :
    EveryStep (step tenCfgs)
      (fun s event => (∀ cmd donateCid, event = .donate cmd donateCid →
        DonateRight tenCfgs cmd donateCid s.vo) ∧ (step tenCfgs s event).donations ≤ 1)
      ⟨memberAt 1, 0⟩
      [.donate none 55200001, .donate none 55200001, .reset, .donate none 55200001] := by
  refine (donatedOnce_run_iff tenCfgs notFixed_tenCfgs (memberAt 1) _).mpr ⟨?_, ?_, ?_, ?_, trivial⟩
  · rintro cmd donateCid ⟨⟩
    refine .inr ⟨_, _, rfl, .inr ⟨_, rfl, .inl ⟨_, rfl, ?_⟩⟩⟩
    refine ⟨⟨by decide, by decide, by decide⟩, by decide, by decide, by decide⟩
  · rintro cmd donateCid ⟨⟩
    exact .inl ⟨_, rfl⟩
  · rintro cmd donateCid ⟨⟩
  · rintro cmd donateCid ⟨⟩
    refine .inr ⟨_, _, rfl, .inr ⟨_, rfl, .inl ⟨_, rfl, ?_⟩⟩⟩
    refine ⟨⟨by decide, by decide, by decide⟩, by decide, by decide, by decide⟩

/-- **Not so in general**: at the top level the member pays, and the call throws. -/
theorem not_donatedOnce :
    ¬EveryStep (step tenCfgs)
      (fun s event => (∀ cmd donateCid, event = .donate cmd donateCid →
        DonateRight tenCfgs cmd donateCid s.vo) ∧ (step tenCfgs s event).donations ≤ 1)
      ⟨memberAt 3, 0⟩ [.donate none 55200001] := by
  rintro ⟨⟨hright, -⟩, -⟩
  have htop := (donateRight_iff_of_top rfl rfl rfl).mp (hright none 55200001 rfl)
  exact absurd htop.1 (by decide)

end SrgpGame.Donate
