import SrgpGame.Quest.QuestCfgCache
import Mathlib.Data.List.Perm.Basic

set_option autoImplicit false

/-!
# Conditions on statistics

A quest in progress has conditions on statistics. One that records early starts at the statistic and
takes the value after each change from the event that the change raises. The quests hear the event
in a loop over all that are in progress when it begins, and what a condition leads to, a reward or
the next quest, runs in the middle of that loop: it can change statistics again, and the loop for
the new event runs to its end before the first loop goes on.

So the first loop goes on with a value that may be the statistic's no longer, and writes it into the
conditions that it has not come to. The records are right when this does not happen.

## Main definitions

* `StatsCdit`, `ProcItem` — a condition on a statistic, and how far it is.
* `createProcItem`, `listenEvt` — `CProcStats`.
* `QuestHolder`, `QuestHolder.step` — a player with quests, and what happens to them: the loops that
  are running are a stack.
* `QuestHolder.Current` — every early record is the statistic.
* `QuestHolder.Allowed` — steps in which nothing out of date is written and nothing is missed.

## Main results

* `statsType_add_inj` — a number in range is that of one statistic.
* `QuestHolder.Inv.step` — what an allowed step preserves.
* `QuestHolder.current_run` — the records are right whenever no loop is running.

## Design notes

The objects of the quests are held by reference, for a loop goes on with a quest that has been
finished or replaced meanwhile. Accepting and finishing quests, and the changes of statistics, come
in any order. `EnterGame`, to which the conditions listen too, has no number and moves none.
-/

namespace SrgpGame.Quest

open Runs Stats

/-! ## Conditions -/

/-- `REC_MODE_EARLY_REC`. -/
def recModeEarlyRec : Int32 := 0

/-- `REC_MODE_LATER_REC`. -/
def recModeLaterRec : Int32 := 1

/-- A condition for finishing a quest: a `CditCfg` with the statistic that its processor is for. -/
structure StatsCdit extends CditCfg where
  stats : EvtTypeStats
  recMode : Int32
  deriving DecidableEq, Repr

/-- `getStatisticType`. -/
def StatsCdit.statisticType (cdit : StatsCdit) : Int32 :=
  getStatisticType cdit.stats cdit.toCditCfg

/-- `LongRecProcItemVO`: how far a condition is. -/
structure ProcItem where
  cfg : StatsCdit
  /-- `rec`. -/
  record : Int64
  deriving DecidableEq, Repr

/-- `createProcItem`. -/
def createProcItem (svo : StatsVO) (cdit : StatsCdit) : ProcItem where
  cfg := cdit
  record := if cdit.recMode = recModeEarlyRec then svo.getData cdit.statisticType else 0

/-- `match` of `CProcBiParamStats`. -/
def matchEvt (cdit : StatsCdit) (event : GameEvent) : Bool :=
  match cdit.stats.unwrapStatsType event.type with
  | none => false
  | some cid => cdit.param == cid

/-- **`listenEvt`**: whether the event moves the condition, and how far it is then. -/
def listenEvt (event : GameEvent) (item : ProcItem) : Bool × ProcItem :=
  if !matchEvt item.cfg event then (false, item)
  else
    match event.after, event.before with
    | some after, some before =>
      let delta := after - before
      if delta = 0 then (false, item)
      else if item.cfg.recMode = recModeEarlyRec then (true, { item with record := after })
      else if item.cfg.recMode = recModeLaterRec then
        (true, { item with record := item.record + delta })
      else (true, item)
    | _, _ => (false, item)

/-- `AQuestCfg`: a quest with its conditions on statistics. -/
structure StatsQuestCfg where
  id : Int32
  finCditLst : List StatsCdit

/-- `QuestProcVO`: a quest that was accepted. -/
structure QuestProcVO where
  cid : Int32
  finCditProcs : List ProcItem

namespace QuestProcVO

/-- The constructor. -/
def create (svo : StatsVO) (cfg : StatsQuestCfg) : QuestProcVO where
  cid := cfg.id
  finCditProcs := cfg.finCditLst.map (createProcItem svo)

/-- `listenEvtAsFinCdit` for the condition at `ix`. -/
def listenEvtAsFinCdit (event : GameEvent) (ix : ℕ) (vo : QuestProcVO) : QuestProcVO :=
  { vo with finCditProcs := vo.finCditProcs.modify ix fun item => (listenEvt event item).2 }

end QuestProcVO

/-! ## Handling events -/

/-- A call of `listen` for the event of a change. -/
structure Listening where
  stats : EvtTypeStats
  event : GameEvent
  /-- The conditions that the loop has not come to, each the reference of a quest and an index;
  `none` before the loop begins. -/
  entries : Option (List (ℕ × ℕ))
  deriving Repr

/-- A player with quests. -/
structure QuestHolder where
  svo : StatsVO
  /-- The objects, by reference. -/
  procs : ℕ → QuestProcVO
  /-- The reference of the next object. -/
  fresh : ℕ
  questProcMap : AList fun _ : Int32 => ℕ
  /-- The calls of `listen` that are running, the innermost first. -/
  listening : List Listening

namespace QuestHolder

/-- The conditions of a quest that are for the statistic. -/
def getFinCditBy (h : QuestHolder) (stats : EvtTypeStats) (ref : ℕ) : List (ℕ × ℕ) :=
  ((h.procs ref).finCditProcs.zipIdx.filter fun e => e.1.cfg.stats = stats).map fun e => (ref, e.2)

/-- What happens. -/
inductive Action where
  /-- `add` or `update` of a statistic. -/
  | change (stats : EvtTypeStats) (param : Int32) (value : Int64) (addOrUpd : Bool)
  /-- The loop begins, over the quests in progress in this order. -/
  | begin (procVOs : List ℕ)
  /-- The loop comes to its next condition. -/
  | listen
  /-- `listen` returns. -/
  | finish
  /-- `addQuestProc`. -/
  | accept (cfg : StatsQuestCfg)
  /-- A quest is finished or reset. -/
  | remove (cid : Int32)
  /-- An exception ends the innermost `n` calls. -/
  | throw (n : ℕ)

/-- **What happens to a player**; what cannot happen changes nothing. -/
def step (h : QuestHolder) : Action → QuestHolder
  | .change stats param value addOrUpd =>
    let changed := dealChange h.svo (exchangParameterizedType stats.statsType param) value addOrUpd
    { h with
      svo := changed.1
      listening := ⟨stats, changed.2, none⟩ :: h.listening }
  | .begin procVOs =>
    match h.listening with
    | ⟨stats, event, none⟩ :: outer =>
      if procVOs.Perm h.questProcMap.values then
        { h with
          listening := ⟨stats, event, some (procVOs.flatMap (h.getFinCditBy stats))⟩ :: outer }
      else h
    | _ => h
  | .listen =>
    match h.listening with
    | ⟨stats, event, some ((ref, ix) :: entries)⟩ :: outer =>
      { h with
        procs := Function.update h.procs ref ((h.procs ref).listenEvtAsFinCdit event ix)
        listening := ⟨stats, event, some entries⟩ :: outer }
    | _ => h
  | .finish =>
    match h.listening with
    | ⟨_, _, some []⟩ :: outer => { h with listening := outer }
    | _ => h
  | .accept cfg =>
    { h with
      procs := Function.update h.procs h.fresh (.create h.svo cfg)
      fresh := h.fresh + 1
      questProcMap := h.questProcMap.insert cfg.id h.fresh }
  | .remove cid => { h with questProcMap := h.questProcMap.erase cid }
  | .throw n => { h with listening := h.listening.drop n }

/-- A player without quests. -/
def start (svo : StatsVO) : QuestHolder where
  svo := svo
  procs := fun _ => ⟨0, []⟩
  fresh := 0
  questProcMap := ∅
  listening := []

/-- A condition in progress that records early: `entry` is the quest and the index. -/
structure Early (h : QuestHolder) (entry : ℕ × ℕ) (item : ProcItem) : Prop where
  inProgress : entry.1 ∈ h.questProcMap.values
  getElem? : (h.procs entry.1).finCditProcs[entry.2]? = some item
  early : item.cfg.recMode = recModeEarlyRec

/-- The statistic of a condition. -/
def now (h : QuestHolder) (item : ProcItem) : Int64 := h.svo.getData item.cfg.statisticType

/-- **The records are right**: every early record of a quest in progress is the statistic. -/
def Current (h : QuestHolder) : Prop := ∀ entry item, h.Early entry item → item.record = h.now item

end QuestHolder

/-- The parameters that are told from the number. -/
def InRange (stats : EvtTypeStats) (param : Int32) : Prop := 0 ≤ param ∧ param < stats.statsType

instance (stats : EvtTypeStats) (param : Int32) : Decidable (InRange stats param) :=
  inferInstanceAs (Decidable (_ ∧ _))

/-- A call that has not come to the condition. -/
def Listening.Waits (l : Listening) (entry : ℕ × ℕ) (item : ProcItem) : Prop :=
  item.cfg.stats = l.stats ∧ ∀ entries, l.entries = some entries → entry ∈ entries

namespace QuestHolder

/-- **Steps that keep the records right**: the parameters are in range; when the loop comes to a
condition that the event moves, the statistic is still what the event says; and an exception ends no
call that has not come to such a condition. -/
def Allowed (h : QuestHolder) : Action → Prop
  | .change stats param _ _ => InRange stats param
  | .listen =>
    match h.listening with
    | ⟨_, event, some (entry :: _)⟩ :: _ =>
      ∀ item, h.Early entry item → (listenEvt event item).1 = true →
        event.after = some (h.now item)
    | _ => True
  | .accept cfg => ∀ cdit ∈ cfg.finCditLst, cdit.recMode = recModeEarlyRec →
      InRange cdit.stats cdit.param
  | .throw n => ∀ l ∈ h.listening.take n, ∀ entry item, h.Early entry item →
      l.Waits entry item → (listenEvt l.event item).1 = false
  | _ => True

end QuestHolder

/-! ## Numbers -/

/-- **A number in range is that of one statistic.** -/
theorem statsType_add_inj {a b : EvtTypeStats} {p q : Int32} (hp : InRange a p) (hq : InRange b q)
    (h : a.statsType + p = b.statsType + q) : a = b ∧ p = q := by
  obtain ⟨hp0, hpa⟩ := hp
  obtain ⟨hq0, hqb⟩ := hq
  rw [Int32.le_iff_toInt_le, Int32.toInt_zero] at hp0 hq0
  rw [Int32.lt_iff_toInt_lt] at hpa hqb
  have hbiz : EvtTypeStats.specBizCount.statsType.toInt = 1000 := rfl
  have hcollc : EvtTypeStats.specIdGoodsCollc.statsType.toInt = 100000000 := rfl
  have huse : EvtTypeStats.specIdGoodsUse.statsType.toInt = 200000000 := rfl
  have ha := a.toInt_statsType
  have hb := b.toInt_statsType
  have hnumber := congrArg Int32.toInt h
  rw [Int32.toInt_add_of_fits (by omega) (by omega),
    Int32.toInt_add_of_fits (by omega) (by omega)] at hnumber
  have hstats : a = b := by
    cases a <;> cases b <;> first
      | rfl
      | omega
  subst hstats
  refine ⟨rfl, Int32.toInt_inj.mp ?_⟩
  omega

/-- A condition hears the event of its statistic. -/
lemma matchEvt_of_inRange {cdit : StatsCdit} (h : InRange cdit.stats cdit.param)
    {event : GameEvent} (htype : event.type = some cdit.statisticType) :
    matchEvt cdit event = true := by
  have hparam := (EvtTypeStats.unwrapStatsType_statsType_add cdit.stats cdit.param).mpr h
  unfold matchEvt
  rw [htype]
  change (match cdit.stats.unwrapStatsType (some (cdit.stats.statsType + cdit.param)) with
    | none => false
    | some cid => cdit.param == cid) = true
  rw [hparam]
  exact beq_self_eq_true _

/-! ## Listening -/

lemma sub_eq_zero_iff {a b : Int64} : a - b = 0 ↔ a = b := by
  constructor
  · intro h
    have hsum := congrArg (· + b) h
    simpa using hsum
  · rintro rfl
    exact Int64.sub_self a

/-- The record after an event has moved a condition from `before` to `after`. -/
def movedRecord (item : ProcItem) (after before : Int64) : Int64 :=
  if item.cfg.recMode = recModeEarlyRec then after
  else if item.cfg.recMode = recModeLaterRec then item.record + (after - before)
  else item.record

/-- **What listening does**: an event moves a condition that it matches when the values before and
after differ, and changes no other. -/
theorem listenEvt_cases (event : GameEvent) (item : ProcItem) :
    (listenEvt event item = (false, item) ∧ ¬(matchEvt item.cfg event = true ∧
      ∃ after before, event.after = some after ∧ event.before = some before ∧ after ≠ before)) ∨
    ∃ after before, matchEvt item.cfg event = true ∧ event.after = some after ∧
      event.before = some before ∧ after ≠ before ∧
      listenEvt event item = (true, { item with record := movedRecord item after before }) := by
  unfold listenEvt
  cases hmatch : matchEvt item.cfg event with
  | false => exact .inl ⟨rfl, fun h => Bool.false_ne_true h.1⟩
  | true =>
    cases hafter : event.after with
    | none => exact .inl ⟨rfl, by simp⟩
    | some after =>
      cases hbefore : event.before with
      | none => exact .inl ⟨rfl, by simp⟩
      | some before =>
        by_cases hdelta : after - before = 0
        · refine .inl ⟨if_pos hdelta, ?_⟩
          simp [sub_eq_zero_iff.mp hdelta]
        · have hne : after ≠ before := fun heq => hdelta (sub_eq_zero_iff.mpr heq)
          refine .inr ⟨after, before, rfl, rfl, rfl, hne, (if_neg hdelta).trans ?_⟩
          unfold movedRecord
          by_cases hearly : item.cfg.recMode = recModeEarlyRec
          · rw [if_pos hearly, if_pos hearly]
          · rw [if_neg hearly, if_neg hearly]
            by_cases hlater : item.cfg.recMode = recModeLaterRec
            · rw [if_pos hlater, if_pos hlater]
            · rw [if_neg hlater, if_neg hlater]

lemma listenEvt_fst {event : GameEvent} {item : ProcItem} :
    (listenEvt event item).1 = true ↔ matchEvt item.cfg event = true ∧
      ∃ after before, event.after = some after ∧ event.before = some before ∧ after ≠ before := by
  rcases listenEvt_cases event item with ⟨heq, hnot⟩ | ⟨after, before, hmatch, ha, hb, hne, heq⟩
  · rw [heq]
    exact iff_of_false Bool.false_ne_true hnot
  · rw [heq]
    exact iff_of_true rfl ⟨hmatch, after, before, ha, hb, hne⟩

/-- Listening leaves the configuration of a condition. -/
@[simp] lemma cfg_listenEvt (event : GameEvent) (item : ProcItem) :
    (listenEvt event item).2.cfg = item.cfg := by
  rcases listenEvt_cases event item with ⟨heq, -⟩ | ⟨after, before, -, -, -, -, heq⟩
  · rw [heq]
  · rw [heq]

/-- An event that does not move a condition changes nothing. -/
lemma listenEvt_snd_of_not {event : GameEvent} {item : ProcItem}
    (h : ¬(listenEvt event item).1 = true) : (listenEvt event item).2 = item := by
  rcases listenEvt_cases event item with ⟨heq, -⟩ | ⟨after, before, -, -, -, -, heq⟩
  · rw [heq]
  · rw [heq] at h
    exact absurd rfl h

/-- **An early record takes the value after the change.** -/
lemma record_listenEvt {event : GameEvent} {item : ProcItem}
    (hearly : item.cfg.recMode = recModeEarlyRec) (h : (listenEvt event item).1 = true)
    {after : Int64} (hafter : event.after = some after) :
    (listenEvt event item).2.record = after := by
  rcases listenEvt_cases event item with ⟨heq, -⟩ | ⟨after', before, -, ha, -, -, heq⟩
  · rw [heq] at h
    cases h
  · rw [hafter] at ha
    obtain rfl := Option.some.inj ha
    rw [heq]
    exact if_pos hearly

/-! ## What a step preserves -/

lemma getData_dealChange_of_ne {svo : StatsVO} {type type' : Int32} (change : Int64)
    (addOrUpd : Bool) (h : type' ≠ type) :
    (dealChange svo type change addOrUpd).1.getData type' = svo.getData type' := by
  have hinsert : ∀ value : Int64,
      (⟨svo.data.insert type value⟩ : StatsVO).getData type' = svo.getData type' := by
    intro value
    unfold StatsVO.getData
    rw [AList.getOrDefault_insert, if_neg h]
  cases addOrUpd with
  | false => exact hinsert change
  | true =>
    change (svo.add type change).getData type' = _
    unfold StatsVO.add
    cases svo.data.lookup type with
    | none => exact hinsert change
    | some now => exact hinsert (now + change)

namespace QuestHolder

variable {h : QuestHolder}

/-- A call that has still to bring the statistic to a condition. -/
structure Due (h : QuestHolder) (l : Listening) (entry : ℕ × ℕ) (item : ProcItem) : Prop where
  waits : l.Waits entry item
  moves : (listenEvt l.event item).1 = true
  after : l.event.after = some (h.now item)

/-- The record is the statistic, or a running call has still to bring it the statistic. -/
def Settled (h : QuestHolder) (entry : ℕ × ℕ) (item : ProcItem) : Prop :=
  item.record = h.now item ∨ ∃ l ∈ h.listening, h.Due l entry item

/-- **The invariant**: every early record in progress is settled. -/
structure Inv (h : QuestHolder) : Prop where
  inRange : ∀ entry item, h.Early entry item → InRange item.cfg.stats item.cfg.param
  settled : ∀ entry item, h.Early entry item → h.Settled entry item

lemma Due.of_now {h' : QuestHolder} {l : Listening} {entry : ℕ × ℕ} {item : ProcItem}
    (hdue : h.Due l entry item) (hnow : h'.now item = h.now item) : h'.Due l entry item :=
  ⟨hdue.waits, hdue.moves, by rw [hnow]; exact hdue.after⟩

lemma inv_start (svo : StatsVO) : Inv (start svo) where
  inRange _ _ hearly := absurd hearly.inProgress List.not_mem_nil
  settled _ _ hearly := absurd hearly.inProgress List.not_mem_nil

/-- **What preserves the invariant**: an early condition after the step is settled by it, or it is
one from before, of a statistic that stayed, and what was due to it still is. -/
lemma Inv.of_back (hinv : Inv h) {h' : QuestHolder}
    (hback : ∀ entry item, h'.Early entry item →
      InRange item.cfg.stats item.cfg.param ∧ h'.Settled entry item ∨
        h.Early entry item ∧ h'.now item = h.now item ∧
          ∀ l ∈ h.listening, h.Due l entry item → ∃ l' ∈ h'.listening, h'.Due l' entry item) :
    Inv h' := by
  constructor
  · intro entry item hearly
    rcases hback entry item hearly with ⟨hrange, -⟩ | ⟨hold, -, -⟩
    · exact hrange
    · exact hinv.inRange entry item hold
  · intro entry item hearly
    rcases hback entry item hearly with ⟨-, hsettled⟩ | ⟨hold, hnow, hdue⟩
    · exact hsettled
    · rcases hinv.settled entry item hold with hrecord | ⟨l, hl, hl'⟩
      · exact .inl (hrecord.trans hnow.symm)
      · exact .inr (hdue l hl hl')

/-- **A change**: the early records of the statistic are due from the new call, unless nothing
changed. -/
lemma Inv.change (hinv : Inv h) {stats : EvtTypeStats} {param : Int32}
    (hrange : InRange stats param) (value : Int64) (addOrUpd : Bool) :
    Inv (h.step (.change stats param value addOrUpd)) := by
  apply hinv.of_back
  intro entry item hearly
  have hold : h.Early entry item := ⟨hearly.inProgress, hearly.getElem?, hearly.early⟩
  by_cases hsame : (h.step (.change stats param value addOrUpd)).now item = h.now item
  · exact .inr ⟨hold, hsame, fun l hl hdue => ⟨l, List.mem_cons_of_mem _ hl, hdue.of_now hsame⟩⟩
  have hnumber : item.cfg.statisticType = exchangParameterizedType stats.statsType param := by
    by_contra hne
    exact hsame (getData_dealChange_of_ne value addOrUpd hne)
  have hitem := hinv.inRange entry item hold
  have htype := exchangParameterizedType_statsType stats param
  obtain ⟨hstats, -⟩ := statsType_add_inj hitem hrange (hnumber.trans htype)
  have hmatch : ∀ event : GameEvent,
      event.type = some (exchangParameterizedType stats.statsType param) →
        matchEvt item.cfg event = true := by
    intro event htype
    rw [← hnumber] at htype
    exact matchEvt_of_inRange hitem htype
  unfold now at hsame
  rw [hnumber] at hsame
  refine .inl ⟨hitem, .inr ⟨_, List.mem_cons_self, ⟨hstats, fun _ hnone => by cases hnone⟩, ?_, ?_⟩⟩
  · exact listenEvt_fst.mpr ⟨hmatch _ rfl, _, _, rfl, rfl, hsame⟩
  · unfold now
    rw [hnumber]
    rfl

lemma mem_getFinCditBy {entry : ℕ × ℕ} {item : ProcItem}
    (hitem : (h.procs entry.1).finCditProcs[entry.2]? = some item) :
    entry ∈ h.getFinCditBy item.cfg.stats entry.1 := by
  unfold getFinCditBy
  refine List.mem_map.mpr ⟨(item, entry.2), List.mem_filter.mpr ⟨?_, ?_⟩, rfl⟩
  · exact List.mem_zipIdx_iff_getElem?.mpr hitem
  · exact decide_eq_true rfl

/-- **The loop begins**: it has every quest in progress before it. -/
lemma Inv.begin (hinv : Inv h) (procVOs : List ℕ) : Inv (h.step (.begin procVOs)) := by
  simp only [step]
  split
  · next stats event outer hlistening =>
    split
    · next hperm =>
      apply hinv.of_back
      intro entry item hearly
      have hold : h.Early entry item := ⟨hearly.inProgress, hearly.getElem?, hearly.early⟩
      refine .inr ⟨hold, rfl, ?_⟩
      rw [hlistening]
      refine List.forall_mem_cons.mpr ⟨fun hdue => ?_, fun l hl hdue => ?_⟩
      · refine ⟨_, List.mem_cons_self, ⟨hdue.waits.1, fun entries hentries => ?_⟩, hdue.moves,
          hdue.after⟩
        obtain rfl := Option.some.inj hentries
        have hmem := mem_getFinCditBy hold.getElem?
        rw [hdue.waits.1] at hmem
        exact List.mem_flatMap.mpr ⟨entry.1, hperm.mem_iff.mpr hold.inProgress, hmem⟩
      · exact ⟨l, List.mem_cons_of_mem _ hl, hdue.of_now rfl⟩
    · exact hinv
  · exact hinv

/-- The conditions after one of them has listened. -/
lemma getElem?_listenEvtAsFinCdit {vo : QuestProcVO} {event : GameEvent} {ix jx : ℕ}
    {item : ProcItem} (hitem : (vo.listenEvtAsFinCdit event ix).finCditProcs[jx]? = some item) :
    ∃ old, vo.finCditProcs[jx]? = some old ∧
      item = if ix = jx then (listenEvt event old).2 else old := by
  change (vo.finCditProcs.modify ix _)[jx]? = some item at hitem
  rw [List.getElem?_modify] at hitem
  obtain ⟨old, hold, rfl⟩ := Option.map_eq_some_iff.mp hitem
  refine ⟨old, hold, ?_⟩
  split_ifs <;> rfl

/-- A condition after a step of the loop is one before it, which has listened if the loop came to
it. -/
lemma early_of_listen {event : GameEvent} {ref ix : ℕ} {listening : List Listening}
    {entry : ℕ × ℕ} {item : ProcItem} (hearly : ({ h with
      procs := Function.update h.procs ref ((h.procs ref).listenEvtAsFinCdit event ix)
      listening := listening } : QuestHolder).Early entry item) :
    ∃ old, h.Early entry old ∧
      item = if entry = (ref, ix) then (listenEvt event old).2 else old := by
  obtain ⟨hprogress, hitem, hmode⟩ := hearly
  change (Function.update h.procs ref _ entry.1).finCditProcs[entry.2]? = _ at hitem
  by_cases href : entry.1 = ref
  · subst href
    rw [Function.update_self] at hitem
    obtain ⟨old, hold, rfl⟩ := getElem?_listenEvtAsFinCdit hitem
    by_cases hix : ix = entry.2
    · subst hix
      rw [if_pos rfl] at hmode ⊢
      rw [cfg_listenEvt] at hmode
      exact ⟨old, ⟨hprogress, hold, hmode⟩, (if_pos rfl).symm⟩
    · rw [if_neg hix] at hmode ⊢
      refine ⟨old, ⟨hprogress, hold, hmode⟩, (if_neg fun heq => hix ?_).symm⟩
      rw [heq]
  · rw [Function.update_of_ne href] at hitem
    refine ⟨item, ⟨hprogress, hitem, hmode⟩, (if_neg fun heq => href ?_).symm⟩
    rw [heq]

/-- **A condition listens**: it takes what the event says, which is the statistic. -/
lemma Inv.listen (hinv : Inv h) (hallowed : h.Allowed .listen) : Inv (h.step .listen) := by
  simp only [Allowed] at hallowed
  simp only [step]
  split
  · next stats event ref ix entries outer hlistening =>
    simp only [hlistening] at hallowed
    apply hinv.of_back
    intro entry item hearly
    obtain ⟨old, hold, rfl⟩ := early_of_listen hearly
    rw [hlistening]
    by_cases hentry : entry = (ref, ix)
    · subst hentry
      rw [if_pos rfl]
      by_cases hmoves : (listenEvt event old).1 = true
      · have hrecord := record_listenEvt hold.early hmoves (hallowed old hold hmoves)
        have hrange := hinv.inRange _ old hold
        refine .inl ⟨?_, .inl (hrecord.trans ?_)⟩
        · rwa [cfg_listenEvt]
        · unfold now
          rw [cfg_listenEvt]
      · rw [listenEvt_snd_of_not hmoves]
        refine .inr ⟨hold, rfl, List.forall_mem_cons.mpr ⟨fun hdue => ?_, fun l hl hdue => ?_⟩⟩
        · exact absurd hdue.moves hmoves
        · exact ⟨l, List.mem_cons_of_mem _ hl, hdue.of_now rfl⟩
    · rw [if_neg hentry]
      refine .inr ⟨hold, rfl, List.forall_mem_cons.mpr ⟨fun hdue => ?_, fun l hl hdue => ?_⟩⟩
      · refine ⟨_, List.mem_cons_self, ⟨hdue.waits.1, fun left hleft => ?_⟩, hdue.moves, hdue.after⟩
        obtain rfl := Option.some.inj hleft
        exact (List.mem_cons.mp (hdue.waits.2 _ rfl)).resolve_left hentry
      · exact ⟨l, List.mem_cons_of_mem _ hl, hdue.of_now rfl⟩
  · exact hinv

/-- Calls end from which nothing is due. -/
lemma Inv.leave (hinv : Inv h) {left : List Listening}
    (hleft : ∀ l ∈ h.listening, l ∈ left ∨ ∀ entry item, h.Early entry item → ¬h.Due l entry item) :
    Inv { h with listening := left } := by
  apply hinv.of_back
  intro entry item hearly
  have hold : h.Early entry item := ⟨hearly.inProgress, hearly.getElem?, hearly.early⟩
  refine .inr ⟨hold, rfl, fun l hl hdue => ?_⟩
  rcases hleft l hl with hl | hnot
  · exact ⟨l, hl, hdue.of_now rfl⟩
  · exact absurd hdue (hnot entry item hold)

/-- **`listen` returns** when the loop has come to every condition. -/
lemma Inv.finish (hinv : Inv h) : Inv (h.step .finish) := by
  simp only [step]
  split
  · next stats event outer hlistening =>
    apply hinv.leave
    rw [hlistening]
    refine List.forall_mem_cons.mpr ⟨.inr fun entry item _ hdue => ?_, fun l hl => .inl hl⟩
    exact List.not_mem_nil (hdue.waits.2 _ rfl)
  · exact hinv

/-- **An exception** ends calls from which nothing is due. -/
lemma Inv.throw (hinv : Inv h) {n : ℕ} (hallowed : h.Allowed (.throw n)) :
    Inv (h.step (.throw n)) := by
  apply hinv.leave
  intro l hl
  rw [← List.take_append_drop n h.listening] at hl
  rcases List.mem_append.mp hl with hl | hl
  · refine .inr fun entry item hearly hdue => ?_
    have hstill := hallowed l hl entry item hearly hdue.waits
    rw [hdue.moves] at hstill
    cases hstill
  · exact .inl hl

/-- **A quest is accepted**: its early records start at the statistics. -/
lemma Inv.accept (hinv : Inv h) {cfg : StatsQuestCfg} (hallowed : h.Allowed (.accept cfg)) :
    Inv (h.step (.accept cfg)) := by
  apply hinv.of_back
  intro entry item hearly
  obtain ⟨hprogress, hitem, hmode⟩ := hearly
  change (Function.update h.procs h.fresh (.create h.svo cfg) entry.1).finCditProcs[entry.2]? = _
    at hitem
  by_cases hnew : entry.1 = h.fresh
  · rw [hnew, Function.update_self] at hitem
    obtain ⟨cdit, hcdit, rfl⟩ := List.mem_map.mp (List.mem_of_getElem? hitem)
    exact .inl ⟨hallowed cdit hcdit hmode, .inl (if_pos hmode)⟩
  · rw [Function.update_of_ne hnew] at hitem
    obtain ⟨cid, hcid⟩ := AList.mem_values.mp hprogress
    change (h.questProcMap.insert cfg.id h.fresh).lookup cid = some entry.1 at hcid
    rw [AList.lookup_insert_ite] at hcid
    split_ifs at hcid
    · exact absurd (Option.some.inj hcid).symm hnew
    · have hold : h.Early entry item := ⟨AList.mem_values.mpr ⟨cid, hcid⟩, hitem, hmode⟩
      exact .inr ⟨hold, rfl, fun l hl hdue => ⟨l, hl, hdue.of_now rfl⟩⟩

/-- **A quest is finished or reset**: the others stay. -/
lemma Inv.remove (hinv : Inv h) (cid : Int32) : Inv (h.step (.remove cid)) := by
  apply hinv.of_back
  intro entry item hearly
  obtain ⟨hprogress, hitem, hmode⟩ := hearly
  obtain ⟨cid', hcid'⟩ := AList.mem_values.mp hprogress
  change (h.questProcMap.erase cid).lookup cid' = some entry.1 at hcid'
  rw [AList.lookup_erase_ite] at hcid'
  split_ifs at hcid'
  have hold : h.Early entry item := ⟨AList.mem_values.mpr ⟨cid', hcid'⟩, hitem, hmode⟩
  exact .inr ⟨hold, rfl, fun l hl hdue => ⟨l, hl, hdue.of_now rfl⟩⟩

/-- **An allowed step preserves the invariant.** -/
theorem Inv.step (hinv : Inv h) {action : Action} (hallowed : h.Allowed action) :
    Inv (h.step action) := by
  cases action with
  | change stats param value addOrUpd => exact hinv.change hallowed value addOrUpd
  | begin procVOs => exact hinv.begin procVOs
  | listen => exact hinv.listen hallowed
  | finish => exact hinv.finish
  | accept cfg => exact hinv.accept hallowed
  | remove cid => exact hinv.remove cid
  | throw n => exact hinv.throw hallowed

/-- When no call is running, nothing is due. -/
lemma Inv.current (hinv : Inv h) (hdone : h.listening = []) : h.Current := by
  intro entry item hearly
  rcases hinv.settled entry item hearly with hrecord | ⟨l, hl, -⟩
  · exact hrecord
  · rw [hdone] at hl
    cases hl

/-! ## Runs -/

/-- **After the outermost event**: in a run in which the parameters are in range, no condition in
progress comes to hear an event after the statistic has changed again, and no exception keeps one
from hearing an event, the record of every early condition in progress is the statistic whenever no
call is running. -/
theorem current_run (svo : StatsVO) (actions : List Action)
    (hallowed : EveryStep step Allowed (start svo) actions) :
    ∀ before after, actions = before ++ after →
      (run step (start svo) before).listening = [] →
        (run step (start svo) before).Current := by
  rintro before after rfl hdone
  have hbefore := ((everyStep_append _ _ _).mp hallowed).1
  have hinv : Inv (run step (start svo) before) :=
    state_inv_run Inv (fun _ _ hinv hallowed => hinv.step hallowed) (inv_start svo) hbefore
  exact hinv.current hdone

/-- Using goods 7, recorded early. -/
def useGoods (val : Int64) : StatsCdit where
  param := 7
  val := val
  stats := .specIdGoodsUse
  recMode := recModeEarlyRec

/-- Two quests, of which the first is satisfied by the first use of the goods. -/
def twoQuests : List Action :=
  [.accept ⟨1, [useGoods 1]⟩, .accept ⟨2, [useGoods 100]⟩]

/-- Goods 7 are used twice, the second time when both quests have heard the first event. -/
def usedTwice : List Action :=
  [.change .specIdGoodsUse 7 1 true, .begin [0, 1], .listen, .listen,
    .change .specIdGoodsUse 7 1 true, .begin [1, 0], .listen, .listen, .finish, .remove 1, .finish]

/-- The quests have counted both. -/
theorem current_usedTwice :
    ((run step (start ⟨∅⟩) (twoQuests ++ usedTwice)).procs 1).finCditProcs = [⟨useGoods 100, 2⟩] ∧
      (run step (start ⟨∅⟩) (twoQuests ++ usedTwice)).Current := by
  refine ⟨by decide, current_run ⟨∅⟩ (twoQuests ++ usedTwice) ?_ _ [] (List.append_nil _).symm rfl⟩
  have hrange : InRange .specIdGoodsUse 7 := by decide
  have haccept : ∀ val, ∀ cdit ∈ [useGoods val], cdit.recMode = recModeEarlyRec →
      InRange cdit.stats cdit.param := by
    intro val cdit hcdit _
    obtain rfl := List.mem_singleton.mp hcdit
    exact hrange
  refine ⟨haccept 1, haccept 100, hrange, trivial, ?_, ?_, hrange, trivial, ?_, ?_, trivial,
    trivial, trivial, trivial⟩
  all_goals
    intro item hearly hmoves
    obtain rfl := Option.some.inj hearly.getElem?
    rfl

/-- Goods 7 are used; the first quest that hears it is finished by it, and its reward uses the goods
again before the second quest has heard the first event. -/
def usedByReward : List Action :=
  [.change .specIdGoodsUse 7 1 true, .begin [0, 1], .listen,
    .change .specIdGoodsUse 7 1 true, .begin [0, 1], .listen, .listen, .finish, .remove 1,
    .listen, .finish]

/-- **Not in every run**: the second quest has recorded one use of the goods, which have been used
twice. -/
theorem not_current_usedByReward :
    (run step (start ⟨∅⟩) (twoQuests ++ usedByReward)).listening = [] ∧
      ¬(run step (start ⟨∅⟩) (twoQuests ++ usedByReward)).Current := by
  refine ⟨rfl, fun hcurrent => ?_⟩
  have hrecord := hcurrent (1, 0) ⟨useGoods 100, 1⟩ ⟨by decide, by decide, rfl⟩
  exact absurd hrecord (by decide)

end QuestHolder

end SrgpGame.Quest
