import SrgpGame.Lib.Runs
import SrgpGame.Player.PlayerBO

set_option autoImplicit false

/-!
# Names of players are unique, if nobody takes the name of another

A new name must not be in use. In use are the names with which players were loaded; a name that a
player got by `modifyName` is not added to them. So another player can take it, and is then the one
whom the caches know under it.

## Main definitions

* `NamesAgree` — no two players have one name, and `CachePlayerBase` knows each by its name.
* `TakesFreeName` — a call that is accepted asks for a name that no other player has.

## Main results

* `loaded_init` — the caches after players of different names were loaded.
* `namesAgree_step_iff` — what a call does to the names.
* `namesAgree_run_iff` — names agree throughout a run just if every call takes a free name.
-/

namespace SrgpGame.Player

open Runs

/-- The current name of a player. -/
def World.name (w : World) (pid : Int32) : Option (List Char) :=
  (w.players.lookup pid).map PlayerVO.name

/-- **The names agree**: they are distinct, `CachePlayerBase` maps each to its owner and each player
to the current name. -/
structure NamesAgree (w : World) : Prop where
  distinct : ∀ pid pid' name, w.name pid = some name → w.name pid' = some name → pid = pid'
  owner : ∀ pid name, w.name pid = some name → w.caches.getPIDByPname name = some pid
  current : ∀ pid name, w.name pid = some name → w.caches.getPnameByPid pid = some name
  baseInfo : ∀ pid name, w.name pid = some name →
    w.caches.getBaseInfo pid = some ⟨pid, some name⟩

/-- A call that is accepted asks for a name that no other player has. -/
def TakesFreeName (setup : Setup) (w : World) (c : NameCall) : Prop :=
  ∀ player text, w.players.lookup c.pid = some player → c.newName = some text →
    Accepted setup (w.view player) (trim text) → ∀ pid, pid ≠ c.pid → w.name pid ≠ some (trim text)

/-- The names agree just if the two-way map registers them, and so do the records. -/
lemma namesAgree_iff {w : World} :
    NamesAgree w ↔ w.caches.pidPName.Registers w.name ∧ ∀ pid name, w.name pid = some name →
      w.caches.getBaseInfo pid = some ⟨pid, some name⟩ := by
  constructor
  · rintro ⟨hdistinct, howner, hcurrent, hbase⟩
    exact ⟨BiMap.registers_iff.mpr ⟨hdistinct, howner, hcurrent⟩, hbase⟩
  · rintro ⟨hreg, hbase⟩
    obtain ⟨hdistinct, howner, hcurrent⟩ := BiMap.registers_iff.mp hreg
    exact ⟨hdistinct, howner, hcurrent, hbase⟩

/-! ## Loading -/

/-- Players are filed under their ids. -/
def Filed (w : World) : Prop := ∀ pid player, w.players.lookup pid = some player → player.id = pid

/-- The caches have what was loaded and nothing else. -/
structure Loaded (w : World) : Prop where
  filed : Filed w
  exact : ∀ pid, w.caches.pidPName.get pid = w.name pid
  baseInfo : ∀ pid, w.caches.getBaseInfo pid = (w.name pid).map fun name => ⟨pid, some name⟩

lemma name_load (w : World) (player : PlayerVO) (pid : Int32) :
    (w.load player).name pid = if pid = player.id then some player.name else w.name pid := by
  rw [World.name, World.load, AList.lookup_insert_ite]
  split <;> rfl

lemma filed_insert {w w' : World} {pid : Int32} {player : PlayerVO} (h : Filed w)
    (hplayers : w'.players = w.players.insert pid player) (hid : player.id = pid) : Filed w' := by
  intro pid' player' hlookup
  rw [hplayers, AList.lookup_insert_ite] at hlookup
  split at hlookup
  · next hpid =>
    cases hlookup
    rw [hid, hpid]
  · exact h pid' player' hlookup

/-- The record of a player after an update: the name is set. -/
lemma getBaseInfo_updateBasInfo {caches : NameCaches} {pvo : PlayerVO}
    (h : ∀ info, caches.getBaseInfo pvo.id = some info → info.pid = pvo.id) (pid : Int32) :
    (caches.updateBasInfo pvo).getBaseInfo pid =
      if pid = pvo.id then some ⟨pvo.id, some pvo.name⟩ else caches.getBaseInfo pid := by
  have hrecord : ((caches.getBaseInfo pvo.id).getD ⟨pvo.id, none⟩).pid = pvo.id := by
    cases hinfo : caches.getBaseInfo pvo.id with
    | none => rfl
    | some info => exact h info hinfo
  show (AList.insert _ _ _).lookup pid = _
  rw [AList.lookup_insert_ite, hrecord]
  rfl

/-- **A player with a new name is loaded.** -/
lemma Loaded.load {w : World} (h : Loaded w) {player : PlayerVO}
    (hnew : ∀ pid, w.name pid ≠ some player.name) : Loaded (w.load player) := by
  have hunused : w.caches.getPIDByPname player.name = none := by
    by_contra hsome
    obtain ⟨pid, hpid⟩ := Option.ne_none_iff_exists'.mp hsome
    have hget := BiMap.keyOf_eq_some.mp hpid
    rw [h.exact] at hget
    exact hnew pid hget
  have hcaches : (w.load player).caches =
      (((w.caches.addPlayer player).putPName player).updateBasInfo player).addUsedName
        player.name := by
    have hunused' : (w.caches.addPlayer player).getPIDByPname player.name = none := hunused
    show (w.caches.addPlayer player).addBaseInfo player = _
    rw [NameCaches.addBaseInfo, hunused']
  refine ⟨filed_insert h.filed rfl rfl, fun pid => ?_, fun pid => ?_⟩
  · rw [name_load, hcaches]
    show (w.caches.pidPName.forcePut player.id player.name).get pid = _
    rw [BiMap.get_forcePut, h.exact, if_neg (hnew pid)]
  · rw [name_load, hcaches]
    have hrecords : ∀ info, ((w.caches.addPlayer player).putPName player).getBaseInfo player.id =
        some info → info.pid = player.id := by
      intro info hinfo
      have hold : w.caches.getBaseInfo player.id = some info := hinfo
      rw [h.baseInfo] at hold
      obtain ⟨name, -, rfl⟩ := Option.map_eq_some_iff.mp hold
      rfl
    refine (getBaseInfo_updateBasInfo hrecords pid).trans ?_
    by_cases hpid : pid = player.id
    · rw [if_pos hpid, if_pos hpid, hpid]
      rfl
    · rw [if_neg hpid, if_neg hpid]
      exact h.baseInfo pid

/-- **Players with different names** are loaded, whatever their ids are. -/
theorem loaded_init {players : List PlayerVO} (rng : Func.Rng)
    (hnames : (players.map PlayerVO.name).Nodup) : Loaded (World.init players rng) := by
  have hall : ∀ (players : List PlayerVO) (w : World), Loaded w →
      (players.map PlayerVO.name).Nodup →
      (∀ player ∈ players, ∀ pid, w.name pid ≠ some player.name) →
        Loaded (players.foldl World.load w) := by
    intro players
    induction players with
    | nil => exact fun w h _ _ => h
    | cons player players ih =>
      intro w h hnodup hnew
      obtain ⟨hfirst, hrest⟩ := List.nodup_cons.mp hnodup
      obtain ⟨hnewFirst, hnewRest⟩ := List.forall_mem_cons.mp hnew
      refine ih (w.load player) (h.load hnewFirst) hrest fun player' hmem pid => ?_
      rw [name_load]
      split
      · intro hname
        exact hfirst (List.mem_map.mpr ⟨player', hmem, (Option.some.inj hname).symm⟩)
      · exact hnewRest player' hmem pid
  refine hall players _ ⟨fun pid player h => ?_, fun pid => rfl, fun pid => rfl⟩ hnames ?_
  · simp at h
  · intro player _ pid h
    simp [World.name] at h

/-- Where the caches have what was loaded, the names agree. -/
lemma Loaded.namesAgree {w : World} (h : Loaded w) : NamesAgree w := by
  refine namesAgree_iff.mpr ⟨fun pid name hname => ?_, fun pid name hname => ?_⟩
  · rw [h.exact, hname]
  · rw [h.baseInfo, hname]
    rfl

/-! ## A call -/

lemma name_update (w : World) (pid pid' : Int32) (s : NameState) :
    (w.update pid s).name pid' = if pid' = pid then some s.player.name else w.name pid' := by
  rw [World.name, World.update, AList.lookup_insert_ite]
  split <;> rfl

/-- A player who is put back after a payment alone changes no name. -/
lemma name_update_same {w : World} {pid : Int32} {player : PlayerVO}
    (hplayer : w.players.lookup pid = some player) (e : Func.ExecState) :
    (w.update pid (NameState.ofExec e (w.view player))).name = w.name := by
  funext pid'
  rw [name_update]
  split
  · next hpid =>
    rw [hpid, World.name, hplayer]
    rfl
  · rfl

lemma name_eq_some {w : World} {pid : Int32} {player : PlayerVO}
    (hplayer : w.players.lookup pid = some player) : w.name pid = some player.name := by
  rw [World.name, hplayer]
  rfl

/-- The server after a player paid and changed the name. -/
def World.renamed (w : World) (e : Func.ExecState) (player : PlayerVO) (name : List Char) : World :=
  w.update player.id
    (((NameState.ofExec e (w.view player)).setName name).resetCaches player.name)

lemma name_renamed (w : World) (e : Func.ExecState) (player : PlayerVO) (name : List Char)
    (pid : Int32) :
    (w.renamed e player name).name pid = if pid = player.id then some name else w.name pid :=
  name_update w player.id pid _

/-- The record of the player has the new name, the others are as before. -/
lemma getBaseInfo_renamed {w : World} {player : PlayerVO} (hagree : NamesAgree w)
    (hplayer : w.players.lookup player.id = some player) (e : Func.ExecState) (name : List Char)
    (pid : Int32) :
    (w.renamed e player name).caches.getBaseInfo pid =
      if pid = player.id then some ⟨player.id, some name⟩ else w.caches.getBaseInfo pid := by
  have hold := hagree.baseInfo player.id player.name (name_eq_some hplayer)
  have hrecords : ∀ info, w.caches.getBaseInfo player.id = some info → info.pid = player.id := by
    intro info hinfo
    rw [hold] at hinfo
    cases hinfo
    rfl
  exact @getBaseInfo_updateBasInfo _ { player with name := name, pays := e.player } hrecords pid

/-- **After a change of name** the names agree just if no other player has the new one. -/
lemma namesAgree_renamed_iff {w : World} {player : PlayerVO} {name : List Char}
    (hagree : NamesAgree w) (hplayer : w.players.lookup player.id = some player)
    (e : Func.ExecState) :
    NamesAgree (w.renamed e player name) ↔ ∀ pid, pid ≠ player.id → w.name pid ≠ some name := by
  obtain ⟨hreg, hbase⟩ := namesAgree_iff.mp hagree
  have hbase' : ∀ pid name', (w.renamed e player name).name pid = some name' →
      (w.renamed e player name).caches.getBaseInfo pid = some ⟨pid, some name'⟩ := by
    intro pid name' hname
    rw [name_renamed] at hname
    rw [getBaseInfo_renamed hagree hplayer e]
    by_cases hpid : pid = player.id
    · rw [if_pos hpid] at hname ⊢
      rw [hpid, hname]
    · rw [if_neg hpid] at hname ⊢
      exact hbase pid name' hname
  rw [namesAgree_iff, and_iff_left hbase']
  exact hreg.forcePut_iff (name_renamed w e player name)

/-- **A call**: players stay filed, and the names agree after it just if it takes a free name. -/
theorem namesAgree_step_iff (setup : Setup) (w : World) (c : NameCall) (hfiled : Filed w)
    (hagree : NamesAgree w) :
    Filed (modifyNameBy setup w c) ∧
      (NamesAgree (modifyNameBy setup w c) ↔ TakesFreeName setup w c) := by
  obtain ⟨pid, newName⟩ := c
  unfold modifyNameBy
  cases hplayer : w.players.lookup pid with
  | none =>
    refine ⟨hfiled, iff_of_true hagree fun player text hlookup => ?_⟩
    rw [hplayer] at hlookup
    cases hlookup
  | some player =>
    obtain rfl := hfiled pid player hplayer
    by_cases haccept : ∃ text, newName = some text ∧ Accepted setup (w.view player) (trim text)
    · obtain ⟨text, rfl, haccept⟩ := haccept
      obtain ⟨e, hafter⟩ := modifyName_of_accepted haccept
      have hstep : w.update player.id ((modifyName setup (some text)).finalState (w.view player)) =
          w.renamed e player (trim text) := by
        rw [hafter]
        rfl
      have hplayers : (w.renamed e player (trim text)).players = w.players.insert player.id
          { player with name := trim text, pays := e.player } := rfl
      show Filed (w.update _ _) ∧ (NamesAgree (w.update _ _) ↔ _)
      rw [hstep, namesAgree_renamed_iff hagree hplayer e]
      refine ⟨filed_insert hfiled hplayers rfl, fun hfree player' text' hlookup htext _ => ?_, ?_⟩
      · cases htext
        exact hfree
      · exact fun hfree => hfree player text hplayer rfl haccept
    · -- no name changes, and nothing is asked of the name
      have hreject : ∀ text, newName = some text → ¬Accepted setup (w.view player) (trim text) :=
        fun text htext h => haccept ⟨text, htext, h⟩
      show Filed (w.update _ _) ∧ (NamesAgree (w.update _ _) ↔ _)
      obtain ⟨e, hafter⟩ := modifyName_of_not_accepted hreject
      rw [hafter]
      refine ⟨filed_insert hfiled rfl rfl, iff_of_true ?_ fun player' text hlookup htext h => ?_⟩
      · rw [namesAgree_iff, name_update_same hplayer e]
        exact namesAgree_iff.mp hagree
      · rw [hplayer] at hlookup
        cases hlookup
        exact absurd h (hreject text htext)

/-- **Uniqueness of names.** -/
theorem namesAgree_run_iff (setup : Setup) (players : List PlayerVO) (rng : Func.Rng)
    (hnames : (players.map PlayerVO.name).Nodup) (calls : List NameCall) :
    (∀ pre, pre <+: calls → NamesAgree (run (modifyNameBy setup) (World.init players rng) pre)) ↔
      EveryStep (modifyNameBy setup) (TakesFreeName setup) (World.init players rng) calls := by
  have hloaded := loaded_init rng hnames
  exact forall_prefix_iff Filed NamesAgree (namesAgree_step_iff setup) hloaded.filed
    hloaded.namesAgree calls

/-- A server on which a change of name costs one item with the id 7. -/
def itemSetup : Setup where
  cfgs := ⟨GoodsTable.ofList [{ id := 7 }], fun _ => none, fun _ => none⟩
  happen _ := pure ()
  inGBK _ := true
  haveDirtyWord _ := false
  modifyPlayerNameCost := 7

/-- A player who has the item. -/
def withItem (id : Int32) (name : List Char) : PlayerVO where
  id := id
  name := name
  pays :=
    (Func.PlayerVO.init ⟨0, 0, 0⟩).setDepotVO (DepotVO.init.addGoods itemSetup.cfgs.goods 7 1)

/-- Two players, with different names. -/
def twoPlayers : List PlayerVO := [withItem 1 ['a', 'a'], withItem 2 ['b', 'b']]

/-- A name that is not used can be taken. -/
theorem namesAgree_renamedOnce :
    NamesAgree (run (modifyNameBy itemSetup) (World.init twoPlayers ⟨fun _ => 0⟩)
      [⟨1, some [' ', 'c', 'c']⟩, ⟨2, some ['a', 'a']⟩, ⟨2, none⟩]) := by
  refine (namesAgree_run_iff itemSetup twoPlayers ⟨fun _ => 0⟩ (by decide) _).mpr ?_ _
    List.prefix_rfl
  refine ⟨fun player text _ htext _ pid hpid hname => ?_, fun player text _ htext haccept => ?_,
    fun player text _ htext _ => ?_, trivial⟩
  · obtain rfl := Option.some.inj htext
    have hnames : (World.init twoPlayers ⟨fun _ => 0⟩).name pid =
        if pid = 2 then some ['b', 'b'] else if pid = 1 then some ['a', 'a'] else none :=
      (name_load _ _ pid).trans (if_congr Iff.rfl rfl (name_load _ _ pid))
    rw [hnames, if_neg hpid] at hname
    split at hname <;> cases hname
  · obtain rfl := Option.some.inj htext
    cases haccept.1
  · cases htext

/-- **The second player takes the name** that the first one got before, and both have it. -/
theorem renamed_to_same :
    (twoPlayers.map PlayerVO.name).Nodup ∧
      ¬NamesAgree (run (modifyNameBy itemSetup) (World.init twoPlayers ⟨fun _ => 0⟩)
        [⟨1, some ['c', 'c']⟩, ⟨2, some ['c', 'c']⟩]) := by
  refine ⟨by decide, fun h => ?_⟩
  have hsame : (1 : Int32) = 2 := h.distinct 1 2 ['c', 'c'] (by decide) (by decide)
  exact absurd hsame (by decide)

end SrgpGame.Player
