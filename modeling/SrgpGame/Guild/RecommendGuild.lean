import Mathlib.Data.Prod.Lex
import SrgpGame.Lib.SearchTree
import SrgpGame.Guild.Leaders

set_option autoImplicit false

/-!
# The guilds that are recommended

`CacheGuild.recommendGuild` is a tree set of guilds, the strongest first and among equals the oldest
first. A guild is added when it is created or loaded and removed when it is full or dissolved. This
file has the methods of `SrgpGame.Guild.GuildBO` that concern the set, with the set.

## Main definitions

* `GuildCaches` — the caches with the set, and what it compares of the guilds.
* `addCache`, `removeCache`, `directJoinGuild`, `updateGuildFightForce`, … — the methods.
* `Op`, `step` — a call of one of them, and the caches after it.

## Main results

* `cache_step` — the other caches are those that the methods without the set leave.

## Implementation notes

The date of a new guild is given by the database, and the fight force of players is read from their
infos; both are arguments. A tree is not rebalanced, see `SrgpGame.Lib.SearchTree`.
-/

namespace SrgpGame.Guild.Recommend

open SearchTree

/-! ## The set -/

/-- `CacheGuild` with `recommendGuild`. -/
structure GuildCaches where
  cache : CacheGuild
  /-- `GuildVO.fightForce`. -/
  fightForce : ℤ → ℤ := fun _ => 0
  /-- `GuildVO.createDate`. -/
  createDate : ℤ → ℤ := fun _ => 0
  recommendGuild : BinaryTree ℤ := .nil

/-- `recommentGuildSize`. -/
def recommentGuildSize : ℕ := 50

namespace GuildCaches

/-- What the comparator of the set compares: the fight force, the highest first, and then the
date. -/
def key (s : GuildCaches) (guildID : ℤ) : ℤ ×ₗ ℤ :=
  toLex (-s.fightForce guildID, s.createDate guildID)

/-- Saves a new guild. -/
def newGuild (s : GuildCaches) (guildVO : GuildVO) (createDate : ℤ) : GuildCaches :=
  { s with
    cache := s.cache.newGuild guildVO
    fightForce := Function.update s.fightForce (s.cache.guildDBID + 1) 0
    createDate := Function.update s.createDate (s.cache.guildDBID + 1) createDate }

/-- Removes a guild from the set. -/
def removeRecommend (s : GuildCaches) (guildID : ℤ) : GuildCaches :=
  { s with recommendGuild := remove s.key guildID s.recommendGuild }

/-- Adds a guild to the set, from which the last one goes if there are too many. -/
def addRecommend (s : GuildCaches) (guildID : ℤ) : GuildCaches :=
  let recommendGuild := add s.key guildID s.recommendGuild
  { s with recommendGuild :=
      if recommentGuildSize ≤ (elems recommendGuild).length then pollLast recommendGuild
      else recommendGuild }

/-- `CacheGuild.addCache`. -/
def addCache (s : GuildCaches) (guildID : ℤ) : GuildCaches :=
  { s with cache := s.cache.addCache guildID }.addRecommend guildID

/-- `CacheGuild.removeCache`. -/
def removeCache (s : GuildCaches) (guildID : ℤ) : GuildCaches :=
  { s with cache := s.cache.removeCache guildID }.removeRecommend guildID

end GuildCaches

/-! ## The methods -/

/-- A method on the caches with the set. -/
abbrev Method := EStateM Thrown GuildCaches

/-- A method on the other caches. -/
def onCache {α : Type} (x : Guild.Method α) : Method α :=
  EStateM.zoom GuildCaches.cache (fun cache s => { s with cache := cache }) x

/-- A check on the other caches. -/
lemma run_onCache_ofExcept {α : Type} (f : CacheGuild → Except Thrown α) (s : GuildCaches) :
    (onCache (EStateM.ofExcept f)).run s =
      match f s.cache with
      | .ok a => .ok a s
      | .error e => .error e s := by
  rw [onCache, EStateM.run_zoom, EStateM.run_ofExcept]
  cases f s.cache <;> rfl

/-- A method on the other caches leaves the set. -/
lemma finalState_onCache {α : Type} (x : Guild.Method α) (s : GuildCaches) :
    (onCache x).finalState s = { s with cache := x.finalState s.cache } := by
  rw [EStateM.finalState, onCache, EStateM.run_zoom, EStateM.finalState]
  cases x.run s.cache <;> rfl

lemma finalState_onCache_ofExcept_bind {α β : Type} (f : CacheGuild → Except Thrown α)
    (g : α → Method β) (s : GuildCaches) :
    (onCache (EStateM.ofExcept f) >>= g).finalState s =
      match f s.cache with
      | .ok a => (g a).finalState s
      | .error _ => s := by
  rw [EStateM.finalState_bind, run_onCache_ofExcept]
  cases f s.cache <;> rfl

lemma finalState_onCache_modify_bind {α : Type} (f : CacheGuild → CacheGuild)
    (g : PUnit → Method α) (s : GuildCaches) :
    (onCache (modify f) >>= g).finalState s =
      (g ⟨⟩).finalState { s with cache := f s.cache } := rfl

variable (cfgs : GuildCfgs) (env : Surroundings)

/-- `directJoinGuild`. A player who is in a guild already does not join. -/
def directJoinGuild (pid guildID : ℤ) (rightLevel : RightLevel) : Method Unit := do
  let s ← get
  if s.cache.inGuild pid then pure ()
  else
    onCache (modify fun cache =>
      ((cache.setGuildID pid guildID).removeReqs pid).chgRight guildID pid rightLevel)
    onCache (checkLoaded env pid)
    let guildVO ← onCache (EStateM.ofExcept (getGuild guildID))
    let full ← onCache (EStateM.ofExcept fun _ => isMaxSize cfgs guildVO)
    modify fun s => if full then s.removeRecommend guildID else s

/-- `createGuild`. -/
def createGuild (pvo : ℤ) (needReq : Bool) (checked : Except Thrown Unit) (createDate : ℤ) :
    Method Unit := do
  onCache (EStateM.ofExcept fun cache =>
    CodeGuild.alreadyInGuild.throwIfTrue (cache.inGuild pvo))
  onCache (EStateM.ofExcept fun _ => checked)
  let guildID := (← get).cache.guildDBID + 1
  modify fun s => s.newGuild { level := 1, owner := pvo, enterNeedReq := needReq } createDate
  directJoinGuild cfgs env pvo guildID .Level0
  modify fun s => s.addCache guildID
  onCache (refNoNeedReqGuilds cfgs guildID)

/-- `joinGuild`. -/
def joinGuild (pvo guildID : ℤ) : Method Unit := do
  let (found, guildVO) ← onCache (EStateM.ofExcept (checkJoinGuild cfgs env pvo guildID))
  if guildVO.enterNeedReq then
    onCache (EStateM.ofExcept (checkReqSize cfgs found guildVO))
    onCache (modify fun cache => cache.cacheReq pvo guildID .STATUS_NORMAL)
  else
    directJoinGuild cfgs env pvo found .Level3
    onCache (refNoNeedReqGuilds cfgs found)

/-- `acceptPlayerJoinGuild`. -/
def acceptPlayerJoinGuild (pvo pid : ℤ) (accept : Bool) : Method Unit := do
  let (guildID, guildVO, status) ← onCache (EStateM.ofExcept (checkAccept pvo pid))
  if accept then
    onCache (EStateM.ofExcept fun _ => do
      CodeGuild.memberFull.throwIfTrue (← isMaxSize cfgs guildVO))
    let s ← get
    if notInGuild s.cache pid ∧ status = .STATUS_NORMAL then
      onCache (modify fun cache => cache.cacheReq pid guildID .STATUS_ACCEPT)
      directJoinGuild cfgs env pid guildID .Level3
      onCache (checkLoaded env pid)
    else
      onCache (modify fun cache => cache.removeReq pid guildID)
      onCache (checkLoaded env pid)
  else
    onCache (modify fun cache =>
      if status = .STATUS_NORMAL then cache.removeReq pid guildID else cache)
    onCache (checkLoaded env pid)

/-- The loop of `buildAsLoad` over the requests of a player who is in no guild. -/
def joinAccepted (pid : ℤ) : List ℤ → Method Unit
  | [] => pure ()
  | guildID :: guildIDs => do
    let s ← get
    match s.cache.getGuildByID guildID with
    | none => throw .nullPointer
    | some guildVO => do
      let full ← onCache (EStateM.ofExcept fun _ => isMaxSize cfgs guildVO)
      if full then joinAccepted pid guildIDs
      else if s.cache.getReq pid guildID = some .STATUS_ACCEPT then do
        onCache (modify fun cache => cache.cacheReq pid guildID .STATUS_DONE)
        if guildVO.status ≠ .DISSOLUTION_END then directJoinGuild cfgs env pid guildID .Level3
        else joinAccepted pid guildIDs
      else joinAccepted pid guildIDs

/-- `buildAsLoad`. -/
def buildAsLoad (pid : ℤ) : Method Unit := do
  let s ← get
  if notInGuild s.cache pid then
    let guildIDs := (s.cache.allReqsCache.keys.filter fun req => req.1 = pid).map Prod.snd
    joinAccepted cfgs env pid (env.order guildIDs)
  else onCache (Guild.buildAsLoad cfgs env pid)

/-- Dissolves a guild. -/
def dissolve (guildID : ℤ) : Method Unit := do
  let guildVO ← onCache (EStateM.ofExcept (getGuild guildID))
  if guildVO.status = .IN_DISSOLUTION then
    onCache (modify fun cache => cache.updateGuild guildID fun guildVO =>
      { guildVO with status := .DISSOLUTION_END })
    onCache (modify fun cache => guildVO.memberRights.keys.foldl CacheGuild.leaveGuild cache)
  else pure ()
  modify fun s =>
    let inDissolutionGuild := s.cache.inDissolutionGuild.filter (· ≠ guildID)
    let s := s.removeCache guildID
    { s with cache := { s.cache with inDissolutionGuild := inDissolutionGuild } }

/-- `innerDissolutionGuild`. -/
def innerDissolutionGuild (guildIDs : List ℤ) : Method Unit := EStateM.each dissolve guildIDs

/-- The fight force of the members of a guild, a `long`. -/
def memberForce (fightForceOf : ℤ → Option ℤ) (guildVO : GuildVO) : ℤ :=
  guildVO.memberRights.keys.foldl (fun ff pid =>
    match fightForceOf pid with
    | none => ff
    | some fightForce => (ff + fightForce).bmod (2 ^ 64)) 0

/-- A round of `updateGuildFightForce`. -/
def updateFightForce (fightForceOf : ℤ → Option ℤ) (s : GuildCaches) (guildID : ℤ) : GuildCaches :=
  match s.cache.getGuildByID guildID with
  | none => s
  | some guildVO =>
    { s with fightForce :=
        Function.update s.fightForce guildID (memberForce fightForceOf guildVO) }

/-- `updateGuildFightForce`. The set is not told. -/
def updateGuildFightForce (fightForceOf : ℤ → Option ℤ) : Method Unit :=
  modify fun s => s.cache.allGuildByID.foldl (updateFightForce fightForceOf) s

/-- A row of the table of guilds. -/
structure GuildRow where
  id : ℤ
  guildVO : GuildVO
  fightForce : ℤ
  createDate : ℤ

/-- A round of `init`: loads a guild. -/
def load (row : GuildRow) : Method Unit := do
  modify fun s =>
    { s with
      cache := { s.cache with guilds := s.cache.guilds.insert row.id row.guildVO }
      fightForce := Function.update s.fightForce row.id row.fightForce
      createDate := Function.update s.createDate row.id row.createDate }.addCache row.id
  onCache (modify fun cache =>
    if row.guildVO.status = .IN_DISSOLUTION then
      { cache with inDissolutionGuild := row.id :: cache.inDissolutionGuild }
    else cache)
  onCache (refNoNeedReqGuilds cfgs row.id)

/-! ## Runs -/

/-- A call of a method. -/
inductive Op where
  | createGuild (pvo : ℤ) (needReq : Bool) (checked : Except Thrown Unit) (createDate : ℤ)
  | joinGuild (pvo guildID : ℤ)
  | acceptPlayerJoinGuild (pvo pid : ℤ) (accept : Bool)
  | buildAsLoad (pid : ℤ)
  | dissolutionGuild (pvo : ℤ)
  | cancelDissolutionGuild (pvo : ℤ)
  | innerDissolutionGuild (guildIDs : List ℤ)
  | updateGuildFightForce (fightForceOf : ℤ → Option ℤ)

/-- The method that is called. -/
def Op.method : Op → Method Unit
  | .createGuild pvo needReq checked createDate =>
    Recommend.createGuild cfgs env pvo needReq checked createDate
  | .joinGuild pvo guildID => Recommend.joinGuild cfgs env pvo guildID
  | .acceptPlayerJoinGuild pvo pid accept =>
    Recommend.acceptPlayerJoinGuild cfgs env pvo pid accept
  | .buildAsLoad pid => Recommend.buildAsLoad cfgs env pid
  | .dissolutionGuild pvo => onCache (Guild.dissolutionGuild cfgs env pvo)
  | .cancelDissolutionGuild pvo => onCache (Guild.cancelDissolutionGuild pvo)
  | .innerDissolutionGuild guildIDs => Recommend.innerDissolutionGuild guildIDs
  | .updateGuildFightForce fightForceOf => Recommend.updateGuildFightForce fightForceOf

/-- The caches after a call, whether it returned or threw. -/
def step (s : GuildCaches) (op : Surroundings × Op) : GuildCaches :=
  (op.2.method cfgs op.1).finalState s

/-- The call of the same method without the set, for the methods that there are. -/
def Op.call : Op → Option Call
  | .createGuild pvo needReq checked _ => some (.createGuild pvo needReq checked)
  | .joinGuild pvo guildID => some (.joinGuild pvo guildID)
  | .acceptPlayerJoinGuild pvo pid accept => some (.acceptPlayerJoinGuild pvo pid accept)
  | .buildAsLoad pid => some (.buildAsLoad pid)
  | .dissolutionGuild pvo => some (.dissolutionGuild pvo)
  | .cancelDissolutionGuild pvo => some (.cancelDissolutionGuild pvo)
  | .innerDissolutionGuild guildIDs => some (.innerDissolutionGuild guildIDs)
  | .updateGuildFightForce _ => none

/-! ## The other caches -/

section Follows

variable {cfgs env} {s : GuildCaches}

/-- The method does on the other caches what another method does. -/
abbrev Does {α : Type} (x : Method α) (y : Guild.Method α) (s : GuildCaches) : Prop :=
  EStateM.Follows GuildCaches.cache id x y s

lemma does_onCache {α : Type} (y : Guild.Method α) (s : GuildCaches) : Does (onCache y) y s :=
  .zoom (fun _ _ => rfl) y

lemma does_directJoinGuild (pid guildID : ℤ) (rightLevel : RightLevel) (s : GuildCaches) :
    Does (directJoinGuild cfgs env pid guildID rightLevel)
      (Guild.directJoinGuild cfgs env pid guildID rightLevel) s := by
  refine .get ?_
  cases hpid : s.cache.inGuild pid with
  | true => exact .pure ()
  | false =>
    refine .bind (does_onCache _ _) fun _ s₁ _ => ?_
    refine .bind (does_onCache _ _) fun _ s₂ _ => ?_
    refine .bind (does_onCache _ _) fun guildVO s₃ _ => ?_
    refine .bind (does_onCache _ _) fun full s₄ _ => ?_
    unfold EStateM.Follows
    cases full <;> rfl

lemma does_createGuild (pvo : ℤ) (needReq : Bool) (checked : Except Thrown Unit) (createDate : ℤ)
    (s : GuildCaches) :
    Does (createGuild cfgs env pvo needReq checked createDate)
      (Guild.createGuild cfgs env pvo needReq checked) s := by
  refine .bind (does_onCache _ _) fun _ s₁ _ => ?_
  refine .bind (does_onCache _ _) fun _ s₂ _ => ?_
  refine .get ?_
  refine .bind (.modify rfl) fun _ s₃ _ => ?_
  refine .bind (does_directJoinGuild _ _ _ _) fun _ s₄ _ => ?_
  refine .bind (.modify rfl) fun _ s₅ _ => ?_
  exact does_onCache _ _

lemma does_joinGuild (pvo guildID : ℤ) (s : GuildCaches) :
    Does (joinGuild cfgs env pvo guildID) (Guild.joinGuild cfgs env pvo guildID) s := by
  refine .bind (does_onCache _ _) fun result s₁ _ => ?_
  obtain ⟨found, guildVO⟩ := result
  show Does (if guildVO.enterNeedReq = true then _ else _)
    (if guildVO.enterNeedReq = true then _ else _) s₁
  split
  · exact .bind (does_onCache _ _) fun _ s₂ _ => does_onCache _ _
  · exact .bind (does_directJoinGuild _ _ _ _) fun _ s₂ _ => does_onCache _ _

lemma does_acceptPlayerJoinGuild (pvo pid : ℤ) (accept : Bool) (s : GuildCaches) :
    Does (acceptPlayerJoinGuild cfgs env pvo pid accept)
      (Guild.acceptPlayerJoinGuild cfgs env pvo pid accept) s := by
  refine .bind (does_onCache _ _) fun result s₁ _ => ?_
  obtain ⟨guildID, guildVO, status⟩ := result
  show Does (if accept = true then _ else _) (if accept = true then _ else _) s₁
  split
  · refine .bind (does_onCache _ _) fun _ s₂ _ => ?_
    refine .get ?_
    show Does (if notInGuild s₂.cache pid = true ∧ status = .STATUS_NORMAL then _ else _)
      (if notInGuild s₂.cache pid = true ∧ status = .STATUS_NORMAL then _ else _) s₂
    split
    · refine .bind (does_onCache _ _) fun _ s₃ _ => ?_
      exact .bind (does_directJoinGuild _ _ _ _) fun _ s₄ _ => does_onCache _ _
    · exact .bind (does_onCache _ _) fun _ s₃ _ => does_onCache _ _
  · exact .bind (does_onCache _ _) fun _ s₂ _ => does_onCache _ _

lemma does_joinAccepted (pid : ℤ) (guildIDs : List ℤ) (s : GuildCaches) :
    Does (joinAccepted cfgs env pid guildIDs) (Guild.joinAccepted cfgs env pid guildIDs) s := by
  induction guildIDs generalizing s with
  | nil => exact .pure ()
  | cons guildID guildIDs ih =>
    refine .get ?_
    cases s.cache.getGuildByID guildID with
    | none => exact .throw _
    | some guildVO =>
      refine .bind (does_onCache _ _) fun full s₁ _ => ?_
      show Does (if full = true then _ else _) (if full = true then _ else _) s₁
      split
      · exact ih s₁
      · show Does (if s.cache.getReq pid guildID = some .STATUS_ACCEPT then _ else _)
          (if s.cache.getReq pid guildID = some .STATUS_ACCEPT then _ else _) s₁
        split
        · refine .bind (does_onCache _ _) fun _ s₂ _ => ?_
          show Does (if guildVO.status ≠ .DISSOLUTION_END then _ else _)
            (if guildVO.status ≠ .DISSOLUTION_END then _ else _) s₂
          split
          · exact does_directJoinGuild _ _ _ _
          · exact ih s₂
        · exact ih s₁

lemma does_buildAsLoad (pid : ℤ) (s : GuildCaches) :
    Does (buildAsLoad cfgs env pid) (Guild.buildAsLoad cfgs env pid) s := by
  by_cases hpid : notInGuild s.cache pid = true
  · refine .get ?_
    show Does (if notInGuild s.cache pid = true then _ else _)
      (if notInGuild s.cache pid = true then _ else _) s
    rw [if_pos hpid, if_pos hpid]
    exact does_joinAccepted _ _ _
  · have hrun : (buildAsLoad cfgs env pid).run s =
        (onCache (Guild.buildAsLoad cfgs env pid)).run s := by
      show EStateM.run (if notInGuild s.cache pid = true then _ else _) s = _
      rw [if_neg hpid]
    unfold Does EStateM.Follows
    rw [hrun]
    exact does_onCache _ _

lemma does_dissolve (guildID : ℤ) (s : GuildCaches) :
    Does (dissolve guildID) (Guild.dissolve guildID) s := by
  refine .bind (does_onCache _ _) fun guildVO s₁ _ => ?_
  show Does (if guildVO.status = .IN_DISSOLUTION then _ else _)
    (if guildVO.status = .IN_DISSOLUTION then _ else _) s₁
  split
  · refine .bind (does_onCache _ _) fun _ s₂ _ => ?_
    refine .bind (does_onCache _ _) fun _ s₃ _ => ?_
    exact .modify rfl
  · exact .modify rfl

/-- The fight force that a guild has after `updateGuildFightForce`. -/
def newFightForce (fightForceOf : ℤ → Option ℤ) (s : GuildCaches) (guildID : ℤ) : ℤ :=
  match s.cache.getGuildByID guildID with
  | none => s.fightForce guildID
  | some guildVO => memberForce fightForceOf guildVO

/-- What the loop of `updateGuildFightForce` leaves. -/
lemma foldl_updateFightForce (fightForceOf : ℤ → Option ℤ) (guildIDs : List ℤ) (s : GuildCaches) :
    guildIDs.foldl (updateFightForce fightForceOf) s =
      { s with fightForce := fun guildID =>
          if guildID ∈ guildIDs then newFightForce fightForceOf s guildID
          else s.fightForce guildID } := by
  induction guildIDs generalizing s with
  | nil => simp
  | cons guildID guildIDs ih =>
    have hround : updateFightForce fightForceOf s guildID =
        { s with fightForce :=
            Function.update s.fightForce guildID (newFightForce fightForceOf s guildID) } := by
      unfold updateFightForce newFightForce
      cases s.cache.getGuildByID guildID with
      | none => rw [Function.update_eq_self]
      | some guildVO => rfl
    have hnew : ∀ guildID', newFightForce fightForceOf
        { s with
          fightForce :=
            Function.update s.fightForce guildID (newFightForce fightForceOf s guildID) }
        guildID' = newFightForce fightForceOf s guildID' := by
      intro guildID'
      unfold newFightForce
      dsimp only
      cases hguild : s.cache.getGuildByID guildID' with
      | some guildVO => rfl
      | none =>
        dsimp only
        rw [Function.update_apply]
        split
        · next heq => rw [← heq, hguild]
        · rfl
    rw [List.foldl_cons, hround, ih]
    simp only [hnew, List.mem_cons, Function.update_apply]
    congr 1
    funext guildID'
    by_cases heq : guildID' = guildID
    · simp [heq]
    · simp [heq]

variable (cfgs)

/-- **The other caches** are those that the method without the set leaves. -/
theorem cache_step (s : GuildCaches) (op : Surroundings × Op) :
    (step cfgs s op).cache =
      match op.2.call with
      | none => s.cache
      | some call => Guild.step cfgs s.cache (op.1, call) := by
  obtain ⟨env, op⟩ := op
  cases op with
  | createGuild pvo needReq checked createDate =>
    exact (does_createGuild pvo needReq checked createDate s).finalState_eq.symm
  | joinGuild pvo guildID => exact (does_joinGuild pvo guildID s).finalState_eq.symm
  | acceptPlayerJoinGuild pvo pid accept =>
    exact (does_acceptPlayerJoinGuild pvo pid accept s).finalState_eq.symm
  | buildAsLoad pid => exact (does_buildAsLoad pid s).finalState_eq.symm
  | dissolutionGuild pvo =>
    exact (does_onCache (Guild.dissolutionGuild cfgs env pvo) s).finalState_eq.symm
  | cancelDissolutionGuild pvo =>
    exact (does_onCache (Guild.cancelDissolutionGuild pvo) s).finalState_eq.symm
  | innerDissolutionGuild guildIDs =>
    have hdoes : Does (innerDissolutionGuild guildIDs) (Guild.innerDissolutionGuild guildIDs) s :=
      .each does_dissolve guildIDs
    exact hdoes.finalState_eq.symm
  | updateGuildFightForce fightForceOf =>
    show (s.cache.allGuildByID.foldl (updateFightForce fightForceOf) s).cache = s.cache
    rw [foldl_updateFightForce]

/-- Ids and membership stay in order. -/
lemma kept_step_cache {s : GuildCaches} (h : Kept s.cache) (op : Surroundings × Op) :
    Kept (step cfgs s op).cache := by
  rw [cache_step]
  cases hcall : op.2.call with
  | none => exact h
  | some call =>
    refine kept_step cfgs h ?_
    revert hcall
    unfold Op.call
    cases op.2 <;> rintro ⟨⟩ <;> rfl

end Follows

end SrgpGame.Guild.Recommend
