import SrgpGame.Core.Codes
import SrgpGame.Lib.Machine
import SrgpGame.Lib.Method

set_option autoImplicit false

/-!
# Old requests

Every half hour `clearGuildReq` goes through all requests to join a guild, to remove those that
nobody answered.

## Main definitions

* `GuildReqVO`, `AllReqs` — a request, and the requests by player and guild.
* `clears`, `clearGuildReq` — whether a request is removed, and the loop.
* `stale` — whether a request should be removed.
* `ClearRight` — what is required of the loop.

## Main results

* `run_each_clearReq` — what the loop removes, if it ends.
* `clears_eq_stale_iff` — when a request is treated as it should be.
* `clearRight_iff` — when the loop is right.

## Design notes

In the condition `&&` binds more tightly than `||`, so the date is compared for accepted requests
too, which may have none; and it is compared with a time that is an hour ahead, not an hour ago. The
requests of `CacheGuild` are kept here with their dates, which no other method reads.
-/

namespace SrgpGame.GuildReq

open EStateM

/-! ## Requests -/

/-- `GuildReqVO`, with the date that every record of the database has. -/
structure GuildReqVO where
  id : ℤ
  pid : ℤ
  guildID : ℤ
  status : ℤ
  createDate : Option ℤ
  deriving DecidableEq, Repr

/-- `GuildReqVO.STATUS_ACCEPT`. -/
def STATUS_ACCEPT : ℤ := 2

/-- `DateUtil.HOUR_MILLIS`. -/
def HOUR_MILLIS : ℤ := 3600000

/-- Where a request is kept. -/
def GuildReqVO.key (req : GuildReqVO) : ℤ × ℤ := (req.pid, req.guildID)

/-- `CacheGuild.allReqsCache`: **each request is under its own player and guild**. -/
structure AllReqs where
  table : AList (fun _ : ℤ × ℤ => GuildReqVO)
  keyed : ∀ key req, table.lookup key = some req → req.key = key

namespace AllReqs

/-- `CacheGuild.getReq`. -/
def getReq (reqs : AllReqs) (pid guildID : ℤ) : Option GuildReqVO :=
  reqs.table.lookup (pid, guildID)

/-- `CacheGuild.cacheReq`. -/
def cacheReq (reqs : AllReqs) (req : GuildReqVO) : AllReqs where
  table := reqs.table.insert req.key req
  keyed key req' h := by
    rw [AList.lookup_insert_ite] at h
    split at h
    · next heq => exact Option.some.inj h ▸ heq.symm
    · exact reqs.keyed key req' h

/-- `CacheGuild.removeReq`. -/
def removeReq (reqs : AllReqs) (req : GuildReqVO) : AllReqs where
  table := reqs.table.erase req.key
  keyed key req' h := by
    rw [AList.lookup_erase_ite] at h
    split at h
    · cases h
    · exact reqs.keyed key req' h

/-- `CacheGuild.getAllReqs`. -/
def getAllReqs (reqs : AllReqs) : List GuildReqVO := reqs.table.values

variable {reqs : AllReqs} {req : GuildReqVO}

lemma mem_getAllReqs : req ∈ reqs.getAllReqs ↔ reqs.getReq req.pid req.guildID = some req := by
  rw [getAllReqs, AList.mem_values]
  constructor
  · rintro ⟨key, h⟩
    have hkey : req.key = key := reqs.keyed key req h
    rw [← hkey] at h
    exact h
  · exact fun h => ⟨req.key, h⟩

lemma getReq_removeReq (pid guildID : ℤ) :
    (reqs.removeReq req).getReq pid guildID =
      if (pid, guildID) = req.key then none else reqs.getReq pid guildID :=
  AList.lookup_erase_ite _ _ _

end AllReqs

/-- The requests, and the ids of those that were deleted from the database. -/
structure Reqs where
  cache : AllReqs
  deleted : List ℤ

/-- A method on the requests. -/
abbrev Method := EStateM Thrown Reqs

/-- When the loop is run, and the order in which the table is gone through. -/
structure Surroundings where
  now : ℤ
  order : List GuildReqVO → List GuildReqVO
  order_perm : ∀ reqs, (order reqs).Perm reqs

/-! ## The loop -/

/-- The condition of `clearGuildReq`. -/
def clears (flushTime : ℤ) (req : GuildReqVO) : Except Thrown Bool :=
  if req.status ≠ STATUS_ACCEPT ∧ req.createDate = none then .ok true
  else
    match req.createDate with
    | none => .error .nullPointer
    | some createDate => .ok (flushTime < createDate)

/-- `CacheGuild.removeReq` and `guildReqDAO.delete`. -/
def Reqs.remove (reqs : Reqs) (req : GuildReqVO) : Reqs where
  cache := reqs.cache.removeReq req
  deleted := reqs.deleted ++ [req.id]

/-- A round of the loop. -/
def clearReq (flushTime : ℤ) (req : GuildReqVO) : Method Unit := do
  let cleared ← ofExcept fun _ => clears flushTime req
  modify fun reqs => if cleared then reqs.remove req else reqs

/-- `clearGuildReq`. -/
def clearGuildReq (env : Surroundings) : Method Unit := do
  let allReqs := env.order (← get).cache.getAllReqs
  each (clearReq (env.now + HOUR_MILLIS)) allReqs

/-! ## What is required -/

/-- **A request should be removed** if it was not accepted, and has no date or is older than an
hour. -/
def stale (now : ℤ) (req : GuildReqVO) : Bool :=
  req.status ≠ STATUS_ACCEPT && req.createDate.all fun createDate => createDate < now - HOUR_MILLIS

/-- **What is required of the loop**: it ends, and the requests that should be removed, and no
others, are removed from the table, and are deleted. -/
def ClearRight (env : Surroundings) (reqs : Reqs) : Prop :=
  ∃ reqs', (clearGuildReq env).run reqs = .ok () reqs' ∧
    (∀ pid guildID req, reqs'.cache.getReq pid guildID = some req ↔
      reqs.cache.getReq pid guildID = some req ∧ stale env.now req = false) ∧
    reqs'.deleted = reqs.deleted ++
      ((env.order reqs.cache.getAllReqs).filter (stale env.now)).map GuildReqVO.id

/-- The date of a request is not more than an hour ahead, nor, without an answer, an hour ago; and
an accepted request has one. -/
def Recent (now : ℤ) (req : GuildReqVO) : Prop :=
  match req.createDate with
  | none => req.status ≠ STATUS_ACCEPT
  | some createDate => createDate ≤ now + HOUR_MILLIS ∧
      (req.status ≠ STATUS_ACCEPT → now - HOUR_MILLIS ≤ createDate)

/-! ## What the loop removes -/

section Loop

/-- Whether a request is removed, if the condition can be computed. -/
def cleared (flushTime : ℤ) (req : GuildReqVO) : Bool :=
  match clears flushTime req with
  | .ok cleared => cleared
  | .error _ => false

variable {flushTime : ℤ} {req : GuildReqVO} {reqs reqs' : Reqs}

lemma clears_eq_ok {b : Bool} (h : clears flushTime req = .ok b) : cleared flushTime req = b := by
  rw [cleared, h]

lemma getReq_foldl_remove (removed : List GuildReqVO) (reqs : Reqs) (pid guildID : ℤ) :
    (removed.foldl Reqs.remove reqs).cache.getReq pid guildID =
      if (pid, guildID) ∈ removed.map GuildReqVO.key then none
      else reqs.cache.getReq pid guildID := by
  induction removed generalizing reqs with
  | nil => rfl
  | cons req removed ih =>
    rw [List.foldl_cons, ih, Reqs.remove, AllReqs.getReq_removeReq]
    simp only [List.map_cons, List.mem_cons]
    by_cases hkey : (pid, guildID) = req.key
    · simp [hkey]
    · simp [hkey]

lemma deleted_foldl_remove (removed : List GuildReqVO) (reqs : Reqs) :
    (removed.foldl Reqs.remove reqs).deleted = reqs.deleted ++ removed.map GuildReqVO.id := by
  induction removed generalizing reqs with
  | nil => exact (List.append_nil _).symm
  | cons req removed ih =>
    rw [List.foldl_cons, ih, Reqs.remove, List.append_assoc]
    rfl

lemma run_clearReq_eq_ok :
    (clearReq flushTime req).run reqs = .ok () reqs' ↔
      clears flushTime req = .ok (cleared flushTime req) ∧
        reqs' = if cleared flushTime req then reqs.remove req else reqs := by
  rw [clearReq, run_bind, run_ofExcept, cleared]
  cases clears flushTime req with
  | error e =>
    refine iff_of_false (fun h => ?_) fun h => ?_
    · cases h
    · cases h.1
  | ok b =>
    dsimp only
    rw [run_modify]
    constructor
    · intro h
      cases h
      exact ⟨rfl, rfl⟩
    · rintro ⟨-, rfl⟩
      rfl

/-- **The loop** ends if no condition throws, and removes those requests that meet the condition. -/
lemma run_each_clearReq_eq_ok (allReqs : List GuildReqVO) :
    (each (clearReq flushTime) allReqs).run reqs = .ok () reqs' ↔
      (∀ req ∈ allReqs, clears flushTime req = .ok (cleared flushTime req)) ∧
        reqs' = (allReqs.filter (cleared flushTime)).foldl Reqs.remove reqs := by
  induction allReqs generalizing reqs with
  | nil =>
    constructor
    · intro h
      cases h
      exact ⟨by simp, rfl⟩
    · rintro ⟨-, rfl⟩
      rfl
  | cons req allReqs ih =>
    have hrest : ((req :: allReqs).filter (cleared flushTime)).foldl Reqs.remove reqs =
        (allReqs.filter (cleared flushTime)).foldl Reqs.remove
          (if cleared flushTime req then reqs.remove req else reqs) := by
      rw [List.filter_cons]
      split
      · rfl
      · rfl
    rw [run_each_cons_eq_ok, List.forall_mem_cons, hrest, and_assoc]
    constructor
    · rintro ⟨reqs₁, hreq, hallReqs⟩
      obtain ⟨hclears, rfl⟩ := run_clearReq_eq_ok.mp hreq
      exact ⟨hclears, ih.mp hallReqs⟩
    · rintro ⟨hclears, hallReqs⟩
      exact ⟨_, run_clearReq_eq_ok.mpr ⟨hclears, rfl⟩, ih.mpr hallReqs⟩

/-- **A request is treated as it should be** just if its date is near, and it has one if it was
accepted. -/
lemma clears_eq_stale_iff (now : ℤ) (req : GuildReqVO) :
    clears (now + HOUR_MILLIS) req = .ok (stale now req) ↔ Recent now req := by
  obtain ⟨id, pid, guildID, status, createDate⟩ := req
  cases createDate with
  | none =>
    by_cases hstatus : status = STATUS_ACCEPT
    · simp [clears, stale, Recent, hstatus]
    · simp [clears, stale, Recent, hstatus]
  | some createDate =>
    by_cases hstatus : status = STATUS_ACCEPT
    · simp [clears, stale, Recent, hstatus]
    · -- not more than an hour ahead and less than an hour ago exclude each other
      have hclears : clears (now + HOUR_MILLIS) ⟨id, pid, guildID, status, some createDate⟩ =
          .ok (decide (now + HOUR_MILLIS < createDate)) := by simp [clears]
      have hstale : stale now ⟨id, pid, guildID, status, some createDate⟩ =
          decide (createDate < now - HOUR_MILLIS) := by simp [stale, hstatus]
      show _ ↔ createDate ≤ now + HOUR_MILLIS ∧
        (status ≠ STATUS_ACCEPT → now - HOUR_MILLIS ≤ createDate)
      rw [hclears, hstale, Except.ok.injEq, decide_eq_decide, imp_iff_right hstatus, HOUR_MILLIS]
      omega

variable {env : Surroundings}

lemma mem_order : req ∈ env.order reqs.cache.getAllReqs ↔
    reqs.cache.getReq req.pid req.guildID = some req :=
  (env.order_perm _).mem_iff.trans AllReqs.mem_getAllReqs

/-- The requests that are left when the loop ends. -/
lemma getReq_after (f : GuildReqVO → Bool) (pid guildID : ℤ) (req : GuildReqVO) :
    ((((env.order reqs.cache.getAllReqs).filter f).foldl Reqs.remove reqs).cache.getReq pid
        guildID = some req) ↔
      reqs.cache.getReq pid guildID = some req ∧ f req = false := by
  rw [getReq_foldl_remove]
  have hmem : ∀ req, reqs.cache.getReq pid guildID = some req →
      ((pid, guildID) ∈ ((env.order reqs.cache.getAllReqs).filter f).map GuildReqVO.key ↔
        f req = true) := by
    intro req hreq
    have hkey : req.key = (pid, guildID) := reqs.cache.keyed _ _ hreq
    rw [List.mem_map]
    constructor
    · rintro ⟨req', hreq', hkey'⟩
      obtain ⟨hmem', hf⟩ := List.mem_filter.mp hreq'
      have hreq' : reqs.cache.getReq pid guildID = some req' := by
        rw [← (Prod.mk.inj hkey').1, ← (Prod.mk.inj hkey').2]
        exact mem_order.mp hmem'
      obtain rfl := Option.some.inj (hreq.symm.trans hreq')
      exact hf
    · intro hf
      refine ⟨req, List.mem_filter.mpr ⟨mem_order.mpr ?_, hf⟩, hkey⟩
      rw [(Prod.mk.inj hkey).1, (Prod.mk.inj hkey).2]
      exact hreq
  constructor
  · intro h
    split at h
    · cases h
    · next hnot =>
      refine ⟨h, ?_⟩
      rw [← Bool.not_eq_true]
      exact fun hf => hnot ((hmem req h).mpr hf)
  · rintro ⟨hreq, hf⟩
    rw [if_neg, hreq]
    intro hin
    rw [hmem req hreq, hf] at hin
    cases hin

/-- **The loop is right** just if each request has a date that is not far from now, or none and was
not accepted. -/
theorem clearRight_iff (env : Surroundings) (reqs : Reqs) :
    ClearRight env reqs ↔ ∀ pid guildID req, reqs.cache.getReq pid guildID = some req →
      Recent env.now req := by
  have hrun : (clearGuildReq env).run reqs = (each (clearReq (env.now + HOUR_MILLIS))
      (env.order reqs.cache.getAllReqs)).run reqs := by
    rw [clearGuildReq, run_bind, run_get]
  rw [ClearRight, hrun]
  constructor
  · rintro ⟨reqs', hloop, hleft, -⟩ pid guildID req hreq
    obtain ⟨hclears, rfl⟩ := (run_each_clearReq_eq_ok _).mp hloop
    have hkey : req.key = (pid, guildID) := reqs.cache.keyed _ _ hreq
    have hmem : req ∈ env.order reqs.cache.getAllReqs := by
      rw [mem_order, (Prod.mk.inj hkey).1, (Prod.mk.inj hkey).2]
      exact hreq
    rw [← clears_eq_stale_iff, hclears req hmem]
    have hiff := (getReq_after (cleared (env.now + HOUR_MILLIS)) pid guildID req).symm.trans
      (hleft pid guildID req)
    simp only [hreq, true_and] at hiff
    refine congrArg Except.ok ?_
    rw [Bool.eq_iff_iff, ← not_iff_not, Bool.not_eq_true, Bool.not_eq_true]
    exact hiff
  · intro hrecent
    have hclears : ∀ req ∈ env.order reqs.cache.getAllReqs,
        clears (env.now + HOUR_MILLIS) req = .ok (stale env.now req) := fun req hreq =>
      (clears_eq_stale_iff _ _).mpr (hrecent _ _ req (mem_order.mp hreq))
    have hfilter : (env.order reqs.cache.getAllReqs).filter (cleared (env.now + HOUR_MILLIS)) =
        (env.order reqs.cache.getAllReqs).filter (stale env.now) :=
      List.filter_congr fun req hreq => clears_eq_ok (hclears req hreq)
    refine ⟨_, (run_each_clearReq_eq_ok _).mpr ⟨fun req hreq => ?_, rfl⟩, ?_, ?_⟩
    · rw [clears_eq_ok (hclears req hreq)]
      exact hclears req hreq
    · intro pid guildID req
      rw [hfilter]
      exact getReq_after (stale env.now) pid guildID req
    · rw [hfilter]
      exact deleted_foldl_remove _ reqs

end Loop

/-! ## Example -/

/-- Midnight, and the order of the table. -/
def midnight : Surroundings := ⟨100 * HOUR_MILLIS, id, fun _ => .rfl⟩

/-- A request that nobody answered for two hours. -/
def oldReq : Reqs where
  cache := AllReqs.cacheReq ⟨∅, fun _ _ h => by cases h⟩ ⟨1, 2, 3, 0, some (98 * HOUR_MILLIS)⟩
  deleted := []

/-- **Not so in general**: the old request stays. -/
theorem not_clearRight : ¬ClearRight midnight oldReq := by
  rintro ⟨reqs', hrun, hleft, -⟩
  cases hrun
  have hstays := (hleft 2 3 ⟨1, 2, 3, 0, some (98 * HOUR_MILLIS)⟩).mp rfl
  exact absurd hstays.2 (by decide)

end SrgpGame.GuildReq
