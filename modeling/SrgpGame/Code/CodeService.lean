import SrgpGame.Lib.Statements
import SrgpGame.Lib.Machine

set_option autoImplicit false

/-!
# The use of prize codes

A prize code belongs to a batch. A code of some batches can be used once by a player; of other
batches a player can use a single code. Which codes were used is in the table `prize_code_use`,
which all kinds of codes share.

## Main definitions

* `CodeConfig` — the tables of codes and batches.
* `isUseVerify` — `CodeService.isUseVerify`, statement by statement.
* `UsedOnce` — no player uses a code, or a batch, twice.
* `SameUse` — two requests for the same use.

## Main results

* `usedOnce_iff` — when no interleaving of requests lets a use happen twice.

## Design notes

Codes and players are of any type; their equality is the one of the database.
-/

namespace SrgpGame.Code

open Statements

variable {ι Code Pid : Type}

/-! ## Tables -/

/-- `GmException`, with its code. -/
structure GmException where
  message : String
  code : ℕ := 0
  deriving DecidableEq, Repr

/-- `SendType.PRIZE_CODE_USE`. -/
def PRIZE_CODE_USE : ℕ := 80204

/-- A row of `QUERY_CODE_INFO_BY_CODE`. -/
structure CodeInfo where
  id : Int32
  type : Option Int32
  specialType : Option Int32
  deriving DecidableEq, Repr

/-- **The tables of codes**, `prize_code` and `prize_code_attr`, by their primary keys. -/
structure CodeConfig (Code : Type) where
  /-- The batch of a code. -/
  prizeCode : Code → Option Int32
  /-- The type and the special type of a batch. -/
  attr : Int32 → Option (Option Int32 × Option Int32)

/-- `QUERY_CODE_INFO_BY_CODE`. -/
def CodeConfig.codeInfo (cfg : CodeConfig Code) (code : Code) : Option CodeInfo := do
  let aid ← cfg.prizeCode code
  let attr ← cfg.attr aid
  return ⟨aid, attr.1, attr.2⟩

/-- A row of `prize_code_use`. -/
structure CodeUse (Code Pid : Type) where
  code : Code
  aid : Int32
  pid : Pid

section Verify

variable [DecidableEq Code] [DecidableEq Pid]

/-- `QUERY_CODE_USE_BY_AID`, then `ADD_CODE_USE`. -/
def useByAid (code : Code) (aid : Int32) (pid : Pid) : Request (CodeUse Code Pid) where
  hit := fun use => use.aid = aid ∧ use.pid = pid
  row := ⟨code, aid, pid⟩

/-- `QUERY_CODE_USE_BY_CODE`, then `ADD_CODE_USE`. -/
def useByCode (code : Code) (aid : Int32) (pid : Pid) : Request (CodeUse Code Pid) where
  hit := fun use => use.code = code ∧ use.pid = pid
  row := ⟨code, aid, pid⟩

/-- **`isUseVerify`**: looks the code up, and depending on the type of its batch looks whether the
player has used the batch or the code before, and enters the use. -/
def isUseVerify (cfg : CodeConfig Code) (code : Code) (pid : Pid) :
    Statements (CodeUse Code Pid) GmException :=
  .other <| match cfg.codeInfo code with
    | none => .throw ⟨"PRIZE_CODE NOT EXIST", 0⟩
    | some info =>
      if info.type = some 1 then
        if info.specialType = some 0 then
          checkInsert (useByAid code info.id pid) ⟨"批次兑换码一个用户只能使用其中一个", PRIZE_CODE_USE⟩
        else if info.specialType = some 1 then
          checkInsert (useByCode code info.id pid) ⟨"该用户已使用过此兑换码", PRIZE_CODE_USE⟩
        else .done
      else if info.type = some (-1) then
        if info.specialType = some 0 then
          checkInsert (useByCode code info.id pid) ⟨"该用户已使用过此兑换码", PRIZE_CODE_USE⟩
        else .done
      else .done

end Verify

/-! ## Uses -/

/-- What a player can use only once. -/
inductive CodeKind where
  /-- One code of the batch: type 1 and special type 0. -/
  | batch
  /-- The code: type 1 and special type 1, or type -1 and special type 0. -/
  | single
  deriving DecidableEq, Repr

/-- The kind of a batch. -/
def CodeInfo.kind (info : CodeInfo) : Option CodeKind :=
  if info.type = some 1 ∧ info.specialType = some 0 then some .batch
  else if info.type = some 1 ∧ info.specialType = some 1 ∨
      info.type = some (-1) ∧ info.specialType = some 0 then some .single
  else none

/-- The kind of a code. -/
def CodeConfig.kind (cfg : CodeConfig Code) (code : Code) : Option CodeKind :=
  (cfg.codeInfo code).bind CodeInfo.kind

/-- The batch of a code is in its row. -/
lemma CodeConfig.prizeCode_of_codeInfo {cfg : CodeConfig Code} {code : Code} {info : CodeInfo}
    (h : cfg.codeInfo code = some info) : cfg.prizeCode code = some info.id := by
  rw [codeInfo] at h
  cases haid : cfg.prizeCode code with
  | none =>
    rw [haid] at h
    cases h
  | some aid =>
    rw [haid] at h
    cases hattr : cfg.attr aid with
    | none =>
      change (cfg.attr aid >>= _) = _ at h
      rw [hattr] at h
      cases h
    | some attr =>
      change (cfg.attr aid >>= _) = _ at h
      rw [hattr] at h
      rw [← Option.some.inj h]

/-- What identifies a use. -/
inductive UseKey (Code Pid : Type) where
  | batch (aid : Int32) (pid : Pid)
  | single (code : Code) (pid : Pid)
  deriving DecidableEq

/-- The use that a row enters. -/
def useKey (cfg : CodeConfig Code) (use : CodeUse Code Pid) : UseKey Code Pid :=
  if cfg.kind use.code = some .batch then .batch use.aid use.pid else .single use.code use.pid

lemma useKey_eq_batch_iff {cfg : CodeConfig Code} {use : CodeUse Code Pid} {aid : Int32}
    {pid : Pid} : useKey cfg use = .batch aid pid ↔
      cfg.kind use.code = some .batch ∧ use.aid = aid ∧ use.pid = pid := by
  unfold useKey
  by_cases h : cfg.kind use.code = some .batch <;> simp [h]

lemma useKey_eq_single_iff {cfg : CodeConfig Code} {use : CodeUse Code Pid} {code : Code}
    {pid : Pid} : useKey cfg use = .single code pid ↔
      cfg.kind use.code ≠ some .batch ∧ use.code = code ∧ use.pid = pid := by
  unfold useKey
  by_cases h : cfg.kind use.code = some .batch <;> simp [h]

/-- A code of a kind is in a batch. -/
lemma CodeConfig.exists_prizeCode {cfg : CodeConfig Code} {code : Code}
    (h : cfg.kind code ≠ none) : ∃ aid, cfg.prizeCode code = some aid := by
  cases hinfo : cfg.codeInfo code with
  | none =>
    rw [kind, hinfo] at h
    exact absurd rfl h
  | some info => exact ⟨info.id, prizeCode_of_codeInfo hinfo⟩

variable [DecidableEq Code] [DecidableEq Pid]

/-- **Every use happens once**: the table has at most one row for a batch and a player, if the
batch allows a player a single code, and at most one row for a code and a player, if the code can
be used once by a player. -/
def UsedOnce (cfg : CodeConfig Code) (table : List (CodeUse Code Pid)) : Prop :=
  (∀ aid pid, table.countP
    (fun use => cfg.kind use.code = some .batch ∧ use.aid = aid ∧ use.pid = pid) ≤ 1) ∧
  ∀ code pid, cfg.kind code = some .single →
    table.countP (fun use => use.code = code ∧ use.pid = pid) ≤ 1

/-- Two requests, each a code and a player, are for the same use. -/
def SameUse (cfg : CodeConfig Code) (r r' : Code × Pid) : Prop :=
  r.2 = r'.2 ∧
    (cfg.kind r.1 = some .batch ∧ cfg.kind r'.1 = some .batch ∧
        cfg.prizeCode r.1 = cfg.prizeCode r'.1 ∨
      cfg.kind r.1 = some .single ∧ r.1 = r'.1)

omit [DecidableEq Code] [DecidableEq Pid] in
/-- Requests for the same use are for codes of a kind. -/
lemma SameUse.kind_ne_none {cfg : CodeConfig Code} {r r' : Code × Pid} (h : SameUse cfg r r') :
    cfg.kind r.1 ≠ none ∧ cfg.kind r'.1 ≠ none := by
  obtain ⟨-, ⟨hr, hr', -⟩ | ⟨hr, hcode⟩⟩ := h
  · exact ⟨by simp [hr], by simp [hr']⟩
  · exact ⟨by simp [hr], by simp [← hcode, hr]⟩

/-! ## Requests that check and then insert -/

/-- What a request looks for, and the row that it inserts. -/
def request (cfg : CodeConfig Code) (r : Code × Pid) : Request (CodeUse Code Pid) :=
  if cfg.kind r.1 = some .batch then useByAid r.1 ((cfg.prizeCode r.1).getD 0) r.2
  else useByCode r.1 ((cfg.prizeCode r.1).getD 0) r.2

/-- The row is the same for all kinds of codes. -/
@[simp] lemma request_row (cfg : CodeConfig Code) (r : Code × Pid) :
    (request cfg r).row = ⟨r.1, (cfg.prizeCode r.1).getD 0, r.2⟩ := by
  unfold request
  split <;> rfl

/-- **A request for a code of a kind** checks and then inserts. -/
theorem checks_isUseVerify {cfg : CodeConfig Code} {code : Code} (h : cfg.kind code ≠ none)
    (pid : Pid) : Checks (request cfg (code, pid)) (isUseVerify cfg code pid) := by
  unfold isUseVerify
  refine .other ?_
  cases hinfo : cfg.codeInfo code with
  | none =>
    rw [CodeConfig.kind, hinfo] at h
    exact absurd rfl h
  | some info =>
    have hkind : cfg.kind code = info.kind := by rw [CodeConfig.kind, hinfo]; rfl
    have haid : (cfg.prizeCode code).getD 0 = info.id := by
      rw [CodeConfig.prizeCode_of_codeInfo hinfo]
      rfl
    rw [hkind] at h
    rw [request, haid, hkind]
    dsimp only
    unfold CodeInfo.kind at h ⊢
    by_cases htype : info.type = some 1
    · by_cases hbatch : info.specialType = some 0
      · simp only [htype, hbatch, and_self, if_true]
        exact .check _
      · by_cases hsingle : info.specialType = some 1
        · simp only [htype, hsingle]
          exact .check _
        · simp [htype, hbatch, hsingle] at h
    · by_cases hall : info.type = some (-1)
      · by_cases hsingle : info.specialType = some 0
        · simp only [hall, hsingle]
          exact .check _
        · simp [hall, hsingle] at h
      · simp [htype, hall] at h

/-- **Any other request** inserts nothing. -/
theorem idle_isUseVerify {cfg : CodeConfig Code} {code : Code} (h : cfg.kind code = none)
    (pid : Pid) : Idle (isUseVerify cfg code pid) := by
  unfold isUseVerify
  refine .other ?_
  cases hinfo : cfg.codeInfo code with
  | none => exact .throw _
  | some info =>
    rw [CodeConfig.kind, hinfo] at h
    change info.kind = none at h
    unfold CodeInfo.kind at h
    by_cases htype : info.type = some 1
    · by_cases hbatch : info.specialType = some 0
      · simp [htype, hbatch] at h
      · by_cases hsingle : info.specialType = some 1
        · simp [htype, hsingle] at h
        · simp only [htype, hbatch, hsingle]
          exact .done
    · by_cases hall : info.type = some (-1)
      · by_cases hsingle : info.specialType = some 0
        · simp [hall, hsingle] at h
        · simp only [hall, hsingle]
          exact .done
      · simp only [htype, hall]
        exact .done

/-! ## The keys of the rows -/

/-- A use that is entered under its key only once happens once. -/
lemma usedOnce_of_nodup {cfg : CodeConfig Code} {table : List (CodeUse Code Pid)}
    (h : (table.map (useKey cfg)).Nodup) : UsedOnce cfg table := by
  have hcount : ∀ (p : CodeUse Code Pid → Bool) (k : UseKey Code Pid),
      (∀ use, p use = true → useKey cfg use = k) → table.countP p ≤ 1 := by
    intro p k hp
    have hle := List.nodup_iff_count_le_one.mp h k
    rw [List.count, List.countP_map] at hle
    refine (List.countP_mono_left fun use _ huse => ?_).trans hle
    exact beq_iff_eq.mpr (hp use huse)
  refine ⟨fun aid pid => hcount _ (.batch aid pid) fun use huse => ?_,
    fun code pid hkind => hcount _ (.single code pid) fun use huse => ?_⟩
  · exact useKey_eq_batch_iff.mpr (of_decide_eq_true huse)
  · obtain ⟨rfl, rfl⟩ := of_decide_eq_true huse
    exact useKey_eq_single_iff.mpr ⟨by simp [hkind], rfl, rfl⟩

/-- **A table of uses that happened once** has each key once, if its codes are of a kind. -/
lemma nodup_of_usedOnce {cfg : CodeConfig Code} {table : List (CodeUse Code Pid)}
    (hkind : ∀ use ∈ table, cfg.kind use.code ≠ none) (h : UsedOnce cfg table) :
    (table.map (useKey cfg)).Nodup := by
  refine List.nodup_iff_count_le_one.mpr fun k => ?_
  rw [List.count, List.countP_map]
  cases k with
  | batch aid pid =>
    refine (List.countP_mono_left fun use _ huse => ?_).trans (h.1 aid pid)
    exact decide_eq_true (useKey_eq_batch_iff.mp (beq_iff_eq.mp huse))
  | single code pid =>
    by_cases hsingle : cfg.kind code = some .single
    · refine (List.countP_mono_left fun use _ huse => ?_).trans (h.2 code pid hsingle)
      exact decide_eq_true (useKey_eq_single_iff.mp (beq_iff_eq.mp huse)).2
    · have hzero : table.countP ((fun k => k == .single code pid) ∘ useKey cfg) = 0 := by
        refine List.countP_eq_zero.mpr fun use huse hkey => ?_
        obtain ⟨hbatch, rfl, -⟩ := useKey_eq_single_iff.mp (beq_iff_eq.mp hkey)
        cases hk : cfg.kind use.code with
        | none => exact hkind use huse hk
        | some k =>
          cases k with
          | batch => exact hbatch hk
          | single => exact hsingle hk
      omega

/-- The rows of two requests have the same key just if they are for the same use. -/
lemma useKey_row_eq_iff {cfg : CodeConfig Code} {r r' : Code × Pid} (hr : cfg.kind r.1 ≠ none)
    (hr' : cfg.kind r'.1 ≠ none) :
    useKey cfg (request cfg r).row = useKey cfg (request cfg r').row ↔ SameUse cfg r r' := by
  obtain ⟨aid, haid⟩ := CodeConfig.exists_prizeCode hr
  obtain ⟨aid', haid'⟩ := CodeConfig.exists_prizeCode hr'
  rw [request_row, request_row, haid, haid', SameUse, haid, haid', Option.getD_some,
    Option.getD_some, Option.some.injEq]
  by_cases hbatch' : cfg.kind r'.1 = some .batch
  · have hkey : useKey cfg (⟨r'.1, aid', r'.2⟩ : CodeUse Code Pid) = .batch aid' r'.2 :=
      useKey_eq_batch_iff.mpr ⟨hbatch', rfl, rfl⟩
    rw [hkey, useKey_eq_batch_iff]
    constructor
    · rintro ⟨hbatch, rfl, hpid⟩
      exact ⟨hpid, Or.inl ⟨hbatch, hbatch', rfl⟩⟩
    · rintro ⟨hpid, ⟨hbatch, -, rfl⟩ | ⟨hsingle, hcode⟩⟩
      · exact ⟨hbatch, rfl, hpid⟩
      · rw [hcode, hbatch'] at hsingle
        cases hsingle
  · have hkey : useKey cfg (⟨r'.1, aid', r'.2⟩ : CodeUse Code Pid) = .single r'.1 r'.2 :=
      useKey_eq_single_iff.mpr ⟨hbatch', rfl, rfl⟩
    rw [hkey, useKey_eq_single_iff]
    constructor
    · rintro ⟨hbatch, hcode, hpid⟩
      refine ⟨hpid, Or.inr ⟨?_, hcode⟩⟩
      cases hk : cfg.kind r.1 with
      | none => exact absurd hk hr
      | some k =>
        cases k with
        | batch => exact absurd hk hbatch
        | single => rfl
    · rintro ⟨hpid, ⟨-, hbatch, -⟩ | ⟨hsingle, hcode⟩⟩
      · exact absurd hbatch hbatch'
      · exact ⟨by simp [hsingle], hcode, hpid⟩

/-- The check of a request selects the rows with the key of its own row. -/
lemma hit_request {cfg : CodeConfig Code} {r r' : Code × Pid}
    (h : useKey cfg (request cfg r').row = useKey cfg (request cfg r).row) :
    (request cfg r).hit (request cfg r').row = true := by
  rw [request_row, request_row] at h
  rw [request_row, request]
  by_cases hbatch : cfg.kind r.1 = some .batch
  · rw [if_pos hbatch]
    have hkey : useKey cfg (⟨r.1, (cfg.prizeCode r.1).getD 0, r.2⟩ : CodeUse Code Pid) =
        .batch ((cfg.prizeCode r.1).getD 0) r.2 := useKey_eq_batch_iff.mpr ⟨hbatch, rfl, rfl⟩
    rw [hkey, useKey_eq_batch_iff] at h
    exact decide_eq_true h.2
  · rw [if_neg hbatch]
    have hkey : useKey cfg (⟨r.1, (cfg.prizeCode r.1).getD 0, r.2⟩ : CodeUse Code Pid) =
        .single r.1 r.2 := useKey_eq_single_iff.mpr ⟨hbatch, rfl, rfl⟩
    rw [hkey, useKey_eq_single_iff] at h
    exact decide_eq_true h.2

/-! ## Interleavings -/

/-- The requests `reqs` at the start. -/
def startRequests (cfg : CodeConfig Code) (reqs : ι → Code × Pid) :
    Pool ι (CodeUse Code Pid) GmException :=
  .start fun i => isUseVerify cfg (reqs i).1 (reqs i).2

section Interleavings

variable [DecidableEq ι] (cfg : CodeConfig Code) (reqs : ι → Code × Pid)

/-- **The condition on a step**: when the check of a request finds nothing, no other request for
the same use is between its check and its insertion. -/
def NoOverlap (s : Pool ι (CodeUse Code Pid) GmException) (i : ι) : Prop :=
  (∃ e, s.progs i = checkInsert (request cfg (reqs i)) e) →
    s.table.any (request cfg (reqs i)).hit = false →
      ∀ j, s.progs j = .insert (request cfg (reqs j)).row .done →
        ¬SameUse cfg (reqs j) (reqs i)

omit [DecidableEq ι] in
lemma checks_reqs (i : ι) (hi : cfg.kind (reqs i).1 ≠ none) :
    Checks (request cfg (reqs i)) (isUseVerify cfg (reqs i).1 (reqs i).2) :=
  checks_isUseVerify hi (reqs i).2

omit [DecidableEq ι] in
lemma idle_reqs (i : ι) (hi : ¬cfg.kind (reqs i).1 ≠ none) :
    Idle (isUseVerify cfg (reqs i).1 (reqs i).2) :=
  idle_isUseVerify (not_not.mp hi) (reqs i).2

/-- **One interleaving**: if the requests for each use do not overlap, every use happens once.

**Proof sketch.** The checks select the rows with the key of the row to insert, so the rule for
such requests applies; that two requests are for the same use says that their rows have the same
key, since only requests for codes of a kind come to their checks. -/
theorem usedOnce_of_noOverlap {sched : List ι}
    (h : Runs.EveryStep Pool.step (NoOverlap cfg reqs) (startRequests cfg reqs) sched) :
    UsedOnce cfg (Runs.run Pool.step (startRequests cfg reqs) sched).table := by
  have hchecks := checks_reqs cfg reqs
  have hidle := idle_reqs cfg reqs
  refine usedOnce_of_nodup (Pool.nodup_of_noOverlap (useKey cfg) hchecks hidle
    (fun i j _ _ hkey => hit_request hkey) ?_)
  refine Runs.everyStep_of_inv (fun s _ => ∃ ins, Pool.Inserted (fun i => request cfg (reqs i))
    (fun i => cfg.kind (reqs i).1 ≠ none) s ins) ?_ ?_ ⟨[], Pool.inserted_start hchecks hidle⟩ h
  · rintro s i _ ⟨ins, hins⟩ -
    exact hins.exists_step i
  · rintro s i _ ⟨ins, hins⟩ hno hcheck hnone j hj hkey
    obtain ⟨e, hi⟩ := hcheck
    have hacti := hins.act_of_check hi
    have hactj := (hins.act_of_pending hj).1
    exact hno ⟨e, hi⟩ hnone j hj ((useKey_row_eq_iff hactj hacti).mp hkey)

/-- **All interleavings**: every use happens once in all of them just if no two requests are for
the same use. -/
theorem forall_usedOnce_iff :
    (∀ sched, UsedOnce cfg (Runs.run Pool.step (startRequests cfg reqs) sched).table) ↔
      ∀ i j, i ≠ j → ¬SameUse cfg (reqs i) (reqs j) := by
  have hnodup : ∀ sched,
      UsedOnce cfg (Runs.run Pool.step (startRequests cfg reqs) sched).table ↔
        ((Runs.run Pool.step (startRequests cfg reqs) sched).table.map (useKey cfg)).Nodup := by
    intro sched
    refine ⟨fun h => nodup_of_usedOnce (fun use huse => ?_) h, usedOnce_of_nodup⟩
    obtain ⟨ins, hins⟩ := Pool.exists_inserted (checks_reqs cfg reqs) (idle_reqs cfg reqs) sched
    rw [startRequests, hins.table_eq] at huse
    obtain ⟨i, hi, rfl⟩ := List.mem_map.mp huse
    rw [request_row]
    exact (hins.finished i hi).1
  have hall := Pool.forall_nodup_iff (useKey cfg) (checks_reqs cfg reqs) (idle_reqs cfg reqs)
  refine (forall_congr' hnodup).trans (hall.trans ?_)
  refine forall₃_congr fun i j hij => ?_
  constructor
  · intro h hsame
    have hkind := hsame.kind_ne_none
    exact h hkind.1 hkind.2 ((useKey_row_eq_iff hkind.1 hkind.2).mpr hsame)
  · exact fun h hi hj hkey => h ((useKey_row_eq_iff hi hj).mp hkey)

/-- **When every use happens once.** In a run in which, for each use, no request checks while
another is between its check and its insertion, every use happens once in all states. And it
happens once in all interleavings just if no two requests are for the same use. -/
theorem usedOnce_iff :
    (∀ sched, Runs.EveryStep Pool.step (NoOverlap cfg reqs) (startRequests cfg reqs) sched →
      ∀ pre, pre <+: sched →
        UsedOnce cfg (Runs.run Pool.step (startRequests cfg reqs) pre).table) ∧
    ((∀ sched, UsedOnce cfg (Runs.run Pool.step (startRequests cfg reqs) sched).table) ↔
      ∀ i j, i ≠ j → ¬SameUse cfg (reqs i) (reqs j)) := by
  refine ⟨fun sched h pre hpre => ?_, forall_usedOnce_iff cfg reqs⟩
  obtain ⟨rest, rfl⟩ := hpre
  exact usedOnce_of_noOverlap cfg reqs ((Runs.everyStep_append _ _ _).mp h).1

end Interleavings

/-! ## Two requests at once -/

/-- One code, of a batch of which a player can use a single code. -/
def oneBatch : CodeConfig String where
  prizeCode := fun code => if code = "A1" ∨ code = "A2" then some 7 else none
  attr := fun aid => if aid = 7 then some (some 1, some 0) else none

/-- **Two codes of one batch used at once**: both requests of the player find nothing, and then
both enter the use. -/
theorem not_usedOnce_at_once :
    ¬UsedOnce oneBatch (Runs.run Pool.step
      (startRequests oneBatch fun i : Bool => (if i then "A1" else "A2", "p"))
      [false, true, false, true, false, true]).table := by
  intro h
  exact absurd (h.1 7 "p") (by decide)

end SrgpGame.Code
