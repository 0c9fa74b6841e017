import SrgpGame.Lib.Runs
import Mathlib.Data.List.Nodup
import Mathlib.Logic.Function.Basic

set_option autoImplicit false

/-!
# Requests that check a table and then insert

A service without transactions works on a table by single statements, each of which is atomic, and
the statements of concurrent requests come in any order. A common request looks whether the table
has a row like the one to insert and inserts it if not. This file has such requests, their
interleavings, and two theorems on when a key stays unique among the rows that they insert.

## Main definitions

* `Statements` — what a request does with a table, statement by statement.
* `Statements.checkInsert` — the request that checks and then inserts.
* `Statements.Pool` — concurrent requests; in a step one of them executes a statement.
* `Statements.Pool.Apart`, `Statements.Pool.NoOverlap` — a check that finds nothing comes while no
  other request is about to insert a row with the same key.

## Main results

* `Statements.Pool.nodup_of_apart`, `Statements.Pool.nodup_of_noOverlap` — in a run whose checks
  are apart, no key is inserted twice; checks by the key are apart if they do not overlap.
* `Statements.Pool.forall_nodup_iff` — no interleaving inserts a key twice just if no two requests
  have the same key.
-/

variable {ι ρ κ ε : Type}

/-! ## Statements -/

/-- A request to insert a row that is refused when there is a row that `hit` selects. -/
structure Statements.Request (ρ : Type) where
  hit : ρ → Bool
  row : ρ

/-- **What a request does with a table** of rows `ρ`, statement by statement. -/
inductive Statements (ρ ε : Type) where
  /-- The request has returned. -/
  | done
  /-- The request has failed. -/
  | throw (e : ε)
  /-- A statement on tables that no request changes. -/
  | other (rest : Statements ρ ε)
  /-- Is there a row that `hit` selects? -/
  | select (hit : ρ → Bool) (rest : Bool → Statements ρ ε)
  /-- Inserts a row. -/
  | insert (row : ρ) (rest : Statements ρ ε)

namespace Statements

/-- Executes the next statement. -/
def exec : Statements ρ ε → List ρ → Statements ρ ε × List ρ
  | done, table => (done, table)
  | throw e, table => (throw e, table)
  | other rest, table => (rest, table)
  | select hit rest, table => (rest (table.any hit), table)
  | insert row rest, table => (rest, table ++ [row])

/-- **Check, then insert**: fails when there is a row that the check selects, else inserts the
row. -/
def checkInsert (r : Request ρ) (e : ε) : Statements ρ ε :=
  select r.hit fun found => if found then throw e else insert r.row done

/-- The program comes to check and then insert. -/
inductive Checks (r : Request ρ) : Statements ρ ε → Prop
  | check (e : ε) : Checks r (checkInsert r e)
  | other {p : Statements ρ ε} (h : Checks r p) : Checks r (other p)

/-- The request will not insert a row. -/
inductive Idle : Statements ρ ε → Prop
  | done : Idle done
  | throw (e : ε) : Idle (throw e)
  | other {p : Statements ρ ε} (h : Idle p) : Idle (other p)
  | select {hit : ρ → Bool} {rest : Bool → Statements ρ ε} (h : ∀ found, Idle (rest found)) :
      Idle (select hit rest)

/-- Where a program that checks and then inserts can be. -/
inductive Stage (r : Request ρ) : Statements ρ ε → Prop
  | checks {p : Statements ρ ε} (h : Checks r p) : Stage r p
  /-- The check has found nothing. -/
  | pending : Stage r (insert r.row done)
  /-- The request is over. -/
  | idle {p : Statements ρ ε} (h : Idle p) : Stage r p

/-- A request that does not insert leaves the table, and does not insert later. -/
lemma Idle.exec {p : Statements ρ ε} (h : Idle p) (table : List ρ) :
    Idle (p.exec table).1 ∧ (p.exec table).2 = table := by
  cases h with
  | done => exact ⟨.done, rfl⟩
  | throw e => exact ⟨.throw e, rfl⟩
  | other h => exact ⟨h, rfl⟩
  | select h => exact ⟨h _, rfl⟩

/-- A request that checks leaves the table, and then it checks, is to insert, or is over. -/
lemma Checks.exec {r : Request ρ} {p : Statements ρ ε} (h : Checks r p) (table : List ρ) :
    Stage r (p.exec table).1 ∧ (p.exec table).2 = table := by
  cases h with
  | other h => exact ⟨.checks h, rfl⟩
  | check e =>
    refine ⟨?_, rfl⟩
    change Stage r (if table.any r.hit then throw e else insert r.row done)
    split
    · exact .idle (.throw e)
    · exact .pending

/-- **One statement of a request**: it inserts its row, or it leaves the table. -/
lemma Stage.exec {r : Request ρ} {p : Statements ρ ε} (h : Stage r p) (table : List ρ) :
    (p = insert r.row done ∧ p.exec table = (done, table ++ [r.row])) ∨
      (p ≠ insert r.row done ∧ Stage r (p.exec table).1 ∧ (p.exec table).2 = table) := by
  cases h with
  | pending => exact Or.inl ⟨rfl, rfl⟩
  | checks h =>
    refine Or.inr ⟨?_, h.exec table⟩
    rintro rfl
    cases h
  | idle h =>
    refine Or.inr ⟨?_, .idle (h.exec table).1, (h.exec table).2⟩
    rintro rfl
    cases h

/-- A request comes to its insertion only by its check, which finds nothing. -/
lemma Stage.eq_checkInsert_of_exec {r : Request ρ} {p : Statements ρ ε} (h : Stage r p)
    {table : List ρ} (hp : p ≠ insert r.row done) (hexec : (p.exec table).1 = insert r.row done) :
    (∃ e, p = checkInsert r e) ∧ table.any r.hit = false := by
  cases h with
  | pending => exact absurd rfl hp
  | idle h =>
    have hidle := (h.exec table).1
    rw [hexec] at hidle
    cases hidle
  | checks h =>
    cases h with
    | other h =>
      dsimp only [Statements.exec] at hexec
      rw [hexec] at h
      cases h
    | check e =>
      refine ⟨⟨e, rfl⟩, ?_⟩
      by_contra hfound
      rw [Bool.not_eq_false] at hfound
      change (if table.any r.hit then throw e else insert r.row done) = insert r.row done at hexec
      rw [if_pos hfound] at hexec
      cases hexec

end Statements

/-! ## Concurrent requests -/

/-- Concurrent requests and the table they work on. -/
structure Statements.Pool (ι ρ ε : Type) where
  table : List ρ
  /-- What each request still has to do. -/
  progs : ι → Statements ρ ε

namespace Statements.Pool

/-- The requests at the start, with an empty table. -/
def start (progs : ι → Statements ρ ε) : Pool ι ρ ε := ⟨[], progs⟩

section Requests

-- `req i` is what the program of `i` requests, if `act i` says that it comes to that
variable {req : ι → Request ρ} {act : ι → Prop} {key : ρ → κ}

variable (req act) in
/-- What is so in every run: each request is at some stage, and the table has the rows of
different requests, which are over. -/
structure Inserted (s : Pool ι ρ ε) (ins : List ι) : Prop where
  stage : ∀ i, act i → Stage (req i) (s.progs i)
  idle : ∀ i, ¬act i → Idle (s.progs i)
  table_eq : s.table = ins.map fun i => (req i).row
  nodup : ins.Nodup
  finished : ∀ i ∈ ins, act i ∧ Idle (s.progs i)

/-- A request is never about to insert another row than its own. -/
lemma Inserted.act_of_pending {s : Pool ι ρ ε} {ins : List ι} (h : Inserted req act s ins) {i : ι}
    {r : ρ} {rest : Statements ρ ε} (hi : s.progs i = .insert r rest) :
    act i ∧ s.progs i = .insert (req i).row .done := by
  by_cases hact : act i
  · have hstage := h.stage i hact
    rw [hi] at hstage
    cases hstage with
    | pending => exact ⟨hact, hi⟩
    | checks h => cases h
    | idle h => cases h
  · have hidle := h.idle i hact
    rw [hi] at hidle
    cases hidle

/-- Only a request that comes to insert comes to its check. -/
lemma Inserted.act_of_check {s : Pool ι ρ ε} {ins : List ι} (h : Inserted req act s ins) {i : ι}
    {e : ε} (hi : s.progs i = checkInsert (req i) e) : act i := by
  by_contra hnot
  have hidle := h.idle i hnot
  rw [hi] at hidle
  cases hidle with
  | select h => cases h false

/-- A request about to insert has not inserted yet. -/
lemma Inserted.notMem_of_pending {s : Pool ι ρ ε} {ins : List ι} (h : Inserted req act s ins)
    {i : ι} (hi : s.progs i = .insert (req i).row .done) : i ∉ ins := by
  intro hmem
  have hover := (h.finished i hmem).2
  rw [hi] at hover
  cases hover

/-- At the start nothing is inserted, and nothing is about to be. -/
lemma inserted_start {progs : ι → Statements ρ ε} (hchecks : ∀ i, act i → Checks (req i) (progs i))
    (hidle : ∀ i, ¬act i → Idle (progs i)) : Inserted req act (start progs) [] :=
  ⟨fun i hact => .checks (hchecks i hact), hidle, rfl, List.nodup_nil,
    fun _ hi => absurd hi List.not_mem_nil⟩

lemma ne_insert_start {progs : ι → Statements ρ ε} (hchecks : ∀ i, act i → Checks (req i) (progs i))
    (hidle : ∀ i, ¬act i → Idle (progs i)) (i : ι) : progs i ≠ .insert (req i).row .done := by
  intro hi
  by_cases hact : act i
  · have hcheck := hchecks i hact
    rw [hi] at hcheck
    cases hcheck
  · have hid := hidle i hact
    rw [hi] at hid
    cases hid

variable [DecidableEq ι]

/-- **A step**: the given request executes its next statement. -/
def step (s : Pool ι ρ ε) (i : ι) : Pool ι ρ ε where
  table := ((s.progs i).exec s.table).2
  progs := Function.update s.progs i ((s.progs i).exec s.table).1

@[simp] lemma step_progs_self (s : Pool ι ρ ε) (i : ι) :
    (s.step i).progs i = ((s.progs i).exec s.table).1 := Function.update_self ..

lemma step_progs_of_ne (s : Pool ι ρ ε) {i j : ι} (h : j ≠ i) :
    (s.step i).progs j = s.progs j := Function.update_of_ne h ..

/-- What is to hold of all requests after a step concerns the one that executed a statement and
the others. -/
lemma forall_progs_step {P : ι → Statements ρ ε → Prop} {s : Pool ι ρ ε} {i : ι}
    (hself : P i ((s.progs i).exec s.table).1) (hother : ∀ j, j ≠ i → P j (s.progs j)) :
    ∀ j, P j ((s.step i).progs j) := by
  intro j
  by_cases hji : j = i
  · rw [hji, step_progs_self]
    exact hself
  · rw [s.step_progs_of_ne hji]
    exact hother j hji

/-- The step of a request that is about to insert. -/
lemma Inserted.step_insert {s : Pool ι ρ ε} {ins : List ι} (h : Inserted req act s ins) {i : ι}
    (hi : s.progs i = .insert (req i).row .done) :
    (s.step i).table = s.table ++ [(req i).row] ∧ Inserted req act (s.step i) (ins ++ [i]) := by
  have hact := (h.act_of_pending hi).1
  have hnew := h.notMem_of_pending hi
  have hexec : (s.progs i).exec s.table = (.done, s.table ++ [(req i).row]) := by
    rw [hi]
    rfl
  have htable : (s.step i).table = s.table ++ [(req i).row] := congrArg Prod.snd hexec
  refine ⟨htable,
    forall_progs_step (P := fun j p => act j → Stage (req j) p) ?_ fun j _ => h.stage j,
    forall_progs_step (P := fun j p => ¬act j → Idle p) ?_ fun j _ => h.idle j, ?_, ?_, ?_⟩
  · rw [hexec]
    exact fun _ => .idle .done
  · exact fun hnot => absurd hact hnot
  · rw [htable, h.table_eq, List.map_append, List.map_singleton]
  · refine List.nodup_append.mpr ⟨h.nodup, List.nodup_singleton i, fun a ha b hb => ?_⟩
    rw [List.mem_singleton.mp hb]
    rintro rfl
    exact hnew ha
  · refine forall_progs_step (P := fun j p => j ∈ ins ++ [i] → act j ∧ Idle p) ?_ fun j hji hj => ?_
    · rw [hexec]
      exact fun _ => ⟨hact, .done⟩
    · refine h.finished j ((List.mem_append.mp hj).resolve_right fun hj => ?_)
      exact hji (List.mem_singleton.mp hj)

/-- The step of any other request. -/
lemma Inserted.step_other {s : Pool ι ρ ε} {ins : List ι} (h : Inserted req act s ins) {i : ι}
    (hi : s.progs i ≠ .insert (req i).row .done) :
    (s.step i).table = s.table ∧ Inserted req act (s.step i) ins := by
  have hstage : act i → Stage (req i) ((s.progs i).exec s.table).1 ∧
      ((s.progs i).exec s.table).2 = s.table := fun hact =>
    (((h.stage i hact).exec s.table).resolve_left fun hp => hi hp.1).2
  have hidle : Idle (s.progs i) → Idle ((s.progs i).exec s.table).1 ∧
      ((s.progs i).exec s.table).2 = s.table := fun hidle => hidle.exec s.table
  have htable : (s.step i).table = s.table := by
    by_cases hact : act i
    · exact (hstage hact).2
    · exact (hidle (h.idle i hact)).2
  refine ⟨htable,
    forall_progs_step (P := fun j p => act j → Stage (req j) p) (fun hact => (hstage hact).1)
      fun j _ => h.stage j,
    forall_progs_step (P := fun j p => ¬act j → Idle p) (fun hact => (hidle (h.idle i hact)).1)
      fun j _ => h.idle j,
    htable.trans h.table_eq, h.nodup, ?_⟩
  exact forall_progs_step (P := fun j p => j ∈ ins → act j ∧ Idle p)
    (fun hj => ⟨(h.finished i hj).1, (hidle (h.finished i hj).2).1⟩) fun j _ => h.finished j

/-- The step of any request. -/
lemma Inserted.exists_step {s : Pool ι ρ ε} {ins : List ι} (h : Inserted req act s ins) (i : ι) :
    ∃ ins', Inserted req act (s.step i) ins' := by
  by_cases hi : s.progs i = .insert (req i).row .done
  · exact ⟨_, (h.step_insert hi).2⟩
  · exact ⟨_, (h.step_other hi).2⟩

/-- **Every run** inserts the rows of different requests. -/
theorem exists_inserted {progs : ι → Statements ρ ε}
    (hchecks : ∀ i, act i → Checks (req i) (progs i))
    (hidle : ∀ i, ¬act i → Idle (progs i)) (sched : List ι) :
    ∃ ins, Inserted req act (Runs.run step (start progs) sched) ins := by
  refine Runs.forall_inv_run (fun s => ∃ ins, Inserted req act s ins) ?_ ?_ sched
  · rintro s i ⟨ins, h⟩
    exact h.exists_step i
  · exact ⟨[], inserted_start hchecks hidle⟩

/-! ## All interleavings -/

/-- With an empty table a request comes to its insertion if no other executes a statement. -/
lemma exists_pending {s : Pool ι ρ ε} {i : ι} (htable : s.table = [])
    (hi : Checks (req i) (s.progs i)) :
    ∃ sched, (Runs.run step s sched).table = [] ∧
      (Runs.run step s sched).progs i = .insert (req i).row .done ∧
      ∀ j, j ≠ i → (Runs.run step s sched).progs j = s.progs j := by
  generalize hp : s.progs i = p at hi
  induction hi generalizing s with
  | check e =>
    have hexec : (s.progs i).exec s.table = (.insert (req i).row .done, []) := by
      rw [hp, htable]
      rfl
    refine ⟨[i], congrArg Prod.snd hexec, ?_, fun j hji => s.step_progs_of_ne hji⟩
    rw [Runs.run_cons, Runs.run_nil, step_progs_self, hexec]
  | @other p _ ih =>
    have hexec : (s.progs i).exec s.table = (p, []) := by
      rw [hp, htable]
      rfl
    have hself : (s.step i).progs i = p := by rw [step_progs_self, hexec]
    obtain ⟨sched, htab, hprog, hothers⟩ := ih (s := s.step i) (congrArg Prod.snd hexec) hself
    exact ⟨i :: sched, htab, hprog, fun j hji => (hothers j hji).trans (s.step_progs_of_ne hji)⟩

variable (key) in
/-- **All interleavings**: no interleaving of the requests inserts a key twice just if no two of
them that come to insert have the same key.

**Proof sketch.** Two requests with one key are brought to their insertions one after the other,
and then both insert. Conversely the table has rows of different requests. -/
theorem forall_nodup_iff {progs : ι → Statements ρ ε}
    (hchecks : ∀ i, act i → Checks (req i) (progs i)) (hidle : ∀ i, ¬act i → Idle (progs i)) :
    (∀ sched, ((Runs.run step (start progs) sched).table.map key).Nodup) ↔
      ∀ i j, i ≠ j → act i → act j → key (req i).row ≠ key (req j).row := by
  constructor
  · intro h i j hij hacti hactj hkey
    obtain ⟨sched, htable, hi, hothers⟩ :=
      exists_pending (s := start progs) (i := i) rfl (hchecks i hacti)
    have hj : Checks (req j) ((Runs.run step (start progs) sched).progs j) := by
      rw [hothers j hij.symm]
      exact hchecks j hactj
    obtain ⟨sched', htable', hj', hothers'⟩ := exists_pending htable hj
    have hi' := (hothers' i hij).trans hi
    set s := Runs.run step (Runs.run step (start progs) sched) sched' with hs
    have hrun : Runs.run step (start progs) (sched ++ (sched' ++ [i, j])) = (s.step i).step j := by
      rw [Runs.run_append, Runs.run_append]
      rfl
    have hfirst : (s.step i).table = [(req i).row] := by
      change ((s.progs i).exec s.table).2 = _
      rw [hi', htable']
      rfl
    have hsecond : ((s.step i).step j).table = [(req i).row, (req j).row] := by
      change (((s.step i).progs j).exec (s.step i).table).2 = _
      rw [s.step_progs_of_ne hij.symm, hj', hfirst]
      rfl
    have hnodup := h (sched ++ (sched' ++ [i, j]))
    rw [hrun, hsecond, List.map_cons, List.map_singleton] at hnodup
    simp [hkey] at hnodup
  · intro h sched
    obtain ⟨ins, hins⟩ := exists_inserted hchecks hidle sched
    rw [hins.table_eq, List.map_map]
    refine hins.nodup.map_on fun i hi j hj hkey => ?_
    by_contra hij
    exact h i j hij (hins.finished i hi).1 (hins.finished j hj).1 hkey

/-! ## One interleaving -/

variable (req key) in
/-- **The check is apart**: when the check of a request finds nothing, no row has its key yet, and
no other request is about to insert a row with its key. -/
def Apart (s : Pool ι ρ ε) (i : ι) : Prop :=
  (∃ e, s.progs i = checkInsert (req i) e) → s.table.any (req i).hit = false →
    (∀ r ∈ s.table, key r ≠ key (req i).row) ∧
      ∀ j, s.progs j = .insert (req j).row .done → key (req j).row ≠ key (req i).row

variable (req key) in
/-- The rows that are in the table or about to be inserted have different keys. -/
structure Separate (s : Pool ι ρ ε) : Prop where
  nodup : (s.table.map key).Nodup
  table : ∀ i, s.progs i = .insert (req i).row .done → ∀ r ∈ s.table, key r ≠ key (req i).row
  pending : ∀ i j, i ≠ j → s.progs i = .insert (req i).row .done →
    s.progs j = .insert (req j).row .done →
    key (req i).row ≠ key (req j).row

/-- An insertion keeps the rows separate. -/
lemma Separate.step_insert {s : Pool ι ρ ε} {ins : List ι} (hs : Separate req key s)
    (h : Inserted req act s ins) {i : ι} (hi : s.progs i = .insert (req i).row .done) :
    Separate req key (s.step i) := by
  have htable := (h.step_insert hi).1
  have hself : (s.step i).progs i = .done := by
    rw [step_progs_self, hi]
    rfl
  -- who is about to insert afterwards was so before, and is another request
  have hbefore : ∀ j, (s.step i).progs j = .insert (req j).row .done →
      j ≠ i ∧ s.progs j = .insert (req j).row .done := by
    intro j hj
    have hji : j ≠ i := by
      rintro rfl
      rw [hself] at hj
      cases hj
    exact ⟨hji, (s.step_progs_of_ne hji).symm.trans hj⟩
  refine ⟨?_, fun j hj r hr => ?_, fun j k hjk hj hk => ?_⟩
  · rw [htable, List.map_append, List.map_singleton]
    refine List.nodup_append.mpr ⟨hs.nodup, List.nodup_singleton _, fun k hk l hl => ?_⟩
    obtain ⟨r, hr, rfl⟩ := List.mem_map.mp hk
    rw [List.mem_singleton.mp hl]
    exact hs.table i hi r hr
  · obtain ⟨hji, hj⟩ := hbefore j hj
    rw [htable] at hr
    rcases List.mem_append.mp hr with hr | hr
    · exact hs.table j hj r hr
    · rw [List.mem_singleton.mp hr]
      exact hs.pending i j hji.symm hi hj
  · exact hs.pending j k hjk (hbefore j hj).2 (hbefore k hk).2

/-- Any other statement keeps the rows separate if a check is apart. -/
lemma Separate.step_other {s : Pool ι ρ ε} {ins : List ι} (hs : Separate req key s)
    (h : Inserted req act s ins) {i : ι} (hi : s.progs i ≠ .insert (req i).row .done)
    (hapart : Apart req key s i) : Separate req key (s.step i) := by
  have htable := (h.step_other hi).1
  have hbefore : ∀ j, j ≠ i → (s.step i).progs j = .insert (req j).row .done →
      s.progs j = .insert (req j).row .done := fun j hji hj =>
    (s.step_progs_of_ne hji).symm.trans hj
  -- the request itself comes to its insertion by a check
  have hcheck : (s.step i).progs i = .insert (req i).row .done →
      (∀ r ∈ s.table, key r ≠ key (req i).row) ∧
        ∀ j, s.progs j = .insert (req j).row .done → key (req j).row ≠ key (req i).row := by
    intro hself
    have hact := ((h.step_other hi).2.act_of_pending hself).1
    rw [step_progs_self] at hself
    obtain ⟨hcheck, hnone⟩ := (h.stage i hact).eq_checkInsert_of_exec hi hself
    exact hapart hcheck hnone
  refine ⟨htable ▸ hs.nodup, fun j hj => ?_, fun j k hjk hj hk => ?_⟩
  · rw [htable]
    by_cases hji : j = i
    · subst hji
      exact (hcheck hj).1
    · exact hs.table j (hbefore j hji hj)
  · by_cases hji : j = i
    · subst hji
      exact ((hcheck hj).2 k (hbefore k hjk.symm hk)).symm
    · by_cases hki : k = i
      · subst hki
        exact (hcheck hk).2 j (hbefore j hji hj)
      · exact hs.pending j k hjk (hbefore j hji hj) (hbefore k hki hk)

variable (key) in
/-- **One interleaving**: if all checks of a run are apart, no key is inserted twice. -/
theorem nodup_of_apart {progs : ι → Statements ρ ε}
    (hchecks : ∀ i, act i → Checks (req i) (progs i)) (hidle : ∀ i, ¬act i → Idle (progs i))
    {sched : List ι} (h : Runs.EveryStep step (Apart req key) (start progs) sched) :
    ((Runs.run step (start progs) sched).table.map key).Nodup := by
  have hinv : ∃ ins, Inserted req act (Runs.run step (start progs) sched) ins ∧
      Separate req key (Runs.run step (start progs) sched) := by
    refine Runs.state_inv_run (R := Apart req key)
      (fun s => ∃ ins, Inserted req act s ins ∧ Separate req key s) ?_ ?_ h
    · rintro s i ⟨ins, hins, hs⟩ hapart
      by_cases hi : s.progs i = .insert (req i).row .done
      · exact ⟨_, (hins.step_insert hi).2, hs.step_insert hins hi⟩
      · exact ⟨_, (hins.step_other hi).2, hs.step_other hins hi hapart⟩
    · refine ⟨[], inserted_start hchecks hidle, List.nodup_nil, fun i _ r hr => ?_, ?_⟩
      · cases hr
      · exact fun i _ _ hi _ => absurd hi (ne_insert_start hchecks hidle i)
  obtain ⟨ins, -, hs⟩ := hinv
  exact hs.nodup

variable (req key) in
/-- No other request with the same key is about to insert when a check finds nothing. -/
def NoOverlap (s : Pool ι ρ ε) (i : ι) : Prop :=
  (∃ e, s.progs i = checkInsert (req i) e) → s.table.any (req i).hit = false →
    ∀ j, s.progs j = .insert (req j).row .done → key (req j).row ≠ key (req i).row

variable (key) in
/-- **Checks by the key**: if the checks select the rows with the key of the row to insert, it is
enough that they do not overlap. -/
theorem nodup_of_noOverlap {progs : ι → Statements ρ ε}
    (hchecks : ∀ i, act i → Checks (req i) (progs i)) (hidle : ∀ i, ¬act i → Idle (progs i))
    (hhit : ∀ i j, act i → act j → key (req j).row = key (req i).row →
      (req i).hit (req j).row = true)
    {sched : List ι} (h : Runs.EveryStep step (NoOverlap req key) (start progs) sched) :
    ((Runs.run step (start progs) sched).table.map key).Nodup := by
  refine nodup_of_apart key hchecks hidle ?_
  refine Runs.everyStep_of_inv (fun s _ => ∃ ins, Inserted req act s ins) ?_ ?_
    ⟨[], inserted_start hchecks hidle⟩ h
  · rintro s i _ ⟨ins, hins⟩ -
    exact hins.exists_step i
  · rintro s i _ ⟨ins, hins⟩ hno hcheck hnone
    refine ⟨fun r hr hkey => ?_, hno hcheck hnone⟩
    obtain ⟨e, hi⟩ := hcheck
    have hact := hins.act_of_check hi
    rw [hins.table_eq] at hr
    obtain ⟨j, hj, rfl⟩ := List.mem_map.mp hr
    have hfound := hhit i j hact (hins.finished j hj).1 hkey
    have hany := List.any_eq_false.mp hnone _ (hins.table_eq ▸ hr)
    exact hany hfound

end Requests

end Statements.Pool
