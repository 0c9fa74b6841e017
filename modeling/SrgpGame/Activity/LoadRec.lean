import SrgpGame.Activity.Records
import SrgpGame.Lib.Runs

set_option autoImplicit false

/-!
# Loading the records of players and guilds

The rows of a player or a guild are sorted into a map from activities to records. A record that is
missing in the map is made, and then the activity refers to it too: what was the record of the
server is lost, and the new one is shared with the player or guild.

## Main definitions

* `Server` — the records as objects, and who refers to which.
* `loadActivityRec` — the method of `ActivityBOImpl`.
* `LoadEvent` — what happens to the maps of players and guilds.
* `LoadsOnly` — what is wanted of a load.
* `Separate` — nobody refers to the record of another.

## Main results

* `separate_step` — what is separate stays so if no load has to make a record.
* `loadActivityRec_iff` — a load changes only the given map just if it has to make no record.

## Design notes

An object of the class `ActivityRecVO` is an element of a list, and a reference to it is its index.
Of an activity only the reference to its record is read or changed.
-/

namespace SrgpGame.Activity

open Runs

/-! ## Objects and references -/

/-- Who has records of his own: a player or a guild. -/
inductive Holder where
  | player (pid : Int32)
  | guild (id : Int32)
  deriving DecidableEq, Repr

/-- **The records as objects**, the activities with the records that they refer to, the maps of the
players and guilds, and the rows in the store. -/
structure Server where
  heap : List ActivityRecVO
  /-- `CacheActivity`: the cached activities, and the record of each if it refers to one. -/
  activities : String → Option (Option ℕ)
  /-- `getActivityRecs` of each player and guild. -/
  activityRecs : Holder → String → Option ℕ
  condRows : AList fun _ : Int32 => ActivityCondRecVO
  bevRows : AList fun _ : Int32 => ActivityBevRecVO

namespace Server

variable (server : Server)

/-- The activity is cached. -/
def Known (actId : String) : Prop := (server.activities actId).isSome

instance (actId : String) : Decidable (server.Known actId) :=
  inferInstanceAs (Decidable ((server.activities actId).isSome = true))

/-- The record of the server. -/
def recVO (actId : String) : Option ℕ := (server.activities actId).join

/-- `put` into the map of a holder. -/
def putRecord (holder : Holder) (actId : String) (ref : ℕ) : Server :=
  { server with activityRecs := fun h id =>
      if h = holder ∧ id = actId then some ref else server.activityRecs h id }

/-- `new ActivityRecVO`. -/
def alloc : Server := { server with heap := server.heap ++ [{}] }

/-- `setRecVO`. -/
def setRecVO (actId : String) (ref : ℕ) : Server :=
  { server with activities := fun id =>
      if id = actId then some (some ref) else server.activities id }

/-- A method of the object that `ref` refers to. -/
def onRecord (ref : ℕ) (f : ActivityRecVO → ActivityRecVO) : Server :=
  { server with heap := server.heap.modify ref f }

end Server

/-! ## The loader -/

/-- A round of the loader: the row goes to the record of its activity. A missing record is made, for
the map and for the activity. -/
def loadRow {row : Type} (activityId : row → String) (add : row → ActivityRecVO → ActivityRecVO)
    (holder : Holder) (server : Server) (r : row) : Server :=
  if server.Known (activityId r) then
    match server.activityRecs holder (activityId r) with
    | some ref => server.onRecord ref (add r)
    | none =>
      let ref := server.heap.length
      (((server.alloc.setRecVO (activityId r) ref).putRecord holder (activityId r) ref).onRecord ref
        (add r))
  else server

/-- The rows of activities that are not known are deleted. -/
def deleteRows {row : Type} (id : row → Int32) (activityId : row → String) (server : Server)
    (rows : List row) (table : AList fun _ : Int32 => row) : AList fun _ : Int32 => row :=
  let unknown := rows.filter fun r => ¬server.Known (activityId r)
  unknown.foldl (fun table r => table.erase (id r)) table

/-- The loop over the rows of conditions. -/
def loadConds (holder : Holder) (condRecs : List ActivityCondRecVO) (server : Server) : Server :=
  let loaded := condRecs.foldl
    (loadRow ActivityCondRecVO.activityId ActivityRecVO.addCondRecVO holder) server
  let condRows :=
    deleteRows ActivityCondRecVO.id ActivityCondRecVO.activityId loaded condRecs loaded.condRows
  { loaded with condRows := condRows }

/-- The loop over the rows of behaviours. -/
def loadBevs (holder : Holder) (bevRecs : List ActivityBevRecVO) (server : Server) : Server :=
  let loaded := bevRecs.foldl
    (loadRow ActivityBevRecVO.activityId ActivityRecVO.addBevRecVO holder) server
  let bevRows :=
    deleteRows ActivityBevRecVO.id ActivityBevRecVO.activityId loaded bevRecs loaded.bevRows
  { loaded with bevRows := bevRows }

/-- **`loadActivityRec`** for the map of a holder. Both lists of rows may be missing. -/
def loadActivityRec (holder : Holder) (condRecs : Option (List ActivityCondRecVO))
    (bevRecs : Option (List ActivityBevRecVO)) (server : Server) : Server :=
  bevRecs.elim id (loadBevs holder) (condRecs.elim id (loadConds holder) server)

/-! ## Runs -/

/-- What happens to the maps of players and guilds. -/
inductive LoadEvent where
  /-- Rows are loaded into the map of a player or a guild. -/
  | load (holder : Holder) (condRecs : Option (List ActivityCondRecVO))
      (bevRecs : Option (List ActivityBevRecVO))
  /-- A player or a guild comes into memory, with an empty map. -/
  | enter (holder : Holder)
  /-- `newCondRecVO` and `newBevRecVO` of a scope: a record is used, and made if it is missing. -/
  | use (holder : Holder) (actId : String) (f : ActivityRecVO → ActivityRecVO)

/-- The state after an event. -/
def Server.after (server : Server) : LoadEvent → Server
  | .load holder condRecs bevRecs => loadActivityRec holder condRecs bevRecs server
  | .enter holder =>
    { server with activityRecs := fun h id =>
      if h = holder then none else server.activityRecs h id }
  | .use holder actId f =>
    match server.activityRecs holder actId with
    | some ref => server.onRecord ref f
    | none =>
      (server.alloc.putRecord holder actId server.heap.length).onRecord server.heap.length f

/-- The activities that the rows of an event name, with the holder whose rows they are. -/
def LoadEvent.names : LoadEvent → List (Holder × String)
  | .load holder condRecs bevRecs =>
    ((condRecs.getD []).map ActivityCondRecVO.activityId ++
      (bevRecs.getD []).map ActivityBevRecVO.activityId).map (holder, ·)
  | .enter _ => []
  | .use _ _ _ => []

/-- **No record is missing**: the holder has a record of every known activity that a row names. -/
def NoMissing (server : Server) (event : LoadEvent) : Prop :=
  ∀ name ∈ event.names, server.Known name.2 → (server.activityRecs name.1 name.2).isSome

/-- A row of the list is of an activity that is not known, and has this id. -/
def Unknown {row : Type} (id : row → Int32) (activityId : row → String) (server : Server)
    (rows : Option (List row)) (rowId : Int32) : Prop :=
  ∃ r ∈ rows.getD [], id r = rowId ∧ ¬server.Known (activityId r)

/-- **The part of the server that a load is to leave**: every activity refers to the same record
with the same content, and so does every other player and guild. -/
structure Frame (holder : Holder) (server server' : Server) : Prop where
  activities : server'.activities = server.activities
  content : ∀ actId ref, server.recVO actId = some ref → server'.heap[ref]? = server.heap[ref]?
  others : ∀ other ≠ holder, server'.activityRecs other = server.activityRecs other
  othersContent : ∀ other ≠ holder, ∀ actId ref, server.activityRecs other actId = some ref →
    server'.heap[ref]? = server.heap[ref]?

/-- **What is wanted of a load**: it changes only the given map, and deletes the rows of unknown
activities. -/
structure LoadsOnly (holder : Holder) (condRecs : Option (List ActivityCondRecVO))
    (bevRecs : Option (List ActivityBevRecVO)) (server server' : Server) : Prop
    extends Frame holder server server' where
  condRows : ∀ id, (server'.condRows.lookup id).isSome ↔ (server.condRows.lookup id).isSome ∧
    ¬Unknown ActivityCondRecVO.id ActivityCondRecVO.activityId server condRecs id
  bevRows : ∀ id, (server'.bevRows.lookup id).isSome ↔ (server.bevRows.lookup id).isSome ∧
    ¬Unknown ActivityBevRecVO.id ActivityBevRecVO.activityId server bevRecs id

/-- Every load among the events is to change only its own map. -/
def LoadRight (server : Server) (event : LoadEvent) : Prop :=
  ∀ holder condRecs bevRecs, event = .load holder condRecs bevRecs →
    LoadsOnly holder condRecs bevRecs server (server.after event)

/-- **Nobody refers to the record of another**: neither an activity to that of a holder, nor a
holder to that of another holder. All references are to objects. -/
structure Separate (server : Server) : Prop where
  serverBound : ∀ actId ref, server.recVO actId = some ref → ref < server.heap.length
  bound : ∀ holder actId ref, server.activityRecs holder actId = some ref → ref < server.heap.length
  apart : ∀ holder actId ref actId', server.activityRecs holder actId = some ref →
    server.recVO actId' ≠ some ref
  holders : ∀ holder other, holder ≠ other → ∀ actId ref actId',
    server.activityRecs holder actId = some ref → server.activityRecs other actId' ≠ some ref

/-- **A server that just started**: the maps are empty, and an activity refers to an object or to
none. -/
def Server.start (heap : List ActivityRecVO)
    (activities : String → Option (Option (Fin heap.length)))
    (condRows : AList fun _ : Int32 => ActivityCondRecVO)
    (bevRows : AList fun _ : Int32 => ActivityBevRecVO) : Server where
  heap := heap
  activities actId := (activities actId).map fun ref => ref.map Fin.val
  activityRecs _ _ := none
  condRows := condRows
  bevRows := bevRows

lemma separate_start (heap : List ActivityRecVO)
    (activities : String → Option (Option (Fin heap.length)))
    (condRows : AList fun _ : Int32 => ActivityCondRecVO)
    (bevRows : AList fun _ : Int32 => ActivityBevRecVO) :
    Separate (.start heap activities condRows bevRows) where
  serverBound actId ref h := by
    simp only [Server.recVO, Server.start] at h
    cases hact : activities actId with
    | none => simp [hact] at h
    | some opt =>
      cases opt with
      | none => simp [hact] at h
      | some ref' =>
        obtain rfl : ref'.val = ref := by simpa [hact] using h
        exact ref'.isLt
  bound _ _ _ h := by cases h
  apart _ _ _ _ h := by cases h
  holders _ _ _ _ _ _ h := by cases h

/-! ## One row -/

section Row

variable {holder : Holder} {server server' server'' : Server}

lemma Frame.refl : Frame holder server server :=
  ⟨rfl, fun _ _ _ => rfl, fun _ _ => rfl, fun _ _ _ _ _ => rfl⟩

lemma Frame.trans (h : Frame holder server server') (h' : Frame holder server' server'') :
    Frame holder server server'' where
  activities := h'.activities.trans h.activities
  content actId ref href := by
    refine (h'.content actId ref ?_).trans (h.content actId ref href)
    rw [Server.recVO, h.activities]
    exact href
  others other hne := (h'.others other hne).trans (h.others other hne)
  othersContent other hne actId ref href := by
    refine (h'.othersContent other hne actId ref ?_).trans
      (h.othersContent other hne actId ref href)
    rw [h.others other hne]
    exact href

/-- **A change of a record of the holder** leaves the records of all others. -/
lemma frame_onRecord (hsep : Separate server) {actId : String} {ref : ℕ}
    (href : server.activityRecs holder actId = some ref) (f : ActivityRecVO → ActivityRecVO) :
    Frame holder server (server.onRecord ref f) where
  activities := rfl
  content actId' ref' href' := by
    have hne : ref ≠ ref' := by
      rintro rfl
      exact hsep.apart _ _ _ _ href href'
    simp [Server.onRecord, hne]
  others _ _ := rfl
  othersContent other hother actId' ref' href' := by
    have hne : ref ≠ ref' := by
      rintro rfl
      exact hsep.holders _ _ hother.symm _ _ _ href href'
    simp [Server.onRecord, hne]

/-- A change of a record leaves everybody separate. -/
lemma Separate.onRecord (hsep : Separate server) (ref : ℕ) (f : ActivityRecVO → ActivityRecVO) :
    Separate (server.onRecord ref f) where
  serverBound actId ref' h := by
    simpa [Server.onRecord] using hsep.serverBound actId ref' h
  bound h actId ref' href := by
    simpa [Server.onRecord] using hsep.bound h actId ref' href
  apart := hsep.apart
  holders := hsep.holders

end Row

/-! ## Many rows -/

section Rows

variable {row : Type} {activityId : row → String} {add : row → ActivityRecVO → ActivityRecVO}
  {holder : Holder} {server : Server} {r : row} {rows : List row}

/-- A record is missing for one of the rows. -/
def Missing (activityId : row → String) (holder : Holder) (server : Server) (rows : List row) :
    Prop :=
  ∃ r ∈ rows, server.Known (activityId r) ∧ server.activityRecs holder (activityId r) = none

variable (add) in
/-- A row whose record is not missing changes this record, or nothing. -/
lemma loadRow_of_not_missing (h : ¬Missing activityId holder server [r]) :
    loadRow activityId add holder server r = server ∨
      ∃ ref, server.activityRecs holder (activityId r) = some ref ∧
        loadRow activityId add holder server r = server.onRecord ref (add r) := by
  unfold loadRow
  by_cases hknown : server.Known (activityId r)
  · rw [if_pos hknown]
    cases href : server.activityRecs holder (activityId r) with
    | none => exact absurd ⟨r, List.mem_singleton_self r, hknown, href⟩ h
    | some ref => exact .inr ⟨ref, rfl, rfl⟩
  · exact .inl (if_neg hknown)

variable (add) in
/-- **Rows whose records are not missing** change records of the holder only. -/
lemma foldl_loadRow (hsep : Separate server) (h : ¬Missing activityId holder server rows) :
    let loaded := rows.foldl (loadRow activityId add holder) server
    Frame holder server loaded ∧ Separate loaded ∧ loaded.heap.length = server.heap.length ∧
      loaded.activityRecs = server.activityRecs ∧ loaded.condRows = server.condRows ∧
      loaded.bevRows = server.bevRows := by
  induction rows generalizing server with
  | nil => exact ⟨.refl, hsep, rfl, rfl, rfl, rfl⟩
  | cons r rows ih =>
    have hhead : ¬Missing activityId holder server [r] := by
      rintro ⟨r', hr', hmissing⟩
      rw [List.mem_singleton] at hr'
      exact h ⟨r', hr' ▸ List.mem_cons_self, hmissing⟩
    have htail : ¬Missing activityId holder server rows := by
      rintro ⟨r', hr', hmissing⟩
      exact h ⟨r', List.mem_cons_of_mem r hr', hmissing⟩
    rw [List.foldl_cons]
    rcases loadRow_of_not_missing add hhead with hload | ⟨ref, href, hload⟩
    · rw [hload]
      exact ih hsep htail
    · rw [hload]
      obtain ⟨hframe, hsep', hlength, hrest⟩ := ih (hsep.onRecord ref (add r)) htail
      exact ⟨(frame_onRecord hsep href (add r)).trans hframe, hsep',
        hlength.trans (List.length_modify _ _ _), hrest⟩

/-- An activity refers to an object that came later than the first `n`. -/
def Moved (n : ℕ) (server : Server) : Prop :=
  n ≤ server.heap.length ∧ ∃ actId ref, server.recVO actId = some ref ∧ n ≤ ref

/-- What has moved does not come back. -/
lemma Moved.loadRow {n : ℕ} (h : Moved n server) :
    Moved n (loadRow activityId add holder server r) := by
  obtain ⟨hn, actId, ref, href, hle⟩ := h
  unfold Activity.loadRow
  split
  · cases hrec : server.activityRecs holder (activityId r) with
    | some ref' =>
      refine ⟨?_, actId, ref, href, hle⟩
      simpa [Server.onRecord] using hn
    | none =>
      refine ⟨?_, activityId r, server.heap.length, ?_, hn⟩
      · simp [Server.onRecord, Server.putRecord, Server.setRecVO, Server.alloc]
        omega
      · simp [Server.recVO, Server.onRecord, Server.putRecord, Server.setRecVO]
  · exact ⟨hn, actId, ref, href, hle⟩

variable (add) in
lemma Moved.foldl {n : ℕ} (h : Moved n server) :
    Moved n (rows.foldl (Activity.loadRow activityId add holder) server) := by
  induction rows generalizing server with
  | nil => exact h
  | cons r rows ih => exact ih h.loadRow

variable (add) in
/-- **A missing record** moves the record of the server. -/
lemma moved_foldl (h : Missing activityId holder server rows) :
    Moved server.heap.length (rows.foldl (Activity.loadRow activityId add holder) server) := by
  induction rows generalizing server with
  | nil =>
    obtain ⟨r, hr, -⟩ := h
    exact absurd hr List.not_mem_nil
  | cons r rows ih =>
    rw [List.foldl_cons]
    by_cases hhead : Missing activityId holder server [r]
    · obtain ⟨r', hr', hknown, hnone⟩ := hhead
      obtain rfl : r' = r := by simpa using hr'
      refine Moved.foldl add ⟨?_, activityId r', server.heap.length, ?_, le_rfl⟩
      · simp [loadRow, hknown, hnone, Server.onRecord, Server.putRecord, Server.setRecVO,
          Server.alloc]
      · simp [loadRow, hknown, hnone, Server.recVO, Server.onRecord, Server.putRecord,
          Server.setRecVO]
    · have htail : Missing activityId holder server rows := by
        obtain ⟨r', hr', hmissing⟩ := h
        rcases List.mem_cons.mp hr' with rfl | hmem
        · exact absurd ⟨r', List.mem_singleton_self r', hmissing⟩ hhead
        · exact ⟨r', hmem, hmissing⟩
      rcases loadRow_of_not_missing add hhead with hload | ⟨ref, -, hload⟩
      · rw [hload]
        exact ih htail
      · rw [hload]
        have hmoved := @ih (server.onRecord ref (add r)) htail
        simpa [Server.onRecord] using hmoved

/-- **The rows that are left** in the store. -/
lemma isSome_lookup_deleteRows {id : row → Int32} (table : AList fun _ : Int32 => row)
    (rowId : Int32) :
    ((deleteRows id activityId server rows table).lookup rowId).isSome ↔
      (table.lookup rowId).isSome ∧ ¬Unknown id activityId server (some rows) rowId := by
  unfold deleteRows Unknown
  induction rows generalizing table with
  | nil => simp
  | cons r rows ih =>
    by_cases hknown : server.Known (activityId r)
    · rw [List.filter_cons_of_neg (by simpa using hknown), ih]
      simp [hknown]
    · rw [List.filter_cons_of_pos (by simpa using hknown), List.foldl_cons, ih,
        AList.lookup_erase_ite]
      by_cases hid : rowId = id r
      · simp [hid, hknown]
      · simp [hid, Ne.symm hid]

end Rows

/-! ## Whole loads -/

section Loads

variable {holder : Holder} {server server' : Server}
  {condRecs : Option (List ActivityCondRecVO)} {bevRecs : Option (List ActivityBevRecVO)}

/-- A list of rows that is missing is as good as an empty one. -/
lemma loadActivityRec_eq :
    loadActivityRec holder condRecs bevRecs server =
      loadBevs holder (bevRecs.getD []) (loadConds holder (condRecs.getD []) server) := by
  cases condRecs <;> cases bevRecs <;> rfl

/-- Separation depends on the references only. -/
lemma Separate.congr (hsep : Separate server) (hheap : server'.heap.length = server.heap.length)
    (hact : server'.activities = server.activities)
    (hrecs : server'.activityRecs = server.activityRecs) : Separate server' := by
  have hrecVO : server'.recVO = server.recVO := by
    funext actId
    rw [Server.recVO, Server.recVO, hact]
  constructor
  · rw [hrecVO, hheap]
    exact hsep.serverBound
  · rw [hrecs, hheap]
    exact hsep.bound
  · rw [hrecs, hrecVO]
    exact hsep.apart
  · rw [hrecs]
    exact hsep.holders

lemma missing_congr {row : Type} {activityId : row → String} {rows : List row}
    (hact : server'.activities = server.activities)
    (hrecs : server'.activityRecs = server.activityRecs) :
    Missing activityId holder server' rows ↔ Missing activityId holder server rows := by
  unfold Missing Server.Known
  rw [hact, hrecs]

lemma unknown_congr {row : Type} {id : row → Int32} {activityId : row → String} {rows : List row}
    (hact : server'.activities = server.activities) (rowId : Int32) :
    Unknown id activityId server' (some rows) rowId ↔
      Unknown id activityId server (some rows) rowId := by
  unfold Unknown Server.Known
  rw [hact]

/-- Whether a record is missing, for both kinds of rows. -/
lemma noMissing_load_iff :
    NoMissing server (.load holder condRecs bevRecs) ↔
      ¬Missing ActivityCondRecVO.activityId holder server (condRecs.getD []) ∧
        ¬Missing ActivityBevRecVO.activityId holder server (bevRecs.getD []) := by
  unfold NoMissing Missing LoadEvent.names
  simp only [List.mem_map, List.mem_append, Option.isSome_iff_ne_none]
  constructor
  · intro h
    constructor
    · rintro ⟨r, hr, hknown, hnone⟩
      exact h (holder, r.activityId) ⟨_, .inl ⟨r, hr, rfl⟩, rfl⟩ hknown hnone
    · rintro ⟨r, hr, hknown, hnone⟩
      exact h (holder, r.activityId) ⟨_, .inr ⟨r, hr, rfl⟩, rfl⟩ hknown hnone
  · rintro ⟨hconds, hbevs⟩ name ⟨actId, ⟨r, hr, rfl⟩ | ⟨r, hr, rfl⟩, rfl⟩ hknown hnone
    · exact hconds ⟨r, hr, hknown, hnone⟩
    · exact hbevs ⟨r, hr, hknown, hnone⟩

/-- **A load without a missing record** does what is wanted, and leaves everybody separate. -/
lemma loadsOnly_of_noMissing (hsep : Separate server)
    (h : NoMissing server (.load holder condRecs bevRecs)) :
    LoadsOnly holder condRecs bevRecs server (loadActivityRec holder condRecs bevRecs server) ∧
      Separate (loadActivityRec holder condRecs bevRecs server) := by
  obtain ⟨hconds, hbevs⟩ := noMissing_load_iff.mp h
  rw [loadActivityRec_eq]
  obtain ⟨hframe, hsep', -, hrecs, hcondRows, hbevRows⟩ :=
    foldl_loadRow ActivityRecVO.addCondRecVO hsep hconds
  have hact₁ : (loadConds holder (condRecs.getD []) server).activities = server.activities :=
    hframe.activities
  have hrecs₁ : (loadConds holder (condRecs.getD []) server).activityRecs = server.activityRecs :=
    hrecs
  have hsep₁ : Separate (loadConds holder (condRecs.getD []) server) := hsep'.congr rfl rfl rfl
  obtain ⟨hframe₂, hsep₂, -, -, hcondRows₂, hbevRows₂⟩ :=
    foldl_loadRow ActivityRecVO.addBevRecVO hsep₁
      (mt (missing_congr hact₁ hrecs₁).mp hbevs)
  have hframe₁ : Frame holder server (loadConds holder (condRecs.getD []) server) :=
    ⟨hframe.activities, hframe.content, hframe.others, hframe.othersContent⟩
  have hframe' := hframe₁.trans hframe₂
  refine ⟨⟨⟨hframe'.activities, hframe'.content, hframe'.others, hframe'.othersContent⟩, ?_, ?_⟩,
    hsep₂.congr rfl rfl rfl⟩
  · intro id
    have hlookup : (loadBevs holder (bevRecs.getD [])
        (loadConds holder (condRecs.getD []) server)).condRows =
        (loadConds holder (condRecs.getD []) server).condRows := hcondRows₂
    rw [hlookup]
    refine (isSome_lookup_deleteRows _ id).trans ?_
    rw [hcondRows, unknown_congr hframe.activities]
    rfl
  · intro id
    refine (isSome_lookup_deleteRows _ id).trans ?_
    rw [hbevRows₂, unknown_congr hframe'.activities,
      show (loadConds holder (condRecs.getD []) server).bevRows = server.bevRows from hbevRows]
    rfl

/-- **A load with a missing record** changes the record of an activity. -/
lemma not_loadsOnly_of_missing (hsep : Separate server)
    (h : ¬NoMissing server (.load holder condRecs bevRecs)) :
    ¬LoadsOnly holder condRecs bevRecs server
      (loadActivityRec holder condRecs bevRecs server) := by
  intro hloads
  have hact := hloads.activities
  rw [loadActivityRec_eq] at hact
  have hmoved : Moved server.heap.length
      (loadBevs holder (bevRecs.getD []) (loadConds holder (condRecs.getD []) server)) := by
    by_cases hconds : Missing ActivityCondRecVO.activityId holder server (condRecs.getD [])
    · have hmoved := moved_foldl ActivityRecVO.addCondRecVO hconds
      have hmoved₁ : Moved server.heap.length (loadConds holder (condRecs.getD []) server) := hmoved
      exact hmoved₁.foldl ActivityRecVO.addBevRecVO
    · have hbevs : Missing ActivityBevRecVO.activityId holder server (bevRecs.getD []) := by
        by_contra hbevs
        exact h (noMissing_load_iff.mpr ⟨hconds, hbevs⟩)
      obtain ⟨hframe, -, hlength, hrecs, -⟩ :=
        foldl_loadRow ActivityRecVO.addCondRecVO hsep hconds
      have hact₁ : (loadConds holder (condRecs.getD []) server).activities = server.activities :=
        hframe.activities
      have hmissing : Missing ActivityBevRecVO.activityId holder _ (bevRecs.getD []) :=
        (missing_congr hact₁ hrecs).mpr hbevs
      have hmoved := moved_foldl ActivityRecVO.addBevRecVO hmissing
      rw [show (loadConds holder (condRecs.getD []) server).heap.length = server.heap.length from
        hlength] at hmoved
      exact hmoved
  obtain ⟨-, actId, ref, href, hle⟩ := hmoved
  rw [Server.recVO, hact] at href
  exact absurd (hsep.serverBound actId ref href) (by omega)

end Loads

/-! ## Runs -/

section Runs

variable {server : Server} {event : LoadEvent}

/-- A record that is made for a holder is nobody else's. -/
lemma Separate.putRecord (hsep : Separate server) (holder : Holder) (actId : String) :
    Separate (server.alloc.putRecord holder actId server.heap.length) where
  serverBound id ref href := by
    have hlt := hsep.serverBound id ref href
    simp only [Server.putRecord, Server.alloc, List.length_append, List.length_singleton]
    omega
  bound h id ref href := by
    simp only [Server.putRecord, Server.alloc, List.length_append, List.length_singleton] at href ⊢
    split at href
    · obtain rfl := Option.some.inj href
      omega
    · have hlt := hsep.bound h id ref href
      omega
  apart h id ref id' href hserver := by
    have hlt := hsep.serverBound id' ref hserver
    simp only [Server.putRecord, Server.alloc] at href
    split at href
    · obtain rfl := Option.some.inj href
      omega
    · exact hsep.apart h id ref id' href hserver
  holders h other hne id ref id' href hother := by
    simp only [Server.putRecord, Server.alloc] at href hother
    split at href
    · next hh =>
      obtain rfl := Option.some.inj href
      rw [if_neg fun ho => hne (hh.1.trans ho.1.symm)] at hother
      have hlt := hsep.bound other id' _ hother
      omega
    · split at hother
      · obtain rfl := Option.some.inj hother
        have hlt := hsep.bound h id _ href
        omega
      · exact hsep.holders h other hne id ref id' href hother

/-- **What is separate stays separate** if no record is missing. -/
lemma separate_step (hsep : Separate server) (h : NoMissing server event) :
    Separate (server.after event) := by
  cases event with
  | load holder condRecs bevRecs => exact (loadsOnly_of_noMissing hsep h).2
  | enter holder =>
    constructor
    · exact hsep.serverBound
    · intro h id ref href
      simp only [Server.after] at href
      split at href
      · cases href
      · exact hsep.bound h id ref href
    · intro h id ref id' href
      simp only [Server.after] at href
      split at href
      · cases href
      · exact hsep.apart h id ref id' href
    · intro h other hne id ref id' href hother
      simp only [Server.after] at href hother
      split at href
      · cases href
      · split at hother
        · cases hother
        · exact hsep.holders h other hne id ref id' href hother
  | use holder actId f =>
    simp only [Server.after]
    split
    · exact hsep.onRecord _ f
    · exact (hsep.putRecord holder actId).onRecord _ f

/-- A load is right just if no record is missing. -/
lemma loadRight_iff (hsep : Separate server) : LoadRight server event ↔ NoMissing server event := by
  constructor
  · intro hright
    cases event with
    | load holder condRecs bevRecs =>
      by_contra hmissing
      exact not_loadsOnly_of_missing hsep hmissing (hright holder condRecs bevRecs rfl)
    | enter holder => exact fun name hname => absurd hname List.not_mem_nil
    | use holder actId f => exact fun name hname => absurd hname List.not_mem_nil
  · rintro hno holder condRecs bevRecs rfl
    exact (loadsOnly_of_noMissing hsep hno).1

/-- **When loads change only the given maps.** In a run of a server that just started, whatever
players and guilds come into memory and in whatever order, every load leaves the records of the
server and of all others just if no load comes to a row of a known activity of which the given map
has no record. -/
theorem loadActivityRec_iff (heap : List ActivityRecVO)
    (activities : String → Option (Option (Fin heap.length)))
    (condRows : AList fun _ : Int32 => ActivityCondRecVO)
    (bevRows : AList fun _ : Int32 => ActivityBevRecVO) (events : List LoadEvent) :
    EveryStep Server.after LoadRight (.start heap activities condRows bevRows) events ↔
      EveryStep Server.after NoMissing (.start heap activities condRows bevRows) events :=
  everyStep_congr (fun server _ => Separate server) (fun _ _ _ hsep h => separate_step hsep h)
    (fun _ _ _ hsep => loadRight_iff hsep) (separate_start heap activities condRows bevRows)

/-- The row of a player for the activity "1". -/
def oneRow : ActivityCondRecVO where
  id := 1
  activityId := "1"
  group := 1
  index := 1
  finishData := 3
  refTime := 0

/-- **A player logs in** with a row of the activity "1", which has a record of the server: it is
replaced by that of the player. -/
theorem login_replaces_record :
    ¬∀ (heap : List ActivityRecVO) (activities : String → Option (Option (Fin heap.length)))
      (condRows : AList fun _ : Int32 => ActivityCondRecVO)
      (bevRows : AList fun _ : Int32 => ActivityBevRecVO) (events : List LoadEvent),
      EveryStep Server.after LoadRight (.start heap activities condRows bevRows) events := by
  intro hall
  obtain ⟨hright, -⟩ := hall [{}] (fun actId => if actId = "1" then some (some 0) else none) ∅ ∅
    [.load (.player 1) (some [oneRow]) none]
  have hact := (hright (.player 1) (some [oneRow]) none rfl).activities
  have hrefs : (some (some 1) : Option (Option ℕ)) = some (some 0) := congrFun hact "1"
  exact absurd hrefs (by decide)

end Runs

end SrgpGame.Activity
