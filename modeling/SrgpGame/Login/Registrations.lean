import SrgpGame.Login.Account
import Mathlib.Data.List.Nodup

set_option autoImplicit false

/-!
# Do registrations leave the tables in order?

A registration that throws should have registered nothing; an account should have at most one name,
and a name of a type should belong to one account. This file says for which sequences of
registrations that is so.

## Main definitions

* `ThrowsClean` — a registration that throws leaves the tables as they were.
* `NamesUnique` — no name of a type and no account occurs twice in `account_other`.
* `NoLateFailure` — the condition on a registration.

## Main results

* `throwsClean_iff` — one registration.
* `namesUnique_run` — names and accounts are unique in every run.
* `registrations_iff` — whole runs.
-/

namespace SrgpGame.Login

open EStateM

variable {env : Env} {db : Database} {msg : RegisterMsg} {id : String} {name : Option String}
  {pwd : Option (List UInt16)} {type : Int32} {time : Int64} {index : ℕ}

/-! ## What should hold -/

/-- The tables have the same rows. -/
def SameTables (db db' : Database) : Prop :=
  db'.accountData = db.accountData ∧ db'.accountOther = db.accountOther ∧
    db'.notCertified = db.notCertified

/-- A method that throws leaves the tables as they were. -/
def Clean {α : Type} (x : EStateM RegisterError Database α) (db : Database) : Prop :=
  ∀ e db', x.run db = .error e db' → SameTables db db'

/-- **A registration that throws leaves the tables as they were.** -/
def ThrowsClean (env : Env) (db : Database) (msg : RegisterMsg) : Prop :=
  Clean (register env msg) db

/-- **Names and accounts are unique**: no account and type, and no account id, is in two rows of
`account_other`. -/
def NamesUnique (env : Env) (db : Database) : Prop :=
  (db.accountOther.map fun row => (env.collate row.account, row.type)).Nodup ∧
    (db.accountOther.map AccountOther.aId).Nodup

/-- **The condition on a registration** with a name. A new account, if its first row is inserted,
has an id that no account has, a mail address for a name if its type is 2, and rows that all fit;
and a mail address that is bound to an account fits into both tables it is inserted into, or not
into the first one. -/
def NoLateFailure (env : Env) (db : Database) (msg : RegisterMsg) : Prop :=
  ∀ type name, msg.accountType = some type → msg.name = some name →
    (msg.binding = true → ∀ index, checkBinding env msg.accountId (some name) type db = .ok index →
      env.fitsAccount name = true → type = 2 → env.fitsCertified name = true) ∧
    (msg.binding = false → getAccountForName env (some name) type db = [] →
      env.fitsUid (createAccountId type msg) = true →
        getAid env (createAccountId type msg) db = [] ∧ env.fitsAccount name = true ∧
          (type = 2 → isMail name = true ∧ env.fitsCertified name = true))

/-! ## What the insertions do -/

/-- The database after `ADD_ACCOUNT`. -/
def withAccount (uid : String) (time : Int64) (db : Database) : Database :=
  { db with
    accountData := db.accountData ++ [⟨db.lastData + 1, uid, time, "0"⟩]
    lastData := db.lastData + 1 }

/-- The database after `ADD_ACCOUNT_OTHER`. -/
def withName (index : ℕ) (type : Int32) (name : String) (pwd : Option (List UInt16))
    (time : Int64) (db : Database) : Database :=
  { db with
    accountOther := db.accountOther ++ [⟨db.lastOther + 1, index, type, name, pwd, time⟩]
    lastOther := db.lastOther + 1 }

/-- The database after `ADD_NOT_CERTIFIED`. -/
def withCertified (name : String) (db : Database) : Database :=
  { db with
    notCertified := db.notCertified ++ [⟨db.lastCertified + 1, name⟩]
    lastCertified := db.lastCertified + 1 }

lemma run_addAccount (env : Env) (uid : String) (time : Int64) (db : Database) :
    (addAccount env uid time).run db =
      if env.fitsUid uid = true then .ok () (withAccount uid time db)
      else .error (.dataAdd .dataIntegrity) db := by
  unfold addAccount
  split <;> rfl

lemma run_addAccountOther (env : Env) (index : ℕ) (type : Int32) (n : String)
    (pwd : Option (List UInt16)) (time : Int64) (db : Database) :
    (addAccountOther env index type (some n) pwd time).run db =
      if env.fitsAccount n = true then .ok () (withName index type n pwd time db)
      else .error (.dataAdd .dataIntegrity) db := by
  unfold addAccountOther
  dsimp only
  split <;> rfl

lemma run_addNotCertified (env : Env) (n : String) (db : Database) :
    (addNotCertified env (some n)).run db =
      if env.fitsCertified n = true then .ok () (withCertified n db)
      else .error (.dataAdd .dataIntegrity) db := by
  unfold addNotCertified
  dsimp only
  split <;> rfl

/-- **The insertions for a name**, one after the other. -/
lemma run_addName (env : Env) (index : ℕ) (type : Int32) (n : String)
    (pwd : Option (List UInt16)) (time : Int64) (db : Database) :
    (addName env index type (some n) pwd time).run db =
      if env.fitsAccount n = true then
        if type = 2 then
          if env.fitsCertified n = true then
            .ok () (withCertified n (withName index type n pwd time db))
          else .error (.dataAdd .dataIntegrity) (withName index type n pwd time db)
        else .ok () (withName index type n pwd time db)
      else .error (.dataAdd .dataIntegrity) db := by
  rw [addName, run_bind, run_addAccountOther]
  by_cases hfits : env.fitsAccount n = true
  · rw [if_pos hfits, if_pos hfits]
    dsimp only
    by_cases htype : type = 2
    · rw [if_pos htype, if_pos htype, run_addNotCertified]
    · rw [if_neg htype, if_neg htype]
      rfl
  · rw [if_neg hfits, if_neg hfits]

/-- They return just if the database takes the rows. -/
lemma exists_run_addName_iff {n : String} :
    (∃ db', (addName env index type (some n) pwd time).run db = .ok () db') ↔
      env.fitsAccount n = true ∧ (type = 2 → env.fitsCertified n = true) := by
  rw [run_addName]
  split
  · next hfits =>
    split
    · next htype =>
      split
      · next hcert => exact iff_of_true ⟨_, rfl⟩ ⟨hfits, fun _ => hcert⟩
      · next hcert => exact iff_of_false (by simp) fun h => hcert (h.2 htype)
    · next htype => exact iff_of_true ⟨_, rfl⟩ ⟨hfits, fun h => absurd h htype⟩
  · next hfits => exact iff_of_false (by simp) fun h => hfits h.1

/-- They leave the tables as they were unless only the second one is refused. -/
lemma clean_addName_iff {n : String} :
    Clean (addName env index type (some n) pwd time) db ↔
      (env.fitsAccount n = true → type = 2 → env.fitsCertified n = true) := by
  rw [Clean, run_addName]
  split
  · next hfits =>
    split
    · next htype =>
      split
      · next hcert => exact iff_of_true (by simp) fun _ _ => hcert
      · next hcert =>
        refine iff_of_false (fun h => ?_) fun h => hcert (h hfits htype)
        have hsame := (h _ _ rfl).2.1
        simp [withName] at hsame
    · next htype => exact iff_of_true (by simp) fun _ h => absurd h htype
  · next hfits =>
    refine iff_of_true (fun e db' h => ?_) fun h => absurd h hfits
    cases h
    exact ⟨rfl, rfl, rfl⟩

/-! ## Clean methods -/

/-- After a check that only reads, it is for the rest of a method to be clean. -/
lemma clean_ofExcept_bind_iff {α β : Type} {f : Database → Except RegisterError α}
    {g : α → EStateM RegisterError Database β} :
    Clean (ofExcept f >>= g) db ↔ ∀ a, f db = .ok a → Clean (g a) db := by
  unfold Clean
  rw [run_bind, run_ofExcept]
  cases hf : f db with
  | ok a => simp
  | error e =>
    refine iff_of_true (fun e' db' h => ?_) (by simp)
    cases h
    exact ⟨rfl, rfl, rfl⟩

/-- What a method returns does not matter. -/
lemma clean_bind_pure_iff {α β : Type} {x : EStateM RegisterError Database α} {b : β} :
    Clean (x >>= fun _ => pure b) db ↔ Clean x db := by
  unfold Clean
  rw [run_bind]
  cases hx : x.run db with
  | ok a db' => simp
  | error e db' => simp

/-- The database after the insertions for a name. -/
lemma finalState_addName (env : Env) (index : ℕ) (type : Int32) (n : String)
    (pwd : Option (List UInt16)) (time : Int64) (db : Database) :
    (addName env index type (some n) pwd time).finalState db =
      if env.fitsAccount n = true then
        if type = 2 ∧ env.fitsCertified n = true then
          withCertified n (withName index type n pwd time db)
        else withName index type n pwd time db
      else db := by
  rw [finalState, run_addName]
  by_cases hfits : env.fitsAccount n = true
  · rw [if_pos hfits, if_pos hfits]
    by_cases htype : type = 2
    · by_cases hcert : env.fitsCertified n = true
      · rw [if_pos htype, if_pos hcert, if_pos ⟨htype, hcert⟩]
      · rw [if_pos htype, if_neg hcert, if_neg fun h => hcert h.2]
    · rw [if_neg htype, if_neg fun h => htype h.1]
  · rw [if_neg hfits, if_neg hfits]

/-- They do not concern `account_data`. -/
lemma accountData_addName (env : Env) (index : ℕ) (type : Int32) (n : String)
    (pwd : Option (List UInt16)) (time : Int64) (db : Database) :
    ((addName env index type (some n) pwd time).finalState db).accountData = db.accountData := by
  rw [finalState_addName]
  split
  · split <;> rfl
  · rfl

/-- Once an account has been added, a method that throws is not clean. -/
lemma clean_addAccount_bind_iff {x : EStateM RegisterError Database Unit}
    (hx : (x.finalState (withAccount id time db)).accountData =
      (withAccount id time db).accountData) :
    Clean (addAccount env id time >>= fun _ => x) db ↔
      (env.fitsUid id = true → ∃ db', x.run (withAccount id time db) = .ok () db') := by
  unfold Clean
  rw [run_bind, run_addAccount]
  by_cases hfits : env.fitsUid id = true
  · rw [if_pos hfits]
    dsimp only
    cases hrun : x.run (withAccount id time db) with
    | ok u db' => exact iff_of_true (by simp) fun _ => ⟨db', rfl⟩
    | error e db' =>
      refine iff_of_false (fun h => ?_) fun h => ?_
      · have hsame := (h e db' rfl).1
        rw [← finalState_eq_of_error hrun, hx] at hsame
        simp [withAccount] at hsame
      · obtain ⟨db'', h⟩ := h hfits
        cases h
  · rw [if_neg hfits]
    refine iff_of_true (fun e db' h => ?_) fun h => absurd h hfits
    cases h
    exact ⟨rfl, rfl, rfl⟩

/-! ## The checks -/

lemma typeJudge_eq_ok_iff {n : String} :
    typeJudge (some type) (some n) = .ok () ↔ (type = 2 → isMail n = true) := by
  unfold typeJudge
  dsimp only
  split
  · next htype =>
    split
    · next hmail =>
      refine iff_of_false (by rintro ⟨⟩) fun h => ?_
      rw [h htype] at hmail
      cases hmail
    · next hmail => exact iff_of_true rfl fun _ => by simpa using hmail
  · next htype => exact iff_of_true rfl fun h => absurd h htype

lemma queryForObject_eq_ok_iff {rows : List ℕ} :
    queryForObject rows = .ok index ↔ rows = [index] := by
  match rows with
  | [] => exact iff_of_false (by rintro ⟨⟩) (by simp)
  | [i] =>
    rw [List.cons.injEq]
    exact ⟨fun h => ⟨Except.ok.inj h, rfl⟩, fun h => by rw [h.1]; rfl⟩
  | i :: j :: rows => exact iff_of_false (by rintro ⟨⟩) (by simp)

/-- The id of an account is among the ids of the new account and of those with the same uid. -/
lemma getAid_withAccount (env : Env) (id : String) (time : Int64) (db : Database) :
    getAid env id (withAccount id time db) = getAid env id db ++ [db.lastData + 1] := by
  simp [getAid, withAccount]

/-- The checks after an account was added. -/
lemma checkAdded_withAccount_iff {n : String} :
    checkAdded env id (some n) type (withAccount id time db) = .ok index ↔
      (getAid env id db = [] ∧ db.lastData + 1 = index) ∧ (type = 2 → isMail n = true) := by
  rw [checkAdded, Except.bind_eq_ok, getAid_withAccount]
  constructor
  · rintro ⟨i, hquery, h⟩
    obtain ⟨⟨⟩, hjudge, hreturn⟩ := Except.bind_eq_ok.mp h
    obtain rfl := Except.ok.inj hreturn
    rw [queryForObject_eq_ok_iff, List.append_eq_singleton_iff] at hquery
    rcases hquery with ⟨hnone, hindex⟩ | ⟨-, hnil⟩
    · exact ⟨⟨hnone, by simpa using hindex⟩, typeJudge_eq_ok_iff.mp hjudge⟩
    · cases hnil
  · rintro ⟨⟨hnone, hindex⟩, hmail⟩
    refine ⟨index, queryForObject_eq_ok_iff.mpr (by rw [hnone, hindex]; rfl), ?_⟩
    exact Except.bind_eq_ok.mpr ⟨(), typeJudge_eq_ok_iff.mpr hmail, rfl⟩

lemma checkName_eq_ok_iff :
    checkName env name type db = .ok () ↔
      (name ≠ none → getAccountForName env name type db = []) := by
  unfold checkName
  split
  · next h => exact iff_of_false (by rintro ⟨⟩) fun hfree => h.2 (hfree h.1)
  · next h =>
    refine iff_of_true rfl fun hname => ?_
    by_contra hne
    exact h ⟨hname, hne⟩

/-! ## One registration -/

/-- What follows the insertion of an account returns just if all checks do and all rows fit. -/
lemma exists_run_added_iff {n : String} :
    (∃ db', (ofExcept (checkAdded env id (some n) type) >>= fun index =>
        addName env index type (some n) pwd time).run (withAccount id time db) = .ok () db') ↔
      getAid env id db = [] ∧ env.fitsAccount n = true ∧
        (type = 2 → isMail n = true ∧ env.fitsCertified n = true) := by
  rw [run_bind, run_ofExcept]
  cases hcheck : checkAdded env id (some n) type (withAccount id time db) with
  | ok index =>
    obtain ⟨⟨hnone, -⟩, hmail⟩ := checkAdded_withAccount_iff.mp hcheck
    dsimp only
    rw [exists_run_addName_iff]
    exact ⟨fun h => ⟨hnone, h.1, fun htype => ⟨hmail htype, h.2 htype⟩⟩,
      fun h => ⟨h.2.1, fun htype => (h.2.2 htype).2⟩⟩
  | error e =>
    refine iff_of_false (by simp) fun h => ?_
    have hok : checkAdded env id (some n) type (withAccount id time db) = .ok (db.lastData + 1) :=
      checkAdded_withAccount_iff.mpr ⟨⟨h.1, rfl⟩, fun htype => (h.2.2 htype).1⟩
    rw [hcheck] at hok
    cases hok

/-- A binding without a name inserts nothing. -/
lemma clean_addName_none : Clean (addName env index type none pwd time) db := by
  intro e db' h
  cases h
  exact ⟨rfl, rfl, rfl⟩

/-- **A binding** checks first and inserts then. -/
lemma clean_binding_iff :
    Clean (saveAccount env true id name pwd type time) db ↔
      ∀ n, name = some n → ∀ index, checkBinding env id (some n) type db = .ok index →
        env.fitsAccount n = true → type = 2 → env.fitsCertified n = true := by
  rw [saveAccount, if_pos rfl, clean_ofExcept_bind_iff]
  cases name with
  | none => exact iff_of_true (fun index _ => clean_addName_none) (by simp)
  | some n =>
    simp only [Option.some.injEq, forall_eq']
    exact forall₂_congr fun index _ => clean_addName_iff

/-- **A new account** is inserted before its id and its name are checked. -/
lemma clean_new_iff :
    Clean (saveAccount env false id name pwd type time) db ↔
      ∀ n, name = some n → getAccountForName env (some n) type db = [] → env.fitsUid id = true →
        getAid env id db = [] ∧ env.fitsAccount n = true ∧
          (type = 2 → isMail n = true ∧ env.fitsCertified n = true) := by
  rw [saveAccount, if_neg (by simp), clean_ofExcept_bind_iff]
  cases name with
  | none =>
    refine iff_of_true (fun u _ => ?_) (by simp)
    simp only [ne_eq, not_true_eq_false, if_false]
    rw [clean_addAccount_bind_iff rfl]
    exact fun _ => ⟨_, rfl⟩
  | some n =>
    simp only [ne_eq, reduceCtorEq, not_false_eq_true, if_true, Option.some.injEq, forall_eq']
    have hdata : ((ofExcept (checkAdded env id (some n) type) >>= fun index =>
        addName env index type (some n) pwd time).finalState (withAccount id time db)).accountData =
          (withAccount id time db).accountData := by
      rw [finalState_ofExcept_bind]
      split
      · exact accountData_addName ..
      · rfl
    rw [clean_addAccount_bind_iff hdata, exists_run_added_iff]
    have hfree : checkName env (some n) type db = .ok () ↔
        getAccountForName env (some n) type db = [] := checkName_eq_ok_iff.trans (by simp)
    exact ⟨fun h hnil => h () (hfree.mpr hnil), fun h _ hok => h (hfree.mp hok)⟩

/-- **One registration** leaves the tables as they were if it throws, just if it meets the
condition. -/
theorem throwsClean_iff (env : Env) (db : Database) (msg : RegisterMsg) :
    ThrowsClean env db msg ↔ NoLateFailure env db msg := by
  unfold ThrowsClean NoLateFailure register
  cases htype : msg.accountType with
  | none =>
    refine iff_of_true (fun e db' h => ?_) (by simp)
    cases h
    exact ⟨rfl, rfl, rfl⟩
  | some type =>
    dsimp only
    rw [clean_bind_pure_iff, RegisterMsg.id]
    cases hbinding : msg.binding with
    | true =>
      rw [if_pos rfl, clean_binding_iff]
      refine ⟨fun h t n ht hn => ?_, fun h n hn => (h type n rfl hn).1 rfl⟩
      obtain rfl := Option.some.inj ht
      exact ⟨fun _ => h n hn, fun hfalse => Bool.noConfusion hfalse⟩
    | false =>
      rw [if_neg (by simp), clean_new_iff]
      refine ⟨fun h t n ht hn => ?_, fun h n hn => (h type n rfl hn).2 rfl⟩
      obtain rfl := Option.some.inj ht
      exact ⟨fun hfalse => Bool.noConfusion hfalse, fun _ => h n hn⟩

/-! ## Names and accounts -/

/-- What holds in every run: the ids in the tables are those of accounts that were added, and names
and accounts are unique. -/
structure TablesInv (env : Env) (db : Database) : Prop where
  data : ∀ row ∈ db.accountData, row.id ≤ db.lastData
  other : ∀ row ∈ db.accountOther, row.aId ≤ db.lastData
  unique : NamesUnique env db

/-- A new account. -/
lemma TablesInv.withAccount (h : TablesInv env db) : TablesInv env (withAccount id time db) := by
  refine ⟨fun row hrow => ?_, fun row hrow => (h.other row hrow).trans (Nat.le_succ _), h.unique⟩
  rcases List.mem_append.mp hrow with hrow | hrow
  · exact (h.data row hrow).trans (Nat.le_succ _)
  · rw [List.mem_singleton.mp hrow]
    exact le_rfl

/-- A new name for an account without one. -/
lemma TablesInv.withName {n : String} (h : TablesInv env db) (hindex : index ≤ db.lastData)
    (hother : getOtherForId index db = []) (hname : getAccountForName env (some n) type db = []) :
    TablesInv env (withName index type n pwd time db) := by
  have hids : ∀ row ∈ db.accountOther, row.aId ≠ index := by
    intro row hrow
    simpa using List.filter_eq_nil_iff.mp hother row hrow
  have hnames : ∀ row ∈ db.accountOther,
      (env.collate row.account, row.type) ≠ (env.collate n, type) := by
    intro row hrow
    simpa using List.filter_eq_nil_iff.mp hname row hrow
  refine ⟨h.data, fun row hrow => ?_, ?_, ?_⟩
  · rcases List.mem_append.mp hrow with hrow | hrow
    · exact h.other row hrow
    · rw [List.mem_singleton.mp hrow]
      exact hindex
  · change (List.map _ (db.accountOther ++ [_])).Nodup
    rw [List.map_append, List.map_singleton]
    refine List.nodup_append.mpr ⟨h.unique.1, List.nodup_singleton _, fun a ha b hb => ?_⟩
    obtain ⟨row, hrow, rfl⟩ := List.mem_map.mp ha
    rw [List.mem_singleton.mp hb]
    exact hnames row hrow
  · change (List.map _ (db.accountOther ++ [_])).Nodup
    rw [List.map_append, List.map_singleton]
    refine List.nodup_append.mpr ⟨h.unique.2, List.nodup_singleton _, fun a ha b hb => ?_⟩
    obtain ⟨row, hrow, rfl⟩ := List.mem_map.mp ha
    rw [List.mem_singleton.mp hb]
    exact hids row hrow

/-- The insertions for a name, if account and name are free. -/
lemma TablesInv.addName (h : TablesInv env db) (hindex : index ≤ db.lastData)
    (hother : getOtherForId index db = []) (hname : getAccountForName env name type db = []) :
    TablesInv env ((addName env index type name pwd time).finalState db) := by
  cases name with
  | none => exact h
  | some n =>
    have hadded : TablesInv env (Login.withName index type n pwd time db) :=
      h.withName hindex hother hname
    rw [finalState_addName]
    split
    · split
      · exact ⟨hadded.data, hadded.other, hadded.unique⟩
      · exact hadded
    · exact h

/-- What a binding has checked. -/
lemma checkBinding_eq_ok (h : checkBinding env id name type db = .ok index) :
    index ∈ getAid env id db ∧ getOtherForId index db = [] ∧
      getAccountForName env name type db = [] := by
  obtain ⟨i, hquery, h⟩ := Except.bind_eq_ok.mp h
  split at h
  · cases h
  · obtain ⟨⟨⟩, -, h⟩ := Except.bind_eq_ok.mp h
    split at h
    · cases h
    · next hother =>
      split at h
      · cases h
      · next hname =>
        obtain rfl := Except.ok.inj h
        rw [queryForObject_eq_ok_iff.mp hquery]
        exact ⟨List.mem_singleton_self i, not_not.mp hother, not_not.mp hname⟩

/-- A binding has looked whether the account has a name and whether the name is free. -/
lemma TablesInv.saveBinding (h : TablesInv env db) :
    TablesInv env ((saveAccount env true id name pwd type time).finalState db) := by
  rw [saveAccount, if_pos rfl, finalState_ofExcept_bind]
  cases hcheck : checkBinding env id name type db with
  | error e => exact h
  | ok index =>
    obtain ⟨hindex, hother, hname⟩ := checkBinding_eq_ok hcheck
    refine h.addName ?_ hother hname
    obtain ⟨row, hrow, rfl⟩ := List.mem_map.mp hindex
    exact h.data row (List.mem_filter.mp hrow).1

/-- A new account has an id that is in no row, and its name was free before. -/
lemma TablesInv.saveNew (h : TablesInv env db) :
    TablesInv env ((saveAccount env false id name pwd type time).finalState db) := by
  rw [saveAccount, if_neg (by simp), finalState_ofExcept_bind]
  cases hname : checkName env name type db with
  | error e => exact h
  | ok u =>
    dsimp only
    rw [finalState_bind, run_addAccount]
    by_cases hfits : env.fitsUid id = true
    · rw [if_pos hfits]
      dsimp only
      have hadded : TablesInv env (Login.withAccount id time db) := h.withAccount
      cases name with
      | none => exact hadded
      | some n =>
        simp only [ne_eq, reduceCtorEq, not_false_eq_true, if_true]
        rw [finalState_ofExcept_bind]
        cases hcheck : checkAdded env id (some n) type (Login.withAccount id time db) with
        | error e => exact hadded
        | ok index =>
          obtain ⟨⟨-, rfl⟩, -⟩ := checkAdded_withAccount_iff.mp hcheck
          refine hadded.addName le_rfl (List.filter_eq_nil_iff.mpr fun row hrow => ?_)
            (checkName_eq_ok_iff.mp hname (by simp))
          have hle := h.other row hrow
          simp only [decide_eq_true_eq]
          omega
    · rw [if_neg hfits]
      exact h

/-- **One registration** keeps names and accounts unique. -/
theorem TablesInv.register (h : TablesInv env db) (msg : RegisterMsg) :
    TablesInv env ((register env msg).finalState db) := by
  unfold Login.register
  cases msg.accountType with
  | none => exact h
  | some type =>
    dsimp only
    have hpure : ∀ x : EStateM RegisterError Database Unit,
        (x >>= fun _ => pure (msg.id type)).finalState db = x.finalState db := by
      intro x
      rw [finalState_bind, finalState]
      cases x.run db <;> rfl
    rw [hpure]
    cases msg.binding with
    | true => exact h.saveBinding
    | false => exact h.saveNew

/-! ## Sequences of registrations -/

/-- A registration, as a step from tables to tables. -/
def registerStep (env : Env) (db : Database) (msg : RegisterMsg) : Database :=
  (register env msg).finalState db

/-- **Names and accounts are unique** after every sequence of registrations. -/
theorem namesUnique_run (env : Env) (msgs : List RegisterMsg) :
    NamesUnique env (Runs.run (registerStep env) .empty msgs) := by
  refine (Runs.forall_inv_run (TablesInv env) (fun db msg h => h.register msg) ?_ msgs).unique
  exact ⟨by simp [Database.empty], by simp [Database.empty], List.nodup_nil, List.nodup_nil⟩

/-- **Sequences of registrations.** In a sequence of registrations each that throws leaves the
tables as they were, and names and accounts are unique all the time, just if every registration
meets the condition. -/
theorem registrations_iff (env : Env) (msgs : List RegisterMsg) :
    (Runs.EveryStep (registerStep env) (ThrowsClean env) .empty msgs ∧
      ∀ pre, pre <+: msgs → NamesUnique env (Runs.run (registerStep env) .empty pre)) ↔
      Runs.EveryStep (registerStep env) (NoLateFailure env) .empty msgs := by
  constructor
  · rintro ⟨h, -⟩
    exact h.mono fun db msg => (throwsClean_iff env db msg).mp
  · intro h
    exact ⟨h.mono fun db msg => (throwsClean_iff env db msg).mpr,
      fun pre _ => namesUnique_run env pre⟩

/-! ## A registration that fails late -/

/-- A database that takes every text. -/
def plainEnv : Env where
  collate := fun s => s
  md5Hex := fun _ => []
  fitsUid := fun _ => true
  fitsAccount := fun _ => true
  fitsCertified := fun _ => true

/-- A registration under a new account with a name that is no mail address. -/
def noMail : RegisterMsg where
  accountId := ""
  accountType := some 2
  accountName := "x1"
  password := "pw"
  otherUid := ""
  uuid := "u1"
  time := 0

/-- **The registration of a name that is no mail address** throws, and its account stays. -/
theorem not_throwsClean_noMail : ¬ThrowsClean plainEnv .empty noMail := by
  intro h
  have hsame := (h (.platform "mail is error~" ACCOUNT_IS_NOT_MAIL)
    (withAccount "u1" 0 .empty) rfl).1
  simp [withAccount, Database.empty] at hsame

end SrgpGame.Login
