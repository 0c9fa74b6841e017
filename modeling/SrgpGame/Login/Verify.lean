import SrgpGame.Login.Token

set_option autoImplicit false

/-!
# Which sign is accepted

Logins of one account replace each other's tokens in `redis`, in steps that may be mixed. This file
says which of their signs `verify` accepts once they have all come to their end: that of the login
that was the last to set its token, for two days.

## Main definitions

* `LoginService.Mirrors` — what `redis` has is the last token that was set.
* `LoginService.Counted` — the tokens are those of the counter.

## Main results

* `toString32_injective` — different numbers make different tokens.
* `LoginService.mirrors_step`, `counted_step` — every step preserves them.
* `LoginService.verify_sign_iff` — whole runs.
-/

namespace SrgpGame.Login

open Runs

/-! ## Tokens -/

/-- The number of a digit. -/
def ofDigit32 (c : Char) : ℕ := "0123456789abcdefghijklmnopqrstuv".toList.idxOf c

lemma ofDigit32_digit32 {n : ℕ} (h : n < 32) : ofDigit32 (digit32 n) = n := by
  decide +revert

lemma digit32_ne_minus {n : ℕ} (h : n < 32) : digit32 n ≠ '-' := by
  decide +revert

lemma digit32_ne_and {n : ℕ} (h : n < 32) : digit32 n ≠ '&' := by
  decide +revert

/-- The digits of a number. -/
def digits32 (n : ℕ) : List Char :=
  if n = 0 then ['0'] else ((Nat.digits 32 n).map digit32).reverse

lemma exists_of_mem_digits32 {n : ℕ} {c : Char} (h : c ∈ digits32 n) :
    ∃ d < 32, c = digit32 d := by
  unfold digits32 at h
  split_ifs at h
  · exact ⟨0, by norm_num, List.mem_singleton.mp h⟩
  · obtain ⟨d, hd, rfl⟩ := List.mem_map.mp (List.mem_reverse.mp h)
    exact ⟨d, Nat.digits_lt_base (by norm_num) hd, rfl⟩

/-- A number can be read from its digits. -/
lemma ofDigits_digits32 (n : ℕ) :
    Nat.ofDigits 32 ((digits32 n).reverse.map ofDigit32) = n := by
  unfold digits32
  split_ifs with hn
  · rw [hn]
    rfl
  · have hback : ((Nat.digits 32 n).map digit32).map ofDigit32 = Nat.digits 32 n := by
      rw [List.map_map]
      have hcongr : ∀ d ∈ Nat.digits 32 n, (ofDigit32 ∘ digit32) d = id d :=
        fun d hd => ofDigit32_digit32 (Nat.digits_lt_base (by norm_num) hd)
      rw [List.map_congr_left hcongr, List.map_id]
    rw [List.reverse_reverse, hback, Nat.ofDigits_digits]

lemma toList_toString32 (i : Int64) :
    (toString32 i).toList =
      if i.toInt < 0 then '-' :: digits32 i.toInt.natAbs else digits32 i.toInt.natAbs := by
  have hzero : i = 0 ↔ i.toInt.natAbs = 0 := by
    rw [Int.natAbs_eq_zero, ← Int64.toInt_inj]
    exact Iff.rfl
  simp only [toString32, digits32, hzero, String.toList_ofList]

/-- **Different numbers make different tokens.** -/
theorem toString32_injective : Function.Injective toString32 := by
  intro i j h
  have hlist := congrArg String.toList h
  rw [toList_toString32, toList_toString32] at hlist
  have hread : ∀ m n, digits32 m = digits32 n → m = n := by
    intro m n heq
    rw [← ofDigits_digits32 m, heq, ofDigits_digits32]
  have hminus : ∀ m n, '-' :: digits32 m ≠ digits32 n := by
    intro m n heq
    obtain ⟨d, hd, hc⟩ := exists_of_mem_digits32 (heq ▸ List.mem_cons_self)
    exact digit32_ne_minus hd hc.symm
  apply Int64.toInt_inj.mp
  split_ifs at hlist with hi hj hj
  · have habs := hread _ _ (List.cons.inj hlist).2
    omega
  · exact absurd hlist (hminus _ _)
  · exact absurd hlist.symm (hminus _ _)
  · have habs := hread _ _ hlist
    omega

/-- Tokens have no separator. -/
lemma and_notMem_toString32 (i : Int64) : '&' ∉ (toString32 i).toList := by
  rw [toList_toString32]
  have hdigits : '&' ∉ digits32 i.toInt.natAbs := by
    intro hmem
    obtain ⟨d, hd, hc⟩ := exists_of_mem_digits32 hmem
    exact digit32_ne_and hd hc.symm
  split_ifs
  · exact List.not_mem_cons_of_ne_of_not_mem (by decide) hdigits
  · exact hdigits

/-- **A sign is cut** into its token and its account. -/
lemma signData_append {token uid : String} (htoken : '&' ∉ token.toList)
    (huid : '&' ∉ uid.toList) (hne : uid ≠ "") : signData (token ++ "&" ++ uid) = [token, uid] := by
  have hlist : (token ++ "&" ++ uid).toList = token.toList ++ '&' :: uid.toList := by
    simp only [String.toList_append, List.append_assoc]
    rfl
  have hsplit : (token ++ "&" ++ uid).toList.splitOn '&' = [token.toList, uid.toList] := by
    rw [hlist, List.splitOn_append_cons_self_of_not_mem htoken, List.splitOn_eq_singleton huid]
  have hnil : uid.toList.isEmpty = false := by
    rw [List.isEmpty_eq_false_iff]
    exact fun heq => hne (String.toList_eq_nil_iff.mp heq)
  simp only [signData, hsplit, List.reverse_cons, List.reverse_nil, List.nil_append,
    List.cons_append, List.dropWhile_cons, hnil, Bool.false_eq_true, if_false, List.map_cons,
    List.map_nil, String.ofList_toList]


/-! ## What is at a place of a list -/

/-- A list around one of its elements. -/
lemma exists_around {α : Type*} {l : List α} {ix : ℕ} {a : α} (h : l[ix]? = some a) :
    ∃ before after, l = before ++ a :: after ∧ (∀ b, l.set ix b = before ++ b :: after) ∧
      l.eraseIdx ix = before ++ after := by
  obtain ⟨hlt, rfl⟩ := List.getElem?_eq_some_iff.mp h
  refine ⟨l.take ix, l.drop (ix + 1), ?_, fun b => ?_, List.eraseIdx_eq_take_drop_succ l ix⟩
  · rw [List.getElem_cons_drop, List.take_append_drop]
  · rw [List.set_eq_take_append_cons_drop, if_pos hlt]

namespace LoginService

variable {service : LoginService}

/-! ## The last token -/

/-- The last token that an account got. -/
def lastStored (service : LoginService) (uid : String) : Option Stored :=
  service.stored.find? fun entry => entry.uid = uid

/-- A login has done away with the token of an account, and is to set its own. -/
def Pending (service : LoginService) (uid : String) : Prop :=
  ∃ request ∈ service.logins, request.uid = uid ∧ request.stage ≠ .fetch ∧ request.stage ≠ .erase

/-- **What `redis` has is the last token that was set**, unless a login is to set another one. -/
structure Mirrors (service : LoginService) : Prop where
  redis : ∀ uid, service.redis.lookup uid =
      (service.lastStored uid).map (fun entry => (entry.token, entry.time + timeout)) ∨
    service.redis.lookup uid = none ∧ service.Pending uid
  past : ∀ entry ∈ service.stored, entry.time ≤ service.now

/-- **The next step of a login.** -/
lemma Mirrors.proceed (h : Mirrors service) (ix : ℕ) : Mirrors (service.proceed ix) := by
  unfold LoginService.proceed
  cases hrequest : service.logins[ix]? with
  | none => exact h
  | some request =>
    obtain ⟨before, after, hlogins, hset, herase⟩ := exists_around hrequest
    have hpending : ∀ uid, service.Pending uid →
        (∃ other ∈ before ++ after, other.uid = uid ∧ other.stage ≠ .fetch ∧
          other.stage ≠ .erase) ∨
        request.uid = uid ∧ request.stage ≠ .fetch ∧ request.stage ≠ .erase := by
      rintro uid ⟨other, hmem, hother⟩
      rw [hlogins] at hmem
      rcases List.mem_append.mp hmem with hmem | hmem
      · exact .inl ⟨other, List.mem_append_left _ hmem, hother⟩
      · rcases List.mem_cons.mp hmem with rfl | hmem
        · exact .inr hother
        · exact .inl ⟨other, List.mem_append_right _ hmem, hother⟩
    have hstay : ∀ (other : NewToken) new, other ∈ before ++ after →
        other ∈ before ++ new :: after := by
      intro other new hmem
      rcases List.mem_append.mp hmem with hmem | hmem
      · exact List.mem_append_left _ hmem
      · exact List.mem_append_right _ (List.mem_cons_of_mem _ hmem)
    simp only
    cases hstage : request.stage with
    | fetch =>
      refine ⟨fun uid => (h.redis uid).imp_right fun ⟨hnone, huid⟩ => ⟨hnone, ?_⟩, h.past⟩
      rcases hpending uid huid with ⟨other, hmem, hother⟩ | ⟨-, hnot, -⟩
      · exact ⟨other, by rw [setLogin, hset]; exact hstay other _ hmem, hother⟩
      · exact absurd hstage hnot
    | erase =>
      refine ⟨fun uid => ?_, h.past⟩
      change (service.redis.erase request.uid).lookup uid = _ ∨
        (service.redis.erase request.uid).lookup uid = none ∧ _
      rw [AList.lookup_erase_ite]
      by_cases huid : uid = request.uid
      · rw [if_pos huid]
        refine .inr ⟨rfl, { request with stage := .number }, ?_, huid.symm, by simp, by simp⟩
        simp only [setLogin, hset]
        exact List.mem_append_right _ List.mem_cons_self
      · rw [if_neg huid]
        refine (h.redis uid).imp_right fun ⟨hnone, hwas⟩ => ⟨hnone, ?_⟩
        rcases hpending uid hwas with ⟨other, hmem, hother⟩ | ⟨-, -, hnot⟩
        · refine ⟨other, ?_, hother⟩
          simp only [setLogin, hset]
          exact hstay other _ hmem
        · exact absurd hstage hnot
    | number =>
      refine ⟨fun uid => (h.redis uid).imp_right fun ⟨hnone, hwas⟩ => ⟨hnone, ?_⟩, h.past⟩
      rcases hpending uid hwas with ⟨other, hmem, hother⟩ | ⟨huid, -, -⟩
      · refine ⟨other, ?_, hother⟩
        simp only [setLogin, hset]
        exact hstay other _ hmem
      · refine ⟨{ request with stage := .store (toString32 (service.tokenLong + 1)) }, ?_, huid,
          by simp, by simp⟩
        simp only [setLogin, hset]
        exact List.mem_append_right _ List.mem_cons_self
    | store token =>
      refine ⟨fun uid => ?_, fun entry hentry => ?_⟩
      · change (service.redis.insert request.uid _).lookup uid = Option.map _
            (List.find? _ (_ :: service.stored)) ∨
          (service.redis.insert request.uid _).lookup uid = none ∧ _
        rw [AList.lookup_insert_ite, List.find?_cons]
        by_cases huid : uid = request.uid
        · left
          simp [huid]
        · rw [if_neg huid]
          have hne : decide (request.uid = uid) = false := decide_eq_false fun heq => huid heq.symm
          simp only [hne]
          refine (h.redis uid).imp_right fun ⟨hnone, hwas⟩ => ⟨hnone, ?_⟩
          rcases hpending uid hwas with ⟨other, hmem, hother⟩ | ⟨heq, -, -⟩
          · exact ⟨other, by rw [herase]; exact hmem, hother⟩
          · exact absurd heq.symm huid
      · rcases List.mem_cons.mp hentry with rfl | hold
        · exact le_rfl
        · exact h.past entry hold

/-- **Every step** keeps `redis` as it should be. -/
theorem mirrors_step (env : SignEnv) (h : Mirrors service) (action : Action) :
    Mirrors (service.step env action) := by
  have happend : ∀ (database : Database) request,
      Mirrors { service with database := database, logins := service.logins ++ [request] } := by
    intro database request
    refine ⟨fun uid => (h.redis uid).imp_right fun ⟨hnone, other, hmem, hother⟩ => ⟨hnone, ?_⟩,
      h.past⟩
    exact ⟨other, List.mem_append_left _ hmem, hother⟩
  cases action with
  | login msg =>
    simp only [LoginService.step]
    cases service.login env msg with
    | error e => exact h
    | ok uid => exact happend service.database ⟨uid, .fetch⟩
  | loginverificationCode accountId =>
    simp only [LoginService.step]
    cases service.loginverificationCode env accountId with
    | error e => exact h
    | ok result => exact happend result.2 ⟨result.1, .fetch⟩
  | proceed ix => exact h.proceed ix
  | tables database accountFreeze accountAdmin appIds => exact { h with }
  | elapse millis =>
    refine ⟨h.redis, fun entry hentry => (h.past entry hentry).trans ?_⟩
    change service.now ≤ service.now + millis
    omega

/-! ## Every token once -/

/-- The token that a login is to set. -/
def toStore : Stage → Option String
  | .store token => some token
  | _ => none

/-- The tokens that there are. -/
def tokens (service : LoginService) : List String :=
  service.logins.filterMap (fun request => toStore request.stage) ++
    service.stored.map Stored.token

/-- **The tokens are those of the counter**, each once, after `m` numbers. -/
structure Counted (start : Int64) (service : LoginService) (m : ℕ) : Prop where
  tokenLong : service.tokenLong = start + Int64.ofNat m
  nodup : service.tokens.Nodup
  below : ∀ token ∈ service.tokens, ∃ k < m, token = toString32 (start + Int64.ofNat k + 1)

variable {start : Int64} {m : ℕ}

/-- What has the same tokens in another order. -/
lemma Counted.perm {service' : LoginService} (h : Counted start service m)
    (htokenLong : service'.tokenLong = service.tokenLong)
    (hperm : service'.tokens.Perm service.tokens) : Counted start service' m where
  tokenLong := htokenLong.trans h.tokenLong
  nodup := hperm.nodup_iff.mpr h.nodup
  below := fun token hmem => h.below token (hperm.mem_iff.mp hmem)

lemma ofNat_injOn {k l : ℕ} (hk : k < 2 ^ 64) (hl : l < 2 ^ 64)
    (h : Int64.ofNat k = Int64.ofNat l) : k = l := by
  have hbits := congrArg (fun i => i.toBitVec.toNat) h
  simp only [Int64.toBitVec_ofNat', BitVec.toNat_ofNat] at hbits
  omega

/-- **The next step of a login** uses at most one number. -/
lemma Counted.proceed (h : Counted start service m) (hm : m + 1 < 2 ^ 64) (ix : ℕ) :
    Counted start (service.proceed ix) m ∨ Counted start (service.proceed ix) (m + 1) := by
  unfold LoginService.proceed
  cases hrequest : service.logins[ix]? with
  | none => exact .inl h
  | some request =>
    obtain ⟨before, after, hlogins, hset, herase⟩ := exists_around hrequest
    have htokens : service.tokens = before.filterMap (fun request => toStore request.stage) ++
        ((toStore request.stage).toList ++
          (after.filterMap (fun request => toStore request.stage) ++
            service.stored.map Stored.token)) := by
      simp only [tokens, hlogins, List.filterMap_append, List.filterMap_cons, List.append_assoc]
      cases toStore request.stage with
      | none => rfl
      | some token => rfl
    have hlist : ∀ login, (service.setLogin ix login).tokens =
        before.filterMap (fun request => toStore request.stage) ++
          ((toStore login.stage).toList ++
            (after.filterMap (fun request => toStore request.stage) ++
              service.stored.map Stored.token)) := by
      intro login
      simp only [tokens, setLogin, hset, List.filterMap_append, List.filterMap_cons,
        List.append_assoc]
      cases toStore login.stage with
      | none => rfl
      | some token => rfl
    simp only
    cases hstage : request.stage with
    | fetch =>
      refine .inl (h.perm rfl (List.Perm.of_eq ?_))
      rw [hlist, htokens, hstage]
      split_ifs
      · rfl
      · rfl
    | erase =>
      refine .inl (h.perm rfl (List.Perm.of_eq ?_))
      rw [htokens, hstage]
      exact hlist _
    | number =>
      right
      have hold : service.tokens = before.filterMap (fun request => toStore request.stage) ++
          (after.filterMap (fun request => toStore request.stage) ++
            service.stored.map Stored.token) := by
        rw [htokens, hstage]
        rfl
      have hnew : toString32 (service.tokenLong + 1) ∉ service.tokens := by
        intro hmem
        obtain ⟨k, hk, heq⟩ := h.below _ hmem
        have hnumber := toString32_injective heq
        rw [h.tokenLong] at hnumber
        have hsame := ofNat_injOn (by omega) (by omega)
          ((Int64.add_right_inj start).mp ((Int64.add_left_inj 1).mp hnumber))
        omega
      have hperm : ({ service.setLogin ix { request with
          stage := .store (toString32 (service.tokenLong + 1)) } with
            tokenLong := service.tokenLong + 1 } : LoginService).tokens.Perm
          (toString32 (service.tokenLong + 1) :: service.tokens) := by
        rw [hold]
        exact (List.Perm.of_eq (hlist _)).trans List.perm_middle
      refine ⟨?_, hperm.nodup_iff.mpr (List.nodup_cons.mpr ⟨hnew, h.nodup⟩), fun token hmem => ?_⟩
      · change service.tokenLong + 1 = start + Int64.ofNat (m + 1)
        rw [h.tokenLong, Int64.ofNat_add, ← Int64.add_assoc]
        rfl
      · rcases List.mem_cons.mp (hperm.mem_iff.mp hmem) with rfl | hwas
        · exact ⟨m, Nat.lt_succ_self m, by rw [h.tokenLong]⟩
        · obtain ⟨k, hk, heq⟩ := h.below token hwas
          exact ⟨k, hk.trans (Nat.lt_succ_self m), heq⟩
    | store token =>
      refine .inl (h.perm rfl ?_)
      rw [htokens, hstage]
      simp only [tokens, herase, List.filterMap_append, List.map_cons]
      refine List.perm_middle.trans (List.Perm.trans ?_ List.perm_middle.symm)
      rw [List.append_assoc]
      rfl

/-- **Every step** uses at most one number. -/
theorem counted_step (env : SignEnv) (h : Counted start service m) (hm : m + 1 < 2 ^ 64)
    (action : Action) : Counted start (service.step env action) m ∨
      Counted start (service.step env action) (m + 1) := by
  have happend : ∀ (database : Database) uid,
      Counted start { service with
        database := database, logins := service.logins ++ [⟨uid, .fetch⟩] } m := by
    intro database uid
    refine h.perm rfl (List.Perm.of_eq ?_)
    simp only [tokens, List.filterMap_append, List.filterMap_cons, toStore, List.filterMap_nil,
      List.append_nil]
  cases action with
  | login msg =>
    simp only [LoginService.step]
    cases service.login env msg with
    | error e => exact .inl h
    | ok uid => exact .inl (happend service.database uid)
  | loginverificationCode accountId =>
    simp only [LoginService.step]
    cases service.loginverificationCode env accountId with
    | error e => exact .inl h
    | ok result => exact .inl (happend result.2 result.1)
  | proceed ix => exact h.proceed hm ix
  | tables database accountFreeze accountAdmin appIds => exact .inl { h with }
  | elapse millis => exact .inl { h with }

/-! ## Whole runs -/

/-- The invariant of a run, with the actions that are still to come. -/
lemma mirrors_counted_run (env : SignEnv) (database : Database)
    (accountFreeze accountAdmin : List String) (appIds : List AppId) (tokenLong : Int64) (now : ℤ)
    (actions : List Action) (hfew : actions.length < 2 ^ 64) :
    Mirrors (run (step env) (LoginService.start database accountFreeze accountAdmin appIds tokenLong
      now) actions) ∧
      ∃ m, Counted tokenLong (run (step env) (LoginService.start database accountFreeze accountAdmin
        appIds tokenLong now) actions) m := by
  have hstart : Mirrors (LoginService.start database accountFreeze accountAdmin appIds tokenLong
      now) := ⟨fun _ => .inl rfl, fun _ hmem => absurd hmem List.not_mem_nil⟩
  have hzero : Counted tokenLong (LoginService.start database accountFreeze accountAdmin appIds
      tokenLong now) 0 :=
    ⟨(Int64.add_zero _).symm, List.nodup_nil, fun _ hmem => absurd hmem List.not_mem_nil⟩
  have hrun : ∀ (actions : List Action) (service : LoginService) m, Counted tokenLong service m →
      m + actions.length < 2 ^ 64 →
        ∃ m', Counted tokenLong (run (step env) service actions) m' := by
    intro actions
    induction actions with
    | nil => exact fun service m h _ => ⟨m, h⟩
    | cons action actions ih =>
      intro service m h hlen
      rw [List.length_cons] at hlen
      rcases counted_step env h (by omega) action with h' | h'
      · exact ih _ m h' (by omega)
      · exact ih _ (m + 1) h' (by omega)
  exact ⟨forall_inv_run Mirrors (fun _ action h => mirrors_step env h action) hstart actions,
    hrun actions _ 0 hzero (by omega)⟩

/-- **What is read from a sign** is its token and its account. -/
lemma readSign_sign {env : SignEnv} {appId openId key token uid : String}
    (hkey : service.getPrivateKey env appId openId = .ok key)
    (hdes : env.decoderByDES key (sign env key token uid) = token ++ "&" ++ uid)
    (htoken : '&' ∉ token.toList) (huid : '&' ∉ uid.toList) (hne : uid ≠ "")
    (haccount : (getAid env.toEnv uid service.database).length = 1) :
    service.readSign env appId openId (sign env key token uid) = .ok (token, uid) := by
  have hread : signData (env.decoderByDES key (sign env key token uid)) = [token, uid] := by
    rw [hdes, signData_append htoken huid hne]
  simp only [LoginService.readSign, hkey, bind, Except.bind, hread]
  exact if_neg fun hnot => hnot haccount

/-- The token of an account that has not expired, if `redis` has the last one. -/
lemma getToken_eq_some_iff {uid token : String}
    (hredis : service.redis.lookup uid =
      (service.lastStored uid).map fun entry => (entry.token, entry.time + timeout)) :
    service.getToken uid = some token ↔
      ∃ entry, service.lastStored uid = some entry ∧ entry.token = token ∧
        service.now < entry.time + timeout := by
  rw [LoginService.getToken, hredis]
  cases service.lastStored uid with
  | none => simp
  | some entry => simp [Option.filter, and_comm]

/-- **Which sign is accepted.** In every run, mixed as it may be, when no login of an account is
under way: the sign that a login got with its token is accepted just if that login was the last one
of the account to set its token, less than two days ago; and it gives this token and this account.
The account has one row and an id without a separator, the sign is read with the key it was made
with, and there is room for the row of the log.

**Proof sketch.** `verify` reads the token and the account from the sign and compares the token with
that in `redis`, which is the last one that was set; no two logins got the same. -/
theorem verify_sign_iff (env : SignEnv) (database : Database)
    (accountFreeze accountAdmin : List String) (appIds : List AppId) (tokenLong : Int64) (now : ℤ)
    (actions : List Action) (hfew : actions.length < 2 ^ 64) {service : LoginService}
    (hservice : service = run (step env) (LoginService.start database accountFreeze accountAdmin
      appIds tokenLong now) actions)
    {uid token appId openId key : String} {time : ℤ}
    (hquiet : ∀ request ∈ service.logins, request.uid ≠ uid)
    (hstored : ⟨uid, token, time⟩ ∈ service.stored)
    (hkey : service.getPrivateKey env appId openId = .ok key)
    (hdes : env.decoderByDES key (sign env key token uid) = token ++ "&" ++ uid)
    (huid : '&' ∉ uid.toList) (hne : uid ≠ "")
    (haccount : (getAid env.toEnv uid service.database).length = 1)
    (hfits : env.fitsLog uid (appId ++ openId) = true) :
    (∀ attach, service.verify env appId openId (sign env key token uid) = .ok attach →
        attach.token = token ∧ attach.accountId = uid) ∧
      ((∃ attach, service.verify env appId openId (sign env key token uid) = .ok attach) ↔
        service.lastStored uid = some ⟨uid, token, time⟩ ∧ service.now < time + timeout) := by
  obtain ⟨hmirrors, m, hcounted⟩ :=
    mirrors_counted_run env database accountFreeze accountAdmin appIds tokenLong now actions hfew
  rw [← hservice] at hmirrors hcounted
  have hmem : token ∈ service.tokens :=
    List.mem_append_right _ (List.mem_map.mpr ⟨_, hstored, rfl⟩)
  obtain ⟨k, -, hnumber⟩ := hcounted.below token hmem
  have htoken : '&' ∉ token.toList := hnumber ▸ and_notMem_toString32 _
  have hverify : service.verify env appId openId (sign env key token uid) =
      service.checkToken env appId openId token uid := by
    simp only [LoginService.verify, readSign_sign hkey hdes htoken huid hne haccount]
    rfl
  have hredis := (hmirrors.redis uid).resolve_right fun ⟨_, request, hrequest, heq, _⟩ =>
    hquiet request hrequest heq
  -- every token is there once, so the last one with this token is that of the login
  have hsame : ∀ entry, service.lastStored uid = some entry → entry.token = token →
      entry = ⟨uid, token, time⟩ := by
    intro entry hlast heq
    have hnodup := (List.nodup_append.mp hcounted.nodup).2.1
    exact List.inj_on_of_nodup_map hnodup (List.mem_of_find?_eq_some hlast) hstored heq
  rw [hverify]
  cases hget : service.getToken uid with
  | none =>
    refine ⟨fun attach hok => ?_, iff_of_false (fun ⟨attach, hok⟩ => ?_) fun ⟨hlast, htime⟩ => ?_⟩
    · simp only [LoginService.checkToken, hget] at hok
      cases hok
    · simp only [LoginService.checkToken, hget] at hok
      cases hok
    · have hthere := (getToken_eq_some_iff hredis).mpr ⟨_, hlast, rfl, htime⟩
      rw [hget] at hthere
      cases hthere
  | some useToken =>
    obtain ⟨entry, hlast, huse, htime⟩ := (getToken_eq_some_iff hredis).mp hget
    by_cases heq : token = useToken
    · have hentry := hsame entry hlast (huse.trans heq.symm)
      simp only [LoginService.checkToken, hget, if_pos heq, hfits, Bool.not_true,
        Bool.false_eq_true, if_false]
      refine ⟨fun attach hok => ?_, iff_of_true ⟨_, rfl⟩ ⟨hentry ▸ hlast, ?_⟩⟩
      · obtain rfl := Except.ok.inj hok
        exact ⟨rfl, rfl⟩
      · rw [hentry] at htime
        exact htime
    · simp only [LoginService.checkToken, hget, if_neg heq]
      refine ⟨fun attach hok => ?_, iff_of_false (fun ⟨attach, hok⟩ => ?_) fun ⟨hlast', _⟩ => ?_⟩
      · cases hok
      · cases hok
      · rw [hlast] at hlast'
        obtain rfl := Option.some.inj hlast'
        exact heq huse

/-- A database that takes all texts, with a sign that can be read. -/
def plainEnv : SignEnv where
  collate := id
  md5Hex := fun _ => []
  fitsUid := fun _ => true
  fitsAccount := fun _ => true
  fitsCertified := fun _ => true
  encoderByDES := fun key text => key ++ text
  decoderByDES := fun key text => String.ofList (text.toList.drop key.length)
  fitsLog := fun _ _ => true

lemma decoderByDES_plainEnv (key text : String) :
    plainEnv.decoderByDES key (plainEnv.encoderByDES key text) = text := by
  simp only [plainEnv, String.toList_append, ← String.length_toList, List.drop_left,
    String.ofList_toList]

/-- Two logins of an account; the second is the first to set its token. -/
def twoLogins : List Action :=
  [.login ⟨"ab", "", "", none⟩, .login ⟨"ab", "", "", none⟩, .proceed 0, .proceed 1, .proceed 0,
    .proceed 1, .proceed 1, .proceed 0]

/-- The service after them. -/
def afterTwoLogins : LoginService :=
  run (step plainEnv) (LoginService.start ⟨[⟨1, "ab", 0, "0"⟩], [], [], 1, 0, 0⟩ [] []
    [⟨"a", "o", "k"⟩] 0 0) twoLogins

/-- The sign of the first login is accepted just if its token is still in place. -/
theorem verify_sign_iff_twoLogins :
    (∀ attach, afterTwoLogins.verify plainEnv "a" "o"
        (sign plainEnv "k" (toString32 (0 + 1)) "ab") = .ok attach →
      attach.token = toString32 (0 + 1) ∧ attach.accountId = "ab") ∧
      ((∃ attach, afterTwoLogins.verify plainEnv "a" "o"
          (sign plainEnv "k" (toString32 (0 + 1)) "ab") = .ok attach) ↔
        afterTwoLogins.lastStored "ab" = some ⟨"ab", toString32 (0 + 1), 0⟩ ∧
          afterTwoLogins.now < 0 + timeout) :=
  verify_sign_iff plainEnv ⟨[⟨1, "ab", 0, "0"⟩], [], [], 1, 0, 0⟩ [] [] [⟨"a", "o", "k"⟩] 0 0
    twoLogins (by decide) rfl (by decide) List.mem_cons_self rfl
    (decoderByDES_plainEnv _ _) (by decide) (by decide) (by decide) rfl

end LoginService

end SrgpGame.Login
