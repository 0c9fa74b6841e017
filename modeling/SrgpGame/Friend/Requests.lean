import SrgpGame.Friend.FriendsBO

set_option autoImplicit false

/-!
# The cache of requests

The cache has its requests twice, by id and by status. While both agree, a lookup changes nothing,
and a change of status takes a request from one table to another. Between two players there is never
more than one request.

## Main definitions

* `InCache` — a request that both maps of the cache know.
* `Joins`, `Accepted` — a request is one between two players; two players have an accepted one.
* `Consistent` — the invariant of the cache.

## Main results

* `getReq_run` — a lookup finds the request that is there, and changes nothing.
* `Consistent.add2Cache`, `Consistent.casStatus` — a request comes and goes.
* `checkAndRemoveReq_run` — the requests with blocked players go, and no others.
-/

namespace SrgpGame.Friend

open EStateM

variable {s : FriendServer} {vo vo' : FriendReqVO} {a b b' : Int32}

/-! ## Requests between players -/

/-- A request that both maps of the cache know. -/
def InCache (s : FriendServer) (vo : FriendReqVO) : Prop :=
  s.reqsByStatus.lookup (vo.status, vo.src, vo.tgt) = some vo.id ∧ s.allReqs.lookup vo.id = some vo

/-- A request between two players, in one direction or the other. -/
def Joins (vo : FriendReqVO) (a b : Int32) : Prop :=
  (vo.src = a ∧ vo.tgt = b) ∨ (vo.src = b ∧ vo.tgt = a)

/-- **An accepted request** between two players exists. -/
def Accepted (s : FriendServer) (a b : Int32) : Prop :=
  ∃ vo, InCache s vo ∧ vo.status = .accept ∧ Joins vo a b

lemma Joins.symm (h : Joins vo a b) : Joins vo b a := Or.symm h

lemma Accepted.symm (h : Accepted s a b) : Accepted s b a := by
  obtain ⟨vo, hcache, hstatus, hjoins⟩ := h
  exact ⟨vo, hcache, hstatus, hjoins.symm⟩

/-- A request joins one player with one other only. -/
lemma Joins.right_unique {a' : Int32} (h : Joins vo a b) (h' : Joins vo a' b) : a = a' := by
  rcases h with ⟨h₁, h₂⟩ | ⟨h₁, h₂⟩
  · rcases h' with ⟨h₃, -⟩ | ⟨h₃, h₄⟩
    · exact h₁.symm.trans h₃
    · exact (h₁.symm.trans h₃).trans (h₂.symm.trans h₄)
  · rcases h' with ⟨h₃, h₄⟩ | ⟨-, h₄⟩
    · exact (h₂.symm.trans h₄).trans (h₁.symm.trans h₃)
    · exact h₂.symm.trans h₄

/-- A player of a request is one of the two it joins. -/
lemma Joins.eq_or_eq {q : Int32} (h : Joins vo a b) (h' : Joins vo q b') : a = b' ∨ b = b' := by
  rcases h with ⟨rfl, rfl⟩ | ⟨rfl, rfl⟩
  · exact h'.elim (fun h => .inr h.2) (fun h => .inl h.1)
  · exact h'.elim (fun h => .inl h.2) (fun h => .inr h.1)

/-- Two requests between the same players. -/
lemma Joins.trans (h : Joins vo a b) (h' : Joins vo' a b) : Joins vo' vo.src vo.tgt := by
  rcases h with ⟨rfl, rfl⟩ | ⟨rfl, rfl⟩
  · exact h'
  · exact h'.symm

/-- Both players of a request have a positive id. -/
def FriendReqVO.Positive (vo : FriendReqVO) : Prop := 0 < vo.src ∧ 0 < vo.tgt

lemma Joins.positive (h : Joins vo a b) (ha : 0 < a) (hb : 0 < b) : vo.Positive := by
  rcases h with ⟨rfl, rfl⟩ | ⟨rfl, rfl⟩
  · exact ⟨ha, hb⟩
  · exact ⟨hb, ha⟩

/-- **The invariant of the cache.** Requests with ids that are not positive are never found, so
there may be several of them. -/
structure Consistent (s : FriendServer) : Prop where
  entry : ∀ {status src tgt id}, s.reqsByStatus.lookup (status, src, tgt) = some id →
    s.allReqs.lookup id = some ⟨id, src, tgt, status⟩
  unique : ∀ {vo vo'}, InCache s vo → InCache s vo' → vo.Positive → Joins vo' vo.src vo.tgt →
    vo' = vo
  accepted : ∀ {vo}, InCache s vo → vo.status = .accept → vo.Positive

lemma Consistent.inCache (h : Consistent s) {status : Status} {src tgt id : Int32}
    (hlookup : s.reqsByStatus.lookup (status, src, tgt) = some id) :
    InCache s ⟨id, src, tgt, status⟩ := ⟨hlookup, h.entry hlookup⟩

lemma consistent_empty : Consistent .empty where
  entry h := by cases h
  unique h := by cases h.1
  accepted h := by cases h.1

/-- The cache only counts. -/
lemma Consistent.congr {s' : FriendServer} (h : Consistent s) (hall : s'.allReqs = s.allReqs)
    (hstatus : s'.reqsByStatus = s.reqsByStatus) : Consistent s' := by
  obtain ⟨players, dao, allReqs, reqsByStatus⟩ := s'
  obtain rfl : allReqs = s.allReqs := hall
  obtain rfl : reqsByStatus = s.reqsByStatus := hstatus
  exact ⟨h.entry, h.unique, h.accepted⟩

/-! ## Lookups -/

/-- The request of a status from one player to another. -/
def reqIn (s : FriendServer) (src tgt : Int32) (status : Status) : Option FriendReqVO :=
  if src ≤ 0 ∨ tgt ≤ 0 then none
  else (s.reqsByStatus.lookup (status, src, tgt)).map fun id => ⟨id, src, tgt, status⟩

/-- The lookup in one table. Its request has the status of the table. -/
lemma getByStatus_run (h : Consistent s) (src tgt : Int32) (status : Status) :
    (getByStatus src tgt status).run s = .ok (reqIn s src tgt status) s := by
  unfold getByStatus reqIn
  split_ifs with hpos
  · rfl
  · cases hlookup : s.reqsByStatus.lookup (status, src, tgt) with
    | none =>
      rw [run_bind]
      simp only [EStateM.run_get, hlookup]
      rfl
    | some id =>
      rw [run_bind]
      simp only [EStateM.run_get, hlookup, h.entry hlookup, ne_eq, not_true, if_false]
      rfl

lemma reqIn_eq_some (h : Consistent s) {src tgt : Int32} {status : Status} :
    reqIn s src tgt status = some vo ↔
      InCache s vo ∧ vo.Positive ∧ vo.src = src ∧ vo.tgt = tgt ∧ vo.status = status := by
  unfold reqIn
  split_ifs with hpos
  · constructor
    · intro hnone
      cases hnone
    · rintro ⟨-, ⟨hsrc, htgt⟩, rfl, rfl, rfl⟩
      rcases hpos with hle | hle
      · exact absurd hsrc (Int32.not_lt.mpr hle)
      · exact absurd htgt (Int32.not_lt.mpr hle)
  · obtain ⟨hsrc, htgt⟩ := not_or.mp hpos
    rw [Option.map_eq_some_iff]
    constructor
    · rintro ⟨id, hlookup, rfl⟩
      exact ⟨h.inCache hlookup, ⟨Int32.not_le.mp hsrc, Int32.not_le.mp htgt⟩, rfl, rfl, rfl⟩
    · rintro ⟨hcache, -, rfl, rfl, rfl⟩
      exact ⟨vo.id, hcache.1, rfl⟩

/-- What a lookup is after: a request from one player to another, or one between them. -/
def Sought (src tgt : Int32) (unknown : Bool) (vo : FriendReqVO) : Prop :=
  (vo.src = src ∧ vo.tgt = tgt) ∨ (unknown = true ∧ vo.src = tgt ∧ vo.tgt = src)

/-- The loop over the tables finds a request if there is one. -/
lemma getIn_run (h : Consistent s) (src tgt : Int32) (unknown : Bool) (statuses : List Status) :
    ∃ r, (getIn src tgt unknown statuses).run s = .ok r s ∧
      (∀ vo, r = some vo → InCache s vo ∧ vo.Positive ∧ Sought src tgt unknown vo) ∧
      (r = none → ∀ vo, InCache s vo → vo.Positive → vo.status ∈ statuses →
        ¬Sought src tgt unknown vo) := by
  induction statuses with
  | nil =>
    refine ⟨none, rfl, ?_, ?_⟩
    · intro vo hnone
      cases hnone
    · intro _ vo _ _ hmem
      cases hmem
  | cons status statuses ih =>
    have hsecond : (if unknown then getByStatus tgt src status else pure none).run s =
        .ok (if unknown then reqIn s tgt src status else none) s := by
      cases unknown with
      | true => exact getByStatus_run h tgt src status
      | false => rfl
    rw [getIn, run_bind, getByStatus_run h]
    cases hfirst : reqIn s src tgt status with
    | some vo =>
      obtain ⟨hcache, hpos, hsrc, htgt, -⟩ := (reqIn_eq_some h).mp hfirst
      refine ⟨some vo, rfl, ?_, ?_⟩
      · intro vo' hsome
        obtain rfl := Option.some.inj hsome
        exact ⟨hcache, hpos, .inl ⟨hsrc, htgt⟩⟩
      · intro hnone
        cases hnone
    | none =>
      simp only [run_bind, hsecond]
      cases hback : if unknown then reqIn s tgt src status else none with
      | some vo =>
        obtain ⟨hunknown, hback⟩ := Option.ite_none_right_eq_some.mp hback
        obtain ⟨hcache, hpos, hsrc, htgt, -⟩ := (reqIn_eq_some h).mp hback
        refine ⟨some vo, rfl, ?_, ?_⟩
        · intro vo' hsome
          obtain rfl := Option.some.inj hsome
          exact ⟨hcache, hpos, .inr ⟨hunknown, hsrc, htgt⟩⟩
        · intro hnone
          cases hnone
      | none =>
        obtain ⟨r, hrun, hfound, hmissing⟩ := ih
        refine ⟨r, hrun, hfound, ?_⟩
        intro hnone vo hcache hpos hmem hsought
        rcases List.mem_cons.mp hmem with hstatus | hmem
        · -- it would have been found in this table
          rcases hsought with ⟨hsrc, htgt⟩ | ⟨hunknown, hsrc, htgt⟩
          · have hsome := (reqIn_eq_some h).mpr ⟨hcache, hpos, hsrc, htgt, hstatus⟩
            rw [hfirst] at hsome
            cases hsome
          · have hsome := (reqIn_eq_some h).mpr ⟨hcache, hpos, hsrc, htgt, hstatus⟩
            rw [if_pos hunknown, hsome] at hback
            cases hback
        · exact hmissing hnone vo hcache hpos hmem hsought

/-- **A lookup** finds a request that is there, finds one if there is one, and changes nothing. -/
lemma getReq_run (h : Consistent s) (src tgt : Int32) (unknown : Bool) :
    ∃ r, (getReq src tgt unknown).run s = .ok r s ∧
      (∀ vo, r = some vo → InCache s vo ∧ vo.Positive ∧ Sought src tgt unknown vo) ∧
      (r = none → ∀ vo, InCache s vo → vo.Positive → ¬Sought src tgt unknown vo) := by
  unfold getReq
  split_ifs with hpos
  · refine ⟨none, rfl, ?_, ?_⟩
    · intro vo hnone
      cases hnone
    · rintro - vo - ⟨hsrc, htgt⟩ hsought
      have hle : vo.src ≤ 0 ∨ vo.tgt ≤ 0 := by
        rcases hsought with ⟨rfl, rfl⟩ | ⟨-, rfl, rfl⟩
        · exact hpos
        · exact hpos.symm
      rcases hle with hle | hle
      · exact absurd hsrc (Int32.not_lt.mpr hle)
      · exact absurd htgt (Int32.not_lt.mpr hle)
  · obtain ⟨r, hrun, hfound, hmissing⟩ := getIn_run h src tgt unknown
      [.create, .requestSend, .reject, .accept, .delete]
    refine ⟨r, hrun, hfound, ?_⟩
    intro hnone vo hcache hvo
    refine hmissing hnone vo hcache hvo ?_
    cases vo.status <;> decide

/-- **`getSrcOrTgt`** finds the request between two players. -/
lemma getSrcOrTgt_run (h : Consistent s) (a b : Int32) :
    ∃ r, (getSrcOrTgt a b).run s = .ok r s ∧
      (∀ vo, r = some vo → InCache s vo ∧ vo.Positive ∧ Joins vo a b) ∧
      (r = none → ∀ vo, InCache s vo → vo.Positive → ¬Joins vo a b) := by
  obtain ⟨r, hrun, hfound, hmissing⟩ := getReq_run h a b true
  refine ⟨r, hrun, ?_, ?_⟩
  · intro vo hsome
    obtain ⟨hcache, hpos, hsought⟩ := hfound vo hsome
    exact ⟨hcache, hpos, hsought.imp_right And.right⟩
  · intro hnone vo hcache hpos hjoins
    exact hmissing hnone vo hcache hpos (hjoins.imp_right fun h => ⟨rfl, h⟩)

/-- **`get`** finds the request of one player to another. -/
lemma getSrcTgt_run (h : Consistent s) (src tgt : Int32) :
    ∃ r, (getSrcTgt src tgt).run s = .ok r s ∧
      ∀ vo, r = some vo → InCache s vo ∧ vo.Positive ∧ vo.src = src ∧ vo.tgt = tgt := by
  obtain ⟨r, hrun, hfound, -⟩ := getReq_run h src tgt false
  refine ⟨r, hrun, ?_⟩
  intro vo hsome
  obtain ⟨hcache, hpos, hsought⟩ := hfound vo hsome
  rcases hsought with hsought | ⟨hunknown, -⟩
  · exact ⟨hcache, hpos, hsought⟩
  · cases hunknown

lemma nodup_getFriendByStatusSrcOrTgt (s : FriendServer) (status : Status) (pid : Int32) :
    (getFriendByStatusSrcOrTgt s status pid).Nodup := List.nodup_dedup _

/-- **`getFriendByStatusSrcOrTgt`** has the players of the requests of a status. -/
lemma mem_getFriendByStatusSrcOrTgt (h : Consistent s) {status : Status} :
    a ∈ getFriendByStatusSrcOrTgt s status b ↔
      ∃ vo, InCache s vo ∧ vo.status = status ∧ Joins vo a b := by
  have hkey : ∀ {src tgt}, (status, src, tgt) ∈ s.reqsByStatus.keys ↔
      ∃ vo, InCache s vo ∧ vo.status = status ∧ vo.src = src ∧ vo.tgt = tgt := by
    intro src tgt
    rw [← AList.mem_keys, ← AList.lookup_isSome, Option.isSome_iff_exists]
    constructor
    · rintro ⟨id, hlookup⟩
      exact ⟨_, h.inCache hlookup, rfl, rfl, rfl⟩
    · rintro ⟨vo, hcache, rfl, rfl, rfl⟩
      exact ⟨vo.id, hcache.1⟩
  simp only [getFriendByStatusSrcOrTgt, List.mem_dedup, List.mem_append, List.mem_map,
    List.mem_filter, decide_eq_true_eq]
  constructor
  · rintro (⟨⟨st, src, tgt⟩, ⟨⟨hmem, rfl⟩, rfl⟩, rfl⟩ | ⟨⟨st, src, tgt⟩, ⟨⟨hmem, rfl⟩, rfl⟩, rfl⟩)
    · obtain ⟨vo, hcache, hstatus, hsrc, htgt⟩ := hkey.mp hmem
      exact ⟨vo, hcache, hstatus, .inr ⟨hsrc, htgt⟩⟩
    · obtain ⟨vo, hcache, hstatus, hsrc, htgt⟩ := hkey.mp hmem
      exact ⟨vo, hcache, hstatus, .inl ⟨hsrc, htgt⟩⟩
  · rintro ⟨vo, hcache, hstatus, ⟨hsrc, htgt⟩ | ⟨hsrc, htgt⟩⟩
    · exact .inr ⟨(status, a, b), ⟨⟨hkey.mpr ⟨vo, hcache, hstatus, hsrc, htgt⟩, rfl⟩, rfl⟩, rfl⟩
    · exact .inl ⟨(status, b, a), ⟨⟨hkey.mpr ⟨vo, hcache, hstatus, hsrc, htgt⟩, rfl⟩, rfl⟩, rfl⟩

/-! ## Changes of status -/

lemma Consistent.inCache_iff (h : Consistent s) :
    InCache s vo ↔ s.reqsByStatus.lookup (vo.status, vo.src, vo.tgt) = some vo.id :=
  ⟨And.left, fun hlookup => h.inCache hlookup⟩

/-- Two requests in the cache are told apart by their ids. -/
lemma InCache.eq_of_id_eq (h : InCache s vo) (h' : InCache s vo') (hid : vo'.id = vo.id) :
    vo' = vo := by
  have hall := h'.2
  rw [hid, h.2] at hall
  exact (Option.some.inj hall).symm

/-- A new id is the id of no request. -/
lemma InCache.id_ne_of_fresh (h : InCache s vo) {id : Int32} (hfresh : s.allReqs.lookup id = none) :
    vo.id ≠ id := by
  rintro rfl
  cases h.2.symm.trans hfresh

/-- They are told apart by their places in the tables, too. -/
lemma InCache.eq_of_key_eq (h : InCache s vo) (h' : InCache s vo')
    (hkey : (vo'.status, vo'.src, vo'.tgt) = (vo.status, vo.src, vo.tgt)) : vo' = vo := by
  have hlookup := h'.1
  rw [hkey, h.1] at hlookup
  exact h.eq_of_id_eq h' (Option.some.inj hlookup).symm

section CasStatus

variable {update : Status}

/-- A request whose status changes leaves its table. -/
lemma Consistent.inCache_casStatus (h : Consistent s) (hvo : InCache s vo) :
    InCache (s.casStatus vo update) vo' ↔ InCache s vo' ∧ vo' ≠ vo := by
  constructor
  · rintro ⟨hlookup, -⟩
    simp only [FriendServer.casStatus, AList.lookup_erase_ite] at hlookup
    split_ifs at hlookup with hkey
    refine ⟨h.inCache_iff.mpr hlookup, ?_⟩
    rintro rfl
    exact hkey rfl
  · rintro ⟨hvo', hne⟩
    have hkey : ¬(vo'.status, vo'.src, vo'.tgt) = (vo.status, vo.src, vo.tgt) :=
      fun hkey => hne (hvo.eq_of_key_eq hvo' hkey)
    have hid : ¬vo'.id = vo.id := fun hid => hne (hvo.eq_of_id_eq hvo' hid)
    refine ⟨?_, ?_⟩
    · simp only [FriendServer.casStatus, AList.lookup_erase_ite, hkey, if_false]
      exact hvo'.1
    · simp only [FriendServer.casStatus, AList.lookup_insert_ite, hid, if_false]
      exact hvo'.2

/-- **A request leaves the cache.** -/
lemma Consistent.casStatus (h : Consistent s) (hvo : InCache s vo) :
    Consistent (s.casStatus vo update) where
  entry := by
    intro status src tgt id hlookup
    simp only [FriendServer.casStatus, AList.lookup_erase_ite] at hlookup
    split_ifs at hlookup with hkey
    have hcache := h.inCache hlookup
    have hid : ¬id = vo.id := by
      intro hid
      obtain rfl := hvo.eq_of_id_eq hcache hid
      exact hkey rfl
    simp only [FriendServer.casStatus, AList.lookup_insert_ite, hid, if_false]
    exact hcache.2
  unique := by
    intro v v' hv hv' hpos hjoins
    exact h.unique ((h.inCache_casStatus hvo).mp hv).1 ((h.inCache_casStatus hvo).mp hv').1 hpos
      hjoins
  accepted := by
    intro v hv hstatus
    exact h.accepted ((h.inCache_casStatus hvo).mp hv).1 hstatus

/-- With the request between two players its acceptance goes. -/
lemma Consistent.accepted_casStatus (h : Consistent s) (hvo : InCache s vo) (hpos : vo.Positive) :
    Accepted (s.casStatus vo update) a b ↔ Accepted s a b ∧ ¬Joins vo a b := by
  constructor
  · rintro ⟨v, hv, hstatus, hjoins⟩
    obtain ⟨hcache, hne⟩ := (h.inCache_casStatus hvo).mp hv
    exact ⟨⟨v, hcache, hstatus, hjoins⟩,
      fun hjoins' => hne (h.unique hvo hcache hpos (hjoins'.trans hjoins))⟩
  · rintro ⟨⟨v, hv, hstatus, hjoins⟩, hnot⟩
    refine ⟨v, (h.inCache_casStatus hvo).mpr ⟨hv, ?_⟩, hstatus, hjoins⟩
    rintro rfl
    exact hnot hjoins

end CasStatus

section Add2Cache

variable (h : Consistent s) (hfresh : ∀ {v}, InCache s v → v.id ≠ vo.id)

include h hfresh

/-- A new request takes its place in the table of its status. -/
lemma Consistent.inCache_add2Cache : InCache (s.add2Cache vo) vo' ↔
    vo' = vo ∨ (InCache s vo' ∧ (vo'.status, vo'.src, vo'.tgt) ≠ (vo.status, vo.src, vo.tgt)) := by
  constructor
  · rintro ⟨hlookup, hall⟩
    simp only [FriendServer.add2Cache, AList.lookup_insert_ite] at hlookup hall
    split_ifs at hlookup with hkey
    · rw [if_pos (Option.some.inj hlookup).symm] at hall
      exact .inl (Option.some.inj hall).symm
    · exact .inr ⟨h.inCache_iff.mpr hlookup, hkey⟩
  · rintro (rfl | ⟨hvo', hkey⟩)
    · exact ⟨AList.lookup_insert _, AList.lookup_insert _⟩
    · refine ⟨?_, ?_⟩
      · simp only [FriendServer.add2Cache, AList.lookup_insert_ite, if_neg hkey]
        exact hvo'.1
      · simp only [FriendServer.add2Cache, AList.lookup_insert_ite, if_neg (hfresh hvo')]
        exact hvo'.2

variable (halone : ∀ {v}, vo.Positive → InCache s v → ¬Joins v vo.src vo.tgt)
  (haccepted : vo.status = .accept → vo.Positive)

include halone haccepted

/-- **A request comes into the cache**, the only one between its players. -/
lemma Consistent.add2Cache : Consistent (s.add2Cache vo) where
  entry := by
    intro status src tgt id hlookup
    simp only [FriendServer.add2Cache, AList.lookup_insert_ite] at hlookup
    split_ifs at hlookup with hkey
    · obtain rfl := Option.some.inj hlookup
      cases hkey
      exact AList.lookup_insert _
    · have hcache := h.inCache hlookup
      have hid : ¬id = vo.id := hfresh hcache
      simp only [FriendServer.add2Cache, AList.lookup_insert_ite, hid, if_false]
      exact hcache.2
  unique := by
    intro v v' hv hv' hpos hjoins
    rcases (h.inCache_add2Cache hfresh).mp hv with rfl | ⟨hcache, -⟩
    · rcases (h.inCache_add2Cache hfresh).mp hv' with rfl | ⟨hcache', -⟩
      · rfl
      · exact absurd hjoins (halone hpos hcache')
    · rcases (h.inCache_add2Cache hfresh).mp hv' with rfl | ⟨hcache', -⟩
      · exact absurd (Joins.trans hjoins (.inl ⟨rfl, rfl⟩))
          (halone (hjoins.positive hpos.1 hpos.2) hcache)
      · exact h.unique hcache hcache' hpos hjoins
  accepted := by
    intro v hv hstatus
    rcases (h.inCache_add2Cache hfresh).mp hv with rfl | ⟨hcache, -⟩
    · exact haccepted hstatus
    · exact h.accepted hcache hstatus

omit halone haccepted in
/-- A request that is not accepted changes nothing between players. -/
lemma Consistent.accepted_add2Cache_of_ne (hstatus : vo.status ≠ .accept) :
    Accepted (s.add2Cache vo) a b ↔ Accepted s a b := by
  constructor
  · rintro ⟨v, hv, haccept, hjoins⟩
    rcases (h.inCache_add2Cache hfresh).mp hv with rfl | ⟨hcache, -⟩
    · exact absurd haccept hstatus
    · exact ⟨v, hcache, haccept, hjoins⟩
  · rintro ⟨v, hv, haccept, hjoins⟩
    refine ⟨v, (h.inCache_add2Cache hfresh).mpr (.inr ⟨hv, ?_⟩), haccept, hjoins⟩
    intro hkey
    exact hstatus ((congrArg Prod.fst hkey).symm.trans haccept)

omit haccepted in
/-- An accepted one makes its players accepted. -/
lemma Consistent.accepted_add2Cache (hstatus : vo.status = .accept) (hpos : vo.Positive) :
    Accepted (s.add2Cache vo) a b ↔ Accepted s a b ∨ Joins vo a b := by
  constructor
  · rintro ⟨v, hv, haccept, hjoins⟩
    rcases (h.inCache_add2Cache hfresh).mp hv with rfl | ⟨hcache, -⟩
    · exact .inr hjoins
    · exact .inl ⟨v, hcache, haccept, hjoins⟩
  · rintro (⟨v, hv, haccept, hjoins⟩ | hjoins)
    · refine ⟨v, (h.inCache_add2Cache hfresh).mpr (.inr ⟨hv, ?_⟩), haccept, hjoins⟩
      intro hkey
      obtain ⟨hsrc, htgt⟩ := Prod.mk.inj (Prod.mk.inj hkey).2
      exact halone hpos hv (.inl ⟨hsrc, htgt⟩)
    · exact ⟨vo, (h.inCache_add2Cache hfresh).mpr (.inl rfl), hstatus, hjoins⟩

end Add2Cache

section Move

variable {update : Status} (h : Consistent s) (hvo : InCache s vo) (hpos : vo.Positive)

include h hvo

lemma Consistent.id_ne_of_casStatus {v : FriendReqVO} (hv : InCache (s.casStatus vo update) v) :
    v.id ≠ vo.id := by
  obtain ⟨hcache, hne⟩ := (h.inCache_casStatus hvo).mp hv
  exact fun hid => hne (hvo.eq_of_id_eq hcache hid)

include hpos

lemma Consistent.not_joins_of_casStatus {v : FriendReqVO}
    (hv : InCache (s.casStatus vo update) v) : ¬Joins v vo.src vo.tgt := by
  obtain ⟨hcache, hne⟩ := (h.inCache_casStatus hvo).mp hv
  exact fun hjoins => hne (h.unique hvo hcache hpos hjoins)

/-- **A request changes its table.** -/
lemma Consistent.move :
    Consistent ((s.casStatus vo update).add2Cache { vo with status := update }) :=
  (h.casStatus hvo).add2Cache (fun hv => h.id_ne_of_casStatus hvo hv)
    (fun _ hv => h.not_joins_of_casStatus hvo hpos hv) fun _ => hpos

/-- Between its players nothing was accepted if the request was not. -/
lemma Consistent.not_accepted (hstatus : vo.status ≠ .accept) (hjoins : Joins vo a b) :
    ¬Accepted s a b := by
  rintro ⟨v, hv, haccept, hjoins'⟩
  obtain rfl := h.unique hvo hv hpos (hjoins.trans hjoins')
  exact hstatus haccept

/-- **A request is accepted.** -/
lemma Consistent.accepted_move :
    Accepted ((s.casStatus vo .accept).add2Cache { vo with status := .accept }) a b ↔
      Accepted s a b ∨ Joins vo a b := by
  have hadd : Accepted ((s.casStatus vo .accept).add2Cache { vo with status := .accept }) a b ↔
      Accepted (s.casStatus vo .accept) a b ∨ Joins vo a b :=
    (h.casStatus hvo).accepted_add2Cache (fun hv => h.id_ne_of_casStatus hvo hv)
      (fun _ hv => h.not_joins_of_casStatus hvo hpos hv) rfl hpos
  rw [hadd, h.accepted_casStatus hvo hpos]
  by_cases hjoins : Joins vo a b
  · exact ⟨fun _ => .inr hjoins, fun _ => .inr hjoins⟩
  · exact ⟨Or.imp_left And.left, Or.imp_left fun haccepted => ⟨haccepted, hjoins⟩⟩

/-- A request that is not accepted takes nothing along when it leaves the cache. -/
lemma Consistent.accepted_casStatus_of_ne (hstatus : vo.status ≠ .accept) :
    Accepted (s.casStatus vo update) a b ↔ Accepted s a b := by
  rw [h.accepted_casStatus hvo hpos]
  refine and_iff_left_of_imp ?_
  intro haccepted hjoins
  exact h.not_accepted hvo hpos hstatus hjoins haccepted

end Move

/-- A change from the status that the request has. -/
lemma statusChg_run (vo : FriendReqVO) (update : Status) (removeOnly : Bool) :
    (statusChg vo vo.status update removeOnly).run s = .ok true
      (if removeOnly then s.casStatus vo update
        else (s.casStatus vo update).add2Cache { vo with status := update }) := by
  unfold statusChg
  rw [if_pos rfl]
  cases removeOnly with
  | true => rfl
  | false => rfl

/-- A change from a status that the request has. -/
lemma statusChg_run_of_eq {expect : Status} (h : vo.status = expect) (update : Status)
    (removeOnly : Bool) :
    (statusChg vo expect update removeOnly).run s = .ok true
      (if removeOnly then s.casStatus vo update
        else (s.casStatus vo update).add2Cache { vo with status := update }) := by
  rw [← h]
  exact statusChg_run vo update removeOnly

/-- A change from another status does nothing. -/
lemma statusChg_run_of_ne {expect : Status} (h : vo.status ≠ expect) (update : Status)
    (removeOnly : Bool) : (statusChg vo expect update removeOnly).run s = .ok false s := by
  unfold statusChg
  rw [if_neg h]
  rfl

/-- **The requests with blocked players leave the cache**, and no others. What is left of the list
are the players that are not blocked, if there was a request with each. -/
lemma checkAndRemoveReq_run (player : Int32) (vo : FriendListVO) (remove : Bool)
    {reqList : List Int32} (h : Consistent s) (hnodup : reqList.Nodup) :
    ∃ rest s', (checkAndRemoveReq player vo remove reqList).run s = .ok rest s' ∧
      Consistent s' ∧ s'.players = s.players ∧ s'.friendListDAO = s.friendListDAO ∧
      (∀ v, InCache s' v ↔
        InCache s v ∧ ¬(v.Positive ∧ ∃ pid ∈ reqList, pid ∈ vo.blackList ∧ Joins v pid player)) ∧
      (remove = true →
        (∀ pid ∈ reqList, ∃ v, InCache s v ∧ v.Positive ∧ Joins v pid player) →
        ∀ pid, pid ∈ rest ↔ pid ∈ reqList ∧ pid ∉ vo.blackList) := by
  induction reqList generalizing s with
  | nil =>
    refine ⟨[], s, rfl, h, rfl, rfl, ?_, ?_⟩
    · intro v
      simp
    · intro _ _ pid
      simp
  | cons pid reqList ih =>
    obtain ⟨hpid, hnodup⟩ := List.nodup_cons.mp hnodup
    rw [checkAndRemoveReq]
    by_cases hblack : pid ∈ vo.blackList
    · obtain ⟨r, hrun, hfound, hmissing⟩ := getSrcOrTgt_run h pid player
      simp only [if_pos hblack]
      rw [run_bind, hrun]
      cases r with
      | none =>
        obtain ⟨rest, s', hrest, hcons, hplayers, hdao, hcache, -⟩ := ih h hnodup
        refine ⟨pid :: rest, s', ?_, hcons, hplayers, hdao, ?_, ?_⟩
        · simp only [run_bind, hrest]
          rfl
        · intro v
          rw [hcache, List.exists_mem_cons_iff]
          refine and_congr_right fun hv => not_congr (and_congr_right fun hpos => ?_)
          exact (or_iff_right fun hjoins => hmissing rfl v hv hpos hjoins.2).symm
        · intro _ hall
          obtain ⟨v, hv, hpos, hjoins⟩ := hall pid List.mem_cons_self
          exact absurd hjoins (hmissing rfl v hv hpos)
      | some rvo =>
        obtain ⟨hrvo, hrpos, hrjoins⟩ := hfound rvo rfl
        have hcons₁ : Consistent (s.casStatus rvo .delete) := h.casStatus hrvo
        obtain ⟨rest, s', hrest, hcons, hplayers, hdao, hcache, hleft⟩ := ih hcons₁ hnodup
        refine ⟨if remove then rest else pid :: rest, s', ?_, hcons, hplayers, hdao, ?_, ?_⟩
        · simp only [run_bind, statusChg_run, if_true, hrest]
          rfl
        · intro v
          rw [hcache, h.inCache_casStatus hrvo, and_assoc, List.exists_mem_cons_iff]
          refine and_congr_right fun hv => ?_
          constructor
          · rintro ⟨hne, hnot⟩ ⟨hpos, ⟨-, hjoins⟩ | hrest⟩
            · exact hne (h.unique hrvo hv hrpos (hrjoins.trans hjoins))
            · exact hnot ⟨hpos, hrest⟩
          · refine fun hnot => ⟨?_, fun hrest => hnot ⟨hrest.1, .inr hrest.2⟩⟩
            rintro rfl
            exact hnot ⟨hrpos, .inl ⟨hblack, hrjoins⟩⟩
        · intro hremove hall q
          have hall' : ∀ q ∈ reqList, ∃ v, InCache (s.casStatus rvo .delete) v ∧ v.Positive ∧
              Joins v q player := by
            intro q hq
            obtain ⟨v, hv, hpos, hjoins⟩ := hall q (List.mem_cons_of_mem _ hq)
            refine ⟨v, (h.inCache_casStatus hrvo).mpr ⟨hv, ?_⟩, hpos, hjoins⟩
            rintro rfl
            obtain rfl := hjoins.right_unique hrjoins
            exact hpid hq
          rw [hremove, if_pos rfl, hleft hremove hall', List.mem_cons]
          constructor
          · rintro ⟨hq, hnot⟩
            exact ⟨.inr hq, hnot⟩
          · rintro ⟨rfl | hq, hnot⟩
            · exact absurd hblack hnot
            · exact ⟨hq, hnot⟩
    · simp only [if_neg hblack]
      obtain ⟨rest, s', hrest, hcons, hplayers, hdao, hcache, hleft⟩ := ih h hnodup
      refine ⟨pid :: rest, s', ?_, hcons, hplayers, hdao, ?_, ?_⟩
      · simp only [run_bind, hrest]
        rfl
      · intro v
        rw [hcache, List.exists_mem_cons_iff]
        refine and_congr_right fun hv => not_congr (and_congr_right fun hpos => ?_)
        exact (or_iff_right fun hjoins => hblack hjoins.1).symm
      · intro hremove hall q
        rw [List.mem_cons, hleft hremove fun q hq => hall q (List.mem_cons_of_mem _ hq),
          List.mem_cons]
        constructor
        · rintro (rfl | ⟨hq, hnot⟩)
          · exact ⟨.inl rfl, hblack⟩
          · exact ⟨.inr hq, hnot⟩
        · rintro ⟨rfl | hq, hnot⟩
          · exact .inl rfl
          · exact .inr ⟨hq, hnot⟩

end SrgpGame.Friend
