import SrgpGame.Friend.Friendship

set_option autoImplicit false

/-!
# Live requests

A request is live as long as it is sent or accepted. The cache never forgets a request, but its
tables list the live ones only, each in the table of its status. Between two players there is one
live request at most, and both find it.

Every change of the cache writes one request: a new one comes, a live one changes its status and its
table, or it is listed no more. So the invariant is kept by one lemma, and the operations only say
which request they write.

## Main definitions

* `IsLive` — a request that is sent or accepted.
* `Complete` — the invariant of the cache: a request is listed just if it is live.
* `Written` — the cache after one request is written.
* `load`, `SavedWell` — the requests that the server reads when it starts.
* `Agrees` — what the tables, the requests and the lookups are to say.

## Main results

* `Complete.of_written` — the invariant is kept when a request is written.
* `Complete.step`, `Complete.load` — it is kept by every action, and there from the start.
* `agrees_run` — after any run the tables, the requests and the lookups agree.
* `Complete.savedWell` — what is live when the server stops can be read when it starts again.
-/

namespace SrgpGame.Friend

open EStateM

variable {s s' s'' : FriendServer} {vo vo' : FriendReqVO} {me pid : Int32} {listed listed' : Prop}

/-! ## The invariant -/

/-- A request that is sent or accepted. -/
def FriendReqVO.IsLive (vo : FriendReqVO) : Prop := vo.status = .requestSend ∨ vo.status = .accept

/-- A deleted request is not live. -/
lemma not_isLive_of_delete (h : vo.status = .delete) : ¬vo.IsLive := by
  rintro (hsend | haccept)
  · cases h.symm.trans hsend
  · cases h.symm.trans haccept

instance (vo : FriendReqVO) : Decidable vo.IsLive := inferInstanceAs (Decidable (_ ∨ _))

instance (vo : FriendReqVO) : Decidable vo.Positive := inferInstanceAs (Decidable (_ ∧ _))

instance (vo : FriendReqVO) (a b : Int32) : Decidable (Joins vo a b) :=
  inferInstanceAs (Decidable (_ ∨ _))

/-- **The invariant.** The key of a request is its id, its players have positive ids, and the tables
list it just if it is live. -/
structure Complete (s : FriendServer) : Prop where
  consistent : Consistent s
  key : ∀ {id vo}, s.allReqs.lookup id = some vo → vo.id = id
  positive : ∀ {id vo}, s.allReqs.lookup id = some vo → vo.Positive
  listed : ∀ {id vo}, s.allReqs.lookup id = some vo → (InCache s vo ↔ vo.IsLive)

/-- The cache only counts. -/
lemma Complete.congr (h : Complete s) (hall : s'.allReqs = s.allReqs)
    (hstatus : s'.reqsByStatus = s.reqsByStatus) : Complete s' := by
  obtain ⟨players, dao, allReqs, reqsByStatus⟩ := s'
  obtain rfl : allReqs = s.allReqs := hall
  obtain rfl : reqsByStatus = s.reqsByStatus := hstatus
  exact ⟨h.consistent.congr rfl rfl, h.key, h.positive, h.listed⟩

/-- A cache without requests. -/
lemma complete_of_empty (hall : s.allReqs = ∅) (hstatus : s.reqsByStatus = ∅) : Complete s := by
  have hnone : ∀ {id vo}, s.allReqs.lookup id ≠ some vo := by
    intro id vo hlookup
    rw [hall] at hlookup
    cases hlookup
  refine ⟨consistent_empty.congr hall hstatus, ?_, ?_, ?_⟩
  · intro id vo hlookup
    exact absurd hlookup hnone
  · intro id vo hlookup
    exact absurd hlookup hnone
  · intro id vo hlookup
    exact absurd hlookup hnone

lemma Complete.isLive (h : Complete s) (hvo : InCache s vo) : vo.IsLive := (h.listed hvo.2).mp hvo

lemma Complete.positive_of_inCache (h : Complete s) (hvo : InCache s vo) : vo.Positive :=
  h.positive hvo.2

/-! ## Writing a request -/

/-- **A request is written.** The cache has it under its id, and lists it if `listed`; nothing else
changes. -/
structure Written (s s' : FriendServer) (vo : FriendReqVO) (listed : Prop) : Prop where
  consistent : Consistent s'
  allReqs : ∀ id, s'.allReqs.lookup id = if id = vo.id then some vo else s.allReqs.lookup id
  inCache : ∀ v, InCache s' v ↔ (v = vo ∧ listed) ∨ (InCache s v ∧ v.id ≠ vo.id)

/-- **The invariant is kept** when a request is listed just if it is live. -/
lemma Complete.of_written (h : Complete s) (hw : Written s s' vo listed) (hpos : vo.Positive)
    (hlive : listed ↔ vo.IsLive) : Complete s' := by
  refine ⟨hw.consistent, ?_, ?_, ?_⟩
  · intro id v hlookup
    rw [hw.allReqs] at hlookup
    split_ifs at hlookup with hid
    · obtain rfl := Option.some.inj hlookup
      exact hid.symm
    · exact h.key hlookup
  · intro id v hlookup
    rw [hw.allReqs] at hlookup
    split_ifs at hlookup
    · obtain rfl := Option.some.inj hlookup
      exact hpos
    · exact h.positive hlookup
  · intro id v hlookup
    rw [hw.allReqs] at hlookup
    rw [hw.inCache]
    split_ifs at hlookup with hid
    · obtain rfl := Option.some.inj hlookup
      rw [← hlive]
      constructor
      · rintro (⟨-, hlisted⟩ | ⟨-, hne⟩)
        · exact hlisted
        · exact absurd rfl hne
      · intro hlisted
        exact .inl ⟨rfl, hlisted⟩
    · have hne : v.id ≠ vo.id := by
        rw [h.key hlookup]
        exact hid
      rw [← h.listed hlookup]
      constructor
      · rintro (⟨rfl, -⟩ | ⟨hcache, -⟩)
        · exact absurd rfl hne
        · exact hcache
      · intro hcache
        exact .inr ⟨hcache, hne⟩

/-- A request is written twice. -/
lemma Written.trans (h : Written s s' vo listed) (h' : Written s' s'' vo' listed')
    (hid : vo'.id = vo.id) : Written s s'' vo' listed' where
  consistent := h'.consistent
  allReqs := by
    intro id
    rw [h'.allReqs, h.allReqs]
    by_cases heq : id = vo'.id
    · rw [if_pos heq, if_pos heq]
    · rw [if_neg heq, if_neg heq, if_neg (fun heq' => heq (heq'.trans hid.symm))]
  inCache := by
    intro v
    rw [h'.inCache, h.inCache, hid]
    constructor
    · rintro (hnew | ⟨⟨rfl, -⟩ | ⟨hcache, -⟩, hne⟩)
      · exact .inl hnew
      · exact absurd rfl hne
      · exact .inr ⟨hcache, hne⟩
    · rintro (hnew | ⟨hcache, hne⟩)
      · exact .inl hnew
      · exact .inr ⟨.inr ⟨hcache, hne⟩, hne⟩

/-- A request leaves its table. -/
lemma Consistent.written_casStatus (h : Consistent s) (hvo : InCache s vo) (update : Status) :
    Written s (s.casStatus vo update) { vo with status := update } False where
  consistent := h.casStatus hvo
  allReqs := fun id => AList.lookup_insert_ite s.allReqs vo.id id _
  inCache := by
    intro v
    rw [h.inCache_casStatus hvo]
    constructor
    · rintro ⟨hcache, hne⟩
      exact .inr ⟨hcache, fun hid => hne (hvo.eq_of_id_eq hcache hid)⟩
    · rintro (⟨-, hfalse⟩ | ⟨hcache, hne⟩)
      · exact hfalse.elim
      · refine ⟨hcache, ?_⟩
        rintro rfl
        exact hne rfl

/-- A request comes into the table of its status, the only one between its players. -/
lemma Consistent.written_add2Cache (h : Consistent s) (hpos : vo.Positive)
    (hfresh : ∀ {v}, InCache s v → v.id ≠ vo.id)
    (halone : ∀ {v}, InCache s v → ¬Joins v vo.src vo.tgt) :
    Written s (s.add2Cache vo) vo True where
  consistent := h.add2Cache hfresh (fun _ hv => halone hv) fun _ => hpos
  allReqs := fun id => AList.lookup_insert_ite s.allReqs vo.id id _
  inCache := by
    intro v
    rw [h.inCache_add2Cache hfresh]
    constructor
    · rintro (rfl | ⟨hcache, -⟩)
      · exact .inl ⟨rfl, trivial⟩
      · exact .inr ⟨hcache, hfresh hcache⟩
    · rintro (⟨rfl, -⟩ | ⟨hcache, -⟩)
      · exact .inl rfl
      · refine .inr ⟨hcache, fun hkey => ?_⟩
        obtain ⟨hsrc, htgt⟩ := Prod.mk.inj (Prod.mk.inj hkey).2
        exact halone hcache (.inl ⟨hsrc, htgt⟩)

section Changes

variable (h : Complete s)

include h

/-- **A new request** comes into the cache. -/
lemma Complete.add2Cache (hfresh : s.allReqs.lookup vo.id = none) (hpos : vo.Positive)
    (hlive : vo.IsLive) (halone : ∀ v, InCache s v → v.Positive → ¬Joins v vo.src vo.tgt) :
    Complete (s.add2Cache vo) := by
  have hwritten : Written s (s.add2Cache vo) vo True :=
    h.consistent.written_add2Cache hpos (fun hv => hv.id_ne_of_fresh hfresh)
      fun hv => halone _ hv (h.positive_of_inCache hv)
  exact h.of_written hwritten hpos (iff_of_true trivial hlive)

variable (hvo : InCache s vo)

include hvo

/-- **A request is deleted.** -/
lemma Complete.casStatus : Complete (s.casStatus vo .delete) := by
  have hpos := h.positive_of_inCache hvo
  exact h.of_written (h.consistent.written_casStatus hvo .delete) hpos
    (iff_of_false not_false (not_isLive_of_delete rfl))

/-- A request changes its table. -/
lemma Complete.written_move (update : Status) :
    Written s ((s.casStatus vo update).add2Cache { vo with status := update })
      { vo with status := update } True := by
  have hpos := h.positive_of_inCache hvo
  have hleave := h.consistent.written_casStatus hvo update
  have hcome := @Consistent.written_add2Cache _ { vo with status := update } hleave.consistent hpos
    (fun hv => h.consistent.id_ne_of_casStatus hvo hv)
    (fun hv => h.consistent.not_joins_of_casStatus hvo hpos hv)
  exact hleave.trans hcome rfl

/-- **A request is accepted.** -/
lemma Complete.accept :
    Complete ((s.casStatus vo .accept).add2Cache { vo with status := .accept }) := by
  have hpos := h.positive_of_inCache hvo
  exact h.of_written (h.written_move hvo .accept) hpos (iff_of_true trivial (.inr rfl))

/-- **A request is rejected**: for a moment it is in the table of the rejected ones, then in
none. -/
lemma Complete.reject :
    Complete (((s.casStatus vo .reject).add2Cache { vo with status := .reject }).casStatus
      { vo with status := .reject } .delete) := by
  have hpos := h.positive_of_inCache hvo
  have hmove := h.written_move hvo .reject
  have hmoved := (hmove.inCache { vo with status := .reject }).mpr (.inl ⟨rfl, trivial⟩)
  have hleave := hmove.consistent.written_casStatus hmoved .delete
  exact h.of_written (hmove.trans hleave rfl) hpos
    (iff_of_false not_false (not_isLive_of_delete rfl))

end Changes

/-! ## Operations -/

section Operations

variable (h : Complete s)

include h

/-- A player without a positive id is not known. -/
lemma Complete.addNewFriend (env : Surroundings) {id : Int32} (hme : 0 < me)
    (hpid : env.hasBaseInfo pid → 0 < pid) (hfresh : s.allReqs.lookup id = none) :
    Complete ((addNewFriend env id me pid).finalState s) := by
  rcases addNewFriend_cases h.consistent env id me pid with hsame | ⟨hknown, hmissing, hsent⟩
  · rw [hsame]
    exact h
  · rw [hsent]
    exact h.add2Cache hfresh ⟨hme, hpid hknown⟩ (.inl rfl) hmissing

/-- The lists of the players do not count. -/
lemma Complete.befriend {friend : Int32} : Complete (s.befriend pid friend) := h.congr rfl rfl

lemma Complete.addNewFriendFeedback (env : Surroundings) (accept : Bool) :
    Complete ((addNewFriendFeedback env me pid accept).finalState s) := by
  rcases addNewFriendFeedback_cases h.consistent env me pid accept with
    hsame | ⟨req, hreq, -, -, -, -, hrejected | ⟨-, -, haccepted⟩⟩
  · rw [hsame]
    exact h
  · rw [hrejected]
    exact h.reject hreq
  · rw [haccepted _ rfl]
    split_ifs
    · exact (h.accept hreq).befriend.befriend
    · exact (h.accept hreq).befriend

lemma Complete.deleteFriend : Complete ((deleteFriend me pid).finalState s) := by
  rcases deleteFriend_cases h.consistent me pid with hsame | ⟨vo, friendList, hvo, -, -, -, hparted⟩
  · rw [hsame]
    exact h
  · rw [hparted]
    unfold FriendServer.unfriend
    simp only
    split
    · exact (h.casStatus hvo).congr rfl rfl
    · exact (h.casStatus hvo).congr rfl rfl

lemma Complete.getOrNewFriendList : Complete ((getOrNewFriendList me).finalState s) := by
  unfold Friend.getOrNewFriendList
  rw [finalState_get_bind]
  split
  · exact h
  · exact h.congr rfl rfl

/-- A friend who is removed before being blocked is deleted. -/
lemma Complete.removeFriend (friendList : FriendListVO) :
    Complete ((removeFriend me pid friendList).finalState s) := by
  unfold Friend.removeFriend
  split_ifs
  · rw [finalState_modify_bind]
    have hset : Complete (s.setFriendList me
        { friendList with myFriends := friendList.myFriends.erase pid }) := h.congr rfl rfl
    exact @Complete.deleteFriend _ me pid hset
  · exact h

lemma Complete.blockPlayer : Complete ((blockPlayer me pid).finalState s) := by
  unfold Friend.blockPlayer
  rw [finalState_get_bind]
  split
  · exact h
  · exact h.congr rfl rfl

lemma Complete.addFriend2BlackList (env : Surroundings) :
    Complete ((addFriend2BlackList env me pid).finalState s) := by
  unfold Friend.addFriend2BlackList
  rw [finalState_ofExcept_bind]
  split
  case h_2 => exact h
  rw [finalState_ofExcept_bind]
  split
  case h_2 => exact h
  refine finalState_bind_of_keeps h.getOrNewFriendList fun friendList s₁ h₁ => ?_
  exact finalState_bind_of_keeps (h₁.removeFriend friendList) fun _ s₂ h₂ => h₂.blockPlayer

lemma Complete.addRemoveFromBlackList :
    Complete ((addRemoveFromBlackList me pid).finalState s) := by
  unfold Friend.addRemoveFromBlackList
  rw [finalState_get_bind]
  split
  · exact h
  · exact h.congr rfl rfl

lemma Complete.saveAll : Complete ((saveAll pid).finalState s) := by
  unfold Friend.saveAll
  rw [finalState_get_bind]
  split
  · exact h
  · exact h.congr rfl rfl

lemma Complete.removePlayer : Complete ((removePlayer pid).finalState s) := h.congr rfl rfl

omit h in
/-- The requests with blocked players are deleted, one after the other. -/
lemma Complete.checkAndRemoveReq (h : Complete s) (player : Int32) (vo : FriendListVO)
    (remove : Bool) (reqList : List Int32) :
    Complete ((checkAndRemoveReq player vo remove reqList).finalState s) := by
  induction reqList generalizing s with
  | nil => exact h
  | cons pid reqList ih =>
    rw [Friend.checkAndRemoveReq]
    by_cases hblack : pid ∈ vo.blackList
    · rw [if_pos hblack]
      obtain ⟨r, hrun, hfound, -⟩ := getSrcOrTgt_run h.consistent pid player
      rw [finalState_bind_of_ok hrun]
      cases r with
      | none => exact finalState_bind_of_keeps (ih h) fun _ _ h' => h'
      | some rvo =>
        rw [finalState_bind_of_ok (statusChg_run rvo .delete true)]
        have hdeleted := h.casStatus (hfound rvo rfl).1
        exact finalState_bind_of_keeps (ih hdeleted) fun _ _ h' => h'
    · rw [if_neg hblack]
      exact finalState_bind_of_keeps (ih h) fun _ _ h' => h'

lemma Complete.buildAsLoad : Complete ((buildAsLoad pid).finalState s) := by
  unfold Friend.buildAsLoad
  rw [finalState_get_bind]
  split
  · exact h.congr rfl rfl
  · rename_i vo _
    rw [finalState_modify_bind]
    have hset : Complete (s.setFriendList pid vo) := h.congr rfl rfl
    refine finalState_bind_of_keeps (hset.checkAndRemoveReq pid vo false _) fun _ s₁ h₁ => ?_
    refine finalState_bind_of_keeps (h₁.checkAndRemoveReq pid vo true _) fun _ s₂ h₂ => ?_
    exact h₂.congr rfl rfl

end Operations

/-! ## Start -/

/-- `load`, as far as requests are concerned: those that were rejected or deleted are left out. -/
def load (s : FriendServer) : List FriendReqVO → FriendServer
  | [] => s
  | vo :: all =>
    if vo.status = .delete ∨ vo.status = .reject then load s all
    else load (s.add2Cache vo) all

/-- **What the server can read when it starts**: requests between players, with different ids, no
two of them live between the same players. None has been saved before it was sent. -/
structure SavedWell (all : List FriendReqVO) : Prop where
  sent : ∀ vo ∈ all, vo.status ≠ .create ∧ vo.Positive
  ids : all.Pairwise fun vo vo' => vo.id ≠ vo'.id
  pairs : all.Pairwise fun vo vo' => vo.IsLive → vo'.IsLive → ¬Joins vo' vo.src vo.tgt

lemma SavedWell.tail {all : List FriendReqVO} (h : SavedWell (vo :: all)) : SavedWell all where
  sent := fun v hv => h.sent v (List.mem_cons_of_mem _ hv)
  ids := (List.pairwise_cons.mp h.ids).2
  pairs := (List.pairwise_cons.mp h.pairs).2

/-- **The invariant is there when the server has started**, if what it reads fits to what is in the
cache. -/
lemma Complete.load {all : List FriendReqVO} (h : Complete s) (hsaved : SavedWell all)
    (hfresh : ∀ vo ∈ all, s.allReqs.lookup vo.id = none)
    (halone : ∀ vo ∈ all, vo.IsLive → ∀ v, InCache s v → ¬Joins v vo.src vo.tgt) :
    Complete (load s all) := by
  induction all generalizing s with
  | nil => exact h
  | cons vo all ih =>
    rw [Friend.load]
    split_ifs with hdead
    · refine ih h hsaved.tail ?_ ?_
      · intro v hv
        exact hfresh v (List.mem_cons_of_mem _ hv)
      · intro v hv
        exact halone v (List.mem_cons_of_mem _ hv)
    · obtain ⟨hcreate, hpos⟩ := hsaved.sent vo List.mem_cons_self
      have hlive : vo.IsLive := by
        obtain ⟨hdelete, hreject⟩ := not_or.mp hdead
        unfold FriendReqVO.IsLive
        cases hstatus : vo.status with
        | create => exact absurd hstatus hcreate
        | requestSend => exact .inl rfl
        | reject => exact absurd hstatus hreject
        | accept => exact .inr rfl
        | delete => exact absurd hstatus hdelete
      have hnew : s.allReqs.lookup vo.id = none := hfresh vo List.mem_cons_self
      have hadd : Complete (s.add2Cache vo) :=
        h.add2Cache hnew hpos hlive fun v hv _ => halone vo List.mem_cons_self hlive v hv
      have hother : ∀ {v}, InCache s v → v.id ≠ vo.id := fun hv => hv.id_ne_of_fresh hnew
      have hids := (List.pairwise_cons.mp hsaved.ids).1
      have hpairs := (List.pairwise_cons.mp hsaved.pairs).1
      refine ih hadd hsaved.tail ?_ ?_
      · intro v hv
        simp only [FriendServer.add2Cache, AList.lookup_insert_ite, if_neg (hids v hv).symm]
        exact hfresh v (List.mem_cons_of_mem _ hv)
      · intro v hv hvlive u hu hjoins
        rcases (h.consistent.inCache_add2Cache hother).mp hu with rfl | ⟨hcache, -⟩
        · exact hpairs v hv hlive hvlive (Joins.trans hjoins (.inl ⟨rfl, rfl⟩))
        · exact halone v (List.mem_cons_of_mem _ hv) hvlive u hcache hjoins

/-- The server when it has started, with the requests `all` and any players. -/
def FriendServer.started (players : AList fun _ : Int32 => Option FriendListVO)
    (friendListDAO : AList fun _ : Int32 => FriendListVO) (all : List FriendReqVO) :
    FriendServer :=
  load ⟨players, friendListDAO, ∅, ∅⟩ all

lemma complete_started {all : List FriendReqVO} (hsaved : SavedWell all)
    (players : AList fun _ : Int32 => Option FriendListVO)
    (friendListDAO : AList fun _ : Int32 => FriendListVO) :
    Complete (.started players friendListDAO all) := by
  refine Complete.load (complete_of_empty rfl rfl) hsaved ?_ ?_
  · intro vo _
    rfl
  · intro vo _ _ v hv
    cases hv.1

/-- **What is live when the server stops** can be read when it starts again. -/
lemma Complete.savedWell (h : Complete s) {all : List FriendReqVO}
    (hall : ∀ vo ∈ all, s.allReqs.lookup vo.id = some vo ∧ vo.IsLive)
    (hids : all.Pairwise fun vo vo' => vo.id ≠ vo'.id) : SavedWell all where
  sent := by
    intro vo hvo
    obtain ⟨hlookup, hlive⟩ := hall vo hvo
    refine ⟨?_, h.positive hlookup⟩
    intro hcreate
    rcases hlive with hsend | haccept
    · cases hcreate.symm.trans hsend
    · cases hcreate.symm.trans haccept
  ids := hids
  pairs := by
    refine hids.imp_of_mem ?_
    intro vo vo' hvo hvo' hne hlive hlive' hjoins
    have hcache := (h.listed (hall vo hvo).1).mpr hlive
    have hcache' := (h.listed (hall vo' hvo').1).mpr hlive'
    rw [h.consistent.unique hcache hcache' (h.positive_of_inCache hcache) hjoins] at hne
    exact hne rfl

/-! ## Runs -/

/-- Who asks has a positive id, and so has every player that is known; a new request gets an id that
no other one has. -/
def Asked (s : FriendServer) : Action → Prop
  | .addNewFriend env id me pid =>
    0 < me ∧ (env.hasBaseInfo pid → 0 < pid) ∧ s.allReqs.lookup id = none
  | _ => True

instance (s : FriendServer) : (action : Action) → Decidable (Asked s action)
  | .addNewFriend _ id me pid =>
    @instDecidableAnd _ _ (Int32.decLt 0 me)
      (@instDecidableAnd _ _ (@forall_prop_decidable _ _ (instDecidableEqBool _ true)
        fun _ => Int32.decLt 0 pid) (Option.decidableEqNone (s.allReqs.lookup id)))
  | .addNewFriendFeedback .. => isTrue trivial
  | .deleteFriend .. => isTrue trivial
  | .addFriend2BlackList .. => isTrue trivial
  | .addRemoveFromBlackList .. => isTrue trivial
  | .saveAll _ => isTrue trivial
  | .removePlayer _ => isTrue trivial
  | .buildAsLoad _ => isTrue trivial

/-- **Every action keeps the invariant.** -/
lemma Complete.step (h : Complete s) {action : Action} (hasked : Asked s action) :
    Complete (step s action) := by
  cases action with
  | addNewFriend env id me pid => exact h.addNewFriend env hasked.1 hasked.2.1 hasked.2.2
  | addNewFriendFeedback env me tgtPid accept => exact h.addNewFriendFeedback env accept
  | deleteFriend me pid => exact h.deleteFriend
  | addFriend2BlackList env me pid => exact h.addFriend2BlackList env
  | addRemoveFromBlackList me pid => exact h.addRemoveFromBlackList
  | saveAll pid => exact h.saveAll
  | removePlayer pid => exact h.removePlayer
  | buildAsLoad pid => exact h.buildAsLoad

/-- **What the cache of requests is to be.** -/
structure Agrees (s : FriendServer) : Prop where
  /-- There is one live request at most between two players. -/
  unique : ∀ id vo id' vo', s.allReqs.lookup id = some vo → s.allReqs.lookup id' = some vo' →
    vo.IsLive → vo'.IsLive → Joins vo' vo.src vo.tgt → id' = id
  /-- A live request is found from both sides. -/
  found : ∀ id vo, s.allReqs.lookup id = some vo → vo.IsLive →
    (getSrcOrTgt vo.src vo.tgt).run s = .ok (some vo) s ∧
      (getSrcOrTgt vo.tgt vo.src).run s = .ok (some vo) s
  /-- The table of a status lists the live requests that have it, and no others. -/
  listed : ∀ status src tgt id, s.reqsByStatus.lookup (status, src, tgt) = some id ↔
    ∃ vo, s.allReqs.lookup id = some vo ∧ vo.IsLive ∧ vo.status = status ∧ vo.src = src ∧
      vo.tgt = tgt

/-- A request between two players is found by both. -/
lemma Complete.getSrcOrTgt (h : Complete s) (hvo : InCache s vo) {a b : Int32}
    (hjoins : Joins vo a b) : (getSrcOrTgt a b).run s = .ok (some vo) s := by
  have hpos := h.positive_of_inCache hvo
  obtain ⟨r, hrun, hfound, hmissing⟩ := getSrcOrTgt_run h.consistent a b
  cases r with
  | none => exact absurd hjoins (hmissing rfl vo hvo hpos)
  | some v =>
    obtain ⟨hv, -, hjoins'⟩ := hfound v rfl
    rw [hrun, h.consistent.unique hvo hv hpos (hjoins.trans hjoins')]

/-- **The invariant says that tables, requests and lookups agree.** -/
lemma Complete.agrees (h : Complete s) : Agrees s where
  unique := by
    intro id vo id' vo' hvo hvo' hlive hlive' hjoins
    have hcache := (h.listed hvo).mpr hlive
    have hcache' := (h.listed hvo').mpr hlive'
    have heq := h.consistent.unique hcache hcache' (h.positive hvo) hjoins
    rw [← h.key hvo, ← h.key hvo', heq]
  found := by
    intro id vo hvo hlive
    have hcache := (h.listed hvo).mpr hlive
    exact ⟨h.getSrcOrTgt hcache (.inl ⟨rfl, rfl⟩), h.getSrcOrTgt hcache (.inr ⟨rfl, rfl⟩)⟩
  listed := by
    intro status src tgt id
    constructor
    · intro hlookup
      have hcache := h.consistent.inCache hlookup
      exact ⟨_, hcache.2, h.isLive hcache, rfl, rfl, rfl⟩
    · rintro ⟨vo, hvo, hlive, rfl, rfl, rfl⟩
      have hcache := (h.listed hvo).mpr hlive
      rw [← h.key hvo]
      exact hcache.1

/-- **In every state of every run** there is one live request at most between two players, both find
it, and the tables list it under its status and under no other one. -/
theorem agrees_run (players : AList fun _ : Int32 => Option FriendListVO)
    (friendListDAO : AList fun _ : Int32 => FriendListVO) {all : List FriendReqVO}
    (hsaved : SavedWell all) {actions : List Action}
    (hasked : Runs.EveryStep step Asked (.started players friendListDAO all) actions) :
    Agrees (Runs.run step (.started players friendListDAO all) actions) := by
  have hcomplete : Complete (Runs.run step (.started players friendListDAO all) actions) :=
    Runs.state_inv_run Complete (fun _ _ h hasked => h.step hasked)
      (complete_started hsaved players friendListDAO) hasked
  exact hcomplete.agrees

/-- Requests of an earlier run, of which one was rejected. -/
def savedReqs : List FriendReqVO :=
  [⟨3, 1, 4, .accept⟩, ⟨5, 2, 1, .reject⟩, ⟨6, 4, 2, .requestSend⟩]

lemma savedWell_savedReqs : SavedWell savedReqs where
  sent := by decide
  ids := by decide
  pairs := by decide

/-- A request is answered, deleted and sent again, the other way round. -/
theorem agrees_again :
    Agrees (Runs.run step (.started ∅ ∅ savedReqs)
      [.buildAsLoad 1, .buildAsLoad 2, .addNewFriend everyone 7 1 2,
        .addNewFriendFeedback everyone 2 1 true, .deleteFriend 2 1, .addNewFriend everyone 8 2 1,
        .addNewFriendFeedback everyone 1 2 false, .addNewFriend everyone 9 1 2]) :=
  agrees_run ∅ ∅ savedWell_savedReqs (by decide +kernel)

end SrgpGame.Friend
