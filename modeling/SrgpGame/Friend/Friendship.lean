import SrgpGame.Friend.Requests
import SrgpGame.Lib.Runs

set_option autoImplicit false

/-!
# Friendship

Two players are friends if a request between them was accepted. The lists of the players in memory
are to say the same. Every operation keeps this but the loading of a player: it adds friends to the
saved list and never takes any away, and adds none if there is no saved list.

## Main definitions

* `Good` — friendship is symmetric, is what was accepted, and nobody is a friend and blocked.
* `Action`, `step`, `Allowed` — what happens on the server, and when it can.
* `LoadsWell` — a loading that goes well.

## Main results

* `Sound.step` — the cache stays consistent and the lists disjoint, whatever happens.
* `good_step_iff` — after a step all is good just if it was no loading or one that goes well.
* `good_run_iff` — the same for runs.
-/

namespace SrgpGame.Friend

open EStateM

variable {s : FriendServer} {a b me pid : Int32}

/-! ## Friends -/

/-- The friends in a list, none if there is no list. -/
def friendsIn (friendList : Option FriendListVO) : Finset Int32 :=
  friendList.elim ∅ FriendListVO.myFriends

/-- The friends of a player in memory. -/
def FriendServer.friends (s : FriendServer) (pid : Int32) : Finset Int32 :=
  friendsIn (s.getFriendList pid)

/-- A list in which nobody is a friend and blocked. -/
def FriendListVO.IsDisjoint (friendList : FriendListVO) : Prop :=
  Disjoint friendList.myFriends friendList.blackList

/-- **What friendship is to be** in a state of the server. -/
structure Good (s : FriendServer) : Prop where
  symmetric : ∀ a b, s.loaded a → s.loaded b → (a ∈ s.friends b ↔ b ∈ s.friends a)
  accepted : ∀ a b, s.loaded b → (a ∈ s.friends b ↔ Accepted s a b)
  disjoint : ∀ b friendList, s.getFriendList b = some friendList → friendList.IsDisjoint
  disjointSaved : ∀ b friendList, s.friendListDAO.lookup b = some friendList →
    friendList.IsDisjoint

/-- **What holds whatever happens.** -/
structure Sound (s : FriendServer) : Prop where
  consistent : Consistent s
  disjoint : ∀ {b friendList}, s.getFriendList b = some friendList → friendList.IsDisjoint
  disjointSaved : ∀ {b friendList}, s.friendListDAO.lookup b = some friendList →
    friendList.IsDisjoint

/-- The lists in memory say what was accepted. -/
def Linked (s : FriendServer) : Prop :=
  ∀ a b, s.loaded b → (a ∈ s.friends b ↔ Accepted s a b)

/-- The lists say the same to both players. -/
lemma good_iff : Good s ↔ Linked s ∧ (∀ b friendList, s.getFriendList b = some friendList →
    friendList.IsDisjoint) ∧ ∀ b friendList, s.friendListDAO.lookup b = some friendList →
      friendList.IsDisjoint := by
  constructor
  · intro h
    exact ⟨h.accepted, h.disjoint, h.disjointSaved⟩
  · rintro ⟨hlinked, hdisjoint, hsaved⟩
    refine ⟨?_, hlinked, hdisjoint, hsaved⟩
    intro a b ha hb
    rw [hlinked a b hb, hlinked b a ha]
    exact ⟨Accepted.symm, Accepted.symm⟩

/-! ## Changes of lists -/

section Lists

variable {friendList : FriendListVO}

@[simp] lemma getFriendList_setFriendList (q : Int32) :
    (s.setFriendList pid friendList).getFriendList q =
      if q = pid then some friendList else s.getFriendList q := by
  simp only [FriendServer.getFriendList, FriendServer.setFriendList, AList.lookup_insert_ite]
  split_ifs
  · rfl
  · rfl

@[simp] lemma loaded_setFriendList (q : Int32) :
    (s.setFriendList pid friendList).loaded q = (decide (q = pid) || s.loaded q) := by
  simp only [FriendServer.loaded, FriendServer.setFriendList, AList.lookup_insert_ite]
  by_cases hq : q = pid
  · rw [if_pos hq, decide_eq_true hq]
    rfl
  · rw [if_neg hq, decide_eq_false hq]
    rfl

@[simp] lemma friends_setFriendList (q : Int32) :
    (s.setFriendList pid friendList).friends q =
      if q = pid then friendList.myFriends else s.friends q := by
  unfold FriendServer.friends
  rw [getFriendList_setFriendList]
  split_ifs
  · rfl
  · rfl

/-- A player with a list is in memory. -/
lemma loaded_of_getFriendList (h : s.getFriendList pid = some friendList) : s.loaded pid := by
  unfold FriendServer.getFriendList at h
  unfold FriendServer.loaded
  cases hlookup : s.players.lookup pid with
  | none =>
    rw [hlookup] at h
    cases h
  | some _ => rfl

lemma friends_eq (h : s.getFriendList pid = some friendList) :
    s.friends pid = friendList.myFriends := by
  unfold FriendServer.friends
  rw [h]
  rfl

lemma Sound.setFriendList (h : Sound s) (hdisjoint : friendList.IsDisjoint) :
    Sound (s.setFriendList pid friendList) where
  consistent := h.consistent.congr rfl rfl
  disjoint := by
    intro b list hlist
    rw [getFriendList_setFriendList] at hlist
    split_ifs at hlist
    · obtain rfl := Option.some.inj hlist
      exact hdisjoint
    · exact h.disjoint hlist
  disjointSaved := h.disjointSaved

lemma Sound.saveFriendList (h : Sound s) (hdisjoint : friendList.IsDisjoint) :
    Sound (s.saveFriendList pid friendList) where
  consistent := h.consistent.congr rfl rfl
  disjoint := h.disjoint
  disjointSaved := by
    intro b list hlist
    simp only [FriendServer.saveFriendList, AList.lookup_insert_ite] at hlist
    split_ifs at hlist
    · obtain rfl := Option.some.inj hlist
      exact hdisjoint
    · exact h.disjointSaved hlist

/-- The lists do not depend on the cache. -/
lemma Sound.of_consistent {s' : FriendServer} (h : Sound s) (hconsistent : Consistent s')
    (hplayers : s'.players = s.players) (hdao : s'.friendListDAO = s.friendListDAO) :
    Sound s' where
  consistent := hconsistent
  disjoint := by
    intro b list hlist
    unfold FriendServer.getFriendList at hlist
    rw [hplayers] at hlist
    exact h.disjoint hlist
  disjointSaved := by
    intro b list hlist
    rw [hdao] at hlist
    exact h.disjointSaved hlist

/-- A list in which friends are only removed stays disjoint. -/
lemma FriendListVO.IsDisjoint.erase (h : friendList.IsDisjoint) (q : Int32) :
    FriendListVO.IsDisjoint { friendList with myFriends := friendList.myFriends.erase q } :=
  Finset.disjoint_of_subset_left (Finset.erase_subset _ _) h

lemma isDisjoint_init : FriendListVO.init.IsDisjoint := Finset.disjoint_empty_left _

/-- A list with the same friends for the same players says the same. -/
lemma Linked.congr {s' : FriendServer} (h : Linked s) (hloaded : ∀ b, s'.loaded b → s.loaded b)
    (hfriends : ∀ b, s'.loaded b → s'.friends b = s.friends b)
    (haccepted : ∀ a b, Accepted s' a b ↔ Accepted s a b) : Linked s' := by
  intro a b hb
  rw [hfriends b hb, haccepted]
  exact h a b (hloaded b hb)

end Lists

/-! ## Requests -/

/-- **What an operation keeps**: it ends well, and lists that said what was accepted still do. -/
structure Keeps (s s' : FriendServer) : Prop where
  sound : Sound s'
  linked : Linked s → Linked s'

lemma Keeps.refl (h : Sound s) : Keeps s s := ⟨h, fun hlinked => hlinked⟩

/-- A change of the cache that accepts nothing. -/
lemma Sound.keeps_of_cache {s' : FriendServer} (h : Sound s) (hconsistent : Consistent s')
    (hplayers : s'.players = s.players) (hdao : s'.friendListDAO = s.friendListDAO)
    (haccepted : ∀ a b, Accepted s' a b ↔ Accepted s a b) : Keeps s s' where
  sound := h.of_consistent hconsistent hplayers hdao
  linked hlinked := by
    refine hlinked.congr ?_ ?_ haccepted
    · intro b hb
      unfold FriendServer.loaded at hb
      rw [hplayers] at hb
      exact hb
    · intro b _
      simp only [FriendServer.friends, FriendServer.getFriendList, hplayers]

/-- **What `addNewFriend` does**: nothing, or a request comes into the cache, the first one between
its players. -/
lemma addNewFriend_cases (h : Consistent s) (env : Surroundings) (id me pid : Int32) :
    (addNewFriend env id me pid).finalState s = s ∨
      (env.hasBaseInfo pid = true ∧ (∀ vo, InCache s vo → vo.Positive → ¬Joins vo me pid) ∧
        (addNewFriend env id me pid).finalState s =
          s.add2Cache ⟨id, me, pid, .requestSend⟩) := by
  unfold addNewFriend
  rw [finalState_ofExcept_bind]
  split
  case h_2 => exact .inl rfl
  rename_i hcheck
  rw [finalState_ofExcept_bind]
  split
  case h_2 => exact .inl rfl
  obtain ⟨r, hrun, -, hmissing⟩ := getSrcOrTgt_run h me pid
  rw [finalState_bind, hrun]
  cases r with
  | some vo => exact .inl rfl
  | none =>
    simp only
    rw [finalState_ofExcept_bind]
    split
    case h_2 => exact .inl rfl
    have hknown : env.hasBaseInfo pid = true := by
      have hnot := ICode.throwIfTrue_eq_ok.mp hcheck
      cases hinfo : env.hasBaseInfo pid with
      | true => rfl
      | false => exact absurd (.inl (by rw [hinfo]; rfl)) hnot
    exact .inr ⟨hknown, hmissing rfl, rfl⟩

/-- **A request is sent.** It is not accepted yet. -/
lemma Sound.addNewFriend (h : Sound s) (env : Surroundings) {id : Int32}
    (hfresh : s.allReqs.lookup id = none) :
    Keeps s ((addNewFriend env id me pid).finalState s) := by
  rcases addNewFriend_cases h.consistent env id me pid with hsame | ⟨-, hmissing, hsent⟩
  · rw [hsame]
    exact .refl h
  · rw [hsent]
    have hnew : ∀ {v}, InCache s v → v.id ≠ id := fun hv => hv.id_ne_of_fresh hfresh
    have halone : ∀ {v}, FriendReqVO.Positive ⟨id, me, pid, .requestSend⟩ → InCache s v →
        ¬Joins v me pid := by
      intro v hpos hv hjoins
      exact hmissing v hv (hjoins.positive hpos.1 hpos.2) hjoins
    refine h.keeps_of_cache ?_ rfl rfl ?_
    · exact h.consistent.add2Cache hnew halone (fun haccept => by cases haccept)
    · intro a b
      exact h.consistent.accepted_add2Cache_of_ne hnew (fun haccept => by cases haccept)

/-- A player gets a friend, in memory and in the saved list. -/
def FriendServer.befriend (s : FriendServer) (pid friend : Int32) : FriendServer :=
  let friendList := (s.getFriendList pid).getD .init
  let friendList := { friendList with myFriends := insert friend friendList.myFriends }
  (s.setFriendList pid friendList).saveFriendList pid friendList

lemma doFriendPid2List_run (pid friend : Int32) :
    (doFriendPid2List pid friend).run s = .ok () (s.befriend pid friend) := rfl

lemma friends_befriend (friend q : Int32) :
    (s.befriend pid friend).friends q =
      if q = pid then insert friend (s.friends pid) else s.friends q := by
  refine (friends_setFriendList q).trans ?_
  split_ifs
  · unfold FriendServer.friends
    cases s.getFriendList pid with
    | none => rfl
    | some friendList => rfl
  · rfl

lemma loaded_befriend (friend q : Int32) :
    (s.befriend pid friend).loaded q = (decide (q = pid) || s.loaded q) := loaded_setFriendList q

/-- A friend who is not blocked. -/
lemma Sound.befriend (h : Sound s) {friend : Int32}
    (hblack : ∀ friendList, s.getFriendList pid = some friendList →
      friend ∉ friendList.blackList) : Sound (s.befriend pid friend) := by
  have hdisjoint : FriendListVO.IsDisjoint
      { (s.getFriendList pid).getD .init with
        myFriends := insert friend ((s.getFriendList pid).getD .init).myFriends } := by
    cases hlist : s.getFriendList pid with
    | none => exact Finset.disjoint_empty_right _
    | some friendList =>
      exact Finset.disjoint_insert_left.mpr ⟨hblack friendList hlist, h.disjoint hlist⟩
  exact (h.setFriendList hdisjoint).saveFriendList hdisjoint

/-- Whom a request of the other player joins with this one. -/
lemma Joins.iff_left {vo : FriendReqVO} (h : Joins vo pid me) : Joins vo a me ↔ a = pid := by
  constructor
  · intro h'
    exact h'.right_unique h
  · rintro rfl
    exact h

/-- A request joins nobody else. -/
lemma Joins.not_of_ne {vo : FriendReqVO} (h : Joins vo pid me) (hme : b ≠ me) (hpid : b ≠ pid) :
    ¬Joins vo a b := by
  rcases h with ⟨rfl, rfl⟩ | ⟨rfl, rfl⟩
  · rintro (⟨-, rfl⟩ | ⟨rfl, -⟩)
    · exact hme rfl
    · exact hpid rfl
  · rintro (⟨-, rfl⟩ | ⟨rfl, -⟩)
    · exact hpid rfl
    · exact hme rfl

/-- The checks before a request is accepted find this player not blocked by the other one. -/
lemma not_blocked_of_checkAccept {env : Surroundings}
    (h : checkAccept env me pid s = .ok ()) {friendList : FriendListVO}
    (hlist : s.getFriendList pid = some friendList) : me ∉ friendList.blackList := by
  unfold checkAccept at h
  rw [loaded_of_getFriendList hlist, if_pos rfl, hlist] at h
  obtain ⟨_, hblack, -⟩ := Except.bind_eq_ok.mp h
  exact ICode.throwIfTrue_eq_ok.mp hblack

section Feedback

variable {req : FriendReqVO} (h : Sound s) (hreq : InCache s req) (hpos : req.Positive)

include h hreq hpos

/-- **A request is accepted**, and the lists of both players say so, as far as they are in
memory. -/
lemma Sound.accept (hjoins : Joins req pid me) (hne : me ≠ pid) (hme : s.loaded me)
    (hblack : ∀ friendList, s.getFriendList me = some friendList → pid ∉ friendList.blackList)
    (hblack' : ∀ friendList, s.getFriendList pid = some friendList → me ∉ friendList.blackList)
    {s₁ s₂ : FriendServer}
    (hs₁ : s₁ = (s.casStatus req .accept).add2Cache { req with status := .accept })
    (hs₂ : s₂ = if s.loaded pid then (s₁.befriend me pid).befriend pid me
      else s₁.befriend me pid) : Keeps s s₂ := by
  have hlist : ∀ q, s₁.getFriendList q = s.getFriendList q := by
    rw [hs₁]
    intro q
    rfl
  have hfriends : ∀ q, s₁.friends q = s.friends q := by
    rw [hs₁]
    intro q
    rfl
  have hmove : Sound s₁ := by
    rw [hs₁]
    exact h.of_consistent (h.consistent.move hreq hpos) rfl rfl
  have hfirst : Sound (s₁.befriend me pid) := by
    refine hmove.befriend ?_
    intro friendList hlookup
    exact hblack friendList ((hlist me).symm.trans hlookup)
  have hsecond : Sound ((s₁.befriend me pid).befriend pid me) := by
    refine hfirst.befriend ?_
    intro friendList hlookup
    have hlookup' := (getFriendList_setFriendList pid).symm.trans hlookup
    rw [if_neg hne.symm, hlist] at hlookup'
    exact hblack' friendList hlookup'
  have haccepted : ∀ a b, Accepted s₂ a b ↔ Accepted s a b ∨ Joins req a b := by
    intro a b
    have hsame : Accepted s₂ a b ↔ Accepted s₁ a b := by
      rw [hs₂]
      split_ifs
      · exact Iff.rfl
      · exact Iff.rfl
    rw [hsame, hs₁]
    exact h.consistent.accepted_move hreq hpos
  constructor
  · rw [hs₂]
    split_ifs
    · exact hsecond
    · exact hfirst
  · intro hlinked a b hb
    rw [haccepted]
    by_cases hbme : b = me
    · subst b
      have hmine : s₂.friends me = insert pid (s.friends me) := by
        rw [hs₂]
        split_ifs
        · rw [friends_befriend, if_neg hne, friends_befriend, if_pos rfl, hfriends]
        · rw [friends_befriend, if_pos rfl, hfriends]
      rw [hmine, Finset.mem_insert, hlinked a me hme, hjoins.iff_left, or_comm]
    · by_cases hbpid : b = pid
      · subst b
        have hloaded : s.loaded pid := by
          rw [hs₂] at hb
          split_ifs at hb with hloaded
          · exact hloaded
          · rw [loaded_befriend, decide_eq_false hne.symm, Bool.false_or, hs₁] at hb
            exact hb
        have htheirs : s₂.friends pid = insert me (s.friends pid) := by
          rw [hs₂, if_pos hloaded, friends_befriend, if_pos rfl, friends_befriend, if_neg hne.symm,
            hfriends]
        rw [htheirs, Finset.mem_insert, hlinked a pid hloaded, hjoins.symm.iff_left, or_comm]
      · have hloaded : s.loaded b := by
          rw [hs₂] at hb
          split_ifs at hb
          · rw [loaded_befriend, decide_eq_false hbpid, Bool.false_or, loaded_befriend,
              decide_eq_false hbme, Bool.false_or, hs₁] at hb
            exact hb
          · rw [loaded_befriend, decide_eq_false hbme, Bool.false_or, hs₁] at hb
            exact hb
        have hothers : s₂.friends b = s.friends b := by
          rw [hs₂]
          split_ifs
          · rw [friends_befriend, if_neg hbpid, friends_befriend, if_neg hbme, hfriends]
          · rw [friends_befriend, if_neg hbme, hfriends]
        rw [hothers, hlinked a b hloaded]
        exact (or_iff_left (hjoins.not_of_ne hbme hbpid)).symm

/-- **A request is rejected**, and leaves the cache. -/
lemma Sound.reject (hstatus : req.status ≠ .accept) :
    Keeps s (((s.casStatus req .reject).add2Cache { req with status := .reject }).casStatus
      { req with status := .reject } .delete) := by
  have hmove := @Consistent.move _ _ .reject h.consistent hreq hpos
  have hmoved : InCache ((s.casStatus req .reject).add2Cache { req with status := .reject })
      { req with status := .reject } := ⟨AList.lookup_insert _, AList.lookup_insert _⟩
  refine h.keeps_of_cache (hmove.casStatus hmoved) rfl rfl ?_
  intro a b
  have hleave : Accepted (((s.casStatus req .reject).add2Cache
      { req with status := .reject }).casStatus { req with status := .reject } .delete) a b ↔
        Accepted ((s.casStatus req .reject).add2Cache { req with status := .reject }) a b :=
    hmove.accepted_casStatus_of_ne hmoved hpos (fun heq => by cases heq)
  have hcome : Accepted ((s.casStatus req .reject).add2Cache { req with status := .reject }) a b ↔
      Accepted (s.casStatus req .reject) a b :=
    (h.consistent.casStatus hreq).accepted_add2Cache_of_ne
      (fun hv => h.consistent.id_ne_of_casStatus hreq hv) (fun heq => by cases heq)
  rw [hleave, hcome]
  exact h.consistent.accepted_casStatus_of_ne hreq hpos hstatus

end Feedback

/-- **What `addNewFriendFeedback` does**: nothing, or a request that was sent is rejected, or it is
accepted. Then nobody has blocked the other one. -/
lemma addNewFriendFeedback_cases (h : Consistent s) (env : Surroundings) (me pid : Int32)
    (accept : Bool) :
    (addNewFriendFeedback env me pid accept).finalState s = s ∨
      ∃ req, InCache s req ∧ req.Positive ∧ Joins req pid me ∧ req.status = .requestSend ∧
        me ≠ pid ∧
        ((addNewFriendFeedback env me pid accept).finalState s =
            ((s.casStatus req .reject).add2Cache { req with status := .reject }).casStatus
              { req with status := .reject } .delete ∨
          ((∀ friendList, s.getFriendList me = some friendList → pid ∉ friendList.blackList) ∧
            (∀ friendList, s.getFriendList pid = some friendList → me ∉ friendList.blackList) ∧
            ∀ s₁, s₁ = (s.casStatus req .accept).add2Cache { req with status := .accept } →
              (addNewFriendFeedback env me pid accept).finalState s =
                if s.loaded pid then (s₁.befriend me pid).befriend pid me
                else s₁.befriend me pid)) := by
  unfold addNewFriendFeedback
  rw [finalState_ofExcept_bind]
  split
  case h_2 => exact .inl rfl
  rename_i hcheck
  obtain ⟨r, hrun, hfound⟩ := getSrcTgt_run h pid me
  rw [finalState_bind, hrun]
  cases r with
  | none => exact .inl rfl
  | some req =>
    obtain ⟨hreq, hpos, hsrc, htgt⟩ := hfound req rfl
    have hjoins : Joins req pid me := .inl ⟨hsrc, htgt⟩
    have hne : me ≠ pid := fun heq => ICode.throwIfTrue_eq_ok.mp hcheck (.inr heq)
    simp only
    rw [finalState_ofExcept_bind]
    split
    case h_2 => exact .inl rfl
    rw [finalState_ofExcept_bind]
    split
    case h_2 => exact .inl rfl
    rename_i hblack
    have hblocked : ∀ friendList, s.getFriendList me = some friendList →
        pid ∉ friendList.blackList := by
      intro friendList hlist
      have hnot := ICode.throwIfTrue_eq_ok.mp hblack
      rw [hlist] at hnot
      simpa using hnot
    cases accept with
    | true =>
      simp only [if_true]
      rw [finalState_ofExcept_bind]
      split
      case h_2 => exact .inl rfl
      rename_i haccept
      by_cases hstatus : req.status = .requestSend
      · rw [finalState_bind, statusChg_run_of_eq hstatus]
        simp only [if_true, Bool.false_eq_true, if_false]
        refine .inr ⟨req, hreq, hpos, hjoins, hstatus, hne, .inr ⟨hblocked,
          fun friendList hlist => not_blocked_of_checkAccept haccept hlist, ?_⟩⟩
        rintro s₁ rfl
        have hloaded : (((s.casStatus req .accept).add2Cache
            { req with status := .accept }).befriend me pid).loaded pid = s.loaded pid := by
          rw [loaded_befriend, decide_eq_false hne.symm]
          rfl
        rw [finalState_bind, doFriendPid2List_run]
        simp only [finalState_get_bind, hloaded]
        split_ifs
        · rfl
        · rfl
      · rw [finalState_bind, statusChg_run_of_ne hstatus]
        exact .inl rfl
    | false =>
      simp only [Bool.false_eq_true, if_false]
      by_cases hstatus : req.status = .requestSend
      · rw [finalState_bind, statusChg_run_of_eq hstatus]
        exact .inr ⟨req, hreq, hpos, hjoins, hstatus, hne, .inl rfl⟩
      · rw [finalState_bind, statusChg_run_of_ne hstatus]
        exact .inl rfl

/-- **A request is answered.** -/
lemma Sound.addNewFriendFeedback (h : Sound s) (env : Surroundings) (accept : Bool)
    (hme : s.loaded me) :
    Keeps s ((addNewFriendFeedback env me pid accept).finalState s) := by
  rcases addNewFriendFeedback_cases h.consistent env me pid accept with
    hsame | ⟨req, hreq, hpos, hjoins, hstatus, hne, hrejected | ⟨hblack, hblack', haccepted⟩⟩
  · rw [hsame]
    exact .refl h
  · rw [hrejected]
    exact h.reject hreq hpos (by rw [hstatus]; exact fun heq => by cases heq)
  · exact h.accept hreq hpos hjoins hne hme hblack hblack' rfl (haccepted _ rfl)

/-! ## Removing friends -/

/-- What `doDeleteFriend` leaves. -/
def FriendServer.unfriend (s : FriendServer) (me pid : Int32) (vo : FriendReqVO)
    (friendList : FriendListVO) : FriendServer :=
  let s₁ := (s.casStatus vo .delete).setFriendList me
    { friendList with myFriends := friendList.myFriends.erase pid }
  match s₁.getFriendList pid with
  | none => s₁
  | some theirs => s₁.setFriendList pid { theirs with myFriends := theirs.myFriends.erase me }

/-- `doDeleteFriend` may throw, but what it changes is the same. -/
lemma doDeleteFriend_run (vo : FriendReqVO) {friendList : FriendListVO}
    (hlist : s.getFriendList me = some friendList) :
    (doDeleteFriend me pid vo).run s = .ok () (s.unfriend me pid vo friendList) ∨
      (doDeleteFriend me pid vo).run s = .error .nullPointer (s.unfriend me pid vo friendList) := by
  unfold doDeleteFriend FriendServer.unfriend
  rw [run_bind]
  simp only [EStateM.run_get, hlist, run_bind, statusChg_run, EStateM.run_modify, if_true]
  generalize (s.casStatus vo .delete).setFriendList me
    { friendList with myFriends := friendList.myFriends.erase pid } = s₁
  cases htheirs : s₁.getFriendList pid with
  | none =>
    by_cases hloaded : s₁.loaded pid = true
    · rw [if_pos hloaded]
      exact .inr rfl
    · rw [if_neg hloaded]
      exact .inl rfl
  | some theirs =>
    rw [if_pos (loaded_of_getFriendList htheirs)]
    exact .inl rfl

lemma doDeleteFriend_finalState (vo : FriendReqVO) {friendList : FriendListVO}
    (hlist : s.getFriendList me = some friendList) :
    (doDeleteFriend me pid vo).finalState s = s.unfriend me pid vo friendList := by
  rcases doDeleteFriend_run vo hlist with hrun | hrun
  · exact finalState_eq_of_ok hrun
  · exact finalState_eq_of_error hrun

/-- The lists say what was accepted, but for one entry of one list. -/
def LinkedBut (s : FriendServer) (me pid : Int32) : Prop :=
  ∀ a b, s.loaded b → ¬(a = pid ∧ b = me) → (a ∈ s.friends b ↔ Accepted s a b)

section Unfriend

variable {vo : FriendReqVO} {friendList : FriendListVO}
  (hlist : s.getFriendList me = some friendList)

include hlist

/-- The friends that are left. -/
lemma friends_unfriend (q : Int32) :
    (s.unfriend me pid vo friendList).friends q =
      if q = me then (s.friends me).erase pid
      else if q = pid then (s.friends pid).erase me
      else s.friends q := by
  have hmine : s.friends me = friendList.myFriends := friends_eq hlist
  unfold FriendServer.unfriend
  set s₁ := (s.casStatus vo .delete).setFriendList me
    { friendList with myFriends := friendList.myFriends.erase pid } with hs₁
  have hfriends : ∀ q, s₁.friends q =
      if q = me then friendList.myFriends.erase pid else s.friends q := by
    intro q
    exact friends_setFriendList q
  cases htheirs : s₁.getFriendList pid with
  | none =>
    simp only [htheirs, hfriends, hmine]
    by_cases hq : q = me
    · rw [if_pos hq, if_pos hq]
    · rw [if_neg hq, if_neg hq]
      split_ifs with hqpid
      · -- without a list there are no friends
        have hnone : s₁.friends pid = ∅ := by
          unfold FriendServer.friends
          rw [htheirs]
          rfl
        rw [hqpid] at hq ⊢
        rw [hfriends, if_neg hq] at hnone
        rw [hnone, Finset.erase_empty]
      · rfl
  | some theirs =>
    have htheirs' : theirs.myFriends = s₁.friends pid := (friends_eq htheirs).symm
    simp only [htheirs, friends_setFriendList, hfriends, htheirs', hmine]
    by_cases hq : q = me
    · subst q
      rw [if_pos rfl, if_pos rfl]
      by_cases hpid : me = pid
      · rw [if_pos hpid, if_pos hpid.symm, hpid, Finset.erase_idem]
      · rw [if_neg hpid]
    · rw [if_neg hq, if_neg hq]
      by_cases hqpid : q = pid
      · have hpid : ¬pid = me := fun hpid => hq (hqpid.trans hpid)
        rw [if_pos hqpid, if_pos hqpid, if_neg hpid]
      · rw [if_neg hqpid, if_neg hqpid]

lemma loaded_unfriend (q : Int32) :
    (s.unfriend me pid vo friendList).loaded q = s.loaded q := by
  have hme : s.loaded me = true := loaded_of_getFriendList hlist
  unfold FriendServer.unfriend
  set s₁ := (s.casStatus vo .delete).setFriendList me
    { friendList with myFriends := friendList.myFriends.erase pid } with hs₁
  have hloaded : ∀ q, s₁.loaded q = s.loaded q := by
    intro q
    rw [hs₁, loaded_setFriendList]
    by_cases hq : q = me
    · rw [hq, hme, decide_eq_true rfl, Bool.true_or]
    · rw [decide_eq_false hq]
      rfl
  cases htheirs : s₁.getFriendList pid with
  | none =>
    simp only [htheirs]
    exact hloaded q
  | some theirs =>
    have hpid : s₁.loaded pid = true := loaded_of_getFriendList htheirs
    simp only [htheirs, loaded_setFriendList, hloaded]
    by_cases hq : q = pid
    · rw [hq, ← hloaded, hpid, Bool.or_true]
    · rw [decide_eq_false hq, Bool.false_or]

omit hlist in
lemma accepted_unfriend : Accepted (s.unfriend me pid vo friendList) a b ↔
    Accepted (s.casStatus vo .delete) a b := by
  unfold FriendServer.unfriend
  simp only
  split
  · exact Iff.rfl
  · exact Iff.rfl

/-- **Friends are parted**, on both sides, and with them their request. -/
lemma LinkedBut.unfriend (hlinked : LinkedBut s me pid) (hconsistent : Consistent s)
    (hvo : InCache s vo) (hpos : vo.Positive) (hjoins : Joins vo me pid) :
    Linked (s.unfriend me pid vo friendList) := by
  intro a b hb
  rw [loaded_unfriend hlist] at hb
  rw [accepted_unfriend, hconsistent.accepted_casStatus hvo hpos, friends_unfriend hlist]
  by_cases hbme : b = me
  · subst b
    rw [if_pos rfl, Finset.mem_erase, hjoins.symm.iff_left]
    by_cases ha : a = pid
    · exact ⟨fun h => absurd ha h.1, fun h => absurd ha h.2⟩
    · rw [hlinked a me hb (fun h => ha h.1), and_comm]
  · rw [if_neg hbme]
    have hbut : ¬(a = pid ∧ b = me) := fun h => hbme h.2
    split_ifs with hbpid
    · subst b
      rw [Finset.mem_erase, hjoins.iff_left, hlinked a pid hb hbut, and_comm]
    · rw [hlinked a b hb hbut]
      exact (and_iff_left (hjoins.symm.not_of_ne hbme hbpid)).symm

lemma Sound.unfriend (h : Sound s) (hvo : InCache s vo) :
    Sound (s.unfriend me pid vo friendList) := by
  have hleft : Sound (s.casStatus vo .delete) :=
    h.of_consistent (h.consistent.casStatus hvo) rfl rfl
  have hmine := @Sound.setFriendList _ me _ hleft ((h.disjoint hlist).erase pid)
  unfold FriendServer.unfriend
  simp only
  split
  · exact hmine
  · rename_i theirs htheirs
    exact hmine.setFriendList ((hmine.disjoint htheirs).erase me)

end Unfriend

/-- **What `deleteFriend` does**: nothing, or it parts two players between whom there is a
request. -/
lemma deleteFriend_cases (h : Consistent s) (me pid : Int32) :
    (deleteFriend me pid).finalState s = s ∨
      ∃ vo friendList, InCache s vo ∧ vo.Positive ∧ Joins vo me pid ∧
        s.getFriendList me = some friendList ∧
        (deleteFriend me pid).finalState s = s.unfriend me pid vo friendList := by
  unfold deleteFriend
  obtain ⟨r, hrun, hfound, -⟩ := getSrcOrTgt_run h me pid
  rw [finalState_bind, hrun]
  cases r with
  | none => exact .inl rfl
  | some vo =>
    obtain ⟨hvo, hpos, hjoins⟩ := hfound vo rfl
    simp only
    cases hlist : s.getFriendList me with
    | none =>
      unfold doDeleteFriend
      rw [finalState_get_bind, hlist]
      exact .inl rfl
    | some friendList =>
      exact .inr ⟨vo, friendList, hvo, hpos, hjoins, rfl, doDeleteFriend_finalState vo hlist⟩

/-- **A friend is deleted.** -/
lemma Sound.deleteFriend (h : Sound s) : Keeps s ((deleteFriend me pid).finalState s) := by
  rcases deleteFriend_cases h.consistent me pid with
    hsame | ⟨vo, friendList, hvo, hpos, hjoins, hlist, hparted⟩
  · rw [hsame]
    exact .refl h
  · rw [hparted]
    refine ⟨h.unfriend hlist hvo, ?_⟩
    intro hlinked
    exact LinkedBut.unfriend hlist (fun a b hb _ => hlinked a b hb) h.consistent hvo hpos hjoins

/-! ## Blocking players -/

lemma Keeps.trans {s' s'' : FriendServer} (h : Keeps s s') (h' : Keeps s' s'') : Keeps s s'' :=
  ⟨h'.sound, fun hlinked => h'.linked (h.linked hlinked)⟩

/-- A list with the same friends is put in the place of a player's list. -/
lemma Sound.keeps_setFriendList (h : Sound s) (hme : s.loaded me) {friendList : FriendListVO}
    (hdisjoint : friendList.IsDisjoint) (hfriends : friendList.myFriends = s.friends me) :
    Keeps s (s.setFriendList me friendList) where
  sound := h.setFriendList hdisjoint
  linked hlinked := by
    refine hlinked.congr ?_ ?_ (fun a b => Iff.rfl)
    · intro b hb
      rw [loaded_setFriendList] at hb
      by_cases hbme : b = me
      · rw [hbme]
        exact hme
      · rw [decide_eq_false hbme, Bool.false_or] at hb
        exact hb
    · intro b _
      rw [friends_setFriendList]
      split_ifs with hbme
      · rw [hfriends, hbme]
      · rfl

lemma Sound.keeps_saveFriendList (h : Sound s) {friendList : FriendListVO}
    (hdisjoint : friendList.IsDisjoint) : Keeps s (s.saveFriendList me friendList) where
  sound := h.saveFriendList hdisjoint
  linked hlinked := hlinked

/-- A player gets a list. -/
lemma Sound.getOrNewFriendList (h : Sound s) (hme : s.loaded me) :
    ∃ friendList s', (getOrNewFriendList me).run s = .ok friendList s' ∧ Keeps s s' ∧
      s'.getFriendList me = some friendList := by
  unfold Friend.getOrNewFriendList
  rw [run_bind]
  simp only [EStateM.run_get]
  cases hlist : s.getFriendList me with
  | some friendList => exact ⟨friendList, s, rfl, .refl h, hlist⟩
  | none =>
    have hnone : FriendListVO.init.myFriends = s.friends me := by
      unfold FriendServer.friends
      rw [hlist]
      rfl
    refine ⟨.init, s.setFriendList me .init, rfl,
      h.keeps_setFriendList hme isDisjoint_init hnone, ?_⟩
    rw [getFriendList_setFriendList, if_pos rfl]

/-- A friend is removed before being blocked. When that returns, the player is no friend. -/
lemma Sound.removeFriend (h : Sound s) {friendList : FriendListVO}
    (hlist : s.getFriendList me = some friendList) :
    Keeps s ((removeFriend me pid friendList).finalState s) ∧
      ∀ u s', (removeFriend me pid friendList).run s = .ok u s' →
        s'.loaded me ∧ pid ∉ s'.friends me := by
  have hmine : s.friends me = friendList.myFriends := friends_eq hlist
  have hme : s.loaded me = true := loaded_of_getFriendList hlist
  unfold Friend.removeFriend
  by_cases hfriend : pid ∈ friendList.myFriends
  · simp only [if_pos hfriend]
    set s₁ := s.setFriendList me { friendList with myFriends := friendList.myFriends.erase pid }
      with hs₁
    have hsound : Sound s₁ := h.setFriendList ((h.disjoint hlist).erase pid)
    have hlist₁ : s₁.getFriendList me =
        some { friendList with myFriends := friendList.myFriends.erase pid } := by
      rw [hs₁, getFriendList_setFriendList, if_pos rfl]
    have hbut : Linked s → LinkedBut s₁ me pid := by
      intro hlinked a b hb hne
      have hloaded : s.loaded b := by
        rw [hs₁, loaded_setFriendList] at hb
        by_cases hbme : b = me
        · rw [hbme]
          exact hme
        · rw [decide_eq_false hbme, Bool.false_or] at hb
          exact hb
      refine Iff.trans ?_ (hlinked a b hloaded)
      rw [hs₁, friends_setFriendList]
      by_cases hbme : b = me
      · have ha : a ≠ pid := fun ha => hne ⟨ha, hbme⟩
        rw [if_pos hbme, Finset.mem_erase, hbme, hmine]
        exact and_iff_right ha
      · rw [if_neg hbme]
    obtain ⟨r, hrun, hfound, hmissing⟩ := getSrcOrTgt_run hsound.consistent me pid
    rw [finalState_modify_bind, ← hs₁, finalState_bind, hrun]
    simp only [run_bind, EStateM.run_modify]
    rw [← hs₁, hrun]
    cases r with
    | none =>
      refine ⟨⟨hsound, ?_⟩, ?_⟩
      · intro hlinked
        -- a friend has an accepted request, so one is found
        have hfriend' : pid ∈ s.friends me := by
          rw [hmine]
          exact hfriend
        obtain ⟨vo, hvo, haccept, hjoins⟩ := (hlinked pid me hme).mp hfriend'
        have hvo₁ : InCache s₁ vo := hvo
        exact absurd hjoins.symm (hmissing rfl vo hvo₁ (hsound.consistent.accepted hvo₁ haccept))
      · rintro u s' hrun'
        cases hrun'
        rw [friends_eq hlist₁]
        exact ⟨loaded_of_getFriendList hlist₁, Finset.notMem_erase _ _⟩
    | some vo =>
      obtain ⟨hvo, hpos, hjoins⟩ := hfound vo rfl
      refine ⟨?_, ?_⟩
      · simp only
        rw [doDeleteFriend_finalState vo hlist₁]
        exact ⟨hsound.unfriend hlist₁ hvo, fun hlinked =>
          (hbut hlinked).unfriend hlist₁ hsound.consistent hvo hpos hjoins⟩
      · rintro u s' hrun'
        have hleft := (finalState_eq_of_ok hrun').symm.trans (doDeleteFriend_finalState vo hlist₁)
        rw [hleft, loaded_unfriend hlist₁, friends_unfriend hlist₁, if_pos rfl]
        exact ⟨loaded_of_getFriendList hlist₁, Finset.notMem_erase _ _⟩
  · simp only [if_neg hfriend]
    refine ⟨.refl h, ?_⟩
    rintro u s' hrun
    cases hrun
    rw [hmine]
    exact ⟨hme, hfriend⟩

/-- A player who is no friend is blocked. -/
lemma Sound.blockPlayer (h : Sound s) (hme : s.loaded me) (hnot : pid ∉ s.friends me) :
    Keeps s ((blockPlayer me pid).finalState s) := by
  unfold Friend.blockPlayer
  rw [finalState_get_bind]
  cases hlist : s.getFriendList me with
  | none => exact .refl h
  | some friendList =>
    rw [friends_eq hlist] at hnot
    have hdisjoint : FriendListVO.IsDisjoint { friendList with
        nearCharPlayer := friendList.nearCharPlayer.erase pid
        blackList := insert pid friendList.blackList } :=
      Finset.disjoint_insert_right.mpr ⟨hnot, h.disjoint hlist⟩
    have hset := h.keeps_setFriendList hme hdisjoint (friends_eq hlist).symm
    exact hset.trans (hset.sound.keeps_saveFriendList hdisjoint)

/-- **A player is blocked**, and is no friend any more. -/
lemma Sound.addFriend2BlackList (h : Sound s) (env : Surroundings) (hme : s.loaded me) :
    Keeps s ((addFriend2BlackList env me pid).finalState s) := by
  unfold Friend.addFriend2BlackList
  rw [finalState_ofExcept_bind]
  split
  case h_2 => exact .refl h
  rw [finalState_ofExcept_bind]
  split
  case h_2 => exact .refl h
  obtain ⟨friendList, s₁, hget, hkeeps₁, hlist⟩ := h.getOrNewFriendList hme
  rw [finalState_bind, hget]
  obtain ⟨hkeeps₂, hleft⟩ := @Sound.removeFriend s₁ me pid hkeeps₁.sound friendList hlist
  simp only
  rw [finalState_bind]
  cases hrun : (Friend.removeFriend me pid friendList).run s₁ with
  | error e s₂ =>
    rw [finalState_eq_of_error hrun] at hkeeps₂
    exact hkeeps₁.trans hkeeps₂
  | ok u s₂ =>
    rw [finalState_eq_of_ok hrun] at hkeeps₂
    obtain ⟨hloaded, hnot⟩ := hleft u s₂ hrun
    exact (hkeeps₁.trans hkeeps₂).trans (hkeeps₂.sound.blockPlayer hloaded hnot)

/-- A player is no longer blocked. -/
lemma Sound.addRemoveFromBlackList (h : Sound s) :
    Keeps s ((addRemoveFromBlackList me pid).finalState s) := by
  unfold Friend.addRemoveFromBlackList
  rw [finalState_get_bind]
  cases hlist : s.getFriendList me with
  | none => exact .refl h
  | some friendList =>
    have hdisjoint : FriendListVO.IsDisjoint
        { friendList with blackList := friendList.blackList.erase pid } :=
      Finset.disjoint_of_subset_right (Finset.erase_subset _ _) (h.disjoint hlist)
    have hset := h.keeps_setFriendList (loaded_of_getFriendList hlist) hdisjoint
      (friends_eq hlist).symm
    exact hset.trans (hset.sound.keeps_saveFriendList hdisjoint)

/-! ## Saving and loading -/

lemma Sound.saveAll (h : Sound s) : Keeps s ((saveAll pid).finalState s) := by
  unfold Friend.saveAll
  rw [finalState_get_bind]
  cases hlist : s.getFriendList pid with
  | none => exact .refl h
  | some friendList => exact h.keeps_saveFriendList (h.disjoint hlist)

/-- A player leaves the memory. -/
lemma Sound.removePlayer (h : Sound s) : Keeps s ((removePlayer pid).finalState s) := by
  have hlookup : ∀ q, ((Friend.removePlayer pid).finalState s).players.lookup q =
      if q = pid then none else s.players.lookup q := AList.lookup_erase_ite _ _
  have hlist : ∀ {q}, q ≠ pid →
      ((Friend.removePlayer pid).finalState s).getFriendList q = s.getFriendList q := by
    intro q hq
    unfold FriendServer.getFriendList
    rw [hlookup, if_neg hq]
  have hloaded : ∀ {q}, ((Friend.removePlayer pid).finalState s).loaded q →
      q ≠ pid ∧ s.loaded q := by
    intro q hq
    unfold FriendServer.loaded at hq
    rw [hlookup] at hq
    by_cases hqpid : q = pid
    · rw [if_pos hqpid] at hq
      cases hq
    · rw [if_neg hqpid] at hq
      exact ⟨hqpid, hq⟩
  constructor
  · refine ⟨h.consistent.congr rfl rfl, ?_, h.disjointSaved⟩
    intro b friendList hb
    rw [hlist (hloaded (loaded_of_getFriendList hb)).1] at hb
    exact h.disjoint hb
  · intro hlinked
    refine hlinked.congr (fun b hb => (hloaded hb).2) ?_ (fun a b => Iff.rfl)
    intro b hb
    unfold FriendServer.friends
    rw [hlist (hloaded hb).1]

/-- **A loading that goes well**: without a saved list there is no accepted request; the friends in
the saved list have accepted requests; and no player in memory has one who is blocked. -/
def LoadsWell (s : FriendServer) (pid : Int32) : Prop :=
  match s.friendListDAO.lookup pid with
  | none => getFriendByStatusSrcOrTgt s .accept pid = []
  | some vo =>
    (∀ q ∈ vo.myFriends, q ∈ getFriendByStatusSrcOrTgt s .accept pid) ∧
      ∀ q ∈ getFriendByStatusSrcOrTgt s .accept pid, q ∈ vo.blackList → s.loaded q = false

instance (s : FriendServer) (pid : Int32) : Decidable (LoadsWell s pid) := by
  unfold LoadsWell
  split
  · exact List.instDecidableEqNil _
  -- The quantifiers are bounded; all numbers are never tried.
  · exact @instDecidableAnd _ _ Finset.decidableDforallFinset (List.decidableBAll _ _)

lemma mem_accepted_iff (h : Consistent s) :
    a ∈ getFriendByStatusSrcOrTgt s .accept b ↔ Accepted s a b :=
  mem_getFriendByStatusSrcOrTgt h

/-- **What a loading does** if there is a saved list: it gets the players with an accepted request
who are not blocked, and the requests with those who are blocked leave the cache. -/
lemma buildAsLoad_some (h : Sound s) {vo : FriendListVO}
    (hrow : s.friendListDAO.lookup pid = some vo) :
    ∃ rest s', (buildAsLoad pid).finalState s =
        s'.setFriendList pid { vo with myFriends := vo.myFriends ∪ rest } ∧
      Consistent s' ∧ s'.players = (s.setFriendList pid vo).players ∧
      s'.friendListDAO = s.friendListDAO ∧
      (∀ q, q ∈ rest ↔ Accepted s q pid ∧ q ∉ vo.blackList) ∧
      ∀ a b, Accepted s' a b ↔
        Accepted s a b ∧ ¬(b = pid ∧ a ∈ vo.blackList) ∧ ¬(a = pid ∧ b ∈ vo.blackList) := by
  have hstart : Consistent (s.setFriendList pid vo) := h.consistent.congr rfl rfl
  obtain ⟨rest₁, s₁, hrun₁, hcons₁, hplayers₁, hdao₁, hcache₁, -⟩ :=
    checkAndRemoveReq_run pid vo false hstart
      (nodup_getFriendByStatusSrcOrTgt s .requestSend pid)
  obtain ⟨rest₂, s₂, hrun₂, hcons₂, hplayers₂, hdao₂, hcache₂, hleft₂⟩ :=
    checkAndRemoveReq_run pid vo true hcons₁
      (nodup_getFriendByStatusSrcOrTgt s .accept pid)
  -- an accepted request is not among those that are only sent
  have hkept : ∀ {v}, InCache s v → v.status = .accept → InCache s₁ v := by
    intro v hv haccept
    refine (hcache₁ v).mpr ⟨hv, ?_⟩
    rintro ⟨hpos, q, hq, -, hjoins⟩
    obtain ⟨v', hv', hstatus, hjoins'⟩ := (mem_getFriendByStatusSrcOrTgt h.consistent).mp hq
    obtain rfl := h.consistent.unique hv hv' hpos (hjoins.trans hjoins')
    rw [haccept] at hstatus
    cases hstatus
  have hall : ∀ q ∈ getFriendByStatusSrcOrTgt s .accept pid,
      ∃ v, InCache s₁ v ∧ v.Positive ∧ Joins v q pid := by
    intro q hq
    obtain ⟨v, hv, haccept, hjoins⟩ := (mem_accepted_iff h.consistent).mp hq
    exact ⟨v, hkept hv haccept, h.consistent.accepted hv haccept, hjoins⟩
  refine ⟨rest₂.toFinset, s₂, ?_, hcons₂, ?_, ?_, ?_, ?_⟩
  · unfold buildAsLoad
    rw [finalState_get_bind, hrow]
    simp only
    rw [finalState_modify_bind, finalState_bind, hrun₁]
    simp only
    rw [finalState_bind, hrun₂]
    rfl
  · rw [hplayers₂, hplayers₁]
  · rw [hdao₂, hdao₁]
    rfl
  · intro q
    rw [List.mem_toFinset, hleft₂ rfl hall, mem_accepted_iff h.consistent]
  · intro a b
    constructor
    · rintro ⟨v, hv, haccept, hjoins⟩
      obtain ⟨hv₁, hnot⟩ := (hcache₂ v).mp hv
      obtain ⟨hv₀, -⟩ := (hcache₁ v).mp hv₁
      have hpos := h.consistent.accepted hv₀ haccept
      refine ⟨⟨v, hv₀, haccept, hjoins⟩, ?_, ?_⟩
      · rintro ⟨rfl, hblack⟩
        exact hnot ⟨hpos, a, (mem_accepted_iff h.consistent).mpr ⟨v, hv₀, haccept, hjoins⟩, hblack,
          hjoins⟩
      · rintro ⟨rfl, hblack⟩
        exact hnot ⟨hpos, b, (mem_accepted_iff h.consistent).mpr
          ⟨v, hv₀, haccept, hjoins.symm⟩, hblack, hjoins.symm⟩
    · rintro ⟨⟨v, hv, haccept, hjoins⟩, hleft, hright⟩
      refine ⟨v, (hcache₂ v).mpr ⟨hkept hv haccept, ?_⟩, haccept, hjoins⟩
      rintro ⟨-, q, -, hblack, hjoins'⟩
      rcases hjoins.eq_or_eq hjoins' with ha | hb
      · subst a
        exact hright ⟨rfl, by rw [hjoins.symm.right_unique hjoins']; exact hblack⟩
      · subst b
        exact hleft ⟨rfl, by rw [hjoins.right_unique hjoins']; exact hblack⟩

lemma friends_of_not_loaded (h : s.loaded pid = false) : s.friends pid = ∅ := by
  unfold FriendServer.loaded at h
  unfold FriendServer.friends FriendServer.getFriendList
  cases hlookup : s.players.lookup pid with
  | none => rfl
  | some _ =>
    rw [hlookup] at h
    cases h

/-- A player without a saved list is loaded. -/
lemma buildAsLoad_none (hrow : s.friendListDAO.lookup pid = none) :
    (buildAsLoad pid).finalState s = { s with players := s.players.insert pid none } := by
  unfold buildAsLoad
  rw [finalState_get_bind, hrow]
  rfl

section Load

variable (h : Sound s) (hpid : s.loaded pid = false)

include h

/-- **A loading ends well**, whether it goes well or not. -/
lemma Sound.buildAsLoad : Sound ((buildAsLoad pid).finalState s) := by
  cases hrow : s.friendListDAO.lookup pid with
  | none =>
    rw [buildAsLoad_none hrow]
    refine ⟨h.consistent.congr rfl rfl, ?_, h.disjointSaved⟩
    intro b friendList hlist
    simp only [FriendServer.getFriendList, AList.lookup_insert_ite] at hlist
    split_ifs at hlist
    · cases hlist
    · exact h.disjoint hlist
  | some vo =>
    obtain ⟨rest, s', hfinal, hconsistent, hplayers, hdao, hrest, -⟩ := buildAsLoad_some h hrow
    have hset := @Sound.setFriendList _ pid _ h (h.disjointSaved hrow)
    have hsound : Sound s' := hset.of_consistent hconsistent hplayers hdao
    rw [hfinal]
    refine hsound.setFriendList ?_
    refine Finset.disjoint_union_left.mpr ⟨h.disjointSaved hrow, ?_⟩
    exact Finset.disjoint_left.mpr fun q hq => ((hrest q).mp hq).2

omit h in
lemma loaded_insert_none (q : Int32) :
    FriendServer.loaded { s with players := s.players.insert pid none } q =
      (decide (q = pid) || s.loaded q) := by
  simp only [FriendServer.loaded, AList.lookup_insert_ite]
  by_cases hq : q = pid
  · rw [if_pos hq, decide_eq_true hq]
    rfl
  · rw [if_neg hq, decide_eq_false hq]
    rfl

include hpid

omit h in
lemma friends_insert_none (q : Int32) :
    FriendServer.friends { s with players := s.players.insert pid none } q = s.friends q := by
  by_cases hq : q = pid
  · rw [hq, friends_of_not_loaded hpid]
    simp only [FriendServer.friends, FriendServer.getFriendList, AList.lookup_insert]
    rfl
  · simp only [FriendServer.friends, FriendServer.getFriendList, AList.lookup_insert_ite,
      if_neg hq]

/-- **Without a saved list** the lists say what was accepted just if nothing was. -/
lemma Linked.buildAsLoad_none_iff (hlinked : Linked s) (hrow : s.friendListDAO.lookup pid = none) :
    Linked ((buildAsLoad pid).finalState s) ↔ getFriendByStatusSrcOrTgt s .accept pid = [] := by
  rw [buildAsLoad_none hrow]
  constructor
  · intro hlinked'
    rw [List.eq_nil_iff_forall_not_mem]
    intro q hq
    have hmem := (hlinked' q pid (by rw [loaded_insert_none, decide_eq_true rfl]; rfl)).mpr
      ((mem_accepted_iff h.consistent).mp hq)
    rw [friends_insert_none hpid, friends_of_not_loaded hpid] at hmem
    exact absurd hmem (Finset.notMem_empty q)
  · intro hnil a b hb
    rw [friends_insert_none hpid]
    by_cases hbpid : b = pid
    · subst b
      have hnot : ¬Accepted s a pid := by
        rw [← mem_accepted_iff h.consistent, hnil]
        exact List.not_mem_nil
      rw [friends_of_not_loaded hpid]
      exact ⟨fun hmem => absurd hmem (Finset.notMem_empty a), fun hacc => absurd hacc hnot⟩
    · rw [loaded_insert_none, decide_eq_false hbpid, Bool.false_or] at hb
      exact hlinked a b hb

/-- **With a saved list** its friends must be accepted, and who is blocked in it must not be
loaded. -/
lemma Linked.buildAsLoad_some_iff (hlinked : Linked s) {vo : FriendListVO}
    (hrow : s.friendListDAO.lookup pid = some vo) :
    Linked ((buildAsLoad pid).finalState s) ↔
      (∀ q ∈ vo.myFriends, q ∈ getFriendByStatusSrcOrTgt s .accept pid) ∧
        ∀ q ∈ getFriendByStatusSrcOrTgt s .accept pid, q ∈ vo.blackList → s.loaded q = false := by
  have hne : ∀ {q}, s.loaded q → q ≠ pid := by
    rintro q hq rfl
    rw [hpid] at hq
    cases hq
  obtain ⟨rest, s', hfinal, -, hplayers, -, hrest, haccepted⟩ := buildAsLoad_some h hrow
  rw [hfinal]
  have hloaded : ∀ q, (s'.setFriendList pid { vo with myFriends := vo.myFriends ∪ rest }).loaded
      q = (decide (q = pid) || s.loaded q) := by
    intro q
    have hset : s'.loaded q = (s.setFriendList pid vo).loaded q := by
      unfold FriendServer.loaded
      rw [hplayers]
    rw [loaded_setFriendList, hset, loaded_setFriendList, ← Bool.or_assoc, Bool.or_self]
  have hfriends : ∀ q, (s'.setFriendList pid { vo with myFriends := vo.myFriends ∪ rest }).friends
      q = if q = pid then vo.myFriends ∪ rest else s.friends q := by
    intro q
    have hset : s'.friends q = (s.setFriendList pid vo).friends q := by
      unfold FriendServer.friends FriendServer.getFriendList
      rw [hplayers]
    rw [friends_setFriendList, hset, friends_setFriendList]
    split_ifs
    · rfl
    · rfl
  have hblack : ∀ {q}, q ∈ vo.myFriends → q ∉ vo.blackList := by
    intro q hq
    exact Finset.disjoint_left.mp (h.disjointSaved hrow) hq
  constructor
  · intro hlinked'
    refine ⟨?_, ?_⟩
    · intro q hq
      have hmem : q ∈ (s'.setFriendList pid
          { vo with myFriends := vo.myFriends ∪ rest }).friends pid := by
        rw [hfriends, if_pos rfl]
        exact Finset.mem_union_left _ hq
      have hacc := (hlinked' q pid (by rw [hloaded, decide_eq_true rfl]; rfl)).mp hmem
      exact (mem_accepted_iff h.consistent).mpr ((haccepted q pid).mp hacc).1
    · intro q hq hqblack
      by_contra hq'
      have hqloaded : s.loaded q := by
        cases hload : s.loaded q with
        | true => rfl
        | false => exact absurd hload hq'
      have hacc := (mem_accepted_iff h.consistent).mp hq
      have hmem : pid ∈ (s'.setFriendList pid
          { vo with myFriends := vo.myFriends ∪ rest }).friends q := by
        rw [hfriends, if_neg (hne hqloaded)]
        exact (hlinked pid q hqloaded).mpr hacc.symm
      have hacc' := (hlinked' pid q (by rw [hloaded, hqloaded, Bool.or_true])).mp hmem
      exact ((haccepted pid q).mp hacc').2.2 ⟨rfl, hqblack⟩
  · rintro ⟨hsaved, hblocked⟩ a b hb
    have hacc : Accepted (s'.setFriendList pid
        { vo with myFriends := vo.myFriends ∪ rest }) a b ↔ Accepted s' a b := Iff.rfl
    rw [hacc, haccepted, hfriends]
    by_cases hbpid : b = pid
    · subst b
      rw [if_pos rfl, Finset.mem_union, hrest]
      constructor
      · rintro (hmem | ⟨hacc', hnot⟩)
        · have hacc' := (mem_accepted_iff h.consistent).mp (hsaved a hmem)
          refine ⟨hacc', fun hin => hblack hmem hin.2, ?_⟩
          rintro ⟨rfl, hin⟩
          exact hblack hmem hin
        · refine ⟨hacc', fun hin => hnot hin.2, ?_⟩
          rintro ⟨rfl, hin⟩
          exact hnot hin
      · rintro ⟨hacc', hnot, -⟩
        exact .inr ⟨hacc', fun hin => hnot ⟨rfl, hin⟩⟩
    · rw [if_neg hbpid]
      rw [hloaded, decide_eq_false hbpid, Bool.false_or] at hb
      rw [hlinked a b hb]
      refine (and_iff_left_of_imp ?_).symm
      intro hacc'
      refine ⟨fun hin => hbpid hin.1, ?_⟩
      rintro ⟨rfl, hin⟩
      have hnot := hblocked b ((mem_accepted_iff h.consistent).mpr hacc'.symm) hin
      rw [hb] at hnot
      cases hnot

/-- **When the lists still say what was accepted after a loading.** -/
lemma Linked.buildAsLoad_iff (hlinked : Linked s) :
    Linked ((buildAsLoad pid).finalState s) ↔ LoadsWell s pid := by
  unfold LoadsWell
  cases hrow : s.friendListDAO.lookup pid with
  | none => exact hlinked.buildAsLoad_none_iff h hpid hrow
  | some vo => exact hlinked.buildAsLoad_some_iff h hpid hrow

end Load

/-! ## Runs -/

/-- What happens on the server. -/
inductive Action where
  /-- A new request has the primary key `id`. -/
  | addNewFriend (env : Surroundings) (id me pid : Int32)
  | addNewFriendFeedback (env : Surroundings) (me tgtPid : Int32) (accept : Bool)
  | deleteFriend (me pid : Int32)
  | addFriend2BlackList (env : Surroundings) (me pid : Int32)
  | addRemoveFromBlackList (me pid : Int32)
  | saveAll (pid : Int32)
  | removePlayer (pid : Int32)
  | buildAsLoad (pid : Int32)

/-- The server after an action, whether it returned or threw. -/
def step (s : FriendServer) : Action → FriendServer
  | .addNewFriend env id me pid => (addNewFriend env id me pid).finalState s
  | .addNewFriendFeedback env me tgtPid accept =>
    (addNewFriendFeedback env me tgtPid accept).finalState s
  | .deleteFriend me pid => (deleteFriend me pid).finalState s
  | .addFriend2BlackList env me pid => (addFriend2BlackList env me pid).finalState s
  | .addRemoveFromBlackList me pid => (addRemoveFromBlackList me pid).finalState s
  | .saveAll pid => (saveAll pid).finalState s
  | .removePlayer pid => (removePlayer pid).finalState s
  | .buildAsLoad pid => (buildAsLoad pid).finalState s

/-- Who asks is in memory, and who is loaded is not; a new request gets a primary key that no other
one has. -/
def Allowed (s : FriendServer) : Action → Prop
  | .addNewFriend _ id me _ => s.loaded me ∧ s.allReqs.lookup id = none
  | .addNewFriendFeedback _ me _ _ => s.loaded me
  | .deleteFriend me _ => s.loaded me
  | .addFriend2BlackList _ me _ => s.loaded me
  | .addRemoveFromBlackList me _ => s.loaded me
  | .saveAll _ => True
  | .removePlayer _ => True
  | .buildAsLoad pid => s.loaded pid = false

/-- Loadings go well. -/
def LoadWell (s : FriendServer) : Action → Prop
  | .buildAsLoad pid => LoadsWell s pid
  | _ => True

instance (s : FriendServer) (action : Action) : Decidable (Allowed s action) := by
  cases action <;> unfold Allowed <;> infer_instance

instance (s : FriendServer) (action : Action) : Decidable (LoadWell s action) := by
  cases action <;> unfold LoadWell <;> infer_instance

lemma sound_empty : Sound .empty where
  consistent := consistent_empty
  disjoint h := by cases h
  disjointSaved h := by cases h

lemma linked_empty : Linked .empty := by
  intro a b hb
  cases hb

/-- **Every action but a loading keeps what the lists say.** -/
lemma Sound.keeps_step (h : Sound s) {action : Action} (hallowed : Allowed s action)
    (hload : ∀ pid, action ≠ .buildAsLoad pid) : Keeps s (step s action) := by
  cases action with
  | addNewFriend env id me pid => exact h.addNewFriend env hallowed.2
  | addNewFriendFeedback env me tgtPid accept =>
    exact h.addNewFriendFeedback env accept hallowed
  | deleteFriend me pid => exact h.deleteFriend
  | addFriend2BlackList env me pid => exact h.addFriend2BlackList env hallowed
  | addRemoveFromBlackList me pid => exact h.addRemoveFromBlackList
  | saveAll pid => exact h.saveAll
  | removePlayer pid => exact h.removePlayer
  | buildAsLoad pid => exact absurd rfl (hload pid)

/-- **Whatever happens**, the cache stays consistent and nobody is a friend and blocked. -/
lemma Sound.step (h : Sound s) {action : Action} (hallowed : Allowed s action) :
    Sound (step s action) := by
  by_cases hload : ∀ pid, action ≠ .buildAsLoad pid
  · exact (h.keeps_step hallowed hload).sound
  · obtain ⟨pid, hpid⟩ := not_forall_not.mp hload
    rw [hpid]
    exact h.buildAsLoad

/-- The lists still say what was accepted after an action just if it loads well. -/
lemma Sound.linked_step_iff (h : Sound s) (hlinked : Linked s) {action : Action}
    (hallowed : Allowed s action) : Linked (Friend.step s action) ↔ LoadWell s action := by
  cases action with
  | buildAsLoad pid => exact hlinked.buildAsLoad_iff h hallowed
  | _ =>
    refine iff_of_true ((h.keeps_step hallowed ?_).linked hlinked) trivial
    intro pid hpid
    cases hpid

/-- **Friendship is what it is to be after a step** just if the step loads well. -/
lemma Sound.good_step_iff (h : Sound s) (hlinked : Linked s) {action : Action}
    (hallowed : Allowed s action) : Good (Friend.step s action) ↔ LoadWell s action := by
  have hsound := h.step hallowed
  rw [← h.linked_step_iff hlinked hallowed, good_iff]
  exact and_iff_left ⟨fun _ _ => hsound.disjoint, fun _ _ => hsound.disjointSaved⟩

/-- **When friendship is what it is to be** in every state of a run: just when every loading goes
well. -/
theorem good_run_iff (actions : List Action)
    (hallowed : Runs.EveryStep step Allowed .empty actions) :
    Runs.EveryStep step (fun s action => Good (step s action)) .empty actions ↔
      Runs.EveryStep step LoadWell .empty actions := by
  refine Runs.everyStep_congr
    (fun s rest => Sound s ∧ Linked s ∧ Runs.EveryStep step Allowed s rest) ?_ ?_
    ⟨sound_empty, linked_empty, hallowed⟩
  · rintro s action rest ⟨hsound, hlinked, hallowed, hrest⟩ hload
    exact ⟨hsound.step hallowed, (hsound.linked_step_iff hlinked hallowed).mpr hload, hrest⟩
  · rintro s action rest ⟨hsound, hlinked, hallowed, -⟩
    exact hsound.good_step_iff hlinked hallowed

/-- Players that are all known, with large lists. -/
def everyone : Surroundings := ⟨fun _ => true, fun _ => true, 50, 50⟩

/-- Two players become friends, one blocks the other, and both are loaded again. -/
theorem good_run_block :
    Runs.EveryStep step (fun s action => Good (step s action)) .empty
      [.buildAsLoad 1, .buildAsLoad 2, .addNewFriend everyone 7 1 2,
        .addNewFriendFeedback everyone 2 1 true, .addFriend2BlackList everyone 1 2, .saveAll 2,
        .removePlayer 1, .buildAsLoad 1, .removePlayer 2, .buildAsLoad 2] :=
  (good_run_iff _ (by decide +kernel)).mpr (by decide +kernel)

/-- The players of a run after which friendship is one-sided: the first one asks and leaves, the
second one accepts, and the first one, who has no saved list, comes back. -/
def oneSided : List Action :=
  [.buildAsLoad 1, .buildAsLoad 2, .addNewFriend everyone 7 1 2, .removePlayer 1,
    .addNewFriendFeedback everyone 2 1 true, .buildAsLoad 1]

/-- Every step of it is allowed, and friendship is one-sided at its end. -/
theorem not_good_oneSided :
    Runs.EveryStep step Allowed .empty oneSided ∧ ¬Good (Runs.run step .empty oneSided) := by
  refine ⟨by decide +kernel, ?_⟩
  intro hgood
  have hsymmetric := hgood.symmetric 1 2 (by decide +kernel) (by decide +kernel)
  have htheirs : (1 : Int32) ∈ (Runs.run step .empty oneSided).friends 2 := by decide +kernel
  have hmine : (2 : Int32) ∉ (Runs.run step .empty oneSided).friends 1 := by decide +kernel
  exact hmine (hsymmetric.mp htheirs)

/-- **Nobody is a friend and blocked**, in no state of any run. -/
theorem disjoint_run (actions : List Action)
    (hallowed : Runs.EveryStep step Allowed .empty actions) {b : Int32}
    {friendList : FriendListVO}
    (hlist : (Runs.run step .empty actions).getFriendList b = some friendList) :
    friendList.IsDisjoint := by
  have hsound : Sound (Runs.run step .empty actions) :=
    Runs.state_inv_run Sound (fun _ _ h hallowed => h.step hallowed) sound_empty hallowed
  exact hsound.disjoint hlist

/-- A player comes back and blocks the one who has accepted him. -/
theorem disjoint_run_oneSided :
    ∃ friendList, (Runs.run step .empty (oneSided ++ [.addFriend2BlackList everyone 1
        2])).getFriendList 1 = some friendList ∧ friendList.IsDisjoint := by
  obtain ⟨friendList, hlist⟩ : ∃ friendList, (Runs.run step .empty (oneSided ++
      [.addFriend2BlackList everyone 1 2])).getFriendList 1 = some friendList :=
    Option.isSome_iff_exists.mp (by decide +kernel)
  exact ⟨friendList, hlist, disjoint_run _ (by decide +kernel) hlist⟩

end SrgpGame.Friend
