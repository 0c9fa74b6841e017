import SrgpGame.Friend.Friendship

set_option autoImplicit false

/-!
# How long a list of friends gets

A list of friends has a configured size. Whether the list of a player is full is checked when the
player asks somebody, and for the player who asked when the request is accepted. The list of the
player who accepts is not checked then, and many requests may be waiting.

## Main definitions

* `Within` — no list, in memory or saved, is longer than the size.
* `Accepts` — an answer makes two players friends.
* `Roomy` — the player who accepts has room, and the list of a player who is loaded fits.

## Main results

* `Within.step_iff` — after a step no list is too long just if there was room.
* `within_run_iff` — the same for runs.
-/

namespace SrgpGame.Friend

open EStateM

variable {s : FriendServer} {a b me pid : Int32} {size : Int32}

/-! ## What is required -/

/-- Friends who fit in a list. -/
def Fits (size : Int32) (friends : Finset Int32) : Prop := (friends.card : ℤ) ≤ size.toInt

/-- The friends in the saved list of a player. -/
def FriendServer.savedFriends (s : FriendServer) (pid : Int32) : Finset Int32 :=
  friendsIn (s.friendListDAO.lookup pid)

/-- **No list is too long**, in memory or saved. -/
structure Within (size : Int32) (s : FriendServer) : Prop where
  friends : ∀ pid, Fits size (s.friends pid)
  saved : ∀ pid, Fits size (s.savedFriends pid)

/-! ## The condition -/

/-- **An answer makes two players friends**: a request waits for it, and it passes all checks. -/
structure Accepts (env : Surroundings) (s : FriendServer) (me tgtPid : Int32) : Prop where
  known : env.hasPname tgtPid = true
  ne : me ≠ tgtPid
  waiting : ∃ req, InCache s req ∧ req.Positive ∧ req.src = tgtPid ∧ req.tgt = me ∧
    req.status = .requestSend
  unblocked : ∀ myFlist, s.getFriendList me = some myFlist → tgtPid ∉ myFlist.blackList
  checked : checkAccept env me tgtPid s = .ok ()

/-- The players with an accepted request who are not blocked. -/
def acceptedFriends (s : FriendServer) (pid : Int32) (friendList : FriendListVO) : Finset Int32 :=
  ((getFriendByStatusSrcOrTgt s .accept pid).filter fun q => q ∉ friendList.blackList).toFinset

/-- **There is room**: for a new friend in the list of the player who accepts, and in the list of a
player who is loaded, for the friends whose requests were accepted meanwhile. -/
def Roomy (size : Int32) (s : FriendServer) : Action → Prop
  | .addNewFriendFeedback env me tgtPid true => Accepts env s me tgtPid →
      tgtPid ∈ s.friends me ∨ ((s.friends me).card : ℤ) < size.toInt
  | .buildAsLoad pid => ∀ friendList, s.friendListDAO.lookup pid = some friendList →
      Fits size (friendList.myFriends ∪ acceptedFriends s pid friendList)
  | _ => True

/-- The size is the configured one. -/
def Configured (size : Int32) : Action → Prop
  | .addNewFriend env _ _ _ => env.friendListSize = size
  | .addNewFriendFeedback env _ _ _ => env.friendListSize = size
  | _ => True

/-! ## Changes of lists -/

section Lists

variable {friendList : FriendListVO}

lemma Fits.mono {friends friends' : Finset Int32} (h : Fits size friends)
    (hsub : friends' ⊆ friends) : Fits size friends' :=
  (Int.ofNat_le.mpr (Finset.card_le_card hsub)).trans h

/-- One friend more fits if the friend was there, or there was room. -/
lemma fits_insert_iff {friends : Finset Int32} (h : Fits size friends) :
    Fits size (insert pid friends) ↔ pid ∈ friends ∨ (friends.card : ℤ) < size.toInt := by
  unfold Fits at h ⊢
  by_cases hmem : pid ∈ friends
  · rw [Finset.insert_eq_of_mem hmem]
    exact iff_of_true h (.inl hmem)
  · rw [Finset.card_insert_of_notMem hmem, or_iff_right hmem]
    omega

/-- The size of a list that is not too long is no other number in an `int`. -/
lemma toInt_sizeOf {friends : Finset Int32} (h : Fits size friends) :
    (sizeOf friends).toInt = friends.card := by
  unfold Fits at h
  have hlt := size.toInt_lt
  exact Int32.toInt_ofNat_of_lt (by omega)

lemma Fits.empty (h : Within size s) : Fits size ∅ := (h.friends 0).mono (Finset.empty_subset _)

/-- A change of the cache. -/
lemma Within.of_lists {s' : FriendServer} (h : Within size s) (hplayers : s'.players = s.players)
    (hdao : s'.friendListDAO = s.friendListDAO) : Within size s' where
  friends pid := by
    have hfriends := h.friends pid
    rwa [FriendServer.friends, FriendServer.getFriendList, ← hplayers] at hfriends
  saved pid := by
    have hsaved := h.saved pid
    rwa [FriendServer.savedFriends, ← hdao] at hsaved

lemma savedFriends_saveFriendList (q : Int32) :
    (s.saveFriendList pid friendList).savedFriends q =
      if q = pid then friendList.myFriends else s.savedFriends q := by
  simp only [FriendServer.savedFriends, FriendServer.saveFriendList, AList.lookup_insert_ite]
  split
  · rfl
  · rfl

/-- Another list in memory is short enough just if it is. -/
lemma Within.setFriendList_iff (h : Within size s) :
    Within size (s.setFriendList pid friendList) ↔ Fits size friendList.myFriends := by
  constructor
  · intro h'
    have hfriends := h'.friends pid
    rwa [friends_setFriendList, if_pos rfl] at hfriends
  · refine fun hfits => ⟨fun q => ?_, h.saved⟩
    rw [friends_setFriendList]
    split
    · exact hfits
    · exact h.friends q

lemma Within.saveFriendList (h : Within size s) (hfits : Fits size friendList.myFriends) :
    Within size (s.saveFriendList pid friendList) := by
  refine ⟨h.friends, fun q => ?_⟩
  rw [savedFriends_saveFriendList]
  split
  · exact hfits
  · exact h.saved q

/-- Another list in memory, which is saved. -/
lemma Within.setAndSave (h : Within size s) (hfits : Fits size friendList.myFriends) :
    Within size ((s.setFriendList pid friendList).saveFriendList pid friendList) :=
  (h.setFriendList_iff.mpr hfits).saveFriendList hfits

lemma Within.fits (h : Within size s) (hlist : s.getFriendList pid = some friendList) :
    Fits size friendList.myFriends := friends_eq hlist ▸ h.friends pid

/-- A list with one friend less. -/
lemma Within.fits_erase (h : Within size s) (hlist : s.getFriendList pid = some friendList)
    (q : Int32) : Fits size (friendList.myFriends.erase q) :=
  (h.fits hlist).mono (Finset.erase_subset _ _)

/-- **A player gets a friend**: the list is not too long just if there was room. -/
lemma Within.befriend_iff (h : Within size s) {friend : Int32} :
    Within size (s.befriend pid friend) ↔
      friend ∈ s.friends pid ∨ ((s.friends pid).card : ℤ) < size.toInt := by
  have hlist : ((s.getFriendList pid).getD .init).myFriends = s.friends pid := by
    unfold FriendServer.friends
    cases s.getFriendList pid with
    | none => rfl
    | some friendList => rfl
  rw [← fits_insert_iff (h.friends pid), ← hlist]
  constructor
  · intro h'
    have hfriends := h'.friends pid
    rwa [friends_befriend, if_pos rfl, ← hlist] at hfriends
  · intro hfits
    exact h.setAndSave hfits

end Lists

/-! ## Operations that make no friends -/

section Others

variable {friendList : FriendListVO} (h : Within size s) (hcons : Consistent s)

include h

/-- Two players part. -/
lemma Within.unfriend (vo : FriendReqVO) (hlist : s.getFriendList me = some friendList) :
    Within size (s.unfriend me pid vo friendList) := by
  have hleft : Within size (s.casStatus vo .delete) := h.of_lists rfl rfl
  have hmine : Within size ((s.casStatus vo .delete).setFriendList me
      { friendList with myFriends := friendList.myFriends.erase pid }) :=
    hleft.setFriendList_iff.mpr (h.fits_erase hlist pid)
  unfold FriendServer.unfriend
  simp only
  split
  · exact hmine
  · next theirs htheirs => exact hmine.setFriendList_iff.mpr (hmine.fits_erase htheirs me)

include hcons in
lemma Within.addNewFriend (env : Surroundings) (id me pid : Int32) :
    Within size ((addNewFriend env id me pid).finalState s) := by
  rcases addNewFriend_cases hcons env id me pid with hsame | ⟨-, -, hsent⟩
  · rw [hsame]
    exact h
  · rw [hsent]
    exact h.of_lists rfl rfl

include hcons in
lemma Within.deleteFriend (me pid : Int32) :
    Within size ((deleteFriend me pid).finalState s) := by
  rcases deleteFriend_cases hcons me pid with hsame | ⟨vo, friendList, -, -, -, hlist, hparted⟩
  · rw [hsame]
    exact h
  · rw [hparted]
    exact h.unfriend vo hlist

include hcons in
/-- A player gets a list. -/
lemma Within.getOrNewFriendList (me : Int32) :
    ∃ friendList s', (getOrNewFriendList me).run s = .ok friendList s' ∧ Within size s' ∧
      Consistent s' ∧ s'.getFriendList me = some friendList := by
  unfold Friend.getOrNewFriendList
  rw [run_bind]
  simp only [EStateM.run_get]
  cases hlist : s.getFriendList me with
  | some friendList => exact ⟨friendList, s, rfl, h, hcons, hlist⟩
  | none =>
    refine ⟨.init, s.setFriendList me .init, rfl, h.setFriendList_iff.mpr (Fits.empty h),
      hcons.congr rfl rfl, ?_⟩
    rw [getFriendList_setFriendList, if_pos rfl]

include hcons in
lemma Within.removeFriend (hlist : s.getFriendList me = some friendList) (pid : Int32) :
    Within size ((removeFriend me pid friendList).finalState s) := by
  unfold Friend.removeFriend
  split
  · rw [finalState_modify_bind]
    set s₁ := s.setFriendList me { friendList with myFriends := friendList.myFriends.erase pid }
      with hs₁
    have hwithin : Within size s₁ := h.setFriendList_iff.mpr (h.fits_erase hlist pid)
    have hlist₁ : s₁.getFriendList me =
        some { friendList with myFriends := friendList.myFriends.erase pid } := by
      rw [hs₁, getFriendList_setFriendList, if_pos rfl]
    have hcons₁ : Consistent s₁ := hcons.congr rfl rfl
    obtain ⟨r, hrun, -⟩ := getSrcOrTgt_run hcons₁ me pid
    rw [finalState_bind, hrun]
    cases r with
    | none => exact hwithin
    | some vo =>
      simp only
      rw [doDeleteFriend_finalState vo hlist₁]
      exact hwithin.unfriend vo hlist₁
  · exact h

lemma Within.blockPlayer (me pid : Int32) :
    Within size ((blockPlayer me pid).finalState s) := by
  unfold Friend.blockPlayer
  rw [finalState_get_bind]
  cases hlist : s.getFriendList me with
  | none => exact h
  | some friendList =>
    have hfits := h.fits hlist
    exact h.setAndSave hfits

include hcons in
lemma Within.addFriend2BlackList (env : Surroundings) (me pid : Int32) :
    Within size ((addFriend2BlackList env me pid).finalState s) := by
  unfold Friend.addFriend2BlackList
  rw [finalState_ofExcept_bind]
  split
  case h_2 => exact h
  rw [finalState_ofExcept_bind]
  split
  case h_2 => exact h
  obtain ⟨friendList, s₁, hget, h₁, hcons₁, hlist⟩ := h.getOrNewFriendList hcons me
  rw [finalState_bind, hget]
  exact finalState_bind_of_keeps (h₁.removeFriend hcons₁ hlist pid)
    fun _ s₂ h₂ => Within.blockPlayer h₂ me pid

lemma Within.addRemoveFromBlackList (me pid : Int32) :
    Within size ((addRemoveFromBlackList me pid).finalState s) := by
  unfold Friend.addRemoveFromBlackList
  rw [finalState_get_bind]
  cases hlist : s.getFriendList me with
  | none => exact h
  | some friendList =>
    have hfits := h.fits hlist
    exact h.setAndSave hfits

lemma Within.saveAll (pid : Int32) : Within size ((saveAll pid).finalState s) := by
  unfold Friend.saveAll
  rw [finalState_get_bind]
  cases hlist : s.getFriendList pid with
  | none => exact h
  | some friendList => exact h.saveFriendList (h.fits hlist)

lemma Within.removePlayer (pid : Int32) : Within size ((removePlayer pid).finalState s) := by
  refine ⟨fun q => ?_, h.saved⟩
  have hlookup : ((Friend.removePlayer pid).finalState s).players.lookup q =
      if q = pid then none else s.players.lookup q := AList.lookup_erase_ite _ _ _
  rw [FriendServer.friends, FriendServer.getFriendList, hlookup]
  split
  · exact Fits.empty h
  · exact h.friends q

end Others

/-! ## Answers -/

section Answers

variable {env : Surroundings}

/-- The player who asked has room: that much is checked before the request is accepted. -/
lemma Within.room_of_checkAccept (h : Within size s) (hsize : env.friendListSize = size)
    (hcheck : checkAccept env me pid s = .ok ()) (hloaded : s.loaded pid = true) :
    ((s.friends pid).card : ℤ) < size.toInt := by
  have hlt : ∀ {length : Int32}, CodeFriend.maxFriendListSizeOther.throwIfTrue
      (env.friendListSize ≤ length) = .ok () → length.toInt < size.toInt := by
    intro length hfull
    rw [← hsize, ← Int32.lt_iff_toInt_lt]
    exact Int32.not_le.mp (ICode.throwIfTrue_eq_ok.mp hfull)
  unfold checkAccept at hcheck
  unfold FriendServer.friends
  cases hlist : s.getFriendList pid with
  | none =>
    rw [if_pos hloaded, hlist] at hcheck
    exact hlt hcheck
  | some friendList =>
    rw [if_pos hloaded, hlist] at hcheck
    obtain ⟨-, -, hfull⟩ := Except.bind_eq_ok.mp hcheck
    have hroom := hlt hfull
    rwa [toInt_sizeOf (h.fits hlist)] at hroom

/-- **An answer that makes friends**: the lists of both players in memory get a friend. -/
lemma Accepts.finalState (hcons : Consistent s) (haccepts : Accepts env s me pid) :
    ∃ s₁ : FriendServer, s₁.players = s.players ∧ s₁.friendListDAO = s.friendListDAO ∧
      (addNewFriendFeedback env me pid true).finalState s =
        if s.loaded pid then (s₁.befriend me pid).befriend pid me else s₁.befriend me pid := by
  obtain ⟨hknown, hne, ⟨req, hreq, hpos, hsrc, htgt, hstatus⟩, hblack, hcheck⟩ := haccepts
  obtain ⟨r, hrun, hfound, hmissing⟩ := getReq_run hcons pid me false
  obtain rfl : r = some req := by
    cases r with
    | none => exact absurd (.inl ⟨hsrc, htgt⟩) (hmissing rfl req hreq hpos)
    | some req' =>
      obtain ⟨hreq', -, hsought⟩ := hfound req' rfl
      have hsame : req'.src = pid ∧ req'.tgt = me := hsought.resolve_right fun hback => by
        cases hback.1
      rw [hcons.unique hreq hreq' hpos (.inl ⟨hsame.1.trans hsrc.symm, hsame.2.trans htgt.symm⟩)]
  refine ⟨(s.casStatus req .accept).add2Cache { req with status := .accept }, rfl, rfl, ?_⟩
  unfold addNewFriendFeedback
  have hbad : CodeFriend.badReq.throwIfTrue (!env.hasPname pid ∨ me = pid) = .ok () :=
    ICode.throwIfTrue_eq_ok.mpr (by simp [hknown, hne])
  have hsrc' : CodeFriend.badReq.throwIfTrue (req.src ≠ pid) = .ok () :=
    ICode.throwIfTrue_eq_ok.mpr (not_not.mpr hsrc)
  have hblack' : CodeFriend.inMyBlackList.throwIfTrue
      ((s.getFriendList me).any fun myFlist => pid ∈ myFlist.blackList) = .ok () := by
    refine ICode.throwIfTrue_eq_ok.mpr ?_
    cases hlist : s.getFriendList me with
    | none => exact Bool.false_ne_true
    | some myFlist => simpa using hblack myFlist hlist
  have hloaded : (((s.casStatus req .accept).add2Cache
      { req with status := .accept }).befriend me pid).loaded pid = s.loaded pid := by
    rw [loaded_befriend, decide_eq_false hne.symm]
    rfl
  rw [finalState_ofExcept_bind_of_ok s hbad, finalState_bind, getSrcTgt, hrun]
  simp only
  rw [finalState_ofExcept_bind_of_ok s hsrc', finalState_ofExcept_bind_of_ok s hblack']
  simp only [if_true]
  rw [finalState_ofExcept_bind_of_ok s hcheck, finalState_bind, statusChg_run_of_eq hstatus]
  simp only [if_true, Bool.false_eq_true, if_false]
  rw [finalState_bind, doFriendPid2List_run]
  simp only [finalState_get_bind, hloaded]
  split_ifs
  · rfl
  · rfl

/-- Any other answer leaves the lists as they are. -/
lemma lists_of_not_accepts (hcons : Consistent s) {accept : Bool}
    (hnot : accept = true → ¬Accepts env s me pid) :
    ((addNewFriendFeedback env me pid accept).finalState s).players = s.players ∧
      ((addNewFriendFeedback env me pid accept).finalState s).friendListDAO = s.friendListDAO := by
  unfold addNewFriendFeedback
  rw [finalState_ofExcept_bind]
  split
  case h_2 => exact ⟨rfl, rfl⟩
  rename_i hbad
  obtain ⟨r, hrun, hfound⟩ := getSrcTgt_run hcons pid me
  rw [finalState_bind, hrun]
  cases r with
  | none => exact ⟨rfl, rfl⟩
  | some req =>
    obtain ⟨hreq, hpos, hsrc, htgt⟩ := hfound req rfl
    simp only
    rw [finalState_ofExcept_bind]
    split
    case h_2 => exact ⟨rfl, rfl⟩
    rw [finalState_ofExcept_bind]
    split
    case h_2 => exact ⟨rfl, rfl⟩
    rename_i hblack
    cases accept with
    | true =>
      simp only [if_true]
      rw [finalState_ofExcept_bind]
      split
      case h_2 => exact ⟨rfl, rfl⟩
      rename_i hcheck
      by_cases hstatus : req.status = .requestSend
      · refine absurd ⟨?_, ?_, ⟨req, hreq, hpos, hsrc, htgt, hstatus⟩, ?_, hcheck⟩ (hnot rfl)
        · have hknown := ICode.throwIfTrue_eq_ok.mp hbad
          cases hpname : env.hasPname pid with
          | true => rfl
          | false => exact absurd (.inl (by rw [hpname]; rfl)) hknown
        · exact fun heq => ICode.throwIfTrue_eq_ok.mp hbad (.inr heq)
        · intro myFlist hlist
          have hunblocked := ICode.throwIfTrue_eq_ok.mp hblack
          rw [hlist] at hunblocked
          simpa using hunblocked
      · rw [finalState_bind, statusChg_run_of_ne hstatus]
        exact ⟨rfl, rfl⟩
    | false =>
      simp only [Bool.false_eq_true, if_false]
      by_cases hstatus : req.status = .requestSend
      · rw [finalState_bind, statusChg_run_of_eq hstatus]
        exact ⟨rfl, rfl⟩
      · rw [finalState_bind, statusChg_run_of_ne hstatus]
        exact ⟨rfl, rfl⟩

/-- **After an answer** no list is too long just if the player who accepts had room. -/
lemma Within.addNewFriendFeedback_iff (h : Within size s) (hcons : Consistent s)
    (hsize : env.friendListSize = size) (accept : Bool) :
    Within size ((addNewFriendFeedback env me pid accept).finalState s) ↔
      (accept = true → Accepts env s me pid →
        pid ∈ s.friends me ∨ ((s.friends me).card : ℤ) < size.toInt) := by
  by_cases haccepts : accept = true ∧ Accepts env s me pid
  · obtain ⟨rfl, haccepts⟩ := haccepts
    obtain ⟨s₁, hplayers, hdao, hfinal⟩ := haccepts.finalState hcons
    have h₁ : Within size s₁ := h.of_lists hplayers hdao
    have hfriends : ∀ q, s₁.friends q = s.friends q := by
      intro q
      unfold FriendServer.friends FriendServer.getFriendList
      rw [hplayers]
    rw [hfinal, imp_iff_right rfl, imp_iff_right haccepts, ← hfriends, ← h₁.befriend_iff]
    split
    · next hloaded =>
      constructor
      · -- what is too long stays too long
        intro h₂
        rw [h₁.befriend_iff, ← fits_insert_iff (h₁.friends me)]
        have hmine := h₂.friends me
        rwa [friends_befriend, if_neg haccepts.ne, friends_befriend, if_pos rfl] at hmine
      · intro h₂
        refine h₂.befriend_iff.mpr (.inr ?_)
        rw [friends_befriend, if_neg haccepts.ne.symm, hfriends]
        exact h.room_of_checkAccept hsize haccepts.checked hloaded
    · rfl
  · obtain ⟨hplayers, hdao⟩ :=
      lists_of_not_accepts hcons fun haccept hall => haccepts ⟨haccept, hall⟩
    exact iff_of_true (h.of_lists hplayers hdao) fun haccept hall =>
      absurd ⟨haccept, hall⟩ haccepts

end Answers

/-! ## Loading -/

lemma mem_acceptedFriends (hcons : Consistent s) (friendList : FriendListVO) :
    a ∈ acceptedFriends s pid friendList ↔ Accepted s a pid ∧ a ∉ friendList.blackList := by
  rw [acceptedFriends, List.mem_toFinset, List.mem_filter, mem_accepted_iff hcons,
    decide_eq_true_eq]

/-- **After a loading** no list is too long just if the friends who came meanwhile fit. -/
lemma Within.buildAsLoad_iff (h : Within size s) (hsound : Sound s) :
    Within size ((buildAsLoad pid).finalState s) ↔
      ∀ friendList, s.friendListDAO.lookup pid = some friendList →
        Fits size (friendList.myFriends ∪ acceptedFriends s pid friendList) := by
  cases hrow : s.friendListDAO.lookup pid with
  | none =>
    refine iff_of_true ⟨fun q => ?_, fun q => ?_⟩ fun friendList hnone => by cases hnone
    · rw [buildAsLoad_none hrow]
      unfold FriendServer.friends FriendServer.getFriendList
      rw [AList.lookup_insert_ite]
      split
      · exact Fits.empty h
      · exact h.friends q
    · rw [buildAsLoad_none hrow]
      exact h.saved q
  | some friendList =>
    obtain ⟨rest, s', hfinal, -, hplayers, hdao, hrest, -⟩ := buildAsLoad_some hsound hrow
    have hsaved : Fits size friendList.myFriends := by
      have hfits := h.saved pid
      rwa [FriendServer.savedFriends, hrow] at hfits
    have hset : Within size (s.setFriendList pid friendList) := h.setFriendList_iff.mpr hsaved
    have h' : Within size s' := hset.of_lists hplayers hdao
    have hall : rest = acceptedFriends s pid friendList := by
      ext q
      rw [hrest, mem_acceptedFriends hsound.consistent]
    rw [hfinal, h'.setFriendList_iff, hall]
    constructor
    · rintro hfits _ ⟨⟩
      exact hfits
    · exact fun hfits => hfits friendList rfl

/-! ## Runs -/

/-- **After a step** no list is too long just if there was room. -/
lemma Within.step_iff (h : Within size s) (hsound : Sound s) {action : Action}
    (hsize : Configured size action) :
    Within size (step s action) ↔ Roomy size s action := by
  have hcons := hsound.consistent
  cases action with
  | addNewFriend env id me pid => exact iff_of_true (h.addNewFriend hcons env id me pid) trivial
  | addNewFriendFeedback env me tgtPid accept =>
    refine (h.addNewFriendFeedback_iff hcons hsize accept).trans ?_
    cases accept with
    | true => exact imp_iff_right rfl
    | false => exact iff_of_true (fun hfalse => absurd hfalse Bool.false_ne_true) trivial
  | deleteFriend me pid => exact iff_of_true (h.deleteFriend hcons me pid) trivial
  | addFriend2BlackList env me pid =>
    exact iff_of_true (h.addFriend2BlackList hcons env me pid) trivial
  | addRemoveFromBlackList me pid => exact iff_of_true (h.addRemoveFromBlackList me pid) trivial
  | saveAll pid => exact iff_of_true (h.saveAll pid) trivial
  | removePlayer pid => exact iff_of_true (h.removePlayer pid) trivial
  | buildAsLoad pid => exact h.buildAsLoad_iff hsound

/-- **No list ever gets too long** just if there is room whenever a request is accepted and whenever
a player is loaded. -/
theorem within_run_iff (hsound : Sound s) (h : Within size s) (actions : List Action)
    (hallowed : Runs.EveryStep step Allowed s actions)
    (hsize : ∀ action ∈ actions, Configured size action) :
    Runs.EveryStep step (fun s action => Within size (step s action)) s actions ↔
      Runs.EveryStep step (Roomy size) s actions := by
  refine Runs.everyStep_congr (fun s rest => Sound s ∧ Within size s ∧
    Runs.EveryStep step Allowed s rest ∧ ∀ action ∈ rest, Configured size action) ?_ ?_
    ⟨hsound, h, hallowed, hsize⟩
  · rintro s action rest ⟨hsound, h, ⟨hallowed, hrest⟩, hsize⟩ hroomy
    obtain ⟨hone, hsizes⟩ := List.forall_mem_cons.mp hsize
    exact ⟨hsound.step hallowed, (h.step_iff hsound hone).mpr hroomy, hrest, hsizes⟩
  · rintro s action rest ⟨hsound, h, -, hsize⟩
    exact h.step_iff hsound (List.forall_mem_cons.mp hsize).1

/-- Players that are all known, with lists for one friend. -/
def smallLists : Surroundings := ⟨fun _ => true, fun _ => true, 1, 50⟩

/-- Players 1 and 3 ask player 2, who accepts the request of player 1. -/
def befriended : List Action :=
  [.buildAsLoad 1, .buildAsLoad 2, .buildAsLoad 3, .addNewFriend smallLists 7 1 2,
    .addNewFriend smallLists 8 3 2, .addNewFriendFeedback smallLists 2 1 true]

lemma within_empty : Within 1 .empty := by
  have hfits : Fits 1 ∅ := by
    unfold Fits
    decide
  exact ⟨fun _ => hfits, fun _ => hfits⟩

/-- One friend fits. -/
theorem within_run_iff_befriended :
    Runs.EveryStep step (fun s action => Within 1 (step s action)) .empty befriended := by
  refine (within_run_iff sound_empty within_empty befriended (by decide +kernel) ?_).mpr ?_
  · simp [befriended, Configured, smallLists]
  · refine ⟨?_, ?_, ?_, trivial, trivial, fun _ => .inr (by decide +kernel), trivial⟩
    · rintro friendList ⟨⟩
    · rintro friendList ⟨⟩
    · rintro friendList ⟨⟩

/-- **Not so in general**: player 2 accepts the request of player 3, too. -/
theorem not_within_run :
    Runs.EveryStep step Allowed .empty
        (befriended ++ [.addNewFriendFeedback smallLists 2 3 true]) ∧
      ¬Within 1 (Runs.run step .empty
        (befriended ++ [.addNewFriendFeedback smallLists 2 3 true])) := by
  refine ⟨by decide +kernel, fun h => ?_⟩
  have hfits := h.friends 2
  unfold Fits at hfits
  revert hfits
  decide +kernel

end SrgpGame.Friend
