/-
Approval attempts and the replies of the attempts before them.

The manager knows an attempt by the satellite and the displayed PIN when the answer to its
POST comes back, and by the satellite alone when a status poll does.  The model numbers the
attempts, which the code does not, so that it can be said whose reply a reply is.
-/
import Dish.Proofs.Connecting

namespace Dish

open Steps HttpRequest

/-- The attempt an approval POST or a status poll was sent for. -/
def HttpRequest.attempt : HttpRequest → Option Nat
  | reversePair _ _ _ _ attempt => some attempt
  | pairStatus _ attempt => some attempt
  | _ => none

def HttpRequest.isPollOf (n : Nat) : HttpRequest → Bool
  | pairStatus _ attempt => attempt = n
  | _ => false

namespace Manager

/-- The unanswered status polls of the current attempt. -/
def currentPolls (s : Manager) : List HttpRequest :=
  s.approvals.filter (isPollOf s.reverse.attempt)

/-- The request whose callback the step runs is one of an attempt before the current one. -/
def superseded (s : Manager) (a : ManagerAction) : Option HttpRequest :=
  ((s.answered a).map (·.request)).filter fun r => r.attempt.any (· < s.reverse.attempt)

/-- A reply to the request touches the current attempt, whoever it was sent for: the POST's
if the satellite and the PIN are those awaited, a poll's if the satellite is, and also if a
poll is out, whose flag it clears. -/
def mistakes (s : Manager) : HttpRequest → Bool
  | .reversePair _ _ server pin _ => s.reverseAttemptIsCurrent server pin
  | .pairStatus server _ =>
    s.reverse.pollInFlight ||
      (s.reverse.phase = .awaitingApproval && s.reverse.server.id = server.id)
  | _ => false

/-- A reply to a superseded request lands where it is not taken for the current one's. -/
def SupersededIsKnown (s : Manager) (a : ManagerAction) : Prop :=
  ∀ r ∈ s.superseded a, s.mistakes r = false

instance (s : Manager) (a : ManagerAction) : Decidable (s.SupersededIsKnown a) :=
  inferInstanceAs (Decidable (∀ r ∈ s.superseded a, s.mistakes r = false))

/-- A reply to a superseded request leaves the current attempt and the store alone. -/
def SupersededIsHarmless (s : Manager) (a : ManagerAction) : Prop :=
  (s.superseded a).isSome → (s.step a).reverse = s.reverse ∧ (s.step a).store = s.store

variable {s s' : Manager} {a : ManagerAction}

/-! ### One reply -/

theorem endPairingRequest_same (s : Manager) (id : SatelliteId) (sentOn : Nat) :
    (s.endPairingRequest id sentOn).reverse = s.reverse ∧
      (s.endPairingRequest id sentOn).store = s.store := by
  unfold endPairingRequest
  split <;> exact ⟨rfl, rfl⟩

theorem onReversePairReply_superseded {id : SatelliteId} {sentOn : Nat} {server : DiscoveredServer}
    {pin : String} (h : s.reverseAttemptIsCurrent server pin = false) (response : PairResponse)
    (pinMismatch : Bool) :
    (s.onReversePairReply id sentOn server pin response pinMismatch).reverse = s.reverse ∧
      (s.onReversePairReply id sentOn server pin response pinMismatch).store = s.store := by
  have hended := endPairingRequest_same s id sentOn
  have hcurrent : (s.endPairingRequest id sentOn).reverseAttemptIsCurrent server pin = false := by
    unfold reverseAttemptIsCurrent at h ⊢
    rwa [hended.1]
  unfold onReversePairReply
  dsimp only
  rw [hcurrent]
  exact hended

theorem onReverseStatusReply_superseded (server : DiscoveredServer)
    (hflag : s.reverse.pollInFlight = false)
    (hother : ¬(s.reverse.phase = .awaitingApproval ∧ s.reverse.server.id = server.id))
    (status : PairResponse) (pinMismatch : Bool) :
    s.onReverseStatusReply status pinMismatch server = s := by
  -- the flag it clears is clear already
  have hsame : ({ s with reverse := { s.reverse with pollInFlight := false } } : Manager) = s := by
    rw [← hflag]
  unfold onReverseStatusReply
  rw [hsame]
  rw [if_pos (not_and_or.mp hother)]

theorem supersededIsHarmless_of (hok : s.SupersededIsKnown a) : s.SupersededIsHarmless a := by
  intro hsome
  obtain ⟨r, hr⟩ := Option.isSome_iff_exists.mp hsome
  have hknown := hok r hr
  obtain ⟨hmap, hattempt⟩ := Option.filter_eq_some_iff.mp hr
  obtain ⟨x, ha, rfl⟩ := Option.map_eq_some_iff.mp hmap
  obtain ⟨k, pinMismatch, answer, -, htakes, -, heq⟩ := step_of_answered ha
  rw [heq]
  cases hrequest : x.request with
  | reversePair =>
    rw [hrequest] at hknown htakes
    cases answer with
    | pair response =>
      exact onReversePairReply_superseded (s := s.popped k) hknown
        response pinMismatch
    | _ => exact absurd htakes (by simp [takes])
  | pairStatus server =>
    rw [hrequest] at hknown htakes
    obtain ⟨hflag, hother⟩ := (Bool.or_eq_false_iff).mp hknown
    cases answer with
    | pair response =>
      have hsame := onReverseStatusReply_superseded (s := s.popped k)
        server hflag (by simpa using hother) response pinMismatch
      unfold onAnswer
      dsimp only
      rw [hsame]
      exact ⟨rfl, rfl⟩
    | _ => exact absurd htakes (by simp [takes])
  | _ => rw [hrequest] at hattempt; exact absurd hattempt (by simp [attempt])

/-! ### One poll at a time -/

structure OnePoll (s : Manager) : Prop where
  past : ∀ r ∈ s.approvals, ∀ n ∈ r.attempt, n ≤ s.reverse.attempt
  one : s.currentPolls.length ≤ 1
  free : s.reverse.phase = .awaitingApproval → s.reverse.pollInFlight = false → s.currentPolls = []

section
variable (h : OnePoll s)
include h

theorem OnePoll.of_same (hreverse : s'.reverse = s.reverse)
    (happrovals : s'.approvals = s.approvals) : OnePoll s' := by
  have hpolls : s'.currentPolls = s.currentPolls := by
    unfold currentPolls
    rw [hreverse, happrovals]
  refine ⟨?_, ?_, ?_⟩
  · rw [hreverse, happrovals]
    exact h.past
  · rw [hpolls]
    exact h.one
  · rw [hreverse, hpolls]
    exact h.free

theorem OnePoll.ended (hattempt : s'.reverse.attempt = s.reverse.attempt)
    (hphase : s'.reverse.phase ≠ .awaitingApproval) (happrovals : s'.approvals = s.approvals) :
    OnePoll s' where
  past := by
    rw [hattempt, happrovals]
    exact h.past
  one := by
    unfold currentPolls
    rw [hattempt, happrovals]
    exact h.one
  free := fun h => absurd h hphase

theorem onePoll_cancelReversePairing : OnePoll s.cancelReversePairing :=
  h.ended s.attempt_cancelReversePairing (by rw [cancelReversePairing_phase]; decide) rfl

/-- No request sent before the attempt was numbered belongs to it. -/
theorem OnePoll.filter_succ :
    s.approvals.filter (isPollOf (s.reverse.attempt + 1)) = [] := by
  rw [List.filter_eq_nil_iff]
  intro r hr hpoll
  cases r with
  | pairStatus server attempt =>
    have hle := h.past _ hr attempt rfl
    rw [of_decide_eq_true hpoll] at hle
    exact absurd hle (Nat.not_succ_le_self _)
  | _ => exact absurd hpoll (by simp [isPollOf])

theorem onePoll_requestReversePairing (server : DiscoveredServer) (drawn : Nat) :
    OnePoll (s.requestReversePairing server drawn) := by
  cases hrefusal : addressRefusal server with
  | some message =>
    have hbooks := s.refused_requestReversePairing hrefusal drawn
    exact (onePoll_cancelReversePairing h).of_same hbooks.reverse hbooks.approvals
  | none =>
    have hbooks := s.requested_requestReversePairing hrefusal drawn
    obtain ⟨ref, happrovals⟩ := hbooks.approvals
    have hattempt : (s.requestReversePairing server drawn).reverse.attempt =
        s.reverse.attempt + 1 := by
      rw [hbooks.reverse, ← s.attempt_cancelReversePairing]
      rfl
    have hpolls : (s.requestReversePairing server drawn).currentPolls = [] := by
      unfold currentPolls
      rw [hattempt, happrovals, List.filter_append, h.filter_succ]
      rfl
    refine ⟨?_, ?_, fun _ _ => hpolls⟩
    · rw [hattempt, happrovals]
      intro r hr n hn
      rcases List.mem_append.mp hr with hr | hr
      · exact (h.past r hr n hn).trans (Nat.le_succ _)
      · rw [List.mem_singleton.mp hr] at hn
        exact le_of_eq (Option.some.inj hn).symm
    · rw [hpolls]
      exact Nat.zero_le 1

theorem onePoll_pollReverseStatus : OnePoll s.pollReverseStatus := by
  rcases s.pollReverseStatus_books with hbooks | ⟨hphase, hflag, -, hreverse, happrovals⟩
  · exact h.of_same hbooks.reverse hbooks.approvals
  · have hattempt : s.pollReverseStatus.reverse.attempt = s.reverse.attempt := by rw [hreverse]
    refine ⟨?_, ?_, ?_⟩
    · rw [hattempt, happrovals]
      intro r hr n hn
      rcases List.mem_append.mp hr with hr | hr
      · exact h.past r hr n hn
      · rw [List.mem_singleton.mp hr] at hn
        exact le_of_eq (Option.some.inj hn).symm
    · have hnone : s.approvals.filter (isPollOf s.reverse.attempt) = [] :=
        h.free hphase hflag
      unfold currentPolls
      rw [hattempt, happrovals, List.filter_append, hnone, List.nil_append]
      exact List.length_filter_le _ _
    · rw [hreverse]
      intro _ hclear
      exact absurd hclear (by simp)

end

theorem approvals_perm {k : Nat} {x : InFlight} (hx : s.net[k]? = some x)
    (happroval : x.request.isApproval = true) :
    s.approvals.Perm (x.request :: (s.popped k).approvals) := by
  have hperm := ((perm_eraseIdx hx).map (·.request)).filter isApproval
  rwa [List.map_cons, List.filter_cons_of_pos happroval] at hperm

theorem OnePoll.answered (h : OnePoll s) {r : HttpRequest}
    (hperm : s.approvals.Perm (r :: s'.approvals))
    (hattempt : s'.reverse.attempt = s.reverse.attempt)
    (hfree : s'.reverse.phase = .awaitingApproval → s'.reverse.pollInFlight = false →
      s'.currentPolls = []) : OnePoll s' where
  past := by
    intro r' hr' n hn
    rw [hattempt]
    exact h.past r' (hperm.mem_iff.mpr (List.mem_cons_of_mem _ hr')) n hn
  one := by
    have hle := ((hperm.filter (isPollOf s.reverse.attempt)).length_eq).symm
    have hsub : s'.currentPolls.length ≤
        ((r :: s'.approvals).filter (isPollOf s.reverse.attempt)).length := by
      unfold currentPolls
      rw [hattempt]
      exact ((List.sublist_cons_self r s'.approvals).filter _).length_le
    exact hsub.trans (hle.trans_le h.one)
  free := hfree

theorem currentPolls_perm {r : HttpRequest} (hperm : s.approvals.Perm (r :: s'.approvals))
    (hattempt : s'.reverse.attempt = s.reverse.attempt)
    (hr : r.isPollOf s.reverse.attempt = false) : s.currentPolls.Perm s'.currentPolls := by
  have hfilter := hperm.filter (isPollOf s.reverse.attempt)
  rw [List.filter_cons_of_neg (by simp [hr])] at hfilter
  unfold currentPolls
  rw [hattempt]
  exact hfilter

theorem onePoll_answered (h : OnePoll s) (hok : s.SupersededIsKnown a) {x : InFlight}
    (ha : s.answered a = some x) (happroval : x.request.isApproval = true) :
    OnePoll (s.step a) := by
  obtain ⟨k, hx, hbooks, hadvances⟩ := s.approval_answered ha happroval
  have hperm : s.approvals.Perm (x.request :: (s.step a).approvals) := by
    rw [hbooks.approvals]
    exact approvals_perm hx happroval
  refine h.answered hperm hadvances.attempt fun hphase hflag => ?_
  cases hrequest : x.request with
  | pairStatus server attempt =>
    rw [hrequest] at hperm
    by_cases hcurrent : attempt = s.reverse.attempt
    · -- it was the one poll of the attempt
      have hpoll : (pairStatus server attempt).isPollOf s.reverse.attempt :=
        decide_eq_true hcurrent
      have hfilter := (hperm.filter (isPollOf s.reverse.attempt)).length_eq
      rw [List.filter_cons_of_pos hpoll, List.length_cons] at hfilter
      have hone : (s.approvals.filter (isPollOf s.reverse.attempt)).length ≤ 1 :=
        h.one
      unfold currentPolls
      rw [hadvances.attempt]
      exact List.eq_nil_of_length_eq_zero (by omega)
    · -- the reply of an attempt before changed nothing, so the flag was clear
      have hle : attempt ≤ s.reverse.attempt :=
        h.past _ (hperm.mem_iff.mpr List.mem_cons_self) attempt rfl
      have hsuperseded : s.superseded a = some x.request := by
        unfold superseded
        rw [ha, Option.map_some, Option.filter_some, if_pos]
        rw [hrequest]
        exact decide_eq_true (Nat.lt_of_le_of_ne hle hcurrent)
      have hsame := (supersededIsHarmless_of hok (hsuperseded ▸ rfl)).1
      rw [hsame] at hphase hflag
      have hnone := h.free hphase hflag
      have hpolls := currentPolls_perm hperm hadvances.attempt (decide_eq_false hcurrent)
      rw [hnone] at hpolls
      exact hpolls.nil_eq.symm
  | reversePair id sentOn server pin attempt =>
    rw [hrequest] at hperm
    -- while the attempt goes on, the answer to its POST leaves the flag
    have hpoll : (s.step a).reverse.pollInFlight = s.reverse.pollInFlight := by
      obtain ⟨k', pinMismatch, answer, -, htakes, -, heq⟩ := step_of_answered ha
      rw [hrequest] at htakes heq
      cases answer with
      | pair response =>
        rw [heq] at hphase ⊢
        exact (onReversePairReply_books (s.popped k') id sentOn server
          pin response pinMismatch).2.2 hphase
      | _ => exact absurd htakes (by simp [takes])
    have hnone := h.free (hadvances.awaiting hphase).1 (hpoll ▸ hflag)
    have hpolls := currentPolls_perm hperm hadvances.attempt rfl
    rw [hnone] at hpolls
    exact hpolls.nil_eq.symm
  | _ => rw [hrequest] at happroval; exact absurd happroval (by simp [isApproval])

theorem onePoll_step (h : OnePoll s) (hok : s.SupersededIsKnown a) : OnePoll (s.step a) := by
  by_cases hwrites : s.writesHolds a = true
  · cases a with
    | connectTo server =>
      have hbooks := sameBooks.connectTo s .userInitiated server trivial
      refine h.of_same (hbooks.reverse.trans ?_) (hbooks.approvals.trans ?_) <;> split <;> rfl
    | pairWithPin server pin =>
      have hbooks := s.books_pairWithPin server pin
      refine h.of_same (hbooks.reverse.trans ?_) (hbooks.approvals.trans ?_) <;> split <;> rfl
    | requestReversePairing server drawn => exact onePoll_requestReversePairing h server drawn
    | cancelReversePairing => exact onePoll_cancelReversePairing h
    | disconnectByUser id =>
      have hbooks := sameBooks.disconnect { s with heldByUser := insert id s.heldByUser } id
      exact h.of_same hbooks.reverse hbooks.approvals
    | forget id =>
      have hbooks := s.books_forget id
      by_cases haimed : s.reverse.server.id = id
      · refine (onePoll_cancelReversePairing h).of_same (hbooks.reverse.trans ?_) hbooks.approvals
        exact if_pos haimed
      · exact h.of_same (hbooks.reverse.trans (if_neg haimed)) hbooks.approvals
    | reverseTimer => exact onePoll_pollReverseStatus h
    | reply | fail =>
      obtain ⟨x, ha, happroval⟩ := (Option.any_eq_true _ _).mp hwrites
      exact onePoll_answered h hok ha happroval
    | _ => exact absurd hwrites (by simp [writesHolds])
  · have hholds := s.holds_step (Bool.not_eq_true _ ▸ hwrites)
    exact h.of_same hholds.reverse hholds.approvals

/--
**Approval attempts do not interfere.**

In every run in which a reply to a request of a superseded attempt lands only where the
manager does not take it for one of the current attempt, no such reply changes the current
attempt (its phase, its latch, its flag) or the store, and in every state reached at most
one status poll of the current attempt is unanswered.
-/
theorem superseded_attempts_do_not_interfere (store : ConnectionStore) (acts : List ManagerAction)
    (hok : Along step SupersededIsKnown (ofStore store) acts) :
    Along step SupersededIsHarmless (ofStore store) acts ∧
      (after store acts).currentPolls.length ≤ 1 := by
  have hinit : OnePoll (ofStore store) :=
    ⟨fun r hr => absurd hr (by simp [approvals, ofStore]), by simp [currentPolls, approvals, ofStore],
      fun _ _ => by simp [currentPolls, approvals, ofStore]⟩
  constructor
  · exact along_of_inv (I := fun _ => True) (fun _ _ _ _ => trivial)
      (fun _ _ _ hok => supersededIsHarmless_of hok) trivial hok
  · have hrun : OnePoll (after store acts) :=
      run_keeps (I := OnePoll) (fun _ _ h hok => onePoll_step h hok) hinit hok
    exact hrun.one

/-- A status poll is answered: the operator declined. -/
def approvalDenied : HttpAnswer :=
  .pair { status := some "denied", httpStatus := 200, reachable := true }

/-- The user asks again; the answer to the first POST comes late and is not taken. -/
theorem late_post_reply_ignored :
    (after .empty ([.requestReversePairing box 42, .requestReversePairing box 43] ++
        answering 1 approvalPending ++ [.reverseTimer, .handshake 0 (some "f1")])).superseded
          (.reply 0 approvalPending) ≠ none ∧
      Along step SupersededIsHarmless (ofStore .empty)
        ([.requestReversePairing box 42, .requestReversePairing box 43] ++
          answering 1 approvalPending ++ [.reverseTimer] ++ answering 0 approvalPending) ∧
      (after .empty ([.requestReversePairing box 42, .requestReversePairing box 43] ++
        answering 1 approvalPending ++ [.reverseTimer] ++
          answering 0 approvalPending)).currentPolls.length ≤ 1 :=
  ⟨by decide +kernel, superseded_attempts_do_not_interfere _ _ (by decide +kernel)⟩

/--
The user asks again while a poll of the first attempt is out.  Its answer ends the second
attempt if it is a denial; if it is "pending", a second poll goes out beside the first.
-/
theorem superseded_poll_interferes :
    (after .empty ([.requestReversePairing box 42] ++ answering 0 approvalPending ++
        [.reverseTimer, .requestReversePairing box 43] ++ answering 1 approvalPending ++
          [.reverseTimer])).reverse.phase = .awaitingApproval ∧
      ((after .empty ([.requestReversePairing box 42] ++ answering 0 approvalPending ++
        [.reverseTimer, .requestReversePairing box 43] ++ answering 1 approvalPending ++
          [.reverseTimer, .handshake 0 (some "f1")])).superseded (.reply 0 approvalDenied)).isSome ∧
      (after .empty ([.requestReversePairing box 42] ++ answering 0 approvalPending ++
        [.reverseTimer, .requestReversePairing box 43] ++ answering 1 approvalPending ++
          [.reverseTimer] ++ answering 0 approvalDenied)).reverse.phase = .declined ∧
      (after .empty ([.requestReversePairing box 42] ++ answering 0 approvalPending ++
        [.reverseTimer, .requestReversePairing box 43] ++ answering 1 approvalPending ++
          [.reverseTimer] ++ answering 0 approvalPending ++
            [.reverseTimer])).currentPolls.length = 2 := by
  decide +kernel

end Manager

end Dish
