/-
When the recorded latency is no less than the true one.

A stamp is right for the ping that set it and too old for every later one, so a sample falls short
only where the stamp is younger than the ping the ack is for: an ack that was overtaken by a later
ping's stamp, or a stamp that was read a while after its ping went out.
-/
import Dish.Lib.Run
import Dish.Net.PingClock

namespace Dish.PingClock

open Steps

instance (s : PingClock) (a : PingAction) : Decidable (s.Possible a) := by
  cases a <;> unfold Possible <;> infer_instance

/-- The stamp is read in the microsecond its ping goes out, and no ack finds the stamp of a ping
later than its own. -/
def Timely (s : PingClock) : PingAction → Prop
  | .send _ => True
  | .arm nowUs => shouldArmPing s.pingSentUs nowUs → s.sent.getLast? = some nowUs
  | .ack ping _ => s.pingSentUs ≠ 0 → s.armedBy ≤ ping

instance (s : PingClock) (a : PingAction) : Decidable (s.Timely a) := by
  cases a <;> unfold Timely <;> infer_instance

/-- The stamp is the send time of the ping that set it, and no sample falls short. -/
structure Inv (s : PingClock) : Prop where
  increasing : s.sent.Pairwise (· < ·)
  stamp : s.pingSentUs ≠ 0 → s.sent[s.armedBy]? = some s.pingSentUs
  samples : ∀ x ∈ s.samples, ∃ sentUs ∈ s.sent[x.ping]?, x.ackUs - sentUs ≤ x.rttUs

theorem getElem?_send {sent : List Int} {i : Nat} {t : Int} (h : sent[i]? = some t) (next : Int) :
    (sent ++ [next])[i]? = some t := by
  obtain ⟨inside, -⟩ := List.getElem?_eq_some_iff.mp h
  rw [List.getElem?_append_left inside, h]

theorem le_of_sent {sent : List Int} (increasing : sent.Pairwise (· < ·)) {i j : Nat} {a b : Int}
    (ha : sent[i]? = some a) (hb : sent[j]? = some b) (le : i ≤ j) : a ≤ b := by
  obtain ⟨hi, rfl⟩ := List.getElem?_eq_some_iff.mp ha
  obtain ⟨hj, rfl⟩ := List.getElem?_eq_some_iff.mp hb
  rcases Nat.eq_or_lt_of_le le with rfl | lt
  · exact Int.le_refl _
  · exact Int.le_of_lt (List.pairwise_iff_getElem.mp increasing i j hi hj lt)

theorem Inv.step {s : PingClock} (h : s.Inv) (a : PingAction) (ok : s.Possible a ∧ s.Timely a) :
    (s.step a).Inv := by
  obtain ⟨possible, timely⟩ := ok
  cases a with
  | send =>
    refine ⟨?_, fun armed => getElem?_send (h.stamp armed) _, fun x mem => ?_⟩
    · refine List.pairwise_append.mpr ⟨h.increasing, List.pairwise_singleton _ _, ?_⟩
      intro t mem u last
      rw [List.mem_singleton.mp last]
      exact possible.2 t mem
    · obtain ⟨t, at', le⟩ := h.samples x mem
      exact ⟨t, getElem?_send at' _, le⟩
  | arm =>
    simp only [PingClock.step]
    split
    · next arms =>
      refine ⟨h.increasing, fun _ => ?_, h.samples⟩
      rw [← timely arms, List.getLast?_eq_getElem?]
    · exact h
  | ack =>
    simp only [PingClock.step, recordAckLatency]
    split
    · exact ⟨h.increasing, h.stamp, h.samples⟩
    · next armed =>
      refine ⟨h.increasing, fun none => absurd rfl none, fun x mem => ?_⟩
      rcases List.mem_append.mp mem with mem | mem
      · exact h.samples x mem
      · obtain ⟨-, sentUs, at', -⟩ := possible
        have older := le_of_sent h.increasing (h.stamp armed) at' (timely armed)
        rw [List.mem_singleton.mp mem]
        exact ⟨sentUs, at', by simp only; omega⟩

/-- **Latency is not under-reported**, in every run in which the stamp is read as its ping goes out
and no ack finds the stamp of a later ping. -/
theorem latency_not_understated (acts : List PingAction)
    (possible : Along step Possible {} acts) (timely : Along step Timely {} acts) :
    ∀ x ∈ (run step {} acts).samples,
      ∃ sentUs ∈ (run step {} acts).sent[x.ping]?, x.ackUs - sentUs ≤ x.rttUs := by
  have both : Along step (fun s a => s.Possible a ∧ s.Timely a) {} acts :=
    along_and.mpr ⟨possible, timely⟩
  have fresh : Inv {} := ⟨.nil, fun none => absurd rfl none, nofun⟩
  exact (run_keeps (I := Inv) (fun s a h ok => h.step a ok) fresh both).samples

/-- The ack of the first ping is lost, and that of the second is taken for it. -/
theorem latency_not_understated_after_loss :
    let acts : List PingAction := [.send 1000000, .arm 1000000, .send 3000000, .arm 3000000,
      .ack 1 3100000, .send 5000000, .arm 5000000, .ack 2 5100000]
    (run step {} acts).samples = [⟨1, 3100000, 2100000⟩, ⟨2, 5100000, 100000⟩] ∧
      ∀ x ∈ (run step {} acts).samples,
        ∃ sentUs ∈ (run step {} acts).sent[x.ping]?, x.ackUs - sentUs ≤ x.rttUs :=
  ⟨by decide +kernel, latency_not_understated _ (by decide +kernel) (by decide +kernel)⟩

/-- The ack of the first ping comes after the third has set the stamp: four seconds are recorded as
fifty milliseconds. -/
theorem late_ack_understated :
    let acts : List PingAction := [.send 1000000, .arm 1000000, .send 3000000, .arm 3000000,
      .ack 1 3100000, .send 5000000, .arm 5000000, .ack 0 5050000]
    Along step Possible {} acts ∧
      (run step {} acts).samples = [⟨1, 3100000, 2100000⟩, ⟨0, 5050000, 50000⟩] ∧
      (run step {} acts).sent[0]? = some 1000000 := by
  decide +kernel

end Dish.PingClock
