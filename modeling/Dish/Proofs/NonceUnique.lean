/-
No nonce is used twice.

A datagram's nonce is its key, its direction and its counter, so the two things to
keep apart are counters of one key and counters of different keys.  Counters of one
key are drawn from one counter inside the send gate and sealed before the gate is
let go, so they leave in the order they were drawn.  A counter drawn in the turn of
one key is never sealed under another: the sender compares the generation it copied
the key under after the draw, and a re-key opens its write before it restarts the
counter.

The generation has 32 bits and the counter 64, so both arguments need a bound: less
than a full cycle of the generation passes during one send, and less than a full
cycle of the counter during one key.  Without them the claims fail, as the two
schedules at the end show.
-/
import Dish.Proofs.Material

namespace Dish

open Seqlock Function Steps ClientState

variable {p : Sender} {turn next t generation value sequence : Nat} {s : ClientState}
  {copy : Copy Nat}

/-! ### One sender -/

/-- What holds of one sender, whatever the others do. -/
def SenderInv (s : SharedMaterial) : Sender → Prop
  | .idle => True
  | .reading r => ReadInv s r
  | .ready generation copy => Copied s generation copy
  | .gated generation copy => Copied s generation copy
  | .drawn generation copy _ sequence =>
    Copied s generation copy ∧ (s.cell.gen = copy.before → sequence = s.sequence)
  | .socketed generation copy _ sequence _ =>
    Copied s generation copy ∧ (s.cell.gen = copy.before → sequence = s.sequence)
  | .sealing copy counter value sequence =>
    s.keys[sequence]? = some (materialOf copy).key ∧ wireSendCounter value = some counter
  | .leaving => True

theorem SenderInv.evolves {s s' : SharedMaterial} (he : Evolves s s') (h : SenderInv s p) :
    SenderInv s' p := by
  cases p with
  | idle => trivial
  | reading => exact ReadInv.evolves he h
  | ready | gated => exact Copied.evolves he h
  | drawn generation copy | socketed generation copy =>
    refine ⟨h.1.evolves he, fun hgen => ?_⟩
    obtain ⟨hbefore, hseq⟩ := he.still copy h.1.valid hgen
    rw [hseq, h.2 hbefore]
  | sealing =>
    refine ⟨?_, h.2⟩
    obtain ⟨more, hmore⟩ := he.keys
    rw [← hmore, List.getElem?_append_left (List.getElem?_eq_some_iff.mp h.1).1]
    exact h.1
  | leaving => trivial

/-! ### All senders and what they sealed -/

/-- The thread is between taking the gate and letting it go. -/
def Sender.inGate : Sender → Bool
  | .idle | .reading _ | .ready .. => false
  | _ => true

/-- The draw a thread has made and not yet sealed or given up. -/
def Sender.draw : Sender → Option (Nat × Nat)
  | .drawn _ _ value sequence => some (value, sequence)
  | .socketed _ _ value sequence _ => some (value, sequence)
  | .sealing _ _ value sequence => some (value, sequence)
  | _ => none

theorem Sender.inGate_of_draw {x : Nat × Nat} (h : p.draw = some x) : p.inGate = true := by
  cases p with
  | drawn | socketed | sealing => rfl
  | _ => exact nomatch h

/-- A draw lies behind the counter of its turn, which stands at `next` in turn `turn`. -/
def Behind (turn next value sequence : Nat) : Prop :=
  sequence ≤ turn ∧ (sequence = turn → value < next)

/-- The datagrams sealed so far. -/
structure LogInv (keys : List (BitVec 256)) (turn next : Nat) (log : List Datagram) : Prop where
  own : ∀ d ∈ log, keys[d.sequence]? = some d.key ∧ wireSendCounter d.value = some d.counter
  behind : ∀ d ∈ log, Behind turn next d.value d.sequence
  increasing : log.Pairwise fun d e => d.sequence = e.sequence → d.value < e.value

/-- A draw still to be sealed comes after everything sealed in its turn. -/
def DrawInv (turn next : Nat) (log : List Datagram) (p : Sender) : Prop :=
  ∀ value sequence, p.draw = some (value, sequence) →
    Behind turn next value sequence ∧ ∀ d ∈ log, d.sequence = sequence → d.value < value

structure SendInv (s : ClientState) : Prop where
  writer : WriterInv s.toSharedMaterial
  senders : ∀ t, SenderInv s.toSharedMaterial (s.senders t)
  gate : ∀ t, (s.senders t).inGate = true ↔ s.sendGate = some t
  draws : ∀ t, DrawInv s.sequence s.sendCounter s.log (s.senders t)
  log : LogInv s.keys s.sequence s.sendCounter s.log

variable {log : List Datagram}

theorem drawInv_of_none (h : p.draw = none) : DrawInv turn next log p := by
  intro value sequence hdraw
  rw [h] at hdraw
  exact nomatch hdraw

/-- While one thread is in the gate, no other has a draw of its own. -/
theorem SendInv.drawInv_of_ne (h : SendInv s) {u : Nat}
    (hgate : (s.senders t).inGate = true) (hne : u ≠ t) : DrawInv turn next log (s.senders u) := by
  intro value sequence hdraw
  have hu : s.sendGate = some u := (h.gate u).mp (Sender.inGate_of_draw hdraw)
  have ht : s.sendGate = some t := (h.gate t).mp hgate
  rw [hu] at ht
  injection ht with ht
  exact absurd ht hne

theorem forall_update_sender {P : Nat → Sender → Prop} {senders : Nat → Sender} (hp : P t p)
    (hrest : ∀ u, u ≠ t → P u (senders u)) (u : Nat) : P u (update senders t p u) := by
  by_cases hu : u = t
  · subst hu
    rw [update_self]
    exact hp
  · rw [update_of_ne hu]
    exact hrest u hu

theorem SendInv.moved (h : SendInv s) {gate : Option Nat}
    (hp : SenderInv s.toSharedMaterial p) (hin : p.inGate = true ↔ gate = some t)
    (hgate : ∀ u, u ≠ t → ((s.senders u).inGate = true ↔ gate = some u))
    (hdraw : DrawInv s.sequence next log p)
    (hdraws : ∀ u, u ≠ t → DrawInv s.sequence next log (s.senders u))
    (hlog : LogInv s.keys s.sequence next log) :
    SendInv { s.setSender t p with sendGate := gate, sendCounter := next, log := log } := by
  refine ⟨h.writer, ?_, ?_, ?_, hlog⟩
  · exact forall_update_sender (P := fun _ => SenderInv s.toSharedMaterial) hp
      fun u _ => h.senders u
  · exact forall_update_sender (P := fun u q => q.inGate = true ↔ gate = some u) hin hgate
  · exact forall_update_sender (P := fun _ => DrawInv s.sequence next log) hdraw hdraws

theorem SendInv.setSender (h : SendInv s) (hp : SenderInv s.toSharedMaterial p)
    (hgate : p.inGate = (s.senders t).inGate) (hdraw : DrawInv s.sequence s.sendCounter s.log p) :
    SendInv (s.setSender t p) :=
  h.moved hp (hgate ▸ h.gate t) (fun u _ => h.gate u) hdraw (fun u _ => h.draws u) h.log

/-- A thread moving on inside the gate, where it alone draws and seals. -/
theorem SendInv.inside (h : SendInv s) (hold : (s.senders t).inGate = true)
    (hp : SenderInv s.toSharedMaterial p) (hin : p.inGate = true)
    (hdraw : DrawInv s.sequence next log p) (hlog : LogInv s.keys s.sequence next log) :
    SendInv { s.setSender t p with sendCounter := next, log := log } :=
  h.moved hp ⟨fun _ => (h.gate t).mp hold, fun _ => hin⟩ (fun u _ => h.gate u) hdraw
    (fun _ hu => h.drawInv_of_ne hold hu) hlog

/-! ### Steps -/

/--
What the fixed widths allow: while a thread is in `sendEncrypted` the generation goes
on by less than a full 32-bit cycle, two per re-key, and no counter is drawn past the
64-bit range.
-/
def SendInBounds (s : ClientState) : ClientAction → Prop
  | .sender t _ =>
    match s.senders t with
    | .gated _ _ => s.sendCounter < 2 ^ 64
    | .socketed generation _ _ _ _ => s.cell.gen < generation + 2 ^ 32
    | _ => True
  | _ => True

instance (s : ClientState) (a : ClientAction) : Decidable (SendInBounds s a) := by
  unfold SendInBounds
  split
  · split <;> infer_instance
  · infer_instance

section
variable (h : SendInv s)
include h

theorem beginSend_keeps (t len : Nat) : SendInv (s.beginSend t len) := by
  unfold beginSend
  cases hp : s.senders t with
  | idle =>
    dsimp only
    split
    · exact h
    · split
      · exact h
      · exact h.setSender trivial (by rw [hp]; rfl) (drawInv_of_none rfl)
  | _ => exact h

theorem takeGate_keeps (hp : s.senders t = .ready generation copy) (hfree : s.sendGate = none) :
    SendInv { s.setSender t (.gated generation copy) with sendGate := some t } := by
  have hready : Copied s.toSharedMaterial generation copy := by
    have := h.senders t
    rwa [hp] at this
  refine h.moved hready ⟨fun _ => rfl, fun _ => rfl⟩ (fun u hu => ⟨fun hin => ?_, fun heq => ?_⟩)
    (drawInv_of_none rfl) (fun u _ => h.draws u) h.log
  · have := (h.gate u).mp hin
    rw [hfree] at this
    exact nomatch this
  · injection heq with heq
    exact absurd heq.symm hu

/-- Drawing a counter in the gate: it is past everything sealed in this turn. -/
theorem drawCounter_keeps (hp : s.senders t = .gated generation copy)
    (hbound : s.sendCounter < 2 ^ 64) :
    SendInv { s.setSender t (.drawn generation copy (s.sendCounter % 2 ^ 64) s.sequence) with
      sendCounter := s.sendCounter + 1 } := by
  have hcopied : Copied s.toSharedMaterial generation copy := by
    have := h.senders t
    rwa [hp] at this
  have hgate : (s.senders t).inGate = true := by rw [hp]; rfl
  rw [Nat.mod_eq_of_lt hbound]
  have hbehind : ∀ {value sequence}, Behind s.sequence s.sendCounter value sequence →
      Behind s.sequence (s.sendCounter + 1) value sequence :=
    fun hb => ⟨hb.1, fun heq => Nat.lt_succ_of_lt (hb.2 heq)⟩
  refine h.inside hgate ⟨hcopied, fun _ => rfl⟩ rfl ?_
    ⟨h.log.own, fun d hd => hbehind (h.log.behind d hd), h.log.increasing⟩
  intro value sequence hdraw
  obtain ⟨rfl, rfl⟩ : s.sendCounter = value ∧ s.sequence = sequence := by
    simpa [Sender.draw] using hdraw
  refine ⟨⟨Nat.le_refl _, fun _ => Nat.lt_succ_self _⟩, fun d hd heq => ?_⟩
  exact (h.log.behind d hd).2 heq

/-- A compare that finds the generation of the copy finds the key the draw counts for. -/
theorem key_of_compare {sock : Int}
    (hp : s.senders t = .socketed generation copy value sequence sock)
    (hbound : s.cell.gen < generation + 2 ^ 32) (hgen : s.cell.gen % 2 ^ 32 = generation % 2 ^ 32) :
    s.keys[sequence]? = some (materialOf copy).key := by
  have hsender := h.senders t
  rw [hp] at hsender
  obtain ⟨hcopied, hturn⟩ := hsender
  have hle : generation ≤ s.cell.gen := Nat.le_trans hcopied.le hcopied.valid.le
  obtain ⟨hbefore, hmaterial⟩ := hcopied.current (eq_of_mod_eq hle hbound hgen)
  rw [hturn hbefore, hmaterial]
  refine h.writer.key_of_even ?_
  rw [hbefore]
  exact hcopied.valid.even

/-- Sealing the draw: it comes after everything sealed in its turn. -/
theorem seal_keeps {counter : Nat} (hp : s.senders t = .sealing copy counter value sequence) :
    SendInv { s.setSender t .leaving with
      log := s.log ++ [⟨(materialOf copy).key, kDirClientToServer, counter, value, sequence⟩] } := by
  have hgate : (s.senders t).inGate = true := by rw [hp]; rfl
  have hsender := h.senders t
  rw [hp] at hsender
  obtain ⟨hbehind, habove⟩ := h.draws t value sequence (by rw [hp]; rfl)
  refine h.inside hgate trivial rfl (drawInv_of_none rfl) ⟨?_, ?_, ?_⟩
  · intro d hd
    rcases List.mem_append.mp hd with hd | hd
    · exact h.log.own d hd
    · obtain rfl := List.mem_singleton.mp hd
      exact hsender
  · intro d hd
    rcases List.mem_append.mp hd with hd | hd
    · exact h.log.behind d hd
    · obtain rfl := List.mem_singleton.mp hd
      exact hbehind
  · refine List.pairwise_append.mpr ⟨h.log.increasing, List.pairwise_singleton _ _, ?_⟩
    intro d hd e he heq
    obtain rfl := List.mem_singleton.mp he
    exact habove d hd heq

theorem leaveGate_keeps (hp : s.senders t = .leaving) :
    SendInv { s.setSender t .idle with sendGate := none } := by
  have hgate : s.sendGate = some t := (h.gate t).mp (by rw [hp]; rfl)
  refine h.moved trivial ⟨nofun, nofun⟩ (fun u hu => ⟨fun hin => ?_, nofun⟩)
    (drawInv_of_none rfl) (fun u _ => h.draws u) h.log
  have hgu := (h.gate u).mp hin
  rw [hgate] at hgu
  injection hgu with hgu
  exact absurd hgu.symm hu

theorem senderStep_keeps (t : Nat) (encrypted : Bool)
    (hok : SendInBounds s (.sender t encrypted)) : SendInv (s.senderStep t encrypted) := by
  have hsender := h.senders t
  unfold senderStep
  cases hp : s.senders t with
  | idle => exact h
  | reading r =>
    rw [hp] at hsender
    have hread := ReadInv.step hsender
    cases hr : r.step s.cell with
    | more | done =>
      rw [hr] at hread
      simp only [hr]
      exact h.setSender hread (by rw [hp]; rfl) (drawInv_of_none rfl)
    | torn =>
      simp only [hr]
      exact h.setSender trivial (by rw [hp]; rfl) (drawInv_of_none rfl)
  | ready =>
    cases hg : s.sendGate with
    | none => simpa only [hg] using takeGate_keeps h hp hg
    | some u => simpa only [hg] using h
  | gated =>
    simp only [SendInBounds, hp] at hok
    exact drawCounter_keeps h hp hok
  | drawn =>
    rw [hp] at hsender
    refine h.setSender hsender (by rw [hp]; rfl) ?_
    have hdraw := h.draws t
    rw [hp] at hdraw
    exact hdraw
  | socketed generation copy value sequence sock =>
    simp only [SendInBounds, hp] at hok
    have hdraw := h.draws t
    rw [hp] at hdraw
    have hleave : SendInv (s.setSender t .leaving) :=
      h.setSender trivial (by rw [hp]; rfl) (drawInv_of_none rfl)
    cases hctr : wireSendCounter value with
    | none => simpa only [hctr] using hleave
    | some ctr =>
      by_cases hcmp : 0 ≤ sock ∧ s.cell.gen % 2 ^ 32 = generation % 2 ^ 32
      · simp only [hctr, if_pos hcmp]
        exact h.setSender ⟨key_of_compare h hp hok hcmp.2, hctr⟩ (by rw [hp]; rfl) hdraw
      · simpa only [hctr, if_neg hcmp] using hleave
  | sealing =>
    cases encrypted with
    | true => exact seal_keeps h hp
    | false => exact h.setSender trivial (by rw [hp]; rfl) (drawInv_of_none rfl)
  | leaving => exact leaveGate_keeps h hp

end

/-- A restarted counter starts a turn that no draw and no datagram belongs to yet. -/
theorem behind_of_reset {turn' : Nat} (hlt : turn < turn') (h : Behind turn next value sequence) :
    Behind turn' 1 value sequence := by
  have hle := h.1
  exact ⟨by omega, fun heq => by omega⟩

theorem writerStep_keeps (h : SendInv s) : SendInv s.writerStep := by
  have hwriter := writerStep_writerInv h.writer
  have hsenders : ∀ t, SenderInv s.writerStep.toSharedMaterial (s.senders t) := fun t =>
    (h.senders t).evolves (writerStep_evolves h.writer)
  have hown : ∀ d ∈ s.log,
      s.writerStep.keys[d.sequence]? = some d.key ∧ wireSendCounter d.value = some d.counter := by
    intro d hd
    obtain ⟨hkey, hctr⟩ := h.log.own d hd
    obtain ⟨more, hmore⟩ := (writerStep_evolves h.writer).keys
    rw [← hmore, List.getElem?_append_left (List.getElem?_eq_some_iff.mp hkey).1]
    exact ⟨hkey, hctr⟩
  -- only the restart of the counter touches what draws and datagrams are measured by
  have hcounter : s.writerStep.sequence = s.sequence ∧ s.writerStep.sendCounter = s.sendCounter ∨
      s.sequence < s.writerStep.sequence ∧ s.writerStep.sendCounter = 1 := by
    have hseq := h.writer.sequence
    unfold writerStep
    cases hw : s.writer with
    | resetting =>
      rw [hw] at hseq
      have hseq' : s.sequence + 2 = s.keys.length := hseq
      exact .inr ⟨by dsimp only; omega, rfl⟩
    | _ => exact .inl ⟨rfl, rfl⟩
  have hbehind : ∀ {value sequence}, Behind s.sequence s.sendCounter value sequence →
      Behind s.writerStep.sequence s.writerStep.sendCounter value sequence := by
    intro value sequence hb
    rcases hcounter with ⟨hseq, hctr⟩ | ⟨hlt, hctr⟩
    · rw [hseq, hctr]; exact hb
    · rw [hctr]; exact behind_of_reset hlt hb
  have hlog : s.writerStep.log = s.log := by
    unfold writerStep
    cases s.writer <;> rfl
  have hthreads : s.writerStep.senders = s.senders ∧ s.writerStep.sendGate = s.sendGate := by
    unfold writerStep
    cases s.writer <;> exact ⟨rfl, rfl⟩
  refine ⟨hwriter, fun t => ?_, fun t => ?_, fun t => ?_, ?_⟩
  · rw [hthreads.1]; exact hsenders t
  · rw [hthreads.1, hthreads.2]; exact h.gate t
  · rw [hthreads.1, hlog]
    intro value sequence hdraw
    obtain ⟨hb, habove⟩ := h.draws t value sequence hdraw
    exact ⟨hbehind hb, habove⟩
  · rw [hlog]
    exact ⟨hown, fun d hd => hbehind (h.log.behind d hd), h.log.increasing⟩

theorem step_sendInv {decryptPacket : Opener} {a : ClientAction} (h : SendInv s)
    (hok : SendInBounds s a) : SendInv (s.step decryptPacket a) := by
  cases a with
  | send t len => exact beginSend_keeps h t len
  | sender t encrypted => exact senderStep_keeps h t encrypted hok
  | rekey m =>
    simp only [step]
    split
    · rename_i hw
      have he : Evolves s.toSharedMaterial { s.toSharedMaterial with writer := .locked m } :=
        .of_eq rfl rfl rfl
      exact ⟨takeLock_writerInv h.writer hw m, fun t => (h.senders t).evolves he, h.gate,
        h.draws, h.log⟩
    · exact h
  | writer => exact writerStep_keeps h
  | openSocket => exact ⟨h.writer, h.senders, h.gate, h.draws, h.log⟩
  | closeSocket =>
    simp only [step]
    split
    · exact ⟨h.writer, h.senders, h.gate, h.draws, h.log⟩
    · exact h
  | receive buf =>
    show SendInv (s.beginReceive buf)
    unfold beginReceive
    split
    · split
      · exact h
      · exact ⟨h.writer, h.senders, h.gate, h.draws, h.log⟩
    · exact h
  | receiver =>
    show SendInv (s.receiverStep decryptPacket)
    unfold receiverStep
    repeat' split
    all_goals first | exact h | exact ⟨h.writer, h.senders, h.gate, h.draws, h.log⟩

/-! ### Whole runs -/

theorem started_sendInv (fd : Int) (m : Material) : SendInv (.started fd m) := by
  exact ⟨started_writerInv fd m, fun _ => trivial, fun t => ⟨nofun, nofun⟩,
    fun _ => drawInv_of_none rfl, ⟨nofun, nofun, List.Pairwise.nil⟩⟩

/-- What is known of the datagrams a session has sealed. -/
structure NonceSafe (s : ClientState) : Prop where
  /-- No two were sealed under one key, direction and counter. -/
  unique : s.log.Pairwise fun d e =>
    (d.key, d.direction, d.counter) ≠ (e.key, e.direction, e.counter)
  /-- Each was sealed under the key its counter was drawn for. -/
  own : ∀ d ∈ s.log, s.keys[d.sequence]? = some d.key
  /-- Those of one key left in increasing counter order. -/
  increasing : s.log.Pairwise fun d e => d.key = e.key → d.counter < e.counter
  /-- None was sealed on a draw past the wire's range. -/
  inRange : ∀ d ∈ s.log, d.value ≤ kCounterWireMax ∧ d.counter = d.value

/-- A counter on the wire is the value drawn, and the value drawn fits the wire. -/
theorem wireSendCounter_eq_some {counter : Nat} (h : wireSendCounter value = some counter) :
    value ≤ kCounterWireMax ∧ counter = value := by
  unfold wireSendCounter at h
  by_cases hmax : kCounterWireMax < value
  · rw [if_pos hmax] at h
    exact nomatch h
  · rw [if_neg hmax] at h
    injection h with h
    exact ⟨Nat.not_lt.mp hmax, h.symm⟩

/-- Distinct keys have distinct turns, so what holds within a turn holds within a key. -/
theorem SendInv.nonceSafe (h : SendInv s) (hkeys : s.keys.Nodup) : NonceSafe s := by
  have hrange : ∀ d ∈ s.log, d.value ≤ kCounterWireMax ∧ d.counter = d.value := fun d hd =>
    wireSendCounter_eq_some (h.log.own d hd).2
  have hincreasing : s.log.Pairwise fun d e => d.key = e.key → d.counter < e.counter := by
    refine h.log.increasing.imp_of_mem fun {d e} hd he hlt hkey => ?_
    obtain ⟨hdi, hdk⟩ := List.getElem?_eq_some_iff.mp (h.log.own d hd).1
    obtain ⟨hei, hek⟩ := List.getElem?_eq_some_iff.mp (h.log.own e he).1
    have hseq : d.sequence = e.sequence :=
      (List.Nodup.getElem_inj_iff hkeys).mp (by rw [hdk, hek, hkey])
    rw [(hrange d hd).2, (hrange e he).2]
    exact hlt hseq
  refine ⟨?_, fun d hd => (h.log.own d hd).1, hincreasing, hrange⟩
  refine hincreasing.imp fun {d e} hlt heq => ?_
  have hkey : d.key = e.key := congrArg (fun x => x.1) heq
  have hctr : d.counter = e.counter := congrArg (fun x => x.2.2) heq
  have := hlt hkey
  omega

/--
**No nonce is used twice, across any number of senders and re-keys.**

Any interleaving of any threads with any re-keys to pairwise distinct keys: as long as
the generation does not go round during one send nor the 64-bit counter during one
key, every datagram was sealed under the key its counter was drawn for, no nonce
repeats, the datagrams of one key left in increasing counter order, and nothing was
sealed past the wire's counter range.
-/
theorem sealed_nonces_unique (decryptPacket : Opener) (fd : Int) (m : Material)
    (acts : List ClientAction)
    (hbounds : Along (step · decryptPacket) SendInBounds (.started fd m) acts)
    (hkeys : (run (step · decryptPacket) (.started fd m) acts).keys.Nodup) :
    NonceSafe (run (step · decryptPacket) (.started fd m) acts) :=
  (run_keeps (fun _ _ => step_sendInv) (started_sendInv fd m) hbounds).nonceSafe hkeys

/-! ### Running one send and one re-key

The schedules below are long, so they are put together from whole calls. -/

section
variable (decryptPacket : Opener)

variable {s : ClientState} {t : Nat}

theorem setSender_setSender (s : ClientState) (t : Nat) (p q : Sender) :
    (s.setSender t p).setSender t q = s.setSender t q := by
  simp [setSender]

theorem run_readMaterial (hp : s.senders t = .reading .start) (heven : s.cell.gen % 2 = 0) :
    run (step · decryptPacket) s (List.replicate 8 (.sender t true)) =
      s.setSender t (.ready s.cell.gen ⟨s.cell.gen, s.cell.words, kWords⟩) := by
  have hmod : s.cell.gen % 4294967296 % 2 = 0 := by omega
  simp [run, List.replicate, step, senderStep, hp,
    MaterialRead.step, setSender, hmod, Copy.start, Copy.load, kWords,
    update_eq_self]

theorem run_seal {generation ctr : Nat}
    (hp : s.senders t = .ready generation copy) (hgate : s.sendGate = none) (hsock : 0 ≤ s.sock)
    (hgen : s.cell.gen % 2 ^ 32 = generation % 2 ^ 32)
    (hctr : wireSendCounter (s.sendCounter % 2 ^ 64) = some ctr) :
    run (step · decryptPacket) s (List.replicate 6 (.sender t true)) =
      { s.setSender t .idle with
        sendCounter := s.sendCounter + 1
        log := s.log ++ [⟨(materialOf copy).key, kDirClientToServer, ctr,
          s.sendCounter % 2 ^ 64, s.sequence⟩] } := by
  simp only [Nat.reducePow] at hgen hctr
  simp [run, List.replicate, step, senderStep, hp, hgate, setSender, hsock, hgen, hctr]

/-- From the gate and out again, with the counter past the wire's range. -/
theorem run_exhausted (hp : s.senders t = .ready generation copy) (hgate : s.sendGate = none)
    (hctr : wireSendCounter (s.sendCounter % 2 ^ 64) = none) :
    run (step · decryptPacket) s (List.replicate 6 (.sender t true)) =
      { s.setSender t .idle with sendCounter := s.sendCounter + 1 } := by
  simp only [Nat.reducePow] at hctr
  simp [run, List.replicate, step, senderStep, hp, hgate, setSender, hctr]

/-- A thread enters `sendEncrypted` and copies the material, with nobody else moving. -/
def copyMaterial (t : Nat) : List ClientAction :=
  .send t 0 :: List.replicate 8 (.sender t true)

/-- One whole call of `sendEncrypted` by a thread. -/
def sendCall (t : Nat) : List ClientAction := copyMaterial t ++ List.replicate 6 (.sender t true)

/-- What is left of a client between calls: no thread is at work and the socket is open. -/
structure Quiet (s : ClientState) (t : Nat) : Prop where
  sender : s.senders t = .idle
  gate : s.sendGate = none
  sock : 0 ≤ s.sock
  writer : s.writer = .idle
  even : s.cell.gen % 2 = 0

theorem Quiet.logged (h : Quiet s t) (next : Nat) (log : List Datagram) :
    Quiet { s with sendCounter := next, log := log } t :=
  ⟨h.sender, h.gate, h.sock, h.writer, h.even⟩

theorem run_copyMaterial (h : Quiet s t) :
    run (step · decryptPacket) s (copyMaterial t) = s.setSender t (.ready s.cell.gen s.copied) := by
  have hbegin : s.beginSend t 0 = s.setSender t (.reading .start) := by
    simp [beginSend, h.sender, Int.not_lt.mpr h.sock, kUdpMaxInnerPayloadBytes]
  have hread := run_readMaterial decryptPacket (s := s.setSender t (.reading .start)) (t := t)
    (by simp [setSender]) h.even
  rw [setSender_setSender] at hread
  show run _ (s.beginSend t 0) _ = _
  rw [hbegin]
  exact hread

/-- A whole send draws one counter and seals it if the wire can carry it. -/
theorem run_sendCall (h : Quiet s t) :
    run (step · decryptPacket) s (sendCall t) =
      { s with
        sendCounter := s.sendCounter + 1
        log := s.log ++ ((wireSendCounter (s.sendCounter % 2 ^ 64)).map fun ctr =>
          ⟨(materialOf s.copied).key, kDirClientToServer, ctr,
            s.sendCounter % 2 ^ 64, s.sequence⟩).toList } := by
  have hsenders : update s.senders t .idle = s.senders := by
    rw [← h.sender, update_eq_self]
  have hready : (s.setSender t (.ready s.cell.gen s.copied)).senders t =
      .ready s.cell.gen s.copied := by simp [setSender]
  unfold sendCall
  rw [run_append, run_copyMaterial decryptPacket h]
  cases hctr : wireSendCounter (s.sendCounter % 2 ^ 64) with
  | none =>
    refine (run_exhausted decryptPacket hready h.gate hctr).trans ?_
    simp [setSender, hsenders]
  | some ctr =>
    refine (run_seal decryptPacket hready h.gate h.sock rfl hctr).trans ?_
    simp [setSender, hsenders]

theorem exists_sends (n : Nat) : ∀ {s : ClientState}, Quiet s t →
    ∃ acts log, run (step · decryptPacket) s acts =
      { s with sendCounter := s.sendCounter + n, log := s.log ++ log } := by
  induction n with
  | zero => intro s _; exact ⟨[], [], by simp⟩
  | succ n ih =>
    intro s h
    obtain ⟨sent, hsent⟩ : ∃ sent, run (step · decryptPacket) s (sendCall t) =
        { s with sendCounter := s.sendCounter + 1, log := s.log ++ sent } :=
      ⟨_, run_sendCall decryptPacket h⟩
    obtain ⟨acts, log, hrun⟩ := ih (s := run (step · decryptPacket) s
      (sendCall t)) (by rw [hsent]; exact h.logged _ _)
    refine ⟨sendCall t ++ acts, sent ++ log, ?_⟩
    rw [run_append, hrun, hsent]
    simp [Nat.add_assoc, Nat.add_comm 1 n]

end

section
variable (decryptPacket : Opener)

/--
A thread that sleeps through a full cycle of the generation seals the restarted
counter under the key it copied before.
-/
theorem stale_copy_seals {n : Nat} (h : Quiet s 1) (hn : 0 < n)
    (hcycle : (s.cell.gen + 2 * n) % 2 ^ 32 = s.cell.gen % 2 ^ 32) :
    ∃ acts, (run (step · decryptPacket) s acts).keys =
        s.keys ++ ((List.range n).map fun i => BitVec.ofNat 256 (i + 1)) ∧
      (run (step · decryptPacket) s acts).log = s.log ++
        [⟨(materialOf s.copied).key, kDirClientToServer, 1, 1, s.keys.length + n - 1⟩] := by
  obtain ⟨acts, words, mark, next, turn, hrun, hnext⟩ := exists_rekeys decryptPacket n
    (s := s.setSender 1 (.ready s.cell.gen s.copied)) h.writer
  obtain ⟨-, rfl, hturn⟩ := hnext hn
  have hturn' : turn = s.keys.length + n - 1 := by
    have : turn + 1 = s.keys.length + n := hturn
    omega
  subst hturn'
  have hready : (s.setSender 1 (.ready s.cell.gen s.copied)).senders 1 =
      .ready s.cell.gen s.copied := by simp [setSender]
  have hseal := run_seal decryptPacket
    (s := run (step · decryptPacket) (s.setSender 1 (.ready s.cell.gen s.copied)) acts) (t := 1)
    (by rw [hrun]; exact hready) (by rw [hrun]; exact h.gate) (by rw [hrun]; exact h.sock)
    (by rw [hrun]; exact hcycle) (by rw [hrun]; rfl)
  refine ⟨copyMaterial 1 ++ acts ++ List.replicate 6 (.sender 1 true), ?_, ?_⟩
  · rw [run_append, run_append, run_copyMaterial decryptPacket h, hseal, hrun]
    rfl
  · rw [run_append, run_append, run_copyMaterial decryptPacket h, hseal, hrun]
    rfl

/-- A counter drawn once more after a full cycle is the first one again. -/
theorem wrapped_counter_seals {n : Nat} (h : Quiet s 0)
    (hfirst : s.sendCounter = 1) (hn : 1 + n = 2 ^ 64) :
    ∃ acts mid, (run (step · decryptPacket) s acts).keys = s.keys ∧
      (run (step · decryptPacket) s acts).log = s.log ++
        (⟨(materialOf s.copied).key, kDirClientToServer, 1, 1, s.sequence⟩ :: mid ++
          [⟨(materialOf s.copied).key, kDirClientToServer, 1, 1, s.sequence⟩]) := by
  have hone : wireSendCounter (1 % 2 ^ 64) = some 1 := rfl
  have hsend1 := run_sendCall decryptPacket h
  rw [hfirst, hone] at hsend1
  obtain ⟨acts, mid, hmid⟩ := exists_sends decryptPacket (t := 0) n
    (s := run (step · decryptPacket) s (sendCall 0))
    (by rw [hsend1]; exact h.logged _ _)
  have hlast := run_sendCall decryptPacket (t := 0)
    (s := run (step · decryptPacket) (run (step · decryptPacket) s (sendCall 0)) acts)
    (by rw [hmid, hsend1]; exact h.logged _ _)
  have hcounter : (1 + 1 + n) % 2 ^ 64 = 1 := by omega
  rw [hmid, hsend1] at hlast
  dsimp only at hlast
  rw [hcounter, show wireSendCounter 1 = some 1 from rfl] at hlast
  refine ⟨sendCall 0 ++ acts ++ sendCall 0, mid, ?_, ?_⟩
  · rw [run_append, run_append, hmid, hsend1, hlast]
  · rw [run_append, run_append, hmid, hsend1, hlast]
    simp [copied]

end

private theorem quiet_started (t : Nat) (m : Material) : Quiet (.started 3 m) t :=
  ⟨rfl, rfl, show (0 : Int) ≤ 3 by decide, rfl, show 2 % 2 = 0 by decide⟩

/-- No packet is opened: the schedules below only send. -/
private def opensNothing : Opener := fun _ _ _ _ _ => none

/-- The first key seals the counter `1` again once `n` re-keys have brought the
generation round. -/
theorem first_key_returns {n : Nat} (hn : 0 < n) (hlt : n < 2 ^ 256)
    (hcycle : (2 + 2 * n) % 2 ^ 32 = 2 % 2 ^ 32) :
    ∃ acts, ∃ s : ClientState,
      s = run (step · opensNothing) (.started 3 ⟨0, 0⟩) acts ∧ s.keys.Nodup ∧
      ∃ d e, s.log = [d, e] ∧ (d.key, d.direction, d.counter) = (e.key, e.direction, e.counter) ∧
        s.keys[e.sequence]? ≠ some e.key := by
  have hfirst := run_sendCall opensNothing (quiet_started 0 ⟨0, 0⟩)
  obtain ⟨acts, hkeys, hlog⟩ := stale_copy_seals opensNothing (n := n)
    (s := run (step · opensNothing) (.started 3 ⟨0, 0⟩) (sendCall 0))
    (by rw [hfirst]; exact (quiet_started 1 ⟨0, 0⟩).logged _ _) hn (by rw [hfirst]; exact hcycle)
  rw [hfirst] at hkeys hlog
  have hkeys' : (run (step · opensNothing) (.started 3 ⟨0, 0⟩) (sendCall 0 ++ acts)).keys =
      0#256 :: (List.range n).map fun i => BitVec.ofNat 256 (i + 1) := by
    rw [run_append, hfirst, hkeys]
    rfl
  have hlog' : (run (step · opensNothing) (.started 3 ⟨0, 0⟩) (sendCall 0 ++ acts)).log =
      [⟨(materialOf (started 3 ⟨0, 0⟩).copied).key, kDirClientToServer, 1, 1, 0⟩,
        ⟨(materialOf (started 3 ⟨0, 0⟩).copied).key, kDirClientToServer, 1, 1, 1 + n - 1⟩] := by
    rw [run_append, hfirst, hlog]
    rfl
  have hnodup := nodup_keys hlt
  refine ⟨sendCall 0 ++ acts, _, rfl, by rw [hkeys']; exact hnodup, _, _, hlog', rfl, ?_⟩
  -- the key of that turn is not the first one, since no key comes twice
  rw [hkeys', materialOf_copied_started]
  intro hturn
  have hsame : 0 = 1 + n - 1 := (List.getElem?_inj (Nat.zero_lt_succ _) hnodup).mp
    (List.getElem?_cons_zero.trans hturn.symm)
  omega

/--
Past either width a nonce repeats.  A thread that copied the first key sleeps through
`2 ^ 31` re-keys, so that the generation comes round to the one it noted, and seals
the counter `1` of the latest key's turn under the first key, whose counter `1` has
already been used.  And `2 ^ 64` draws under one key bring its counter back to `1`.
-/
theorem nonces_repeat_past_widths :
    (∃ acts, ∃ s : ClientState,
      s = run (step · opensNothing) (.started 3 ⟨0, 0⟩) acts ∧ s.keys.Nodup ∧
      ∃ d e, s.log = [d, e] ∧ (d.key, d.direction, d.counter) = (e.key, e.direction, e.counter) ∧
        s.keys[e.sequence]? ≠ some e.key) ∧
    ∃ acts, ∃ s : ClientState,
      s = run (step · opensNothing) (.started 3 ⟨0, 0⟩) acts ∧ s.keys.Nodup ∧
      ¬ s.log.Pairwise fun d e =>
        (d.key, d.direction, d.counter) ≠ (e.key, e.direction, e.counter) := by
  refine ⟨first_key_returns (n := 2 ^ 31) (by omega) (by omega) (by omega), ?_⟩
  obtain ⟨acts, mid, hkeys, hlog⟩ := wrapped_counter_seals opensNothing (n := 2 ^ 64 - 1)
    (quiet_started 0 ⟨0, 0⟩) rfl (by omega)
  refine ⟨acts, _, rfl, by rw [hkeys]; exact List.nodup_singleton _, ?_⟩
  rw [hlog]
  intro hpair
  rw [List.pairwise_append] at hpair
  have := hpair.2.1
  rw [List.cons_append, List.pairwise_cons] at this
  exact this.1 _ (List.mem_append_right _ (List.mem_singleton_self _)) rfl

/-- The theorem at two sends with a re-key between them. -/
theorem nonces_unique_over_rekey :
    NonceSafe (run (step · opensNothing) (.started 3 ⟨0, 0⟩)
      (sendCall 0 ++ rekeyCall ⟨1, 1⟩ ++ sendCall 1)) ∧
    (run (step · opensNothing) (.started 3 ⟨0, 0⟩)
      (sendCall 0 ++ rekeyCall ⟨1, 1⟩ ++ sendCall 1)).log.length = 2 :=
  ⟨sealed_nonces_unique opensNothing 3 ⟨0, 0⟩ _ (by decide +kernel) (by decide +kernel),
    by decide +kernel⟩

end Dish
