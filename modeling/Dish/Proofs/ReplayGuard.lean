/-
The inbound replay guard.

The receive thread reads the material, checks the packet against the mark and opens it,
and only then moves the mark on, by a compare-and-swap on the word it checked against.
A re-key stores its own generation into the mark before it closes its write.  So a
packet that gets past the compare-and-swap was opened under the key of the generation
in the mark, with a counter past the one in the mark, and at that moment no later
re-key has been completed.

The mark has no room for "nothing accepted yet" besides the counter `0`, and the
generation has 32 bits: the satellite has to number its packets from `1`, and less than
a full cycle of re-keys may pass while one packet is looked at.
-/
import Dish.Proofs.Material

namespace Dish

open Seqlock Steps ClientState

variable {s : ClientState} {mark a : RecvMark} {g generation counter : Nat} {s' : SharedMaterial}

variable {key : BitVec 256}
  {decryptPacket : Opener} {buf : List UInt8} {p : Receiver} {dispatched : List Dispatched}
  {copy : Copy Nat}

/-! ### The mark -/

/-- What a re-key that is under way will leave in the mark. -/
def Writer.written : Writer → Option Nat
  | .storing _ written _ => some written
  | .resetting _ written => some written
  | .marking _ written => some written
  | _ => none

/-- The mark is of the last re-key that got as far as storing it. -/
structure MarkInv (s : SharedMaterial) (mark : RecvMark) : Prop where
  generation : mark.generation = match s.writer with
    | .closing => s.cell.gen + 1
    | _ => 2 * (s.cell.gen / 2)
  written : ∀ w, s.writer.written = some w → w = s.cell.gen + 1
  counter : mark.counter < 2 ^ 32

theorem MarkInv.le {s : SharedMaterial} (h : MarkInv s mark) :
    mark.generation ≤ s.cell.gen + 1 := by
  have hgen := h.generation
  split at hgen <;> omega

/-- A re-key closes its write after it stored its mark, so no even generation is ahead of it. -/
theorem MarkInv.ge {s : SharedMaterial} (h : MarkInv s mark) (heven : g % 2 = 0)
    (hle : g ≤ s.cell.gen) : g ≤ mark.generation := by
  have hgen := h.generation
  split at hgen <;> omega

theorem RecvMark.word_eq {b : RecvMark} (ha : a.counter < 2 ^ 32) (hb : b.counter < 2 ^ 32)
    (h : a.word = b.word) :
    a.generation % 2 ^ 32 = b.generation % 2 ^ 32 ∧ a.counter = b.counter := by
  unfold RecvMark.word at h
  omega

theorem RecvMark.word_div (ha : a.counter < 2 ^ 32) : a.word / 2 ^ 32 = a.generation % 2 ^ 32 := by
  unfold RecvMark.word
  omega

theorem RecvMark.word_mod (ha : a.counter < 2 ^ 32) : a.word % 2 ^ 32 = a.counter := by
  unfold RecvMark.word
  omega

/-! ### The receive thread -/

/-- The key of the re-key that closed its write at generation `g`. -/
def SharedMaterial.keyAt (s : SharedMaterial) (g : Nat) : Option (BitVec 256) :=
  s.keys[g / 2 - 1]?

theorem Evolves.keyAt {s : SharedMaterial} (he : Evolves s s')
    (h : s.keyAt g = some key) : s'.keyAt g = some key := by
  unfold SharedMaterial.keyAt at h ⊢
  obtain ⟨more, hmore⟩ := he.keys
  rw [← hmore, List.getElem?_append_left (List.getElem?_eq_some_iff.mp h).1]
  exact h

/-- What the satellite keeps to when it seals: it counts from `1`, and what it sealed
under one key opens under no other. -/
structure SealsOnce (decryptPacket : Opener) : Prop where
  fromOne : ∀ key token body, decryptPacket key kDirServerToClient 0 token body = none
  oneKey : ∀ key key' counter token token' body,
    (decryptPacket key kDirServerToClient counter token body).isSome →
    (decryptPacket key' kDirServerToClient counter token' body).isSome → key = key'

/-- The datagram opens under the key, as the satellite's. -/
def Opens (decryptPacket : Opener) (buf : List UInt8) (key : BitVec 256) : Prop :=
  ∃ token, (decryptPacket key kDirServerToClient (readU32Be buf 4) token
    (buf.drop kHeaderSize)).isSome

/-- A packet that was opened under the key of its generation, with its own counter. -/
structure Genuine (decryptPacket : Opener) (s : SharedMaterial) (buf : List UInt8)
    (generation : Nat) (key : BitVec 256) (counter : Nat) : Prop where
  even : generation % 2 = 0
  begun : 2 ≤ generation
  inTurn : s.keyAt generation = some key
  counted : counter = readU32Be buf 4
  opens : Opens decryptPacket buf key

theorem Genuine.evolves {s : SharedMaterial} (he : Evolves s s')
    (h : Genuine decryptPacket s buf generation key counter) :
    Genuine decryptPacket s' buf generation key counter :=
  ⟨h.even, h.begun, he.keyAt h.inTurn, h.counted, h.opens⟩

/-- What holds of the receive thread, whatever the writer does. -/
def ReceiverInv (decryptPacket : Opener) (s : SharedMaterial) : Receiver → Prop
  | .idle => True
  | .reading _ r => ReadInv s r
  | .copied _ generation copy =>
    Copied s generation copy ∧ s.keyAt copy.before = some (materialOf copy).key
  | .opened buf generation copy mark counter _ =>
    generation ≤ s.cell.gen ∧
    Genuine decryptPacket s buf generation (materialOf copy).key counter ∧
    mark.generation = generation ∧ mark.counter < counter ∧ counter < 2 ^ 32
  | .accepted buf generation copy counter _ =>
    Genuine decryptPacket s buf generation (materialOf copy).key counter

theorem ReceiverInv.evolves {s : SharedMaterial} (he : Evolves s s')
    (h : ReceiverInv decryptPacket s p) : ReceiverInv decryptPacket s' p := by
  cases p with
  | idle => trivial
  | reading => exact ReadInv.evolves he h
  | copied => exact ⟨h.1.evolves he, he.keyAt h.2⟩
  | opened =>
    obtain ⟨hle, hgenuine, hmark⟩ := h
    exact ⟨Nat.le_trans hle he.gen, hgenuine.evolves he, hmark⟩
  | accepted => exact Genuine.evolves he h

/-! ### What has been dispatched -/

/-- The later of two accepted packets is of a later generation, or counts further. -/
def Earlier (generation counter generation' counter' : Nat) : Prop :=
  generation < generation' ∨ generation = generation' ∧ counter < counter'

/-- Everything dispatched so far is behind the mark, which is `⟨_, 0⟩` until something is. -/
def BehindMark (mark : RecvMark) (dispatched : List Dispatched) : Prop :=
  ∀ d ∈ dispatched, d.generation ≤ mark.generation ∧
    (d.generation = mark.generation → d.counter ≤ mark.counter)

/-- The packet between its accept and its dispatch. -/
def Receiver.pending : Receiver → Option (Nat × Nat)
  | .accepted _ generation _ counter _ => some (generation, counter)
  | _ => none

structure DispatchInv (mark : RecvMark) (p : Receiver) (dispatched : List Dispatched) : Prop where
  behind : BehindMark mark dispatched
  ordered : dispatched.Pairwise fun d e => Earlier d.generation d.counter e.generation e.counter
  pending : ∀ generation counter, p.pending = some (generation, counter) →
    (generation < mark.generation ∨ generation = mark.generation ∧ counter = mark.counter) ∧
    ∀ d ∈ dispatched, Earlier d.generation d.counter generation counter

structure RecvInv (decryptPacket : Opener) (s : ClientState) : Prop where
  writer : WriterInv s.toSharedMaterial
  begun : 2 ≤ s.cell.gen
  mark : MarkInv s.toSharedMaterial s.recvMark
  receiver : ReceiverInv decryptPacket s.toSharedMaterial s.receiver
  dispatched : DispatchInv s.recvMark s.receiver s.dispatched
  genuine : ∀ d ∈ s.dispatched,
    Genuine decryptPacket s.toSharedMaterial d.buf d.generation d.key d.counter

/-! ### Steps of the other threads -/

theorem RecvInv.frame {s' : ClientState} (h : RecvInv decryptPacket s)
    (hshared : s'.toSharedMaterial = s.toSharedMaterial)
    (hmark : s'.recvMark = s.recvMark) (hreceiver : s'.receiver = s.receiver)
    (hdispatched : s'.dispatched = s.dispatched) : RecvInv decryptPacket s' := by
  refine ⟨?_, ?_, ?_, ?_, ?_, ?_⟩
  · rw [hshared]; exact h.writer
  · rw [hshared]; exact h.begun
  · rw [hshared, hmark]; exact h.mark
  · rw [hshared, hreceiver]; exact h.receiver
  · rw [hmark, hreceiver, hdispatched]; exact h.dispatched
  · rw [hshared, hdispatched]; exact h.genuine

theorem beginSend_recvInv (h : RecvInv decryptPacket s) (t len : Nat) :
    RecvInv decryptPacket (s.beginSend t len) := by
  unfold beginSend
  split
  · split
    · exact h
    · split
      · exact h
      · exact h.frame rfl rfl rfl rfl
  · exact h

theorem senderStep_recvInv (h : RecvInv decryptPacket s) (t : Nat) (encrypted : Bool) :
    RecvInv decryptPacket (s.senderStep t encrypted) := by
  unfold senderStep
  split
  · exact h
  · split <;> exact h.frame rfl rfl rfl rfl
  · split
    · exact h.frame rfl rfl rfl rfl
    · exact h
  · exact h.frame rfl rfl rfl rfl
  · exact h.frame rfl rfl rfl rfl
  · split
    · split <;> exact h.frame rfl rfl rfl rfl
    · exact h.frame rfl rfl rfl rfl
  · split <;> exact h.frame rfl rfl rfl rfl
  · exact h.frame rfl rfl rfl rfl

theorem takeLock_markInv {s : SharedMaterial} (h : MarkInv s mark) (hw : s.writer = .idle)
    (m : Material) : MarkInv { s with writer := .locked m } mark := by
  have hgen := h.generation
  rw [hw] at hgen
  exact ⟨hgen, nofun, h.counter⟩

theorem writerStep_markInv (hwriter : WriterInv s.toSharedMaterial)
    (h : MarkInv s.toSharedMaterial s.recvMark) :
    MarkInv s.writerStep.toSharedMaterial s.writerStep.recvMark := by
  have hgen := h.generation
  have hwritten := h.written
  have hcycle := hwriter.gen
  unfold writerStep
  cases hw : s.writer with
  | idle => exact h
  | locked =>
    simp only [hw, Writer.isOpen, Bool.false_eq_true, if_false] at hgen hcycle
    refine ⟨?_, fun w hw' => ?_, h.counter⟩
    · show s.recvMark.generation = 2 * ((s.cell.gen + 1) / 2)
      omega
    · injection hw' with hw'
      show w = s.cell.gen + 1 + 1
      omega
  | storing m written i =>
    rw [hw] at hgen hwritten
    dsimp only
    by_cases hlast : i + 1 < kWords
    · rw [if_pos hlast]
      exact ⟨hgen, hwritten, h.counter⟩
    · rw [if_neg hlast]
      exact ⟨hgen, hwritten, h.counter⟩
  | resetting =>
    rw [hw] at hgen hwritten
    exact ⟨hgen, hwritten, h.counter⟩
  | marking m written =>
    rw [hw] at hwritten
    exact ⟨hwritten written rfl, by simp [Writer.written], Nat.two_pow_pos 32⟩
  | closing =>
    simp only [hw, Writer.isOpen, if_true] at hgen hcycle
    refine ⟨?_, by simp [Writer.written], h.counter⟩
    show s.recvMark.generation = 2 * ((s.cell.gen + 1) / 2)
    omega

/-- A re-key that stores its mark leaves everything dispatched behind. -/
theorem DispatchInv.remark {mark' : RecvMark} (h : DispatchInv mark p dispatched)
    (hlt : mark.generation < mark'.generation) : DispatchInv mark' p dispatched := by
  refine ⟨fun d hd => ?_, h.ordered, fun generation counter hp => ?_⟩
  · have hle := (h.behind d hd).1
    exact ⟨by omega, fun heq => by omega⟩
  · obtain ⟨hmark, hearlier⟩ := h.pending generation counter hp
    exact ⟨.inl (by omega), hearlier⟩

theorem writerStep_dispatchInv (hmark : MarkInv s.toSharedMaterial s.recvMark)
    (h : DispatchInv s.recvMark s.receiver s.dispatched) :
    DispatchInv s.writerStep.recvMark s.writerStep.receiver s.writerStep.dispatched := by
  unfold writerStep
  cases hw : s.writer with
  | marking m written =>
    refine h.remark ?_
    have hgen := hmark.generation
    simp only [hw] at hgen
    have hwritten := hmark.written written (by rw [hw]; rfl)
    show s.recvMark.generation < written
    omega
  | _ => exact h

theorem writerStep_receiver (s : ClientState) : s.writerStep.receiver = s.receiver := by
  unfold writerStep
  split <;> rfl

theorem writerStep_dispatched (s : ClientState) : s.writerStep.dispatched = s.dispatched := by
  unfold writerStep
  split <;> rfl

theorem writerStep_recvInv (h : RecvInv decryptPacket s) : RecvInv decryptPacket s.writerStep := by
  have he := writerStep_evolves h.writer
  refine ⟨writerStep_writerInv h.writer, Nat.le_trans h.begun he.gen,
    writerStep_markInv h.writer h.mark, ?_, writerStep_dispatchInv h.mark h.dispatched, ?_⟩
  · rw [writerStep_receiver]
    exact h.receiver.evolves he
  · rw [writerStep_dispatched]
    exact fun d hd => (h.genuine d hd).evolves he

/-! ### Steps of the receive thread -/

/-- While one packet is looked at, fewer than `2 ^ 31` re-keys begin. -/
def ReceiveInBounds (s : ClientState) : ClientAction → Prop
  | .receiver =>
    match s.receiver with
    | .reading _ (.copying generation _) => s.cell.gen + 1 < generation + 2 ^ 32
    | .copied _ generation _ => s.cell.gen + 1 < generation + 2 ^ 32
    | .opened _ generation _ _ _ _ => s.cell.gen + 1 < generation + 2 ^ 32
    | _ => True
  | _ => True

instance (s : ClientState) (a : ClientAction) : Decidable (ReceiveInBounds s a) := by
  unfold ReceiveInBounds
  split
  · split <;> infer_instance
  · infer_instance

theorem keyAt_of_done {s : SharedMaterial} (hwriter : WriterInv s)
    (hcopied : Copied s generation copy) (hgen : s.cell.gen = copy.before) :
    s.keyAt copy.before = some (materialOf copy).key := by
  have heven : s.cell.gen % 2 = 0 := by rw [hgen]; exact hcopied.valid.even
  have hkey := hwriter.key_of_even heven
  have hlength := hwriter.gen
  have hturn := hwriter.sequence
  have hwhole := hcopied.whole
  have hwords : materialOf copy = .ofWords s.cell.words :=
    Material.ofWords_congr fun i hi => hcopied.valid.agrees hgen i (by omega)
  have hsequence : s.sequence = copy.before / 2 - 1 := by
    cases hw : s.writer with
    | idle | locked =>
      simp only [hw, Writer.isOpen, Writer.counterIsNew, Bool.false_eq_true, if_false, if_true]
        at hlength hturn
      omega
    | storing | resetting | marking | closing =>
      simp only [hw, Writer.isOpen, if_true] at hlength
      omega
  rw [hwords, ← hkey, hsequence]
  rfl

theorem done_before {r : MaterialRead} (hr : r.step s.cell = .done generation copy)
    (hp : s.receiver = .reading buf r) (hok : ReceiveInBounds s .receiver)
    (hinv : ReadInv s.toSharedMaterial r) : s.cell.gen = copy.before := by
  cases r with
  | start => cases hr
  | loaded =>
    simp only [MaterialRead.step] at hr
    split at hr <;> cases hr
  | copying =>
    simp only [ReceiveInBounds, hp] at hok
    simp only [MaterialRead.step] at hr
    split at hr
    · cases hr
    · split at hr
      · rename_i hmod
        injection hr with hg hk
        subst hg hk
        have hle := hinv.1
        exact eq_of_mod_eq hinv.2.le (by omega) hmod
      · cases hr

theorem readU32Be_lt (buf : List UInt8) (off : Nat) : readU32Be buf off < 2 ^ 32 := by
  have h0 := (buf.getD off 0).toNat_lt
  have h1 := (buf.getD (off + 1) 0).toNat_lt
  have h2 := (buf.getD (off + 2) 0).toNat_lt
  have h3 := (buf.getD (off + 3) 0).toNat_lt
  unfold readU32Be byteAt
  omega

/-- A packet that is opened is of the generation of the mark and counts past it. -/
theorem openIncoming_inv (hseals : SealsOnce decryptPacket) (hbegun : 2 ≤ s.cell.gen)
    (hmark : MarkInv s.toSharedMaterial s.recvMark) (buf : List UInt8)
    (hcopied : Copied s.toSharedMaterial generation copy)
    (hkey : s.keyAt copy.before = some (materialOf copy).key)
    (hbound : s.cell.gen + 1 < generation + 2 ^ 32) :
    ReceiverInv decryptPacket s.toSharedMaterial
      (s.openIncoming decryptPacket buf generation copy) := by
  unfold openIncoming
  dsimp only
  split
  · trivial
  split
  · trivial
  split
  · trivial
  rename_i hgen hlast
  rw [RecvMark.word_div hmark.counter] at hgen
  rw [RecvMark.word_mod hmark.counter] at hlast
  split
  · trivial
  rename_i plain hopen
  -- the mark is at least as new as the copy, which is at least as new as the generation
  have hle := hcopied.le
  have hbefore := hmark.ge hcopied.valid.even hcopied.valid.le
  have hmarkle := hmark.le
  have hgeneration : s.recvMark.generation = generation :=
    eq_of_mod_eq (by omega) (by omega) (Decidable.not_not.mp hgen)
  have hcopy : copy.before = generation := by omega
  have htwo := hmark.ge (g := 2) rfl hbegun
  have hcounter : readU32Be buf 4 ≠ 0 := by
    intro hzero
    rw [hzero, hseals.fromOne] at hopen
    exact nomatch hopen
  have hgenuine : Genuine decryptPacket s.toSharedMaterial buf generation (materialOf copy).key
      (readU32Be buf 4) :=
    ⟨hcopy ▸ hcopied.valid.even, hgeneration ▸ htwo, hcopy ▸ hkey, rfl, (materialOf copy).token,
      by rw [hopen]; rfl⟩
  exact ⟨hcopy ▸ hcopied.valid.le, hgenuine, hgeneration, by omega, readU32Be_lt buf 4⟩

theorem openIncoming_pending (s : ClientState) (decryptPacket : Opener) (buf : List UInt8)
    (generation : Nat) (copy : Copy Nat) :
    (s.openIncoming decryptPacket buf generation copy).pending = none := by
  unfold openIncoming
  dsimp only
  split
  · rfl
  split
  · rfl
  split
  · rfl
  split <;> rfl

theorem accepted_mark (hmark : MarkInv s.toSharedMaterial s.recvMark) {plain : List UInt8}
    (h : ReceiverInv decryptPacket s.toSharedMaterial
      (.opened buf generation copy mark counter plain))
    (hbound : s.cell.gen + 1 < generation + 2 ^ 32) (hword : s.recvMark.word = mark.word) :
    s.recvMark.generation = generation ∧ s.recvMark.counter < counter := by
  obtain ⟨hle, hgenuine, hgeneration, hlt, hcounter⟩ := h
  obtain ⟨hmod, hcount⟩ := RecvMark.word_eq hmark.counter (by omega) hword
  have hge := hmark.ge hgenuine.even hle
  have hmarkle := hmark.le
  rw [hgeneration] at hmod
  exact ⟨eq_of_mod_eq hge (by omega) hmod, by omega⟩

theorem DispatchInv.accept (h : DispatchInv mark p dispatched) {plain : List UInt8}
    (hgen : mark.generation = generation) (hlt : mark.counter < counter) :
    DispatchInv ⟨generation, counter⟩ (.accepted buf generation copy counter plain)
      dispatched := by
  have hearlier : ∀ d ∈ dispatched, Earlier d.generation d.counter generation counter := by
    intro d hd
    obtain ⟨hle, hcount⟩ := h.behind d hd
    by_cases heq : d.generation = mark.generation
    · exact .inr ⟨heq.trans hgen, Nat.lt_of_le_of_lt (hcount heq) hlt⟩
    · exact .inl (by omega)
  refine ⟨fun d hd => ?_, h.ordered, fun g c hp => ?_⟩
  · show d.generation ≤ generation ∧ (d.generation = generation → d.counter ≤ counter)
    rcases hearlier d hd with hgt | ⟨heq, hcount⟩
    · exact ⟨by omega, fun _ => by omega⟩
    · exact ⟨by omega, fun _ => by omega⟩
  · injection hp with hp
    injection hp with hg hc
    subst hg hc
    exact ⟨.inr ⟨rfl, rfl⟩, hearlier⟩

theorem DispatchInv.idle {q : Receiver} (h : DispatchInv mark p dispatched)
    (hq : q.pending = none) : DispatchInv mark q dispatched := by
  refine ⟨h.behind, h.ordered, fun generation counter hp => ?_⟩
  rw [hq] at hp
  exact nomatch hp

theorem DispatchInv.dispatch (h : DispatchInv mark p dispatched) {d : Dispatched}
    (hp : p.pending = some (d.generation, d.counter)) :
    DispatchInv mark .idle (dispatched ++ [d]) := by
  obtain ⟨hmark, hearlier⟩ := h.pending d.generation d.counter hp
  refine ⟨fun e he => ?_, ?_, nofun⟩
  · rcases List.mem_append.mp he with he | he
    · exact h.behind e he
    · rw [List.mem_singleton.mp he]
      exact ⟨by omega, fun _ => by omega⟩
  · rw [List.pairwise_append]
    refine ⟨h.ordered, List.pairwise_singleton _ _, fun e he f hf => ?_⟩
    rw [List.mem_singleton.mp hf]
    exact hearlier e he

theorem RecvInv.receive (h : RecvInv decryptPacket s) {q : Receiver}
    (hq : ReceiverInv decryptPacket s.toSharedMaterial q) (hpending : q.pending = none) :
    RecvInv decryptPacket { s with receiver := q } :=
  ⟨h.writer, h.begun, h.mark, hq, h.dispatched.idle hpending, h.genuine⟩

theorem beginReceive_recvInv (h : RecvInv decryptPacket s) (buf : List UInt8) :
    RecvInv decryptPacket (s.beginReceive buf) := by
  unfold beginReceive
  split
  · split
    · exact h
    · exact h.receive trivial rfl
  · exact h

theorem receiverStep_recvInv (hseals : SealsOnce decryptPacket) (h : RecvInv decryptPacket s)
    (hok : ReceiveInBounds s .receiver) : RecvInv decryptPacket (s.receiverStep decryptPacket) := by
  have hinv := h.receiver
  unfold receiverStep
  cases hp : s.receiver with
  | idle => exact h
  | reading buf r =>
    rw [hp] at hinv
    have hstep := ReadInv.step hinv
    dsimp only
    cases hr : r.step s.cell with
    | more =>
      rw [hr] at hstep
      exact h.receive hstep rfl
    | torn => exact h.receive trivial rfl
    | done =>
      rw [hr] at hstep
      have hgen := done_before hr hp hok hinv
      exact h.receive ⟨hstep, keyAt_of_done h.writer hstep hgen⟩ rfl
  | copied buf generation copy =>
    rw [hp] at hinv
    simp only [ReceiveInBounds, hp] at hok
    have hnext := openIncoming_inv hseals h.begun h.mark buf hinv.1 hinv.2 hok
    have hpending := openIncoming_pending s decryptPacket buf generation copy
    dsimp only
    exact h.receive hnext hpending
  | opened buf generation copy mark =>
    rw [hp] at hinv
    simp only [ReceiveInBounds, hp] at hok
    dsimp only
    by_cases hword : s.recvMark.word = mark.word
    · rw [if_pos hword]
      obtain ⟨hgen, hlt⟩ := accepted_mark h.mark hinv hok hword
      obtain ⟨-, hgenuine, -, -, hcounter⟩ := hinv
      refine ⟨h.writer, h.begun, ?_, hgenuine, h.dispatched.accept hgen hlt, h.genuine⟩
      exact ⟨hgen ▸ h.mark.generation, h.mark.written, hcounter⟩
    · rw [if_neg hword]
      exact h.receive trivial rfl
  | accepted buf generation copy counter plain =>
    rw [hp] at hinv
    dsimp only
    by_cases hshort : plain.length < kInnerHeaderSize
    · rw [if_pos hshort]
      exact h.receive trivial rfl
    · rw [if_neg hshort]
      refine ⟨h.writer, h.begun, h.mark, trivial, h.dispatched.dispatch (by rw [hp]; rfl),
        fun d hd => ?_⟩
      rcases List.mem_append.mp hd with hd | hd
      · exact h.genuine d hd
      · rw [List.mem_singleton.mp hd]
        exact hinv

theorem step_recvInv (hseals : SealsOnce decryptPacket) {a : ClientAction}
    (h : RecvInv decryptPacket s) (hok : ReceiveInBounds s a) :
    RecvInv decryptPacket (s.step decryptPacket a) := by
  cases a with
  | send t len => exact beginSend_recvInv h t len
  | sender t encrypted => exact senderStep_recvInv h t encrypted
  | rekey m =>
    simp only [step]
    split
    · rename_i hw
      have he : Evolves s.toSharedMaterial { s.toSharedMaterial with writer := .locked m } :=
        .of_eq rfl rfl rfl
      exact ⟨takeLock_writerInv h.writer hw m, h.begun, takeLock_markInv h.mark hw m,
        h.receiver.evolves he, h.dispatched, fun d hd => (h.genuine d hd).evolves he⟩
    · exact h
  | writer => exact writerStep_recvInv h
  | openSocket => exact h.frame rfl rfl rfl rfl
  | closeSocket =>
    simp only [step]
    split
    · exact h.frame rfl rfl rfl rfl
    · exact h
  | receive buf => exact beginReceive_recvInv h buf
  | receiver => exact receiverStep_recvInv hseals h hok

theorem started_recvInv (decryptPacket : Opener) (fd : Int) (m : Material) :
    RecvInv decryptPacket (.started fd m) := by
  have hmark : MarkInv (started fd m).toSharedMaterial ⟨2, 0⟩ :=
    ⟨show 2 = 2 * (2 / 2) by decide, nofun, Nat.two_pow_pos 32⟩
  exact ⟨started_writerInv fd m, Nat.le_refl 2, hmark, trivial,
    ⟨nofun, List.Pairwise.nil, nofun⟩, nofun⟩

/-! ### Whole runs -/

/-- When the compare-and-swap takes a packet, the key it was opened under is that of the
last re-key to have been completed. -/
def AcceptsInForce (s : ClientState) : ClientAction → Prop
  | .receiver =>
    match s.receiver with
    | .opened _ _ copy mark _ _ =>
      s.recvMark.word = mark.word → s.keyAt s.cell.gen = some (materialOf copy).key
    | _ => True
  | _ => True

theorem RecvInv.acceptsInForce {a : ClientAction} (h : RecvInv decryptPacket s)
    (hok : ReceiveInBounds s a) : AcceptsInForce s a := by
  cases a with
  | receiver =>
    have hinv := h.receiver
    cases hp : s.receiver with
    | opened buf generation copy mark =>
      simp only [ReceiveInBounds, AcceptsInForce, hp] at hok ⊢
      intro hword
      rw [hp] at hinv
      obtain ⟨hgen, -⟩ := accepted_mark h.mark hinv hok hword
      obtain ⟨hle, hgenuine, -⟩ := hinv
      have hmark := h.mark.ge (g := 2 * (s.cell.gen / 2)) (by omega) (by omega)
      have hturn := hgenuine.inTurn
      unfold SharedMaterial.keyAt at hturn ⊢
      rwa [show generation / 2 = s.cell.gen / 2 by omega] at hturn
    | _ => simp [AcceptsInForce, hp]
  | _ => trivial

/-- What is known of the packets a session has dispatched. -/
structure ReplaySafe (s : ClientState) : Prop where
  /-- Those of one generation came with increasing counters. -/
  increasing : s.dispatched.Pairwise fun d e => d.generation = e.generation → d.counter < e.counter
  /-- No datagram was dispatched twice. -/
  once : (s.dispatched.map (·.buf)).Nodup
  /-- Each was opened under the key of its generation. -/
  own : ∀ d ∈ s.dispatched, s.keyAt d.generation = some d.key

/-- One datagram is not two packets: it has one counter, and it opens under one key. -/
theorem Genuine.not_earlier (hseals : SealsOnce decryptPacket) {s : SharedMaterial}
    (hkeys : s.keys.Nodup) {g' c c' : Nat} {key' : BitVec 256}
    (h : Genuine decryptPacket s buf g key c) (h' : Genuine decryptPacket s buf g' key' c') :
    ¬ Earlier g c g' c' := by
  have hcounter : c = c' := h.counted.trans h'.counted.symm
  obtain ⟨token, hopen⟩ := h.opens
  obtain ⟨token', hopen'⟩ := h'.opens
  have hkey : key = key' := hseals.oneKey _ _ _ _ _ _ hopen hopen'
  have hturn : s.keys[g / 2 - 1]? = some key := h.inTurn
  have hturn' : s.keys[g' / 2 - 1]? = some key := hkey ▸ h'.inTurn
  have hsame : g / 2 - 1 = g' / 2 - 1 :=
    (List.getElem?_inj (List.getElem?_eq_some_iff.mp hturn).1 hkeys).mp (hturn.trans hturn'.symm)
  have heven' := h'.even
  have hbegun := h.begun
  rintro (hlt | ⟨-, hlt⟩) <;> omega

theorem RecvInv.replaySafe (hseals : SealsOnce decryptPacket) (h : RecvInv decryptPacket s)
    (hkeys : s.keys.Nodup) : ReplaySafe s := by
  refine ⟨h.dispatched.ordered.imp ?_, ?_, fun d hd => (h.genuine d hd).inTurn⟩
  · rintro d e (hlt | ⟨-, hlt⟩) heq <;> omega
  · rw [List.Nodup, List.pairwise_map]
    refine h.dispatched.ordered.imp_of_mem fun {d e} hd he hearlier hbuf => ?_
    exact (h.genuine d hd).not_earlier hseals hkeys (hbuf ▸ h.genuine e he) hearlier

/--
**No packet is dispatched twice, and none is accepted under a key that has been
replaced.**

Any datagrams, any interleaving with any re-keys to pairwise distinct keys: as long as
the satellite counts from `1` and the generation does not go round while one packet is
looked at.
-/
theorem incoming_replay_safe (decryptPacket : Opener) (hseals : SealsOnce decryptPacket)
    (fd : Int) (m : Material) (acts : List ClientAction)
    (hbounds : Along (step · decryptPacket) ReceiveInBounds (.started fd m) acts)
    (hkeys : (run (step · decryptPacket) (.started fd m) acts).keys.Nodup) :
    Along (step · decryptPacket) AcceptsInForce (.started fd m) acts ∧
      ReplaySafe (run (step · decryptPacket) (.started fd m) acts) := by
  have hstep : ∀ s a, RecvInv decryptPacket s → ReceiveInBounds s a →
      RecvInv decryptPacket (s.step decryptPacket a) := fun _ _ => step_recvInv hseals
  have hstart := started_recvInv decryptPacket fd m
  exact ⟨along_of_inv hstep (fun _ _ => RecvInv.acceptsInForce) hstart hbounds,
    (run_keeps hstep hstart hbounds).replaySafe hseals hkeys⟩

/-! ### What the conditions are for -/

/-- One datagram, looked at from its arrival to its end. -/
def receiveCall (buf : List UInt8) : List ClientAction :=
  .receive buf :: List.replicate 11 .receiver

/-- A datagram with the zero token. -/
def packet (counter : UInt8) : List UInt8 :=
  [0, 0, 0, 0, 0, 0, 0, counter] ++ List.replicate 20 0

/-- The satellite has sealed packets with one counter, under the zero key. -/
def opensOne (sealed : Nat) : Opener := fun key direction counter _ _ =>
  if key = 0 ∧ direction = kDirServerToClient ∧ counter = sealed then some [0, 0, 0, 0] else none

theorem opensOne_sealsOnce {sealed : Nat} (h : sealed ≠ 0) : SealsOnce (opensOne sealed) := by
  refine ⟨fun key token body => ?_, fun key key' counter token token' body hopen hopen' => ?_⟩
  · exact if_neg fun hc => h hc.2.2.symm
  · unfold opensOne at hopen hopen'
    split at hopen
    · split at hopen'
      · rename_i hc hc'
        rw [hc.1, hc'.1]
      · exact nomatch hopen'
    · exact nomatch hopen

/-- The theorem at a packet that comes twice, with a re-key after it. -/
theorem replayed_packet_dropped :
    ReplaySafe (run (step · (opensOne 1)) (.started 3 ⟨0, 0⟩)
      (receiveCall (packet 1) ++ receiveCall (packet 1) ++ rekeyCall ⟨0, 1⟩ ++
        receiveCall (packet 1))) ∧
    (run (step · (opensOne 1)) (.started 3 ⟨0, 0⟩)
      (receiveCall (packet 1) ++ receiveCall (packet 1) ++ rekeyCall ⟨0, 1⟩ ++
        receiveCall (packet 1))).dispatched.length = 1 :=
  ⟨(incoming_replay_safe (opensOne 1) (opensOne_sealsOnce (by decide)) 3 ⟨0, 0⟩ _
    (by decide +kernel) (by decide +kernel)).2, by decide +kernel⟩

theorem run_receiveCopy (decryptPacket : Opener) (buf : List UInt8) (hidle : s.receiver = .idle)
    (hlen : kHeaderSize + kAuthTag ≤ buf.length) (heven : s.cell.gen % 2 = 0) :
    run (step · decryptPacket) s (.receive buf :: List.replicate 8 .receiver) =
      { s with receiver := .copied buf s.cell.gen s.copied } := by
  have hmod : s.cell.gen % 4294967296 % 2 = 0 := by omega
  have hbegin : s.beginReceive buf = { s with receiver := .reading buf .start } := by
    simp [beginReceive, hidle, Nat.not_lt.mpr hlen]
  simp [run, List.replicate, step, hbegin, receiverStep,
    MaterialRead.step, hmod, Copy.start, Copy.load, kWords, copied]

theorem receiverStep_keys (s : ClientState) (decryptPacket : Opener) :
    (s.receiverStep decryptPacket).keys = s.keys := by
  unfold receiverStep
  split
  · rfl
  · split <;> rfl
  · rfl
  · split <;> rfl
  · split <;> rfl

/-- A packet opened under the zero key, with a mark whose generation has gone round. -/
theorem openIncoming_round (hmark : s.recvMark = ⟨s.cell.gen, 0⟩)
    (hcycle : s.cell.gen % 2 ^ 32 = 2 % 2 ^ 32) :
    s.openIncoming (opensOne 1) (packet 1) 2 (started 3 ⟨0, 0⟩).copied =
      .opened (packet 1) 2 (started 3 ⟨0, 0⟩).copied ⟨s.cell.gen, 0⟩ 1 [0, 0, 0, 0] := by
  have hword : s.recvMark.word / 2 ^ 32 = 2 % 2 ^ 32 := by
    rw [hmark, RecvMark.word_div (Nat.two_pow_pos 32), hcycle]
  have hlast : s.recvMark.word % 2 ^ 32 = 0 := by
    rw [hmark, RecvMark.word_mod (Nat.two_pow_pos 32)]
  have hcopy := materialOf_copied_started 3 ⟨0, 0⟩
  have hopen : opensOne 1 0 kDirServerToClient 1 0 ((packet 1).drop kHeaderSize) =
      some [0, 0, 0, 0] := rfl
  unfold openIncoming
  dsimp only
  rw [hcopy, hword, hlast, hmark, show readU32Be (packet 1) 0 = 0 by decide,
    show readU32Be (packet 1) 4 = 1 by decide]
  exact if_neg (not_not.mpr rfl)

/-- A packet that waits until `n` re-keys have brought the generation round is accepted,
under the key they have replaced. -/
theorem stale_copy_accepted {n : Nat} (hn : 0 < n) (hlt : n < 2 ^ 256)
    (hcycle : (2 + 2 * n) % 2 ^ 32 = 2 % 2 ^ 32) :
    ∃ acts, (run (step · (opensOne 1)) (.started 3 ⟨0, 0⟩) acts).keys.Nodup ∧
      ¬ Along (step · (opensOne 1)) AcceptsInForce (.started 3 ⟨0, 0⟩) acts := by
  have hcopied := run_receiveCopy (opensOne 1) (s := .started 3 ⟨0, 0⟩) (packet 1) rfl (by decide) rfl
  obtain ⟨acts, words, mark, next, turn, hrun, hmark⟩ := exists_rekeys (opensOne 1) n
    (s := run (step · (opensOne 1)) (.started 3 ⟨0, 0⟩)
      (.receive (packet 1) :: List.replicate 8 .receiver)) (by rw [hcopied]; rfl)
  obtain ⟨rfl, -, -⟩ := hmark hn
  rw [hcopied] at hrun
  have hnodup := nodup_keys hlt
  generalize hrun' : run (step · (opensOne 1)) (.started 3 ⟨0, 0⟩)
    ((.receive (packet 1) :: List.replicate 8 .receiver) ++ acts) = s
  have hs := hrun'
  rw [run_append, hcopied, hrun] at hs
  have hmark : s.recvMark = ⟨s.cell.gen, 0⟩ := by rw [← hs]
  have hopen : s.step (opensOne 1) .receiver =
      { s with receiver := .opened (packet 1) 2 (started 3 ⟨0, 0⟩).copied
                ⟨s.cell.gen, 0⟩ 1 [0, 0, 0, 0] } := by
    have hround := openIncoming_round hmark (by rw [← hs]; exact hcycle)
    have hreceiver : s.receiver =
        .copied (packet 1) 2 (started 3 ⟨0, 0⟩).copied := by rw [← hs]; rfl
    show s.receiverStep (opensOne 1) = _
    unfold receiverStep
    rw [hreceiver]
    dsimp only
    rw [hround]
  have hkeys : s.keys = 0#256 :: (List.range n).map fun i => BitVec.ofNat 256 (i + 1) := by
    rw [← hs]
    rfl
  refine ⟨.receive (packet 1) :: List.replicate 8 .receiver ++ acts ++ [.receiver, .receiver],
    ?_, fun halong => ?_⟩
  · rw [run_append, hrun']
    show ((s.receiverStep (opensOne 1)).receiverStep (opensOne 1)).keys.Nodup
    rw [receiverStep_keys, receiverStep_keys, hkeys]
    exact hnodup
  · rw [along_append, hrun', along_cons, hopen] at halong
    have hkey : s.keyAt s.cell.gen = some (materialOf (started 3 ⟨0, 0⟩).copied).key :=
      halong.2.2.1 (congrArg RecvMark.word hmark)
    have hgen : s.cell.gen = 2 + 2 * n := by rw [← hs]; rfl
    unfold SharedMaterial.keyAt at hkey
    -- the newest key is not the first one, since no key comes twice
    rw [hkeys, hgen, materialOf_copied_started] at hkey
    have hsame : 0 = (2 + 2 * n) / 2 - 1 := (List.getElem?_inj (Nat.zero_lt_succ _) hnodup).mp
      (List.getElem?_cons_zero.trans hkey.symm)
    omega

/--
What the guard does not hold against.  A packet with the counter `0` is dispatched as
often as it comes.  A re-key may land between a packet's accept and its dispatch.
After a re-key to a key used before, that key's packets are dispatched again.  And a
packet whose copy of the key sleeps through a full cycle of the generation is accepted
under a key that has long been replaced.
-/
theorem replay_guard_gaps :
    ((run (step · (opensOne 0)) (.started 3 ⟨0, 0⟩)
      (receiveCall (packet 0) ++ receiveCall (packet 0))).dispatched.map (·.buf) =
        [packet 0, packet 0]) ∧
    (∃ s : ClientState, s = run (step · (opensOne 1)) (.started 3 ⟨0, 0⟩)
        ((receiveCall (packet 1)).dropLast ++ rekeyCall ⟨0, 1⟩) ∧
      s.dispatched.length = 0 ∧ s.keyAt s.cell.gen = some 1 ∧
      (s.step (opensOne 1) .receiver).dispatched.map (·.key) = [0]) ∧
    ((run (step · (opensOne 1)) (.started 3 ⟨0, 0⟩)
      (receiveCall (packet 1) ++ rekeyCall ⟨0, 0⟩ ++ receiveCall (packet 1))).dispatched.map
        (·.buf) = [packet 1, packet 1]) ∧
    ∃ acts, (run (step · (opensOne 1)) (.started 3 ⟨0, 0⟩) acts).keys.Nodup ∧
      ¬ Along (step · (opensOne 1)) AcceptsInForce (.started 3 ⟨0, 0⟩) acts := by
  refine ⟨by decide +kernel, ⟨_, rfl, by decide +kernel, by decide +kernel, by decide +kernel⟩,
    by decide +kernel, ?_⟩
  exact stale_copy_accepted (n := 2 ^ 31) (by omega) (by omega) (by omega)

end Dish
