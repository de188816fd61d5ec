/-
`SatelliteClient`'s UDP path, one atomic access at a time.

The sender threads, the receive thread and `setConnectionParams` share the session
material behind a seqlock, the send counter, the receive mark and the send gate.
Each step below is one access to one of those, with the thread-local work that
follows it, so a run is any interleaving of the threads.  Writers are serialised by
`materialMtx_`, so there is at most one at work.

The seqlock generation and the send counter are counted without a bound.  The code
keeps them in 32 and 64 bits, and every comparison below is made on the residue, as
it is there.  A thread's own copy of a generation is likewise the full count, of
which the code has the residue.  The fields `keys`, `sequence`, `log` and
`dispatched` are not in the source: they record what was sealed and dispatched, and
in the turn of which key.
-/
import Dish.Lib.Run
import Dish.Lib.Seqlock
import Dish.Core.Protocol
import Dish.Core.Reconcile

namespace Dish

open Seqlock

/-! ### Session material as words -/

/-- `AtomicWords<Material>::kWords`: 36 bytes in 64-bit words. -/
def kWords : Nat := 5

/-- The bytes of the material, read as one number. -/
def Material.raw (m : Material) : Nat := m.token.toNat + 2 ^ 32 * m.key.toNat

def Material.word (m : Material) (i : Nat) : Nat := m.raw / 2 ^ (64 * i) % 2 ^ 64

def Material.ofWords (w : Nat → Nat) : Material :=
  let raw := w 0 + 2 ^ 64 * w 1 + 2 ^ 128 * w 2 + 2 ^ 192 * w 3 + 2 ^ 256 * w 4
  { token := BitVec.ofNat 32 raw, key := BitVec.ofNat 256 (raw / 2 ^ 32) }

theorem Material.ofWords_congr {w w' : Nat → Nat} (h : ∀ i, i < kWords → w i = w' i) :
    Material.ofWords w = Material.ofWords w' := by
  unfold Material.ofWords
  rw [h 0 (by decide), h 1 (by decide), h 2 (by decide), h 3 (by decide), h 4 (by decide)]

theorem Material.ofWords_word (m : Material) : Material.ofWords m.word = m := by
  have htoken : m.token.toNat < 2 ^ 32 := m.token.isLt
  have hkey : m.key.toNat < 2 ^ 256 := m.key.isLt
  have hraw : m.word 0 + 2 ^ 64 * m.word 1 + 2 ^ 128 * m.word 2 + 2 ^ 192 * m.word 3 +
      2 ^ 256 * m.word 4 = m.raw := by
    unfold Material.word Material.raw
    omega
  unfold Material.ofWords
  rw [hraw]
  dsimp only
  have hkeyraw : m.raw / 2 ^ 32 = m.key.toNat := by
    unfold Material.raw
    omega
  have htokenraw : BitVec.ofNat 32 m.raw = m.token := by
    apply BitVec.eq_of_toNat_eq
    rw [BitVec.toNat_ofNat]
    unfold Material.raw
    omega
  rw [hkeyraw, htokenraw, BitVec.ofNat_toNat, BitVec.setWidth_eq]

/-! ### Reading the material -/

/-- How far `readMaterial` has got: the generation is loaded first, then the seqlock read. -/
inductive MaterialRead where
  | start
  | loaded (generation : Nat)
  | copying (generation : Nat) (copy : Copy Nat)

/-- What one step of `readMaterial` comes to. -/
inductive ReadOutcome where
  | more (r : MaterialRead)
  | torn
  | done (generation : Nat) (copy : Copy Nat)

def MaterialRead.step (cell : Cell Nat) : MaterialRead → ReadOutcome
  | .start => .more (.loaded cell.gen)
  | .loaded generation =>
    if cell.gen % 2 ^ 32 % 2 ≠ 0 then .torn
    else .more (.copying generation (Copy.start cell))
  | .copying generation copy =>
    if copy.next < kWords then .more (.copying generation (copy.load cell))
    else if cell.gen % 2 ^ 32 = copy.before % 2 ^ 32 then .done generation copy
    else .torn

/-- The material a finished copy holds. -/
def materialOf (copy : Copy Nat) : Material := .ofWords copy.words

/-! ### Threads -/

/-- A thread in `sendEncrypted`. -/
inductive Sender where
  | idle
  | reading (r : MaterialRead)
  | ready (generation : Nat) (copy : Copy Nat)
  | gated (generation : Nat) (copy : Copy Nat)
  | drawn (generation : Nat) (copy : Copy Nat) (value sequence : Nat)
  | socketed (generation : Nat) (copy : Copy Nat) (value sequence : Nat) (sock : Int)
  | sealing (copy : Copy Nat) (counter value sequence : Nat)
  | leaving

/-- The thread that holds `materialMtx_` in `setConnectionParams`. -/
inductive Writer where
  | idle
  | locked (m : Material)
  | storing (m : Material) (written i : Nat)
  | resetting (m : Material) (written : Nat)
  | marking (m : Material) (written : Nat)
  | closing

/-- `recvMark_`: the generation the guard belongs to and the last counter accepted. -/
structure RecvMark where
  generation : Nat
  counter : Nat

/-- The 64-bit word the mark is kept in. -/
def RecvMark.word (m : RecvMark) : Nat := m.generation % 2 ^ 32 * 2 ^ 32 + m.counter

/-- The receive thread in `processIncomingInPlace`. -/
inductive Receiver where
  | idle
  | reading (buf : List UInt8) (r : MaterialRead)
  | copied (buf : List UInt8) (generation : Nat) (copy : Copy Nat)
  | opened (buf : List UInt8) (generation : Nat) (copy : Copy Nat) (mark : RecvMark)
      (counter : Nat) (plain : List UInt8)
  | accepted (buf : List UInt8) (generation : Nat) (copy : Copy Nat) (counter : Nat)
      (plain : List UInt8)

/-! ### State -/

def kHeaderSize : Nat := 8
def kInnerHeaderSize : Nat := 4
def kAuthTag : Nat := 16
def kDirClientToServer : UInt8 := 0x00
def kDirServerToClient : UInt8 := 0x01

/-- A datagram sealed by `sendEncrypted`, with the draw its counter came from. -/
structure Datagram where
  key : BitVec 256
  direction : UInt8
  counter : Nat
  value : Nat
  sequence : Nat

/-- A packet handed to `dispatchIncoming`, with the generation it was opened under. -/
structure Dispatched where
  buf : List UInt8
  generation : Nat
  key : BitVec 256
  counter : Nat
  msgType : Nat
  body : List UInt8

/-- The material behind the seqlock, and the thread that is replacing it. -/
structure SharedMaterial where
  cell : Cell Nat
  writer : Writer
  /-- The key of every re-key so far, in order. -/
  keys : List (BitVec 256)
  /-- Which of those keys the send counter counts for. -/
  sequence : Nat

structure ClientState extends SharedMaterial where
  sendCounter : Nat
  recvMark : RecvMark
  /-- The thread inside the gate; the code keeps 0 or 1. -/
  sendGate : Option Nat
  sock : Int
  senders : Nat → Sender
  receiver : Receiver
  log : List Datagram
  dispatched : List Dispatched

/-- A client as constructed. -/
def ClientState.fresh : ClientState where
  cell := ⟨0, fun _ => 0⟩
  sendCounter := 1
  recvMark := ⟨0, 0⟩
  sendGate := none
  sock := -1
  writer := .idle
  senders := fun _ => .idle
  receiver := .idle
  keys := []
  sequence := 0
  log := []
  dispatched := []

/-- A client whose session has just been started: its socket is open and its first
material is in place.  Only then are threads started on it. -/
def ClientState.started (fd : Int) (m : Material) : ClientState :=
  { ClientState.fresh with
    cell := ⟨2, m.word⟩
    recvMark := ⟨2, 0⟩
    sock := fd
    keys := [m.key] }

/-! ### Steps -/

/-- The byte at an offset; every read below is inside the buffer. -/
def byteAt (buf : List UInt8) (off : Nat) : Nat := (buf.getD off 0).toNat

def readU16Be (buf : List UInt8) (off : Nat) : Nat :=
  byteAt buf off * 2 ^ 8 + byteAt buf (off + 1)

def readU32Be (buf : List UInt8) (off : Nat) : Nat :=
  byteAt buf off * 2 ^ 24 + byteAt buf (off + 1) * 2 ^ 16 + byteAt buf (off + 2) * 2 ^ 8 +
    byteAt buf (off + 3)

/-- `wire::decryptPacket`: key, direction, counter, token and ciphertext. -/
abbrev Opener := BitVec 256 → UInt8 → Nat → BitVec 32 → List UInt8 → Option (List UInt8)

inductive ClientAction where
  /-- An idle thread calls `sendEncrypted` with a payload of this length. -/
  | send (thread len : Nat)
  /-- A sending thread takes its next step; `encrypted` is whether the AEAD takes the packet. -/
  | sender (thread : Nat) (encrypted : Bool)
  /-- A thread calls `setConnectionParams` and gets the lock, if it is free. -/
  | rekey (m : Material)
  | writer
  | openSocket (fd : Int)
  | closeSocket
  /-- A datagram arrives at the idle receive thread. -/
  | receive (buf : List UInt8)
  | receiver

namespace ClientState

variable (s : ClientState)

def setSender (thread : Nat) (p : Sender) : ClientState :=
  { s with senders := Function.update s.senders thread p }

/-- The first two refusals of `sendEncrypted`, then the read of the material. -/
def beginSend (thread len : Nat) : ClientState :=
  match s.senders thread with
  | .idle =>
    if s.sock < 0 then s
    else if kUdpMaxInnerPayloadBytes < len then s
    else s.setSender thread (.reading .start)
  | _ => s

def senderStep (thread : Nat) (encrypted : Bool) : ClientState :=
  match s.senders thread with
  | .idle => s
  | .reading r =>
    match r.step s.cell with
    | .more r => s.setSender thread (.reading r)
    | .torn => s.setSender thread .idle
    | .done generation copy => s.setSender thread (.ready generation copy)
  | .ready generation copy =>
    -- `holdSendGate` spins here until the gate is free
    match s.sendGate with
    | none => { s.setSender thread (.gated generation copy) with sendGate := some thread }
    | some _ => s
  | .gated generation copy =>
    { s.setSender thread (.drawn generation copy (s.sendCounter % 2 ^ 64) s.sequence) with
      sendCounter := s.sendCounter + 1 }
  | .drawn generation copy value sequence =>
    s.setSender thread (.socketed generation copy value sequence s.sock)
  | .socketed generation copy value sequence sock =>
    match wireSendCounter value with
    | some ctr =>
      if 0 ≤ sock ∧ s.cell.gen % 2 ^ 32 = generation % 2 ^ 32 then
        s.setSender thread (.sealing copy ctr value sequence)
      else s.setSender thread .leaving
    | none => s.setSender thread .leaving
  | .sealing copy counter value sequence =>
    if encrypted then
      { s.setSender thread .leaving with
        log := s.log ++
          [⟨(materialOf copy).key, kDirClientToServer, counter, value, sequence⟩] }
    else s.setSender thread .leaving
  | .leaving => { s.setSender thread .idle with sendGate := none }

/-- `setConnectionParams` under the lock, in source order. -/
def writerStep : ClientState :=
  match s.writer with
  | .idle => s
  | .locked m =>
    { s with
      cell := s.cell.bump
      writer := .storing m (s.cell.gen + 2) 0
      keys := s.keys ++ [m.key] }
  | .storing m written i =>
    { s with
      cell := s.cell.store i (m.word i)
      writer := if i + 1 < kWords then .storing m written (i + 1) else .resetting m written }
  | .resetting m written =>
    { s with
      sendCounter := 1
      sequence := s.keys.length - 1
      writer := .marking m written }
  | .marking _ written =>
    { s with recvMark := ⟨written, 0⟩, writer := .closing }
  | .closing => { s with cell := s.cell.bump, writer := .idle }

/-- The length check of `processIncomingInPlace`, then the read of the material. -/
def beginReceive (buf : List UInt8) : ClientState :=
  match s.receiver with
  | .idle =>
    if buf.length < kHeaderSize + kAuthTag then s
    else { s with receiver := .reading buf .start }
  | _ => s

/-- The token, generation and replay checks of `decryptIncoming`, then the AEAD, on the
mark just loaded. -/
def openIncoming (decryptPacket : Opener) (buf : List UInt8) (generation : Nat)
    (copy : Copy Nat) : Receiver :=
  let m := materialOf copy
  let mark := s.recvMark.word
  let last := mark % 2 ^ 32
  let counter := readU32Be buf 4
  if readU32Be buf 0 ≠ m.token.toNat then .idle
  else if mark / 2 ^ 32 ≠ generation % 2 ^ 32 then .idle
  else if last ≠ 0 ∧ counter ≤ last then .idle
  else
    match decryptPacket m.key kDirServerToClient counter m.token (buf.drop kHeaderSize) with
    | none => .idle
    | some plain => .opened buf generation copy s.recvMark counter plain

def receiverStep (decryptPacket : Opener) : ClientState :=
  match s.receiver with
  | .idle => s
  | .reading buf r =>
    match r.step s.cell with
    | .more r => { s with receiver := .reading buf r }
    | .torn => { s with receiver := .idle }
    | .done generation copy => { s with receiver := .copied buf generation copy }
  | .copied buf generation copy =>
    { s with receiver := s.openIncoming decryptPacket buf generation copy }
  | .opened buf generation copy mark counter plain =>
    -- the compare-and-swap sees the 64-bit word only
    if s.recvMark.word = mark.word then
      { s with
        recvMark := ⟨generation, counter⟩
        receiver := .accepted buf generation copy counter plain }
    else { s with receiver := .idle }
  | .accepted buf generation copy counter plain =>
    if plain.length < kInnerHeaderSize then { s with receiver := .idle }
    else
      { s with
        receiver := .idle
        dispatched := s.dispatched ++ [⟨buf, generation, (materialOf copy).key, counter,
          readU16Be plain 0, plain.drop kInnerHeaderSize⟩] }

def step (decryptPacket : Opener) : ClientAction → ClientState
  | .send thread len => s.beginSend thread len
  | .sender thread encrypted => s.senderStep thread encrypted
  | .rekey m =>
    match s.writer with
    | .idle => { s with writer := .locked m }
    | _ => s
  | .writer => s.writerStep
  | .openSocket fd => { s with sock := fd }
  | .closeSocket =>
    -- the descriptor is swapped out inside the send gate
    match s.sendGate with
    | none => { s with sock := -1 }
    | some _ => s
  | .receive buf => s.beginReceive buf
  | .receiver => s.receiverStep decryptPacket

end ClientState

end Dish
