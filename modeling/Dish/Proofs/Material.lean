/-
What the seqlocked session material gives its readers.

`WriterInv` reads the progress of a re-key off the memory: how far the generation
is ahead, for which key the send counter counts, and which words are in place.
`Copied` is what a thread has after `readMaterial`: a copy that is the material in
memory for as long as the generation stands where the copy found it.  `Evolves`
collects everything a re-key can do to such a thread, so that the invariants of the
sending and the receiving threads each follow in one place.
-/
import Dish.Net.SatelliteClient

namespace Dish

open Seqlock Steps ClientState

variable {s s' : SharedMaterial}

/-! ### What the writer has done so far -/

/-- A re-key has opened its write. -/
def Writer.isOpen : Writer → Bool
  | .idle | .locked _ => false
  | _ => true

/-- The send counter counts for the newest key. -/
def Writer.counterIsNew : Writer → Bool
  | .storing .. | .resetting .. => false
  | _ => true

/-- The newest key is that of `m`, and the first `n` words in memory are its words. -/
def SharedMaterial.Stored (s : SharedMaterial) (m : Material) (n : Nat) : Prop :=
  s.keys[s.keys.length - 1]? = some m.key ∧ ∀ j, j < n → s.cell.words j = m.word j

/-- Where the writer is, read off the generation, the counter's turn and the words. -/
structure WriterInv (s : SharedMaterial) : Prop where
  gen : s.cell.gen + (if s.writer.isOpen then 1 else 0) = 2 * s.keys.length
  sequence : s.sequence + (if s.writer.counterIsNew then 1 else 2) = s.keys.length
  words : match s.writer with
    | .storing m _ i => i < kWords ∧ s.Stored m i
    | .resetting m _ => s.Stored m kWords
    | .marking m _ => s.Stored m kWords
    | _ => s.keys[s.keys.length - 1]? = some (Material.ofWords s.cell.words).key

/-- While no write is open, the words in memory are the key the counter counts for. -/
theorem WriterInv.key_of_even (h : WriterInv s) (heven : s.cell.gen % 2 = 0) :
    s.keys[s.sequence]? = some (Material.ofWords s.cell.words).key := by
  have hgen := h.gen
  have hseq := h.sequence
  have hwords := h.words
  cases hw : s.writer with
  | idle | locked =>
    simp only [hw, Writer.counterIsNew, if_true] at hseq hwords
    rwa [show s.keys.length - 1 = s.sequence by omega] at hwords
  | storing | resetting | marking | closing =>
    simp only [hw, Writer.isOpen, if_true] at hgen; omega

/-! ### What a sender's copy is worth -/

/-- A read under way: the generation came first, and the copy is valid. -/
def ReadInv (s : SharedMaterial) : MaterialRead → Prop
  | .start => True
  | .loaded generation => generation ≤ s.cell.gen
  | .copying generation copy => generation ≤ copy.before ∧ copy.Valid s.cell

/-- A finished copy, made at or after the generation that was loaded. -/
structure Copied (s : SharedMaterial) (generation : Nat) (copy : Copy Nat) : Prop where
  le : generation ≤ copy.before
  valid : copy.Valid s.cell
  whole : kWords ≤ copy.next

/-- What the writer may do to the memory under a reader's hands. -/
structure Evolves (s s' : SharedMaterial) : Prop where
  gen : s.cell.gen ≤ s'.cell.gen
  valid : ∀ k : Copy Nat, k.Valid s.cell → k.Valid s'.cell
  still : ∀ k : Copy Nat, k.Valid s.cell → s'.cell.gen = k.before →
    s.cell.gen = k.before ∧ s'.sequence = s.sequence
  keys : s.keys <+: s'.keys

theorem ReadInv.evolves (he : Evolves s s') {r : MaterialRead} (h : ReadInv s r) :
    ReadInv s' r := by
  cases r with
  | start => trivial
  | loaded => exact Nat.le_trans h he.gen
  | copying => exact ⟨h.1, he.valid _ h.2⟩

theorem Copied.evolves (he : Evolves s s') {generation : Nat} {copy : Copy Nat}
    (h : Copied s generation copy) : Copied s' generation copy :=
  ⟨h.le, he.valid _ h.valid, h.whole⟩

/-- Each step of `readMaterial` keeps the read good, and the last hands it over. -/
theorem ReadInv.step {r : MaterialRead} (h : ReadInv s r) : match r.step s.cell with
    | .more r' => ReadInv s r'
    | .torn => True
    | .done generation copy => Copied s generation copy := by
  cases r with
  | start => exact Nat.le_refl _
  | loaded =>
    by_cases hodd : s.cell.gen % 2 ^ 32 % 2 ≠ 0
    · simp only [MaterialRead.step, if_pos hodd]
    · simp only [MaterialRead.step, if_neg hodd]
      exact ⟨h, Copy.valid_start (by omega)⟩
  | copying generation copy =>
    by_cases hnext : copy.next < kWords
    · simp only [MaterialRead.step, if_pos hnext]
      exact ⟨h.1, h.2.load⟩
    · by_cases hgen : s.cell.gen % 2 ^ 32 = copy.before % 2 ^ 32
      · simp only [MaterialRead.step, if_neg hnext, if_pos hgen]
        exact ⟨h.1, h.2, Nat.not_lt.mp hnext⟩
      · simp only [MaterialRead.step, if_neg hnext, if_neg hgen]

/-- A copy is the material in memory while the generation is the one loaded for it. -/
theorem Copied.current {generation : Nat} {copy : Copy Nat} (h : Copied s generation copy)
    (hgen : s.cell.gen = generation) :
    s.cell.gen = copy.before ∧ materialOf copy = .ofWords s.cell.words := by
  have hle := h.le
  have hle' := h.valid.le
  have hbefore : s.cell.gen = copy.before := by omega
  have hwhole := h.whole
  exact ⟨hbefore, Material.ofWords_congr fun i hi => h.valid.agrees hbefore i (by omega)⟩

/-! ### Steps of the writer -/

theorem Evolves.of_eq (hcell : s'.cell = s.cell) (hseq : s'.sequence = s.sequence)
    (hkeys : s'.keys = s.keys) : Evolves s s' := by
  refine ⟨?_, fun k hk => ?_, fun k hk hgen => ?_, ?_⟩
  · rw [hcell]
  · rw [hcell]; exact hk
  · rw [hcell] at hgen; exact ⟨hgen, hseq⟩
  · exact hkeys ▸ List.prefix_refl _

/-- Opening or closing a write leaves all finished and unfinished copies behind. -/
theorem Evolves.of_bump (hcell : s'.cell = s.cell.bump) (hkeys : s.keys <+: s'.keys) :
    Evolves s s' := by
  refine ⟨?_, fun k hk => ?_, fun k hk hgen => ?_, hkeys⟩
  · rw [hcell]; exact Nat.le_succ _
  · rw [hcell]; exact hk.bump
  · have hle := hk.le
    have hgen' : s.cell.gen + 1 = k.before := by rw [hcell] at hgen; exact hgen
    omega

/-- What is stored, or counted anew, under an odd generation no copy depends on. -/
theorem Evolves.of_odd (hodd : s.cell.gen % 2 = 1) (hgen : s'.cell.gen = s.cell.gen)
    (hcell : s'.cell = s.cell ∨ ∃ i w, s'.cell = s.cell.store i w) (hkeys : s'.keys = s.keys) :
    Evolves s s' := by
  refine ⟨by rw [hgen], fun k hk => ?_, fun k hk hbefore => ?_, hkeys ▸ List.prefix_refl _⟩
  · rcases hcell with h | ⟨i, w, h⟩
    · rw [h]; exact hk
    · rw [h]; exact hk.store hodd i w
  · have heven := hk.even
    omega

theorem WriterInv.odd (h : WriterInv s) (hopen : s.writer.isOpen = true) : s.cell.gen % 2 = 1 := by
  have hgen := h.gen
  rw [hopen, if_pos rfl] at hgen
  omega

theorem writerStep_evolves {s : ClientState} (h : WriterInv s.toSharedMaterial) :
    Evolves s.toSharedMaterial s.writerStep.toSharedMaterial := by
  unfold writerStep
  cases hw : s.writer with
  | idle | marking => exact .of_eq rfl rfl rfl
  | locked => exact .of_bump rfl (List.prefix_append _ _)
  | storing m written i =>
    exact .of_odd (h.odd (by rw [hw]; rfl)) rfl (.inr ⟨i, m.word i, rfl⟩) rfl
  | resetting => exact .of_odd (h.odd (by rw [hw]; rfl)) rfl (.inl rfl) rfl
  | closing => exact .of_bump rfl (List.prefix_refl _)

/-- The writer's progress stays readable off the memory. -/
theorem writerStep_writerInv {s : ClientState} (h : WriterInv s.toSharedMaterial) :
    WriterInv s.writerStep.toSharedMaterial := by
  have hgen := h.gen
  have hseq := h.sequence
  have hwords := h.words
  unfold writerStep
  cases hw : s.writer with
  | idle => exact h
  | locked m =>
    simp only [hw, Writer.isOpen, Writer.counterIsNew, Bool.false_eq_true, if_false, if_true]
      at hgen hseq
    refine ⟨?_, ?_, ?_⟩
    · show s.cell.gen + 1 + 1 = 2 * (s.keys ++ [m.key]).length
      rw [List.length_append, List.length_singleton]; omega
    · show s.sequence + 2 = (s.keys ++ [m.key]).length
      rw [List.length_append, List.length_singleton]; omega
    · refine ⟨by decide, ?_, fun j hj => absurd hj (Nat.not_lt_zero j)⟩
      show (s.keys ++ [m.key])[(s.keys ++ [m.key]).length - 1]? = some m.key
      simp
  | storing m written i =>
    simp only [hw] at hwords
    obtain ⟨-, hkey, hstored⟩ := hwords
    have hstored' : ∀ j, j < i + 1 → Function.update s.cell.words i (m.word i) j = m.word j := by
      intro j hj
      by_cases hji : j = i
      · subst hji; rw [Function.update_self]
      · rw [Function.update_of_ne hji]
        exact hstored j (by omega)
    rw [hw] at hgen hseq
    dsimp only
    by_cases hlast : i + 1 < kWords
    · rw [if_pos hlast]
      exact ⟨hgen, hseq, hlast, hkey, hstored'⟩
    · rw [if_neg hlast]
      exact ⟨hgen, hseq, hkey, fun j hj => hstored' j (by omega)⟩
  | resetting =>
    simp only [hw, Writer.isOpen, Writer.counterIsNew, Bool.false_eq_true, if_false, if_true]
      at hgen hseq hwords
    refine ⟨hgen, ?_, hwords⟩
    show s.keys.length - 1 + 1 = s.keys.length
    omega
  | marking =>
    rw [hw] at hgen hseq hwords
    refine ⟨hgen, hseq, ?_⟩
    show s.keys[s.keys.length - 1]? = some (Material.ofWords s.cell.words).key
    rw [Material.ofWords_congr hwords.2, Material.ofWords_word]
    exact hwords.1
  | closing =>
    simp only [hw] at hwords
    simp only [hw, Writer.isOpen, Writer.counterIsNew, if_true] at hgen hseq
    refine ⟨?_, hseq, hwords⟩
    show s.cell.gen + 1 + 0 = 2 * s.keys.length
    omega

theorem takeLock_writerInv (h : WriterInv s) (hw : s.writer = .idle) (m : Material) :
    WriterInv { s with writer := .locked m } := by
  have hgen := h.gen
  have hseq := h.sequence
  have hwords := h.words
  rw [hw] at hgen hseq hwords
  exact ⟨hgen, hseq, hwords⟩

theorem started_writerInv (fd : Int) (m : Material) :
    WriterInv (started fd m).toSharedMaterial := by
  refine ⟨rfl, rfl, ?_⟩
  show [m.key][0]? = some (Material.ofWords m.word).key
  rw [Material.ofWords_word]
  rfl

/-! ### A memory at rest, and whole re-keys -/

/-- The copy a thread makes of a memory at rest. -/
def ClientState.copied (s : ClientState) : Copy Nat := ⟨s.cell.gen, s.cell.words, kWords⟩

theorem materialOf_copied_started (fd : Int) (m : Material) :
    materialOf (started fd m).copied = m := Material.ofWords_word m

/-- One whole call of `setConnectionParams`. -/
def rekeyCall (m : Material) : List ClientAction := .rekey m :: List.replicate 9 .writer

section
variable (decryptPacket : Opener)

theorem run_rekeyCall {s : ClientState} (hw : s.writer = .idle) (m : Material) :
    ∃ words, run (step · decryptPacket) s (rekeyCall m) =
      { s with
        cell := ⟨s.cell.gen + 2, words⟩
        sendCounter := 1
        recvMark := ⟨s.cell.gen + 2, 0⟩
        keys := s.keys ++ [m.key]
        sequence := s.keys.length } := by
  simp [rekeyCall, run, List.replicate, step, writerStep, hw, Cell.bump, Cell.store, kWords]

theorem exists_rekeys (n : Nat) : ∀ {s : ClientState}, s.writer = .idle →
    ∃ acts words mark next turn, run (step · decryptPacket) s acts =
      { s with
        cell := ⟨s.cell.gen + 2 * n, words⟩
        sendCounter := next
        recvMark := mark
        keys := s.keys ++ (List.range n).map fun i => BitVec.ofNat 256 (i + 1)
        sequence := turn } ∧
      (0 < n → mark = ⟨s.cell.gen + 2 * n, 0⟩ ∧ next = 1 ∧ turn + 1 = s.keys.length + n) := by
  induction n with
  | zero =>
    intro s _
    refine ⟨[], s.cell.words, s.recvMark, s.sendCounter, s.sequence, ?_, nofun⟩
    simp
  | succ n ih =>
    intro s hw
    obtain ⟨acts, words, mark, next, turn, hrun, -⟩ := ih hw
    obtain ⟨words', hcall⟩ := run_rekeyCall decryptPacket
      (s := run (step · decryptPacket) s acts) (by rw [hrun]; exact hw)
      ⟨0, BitVec.ofNat 256 (n + 1)⟩
    refine ⟨acts ++ rekeyCall ⟨0, BitVec.ofNat 256 (n + 1)⟩, words',
      ⟨s.cell.gen + 2 * (n + 1), 0⟩, 1, s.keys.length + n, ?_, fun _ => ⟨rfl, rfl, by omega⟩⟩
    rw [run_append, hcall, hrun]
    simp [List.range_succ, Nat.mul_add, Nat.add_assoc]

end

theorem nodup_keys {n : Nat} (hn : n < 2 ^ 256) :
    (0#256 :: (List.range n).map fun i => BitVec.ofNat 256 (i + 1)).Nodup := by
  have hval : ∀ i, i < n → (BitVec.ofNat 256 (i + 1)).toNat = i + 1 := by
    intro i hi
    exact Nat.mod_eq_of_lt (by omega)
  refine List.nodup_cons.mpr ⟨?_, List.Nodup.map_on ?_ List.nodup_range⟩
  · intro hmem
    obtain ⟨i, hi, heq⟩ := List.mem_map.mp hmem
    have := hval i (List.mem_range.mp hi)
    rw [heq] at this
    exact absurd this (by simp)
  · intro i hi j hj heq
    have hi' := hval i (List.mem_range.mp hi)
    have hj' := hval j (List.mem_range.mp hj)
    rw [heq, hj'] at hi'
    omega

end Dish
