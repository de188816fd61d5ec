/-
A response is parsed the same however its bytes arrive.

The cursor's loops are read here as stable readers over the bytes that are left, line by line and
run by run.  The refinement says that the cursor never leaves the bytes and computes what the
readers say; stability of the readers then gives the stability of the parser.
-/
import Dish.Core.HttpFraming
import Dish.Lib.Incremental

namespace Dish.Http

open Incremental Cursor

variable {text rest p : Bytes} {c next : Cursor} (line : Bytes) (response : HttpResponse)

/-! ### The readers -/

def stripCr (text : Bytes) : Bytes := if text.getLast? = some cr then text.dropLast else text

def lineR : Reader UInt8 Bytes := fun p =>
  match p.findIdx? (· == lf) with
  | none => .short
  | some i => .done (stripCr (p.take i)) (p.drop (i + 1))

def takeR (count : Nat) : Reader UInt8 Bytes := fun p =>
  if p.length < count then .short else .done (p.take count) (p.drop count)

/-- The value of a checked text function, which never faults. -/
def valueOf {α : Type} : Except Fault (Option α) → Option α
  | .ok value => value
  | .error _ => none

/-- One header line. -/
def fieldTurn (head : HttpResponse) : Reader UInt8 (HttpResponse ⊕ HttpResponse) :=
  andThen lineR fun line =>
    if line = [] then ret (.inr head)
    else
      match valueOf (fieldOf line) with
      | none => fail
      | some field => ret (.inl { head with headers := head.headers ++ [field] })

def headR : Reader UInt8 HttpResponse :=
  andThen lineR fun line =>
    match valueOf (statusOf line) with
    | none => fail
    | some status => loop fieldTurn { status := status }

/-- One trailer line. -/
def trailerTurn (response : HttpResponse) (_ : Unit) : Reader UInt8 (Unit ⊕ HttpResponse) :=
  andThen lineR fun line => ret (if line = [] then .inr response else .inl ())

/-- One chunk, or the last one with the trailers. -/
def chunkTurn (response : HttpResponse) : Reader UInt8 (HttpResponse ⊕ HttpResponse) :=
  andThen lineR fun line =>
    match valueOf (chunkSizeOf line) with
    | none => fail
    | some 0 => andThen (loop (trailerTurn response) ()) fun response => ret (.inr response)
    | some (n + 1) =>
      andThen (takeR (n + 1)) fun data =>
        andThen lineR fun dataEnd =>
          if dataEnd = [] then ret (.inl { response with body := response.body ++ data })
          else fail

def lengthR (response : HttpResponse) : Reader UInt8 HttpResponse :=
  match countOf (response.header (ascii "content-length")) 10 with
  | none => fail
  | some length => andThen (takeR length) fun body => ret { response with body := body }

/-- One head: read on behind an interim one. -/
def headTurn (_ : Unit) : Reader UInt8 (Unit ⊕ HttpResponse) :=
  andThen headR fun head => ret (if head.status < 200 then .inl () else .inr head)

/-- The final head. -/
def headsR : Reader UInt8 HttpResponse := loop headTurn ()

/-- The body of a head whose framing says where it ends. -/
def framedR (head : HttpResponse) : Reader UInt8 HttpResponse :=
  match framingOf head with
  | .none => ret head
  | .chunked => loop chunkTurn head
  | .length => lengthR head
  | .untilClose => fail

/-! ### The readers are stable -/

theorem stable_lineR : Stable lineR where
  bad := by
    intro p h
    unfold lineR at h
    split at h <;> simp at h
  done := by
    intro p text rest h q
    unfold lineR at *
    cases found : p.findIdx? (· == lf) with
    | none => simp [found] at h
    | some i =>
      have inside := (List.findIdx?_eq_some_iff_getElem.mp found).1
      rw [List.findIdx?_append, found]
      simp only [found, Outcome.done.injEq] at h
      obtain ⟨rfl, rfl⟩ := h
      simp only [Option.some_or, Outcome.done.injEq]
      rw [List.take_append_of_le_length (Nat.le_of_lt inside), List.drop_append_of_le_length inside]
      exact ⟨rfl, rfl⟩

theorem stable_takeR (count : Nat) : Stable (takeR count) where
  bad := by
    intro p h
    unfold takeR at h
    split at h <;> simp at h
  done := by
    intro p run rest h q
    unfold takeR at *
    split at h
    · simp at h
    case isFalse enough =>
      obtain ⟨rfl, rfl⟩ := h
      have le : count ≤ p.length := Nat.le_of_not_lt enough
      rw [if_neg (by simp; omega), List.take_append_of_le_length le,
        List.drop_append_of_le_length le]

theorem stable_fieldTurn (head : HttpResponse) : Stable (fieldTurn head) := by
  refine stable_lineR.andThen fun line => ?_
  split
  · exact stable_ret _
  · split
    · exact stable_fail
    · exact stable_ret _

theorem stable_headR : Stable headR := by
  refine stable_lineR.andThen fun line => ?_
  split
  · exact stable_fail
  · exact Stable.loop stable_fieldTurn _

theorem stable_trailers : Stable (loop (trailerTurn response) ()) :=
  Stable.loop (fun _ => stable_lineR.andThen fun _ => stable_ret _) ()

theorem stable_chunkTurn : Stable (chunkTurn response) := by
  refine stable_lineR.andThen fun line => ?_
  split
  · exact stable_fail
  · exact (stable_trailers response).andThen fun _ => stable_ret _
  · refine (stable_takeR _).andThen fun data => stable_lineR.andThen fun dataEnd => ?_
    split
    · exact stable_ret _
    · exact stable_fail

theorem stable_headsR : Stable headsR :=
  Stable.loop (fun _ => stable_headR.andThen fun _ => stable_ret _) ()

theorem stable_framedR (head : HttpResponse) : Stable (framedR head) := by
  unfold framedR
  split
  · exact stable_ret _
  · exact Stable.loop stable_chunkTurn head
  · unfold lengthR
    split
    · exact stable_fail
    · exact (stable_takeR _).andThen fun _ => stable_ret _
  · exact stable_fail

/-! ### No read is out of range -/

theorem substr_ok {view : Bytes} {pos : Nat} (h : pos ≤ view.length) (count : Nat) :
    substr view pos count = .ok ((view.drop pos).take count) := if_pos h

theorem byteAt_ok (view : Bytes) (i : Nat) (h : i < view.length) : ∃ b, byteAt view i = .ok b := by
  simp [byteAt, h]

/-- The status line is read at its ninth byte and its thirteenth only once it is that long. -/
theorem statusOf_ok : statusOf line = .ok (valueOf (statusOf line)) := by
  have total : ∃ r, statusOf line = .ok r := by
    unfold statusOf
    split
    · exact ⟨none, rfl⟩
    case isFalse long =>
      have size : kCodeEnd ≤ line.length := by
        by_contra short
        exact long (.inr (Nat.lt_of_not_le short))
      have nine : kCodeAt ≤ line.length := Nat.le_trans (by decide) size
      obtain ⟨blank, at8⟩ := byteAt_ok line 8 (Nat.lt_of_lt_of_le (by decide) size)
      simp only [at8, substr_ok nine, bind, Except.bind, pure, Except.pure]
      by_cases sp : blank = 32
      · simp only [sp, ne_eq, not_true_eq_false, if_false]
        by_cases ends : line.length = kCodeEnd
        · simp only [ends, if_true]
          split <;> exact ⟨_, rfl⟩
        · obtain ⟨b, at12⟩ := byteAt_ok line kCodeEnd (by omega)
          simp only [ends, if_false, at12]
          split <;> exact ⟨_, rfl⟩
      · simp only [ne_eq, sp, not_false_eq_true, if_true]
        exact ⟨none, rfl⟩
  obtain ⟨r, h⟩ := total
  rw [h]
  rfl

theorem fieldOf_ok : fieldOf line = .ok (valueOf (fieldOf line)) := by
  unfold fieldOf
  cases found : findFrom line 58 0 with
  | none => rfl
  | some colon =>
    have inside := (findFrom_lt found).2
    simp only [substrFrom, substr_ok (Nat.zero_le line.length), substr_ok inside]
    rfl

theorem chunkSizeOf_ok : chunkSizeOf line = .ok (valueOf (chunkSizeOf line)) := by
  unfold chunkSizeOf
  cases findFrom line 59 0 <;> simp only [substr_ok (Nat.zero_le line.length)] <;> rfl

/-! ### The cursor computes what the readers say -/

/-- The cursor is inside its bytes. -/
def Cursor.Valid (c : Cursor) : Prop := c.offset ≤ c.bytes.length

/-- The bytes the cursor has before it. -/
def Cursor.left (c : Cursor) : Bytes := c.bytes.drop c.offset

theorem removeLast_ok (h : text.getLast? = some cr) : removeLast text = .ok text.dropLast := by
  unfold removeLast
  rw [if_neg]
  rintro rfl
  simp at h

theorem Cursor.line_short (h : lineR c.left = .short) : c.line = .ok (none, c) := by
  unfold lineR left at h
  cases found : (c.bytes.drop c.offset).findIdx? (· == lf) with
  | none => simp [line, findFrom, found]
  | some i => simp [found] at h

section
variable (valid : c.Valid)
include valid

theorem Cursor.line_done (h : lineR c.left = .done text rest) :
    ∃ c', c.line = .ok (some text, c') ∧ c'.Valid ∧ c'.left = rest := by
  unfold lineR left at h
  cases found : (c.bytes.drop c.offset).findIdx? (· == lf) with
  | none => simp [found] at h
  | some i =>
    simp only [found, Outcome.done.injEq] at h
    obtain ⟨rfl, rfl⟩ := h
    have inside := (List.findIdx?_eq_some_iff_getElem.mp found).1
    rw [List.length_drop] at inside
    refine ⟨{ c with offset := c.offset + i + 1 }, ?_, ?_, ?_⟩
    · have cut := substr_ok valid i
      simp only [line, findFrom, found, Option.map_some, Nat.add_sub_cancel_left, cut,
        bind, Except.bind]
      unfold stripCr
      split
      case isTrue ends => rw [removeLast_ok ends]
      case isFalse => rfl
    · unfold Cursor.Valid
      dsimp only
      omega
    · simp [left, Nat.add_assoc]

omit valid in
theorem lineR_ne_bad (p : Bytes) : lineR p ≠ .bad := by
  unfold lineR
  split <;> simp

theorem Cursor.take_short {count : Nat} (h : takeR count c.left = .short) :
    c.take count = .ok (none, c) := by
  unfold takeR left at h
  rw [List.length_drop] at h
  split at h
  case isTrue few => simp [take, Nat.not_lt.mpr valid, few]
  case isFalse => simp at h

theorem Cursor.take_done {count : Nat} {run : Bytes}
    (h : takeR count c.left = .done run rest) :
    ∃ c', c.take count = .ok (some run, c') ∧ c'.Valid ∧ c'.left = rest := by
  unfold takeR left at h
  rw [List.length_drop] at h
  split at h
  case isTrue => simp at h
  case isFalse enough =>
    obtain ⟨rfl, rfl⟩ := h
    refine ⟨{ c with offset := c.offset + count }, ?_, ?_, ?_⟩
    · simp [take, Nat.not_lt.mpr valid, enough, substr_ok valid, bind, Except.bind]
    · unfold Cursor.Valid at *
      dsimp only
      omega
    · simp [left]

omit valid in
theorem takeR_ne_bad (count : Nat) (p : Bytes) : takeR count p ≠ .bad := by
  unfold takeR
  split <;> simp

theorem Cursor.line_cases :
    (c.line = .ok (none, c) ∧ lineR c.left = .short) ∨
      ∃ text c', c.line = .ok (some text, c') ∧ c'.Valid ∧ lineR c.left = .done text c'.left := by
  cases answer : lineR c.left with
  | short => exact .inl ⟨line_short answer, rfl⟩
  | bad => exact absurd answer (lineR_ne_bad _)
  | done text =>
    obtain ⟨c', read, valid', rfl⟩ := line_done valid answer
    exact .inr ⟨text, c', read, valid', rfl⟩

theorem Cursor.line_ne_error (fault : Fault) : c.line ≠ .error fault := by
  rcases line_cases valid with ⟨line, -⟩ | ⟨text, c', line, -⟩ <;> simp [line]

theorem Cursor.lineR_short (read : c.line = .ok (none, next)) :
    lineR c.left = .short := by
  rcases line_cases valid with ⟨-, short⟩ | ⟨text, c', line, -⟩
  · exact short
  · simp [line] at read

theorem Cursor.lineR_done (read : c.line = .ok (some text, next)) :
    next.Valid ∧ lineR c.left = .done text next.left := by
  rcases line_cases valid with ⟨line, -⟩ | ⟨text', c', line, valid', done⟩
  · simp [line] at read
  · obtain ⟨rfl, rfl⟩ : text' = text ∧ c' = next := by simpa [line] using read
    exact ⟨valid', done⟩

end

theorem Cursor.Ahead.left_lt {c' : Cursor} (h : c.Ahead c') : c'.left.length < c.left.length := by
  have := h.left
  simpa [Cursor.left] using this

/-- What the cursor's function returns, against what the reader says of the bytes before it. -/
def Reads (peerClosed : Bool) (x : Except Fault (HttpParse × Cursor)) :
    Outcome UInt8 HttpResponse → Prop
  | .short => ∃ c', x = .ok (stillShort peerClosed, c')
  | .bad => ∃ c', x = .ok (malformed, c')
  | .done r rest => ∃ c', x = .ok (complete r, c') ∧ c'.Valid ∧ c'.left = rest

theorem readFields_reads (c : Cursor) (head : HttpResponse) (peerClosed : Bool) (valid : c.Valid) :
    Reads peerClosed (readFields c head peerClosed) (loop fieldTurn head c.left) := by
  fun_induction readFields c head peerClosed with
  | case1 c head fault read => exact absurd read (line_ne_error valid fault)
  | case2 c head next read =>
    rw [loop_short (by simp [fieldTurn, andThen, lineR_short valid read])]
    exact ⟨next, rfl⟩
  | case3 c head next read =>
    obtain ⟨valid', done⟩ := lineR_done valid read
    have turn : fieldTurn head c.left = .done (.inr head) next.left := by
      simp [fieldTurn, andThen, done, ret]
    rw [loop_stop turn]
    exact ⟨next, rfl, valid', rfl⟩
  | case4 c head line next read some fault bad =>
    rw [fieldOf_ok] at bad
    simp at bad
  | case5 c head text next read some bad =>
    obtain ⟨-, done⟩ := lineR_done valid read
    rw [loop_bad (by simp [fieldTurn, andThen, done, some, bad, valueOf, fail])]
    exact ⟨next, rfl⟩
  | case6 c head text next read some field found ih =>
    obtain ⟨valid', done⟩ := lineR_done valid read
    have turn : fieldTurn head c.left =
        .done (.inl { head with headers := head.headers ++ [field] }) next.left := by
      simp [fieldTurn, andThen, done, some, found, valueOf, ret]
    rw [loop_again turn (line_ahead read).left_lt]
    exact ih valid'

theorem readHead_reads (c : Cursor) (peerClosed : Bool) (valid : c.Valid) :
    Reads peerClosed (readHead c peerClosed) (headR c.left) := by
  unfold readHead headR andThen
  rcases line_cases valid with ⟨line, short⟩ | ⟨text, c', line, valid', done⟩
  · simp only [line, short, bind, Except.bind]
    exact ⟨c, rfl⟩
  · simp only [line, done, bind, Except.bind]
    rw [statusOf_ok]
    cases valueOf (statusOf text) with
    | none => exact ⟨c', rfl⟩
    | some status => exact readFields_reads c' { status := status } peerClosed valid'

/-- The verdict of a reader that ends the parse. -/
def verdict (peerClosed : Bool) : Outcome UInt8 HttpResponse → HttpParse
  | .short => stillShort peerClosed
  | .bad => malformed
  | .done r _ => complete r

theorem readTrailers_eq (c : Cursor) (peerClosed : Bool) (valid : c.Valid) :
    readTrailers response c peerClosed =
      .ok (verdict peerClosed (loop (trailerTurn response) () c.left)) := by
  fun_induction readTrailers response c peerClosed with
  | case1 c fault read => exact absurd read (line_ne_error valid fault)
  | case2 c next read =>
    rw [loop_short (by simp [trailerTurn, andThen, lineR_short valid read])]
    rfl
  | case3 c next read =>
    obtain ⟨-, done⟩ := lineR_done valid read
    have turn : trailerTurn response () c.left = .done (.inr response) next.left := by
      simp [trailerTurn, andThen, done, ret]
    rw [loop_stop turn]
    rfl
  | case4 c text next read some ih =>
    obtain ⟨valid', done⟩ := lineR_done valid read
    have turn : trailerTurn response () c.left = .done (.inl ()) next.left := by
      simp [trailerTurn, andThen, done, some, ret]
    rw [loop_again turn (line_ahead read).left_lt]
    exact ih valid'

/-- The run of a chunk and the line end behind it. -/
def chunkR (size : Nat) : Reader UInt8 (Bytes × Bytes) :=
  andThen (takeR size) fun data => andThen lineR fun dataEnd => ret (data, dataEnd)

theorem readChunk_cases (valid : c.Valid) (size : Nat) :
    (∃ c', readChunk c size = .ok (none, c')) ∧ chunkR size c.left = .short ∨
      ∃ chunk c', readChunk c size = .ok (some chunk, c') ∧ c'.Valid ∧
        chunkR size c.left = .done chunk c'.left := by
  unfold chunkR
  cases taken : takeR size c.left with
  | short =>
    refine .inl ⟨⟨c, ?_⟩, by simp [andThen, taken]⟩
    simp [readChunk, take_short valid taken, bind, Except.bind]
  | bad => exact absurd taken (takeR_ne_bad _ _)
  | done data =>
    obtain ⟨mid, read, valid', rfl⟩ := take_done valid taken
    rcases line_cases valid' with ⟨line, short⟩ | ⟨dataEnd, c', line, valid'', done⟩
    · refine .inl ⟨⟨mid, ?_⟩, by simp [andThen, taken, short]⟩
      simp [readChunk, read, line, bind, Except.bind]
    · refine .inr ⟨(data, dataEnd), c', ?_, valid'', by simp [andThen, taken, done, ret]⟩
      simp [readChunk, read, line, bind, Except.bind]

theorem readChunk_ne_error (valid : c.Valid) (size : Nat) (fault : Fault) :
    readChunk c size ≠ .error fault := by
  rcases readChunk_cases valid size with ⟨⟨c', read⟩, -⟩ | ⟨chunk, c', read, -⟩ <;> simp [read]

theorem chunkR_short (valid : c.Valid) {size : Nat} (read : readChunk c size = .ok (none, next)) :
    chunkR size c.left = .short := by
  rcases readChunk_cases valid size with ⟨-, short⟩ | ⟨chunk, c', found, -⟩
  · exact short
  · simp [found] at read

theorem chunkR_done (valid : c.Valid) {size : Nat} {chunk : Bytes × Bytes}
    (read : readChunk c size = .ok (some chunk, next)) :
    next.Valid ∧ chunkR size c.left = .done chunk next.left := by
  rcases readChunk_cases valid size with ⟨⟨c', found⟩, -⟩ | ⟨chunk', c', found, valid', done⟩
  · simp [found] at read
  · obtain ⟨rfl, rfl⟩ : chunk' = chunk ∧ c' = next := by simpa [found] using read
    exact ⟨valid', done⟩

/-- What a turn does with the chunk it read. -/
def chunkRead (response : HttpResponse) (chunk : Bytes × Bytes) :
    Reader UInt8 (HttpResponse ⊕ HttpResponse) :=
  if chunk.2 = [] then ret (.inl { response with body := response.body ++ chunk.1 }) else fail

theorem chunkTurn_sized {line : Bytes} {n : Nat} (read : lineR p = .done line rest)
    (size : chunkSizeOf line = .ok (some (n + 1))) :
    chunkTurn response p = andThen (chunkR (n + 1)) (chunkRead response) rest := by
  simp only [chunkTurn, chunkR, andThen, read, size, valueOf]
  cases takeR (n + 1) rest with
  | short => rfl
  | bad => rfl
  | done data rest =>
    dsimp only
    cases lineR rest <;> rfl

theorem chunkTurn_last {line : Bytes} (read : lineR p = .done line rest)
    (size : chunkSizeOf line = .ok (some 0)) :
    chunkTurn response p =
      andThen (loop (trailerTurn response) ()) (fun r => ret (.inr r)) rest := by
  simp only [chunkTurn, andThen, read, size, valueOf]

theorem verdict_loop_last {turn : HttpResponse → Reader UInt8 (HttpResponse ⊕ HttpResponse)}
    {response : HttpResponse} {last : Reader UInt8 HttpResponse}
    (h : turn response p = andThen last (fun r => ret (.inr r)) rest) (peerClosed : Bool) :
    verdict peerClosed (loop turn response p) = verdict peerClosed (last rest) := by
  cases answer : last rest with
  | short => rw [loop_short (by rw [h]; simp [andThen, answer])]
  | bad => rw [loop_bad (by rw [h]; simp [andThen, answer])]
  | done r rest' =>
    have stop : turn response p = .done (.inr r) rest' := by
      rw [h]
      simp [andThen, answer, ret]
    rw [loop_stop stop]

theorem readChunks_eq (c : Cursor) (peerClosed : Bool) (valid : c.Valid) :
    readChunks response c peerClosed =
      .ok (verdict peerClosed (loop chunkTurn response c.left)) := by
  fun_induction readChunks response c peerClosed with
  | case1 response c fault read => exact absurd read (line_ne_error valid fault)
  | case2 response c next read =>
    rw [loop_short (by simp [chunkTurn, andThen, lineR_short valid read])]
    rfl
  | case3 response c text next read fault bad =>
    rw [chunkSizeOf_ok] at bad
    simp at bad
  | case4 response c text next read bad =>
    obtain ⟨-, done⟩ := lineR_done valid read
    rw [loop_bad (by simp [chunkTurn, andThen, done, bad, valueOf, fail])]
    rfl
  | case5 response c text next read zero =>
    obtain ⟨valid', done⟩ := lineR_done valid read
    rw [readTrailers_eq response next peerClosed valid',
      verdict_loop_last (chunkTurn_last response done zero)]
  | case6 response c text next read n size fault bad =>
    obtain ⟨valid', -⟩ := lineR_done valid read
    exact absurd bad (readChunk_ne_error valid' _ fault)
  | case7 response c text next read n size last chunk =>
    obtain ⟨valid', done⟩ := lineR_done valid read
    have turn := chunkTurn_sized response done size
    rw [andThen, chunkR_short valid' chunk] at turn
    rw [loop_short turn]
    rfl
  | case8 response c text next read n size data last chunk ih =>
    obtain ⟨valid', done⟩ := lineR_done valid read
    obtain ⟨valid'', both⟩ := chunkR_done valid' chunk
    have turn := chunkTurn_sized response done size
    rw [andThen, both] at turn
    have ahead := (line_ahead read).trans (readChunk_ahead chunk)
    rw [loop_again turn ahead.left_lt]
    exact ih valid''
  | case9 response c text next read n size data dataEnd last chunk some =>
    obtain ⟨valid', done⟩ := lineR_done valid read
    obtain ⟨-, both⟩ := chunkR_done valid' chunk
    have turn := chunkTurn_sized response done size
    rw [andThen, both] at turn
    simp only [chunkRead, some, if_false] at turn
    rw [loop_bad turn]
    rfl

theorem readLength_eq (c : Cursor) (peerClosed : Bool) (valid : c.Valid) :
    readLength response c peerClosed = .ok (verdict peerClosed (lengthR response c.left)) := by
  unfold readLength lengthR
  cases countOf (response.header (ascii "content-length")) 10 with
  | none => rfl
  | some length =>
    cases taken : takeR length c.left with
    | short =>
      simp [take_short valid taken, andThen, taken, verdict, bind, Except.bind]
    | bad => exact absurd taken (takeR_ne_bad _ _)
    | done =>
      obtain ⟨c', read, -⟩ := take_done valid taken
      simp [read, andThen, taken, verdict, ret, bind, Except.bind]

/-- What the bytes left of a final head say of its body. -/
def bodyOf (peerClosed : Bool) (head : HttpResponse) (p : Bytes) : HttpParse :=
  if framingOf head = .untilClose then
    if peerClosed then complete { head with body := p } else ⟨.incomplete, {}⟩
  else verdict peerClosed (framedR head p)

theorem readBody_eq (c : Cursor) (peerClosed : Bool) (valid : c.Valid) :
    readBody response c peerClosed = .ok (bodyOf peerClosed response c.left) := by
  unfold readBody bodyOf framedR
  cases framingOf response with
  | none => rfl
  | chunked => simpa using readChunks_eq response c peerClosed valid
  | length => simpa using readLength_eq response c peerClosed valid
  | untilClose =>
    have rest : c.rest = .ok c.left := by
      rw [rest, substrFrom, substr_ok valid, List.take_of_length_le (by simp)]
      rfl
    simp only [readUntilClose, rest, bind, Except.bind, if_true]
    split <;> rfl

/-- What a whole input says. -/
def parseOf (peerClosed : Bool) (p : Bytes) : HttpParse :=
  match headsR p with
  | .short => stillShort peerClosed
  | .bad => malformed
  | .done head rest => bodyOf peerClosed head rest

theorem readHead_ne_error (valid : c.Valid) (peerClosed : Bool) (fault : Fault) :
    readHead c peerClosed ≠ .error fault := by
  intro read
  have reads := readHead_reads c peerClosed valid
  rw [read] at reads
  unfold Reads at reads
  split at reads <;> simp at reads

theorem headR_done (valid : c.Valid) {peerClosed : Bool} {head : HttpResponse}
    (read : readHead c peerClosed = .ok (complete head, next)) :
    next.Valid ∧ headR c.left = .done head next.left := by
  have reads := readHead_reads c peerClosed valid
  rw [read] at reads
  unfold Reads at reads
  split at reads
  · obtain ⟨c', h⟩ := reads
    cases peerClosed <;> simp [stillShort, complete] at h
  · simp [malformed, complete] at reads
  case h_3 r rest found =>
    obtain ⟨c', h, valid', rfl⟩ := reads
    obtain ⟨rfl, rfl⟩ : head = r ∧ next = c' := by simpa [complete] using h
    exact ⟨valid', found⟩

theorem headR_other (valid : c.Valid) {peerClosed : Bool} {parse : HttpParse}
    (read : readHead c peerClosed = .ok (parse, next)) (other : ∀ r, parse ≠ complete r) :
    (headR c.left = .short ∧ parse = stillShort peerClosed) ∨
      (headR c.left = .bad ∧ parse = malformed) := by
  have reads := readHead_reads c peerClosed valid
  rw [read] at reads
  unfold Reads at reads
  split at reads
  case h_1 found =>
    obtain ⟨c', h⟩ := reads
    exact .inl ⟨found, (Prod.mk.inj (Except.ok.inj h)).1⟩
  case h_2 found =>
    obtain ⟨c', h⟩ := reads
    exact .inr ⟨found, (Prod.mk.inj (Except.ok.inj h)).1⟩
  case h_3 r rest found =>
    obtain ⟨c', h, -⟩ := reads
    exact absurd (Prod.mk.inj (Except.ok.inj h)).1 (other r)

/-- **The parser is its grammar**, and reads nothing past the end. -/
theorem parseFrom_eq (c : Cursor) (peerClosed : Bool) (valid : c.Valid) :
    parseFrom c peerClosed = .ok (parseOf peerClosed c.left) := by
  fun_induction parseFrom c peerClosed with
  | case1 c fault read => exact absurd read (readHead_ne_error valid peerClosed fault)
  | case2 c head next read interim ih =>
    obtain ⟨valid', found⟩ := headR_done valid read
    have turn : headTurn () c.left = .done (.inl ()) next.left := by
      simp [headTurn, andThen, found, ret, interim]
    have again : headsR c.left = headsR next.left :=
      loop_again turn (readHead_ahead read).left_lt
    rw [ih valid', parseOf, parseOf, again]
  | case3 c head next read final =>
    obtain ⟨valid', found⟩ := headR_done valid read
    have turn : headTurn () c.left = .done (.inr head) next.left := by
      simp [headTurn, andThen, found, ret, final]
    have stop : headsR c.left = .done head next.left := loop_stop turn
    rw [readBody_eq head next peerClosed valid', parseOf, stop]
  | case4 c parse next other read =>
    rcases headR_other valid read fun r is => other r is with ⟨found, rfl⟩ | ⟨found, rfl⟩
    · have short : headsR c.left = .short := loop_short (by simp [headTurn, andThen, found])
      rw [parseOf, short]
    · have bad : headsR c.left = .bad := loop_bad (by simp [headTurn, andThen, found])
      rw [parseOf, bad]

theorem parseHttpResponse_eq (p : Bytes) (peerClosed : Bool) :
    parseHttpResponse p peerClosed = .ok (parseOf peerClosed p) :=
  parseFrom_eq ⟨p, 0⟩ peerClosed (Nat.zero_le _)

/-! ### However the bytes arrive -/

/-- A verdict of the grammar on an open connection stays whatever follows. -/
theorem parseOf_append (told : (parseOf false p).state ≠ .incomplete) (q : Bytes)
    (peerClosed : Bool) : parseOf peerClosed (p ++ q) = parseOf false p := by
  unfold parseOf at *
  cases heads : headsR p with
  | short => simp [heads, stillShort] at told
  | bad => rw [stable_headsR.bad heads q]
  | done head rest =>
    rw [stable_headsR.done heads q]
    simp only [heads, bodyOf] at told ⊢
    by_cases close : framingOf head = .untilClose
    · simp [close] at told
    · simp only [close, if_false] at told ⊢
      cases framed : framedR head rest with
      | short => simp [framed, verdict, stillShort] at told
      | bad => rw [(stable_framedR head).bad framed q]; rfl
      | done => rw [(stable_framedR head).done framed q]; rfl

theorem framingOf_untilClose {r : HttpResponse} (h : framingOf r = .untilClose) :
    r.status ≠ 204 ∧ r.status ≠ 304 ∧
      (ascii "chunked").isSuffixOf (lowered (r.header (ascii "transfer-encoding"))) = false ∧
      r.header (ascii "content-length") = [] := by
  unfold framingOf at h
  split at h
  · simp at h
  case isFalse status =>
    split at h
    · simp at h
    case isFalse coded =>
      split at h
      · simp at h
      case isFalse sized =>
        exact ⟨fun is => status (.inl is), fun is => status (.inr is),
          Bool.eq_false_iff.mpr coded, by simpa using sized⟩

theorem parseOf_closed (open' : (parseOf false p).state = .incomplete) :
    (parseOf true p).state = .malformed ∨
      (parseOf true p).state = .complete ∧ framingOf (parseOf true p).response = .untilClose := by
  unfold parseOf at *
  cases heads : headsR p with
  | short => exact .inl rfl
  | bad => simp [heads, malformed] at open'
  | done head rest =>
    simp only [heads, bodyOf] at open' ⊢
    by_cases close : framingOf head = .untilClose
    · simp only [close, if_true]
      exact .inr ⟨rfl, close⟩
    · simp only [close, if_false] at open' ⊢
      cases framed : framedR head rest with
      | short => exact .inl rfl
      | bad => simp [framed, verdict, malformed] at open'
      | done => simp [framed, verdict, complete] at open'

/-- **Parsing does not depend on how the bytes arrive.**  A verdict on an open connection is the
verdict on every longer input, open or closed, with the same response.  An input that was not enough
becomes, on the close, malformed or the response whose body ends with the connection: one that is
not 204 or 304, whose first Transfer-Encoding does not end in chunked and whose first
Content-Length is absent or empty.  No input makes the parser read past its end. -/
theorem response_parse_incremental (p q : Bytes) (peerClosed : Bool) :
    (∃ v, parseHttpResponse p peerClosed = .ok v) ∧
    ∃ v, parseHttpResponse p false = .ok v ∧
      (v.state ≠ .incomplete → parseHttpResponse (p ++ q) peerClosed = .ok v) ∧
      (v.state = .incomplete → ∃ w, parseHttpResponse p true = .ok w ∧
        (w.state = .malformed ∨
          w.state = .complete ∧ w.response.status ≠ 204 ∧ w.response.status ≠ 304 ∧
          (ascii "chunked").isSuffixOf
            (lowered (w.response.header (ascii "transfer-encoding"))) = false ∧
          w.response.header (ascii "content-length") = [])) := by
  refine ⟨⟨_, parseHttpResponse_eq p peerClosed⟩, _, parseHttpResponse_eq p false, ?_, ?_⟩
  · intro told
    rw [parseHttpResponse_eq, parseOf_append told q peerClosed]
  · intro open'
    refine ⟨_, parseHttpResponse_eq p true, ?_⟩
    rcases parseOf_closed open' with bad | ⟨whole, framing⟩
    · exact .inl bad
    · exact .inr ⟨whole, framingOf_untilClose framing⟩

/-- A first Content-Length that is empty hides a second one: the response is read to the close, and
is complete with a Content-Length of five and no body. -/
theorem empty_length_reads_to_close :
    let p := ascii "HTTP/1.1 200 OK\nContent-Length:\nContent-Length: 5\n\n"
    parseHttpResponse p false = .ok ⟨.incomplete, {}⟩ ∧
    parseHttpResponse p true = .ok ⟨.complete,
      { status := 200,
        headers := [(ascii "content-length", []), (ascii "content-length", ascii "5")] }⟩ := by
  decide +kernel

end Dish.Http
