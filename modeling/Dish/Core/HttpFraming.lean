/-
HTTP/1.x response framing.

The whole of what has arrived is parsed again from the start each time more does, with a cursor over
the received bytes.  Every place the source reads bytes at a position is a checked read here: a
position past the end is a `Fault`, so that a parse that never faults never reads past the end.
-/
import Mathlib.Algebra.Order.Ring.Int
import Mathlib.Data.List.Basic

namespace Dish.Http

variable {c c' : Cursor}

abbrev Bytes := List UInt8

/-- The bytes of an ASCII text. -/
def ascii (s : String) : Bytes := s.toList.map fun c => c.toNat.toUInt8

/-- A read at a position the bytes do not have. -/
inductive Fault where
  | outOfRange
  deriving DecidableEq, Repr

/-- `view[i]`. -/
def byteAt (view : Bytes) (i : Nat) : Except Fault UInt8 :=
  match view[i]? with
  | some b => .ok b
  | none => .error .outOfRange

/-- `view.substr(pos, count)`: the position has to be in the view, the count is cut to it. -/
def substr (view : Bytes) (pos count : Nat) : Except Fault Bytes :=
  if pos ≤ view.length then .ok ((view.drop pos).take count) else .error .outOfRange

/-- `view.substr(pos)`. -/
def substrFrom (view : Bytes) (pos : Nat) : Except Fault Bytes := substr view pos view.length

/-- `view.find(byte, from)`. -/
def findFrom (view : Bytes) (byte : UInt8) (start : Nat) : Option Nat :=
  ((view.drop start).findIdx? (· == byte)).map (start + ·)

def lf : UInt8 := 10
def cr : UInt8 := 13

/-! ### The cursor -/

structure Cursor where
  bytes : Bytes
  offset : Nat := 0
  deriving DecidableEq, Repr

/-- `view.remove_suffix(1)` of a text known to end in a byte. -/
def removeLast (view : Bytes) : Except Fault Bytes :=
  if view = [] then .error .outOfRange else .ok view.dropLast

/-- The line up to the next LF, without it and without one CR before it; none if there is no LF. -/
def Cursor.line (c : Cursor) : Except Fault (Option Bytes × Cursor) :=
  match findFrom c.bytes lf c.offset with
  | none => .ok (none, c)
  | some stop => do
      let text ← substr c.bytes c.offset (stop - c.offset)
      let text ← if text.getLast? = some cr then removeLast text else .ok text
      .ok (some text, { c with offset := stop + 1 })

/-- The next `count` bytes, if they are there.  The bytes left are `size - offset`, which must not
wrap. -/
def Cursor.take (c : Cursor) (count : Nat) : Except Fault (Option Bytes × Cursor) :=
  if c.bytes.length < c.offset then .error .outOfRange
  else if c.bytes.length - c.offset < count then .ok (none, c)
  else do
    let run ← substr c.bytes c.offset count
    .ok (some run, { c with offset := c.offset + count })

def Cursor.rest (c : Cursor) : Except Fault Bytes := substrFrom c.bytes c.offset

/-! ### Texts -/

def loweredByte (b : UInt8) : UInt8 := if 65 ≤ b ∧ b ≤ 90 then b + 32 else b

def lowered (text : Bytes) : Bytes := text.map loweredByte

def isBlank (b : UInt8) : Bool := b == 32 || b == 9

def trimmed (text : Bytes) : Bytes :=
  ((text.dropWhile isBlank).reverse.dropWhile isBlank).reverse

/-- The value of a digit, letters counting from ten. -/
def digitOf (base : Nat) (b : UInt8) : Option Nat :=
  let value : Option Nat :=
    if 48 ≤ b ∧ b ≤ 57 then some (b.toNat - 48)
    else if 97 ≤ b ∧ b ≤ 122 then some (b.toNat - 87)
    else if 65 ≤ b ∧ b ≤ 90 then some (b.toNat - 55)
    else none
  value.filter (· < base)

/-- All of the text as one number of the base: at least one digit, nothing else, and in the range of
`std::size_t`. -/
def countOf (digits : Bytes) (base : Nat) : Option Nat :=
  if digits = [] then none
  else
    match digits.mapM (digitOf base) with
    | none => none
    | some ds =>
      let count := ds.foldl (fun n d => n * base + d) 0
      if count < 2 ^ 64 then some count else none

def kCodeAt : Nat := 9
def kCodeEnd : Nat := kCodeAt + 3

/-- The code of a status line of HTTP/1.x: three digits, at least 100, and nothing but a blank
behind them. -/
def statusOf (line : Bytes) : Except Fault (Option Nat) := do
  if (ascii "HTTP/1.").isPrefixOf line = false ∨ line.length < kCodeEnd then return none
  if (← byteAt line 8) ≠ 32 then return none
  let code := countOf (← substr line kCodeAt 3) 10
  let codeEnds ← if line.length = kCodeEnd then pure true else do pure ((← byteAt line kCodeEnd) == 32)
  match code with
  | some n => return if 100 ≤ n ∧ codeEnds then some n else none
  | none => return none

abbrev HttpHeader := Bytes × Bytes

/-- A field: the name, lower-cased, before the first colon, the value trimmed. -/
def fieldOf (line : Bytes) : Except Fault (Option HttpHeader) :=
  match findFrom line 58 0 with
  | none => .ok none
  | some colon => do
      let name ← substr line 0 colon
      let value ← substrFrom line (colon + 1)
      .ok (some (lowered name, trimmed value))

/-- The size before an extension, in hex. -/
def chunkSizeOf (line : Bytes) : Except Fault (Option Nat) := do
  let size ←
    match findFrom line 59 0 with
    | some semicolon => substr line 0 semicolon
    | none => substr line 0 line.length
  .ok (countOf (trimmed size) 16)

/-! ### Responses -/

structure HttpResponse where
  status : Nat := 0
  headers : List HttpHeader := []
  body : Bytes := []
  deriving DecidableEq, Repr

/-- The first field of that name, or empty. -/
def HttpResponse.header (r : HttpResponse) (lowerName : Bytes) : Bytes :=
  match r.headers.find? (·.1 == lowerName) with
  | some field => field.2
  | none => []

inductive State where
  /-- More bytes are needed, and the peer may still send them. -/
  | incomplete
  | complete
  /-- Not HTTP/1.x, or the peer hung up before the response was whole. -/
  | malformed
  deriving DecidableEq, Repr

structure HttpParse where
  state : State := .incomplete
  response : HttpResponse := {}
  deriving DecidableEq, Repr

def complete (response : HttpResponse) : HttpParse := ⟨.complete, response⟩

def malformed : HttpParse := ⟨.malformed, {}⟩

def stillShort (peerClosed : Bool) : HttpParse :=
  ⟨if peerClosed then .malformed else .incomplete, {}⟩

inductive Framing where
  | none
  | chunked
  | length
  | untilClose
  deriving DecidableEq, Repr

def framingOf (head : HttpResponse) : Framing :=
  if head.status = 204 ∨ head.status = 304 then .none
  else if (ascii "chunked").isSuffixOf (lowered (head.header (ascii "transfer-encoding"))) then
    .chunked
  else if head.header (ascii "content-length") ≠ [] then .length
  else .untilClose

/-! ### The loops

Each turn of a loop reads at least one line, so the cursor is further on at the next. -/

/-- The cursor moved on over the same bytes. -/
structure Cursor.Ahead (c c' : Cursor) : Prop where
  bytes : c'.bytes = c.bytes
  moved : c.offset < c'.offset
  inside : c'.offset ≤ c.bytes.length

theorem Cursor.Ahead.left (h : c.Ahead c') :
    c'.bytes.length - c'.offset < c.bytes.length - c.offset := by
  have := h.moved
  have := h.inside
  rw [h.bytes]
  omega

theorem findFrom_lt {view : Bytes} {byte : UInt8} {start i : Nat}
    (h : findFrom view byte start = some i) : start ≤ i ∧ i < view.length := by
  obtain ⟨k, found, rfl⟩ := Option.map_eq_some_iff.mp h
  obtain ⟨inside, -⟩ := List.findIdx?_eq_some_iff_getElem.mp found
  rw [List.length_drop] at inside
  omega

theorem Cursor.line_ahead {text : Bytes} (h : c.line = .ok (some text, c')) : c.Ahead c' := by
  unfold Cursor.line at h
  cases found : findFrom c.bytes lf c.offset with
  | none => simp [found] at h
  | some stop =>
    obtain ⟨low, high⟩ := findFrom_lt found
    simp only [found, bind, Except.bind] at h
    repeat' split at h
    all_goals simp_all
    all_goals
      obtain ⟨-, rfl⟩ := h
      exact ⟨rfl, Nat.lt_succ_of_le low, high⟩

/-- The header lines, up to the empty one. -/
def readFields (cursor : Cursor) (head : HttpResponse) (peerClosed : Bool) :
    Except Fault (HttpParse × Cursor) :=
  match _read : cursor.line with
  | .error fault => .error fault
  | .ok (none, next) => .ok (stillShort peerClosed, next)
  | .ok (some line, next) =>
    if line = [] then .ok (complete head, next)
    else
      match fieldOf line with
      | .error fault => .error fault
      | .ok none => .ok (malformed, next)
      | .ok (some field) =>
        readFields next { head with headers := head.headers ++ [field] } peerClosed
termination_by cursor.bytes.length - cursor.offset
decreasing_by exact (Cursor.line_ahead _read).left

def readHead (cursor : Cursor) (peerClosed : Bool) : Except Fault (HttpParse × Cursor) := do
  let (statusLine, cursor) ← cursor.line
  match statusLine with
  | none => .ok (stillShort peerClosed, cursor)
  | some line =>
    match ← statusOf line with
    | none => .ok (malformed, cursor)
    | some status => readFields cursor { status := status } peerClosed

def readTrailers (response : HttpResponse) (cursor : Cursor) (peerClosed : Bool) :
    Except Fault HttpParse :=
  match _read : cursor.line with
  | .error fault => .error fault
  | .ok (none, _) => .ok (stillShort peerClosed)
  | .ok (some line, next) =>
    if line = [] then .ok (complete response) else readTrailers response next peerClosed
termination_by cursor.bytes.length - cursor.offset
decreasing_by exact (Cursor.line_ahead _read).left

/-- The data of one chunk of that size and the line end behind it: none where they are not there
yet. -/
def readChunk (cursor : Cursor) (size : Nat) : Except Fault (Option (Bytes × Bytes) × Cursor) := do
  let (data, cursor) ← cursor.take size
  match data with
  | none => .ok (none, cursor)
  | some data =>
    let (dataEnd, cursor) ← cursor.line
    match dataEnd with
    | none => .ok (none, cursor)
    | some dataEnd => .ok (some (data, dataEnd), cursor)

theorem Cursor.Ahead.trans {a b : Cursor} (ab : a.Ahead b) (bc : b.Ahead c) : a.Ahead c where
  bytes := bc.bytes.trans ab.bytes
  moved := Nat.lt_trans ab.moved bc.moved
  inside := ab.bytes ▸ bc.inside

theorem Cursor.take_offset {count : Nat} {run : Bytes} (h : c.take count = .ok (some run, c')) :
    c'.bytes = c.bytes ∧ c.offset ≤ c'.offset := by
  unfold Cursor.take at h
  simp only [bind, Except.bind] at h
  repeat' split at h
  all_goals simp_all
  obtain ⟨-, rfl⟩ := h
  exact ⟨rfl, Nat.le_add_right ..⟩

theorem readChunk_ahead {size : Nat} {data dataEnd : Bytes}
    (h : readChunk c size = .ok (some (data, dataEnd), c')) : c.Ahead c' := by
  unfold readChunk at h
  simp only [bind, Except.bind] at h
  cases taken : c.take size with
  | error fault => simp [taken] at h
  | ok result =>
    obtain ⟨found, mid⟩ := result
    simp only [taken] at h
    cases found with
    | none => simp at h
    | some run =>
      obtain ⟨same, le⟩ := Cursor.take_offset taken
      cases ended : mid.line with
      | error fault => simp [ended] at h
      | ok result =>
        obtain ⟨found, last⟩ := result
        simp only [ended] at h
        cases found with
        | none => simp at h
        | some text =>
          obtain ⟨-, rfl⟩ := h
          have ahead := Cursor.line_ahead ended
          exact ⟨ahead.bytes.trans same, Nat.lt_of_le_of_lt le ahead.moved,
            same ▸ ahead.inside⟩

/-- Chunk by chunk, up to the one of size zero and the trailers behind it. -/
def readChunks (response : HttpResponse) (cursor : Cursor) (peerClosed : Bool) :
    Except Fault HttpParse :=
  match _read : cursor.line with
  | .error fault => .error fault
  | .ok (none, _) => .ok (stillShort peerClosed)
  | .ok (some sizeLine, next) =>
    match chunkSizeOf sizeLine with
    | .error fault => .error fault
    | .ok none => .ok malformed
    | .ok (some 0) => readTrailers response next peerClosed
    | .ok (some (n + 1)) =>
      match _chunk : readChunk next (n + 1) with
      | .error fault => .error fault
      | .ok (none, _) => .ok (stillShort peerClosed)
      | .ok (some (data, dataEnd), last) =>
        if dataEnd = [] then
          readChunks { response with body := response.body ++ data } last peerClosed
        else .ok malformed
termination_by cursor.bytes.length - cursor.offset
decreasing_by exact ((Cursor.line_ahead _read).trans (readChunk_ahead _chunk)).left

def readLength (response : HttpResponse) (cursor : Cursor) (peerClosed : Bool) :
    Except Fault HttpParse := do
  match countOf (response.header (ascii "content-length")) 10 with
  | none => .ok malformed
  | some length =>
    let (body, _) ← cursor.take length
    match body with
    | none => .ok (stillShort peerClosed)
    | some body => .ok (complete { response with body := body })

def readUntilClose (response : HttpResponse) (cursor : Cursor) (peerClosed : Bool) :
    Except Fault HttpParse := do
  if peerClosed then
    let body ← cursor.rest
    .ok (complete { response with body := body })
  else .ok ⟨.incomplete, {}⟩

def readBody (response : HttpResponse) (cursor : Cursor) (peerClosed : Bool) :
    Except Fault HttpParse :=
  match framingOf response with
  | .none => .ok (complete response)
  | .chunked => readChunks response cursor peerClosed
  | .length => readLength response cursor peerClosed
  | .untilClose => readUntilClose response cursor peerClosed

theorem readFields_ahead {head r : HttpResponse} {peerClosed : Bool}
    (h : readFields c head peerClosed = .ok (complete r, c')) : c.Ahead c' := by
  fun_induction readFields c head peerClosed with
  | case1 => simp at h
  | case2 => cases peerClosed <;> simp [stillShort, complete] at h
  | case3 c head next read =>
    simp only [Except.ok.injEq, Prod.mk.injEq] at h
    exact h.2 ▸ Cursor.line_ahead read
  | case4 => simp at h
  | case5 => simp [malformed, complete] at h
  | case6 c head line next read some field found ih =>
    exact (Cursor.line_ahead read).trans (ih h)

theorem readHead_ahead {r : HttpResponse} {peerClosed : Bool}
    (h : readHead c peerClosed = .ok (complete r, c')) : c.Ahead c' := by
  unfold readHead at h
  simp only [bind, Except.bind] at h
  cases read : c.line with
  | error fault => simp [read] at h
  | ok result =>
    obtain ⟨found, next⟩ := result
    simp only [read] at h
    cases found with
    | none => cases peerClosed <;> simp [stillShort, complete] at h
    | some line =>
      repeat' split at h
      all_goals simp_all [malformed, complete]
      exact (Cursor.line_ahead read).trans (readFields_ahead h)

/-- Head after head until one that is not interim, then its body. -/
def parseFrom (cursor : Cursor) (peerClosed : Bool) : Except Fault HttpParse :=
  match _read : readHead cursor peerClosed with
  | .error fault => .error fault
  | .ok (⟨.complete, head⟩, next) =>
    if head.status < 200 then parseFrom next peerClosed else readBody head next peerClosed
  | .ok (parse, _) => .ok parse
termination_by cursor.bytes.length - cursor.offset
decreasing_by exact (readHead_ahead _read).left

def parseHttpResponse (received : Bytes) (peerClosed : Bool) : Except Fault HttpParse :=
  parseFrom ⟨received, 0⟩ peerClosed

end Dish.Http
