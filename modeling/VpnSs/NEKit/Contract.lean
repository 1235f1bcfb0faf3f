/-
`NWTCPSocket` keeps to the contract of a raw socket. What it has told its delegate is what a `RawSocket`
may tell, the data it has delivered are the bytes its connection has received, in order and each once, and
what it has written to the connection are the bytes it was given; once told to disconnect it comes to its
end, and only after the write under way.

The simulation carries a `RawSocket` along. Each read that the delegate still waits for is in one of four
places: asked of the connection, answered in a block on the queue, delivered, or lost because the socket was
cancelled, the stream ended or the pattern did not show in time.
-/
import VpnSs.NEKit.NWTCPSocket

namespace VpnSs.NEKit

open VpnSs.Swift Search

/-! ## What the queue still owes -/

/-- The data that a block of `readCallback` has. -/
def Block.answer : Block → Option (Option Data)
  | .readCallback data => some data
  | _ => none

/-- The block ends a write of the connection. -/
def Block.isWritten : Block → Bool
  | .written _ => true
  | _ => false

/-- The block answers a write of the delegate. -/
def Block.acknowledges : Block → Bool
  | .written _ => true
  | .didWrite => true
  | _ => false

theorem Block.isWritten_eq_false {block : Block} (h : block.acknowledges = false) : block.isWritten = false := by
  cases block <;> first | rfl | cases h

theorem countP_isWritten_le (queue : List Block) : queue.countP Block.isWritten ≤ queue.countP Block.acknowledges :=
  List.countP_mono_left fun block _ h => by cases block <;> first | rfl | cases h

namespace NWTCPSocket

open NWTCPConnection (Gives)
open RawSocket (Exchange)

/-! ## The socket and its contract -/

/-- The delegate, and how the socket stands on its way to the end. -/
structure Standing (s : NWTCPSocket) (c : NWTCPConnection) (raw : RawSocket) : Prop where
  delegate : raw.delegate = s.delegate
  gone : raw.gone = decide (c.state = .cancelled)
  ended : raw.ended = c.ended
  left : s.delegate = false → c.state = .cancelled
  closing : raw.closing = true → s.cancelled = true
  cancelCalled : c.cancelCalled = true → s.cancelled = true
  closeAfterWriting : s.closeAfterWriting = true → s.cancelled = true
  state : c.state = .cancelled → c.cancelCalled = true
  leaves : raw.closing = true → s.closeAfterWriting = true ∨ c.cancelCalled = true
  departs : c.state = .cancelled → s.delegate = false ∨ .didDisconnect ∈ s.queue
  leaving : .didDisconnect ∈ s.queue → c.state = .cancelled

/-- A socket that is to close after the write under way closes, or that write is under way or about to be
followed up. -/
def Closes (s : NWTCPSocket) (c : NWTCPConnection) : Prop :=
  s.closeAfterWriting = true → s.writePending = true ∨ .checkStatus ∈ s.queue ∨ c.cancelCalled = true

/-- A write of the delegate is a write of the connection or about to be acknowledged. -/
def Acknowledges (s : NWTCPSocket) (c : NWTCPConnection) (raw : RawSocket) : Prop :=
  s.cancelled = false → raw.writes ≤ c.writes + s.queue.countP Block.acknowledges

/-- The connection is not connected yet, or the delegate is still to be told, or neither; the delegate waits for
no other reason until the connection is lost. -/
structure Connecting (s : NWTCPSocket) (c : NWTCPConnection) (raw : RawSocket) : Prop where
  once : (decide (c.state.rank = 0)).toNat + s.queue.count .didConnect ≤ raw.connecting.toNat
  waits : raw.connecting = true → c.state.rank = 0 ∨ .didConnect ∈ s.queue ∨ 2 ≤ c.state.rank

/-- The writes: those of the connection are those of the delegate as long as the socket is not cancelled. -/
structure Writing (s : NWTCPSocket) (c : NWTCPConnection) (raw : RawSocket) : Prop where
  pending : s.writePending.toNat = c.writes + s.queue.countP Block.isWritten
  acknowledged : c.writes + s.queue.countP Block.acknowledges ≤ raw.writes
  single : raw.writes ≤ 1
  sent : c.sent <+: raw.sent
  sent_open : s.cancelled = false → c.sent = raw.sent

/-- The socket waits for data to answer the read, of a length between the two bounds; its scanner has
received `held`. -/
inductive Awaits (s : NWTCPSocket) (raw : RawSocket) : ReadRequest → Nat → Nat → Data → Prop where
  | data : s.scanning = false → raw.held = s.readDataPrefix → Awaits s raw .data 1 MAXNWTCPSocketReadDataSize []
  | length (n : Nat) : s.scanning = false → raw.held = s.readDataPrefix → Awaits s raw (.length n) n n []
  | pattern (p : Data) (scanner : StreamScanner) (held : Data) : s.scanning = true → s.scanner = some scanner →
      scanner.pattern = p → scanner.maximumLength = MAXNWTCPScanLength → p ≠ [] → scanner.Open held →
      Awaits s raw (.pattern p) 1 MAXNWTCPSocketReadDataSize held

/-- What came for a read, which is as much as it is for unless the stream has ended. -/
structure Came (c : NWTCPConnection) (minimum maximum : Nat) (data : Option Data) : Prop where
  gives : Gives minimum maximum data
  least : c.ended = false → ∃ d, data = some d ∧ minimum ≤ d.length

/-- Why a read is not answered. -/
def Lost (s : NWTCPSocket) (c : NWTCPConnection) (raw : RawSocket) : Prop :=
  s.cancelled = true ∨ c.ended = true ∨ raw.received.flatten.length + MAXNWTCPScanLength < c.received.length

/-- Where the read of the delegate is, and where the bytes received are. -/
inductive Reading (s : NWTCPSocket) (c : NWTCPConnection) (raw : RawSocket) : Prop where
  | idle : raw.reads = [] → c.reads = [] → s.queue.filterMap Block.answer = [] → s.scanning = false →
      raw.held = s.readDataPrefix → raw.received.flatten ++ s.readDataPrefix.getD [] = c.received → Reading s c raw
  | asked (r : ReadRequest) (minimum maximum : Nat) (held : Data) : raw.reads = [r] →
      c.reads = [(minimum, maximum)] → s.queue.filterMap Block.answer = [] → Awaits s raw r minimum maximum held →
      raw.received.flatten ++ held ++ s.readDataPrefix.getD [] = c.received → Reading s c raw
  | answered (r : ReadRequest) (minimum maximum : Nat) (held : Data) (data : Option Data) : raw.reads = [r] →
      c.reads = [] → s.queue.filterMap Block.answer = [data] → Awaits s raw r minimum maximum held →
      Came c minimum maximum data →
      raw.received.flatten ++ held ++ s.readDataPrefix.getD [] ++ data.getD [] = c.received → Reading s c raw
  | lost : raw.reads ≠ [] → c.reads = [] → s.queue.filterMap Block.answer = [] →
      raw.received.flatten <+: c.received → Lost s c raw → Reading s c raw

/-- A socket with a connection, in the middle of a block. -/
structure Attached (s : NWTCPSocket) (c : NWTCPConnection) (raw : RawSocket) : Prop where
  connection : s.connection = some c
  standing : Standing s c raw
  connecting : Connecting s c raw
  writing : Writing s c raw
  reading : Reading s c raw

/-- A socket with a connection. -/
structure Provided (s : NWTCPSocket) (c : NWTCPConnection) (raw : RawSocket) : Prop extends Attached s c raw where
  closes : Closes s c
  acknowledges : Acknowledges s c raw

/-- A socket that found no tunnel provider: nothing comes of it, and to disconnect is told at once. -/
structure Unprovided (s : NWTCPSocket) (raw : RawSocket) : Prop where
  connection : s.connection = none
  delegate : s.delegate = true ∧ raw.delegate = true
  queue : s.queue = []
  connecting : raw.connecting = true
  gone : raw.gone = true
  closing : raw.closing = true → s.cancelled = true
  reads : raw.reads = []
  writes : raw.writes = 0
  received : raw.received = []
  sent : raw.sent = []
  readDataPrefix : s.readDataPrefix = none

/-- The socket stands as the contract says. -/
inductive Agrees (s : NWTCPSocket) (raw : RawSocket) : Prop where
  | unprovided : Unprovided s raw → Agrees s raw
  | provided (c : NWTCPConnection) : Provided s c raw → Agrees s raw

/-- What the delegate keeps to: it reads and writes once it is connected, a read or a write only when the
last one was answered, and it looks for no empty pattern. -/
def Allows (raw : RawSocket) : Input → Prop
  | .read r => raw.closing = true ∨ raw.connecting = false ∧ raw.reads = [] ∧ r ≠ .pattern []
  | .write _ => raw.closing = true ∨ raw.connecting = false ∧ raw.writes = 0
  | _ => True

instance Allows.decidable (raw : RawSocket) : ∀ i, Decidable (Allows raw i)
  | .read _ => inferInstanceAs (Decidable (_ ∨ _ ∧ _ ∧ _))
  | .write _ => inferInstanceAs (Decidable (_ ∨ _ ∧ _))
  | .disconnect => .isTrue trivial
  | .forceDisconnect => .isTrue trivial
  | .stateChanged _ => .isTrue trivial
  | .readCompleted _ => .isTrue trivial
  | .readFailed => .isTrue trivial
  | .writeCompleted _ => .isTrue trivial
  | .block => .isTrue trivial

/-! ## What leaves a part of the agreement as it is -/

section Congr

variable {s s' : NWTCPSocket} {c c' : NWTCPConnection} {raw raw' : RawSocket}

theorem Awaits.congr {r : ReadRequest} {minimum maximum : Nat} {held : Data} (h : Awaits s raw r minimum maximum held)
    (hscanning : s'.scanning = s.scanning) (hscanner : s'.scanner = s.scanner)
    (hpre : s'.readDataPrefix = s.readDataPrefix) (hheld : raw'.held = raw.held) :
    Awaits s' raw' r minimum maximum held := by
  cases h with
  | data h1 h2 => exact .data (hscanning.trans h1) (hheld.trans (h2.trans hpre.symm))
  | length _ h1 h2 => exact .length _ (hscanning.trans h1) (hheld.trans (h2.trans hpre.symm))
  | pattern p scanner held h1 h2 h3 h4 h5 h6 =>
    exact .pattern p scanner held (hscanning.trans h1) (hscanner.trans h2) h3 h4 h5 h6

/-- What the socket and its scanner keep of a read is what it was. -/
structure Alike (s s' : NWTCPSocket) : Prop where
  scanning : s'.scanning = s.scanning
  scanner : s'.scanner = s.scanner
  readDataPrefix : s'.readDataPrefix = s.readDataPrefix
  queue : s'.queue.filterMap Block.answer = s.queue.filterMap Block.answer
  cancelled : s.cancelled = true → s'.cancelled = true

theorem Reading.congr (h : Reading s c raw) (hs : Alike s s') (hreads : c'.reads = c.reads)
    (hreceived : c'.received = c.received) (hended : c'.ended = c.ended) (hraw : raw'.reads = raw.reads)
    (hdelivered : raw'.received = raw.received) (hheld : raw'.held = raw.held) : Reading s' c' raw' := by
  cases h with
  | idle h1 h2 h3 h4 h5 h6 =>
    exact .idle (hraw.trans h1) (hreads.trans h2) (hs.queue.trans h3) (hs.scanning.trans h4)
      (hheld.trans (h5.trans hs.readDataPrefix.symm)) (by rw [hdelivered, hs.readDataPrefix, hreceived]; exact h6)
  | asked r minimum maximum held h1 h2 h3 h4 h5 =>
    exact .asked r minimum maximum held (hraw.trans h1) (hreads.trans h2) (hs.queue.trans h3)
      (h4.congr hs.scanning hs.scanner hs.readDataPrefix hheld)
      (by rw [hdelivered, hs.readDataPrefix, hreceived]; exact h5)
  | answered r minimum maximum held data h1 h2 h3 h4 h5 h6 =>
    exact .answered r minimum maximum held data (hraw.trans h1) (hreads.trans h2) (hs.queue.trans h3)
      (h4.congr hs.scanning hs.scanner hs.readDataPrefix hheld) ⟨h5.gives, fun he => h5.least (hended.symm.trans he)⟩
      (by rw [hdelivered, hs.readDataPrefix, hreceived]; exact h6)
  | lost h1 h2 h3 h4 h5 =>
    refine .lost (by rw [hraw]; exact h1) (hreads.trans h2) (hs.queue.trans h3)
      (by rw [hdelivered, hreceived]; exact h4) (h5.imp hs.cancelled (Or.imp hended.trans fun hlt => ?_))
    rw [hdelivered, hreceived]
    exact hlt

/-- Whatever becomes of a read, what was delivered was received. -/
theorem Reading.delivered (h : Reading s c raw) : raw.received.flatten <+: c.received := by
  cases h with
  | idle h1 h2 h3 h4 h5 h6 => exact ⟨_, h6⟩
  | asked r minimum maximum held h1 h2 h3 h4 h5 => exact ⟨_, by rw [← List.append_assoc]; exact h5⟩
  | answered r minimum maximum held data h1 h2 h3 h4 h5 h6 =>
    exact ⟨_, by rw [← List.append_assoc, ← List.append_assoc]; exact h6⟩
  | lost h1 h2 h3 h4 h5 => exact h4

/-- A socket without a delegate is cancelled. -/
theorem Standing.cancelled (h : Standing s c raw) (hleft : s.delegate = false) : s.cancelled = true :=
  h.cancelCalled (h.state (h.left hleft))

/-! ## What a block on the queue changes -/

theorem Standing.queueCall (h : Standing s c raw) {block : Block}
    (hblock : block = .didDisconnect → c.state = .cancelled) : Standing (s.queueCall block) c raw := by
  refine { h with departs := ?_, leaving := ?_ }
  · intro hst
    exact (h.departs hst).imp_right (List.mem_append_left _)
  · intro hmem
    rcases List.mem_append.1 hmem with hmem | hmem
    · exact h.leaving hmem
    · exact hblock (List.mem_singleton.1 hmem).symm

theorem Closes.queueCall (h : Closes s c) (block : Block) : Closes (s.queueCall block) c :=
  fun hcl => (h hcl).imp_right (Or.imp_left (List.mem_append_left _))

theorem Acknowledges.queueCall (h : Acknowledges s c raw) (block : Block) : Acknowledges (s.queueCall block) c raw := by
  intro hopen
  have := h hopen
  rw [NWTCPSocket.queueCall, List.countP_append]
  omega

theorem Connecting.queueCall (h : Connecting s c raw) {block : Block} (hblock : block ≠ .didConnect) :
    Connecting (s.queueCall block) c raw := by
  refine ⟨?_, fun hraw => (h.waits hraw).imp_right (Or.imp_left (List.mem_append_left _))⟩
  rw [NWTCPSocket.queueCall, List.count_append, List.count_singleton, beq_false_of_ne hblock]
  exact h.once

theorem Writing.queueCall (h : Writing s c raw) {block : Block} (hblock : block.acknowledges = false) :
    Writing (s.queueCall block) c raw := by
  refine { h with pending := ?_, acknowledged := ?_ }
  · have := h.pending
    simpa [NWTCPSocket.queueCall, Block.isWritten_eq_false hblock] using this
  · have := h.acknowledged
    simpa [NWTCPSocket.queueCall, hblock] using this

theorem Reading.queueCall (h : Reading s c raw) {block : Block} (hblock : block.answer = none) :
    Reading (s.queueCall block) c raw := by
  refine h.congr ⟨rfl, rfl, rfl, ?_, id⟩ rfl rfl rfl rfl rfl rfl
  simp [NWTCPSocket.queueCall, hblock]

section Pop

variable {block : Block} {queue : List Block}

theorem Closes.pop (h : Closes s c) (hqueue : s.queue = block :: queue) (hblock : block ≠ .checkStatus) :
    Closes { s with queue } c := by
  intro hcl
  have := h hcl
  rw [hqueue] at this
  simpa [hblock.symm] using this

theorem Acknowledges.pop (h : Acknowledges s c raw) (hqueue : s.queue = block :: queue)
    (hblock : block.acknowledges = false) : Acknowledges { s with queue } c raw := by
  intro hopen
  have := h hopen
  rw [hqueue] at this
  simpa [hblock] using this

theorem Standing.pop (h : Standing s c raw) (hqueue : s.queue = block :: queue) (hblock : block ≠ .didDisconnect) :
    Standing { s with queue } c raw := by
  refine { h with departs := ?_, leaving := ?_ }
  · intro hst
    have := h.departs hst
    rw [hqueue] at this
    simpa [hblock.symm] using this
  · intro hmem
    apply h.leaving
    rw [hqueue]
    exact List.mem_cons_of_mem _ hmem

theorem Connecting.pop (h : Connecting s c raw) (hqueue : s.queue = block :: queue) (hblock : block ≠ .didConnect) :
    Connecting { s with queue } c raw := by
  have honce := h.once
  rw [hqueue, List.count_cons_of_ne hblock] at honce
  refine ⟨honce, fun hraw => (h.waits hraw).imp_right (Or.imp_left fun hmem => ?_)⟩
  rw [hqueue] at hmem
  exact (List.mem_cons.1 hmem).resolve_left hblock.symm

theorem Writing.pop (h : Writing s c raw) (hqueue : s.queue = block :: queue) (hblock : block.acknowledges = false) :
    Writing { s with queue } c raw := by
  refine { h with pending := ?_, acknowledged := ?_ }
  · have := h.pending
    rw [hqueue] at this
    simpa [Block.isWritten_eq_false hblock] using this
  · have := h.acknowledged
    rw [hqueue] at this
    simpa [hblock] using this

theorem Reading.pop (h : Reading s c raw) (hqueue : s.queue = block :: queue) (hblock : block.answer = none) :
    Reading { s with queue } c raw := by
  refine h.congr ⟨rfl, rfl, rfl, ?_, id⟩ rfl rfl rfl rfl rfl rfl
  rw [hqueue, List.filterMap_cons_none hblock]

end Pop

end Congr

/-! ## What the delegate calls -/

section Calls

variable {s : NWTCPSocket} {c : NWTCPConnection} {raw : RawSocket}

/-- A block that neither answers nor ends anything. -/
theorem Provided.enqueue (h : Provided s c raw) {block : Block} (hanswer : block.answer = none)
    (hacknowledges : block.acknowledges = false) (hconnect : block ≠ .didConnect) (hdisconnect : block ≠ .didDisconnect) :
    Provided (s.queueCall block) c raw :=
  ⟨⟨h.connection, h.standing.queueCall fun heq => absurd heq hdisconnect, h.connecting.queueCall hconnect,
    h.writing.queueCall hacknowledges, h.reading.queueCall hanswer⟩, h.closes.queueCall block,
    h.acknowledges.queueCall block⟩

/-- A block that neither answers nor ends anything is left behind. -/
theorem Provided.dequeue {block : Block} {queue : List Block} (h : Provided s c raw) (hqueue : s.queue = block :: queue)
    (hanswer : block.answer = none) (hacknowledges : block.acknowledges = false) (hstatus : block ≠ .checkStatus)
    (hconnect : block ≠ .didConnect) (hdisconnect : block ≠ .didDisconnect) : Provided { s with queue } c raw :=
  ⟨⟨h.connection, h.standing.pop hqueue hdisconnect, h.connecting.pop hqueue hconnect,
    h.writing.pop hqueue hacknowledges, h.reading.pop hqueue hanswer⟩, h.closes.pop hqueue hstatus,
    h.acknowledges.pop hqueue hacknowledges⟩

theorem read_of_cancelled (h : s.cancelled = true) (r : ReadRequest) : s.read r = some s := by
  cases r <;> exact if_pos h

theorem Provided.read {r : ReadRequest} (h : Provided s c raw) (hallow : Allows raw (.read r)) :
    ∃ s', s.read r = some s' ∧ ∃ c', Provided s' c' (raw.read r) := by
  by_cases hclosing : raw.closing = true
  · have hraw : raw.read r = raw := if_pos hclosing
    rw [hraw]
    exact ⟨s, read_of_cancelled (h.standing.closing hclosing) r, c, h⟩
  · obtain ⟨-, hreads, hkind⟩ := hallow.resolve_left hclosing
    rw [RawSocket.read_of_not_closing (Bool.eq_false_iff.2 hclosing), hreads, List.nil_append]
    by_cases hcancelled : s.cancelled = true
    · refine ⟨s, read_of_cancelled hcancelled r, c,
        ⟨h.connection, { h.standing with }, { h.connecting with }, { h.writing with }, ?_⟩, h.closes, h.acknowledges⟩
      cases h.reading with
      | idle h1 h2 h3 h4 h5 h6 => exact .lost (List.cons_ne_nil _ _) h2 h3 ⟨_, h6⟩ (.inl hcancelled)
      | asked r minimum maximum held h1 => rw [hreads] at h1; cases h1
      | answered r minimum maximum held data h1 => rw [hreads] at h1; cases h1
      | lost h1 => exact absurd hreads h1
    · obtain ⟨hidle, hqueue, hscanning, hpre, hheld⟩ : c.reads = [] ∧ s.queue.filterMap Block.answer = [] ∧
          s.scanning = false ∧ raw.held = s.readDataPrefix ∧
          raw.received.flatten ++ s.readDataPrefix.getD [] = c.received := by
        cases h.reading with
        | idle h1 h2 h3 h4 h5 h6 => exact ⟨h2, h3, h4, h5, h6⟩
        | asked r minimum maximum held h1 => rw [hreads] at h1; cases h1
        | answered r minimum maximum held data h1 => rw [hreads] at h1; cases h1
        | lost h1 => exact absurd hreads h1
      have hreq (minimum maximum : Nat) : c.reads ++ [(minimum, maximum)] = [(minimum, maximum)] := by
        rw [hidle, List.nil_append]
      have hheld' : raw.received.flatten ++ [] ++ s.readDataPrefix.getD [] = c.received := by
        rw [List.append_nil]; exact hheld
      cases r with
      | data =>
        refine ⟨{ s with connection := some { c with reads := c.reads ++ [(1, MAXNWTCPSocketReadDataSize)] } }, ?_, _,
          ⟨rfl, { h.standing with }, { h.connecting with }, { h.writing with }, ?_⟩, h.closes, h.acknowledges⟩
        · rw [NWTCPSocket.read, readData, if_neg hcancelled, readConnection, h.connection]; rfl
        · exact .asked _ _ _ _ rfl (hreq _ _) hqueue (.data hscanning hpre) hheld'
      | length n =>
        refine ⟨{ s with connection := some { c with reads := c.reads ++ [(n, n)] } }, ?_, _,
          ⟨rfl, { h.standing with }, { h.connecting with }, { h.writing with }, ?_⟩, h.closes, h.acknowledges⟩
        · rw [NWTCPSocket.read, readDataToLength, if_neg hcancelled, readConnection, h.connection]; rfl
        · exact .asked _ _ _ _ rfl (hreq _ _) hqueue (.length n hscanning hpre) hheld'
      | pattern p =>
        refine ⟨{ s with
            scanner := some (.create p MAXNWTCPScanLength), scanning := true
            connection := some { c with reads := c.reads ++ [(1, MAXNWTCPSocketReadDataSize)] } }, ?_, _,
          ⟨rfl, { h.standing with }, { h.connecting with }, { h.writing with }, ?_⟩, h.closes, h.acknowledges⟩
        · rw [NWTCPSocket.read, readDataToPattern, if_neg hcancelled, readData, if_neg hcancelled, readConnection,
            h.connection]
          rfl
        · have hp : p ≠ [] := fun hp => hkind (congrArg _ hp)
          exact .asked _ _ _ _ rfl (hreq _ _) hqueue
            (.pattern p _ [] rfl rfl rfl rfl hp ⟨rfl, rfl, not_occursAt_nil hp⟩) hheld'

theorem Provided.write {data : Data} (h : Provided s c raw) (hallow : Allows raw (.write data)) :
    ∃ s', s.write data = some s' ∧ ∃ c', Provided s' c' (raw.write data) := by
  by_cases hclosing : raw.closing = true
  · have hraw : raw.write data = raw := if_pos hclosing
    rw [hraw]
    exact ⟨s, if_pos (h.standing.closing hclosing), c, h⟩
  · obtain ⟨-, hwrites⟩ := hallow.resolve_left hclosing
    rw [RawSocket.write_of_not_closing (Bool.eq_false_iff.2 hclosing), hwrites]
    have hnone : c.writes = 0 ∧ s.queue.countP Block.acknowledges = 0 := by
      have := h.writing.acknowledged
      omega
    by_cases hcancelled : s.cancelled = true
    · refine ⟨s, if_pos hcancelled, c,
        ⟨h.connection, { h.standing with }, { h.connecting with }, ?_,
          h.reading.congr ⟨rfl, rfl, rfl, rfl, id⟩ rfl rfl rfl rfl rfl rfl⟩, h.closes,
        fun hopen => absurd hcancelled (Bool.eq_false_iff.1 hopen)⟩
      refine ⟨h.writing.pending, by rw [hnone.1, hnone.2]; exact Nat.zero_le 1, Nat.le_refl 1, ?_, ?_⟩
      · exact h.writing.sent.trans (List.prefix_append _ _)
      · intro hopen; exact absurd hcancelled (Bool.eq_false_iff.1 hopen)
    · have hopen : c.sent = raw.sent := h.writing.sent_open (Bool.eq_false_iff.2 hcancelled)
      rw [NWTCPSocket.write, if_neg hcancelled]
      by_cases hempty : data.isEmpty = true
      · rw [if_pos hempty]
        have hnil : data = [] := List.isEmpty_iff.1 hempty
        have hstanding : Standing (s.queueCall .didWrite) c raw := h.standing.queueCall fun h => by cases h
        refine ⟨_, rfl, c, ⟨h.connection, { hstanding with }, { h.connecting.queueCall (by decide) with }, ?_,
          (h.reading.queueCall rfl).congr ⟨rfl, rfl, rfl, rfl, id⟩ rfl rfl rfl rfl rfl rfl⟩, h.closes.queueCall _,
          fun _ => by simp [queueCall, Block.acknowledges, hnone.1, hnone.2]⟩
        refine ⟨?_, ?_, Nat.le_refl 1, ?_, ?_⟩
        · simpa [queueCall, Block.isWritten] using h.writing.pending
        · simp [queueCall, Block.acknowledges, hnone.1, hnone.2]
        · rw [hnil, List.append_nil]; exact h.writing.sent
        · intro _; rw [hnil, List.append_nil]; exact hopen
      · rw [if_neg hempty, send, h.connection]
        have hpending : s.queue.countP Block.isWritten = 0 :=
          Nat.eq_zero_of_le_zero (hnone.2 ▸ countP_isWritten_le s.queue)
        refine ⟨_, rfl, _, ⟨rfl, { h.standing with }, { h.connecting with }, ?_,
          h.reading.congr ⟨rfl, rfl, rfl, rfl, id⟩ rfl rfl rfl rfl rfl rfl⟩, fun _ => .inl rfl, fun _ => by simp [hnone.1]⟩
        refine ⟨?_, ?_, Nat.le_refl 1, ?_, ?_⟩
        · simp [hnone.1, hpending]
        · simp [hnone.1, hnone.2]
        · rw [hopen]
        · intro _; rw [hopen]

theorem isGone_eq (h : s.connection = some c) : s.isGone = decide (c.state = .cancelled) := by
  rw [isGone, h]; rfl

/-- A socket that is cancelled, whether the delegate knows or not. -/
theorem Attached.cancelled (h : Attached s c raw) (closing closeAfterWriting : Bool)
    (hcloses : closeAfterWriting = true → s.writePending = true ∨ c.cancelCalled = true)
    (hleaves : closing = true → closeAfterWriting = true ∨ c.cancelCalled = true) :
    Provided { s with cancelled := true, closeAfterWriting } c { raw with closing } := by
  refine ⟨⟨h.connection, ?_, { h.connecting with }, { h.writing with sent_open := ?_ },
    h.reading.congr ⟨rfl, rfl, rfl, rfl, fun _ => rfl⟩ rfl rfl rfl rfl rfl rfl⟩, fun hcl => (hcloses hcl).imp_right .inr,
    fun hopen => (nomatch hopen)⟩
  · exact { h.standing with
      closing := fun _ => rfl, cancelCalled := fun _ => rfl, closeAfterWriting := fun _ => rfl, leaves := hleaves }
  · intro hopen; cases hopen

theorem Attached.cancel (h : Attached s c raw) (closing closeAfterWriting : Bool) :
    Provided (NWTCPSocket.cancel { s with cancelled := true, closeAfterWriting }) { c with cancelCalled := true }
      { raw with closing } := by
  refine ⟨⟨?_, ?_, { h.connecting with }, { h.writing with sent_open := ?_ },
    h.reading.congr ⟨rfl, rfl, rfl, rfl, fun _ => rfl⟩ rfl rfl rfl rfl rfl rfl⟩, fun _ => .inr (.inr rfl),
    fun hopen => (nomatch hopen)⟩
  · rw [NWTCPSocket.cancel, h.connection]; rfl
  · exact { h.standing with
      closing := fun _ => rfl, cancelCalled := fun _ => rfl, closeAfterWriting := fun _ => rfl, state := fun _ => rfl
      leaves := fun _ => .inr rfl }
  · intro hopen; cases hopen

/-- `disconnect`, whoever calls it and whether the delegate knows or not: the delegate is told at once
exactly when the connection is cancelled already and there is a delegate. -/
theorem Attached.disconnect (h : Attached s c raw) (closing : Bool) :
    s.disconnect.2 = (raw.gone && raw.delegate) ∧ ∃ c', Provided s.disconnect.1 c' { raw with closing } := by
  have hgone := isGone_eq h.connection
  by_cases hc : c.state = .cancelled
  · have heq : s.disconnect = ({ s with cancelled := true }, s.delegate) := if_pos (by rw [hc] at hgone; exact hgone)
    rw [heq]
    constructor
    · rw [h.standing.gone, h.standing.delegate, hc]; rfl
    · exact ⟨c, h.cancelled closing _ (fun _ => .inr (h.standing.state hc)) fun _ => .inr (h.standing.state hc)⟩
  · have heq : s.disconnect = (checkStatus { s with cancelled := true, closeAfterWriting := true }, false) :=
      if_neg (by rw [decide_eq_false hc] at hgone; rw [Bool.not_eq_true]; exact hgone)
    rw [heq]
    constructor
    · rw [h.standing.gone, decide_eq_false hc]; rfl
    · by_cases hp : s.writePending = true
      · have hstay : checkStatus { s with cancelled := true, closeAfterWriting := true } =
            { s with cancelled := true, closeAfterWriting := true } := if_neg (by simp [hp])
        rw [hstay]
        exact ⟨c, h.cancelled closing true (fun _ => .inl hp) fun _ => .inl rfl⟩
      · have hleave : checkStatus { s with cancelled := true, closeAfterWriting := true } =
            NWTCPSocket.cancel { s with cancelled := true, closeAfterWriting := true } := if_pos (by simp [hp])
        rw [hleave]
        exact ⟨_, h.cancel closing true⟩

theorem Attached.forceDisconnect (h : Attached s c raw) :
    s.forceDisconnect.2 = (raw.gone && raw.delegate) ∧ ∃ c', Provided s.forceDisconnect.1 c' raw.forceDisconnect := by
  have hgone := isGone_eq h.connection
  by_cases hc : c.state = .cancelled
  · have heq : s.forceDisconnect = ({ s with cancelled := true }, s.delegate) :=
      if_pos (by rw [hc] at hgone; exact hgone)
    rw [heq]
    constructor
    · rw [h.standing.gone, h.standing.delegate, hc]; rfl
    · exact ⟨c, h.cancelled true _ (fun _ => .inr (h.standing.state hc)) fun _ => .inr (h.standing.state hc)⟩
  · have heq : s.forceDisconnect = (NWTCPSocket.cancel { s with cancelled := true }, false) :=
      if_neg (by rw [decide_eq_false hc] at hgone; rw [Bool.not_eq_true]; exact hgone)
    rw [heq]
    constructor
    · rw [h.standing.gone, decide_eq_false hc]; rfl
    · exact ⟨_, h.cancel true s.closeAfterWriting⟩

end Calls

/-! ## What the connection does -/

section Connection

variable {s : NWTCPSocket} {c c' : NWTCPConnection} {raw : RawSocket}

/-- The step is no trap, the contract allows what passes, and the socket stands as it says afterwards. -/
def Keeps (raw : RawSocket) (result : Option (NWTCPSocket × List Exchange)) : Prop :=
  ∃ s' es raw', result = some (s', es) ∧ Lts.run (RawSocket.exchange RawSocket.answer) raw es = some raw' ∧ Agrees s' raw'

theorem Provided.stateChanged {state : NWTCPConnectionState} (h : Provided s c raw) (hmove : c.move state = some c') :
    Keeps raw (NWTCPSocket.handle { s with connection := some c' } (.stateChanged state)) := by
  unfold NWTCPConnection.move at hmove
  split at hmove
  · rename_i hguard
    cases hmove
    obtain ⟨hrank, hcalled⟩ := hguard
    have hconnecting := h.connecting.once
    have hreading : Reading { s with connection := some { c with state } } { c with state } raw :=
      h.reading.congr ⟨rfl, rfl, rfl, rfl, id⟩ rfl rfl rfl rfl rfl rfl
    have hopen : state.rank < 3 → c.state ≠ .cancelled := by
      intro hlt heq
      rw [heq] at hrank
      simp only [NWTCPConnectionState.rank] at hrank hlt
      omega
    have hearly : state.rank < 2 → decide (c.state.rank = 0) = true := by
      intro hlt
      rw [decide_eq_true_eq]
      omega
    -- a state before the last leaves the delegate as it is
    have hstanding : state.rank < 3 →
        Standing { s with connection := some { c with state } } { c with state } raw := by
      intro hlt
      have hne : state ≠ .cancelled := fun heq => by rw [heq] at hlt; exact absurd hlt (by decide)
      refine { h.standing with gone := ?_, left := ?_, state := ?_, departs := ?_, leaving := ?_ }
      · rw [h.standing.gone, decide_eq_false (hopen hlt), decide_eq_false hne]
      · intro hd; exact absurd (h.standing.left hd) (hopen hlt)
      · intro heq; exact absurd heq hne
      · intro heq; exact absurd heq hne
      · intro hmem; exact absurd (h.standing.leaving hmem) (hopen hlt)
    cases state with
    | connecting =>
      refine ⟨_, _, raw, rfl, rfl, .provided _ ⟨⟨rfl, hstanding (by decide), ?_, { h.writing with }, hreading⟩,
        h.closes, h.acknowledges⟩⟩
      rw [hearly (by decide)] at hconnecting
      exact ⟨hconnecting, fun _ => .inl rfl⟩
    | waiting =>
      refine ⟨_, _, raw, rfl, rfl, .provided _ ⟨⟨rfl, hstanding (by decide), ?_, { h.writing with }, hreading⟩,
        h.closes, h.acknowledges⟩⟩
      rw [hearly (by decide)] at hconnecting
      exact ⟨hconnecting, fun _ => .inl rfl⟩
    | connected =>
      have hwriting : Writing { s with connection := some { c with state := .connected } }
          { c with state := .connected } raw := { h.writing with }
      have hcloses : Closes { s with connection := some { c with state := .connected } }
          { c with state := .connected } := h.closes
      refine ⟨_, _, raw, rfl, rfl, .provided _ ⟨⟨rfl, (hstanding (by decide)).queueCall ?_, ?_,
        hwriting.queueCall rfl, hreading.queueCall rfl⟩, hcloses.queueCall _, Acknowledges.queueCall h.acknowledges _⟩⟩
      · intro heq; cases heq
      -- what was still to come is now on the queue
      rw [hearly (by decide)] at hconnecting
      refine ⟨?_, fun _ => .inr (.inl (List.mem_append_right _ (List.mem_singleton_self _)))⟩
      rw [NWTCPSocket.queueCall, List.count_append, List.count_singleton_self]
      simp only [NWTCPConnectionState.rank, Nat.one_ne_zero, decide_false, Bool.toNat_false, Bool.toNat_true] at *
      omega
    | disconnected =>
      have hmoved : Provided { s with connection := some { c with state := .disconnected } }
          { c with state := .disconnected } raw := by
        refine ⟨⟨rfl, hstanding (by decide), ?_, { h.writing with }, hreading⟩, h.closes, h.acknowledges⟩
        exact ⟨(Nat.add_le_add_right (Nat.zero_le _) _).trans hconnecting, fun _ => .inr (.inr (Nat.le_refl 2))⟩
      exact ⟨_, _, raw, rfl, rfl, .provided _ (hmoved.cancel raw.closing s.closeAfterWriting)⟩
    | cancelled =>
      have hne : c.state ≠ .cancelled := by
        intro heq
        rw [heq] at hrank
        simp [NWTCPConnectionState.rank] at hrank
      have hdelegate : raw.delegate = true := by
        rw [h.standing.delegate]
        by_contra hd
        exact hne (h.standing.left (Bool.not_eq_true _ ▸ hd))
      have hvanished : Lts.run (RawSocket.exchange RawSocket.answer) raw [.gone] = some { raw with gone := true } := by
        rw [Lts.run_cons, RawSocket.exchange, RawSocket.vanished_eq_some.2 ⟨hdelegate, rfl⟩]
        rfl
      have hwriting : Writing { s with connection := some { c with state := .cancelled }, cancelled := true }
          { c with state := .cancelled } { raw with gone := true } :=
        { h.writing with sent_open := fun hopen => Bool.noConfusion hopen }
      have hgone : Reading { s with connection := some { c with state := .cancelled }, cancelled := true }
          { c with state := .cancelled } { raw with gone := true } :=
        h.reading.congr ⟨rfl, rfl, rfl, rfl, fun _ => rfl⟩ rfl rfl rfl rfl rfl rfl
      refine ⟨queueCall { s with connection := some { c with state := .cancelled }, cancelled := true } .didDisconnect,
        _, _, rfl, hvanished, .provided _ ⟨⟨rfl, ?_, ?_, hwriting.queueCall rfl, hgone.queueCall rfl⟩,
          fun _ => .inr (.inr (hcalled rfl)), fun hopen => Bool.noConfusion hopen⟩⟩
      · exact { h.standing with
          gone := rfl, left := fun _ => rfl, closing := fun _ => rfl, cancelCalled := fun _ => rfl
          closeAfterWriting := fun _ => rfl, state := hcalled, leaves := fun _ => .inr (hcalled rfl)
          departs := fun _ => .inr (List.mem_append_right _ (List.mem_singleton_self _)), leaving := fun _ => rfl }
      · have hmoved : Connecting { s with connection := some { c with state := .cancelled }, cancelled := true }
            { c with state := .cancelled } { raw with gone := true } :=
          ⟨(Nat.add_le_add_right (Nat.zero_le _) _).trans hconnecting, fun _ => .inr (.inr (Nat.le_succ 2))⟩
        exact hmoved.queueCall (by decide)
  · cases hmove

/-- The read that the connection has under way is the one the delegate waits for. -/
theorem Reading.complete {data : Option Data} (h : Reading s c raw) (hc : c.complete data = some c') :
    ∃ r minimum maximum held, raw.reads = [r] ∧ s.queue.filterMap Block.answer = [] ∧
      Awaits s raw r minimum maximum held ∧ Came c' minimum maximum data ∧
      raw.received.flatten ++ held ++ s.readDataPrefix.getD [] = c.received ∧
      c' = { c with reads := [], received := c.received ++ data.getD [], ended := c'.ended } := by
  unfold NWTCPConnection.complete at hc
  cases h with
  | asked r minimum maximum held h1 h2 h3 h4 h5 =>
    rw [h2] at hc
    dsimp only at hc
    split at hc
    · rename_i hgives
      cases hc
      refine ⟨r, minimum, maximum, held, h1, h3, h4, ⟨hgives, ?_⟩, h5, rfl⟩
      intro hopen
      obtain ⟨-, hfull⟩ := Bool.or_eq_false_iff.1 hopen
      rcases data with _ | d
      · cases hfull
      · exact ⟨d, rfl, by simpa using hfull⟩
    · cases hc
  | idle h1 h2 => rw [h2] at hc; cases hc
  | answered r minimum maximum held data h1 h2 => rw [h2] at hc; cases hc
  | lost h1 h2 => rw [h2] at hc; cases hc

theorem ended_of_complete {data : Option Data} (hc : c.complete data = some c') :
    (c.ended = true → c'.ended = true) ∧ (data = none → c'.ended = true) := by
  unfold NWTCPConnection.complete at hc
  split at hc
  · cases hc
  · split at hc
    · cases hc
      exact ⟨fun he => by rw [he, Bool.true_or], fun hdata => by rw [hdata]; exact Bool.or_true _⟩
    · cases hc

/-- Whether the stream has ended is noted, and all but the read stays as it was. -/
theorem Provided.complete {data : Option Data} (h : Provided s c raw) (hc : c.complete data = some c') :
    Lts.run (RawSocket.exchange RawSocket.answer) raw (noteEnd { s with connection := some c' }) =
        some { raw with ended := c'.ended } ∧
      Standing { s with connection := some c' } c' { raw with ended := c'.ended } ∧
      Connecting { s with connection := some c' } c' { raw with ended := c'.ended } ∧
      Writing { s with connection := some c' } c' { raw with ended := c'.ended } ∧
      Closes { s with connection := some c' } c' ∧
      Acknowledges { s with connection := some c' } c' { raw with ended := c'.ended } := by
  obtain ⟨-, -, -, -, -, -, -, -, -, heq⟩ := h.reading.complete hc
  have hended := (ended_of_complete hc).1
  constructor
  · rw [noteEnd, Option.any_some]
    split
    · rename_i he
      rw [he]; rfl
    · rename_i he
      have hraw : raw.ended = c'.ended := by
        rw [Bool.eq_false_iff.2 he, h.standing.ended]
        exact Bool.eq_false_iff.2 fun hce => he (hended hce)
      rw [← hraw]; rfl
  · rw [heq]
    exact ⟨{ h.standing with ended := rfl }, { h.connecting with }, { h.writing with }, h.closes, h.acknowledges⟩

theorem Provided.readCompleted {data : Option Data} (h : Provided s c raw) (hc : c.complete data = some c') :
    Keeps raw (NWTCPSocket.handle { s with connection := some c' } (.readCompleted data)) := by
  obtain ⟨r, minimum, maximum, held, hreads, hqueue, hawaits, hcame, hheld, heq⟩ := h.reading.complete hc
  obtain ⟨hnoted, hstanding, hconnecting, hwriting, hcloses, hacknowledges⟩ := h.complete hc
  have hreads' : c'.reads = [] := by rw [heq]
  have hreceived : c'.received = c.received ++ data.getD [] := by rw [heq]
  refine ⟨_, _, _, rfl, hnoted, ?_⟩
  unfold readCallback
  split
  · rename_i hcancelled
    refine .provided _ ⟨⟨rfl, hstanding, hconnecting, hwriting, ?_⟩, hcloses, hacknowledges⟩
    refine .lost (by rw [hreads]; exact List.cons_ne_nil _ _) hreads' hqueue ?_ (.inl hcancelled)
    rw [hreceived]
    exact h.reading.delivered.trans (List.prefix_append _ _)
  · refine .provided _ ⟨⟨rfl, hstanding.queueCall ?_, hconnecting.queueCall ?_, hwriting.queueCall rfl, ?_⟩,
      hcloses.queueCall _, hacknowledges.queueCall _⟩
    · intro heq; cases heq
    · intro heq; cases heq
    · refine .answered r minimum maximum held data hreads hreads' ?_ (hawaits.congr rfl rfl rfl rfl) hcame ?_
      · rw [NWTCPSocket.queueCall, List.filterMap_append, hqueue]; rfl
      · rw [hreceived]
        exact congrArg (· ++ data.getD []) hheld

theorem Provided.readFailed (h : Provided s c raw) (hc : c.complete none = some c') :
    Keeps raw (NWTCPSocket.handle { s with connection := some c' } .readFailed) := by
  obtain ⟨r, minimum, maximum, held, hreads, hqueue, -, -, -, heq⟩ := h.reading.complete hc
  obtain ⟨hnoted, hstanding, hconnecting, hwriting, hcloses, hacknowledges⟩ := h.complete hc
  have hfailed : Provided { s with connection := some c' } c' { raw with ended := c'.ended } := by
    refine ⟨⟨rfl, hstanding, hconnecting, hwriting, ?_⟩, hcloses, hacknowledges⟩
    refine .lost (by rw [hreads]; exact List.cons_ne_nil _ _) (by rw [heq]) hqueue ?_
      (.inr (.inl ((ended_of_complete hc).2 rfl)))
    rw [heq]
    exact h.reading.delivered.trans (List.prefix_append _ _)
  exact ⟨_, _, _, rfl, hnoted, .provided _ (hfailed.enqueue rfl rfl (by decide) (by decide))⟩

theorem Provided.writeCompleted {error : Bool} (h : Provided s c raw) (hc : c.acknowledge = some c') :
    Keeps raw (NWTCPSocket.handle { s with connection := some c' } (.writeCompleted error)) := by
  unfold NWTCPConnection.acknowledge at hc
  split at hc
  · rename_i hpos
    cases hc
    have hstanding : Standing { s with connection := some { c with writes := c.writes - 1 } }
        { c with writes := c.writes - 1 } raw := { h.standing with }
    have hconnecting : Connecting { s with connection := some { c with writes := c.writes - 1 } }
        { c with writes := c.writes - 1 } raw := { h.connecting with }
    have hreading : Reading { s with connection := some { c with writes := c.writes - 1 } }
        { c with writes := c.writes - 1 } raw := h.reading.congr ⟨rfl, rfl, rfl, rfl, id⟩ rfl rfl rfl rfl rfl rfl
    have hcloses : Closes { s with connection := some { c with writes := c.writes - 1 } }
        { c with writes := c.writes - 1 } := h.closes
    refine ⟨_, _, raw, rfl, rfl, .provided _ ⟨⟨rfl, hstanding.queueCall ?_, hconnecting.queueCall ?_,
      { h.writing with pending := ?_, acknowledged := ?_ }, hreading.queueCall rfl⟩, hcloses.queueCall _, ?_⟩⟩
    · intro heq; cases heq
    · intro heq; cases heq
    · have := h.writing.pending
      simp only [NWTCPSocket.queueCall, List.countP_append, List.countP_singleton, Block.isWritten, if_true]
      omega
    · have := h.writing.acknowledged
      simp only [NWTCPSocket.queueCall, List.countP_append, List.countP_singleton, Block.acknowledges, if_true]
      omega
    · intro hopen
      have := h.acknowledges hopen
      simp only [NWTCPSocket.queueCall, List.countP_append, List.countP_singleton, Block.acknowledges, if_true]
      omega
  · cases hc

end Connection

end NWTCPSocket

end VpnSs.NEKit
