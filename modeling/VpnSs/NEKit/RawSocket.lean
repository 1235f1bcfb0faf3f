/-
What the code asks of a raw TCP socket and what the socket owes it, by `RawTCPSocketProtocol` and
`RawTCPSocketDelegate`: reads that are answered in order, each with the data it asks for, writes that
are acknowledged, and a disconnection after which nothing is taken any more.
-/
import VpnSs.Lib.Lts
import VpnSs.Swift.Data

namespace VpnSs.NEKit

open VpnSs.Swift

/-! ## Reads -/

/-- `readData()`, `readDataTo(length:)` and `readDataTo(data:)`. -/
inductive ReadRequest where
  | data
  | length (n : Nat)
  | pattern (p : Data)
  deriving DecidableEq, Repr

/-- The data answers the read: some, as much as asked for, or up to a place of the pattern. -/
def ReadRequest.Answers : ReadRequest → Data → Prop
  | .data, d => d ≠ []
  | .length n, d => d.length = n
  | .pattern p, d => p <:+ d

instance ReadRequest.decidableAnswers : ∀ (r : ReadRequest) (d : Data), Decidable (r.Answers d)
  | .data, d => inferInstanceAs (Decidable (d ≠ []))
  | .length n, d => inferInstanceAs (Decidable (d.length = n))
  | .pattern p, d => inferInstanceAs (Decidable (p <:+ d))

/-! ## Sockets -/

/-- A raw socket: whether it has a delegate to tell, what it was asked to connect to and whether that is
still going on, the reads and the number of writes not answered yet, all the bytes handed to it, the data
it has delivered, and whether it was told to disconnect. `gone` tells that its connection is cancelled
already, so that `disconnect` tells the delegate at once, `ended` that its stream has ended, and `held` is
what came behind the pattern that was read to last and goes before the next data. -/
structure RawSocket where
  delegate : Bool
  target : Option (Text × Int)
  connecting : Bool
  reads : List ReadRequest
  writes : Nat
  sent : Data
  received : List Data
  closing : Bool
  gone : Bool
  ended : Bool
  held : Option Data
  deriving DecidableEq, Repr

namespace RawSocket

def new : RawSocket :=
  { delegate := false, target := none, connecting := false, reads := [], writes := 0, sent := [], received := [],
    closing := false, gone := false, ended := false, held := none }

/-- A socket that was accepted, with its delegate. -/
def accepted : RawSocket := { new with delegate := true }

def connectTo (s : RawSocket) (host : Text) (port : Int) : RawSocket :=
  { s with target := some (host, port), connecting := true }

def read (s : RawSocket) (r : ReadRequest) : RawSocket := if s.closing then s else { s with reads := s.reads ++ [r] }

def write (s : RawSocket) (d : Data) : RawSocket :=
  if s.closing then s else { s with writes := s.writes + 1, sent := s.sent ++ d }

def disconnect (s : RawSocket) : RawSocket := { s with closing := true }

def forceDisconnect (s : RawSocket) : RawSocket := { s with closing := true }

/-! ## What a socket may tell its delegate -/

/-- It is connected. -/
def connected (s : RawSocket) : Option RawSocket :=
  if s.delegate && s.connecting then some { s with connecting := false } else none

/-- It answers its first read. -/
def deliver (s : RawSocket) (d : Data) : Option RawSocket :=
  match s.reads with
  | [] => none
  | r :: reads =>
    if s.delegate && r.Answers d then some { s with reads, received := s.received ++ [d] } else none

/-- It acknowledges a write. -/
def acknowledge (s : RawSocket) : Option RawSocket :=
  if s.delegate && decide (0 < s.writes) then some { s with writes := s.writes - 1 } else none

/-- It is disconnected, which is the last it tells. -/
def disconnected (s : RawSocket) : Option RawSocket := if s.delegate then some { s with delegate := false } else none

/-- Its connection is cancelled. -/
def vanished (s : RawSocket) : Option RawSocket := if s.delegate then some { s with gone := true } else none

/-- It disconnects itself, which it tells at once when its connection is cancelled already. -/
def failed (s : RawSocket) : Option RawSocket := if s.delegate && s.gone then some s.disconnect else none

theorem connected_eq_some {s s' : RawSocket} :
    s.connected = some s' ↔ s.delegate = true ∧ s.connecting = true ∧ s' = { s with connecting := false } := by
  unfold connected
  cases s.delegate <;> cases s.connecting <;> simp [eq_comm]

theorem deliver_eq_some {s s' : RawSocket} {d : Data} :
    s.deliver d = some s' ↔ s.delegate = true ∧ ∃ r reads, s.reads = r :: reads ∧ r.Answers d ∧
      s' = { s with reads, received := s.received ++ [d] } := by
  unfold deliver
  cases s.reads with
  | nil => simp
  | cons r reads => cases s.delegate <;> simp [eq_comm]

theorem acknowledge_eq_some {s s' : RawSocket} :
    s.acknowledge = some s' ↔ s.delegate = true ∧ ∃ n, s.writes = n + 1 ∧ s' = { s with writes := n } := by
  unfold acknowledge
  cases s.writes with
  | zero => simp
  | succ n => cases s.delegate <;> simp [eq_comm]

theorem disconnected_eq_some {s s' : RawSocket} :
    s.disconnected = some s' ↔ s.delegate = true ∧ s' = { s with delegate := false } := by
  unfold disconnected
  cases s.delegate <;> simp [eq_comm]

theorem vanished_eq_some {s s' : RawSocket} :
    s.vanished = some s' ↔ s.delegate = true ∧ s' = { s with gone := true } := by
  unfold vanished
  cases s.delegate <;> simp [eq_comm]

theorem failed_eq_some {s s' : RawSocket} :
    s.failed = some s' ↔ s.delegate = true ∧ s.gone = true ∧ s' = { s with closing := true } := by
  unfold failed disconnect
  cases hd : s.delegate <;> cases hg : s.gone <;> simp [eq_comm]

/-! ## What was held over -/

/-- The data answer the read behind what was held over: with some that came for it, as much as asked for unless
the stream has ended, or up to a place of the pattern. `held` is what is held over behind them. -/
def Answered (s : RawSocket) (d : Data) (held : Option Data) : ReadRequest → Prop
  | .data => s.held.getD [] <+: d ∧ held = none ∧
      ((s.held.getD []).length < d.length ∨ s.held ≠ none ∧ s.ended = true)
  | .length n => s.held.getD [] <+: d ∧ held = none ∧ d.length ≤ (s.held.getD []).length + n ∧
      (d.length = (s.held.getD []).length + n ∨ s.ended = true)
  | .pattern p => p <:+ d

instance decidableAnswered (s : RawSocket) (d : Data) (held : Option Data) : ∀ r, Decidable (s.Answered d held r)
  | .data => inferInstanceAs (Decidable (_ ∧ _ ∧ (_ ∨ _ ∧ _)))
  | .length _ => inferInstanceAs (Decidable (_ ∧ _ ∧ _ ∧ (_ ∨ _)))
  | .pattern _ => inferInstanceAs (Decidable (_ <:+ _))

/-- It answers its first read behind what it held over, and holds over what came behind the answer. -/
def answer (s : RawSocket) (d : Data) (held : Option Data) : Option RawSocket :=
  match s.reads with
  | [] => none
  | r :: reads =>
    if s.delegate && s.Answered d held r then some { s with reads, received := s.received ++ [d], held } else none

theorem answer_eq_some {s s' : RawSocket} {d : Data} {held : Option Data} :
    s.answer d held = some s' ↔ s.delegate = true ∧ ∃ r reads, s.reads = r :: reads ∧ s.Answered d held r ∧
      s' = { s with reads, received := s.received ++ [d], held } := by
  unfold answer
  cases s.reads with
  | nil => simp
  | cons r reads => cases s.delegate <;> simp [eq_comm]

/-- Where nothing was held over, a read for any data is answered as one. -/
theorem deliver_of_answer {s s' : RawSocket} {d : Data} {held : Option Data} (h : s.answer d held = some s')
    (hheld : s.held = none) (hdata : ∀ r ∈ s.reads, r = .data) : s.deliver d = some s' ∧ s'.held = none := by
  obtain ⟨hd, r, reads, hreads, hanswered, rfl⟩ := answer_eq_some.1 h
  obtain rfl : r = .data := hdata r (by rw [hreads]; exact List.mem_cons_self)
  obtain ⟨-, rfl, hsome⟩ := hanswered
  rw [hheld] at hsome
  have hne : d ≠ [] := by
    rintro rfl
    simp at hsome
  exact ⟨deliver_eq_some.2 ⟨hd, .data, reads, hreads, hne, by rw [← hheld]⟩, rfl⟩

/-! ## All that passes between a socket and its delegate -/

/-- What the delegate asks of the socket and what the socket tells it. `atOnce` is whether it is told of the
disconnection before the call returns, `held` what is held over behind the data. -/
inductive Exchange where
  | read (r : ReadRequest)
  | write (d : Data)
  | disconnect (atOnce : Bool)
  | forceDisconnect (atOnce : Bool)
  | didConnect
  | didRead (d : Data) (held : Option Data)
  | didWrite
  | didDisconnect
  | gone
  | failed
  | ended
  deriving DecidableEq, Repr

/-- The socket after an exchange; none where the socket may not behave so. `answer` is how it may answer a
read. -/
def exchange (answer : RawSocket → Data → Option Data → Option RawSocket) (s : RawSocket) :
    Exchange → Option RawSocket
  | .read r => some (s.read r)
  | .write d => some (s.write d)
  | .disconnect atOnce => if atOnce = (s.gone && s.delegate) then some s.disconnect else none
  | .forceDisconnect atOnce => if atOnce = (s.gone && s.delegate) then some s.forceDisconnect else none
  | .didConnect => s.connected
  | .didRead d held => answer s d held
  | .didWrite => s.acknowledge
  | .didDisconnect => s.disconnected
  | .gone => s.vanished
  | .failed => s.failed
  | .ended => some { s with ended := true }

/-- A socket with its delegate as it begins to connect. -/
def opened (host : Text) (port : Int) : RawSocket := { new with delegate := true }.connectTo host port

theorem read_of_not_closing {s : RawSocket} (h : s.closing = false) (r : ReadRequest) :
    s.read r = { s with reads := s.reads ++ [r] } := by
  rw [read, h]; rfl

theorem write_of_not_closing {s : RawSocket} (h : s.closing = false) (d : Data) :
    s.write d = { s with writes := s.writes + 1, sent := s.sent ++ d } := by
  rw [write, h]; rfl

/-- Nothing was held over, and the reads are for any data. -/
def ReadsData (s : RawSocket) : Prop := s.held = none ∧ ∀ r ∈ s.reads, r = .data

/-- Where every read is for any data, the socket answers as if it never held anything over. -/
theorem exchange_deliver {s s' : RawSocket} {e : Exchange} (h : s.ReadsData) (hread : ∀ r, e = .read r → r = .data)
    (he : s.exchange answer e = some s') : s.exchange (fun s d _ => s.deliver d) e = some s' ∧ s'.ReadsData := by
  cases e with
  | read r =>
    cases he
    refine ⟨rfl, ?_⟩
    unfold read
    split
    · exact h
    · refine ⟨h.1, fun r' hr' => ?_⟩
      rcases List.mem_append.1 hr' with hr' | hr'
      · exact h.2 r' hr'
      · rw [List.mem_singleton.1 hr']
        exact hread r rfl
  | write d =>
    cases he
    refine ⟨rfl, ?_⟩
    unfold write
    split
    · exact h
    · exact h
  | disconnect atOnce =>
    refine ⟨he, ?_⟩
    rw [exchange, Option.ite_none_right_eq_some] at he
    cases he.2
    exact h
  | forceDisconnect atOnce =>
    refine ⟨he, ?_⟩
    rw [exchange, Option.ite_none_right_eq_some] at he
    cases he.2
    exact h
  | didConnect =>
    obtain ⟨-, -, rfl⟩ := connected_eq_some.1 he
    exact ⟨he, h⟩
  | didRead d held =>
    obtain ⟨hdeliver, hheld⟩ := deliver_of_answer he h.1 h.2
    obtain ⟨-, r, reads, hreads, -, rfl⟩ := answer_eq_some.1 he
    refine ⟨hdeliver, hheld, fun r' hr' => h.2 r' ?_⟩
    rw [hreads]
    exact List.mem_cons_of_mem _ hr'
  | didWrite =>
    obtain ⟨-, n, -, rfl⟩ := acknowledge_eq_some.1 he
    exact ⟨he, h⟩
  | didDisconnect =>
    obtain ⟨-, rfl⟩ := disconnected_eq_some.1 he
    exact ⟨he, h⟩
  | gone =>
    obtain ⟨-, rfl⟩ := vanished_eq_some.1 he
    exact ⟨he, h⟩
  | failed =>
    obtain ⟨-, -, rfl⟩ := failed_eq_some.1 he
    exact ⟨he, h⟩
  | ended =>
    cases he
    exact ⟨rfl, h⟩

theorem run_exchange_deliver {s s' : RawSocket} {es : List Exchange} (h : s.ReadsData)
    (hread : ∀ r, .read r ∈ es → r = .data) (hrun : Lts.run (exchange answer) s es = some s') :
    Lts.run (exchange fun s d _ => s.deliver d) s es = some s' := by
  induction es generalizing s with
  | nil => exact hrun
  | cons e es ih =>
    obtain ⟨t, he, hrest⟩ := Lts.run_cons_some.1 hrun
    obtain ⟨hdeliver, ht⟩ := exchange_deliver h (fun r hr => hread r (hr ▸ List.mem_cons_self)) he
    exact Lts.run_cons_some.2 ⟨t, hdeliver, ih ht (fun r hr => hread r (List.mem_cons_of_mem _ hr)) hrest⟩

end RawSocket

end VpnSs.NEKit
