/-
How a connection ends. Whatever closes it, from then on nothing is sent to either end any more, both raw
sockets have been told to disconnect or are disconnected, and the proxy server is told once, when both are.
-/
import VpnSs.NEKit.Relay

namespace VpnSs.NEKit

open VpnSs.Swift HTTPStreamScanner

namespace Connection

variable {Cryptor : Type} {env : Environment Cryptor}

/-! ## Steps that move no data -/

/-- What is under way from the client to the server: a read of the one or a write of the other. -/
def upward (c : Connection Cryptor) : Nat := c.client.reads.length + c.server.writes

/-- What is under way from the server to the client; a read may be put off. -/
def downward (c : Connection Cryptor) : Nat := c.server.reads.length + c.client.writes + c.delayedReads

/-- Nothing is sent, received or asked of the resolver, and nothing more is under way. -/
structure Still (c c' : Connection Cryptor) : Prop where
  link : c'.link = c.link
  target : c'.server.target = c.server.target
  server_sent : c'.server.sent = c.server.sent
  server_received : c'.server.received = c.server.received
  client_sent : c'.client.sent = c.client.sent
  client_received : c'.client.received = c.client.received
  client_delegate : c'.client.delegate = c.client.delegate
  resolving : c'.resolving = none ∨ c'.resolving = c.resolving
  upward : c'.upward ≤ c.upward
  downward : c'.downward ≤ c.downward

theorem Still.refl (c : Connection Cryptor) : Still c c :=
  ⟨rfl, rfl, rfl, rfl, rfl, rfl, rfl, .inr rfl, Nat.le_refl _, Nat.le_refl _⟩

theorem Still.trans {c d e : Connection Cryptor} (h : Still c d) (h' : Still d e) : Still c e :=
  ⟨h'.link.trans h.link, h'.target.trans h.target, h'.server_sent.trans h.server_sent,
    h'.server_received.trans h.server_received, h'.client_sent.trans h.client_sent,
    h'.client_received.trans h.client_received, h'.client_delegate.trans h.client_delegate,
    h'.resolving.elim .inl fun heq => h.resolving.imp heq.trans heq.trans,
    h'.upward.trans h.upward, h'.downward.trans h.downward⟩

theorem Flow.still {c c' : Connection Cryptor} (h : Flow env c) (hs : Still c c') : Flow env c' :=
  h.congr hs.link hs.target hs.server_sent hs.server_received
    (show c'.client.received = c.client.received ++ [] by rw [hs.client_received, List.append_nil]) hs.client_sent

theorem Level.still {c c' : Connection Cryptor} (h : Level env c) (hs : Still c c') : Level env c' := by
  obtain ⟨plain, header, hlinked, hfirst, hsent⟩ := h
  refine ⟨plain, header, ?_, ?_, ?_⟩
  · rw [hs.client_received]
    exact hlinked.congr hs.link hs.target hs.server_sent hs.server_received
      (show c'.client.received = c.client.received ++ [] by rw [hs.client_received, List.append_nil])
  · rw [hs.client_received]; exact hfirst
  · rw [hs.client_sent]; exact hsent

theorem still_checkStatus (c : Connection Cryptor) : Still c c.checkStatus := by
  unfold checkStatus
  split
  · exact ⟨rfl, rfl, rfl, rfl, rfl, rfl, rfl, .inr rfl, Nat.le_refl _, Nat.le_refl _⟩
  · exact .refl c

theorem still_proxyDisconnect (c : Connection Cryptor) : Still c c.proxyDisconnect := by
  unfold proxyDisconnect
  split
  · exact .refl c
  · exact ⟨rfl, rfl, rfl, rfl, rfl, rfl, rfl, .inr rfl, Nat.le_refl _, Nat.le_refl _⟩

theorem still_closeProxy (c : Connection Cryptor) : Still c (c.closeProxy proxyDisconnect) := by
  unfold closeProxy
  split
  · exact .refl c
  · exact still_proxyDisconnect c

theorem still_closeAdapter (c : Connection Cryptor) : Still c (c.closeAdapter RawSocket.disconnect) := by
  unfold closeAdapter
  split
  · exact .refl c
  · rename_i a ha
    split
    · exact .refl c
    · have hadapter (status : SocketStatus) : Still c { c with
          adapterSocket := some { a with status, cancelled := true }, server := c.server.disconnect } :=
        ⟨(link_of_adapterSocket ha).symm, rfl, rfl, rfl, rfl, rfl, rfl, .inr rfl, Nat.le_refl _, Nat.le_refl _⟩
      unfold adapterDisconnect
      dsimp only
      split
      · exact (hadapter .closed).trans (still_checkStatus _)
      · exact hadapter .disconnecting

theorem still_close (c : Connection Cryptor) : Still c c.close := by
  unfold close
  split
  · exact .refl c
  · have hbegin : Still c { c with cancelled := true, status := .closing } :=
      ⟨rfl, rfl, rfl, rfl, rfl, rfl, rfl, .inr rfl, Nat.le_refl _, Nat.le_refl _⟩
    exact (hbegin.trans (still_closeProxy _)).trans (still_closeAdapter _)

theorem still_didDisconnect (c : Connection Cryptor) : Still c c.didDisconnect := by
  unfold didDisconnect
  split
  · exact still_checkStatus c
  · exact (still_close c).trans (still_checkStatus _)

/-- The raw sockets take both ways to disconnect alike. -/
theorem forceClose_eq_close (c : Connection Cryptor) : c.forceClose = c.close := rfl

/-! ## A cancelled connection -/

/-- A cancelled tunnel: its status, what the proxy server was told, and for each of its raw sockets whether
it is still to disconnect or has done so. -/
structure Cancelling (c : Connection Cryptor) : Prop where
  cancelled : c.cancelled = true
  status : c.status = if c.delegate then .closing else .closed
  closedCalls : c.closedCalls = (!c.delegate).toNat
  client_open : c.client.delegate = true →
    c.proxySocket.cancelled = true ∧ c.proxySocket.status = .disconnecting ∧ c.client.closing = true
  client_done : c.client.delegate = false → c.proxySocket.status = .closed
  server_open : c.server.delegate = true → ∃ a, c.adapterSocket = some a ∧ c.server.closing = true
  server_done : c.server.delegate = false → ∀ a, c.adapterSocket = some a → a.status = .closed

/-- A cancelled tunnel that has told the proxy server if it is closed. -/
structure Cancelled (c : Connection Cryptor) : Prop extends Cancelling c where
  closed : c.isClosed = true → c.delegate = false

theorem Cancelling.checkStatus {c : Connection Cryptor} (h : Cancelling c) : Cancelled c.checkStatus := by
  unfold Connection.checkStatus
  split
  · have hcalls : c.closedCalls + c.delegate.toNat = 1 := by
      rw [h.closedCalls]
      cases c.delegate <;> rfl
    exact ⟨⟨h.cancelled, rfl, hcalls, h.client_open, h.client_done, h.server_open, h.server_done⟩, fun _ => rfl⟩
  · rename_i hopen
    exact ⟨h, fun hclosed => absurd hclosed hopen⟩

/-- By the time both raw sockets have reported to be disconnected, the proxy server has been told. -/
theorem Cancelled.closedCalls_of_done {c : Connection Cryptor} (h : Cancelled c) (hclient : c.client.delegate = false)
    (hserver : c.server.delegate = false) : c.closedCalls = 1 := by
  have hclosed : c.isClosed = true := by
    rw [isClosed, h.client_done hclient]
    cases ha : c.adapterSocket with
    | none => rfl
    | some a => rw [Option.all_some, h.server_done hserver a ha]; rfl
  rw [h.closedCalls, h.closed hclosed]
  rfl

/-! ## Closing -/

/-- A tunnel that has cancelled itself, before it disconnects its adapter socket. -/
structure Halfway (c : Connection Cryptor) : Prop where
  cancelled : c.cancelled = true
  status : c.status = .closing
  delegate : c.delegate = true
  closedCalls : c.closedCalls = 0
  client_open : c.client.delegate = true →
    c.proxySocket.cancelled = true ∧ c.proxySocket.status = .disconnecting ∧ c.client.closing = true
  client_done : c.client.delegate = false → c.proxySocket.status = .closed
  server_open : c.server.delegate = true → ∃ a, c.adapterSocket = some a ∧
    (a.status.isDisconnected = true → c.server.closing = true)
  server_done : c.server.delegate = false → ∀ a, c.adapterSocket = some a → a.status = .closed

/-- A tunnel that is not cancelled, as `close` finds it: each raw socket is there, or has disconnected. -/
structure Closable (c : Connection Cryptor) : Prop where
  cancelled : c.cancelled = false
  delegate : c.delegate = true
  closedCalls : c.closedCalls = 0
  client_open : c.client.delegate = true → c.proxySocket.status.isDisconnected = false ∧
    (c.proxySocket.cancelled = true → c.proxySocket.status = .disconnecting ∧ c.client.closing = true)
  client_done : c.client.delegate = false → c.proxySocket.status = .closed
  server_open : c.server.delegate = true → ∃ a, c.adapterSocket = some a ∧
    (a.status.isDisconnected = true → c.server.closing = true)
  server_done : c.server.delegate = false → ∀ a, c.adapterSocket = some a → a.status = .closed

theorem Closable.closeProxy {c : Connection Cryptor} (h : Closable c) :
    Halfway (Connection.closeProxy proxyDisconnect { c with cancelled := true, status := .closing }) := by
  unfold Connection.closeProxy
  split
  · rename_i hdisc
    have hgone : c.client.delegate = true → False := by
      intro hd
      have hstatus := (h.client_open hd).1
      dsimp only at hdisc
      rw [hdisc] at hstatus
      cases hstatus
    exact ⟨rfl, rfl, h.delegate, h.closedCalls, fun hd => (hgone hd).elim, h.client_done, h.server_open, h.server_done⟩
  · rename_i hconn
    have hthere : c.client.delegate = true := by
      cases hd : c.client.delegate with
      | true => rfl
      | false =>
        dsimp only at hconn
        rw [h.client_done hd] at hconn
        exact absurd rfl hconn
    unfold proxyDisconnect
    split
    · rename_i hcan
      exact ⟨rfl, rfl, h.delegate, h.closedCalls, fun hd => ⟨hcan, (h.client_open hd).2 hcan⟩, h.client_done,
        h.server_open, h.server_done⟩
    · refine ⟨rfl, rfl, h.delegate, h.closedCalls, fun _ => ⟨rfl, rfl, rfl⟩, fun hd => ?_, h.server_open, h.server_done⟩
      rw [RawSocket.disconnect, hthere] at hd
      cases hd

theorem Halfway.closeAdapter {c : Connection Cryptor} (h : Halfway c) :
    Cancelling (c.closeAdapter RawSocket.disconnect) := by
  have hstatus : c.status = if c.delegate then .closing else .closed := by rw [h.delegate]; exact h.status
  have hcalls : c.closedCalls = (!c.delegate).toNat := by rw [h.delegate]; exact h.closedCalls
  have hgone (hd : c.server.delegate = false) : Cancelling c := by
    refine ⟨h.cancelled, hstatus, hcalls, h.client_open, h.client_done, fun ht => ?_, h.server_done⟩
    rw [hd] at ht
    cases ht
  unfold Connection.closeAdapter
  cases hd : c.server.delegate with
  | false =>
    split
    · exact hgone hd
    · rename_i a ha
      rw [if_pos (by rw [h.server_done hd a ha]; rfl)]
      exact hgone hd
  | true =>
    obtain ⟨a, ha, hclosing⟩ := h.server_open hd
    rw [ha]
    dsimp only
    split
    · -- an adapter that has told so is not told again
      rename_i hdisc
      refine ⟨h.cancelled, hstatus, hcalls, h.client_open, h.client_done, fun _ => ⟨a, ha, hclosing hdisc⟩, fun hf => ?_⟩
      rw [hd] at hf
      cases hf
    · rw [adapterDisconnect]
      -- at once or later, the adapter is cancelled and its raw socket told
      have hgo (status : SocketStatus) : Cancelling { c with
          adapterSocket := some { a with status, cancelled := true }, server := c.server.disconnect } := by
        refine ⟨h.cancelled, hstatus, hcalls, h.client_open, h.client_done, fun _ => ⟨_, rfl, rfl⟩, fun hf => ?_⟩
        rw [RawSocket.disconnect, hd] at hf
        cases hf
      split
      · exact (hgo .closed).checkStatus.toCancelling
      · exact hgo .disconnecting

theorem Closable.close {c : Connection Cryptor} (h : Closable c) : Cancelling c.close := by
  rw [Connection.close, h.cancelled, if_neg Bool.false_ne_true]
  exact h.closeProxy.closeAdapter

/-- A tunnel that learns that one of its sockets has disconnected. -/
theorem Closable.didDisconnect {c : Connection Cryptor} (h : Closable c) : Cancelled c.didDisconnect := by
  rw [Connection.didDisconnect, h.cancelled, if_neg Bool.false_ne_true]
  exact h.close.checkStatus

/-- A tunnel that is closed by the proxy server while the client is there. -/
theorem Closable.forceClose {c : Connection Cryptor} (h : Closable c) (hc : c.client.delegate = true) :
    Cancelled c.forceClose := by
  rw [forceClose_eq_close]
  refine ⟨h.close, fun hclosed => ?_⟩
  have hstatus := (h.close.client_open ((still_close c).client_delegate.trans hc)).2.1
  rw [isClosed, hstatus] at hclosed
  cases hclosed

/-! ## After the cancellation -/

theorem proxyReady_of_cancelled {c : Connection Cryptor} (h : c.cancelled = true) : c.proxyReady env = some c := by
  rw [proxyReady, h]; rfl

theorem adapterReady_of_cancelled {c : Connection Cryptor} (h : c.cancelled = true) : c.adapterReady env = some c := by
  rw [adapterReady, h]; rfl

theorem openAdapter_of_cancelled {c : Connection Cryptor} (h : c.cancelled = true) (session : ConnectSession) :
    c.openAdapter env session = some c := by
  rw [openAdapter, h]; rfl

theorem didReceive_of_cancelled {c : Connection Cryptor} (h : c.cancelled = true) (session : ConnectSession) :
    c.didReceive env session = some c := by
  rw [didReceive, h]; rfl

theorem didReadFromProxy_of_cancelled {c : Connection Cryptor} (h : c.cancelled = true) (d : Data) :
    c.didReadFromProxy env d = some c := by
  rw [didReadFromProxy, h]; rfl

theorem didReadFromAdapter_of_cancelled {c : Connection Cryptor} (h : c.cancelled = true) (d : Data) :
    c.didReadFromAdapter d = c := by
  rw [didReadFromAdapter, h]; rfl

theorem didWriteByProxy_of_cancelled {c : Connection Cryptor} (h : c.cancelled = true) : c.didWriteByProxy = c := by
  rw [didWriteByProxy, h]; rfl

theorem adapterDidWrite_of_cancelled {c : Connection Cryptor} (h : c.cancelled = true) :
    c.adapterDidWrite env = some c := by
  have hwrite : c.didWriteByAdapter env = some c := by rw [didWriteByAdapter, h]; rfl
  unfold adapterDidWrite
  rw [hwrite]
  split
  · rfl
  · split
    · rfl
    · split <;> rfl

theorem close_of_cancelled {c : Connection Cryptor} (h : c.cancelled = true) : c.close = c := by
  rw [close, h]; rfl

theorem didDisconnect_of_cancelled {c : Connection Cryptor} (h : c.cancelled = true) :
    c.didDisconnect = c.checkStatus := by
  rw [didDisconnect, h]; rfl

theorem proxyDisconnect_of_cancelled {c : Connection Cryptor} (h : c.proxySocket.cancelled = true) :
    c.proxyDisconnect = c := by
  rw [proxyDisconnect, h]; rfl

/-- A read of the client reaches the scanner and the statuses of the proxy socket, and no further. -/
theorem proxyDidRead_of_cancelled {c c' : Connection Cryptor} {d : Data} (h : c.cancelled = true)
    (hp : c.proxySocket.cancelled = true) (hr : c.proxyDidRead env d = some c') :
    ∃ proxySocket, c' = { c with proxySocket } ∧ proxySocket.cancelled = true ∧
      proxySocket.status = c.proxySocket.status := by
  unfold proxyDidRead at hr
  dsimp only at hr
  split at hr
  · cases hr
  · rename_i scanner e hin
    rw [proxyDisconnect_of_cancelled (by exact hp)] at hr
    cases hr
    exact ⟨_, rfl, hp, rfl⟩
  · rename_i scanner result hin
    split at hr
    · split at hr
      · cases hr
      · split at hr
        · rw [didReceive_of_cancelled (by exact h)] at hr
          cases hr
          exact ⟨_, rfl, hp, rfl⟩
        · cases hr
    · split at hr
      · cases hr
      · rw [didReadFromProxy_of_cancelled (by exact h)] at hr
        cases hr
        exact ⟨_, rfl, hp, rfl⟩
    · rw [didReadFromProxy_of_cancelled (by exact h)] at hr
      cases hr
      exact ⟨_, rfl, hp, rfl⟩
    · cases hr
      exact ⟨_, rfl, hp, rfl⟩

/-- The data the server sent is read while nothing of it is given on. -/
theorem Flow.serverRead {c : Connection Cryptor} {a : AdapterSocket Cryptor} (h : Flow env c)
    (ha : c.adapterSocket = some a) {reads : List ReadRequest} {d : Data} :
    Flow env { c with
      adapterSocket := some { a with kind := (a.kind.input env.lib d).1 }
      server := { c.server with reads, received := c.server.received ++ [d] } } := by
  obtain ⟨ws, plain, hlinked, hws, hplain⟩ := h
  refine ⟨ws, plain ++ (a.kind.input env.lib d).2, ?_, hws, ?_⟩
  · exact hlinked.change ha rfl rfl (List.append_nil c.client.received).symm fun factory hc => hc.input d
  · rcases hplain with hnil | ⟨header, hfirst, hpre⟩
    · exact .inl hnil
    · refine .inr ⟨header, hfirst, hpre.trans ?_⟩
      rw [← List.append_assoc]
      exact List.prefix_append _ _

/-- What the end of a connection depends on. -/
def control (c : Connection Cryptor) :=
  ((c.cancelled, c.status, c.delegate, c.closedCalls),
    (c.client.delegate, c.client.closing, c.proxySocket.cancelled, c.proxySocket.status),
    (c.server.delegate, c.server.closing, c.adapterSocket.map fun a => (a.cancelled, a.status)))

theorem isClosed_eq_control (c : Connection Cryptor) :
    c.isClosed = (c.control.2.1.2.2.2.isDisconnected && c.control.2.2.2.2.all fun a => a.2.isDisconnected) := by
  unfold isClosed control
  cases c.adapterSocket <;> rfl

theorem Cancelled.congr {c c' : Connection Cryptor} (h : Cancelled c) (hc : c'.control = c.control) : Cancelled c' := by
  have hclosed : c'.isClosed = c.isClosed := by rw [isClosed_eq_control, hc, ← isClosed_eq_control]
  simp only [control, Prod.mk.injEq] at hc
  obtain ⟨⟨hcan, hstatus, hdel, hcalls⟩, ⟨hcd, hcc, hpc, hps⟩, hsd, hsc, ha⟩ := hc
  refine ⟨⟨hcan.trans h.cancelled, ?_, ?_, ?_, ?_, ?_, ?_⟩, ?_⟩
  · rw [hstatus, hdel]; exact h.status
  · rw [hcalls, hdel]; exact h.closedCalls
  · rw [hcd, hpc, hps, hcc]; exact h.client_open
  · rw [hcd, hps]; exact h.client_done
  · rw [hsd, hsc]
    intro hd
    obtain ⟨a, hsome, hclosing⟩ := h.server_open hd
    rw [hsome] at ha
    obtain ⟨a', hsome', -⟩ := Option.map_eq_some_iff.1 ha
    exact ⟨a', hsome', hclosing⟩
  · rw [hsd]
    intro hd a' hsome'
    rw [hsome', eq_comm] at ha
    obtain ⟨a, hsome, heq⟩ := Option.map_eq_some_iff.1 ha
    simp only [Prod.mk.injEq] at heq
    exact heq.2.symm.trans (h.server_done hd a hsome)
  · rw [hclosed, hdel]; exact h.closed

/-- A step after the cancellation: nothing is sent any more to either end or asked of the resolver, and nothing
more is under way. -/
structure Ebb (env : Environment Cryptor) (c c' : Connection Cryptor) : Prop where
  cancelled : Cancelled c'
  delegate : c.delegate = false → c'.delegate = false
  flow : Flow env c'
  client_sent : c'.client.sent = c.client.sent
  server_sent : c'.server.sent = c.server.sent
  resolving : c'.resolving = none ∨ c'.resolving = c.resolving
  upward : c'.upward ≤ c.upward
  downward : c'.downward ≤ c.downward

theorem Still.ebb {c c' : Connection Cryptor} (hs : Still c c') (hflow : Flow env c) (hc : Cancelled c')
    (hdelegate : c.delegate = false → c'.delegate = false) : Ebb env c c' :=
  ⟨hc, hdelegate, hflow.still hs, hs.client_sent, hs.server_sent, hs.resolving, hs.upward, hs.downward⟩

theorem delegate_checkStatus {c : Connection Cryptor} (h : c.delegate = false) : c.checkStatus.delegate = false := by
  unfold checkStatus
  split
  · rfl
  · exact h

theorem adapterReadData_eq (c : Connection Cryptor) : ∃ reads, c.adapterReadData = { c with server := { c.server with reads } } ∧
    reads.length ≤ c.server.reads.length + 1 := by
  unfold adapterReadData
  split
  · exact ⟨c.server.reads, rfl, by omega⟩
  · split
    · exact ⟨c.server.reads, rfl, by omega⟩
    · unfold RawSocket.read
      split
      · exact ⟨c.server.reads, rfl, by omega⟩
      · exact ⟨_, rfl, by simp⟩

section Steps

variable {c c' : Connection Cryptor} {d : Data} {ipv4Result : Option (List Text)} (h : Cancelled c)
  (hflow : Flow env c)
include h hflow

/-- The proxy socket still scans what it reads. -/
theorem Cancelled.clientRead (hs : step env c (.clientRead d) = some c') : Ebb env c c' := by
  obtain ⟨c₁, hhappen, hs⟩ := Option.bind_eq_some_iff.1 hs
  obtain ⟨client, hd, rfl⟩ := Option.map_eq_some_iff.1 hhappen
  obtain ⟨hthere, r, reads, hreads, -, rfl⟩ := RawSocket.deliver_eq_some.1 hd
  obtain ⟨hp, -, -⟩ := h.client_open hthere
  obtain ⟨proxySocket, rfl, hcan, hstatus⟩ := proxyDidRead_of_cancelled (by exact h.cancelled) (by exact hp) hs
  refine ⟨h.congr ?_, id, hflow.congr rfl rfl rfl rfl rfl rfl, rfl, rfl, .inr rfl, ?_, Nat.le_refl _⟩
  · simp only [control, hcan, hp, hstatus]
  · simp only [Connection.upward, hreads, List.length_cons]
    omega

theorem Cancelled.clientWrote (hs : step env c .clientWrote = some c') : Ebb env c c' := by
  obtain ⟨c₁, hhappen, hs⟩ := Option.bind_eq_some_iff.1 hs
  obtain ⟨client, hd, rfl⟩ := Option.map_eq_some_iff.1 hhappen
  obtain ⟨-, n, hwrites, rfl⟩ := RawSocket.acknowledge_eq_some.1 hd
  have hdone : ∃ writeStatus, c' = { c with
      proxySocket := { c.proxySocket with writeStatus }, client := { c.client with writes := n } } := by
    simp only [handle, proxyDidWrite] at hs
    split at hs
    · rw [proxyReady_of_cancelled (by exact h.cancelled)] at hs
      exact ⟨_, (Option.some.inj hs).symm⟩
    · rw [didWriteByProxy_of_cancelled (by exact h.cancelled)] at hs
      exact ⟨c.proxySocket.writeStatus, (Option.some.inj hs).symm⟩
  obtain ⟨writeStatus, rfl⟩ := hdone
  have hstill : Still c { c with
      proxySocket := { c.proxySocket with writeStatus }, client := { c.client with writes := n } } :=
    ⟨rfl, rfl, rfl, rfl, rfl, rfl, rfl, .inr rfl, Nat.le_refl _, by simp only [Connection.downward, hwrites]; omega⟩
  exact hstill.ebb hflow (h.congr rfl) id

theorem Cancelled.clientDisconnected (hs : step env c .clientDisconnected = some c') : Ebb env c c' := by
  obtain ⟨c₁, hhappen, hs⟩ := Option.bind_eq_some_iff.1 hs
  obtain ⟨client, hd, rfl⟩ := Option.map_eq_some_iff.1 hhappen
  obtain ⟨-, rfl⟩ := RawSocket.disconnected_eq_some.1 hd
  cases hs
  have hmore := still_didDisconnect { c with
    client := { c.client with delegate := false }, proxySocket := { c.proxySocket with status := .closed } }
  refine ⟨?_, fun hd => ?_, hflow.congr hmore.link hmore.target hmore.server_sent hmore.server_received
    (hmore.client_received.trans (List.append_nil _).symm) hmore.client_sent, hmore.client_sent, hmore.server_sent,
    hmore.resolving, hmore.upward, hmore.downward⟩
  · rw [proxyDidDisconnect, didDisconnect_of_cancelled (by exact h.cancelled)]
    apply Cancelling.checkStatus
    refine ⟨h.cancelled, h.status, h.closedCalls, fun hf => ?_, fun _ => rfl, h.server_open, h.server_done⟩
    cases hf
  · rw [proxyDidDisconnect, didDisconnect_of_cancelled (by exact h.cancelled)]
    exact delegate_checkStatus hd

theorem Cancelled.serverConnected (hs : step env c .serverConnected = some c') : Ebb env c c' := by
  obtain ⟨c₁, hhappen, hs⟩ := Option.bind_eq_some_iff.1 hs
  obtain ⟨server, hd, rfl⟩ := Option.map_eq_some_iff.1 hhappen
  obtain ⟨hthere, -, rfl⟩ := RawSocket.connected_eq_some.1 hd
  obtain ⟨a, ha, hclosing⟩ := h.server_open hthere
  rw [handle, adapterDidConnect_eq (by exact ha), adapterReady_of_cancelled (by exact h.cancelled)] at hs
  cases hs
  refine ⟨⟨⟨h.cancelled, h.status, h.closedCalls, h.client_open, h.client_done, fun _ => ⟨_, rfl, hclosing⟩,
    fun hf => ?_⟩, fun hclosed => ?_⟩, id, ?_, rfl, rfl, .inr rfl, Nat.le_refl _, Nat.le_refl _⟩
  · dsimp only at hf
    rw [hthere] at hf
    cases hf
  · -- an adapter that is established is not closed
    simp [isClosed, SocketStatus.isDisconnected] at hclosed
  · obtain ⟨ws, plain, hlinked, hws, hplain⟩ := hflow
    exact ⟨ws, plain, hlinked.change ha rfl rfl (List.append_nil _).symm fun factory hc => hc.start, hws, hplain⟩

theorem Cancelled.serverRead (hs : step env c (.serverRead d) = some c') : Ebb env c c' := by
  obtain ⟨c₁, hhappen, hs⟩ := Option.bind_eq_some_iff.1 hs
  obtain ⟨server, hd, rfl⟩ := Option.map_eq_some_iff.1 hhappen
  obtain ⟨hthere, r, reads, hreads, -, rfl⟩ := RawSocket.deliver_eq_some.1 hd
  obtain ⟨a, ha, -⟩ := h.server_open hthere
  rw [handle, adapterDidRead_eq (by exact ha), didReadFromAdapter_of_cancelled (by exact h.cancelled)] at hs
  cases hs
  refine ⟨h.congr ?_, id, hflow.serverRead ha, rfl, rfl, .inr rfl, Nat.le_refl _, ?_⟩
  · simp only [control, ha, Option.map_some]
  · simp only [Connection.downward, hreads, List.length_cons]
    omega

theorem Cancelled.serverWrote (hs : step env c .serverWrote = some c') : Ebb env c c' := by
  obtain ⟨c₁, hhappen, hs⟩ := Option.bind_eq_some_iff.1 hs
  obtain ⟨server, hd, rfl⟩ := Option.map_eq_some_iff.1 hhappen
  obtain ⟨-, n, hwrites, rfl⟩ := RawSocket.acknowledge_eq_some.1 hd
  rw [handle, adapterDidWrite_of_cancelled (by exact h.cancelled)] at hs
  cases hs
  have hstill : Still c { c with server := { c.server with writes := n } } :=
    ⟨rfl, rfl, rfl, rfl, rfl, rfl, rfl, .inr rfl, by simp only [Connection.upward, hwrites]; omega, Nat.le_refl _⟩
  exact hstill.ebb hflow (h.congr rfl) id

theorem Cancelled.serverDisconnected (hs : step env c .serverDisconnected = some c') : Ebb env c c' := by
  obtain ⟨c₁, hhappen, hs⟩ := Option.bind_eq_some_iff.1 hs
  obtain ⟨server, hd, rfl⟩ := Option.map_eq_some_iff.1 hhappen
  obtain ⟨hthere, rfl⟩ := RawSocket.disconnected_eq_some.1 hd
  obtain ⟨a, ha, -⟩ := h.server_open hthere
  simp only [handle, adapterDidDisconnect, ha, Option.some.injEq] at hs
  rw [didDisconnect_of_cancelled (by exact h.cancelled)] at hs
  subst hs
  have hbegin : Still c { c with
      server := { c.server with delegate := false }, adapterSocket := some { a with status := .closed } } :=
    ⟨(link_of_adapterSocket ha).symm, rfl, rfl, rfl, rfl, rfl, rfl, .inr rfl, Nat.le_refl _, Nat.le_refl _⟩
  refine (hbegin.trans (still_checkStatus _)).ebb hflow (Cancelling.checkStatus ?_)
    fun hd => delegate_checkStatus hd
  refine ⟨h.cancelled, h.status, h.closedCalls, h.client_open, h.client_done, fun hf => ?_, fun _ a' ha' => ?_⟩
  · cases hf
  · cases ha'
    rfl

theorem Cancelled.serverGone (hs : step env c .serverGone = some c') : Ebb env c c' := by
  obtain ⟨c₁, hhappen, hs⟩ := Option.bind_eq_some_iff.1 hs
  obtain ⟨server, hd, rfl⟩ := Option.map_eq_some_iff.1 hhappen
  obtain ⟨-, rfl⟩ := RawSocket.vanished_eq_some.1 hd
  cases hs
  have hstill : Still c { c with server := { c.server with gone := true } } :=
    ⟨rfl, rfl, rfl, rfl, rfl, rfl, rfl, .inr rfl, Nat.le_refl _, Nat.le_refl _⟩
  exact hstill.ebb hflow (h.congr rfl) id

theorem Cancelled.serverFailed (hs : step env c .serverFailed = some c') : Ebb env c c' := by
  obtain ⟨c₁, hhappen, hs⟩ := Option.bind_eq_some_iff.1 hs
  obtain ⟨server, hd, rfl⟩ := Option.map_eq_some_iff.1 hhappen
  obtain ⟨hthere, -, rfl⟩ := RawSocket.failed_eq_some.1 hd
  obtain ⟨a, ha, -⟩ := h.server_open hthere
  simp only [handle, adapterDidDisconnect, ha, Option.some.injEq] at hs
  rw [didDisconnect_of_cancelled (by exact h.cancelled)] at hs
  subst hs
  have hbegin : Still c { c with
      server := { c.server with closing := true }, adapterSocket := some { a with status := .closed } } :=
    ⟨(link_of_adapterSocket ha).symm, rfl, rfl, rfl, rfl, rfl, rfl, .inr rfl, Nat.le_refl _, Nat.le_refl _⟩
  refine (hbegin.trans (still_checkStatus _)).ebb hflow (Cancelling.checkStatus ?_)
    fun hd => delegate_checkStatus hd
  refine ⟨h.cancelled, h.status, h.closedCalls, h.client_open, h.client_done, fun _ => ⟨_, rfl, rfl⟩, fun _ a' ha' => ?_⟩
  cases ha'
  rfl

theorem Cancelled.resolved (hs : step env c (.resolved ipv4Result) = some c') : Ebb env c c' := by
  obtain ⟨c₁, hhappen, hs⟩ := Option.bind_eq_some_iff.1 hs
  obtain ⟨hsome, heq⟩ := Option.ite_none_right_eq_some.1 hhappen
  cases heq
  obtain ⟨session, hsession⟩ := Option.isSome_iff_exists.1 hsome
  have hdone : c' = { c with resolving := none } := by
    simp only [handle, hsession] at hs
    rcases ipv4Result with _ | _ | ⟨ip, ips⟩
    · rw [Connection.resolved, openAdapter_of_cancelled (by exact h.cancelled)] at hs
      exact (Option.some.inj hs).symm
    · cases hs
    · rw [Connection.resolved, openAdapter_of_cancelled (by exact h.cancelled)] at hs
      exact (Option.some.inj hs).symm
  subst hdone
  have hstill : Still c { c with resolving := none } :=
    ⟨rfl, rfl, rfl, rfl, rfl, rfl, rfl, .inl rfl, Nat.le_refl _, Nat.le_refl _⟩
  exact hstill.ebb hflow (h.congr rfl) id

theorem Cancelled.delayedRead (hs : step env c .delayedRead = some c') : Ebb env c c' := by
  obtain ⟨c₁, hhappen, hs⟩ := Option.bind_eq_some_iff.1 hs
  obtain ⟨hpos, heq⟩ := Option.ite_none_right_eq_some.1 hhappen
  cases heq
  obtain ⟨reads, hreads, hlen⟩ := adapterReadData_eq { c with delayedReads := c.delayedReads - 1 }
  rw [handle, hreads] at hs
  cases hs
  have hstill : Still c { c with delayedReads := c.delayedReads - 1, server := { c.server with reads } } :=
    ⟨rfl, rfl, rfl, rfl, rfl, rfl, rfl, .inr rfl, Nat.le_refl _, by
      dsimp only at hlen
      simp only [Connection.downward]
      omega⟩
  exact hstill.ebb hflow (h.congr rfl) id

theorem Cancelled.forceClose (hs : step env c .forceClose = some c') : Ebb env c c' := by
  obtain ⟨c₁, hhappen, hs⟩ := Option.bind_eq_some_iff.1 hs
  cases hhappen
  rw [handle, forceClose_eq_close, close_of_cancelled h.cancelled] at hs
  cases hs
  exact (Still.refl c).ebb hflow h id

/-- Once the tunnel is cancelled no step sends anything to either end, and the cancellation takes its course. -/
theorem Cancelled.step {e : Event} (hs : step env c e = some c') : Ebb env c c' := by
  cases e with
  | clientRead d => exact h.clientRead hflow hs
  | clientWrote => exact h.clientWrote hflow hs
  | clientDisconnected => exact h.clientDisconnected hflow hs
  | serverConnected => exact h.serverConnected hflow hs
  | serverRead d => exact h.serverRead hflow hs
  | serverWrote => exact h.serverWrote hflow hs
  | serverDisconnected => exact h.serverDisconnected hflow hs
  | serverGone => exact h.serverGone hflow hs
  | serverFailed => exact h.serverFailed hflow hs
  | resolved ipv4Result => exact h.resolved hflow hs
  | delayedRead => exact h.delayedRead hflow hs
  | forceClose => exact h.forceClose hflow hs

end Steps

end Connection

end VpnSs.NEKit
