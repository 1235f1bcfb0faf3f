/-
A connection from the first read to the end. It reads the header of a request, finds the address, opens
the adapter, answers a `CONNECT`, and forwards in both directions at once, one read or write at a time in
each; it ends by the proxy socket alone, on a header it cannot take, or as a whole. In every state each end
has been sent a beginning of what it is owed, and all of it while the connection forwards.
-/
import VpnSs.NEKit.Closing

namespace VpnSs.NEKit

open VpnSs.Swift HTTPStreamScanner

namespace Connection

variable {Cryptor : Type} {env : Environment Cryptor}

/-! ## A connection that is not cancelled -/

structure Alive (c : Connection Cryptor) : Prop where
  cancelled : c.cancelled = false
  delegate : c.delegate = true
  closedCalls : c.closedCalls = 0
  client : c.client.delegate = true
  status : c.proxySocket.status = if c.proxySocket.cancelled then .disconnecting else .established
  client_closing : c.client.closing = c.proxySocket.cancelled
  server : c.server.delegate = c.adapterSocket.isSome
  server_closing : c.server.closing = false
  adapterSocket : ∀ a, c.adapterSocket = some a → a.cancelled = false ∧ a.status.isDisconnected = false

theorem Alive.congr {c c' : Connection Cryptor} (h : Alive c) (hc : c'.control = c.control) : Alive c' := by
  simp only [control, Prod.mk.injEq] at hc
  obtain ⟨⟨hcan, hstatus, hdel, hcalls⟩, ⟨hcd, hcc, hpc, hps⟩, hsd, hsc, ha⟩ := hc
  have hsome : c'.adapterSocket.isSome = c.adapterSocket.isSome := by
    rw [← Option.isSome_map, ha, Option.isSome_map]
  refine ⟨hcan.trans h.cancelled, hdel.trans h.delegate, hcalls.trans h.closedCalls, hcd.trans h.client, ?_, ?_, ?_,
    hsc.trans h.server_closing, ?_⟩
  · rw [hps, hpc]; exact h.status
  · rw [hcc, hpc]; exact h.client_closing
  · rw [hsd, hsome]; exact h.server
  · intro a' ha'
    rw [ha', Option.map_some, eq_comm] at ha
    obtain ⟨a, ha, heq⟩ := Option.map_eq_some_iff.1 ha
    simp only [Prod.mk.injEq] at heq
    rw [← heq.1, ← heq.2]
    exact h.adapterSocket a ha

/-- The status of the tunnel does not matter. -/
theorem Alive.setStatus {c : Connection Cryptor} (h : Alive c) (status : TunnelStatus) : Alive { c with status } :=
  ⟨h.cancelled, h.delegate, h.closedCalls, h.client, h.status, h.client_closing, h.server, h.server_closing,
    h.adapterSocket⟩

theorem Alive.isDisconnected {c : Connection Cryptor} (h : Alive c) : c.proxySocket.status.isDisconnected = false := by
  rw [h.status]
  split <;> rfl

theorem Alive.server_open {c : Connection Cryptor} (h : Alive c) (hd : c.server.delegate = true) :
    ∃ a, c.adapterSocket = some a ∧ a.status.isDisconnected = false := by
  rw [h.server] at hd
  obtain ⟨a, ha⟩ := Option.isSome_iff_exists.1 hd
  exact ⟨a, ha, (h.adapterSocket a ha).2⟩

theorem Alive.server_done {c : Connection Cryptor} (h : Alive c) (hd : c.server.delegate = false)
    (a : AdapterSocket Cryptor) (ha : c.adapterSocket = some a) : a.status = .closed := by
  rw [h.server, ha] at hd
  cases hd

theorem Alive.server_closable {c : Connection Cryptor} (h : Alive c) (hd : c.server.delegate = true) :
    ∃ a, c.adapterSocket = some a ∧ (a.status.isDisconnected = true → c.server.closing = true) := by
  obtain ⟨a, ha, hconn⟩ := h.server_open hd
  refine ⟨a, ha, fun hdisc => ?_⟩
  rw [hconn] at hdisc
  cases hdisc

theorem Alive.closable {c : Connection Cryptor} (h : Alive c) : Closable c := by
  refine ⟨h.cancelled, h.delegate, h.closedCalls, fun _ => ⟨h.isDisconnected, fun hcan => ?_⟩, fun hf => ?_,
    h.server_closable, h.server_done⟩
  · rw [h.status, h.client_closing, hcan]
    exact ⟨rfl, rfl⟩
  · rw [h.client] at hf
    cases hf

theorem Alive.closable_client {c : Connection Cryptor} (h : Alive c) : Closable { c with
    client := { c.client with delegate := false }, proxySocket := { c.proxySocket with status := .closed } } :=
  ⟨h.cancelled, h.delegate, h.closedCalls, fun hf => (Bool.false_ne_true hf).elim, fun _ => rfl, h.server_closable,
    h.server_done⟩

/-- The adapter has learnt that its raw socket is disconnected, which has no delegate any more or takes no
more calls. -/
theorem Alive.closable_server {c : Connection Cryptor} (h : Alive c) (a : AdapterSocket Cryptor) {server : RawSocket}
    (hserver : server.delegate = true → server.closing = true) :
    Closable { c with server, adapterSocket := some { a with status := .closed } } := by
  refine ⟨h.cancelled, h.delegate, h.closedCalls, h.closable.client_open, h.closable.client_done,
    fun hd => ⟨_, rfl, fun _ => hserver hd⟩, fun _ a' ha' => ?_⟩
  cases ha'
  rfl

/-- What ends a connection. -/
inductive Event.Ends : Event → Prop where
  | clientDisconnected : Ends .clientDisconnected
  | serverDisconnected : Ends .serverDisconnected
  | serverFailed : Ends .serverFailed
  | forceClose : Ends .forceClose

theorem Alive.ends {c c' : Connection Cryptor} {e : Event} (h : Alive c) (hflow : Flow env c) (he : e.Ends)
    (hs : step env c e = some c') : Ebb env c c' := by
  obtain ⟨c₁, hhappen, hs⟩ := Option.bind_eq_some_iff.1 hs
  have hdelegate : c.delegate = false → c'.delegate = false := by
    rw [h.delegate]
    intro hd; cases hd
  cases he with
  | clientDisconnected =>
    obtain ⟨client, hd, rfl⟩ := Option.map_eq_some_iff.1 hhappen
    obtain ⟨-, rfl⟩ := RawSocket.disconnected_eq_some.1 hd
    cases hs
    have hmore := still_didDisconnect { c with
      client := { c.client with delegate := false }, proxySocket := { c.proxySocket with status := .closed } }
    exact ⟨h.closable_client.didDisconnect, hdelegate, hflow.congr hmore.link hmore.target hmore.server_sent hmore.server_received
      (hmore.client_received.trans (List.append_nil _).symm) hmore.client_sent, hmore.client_sent, hmore.server_sent,
      hmore.resolving, hmore.upward, hmore.downward⟩
  | serverDisconnected =>
    obtain ⟨server, hd, rfl⟩ := Option.map_eq_some_iff.1 hhappen
    obtain ⟨hthere, rfl⟩ := RawSocket.disconnected_eq_some.1 hd
    obtain ⟨a, ha, -⟩ := h.server_open hthere
    simp only [handle, adapterDidDisconnect, ha, Option.some.injEq] at hs
    subst hs
    have hbegin : Still c { c with
        server := { c.server with delegate := false }, adapterSocket := some { a with status := .closed } } :=
      ⟨(link_of_adapterSocket ha).symm, rfl, rfl, rfl, rfl, rfl, rfl, .inr rfl, Nat.le_refl _, Nat.le_refl _⟩
    exact (hbegin.trans (still_didDisconnect _)).ebb hflow
      (h.closable_server a fun hf => (Bool.false_ne_true hf).elim).didDisconnect hdelegate
  | serverFailed =>
    obtain ⟨server, hd, rfl⟩ := Option.map_eq_some_iff.1 hhappen
    obtain ⟨hthere, -, rfl⟩ := RawSocket.failed_eq_some.1 hd
    obtain ⟨a, ha, -⟩ := h.server_open hthere
    simp only [handle, adapterDidDisconnect, ha, Option.some.injEq] at hs
    subst hs
    have hbegin : Still c { c with
        server := { c.server with closing := true }, adapterSocket := some { a with status := .closed } } :=
      ⟨(link_of_adapterSocket ha).symm, rfl, rfl, rfl, rfl, rfl, rfl, .inr rfl, Nat.le_refl _, Nat.le_refl _⟩
    exact (hbegin.trans (still_didDisconnect _)).ebb hflow (h.closable_server a fun _ => rfl).didDisconnect hdelegate
  | forceClose =>
    cases hhappen
    cases hs
    exact Still.ebb (still_close c) hflow (h.closable.forceClose h.client) hdelegate

/-! ## The phases of a connection -/

/-- The proxy socket has read the header of a request and no more. -/
structure Requested (env : Environment Cryptor) (c : Connection Cryptor) (header : HTTPHeader) : Prop extends Alive c where
  tunnel : c.status = .waitingToBeReady
  proxy_open : c.proxySocket.cancelled = false
  run : Lts.run (advance env.foundation) .initial c.client.received = some c.proxySocket.scanner
  answered : Lts.Meets (advance env.foundation) Answered .initial c.client.received
  results : results env.foundation .initial c.client.received = [.header header]
  currentHeader : ∃ rewritten, HTTPProxySocket.rewrite env.foundation header = some rewritten ∧
    c.proxySocket.currentHeader = some rewritten
  isConnectCommand : c.proxySocket.isConnectCommand = header.isConnect
  readStatus : c.proxySocket.readStatus = if header.isConnect then .readingContent else .pendingFirstHeader
  client_reads : c.client.reads = []
  delayedReads : c.delayedReads = 0

/-- The session of the request is known, and no adapter is there yet. -/
structure Known (env : Environment Cryptor) (c : Connection Cryptor) (header : HTTPHeader) (session : ConnectSession) :
    Prop extends Requested env c header where
  session : ConnectSession.create env.os env.globals (env.foundation.characters header.host) header.port true =
    .ok (some session)
  adapterSocket_none : c.adapterSocket = none
  server_new : c.server = .new
  readySignal : c.readySignal = 0
  writeStatus : c.proxySocket.writeStatus = .invalid
  client_writes : c.client.writes = 0
  client_sent : c.client.sent = []

/-- The adapter is there, and nothing has passed it. -/
structure Opening (env : Environment Cryptor) (c : Connection Cryptor) (header : HTTPHeader) : Prop
    extends Requested env c header where
  resolving : c.resolving = none
  linked : Linked env c [] []
  adapter : c.adapterSocket.isSome
  server_reads : c.server.reads = []
  server_writes : c.server.writes = 0

/-- The adapter connects. -/
structure Connecting (env : Environment Cryptor) (c : Connection Cryptor) (header : HTTPHeader) : Prop
    extends Opening env c header where
  readySignal : c.readySignal = 0
  writeStatus : c.proxySocket.writeStatus = .invalid
  client_writes : c.client.writes = 0
  client_sent : c.client.sent = []

/-- The adapter is ready, and the response to a `CONNECT` is being written. -/
structure Responding (env : Environment Cryptor) (c : Connection Cryptor) (header : HTTPHeader) : Prop
    extends Opening env c header where
  isConnect : header.isConnect = true
  ready : ∀ a, c.adapterSocket = some a → a.kind.Ready
  connecting : c.server.connecting = false
  readySignal : c.readySignal = 1
  writeStatus : c.proxySocket.writeStatus = .sendingConnectResponse
  client_writes : c.client.writes = 1
  client_sent : c.client.sent = ConnectSuccessResponse

/-- The status of the proxy socket is that of the read it has asked for. -/
def Expects (p : HTTPProxySocket) : Prop :=
  match p.scanner.nextAction with
  | .readHeader => p.readStatus = .readingHeader
  | .readContent _ => p.readStatus = .readingContent
  | .stop => False

/-- The one read or write under way from the client to the server. -/
inductive Upstream (c : Connection Cryptor) : Prop where
  | reading (r) : c.client.reads = [r] → c.proxySocket.scanner.request = some r → Expects c.proxySocket →
      c.server.writes = 0 → Upstream c
  | writing : c.client.reads = [] → c.server.writes = 1 → Upstream c

/-- The one read or write under way from the server to the client, or the read that was put off. -/
inductive Downstream (c : Connection Cryptor) : Prop where
  | reading : c.server.reads = [.data] → c.client.writes = 0 → c.delayedReads = 0 → Downstream c
  | writing : c.server.reads = [] → c.client.writes = 1 → c.delayedReads = 0 → Downstream c
  | delayed : c.server.reads = [] → c.client.writes = 0 → c.delayedReads = 1 → Downstream c

/-- Both directions are forwarded. -/
structure Forwarding (env : Environment Cryptor) (c : Connection Cryptor) : Prop extends Alive c where
  proxy_open : c.proxySocket.cancelled = false
  tunnel : c.status = .forwarding
  resolving : c.resolving = none
  run : Lts.run (advance env.foundation) .initial c.client.received = some c.proxySocket.scanner
  answered : Lts.Meets (advance env.foundation) Answered .initial c.client.received
  level : Level env c
  readStatus : c.proxySocket.readStatus ≠ .pendingFirstHeader
  writeStatus : c.proxySocket.writeStatus = .forwarding
  ready : ∃ a, c.adapterSocket = some a ∧ a.kind.Ready
  connecting : c.server.connecting = false
  upstream : Upstream c
  downstream : Downstream c

/-- The proxy socket has given up on the client, and waits for it to disconnect. -/
structure Dropped (env : Environment Cryptor) (c : Connection Cryptor) : Prop extends Alive c where
  proxy_cancelled : c.proxySocket.cancelled = true
  resolving : c.resolving = none
  flow : Flow env c
  writeStatus : c.proxySocket.writeStatus ≠ .sendingConnectResponse
  connecting : c.server.connecting = false
  client_reads : c.client.reads = []
  upward : c.upward ≤ 1
  downward : c.downward ≤ 1

/-- What every connection is in. -/
inductive Phase (env : Environment Cryptor) (c : Connection Cryptor) : Prop where
  | reading : c = didAcceptNewSocket → Phase env c
  | resolving (header session) : Known env c header session → c.resolving = some session → Phase env c
  | connecting (header) : Connecting env c header → Phase env c
  | responding (header) : Responding env c header → Phase env c
  | forwarding : Forwarding env c → Phase env c
  | dropped : Dropped env c → Phase env c
  | cancelled : Cancelled c → Flow env c → c.upward ≤ 1 → c.downward ≤ 1 → Phase env c

/-! ## What a phase comes to -/

/-- What a request depends on. -/
def asked (c : Connection Cryptor) :=
  (c.client.received, c.client.reads, c.proxySocket.scanner, c.proxySocket.currentHeader,
    c.proxySocket.isConnectCommand, c.proxySocket.readStatus, c.delayedReads)

theorem Requested.congr {c c' : Connection Cryptor} {header : HTTPHeader} (h : Requested env c header)
    (hc : c'.control = c.control) (hr : c'.asked = c.asked) : Requested env c' header := by
  have hcan : c'.proxySocket.cancelled = c.proxySocket.cancelled := congrArg (fun p => p.2.1.2.2.1) hc
  simp only [asked, Prod.mk.injEq] at hr
  obtain ⟨hreceived, hreads, hscanner, hcur, hconn, hread, hdelay⟩ := hr
  have hstatus : c'.status = c.status := congrArg (fun p => p.1.2.1) hc
  refine ⟨h.toAlive.congr hc, hstatus.trans h.tunnel, hcan.trans h.proxy_open, ?_, ?_, ?_, ?_, ?_, ?_,
    hreads.trans h.client_reads, hdelay.trans h.delayedReads⟩
  · rw [hreceived, hscanner]; exact h.run
  · rw [hreceived]; exact h.answered
  · rw [hreceived]; exact h.results
  · rw [hcur]; exact h.currentHeader
  · rw [hconn]; exact h.isConnectCommand
  · rw [hread]; exact h.readStatus

theorem Requested.firstHeader {c : Connection Cryptor} {header : HTTPHeader} (h : Requested env c header) :
    NEKit.firstHeader env.foundation c.client.received = some header := by
  rw [NEKit.firstHeader, h.results]

/-- A `CONNECT` is not passed on, any other request is. -/
theorem Requested.relayed {c : Connection Cryptor} {header rewritten : HTTPHeader} (h : Requested env c header)
    (hr : HTTPProxySocket.rewrite env.foundation header = some rewritten) :
    NEKit.relayed env.foundation c.client.received = if header.isConnect then [] else [rewritten.toData] := by
  rw [NEKit.relayed, h.results, passedOn]
  split
  · rfl
  · simp [payload, hr]

theorem Opening.flow {c : Connection Cryptor} {header : HTTPHeader} (h : Opening env c header)
    (hsent : c.client.sent = [] ∨ c.client.sent = preface header) : Flow env c := by
  refine ⟨[], [], h.linked, List.nil_prefix, ?_⟩
  rcases hsent with hnil | hsent
  · exact .inl hnil
  · exact .inr ⟨header, h.firstHeader, by rw [hsent, List.append_nil]⟩

theorem alive_didAcceptNewSocket : Alive (didAcceptNewSocket : Connection Cryptor) :=
  ⟨rfl, rfl, rfl, rfl, rfl, rfl, rfl, rfl, fun a ha => by cases ha⟩

theorem flow_didAcceptNewSocket : Flow env (didAcceptNewSocket : Connection Cryptor) :=
  ⟨[], [], .unlinked rfl rfl rfl rfl, List.nil_prefix, .inl rfl⟩

/-- In every phase each end has been sent a beginning of what it is owed, and in each direction at most one
read or write is under way. -/
theorem Phase.bounds {c : Connection Cryptor} (h : Phase env c) : Flow env c ∧ c.upward ≤ 1 ∧ c.downward ≤ 1 := by
  cases h with
  | reading hc =>
    subst hc
    exact ⟨flow_didAcceptNewSocket, Nat.le_refl 1, Nat.zero_le 1⟩
  | resolving header session hk _ =>
    refine ⟨⟨[], [], .unlinked ?_ ?_ rfl rfl, List.nil_prefix, .inl hk.client_sent⟩, ?_, ?_⟩
    · rw [link, hk.adapterSocket_none]; rfl
    · rw [hk.server_new]; rfl
    · rw [upward, hk.client_reads, hk.server_new]; exact Nat.zero_le 1
    · rw [downward, hk.client_writes, hk.delayedReads, hk.server_new]; exact Nat.zero_le 1
  | connecting header hc =>
    refine ⟨hc.flow (.inl hc.client_sent), ?_, ?_⟩
    · rw [upward, hc.client_reads, hc.server_writes]; exact Nat.zero_le 1
    · rw [downward, hc.client_writes, hc.delayedReads, hc.server_reads]; exact Nat.zero_le 1
  | responding header hr =>
    refine ⟨hr.flow (.inr (by rw [hr.client_sent, preface, if_pos hr.isConnect])), ?_, ?_⟩
    · rw [upward, hr.client_reads, hr.server_writes]; exact Nat.zero_le 1
    · rw [downward, hr.client_writes, hr.delayedReads, hr.server_reads]; exact Nat.le_refl 1
  | forwarding hf =>
    refine ⟨hf.level.flow, ?_, ?_⟩
    · rw [upward]
      cases hf.upstream with
      | reading r hr _ _ hw => rw [hr, hw]; exact Nat.le_refl 1
      | writing hr hw => rw [hr, hw]; exact Nat.le_refl 1
    · rw [downward]
      cases hf.downstream with
      | reading hr hw hd => rw [hr, hw, hd]; exact Nat.le_refl 1
      | writing hr hw hd => rw [hr, hw, hd]; exact Nat.le_refl 1
      | delayed hr hw hd => rw [hr, hw, hd]; exact Nat.le_refl 1
  | dropped hd => exact ⟨hd.flow, hd.upward, hd.downward⟩
  | cancelled hc hflow hup hdown => exact ⟨hflow, hup, hdown⟩

/-! ## Events that cannot happen -/

section Disabled

variable {c : Connection Cryptor}

theorem step_clientRead_eq_none (h : c.client.reads = []) (d : Data) : step env c (.clientRead d) = none := by
  rw [step, happen, RawSocket.deliver, h]; rfl

theorem step_serverRead_eq_none (h : c.server.reads = []) (d : Data) : step env c (.serverRead d) = none := by
  rw [step, happen, RawSocket.deliver, h]; rfl

theorem step_clientWrote_eq_none (h : c.client.writes = 0) : step env c .clientWrote = none := by
  rw [step, happen, RawSocket.acknowledge, h]
  simp

theorem step_serverWrote_eq_none (h : c.server.writes = 0) : step env c .serverWrote = none := by
  rw [step, happen, RawSocket.acknowledge, h]
  simp

theorem step_serverConnected_eq_none (h : c.server.connecting = false) : step env c .serverConnected = none := by
  rw [step, happen, RawSocket.connected, h]
  simp

theorem step_resolved_eq_none (h : c.resolving = none) (ipv4Result : Option (List Text)) :
    step env c (.resolved ipv4Result) = none := by
  rw [step, happen, h]; rfl

theorem step_delayedRead_eq_none (h : c.delayedReads = 0) : step env c .delayedRead = none := by
  rw [step, happen, h]; rfl

theorem step_serverGone_eq_some {c' : Connection Cryptor} (hs : step env c .serverGone = some c') :
    c' = { c with server := { c.server with gone := true } } := by
  obtain ⟨c₁, hhappen, hs⟩ := Option.bind_eq_some_iff.1 hs
  obtain ⟨server, hd, rfl⟩ := Option.map_eq_some_iff.1 hhappen
  obtain ⟨-, rfl⟩ := RawSocket.vanished_eq_some.1 hd
  cases hs
  rfl

end Disabled

/-! ## Opening the adapter -/

variable (env) in
theorem openSocket_eq (factory : AdapterFactory) (session : ConnectSession) :
    (openSocket env factory session).1.cancelled = false ∧ (openSocket env factory session).1.status = .connecting ∧
      ∃ target, (openSocket env factory session).2 =
        { RawSocket.new with delegate := true, target := some target, connecting := true } := by
  cases factory with
  | direct => exact ⟨rfl, rfl, _, rfl⟩
  | shadowsocks factory => exact ⟨rfl, rfl, _, rfl⟩

theorem Known.openAdapter {c c' : Connection Cryptor} {header : HTTPHeader} {session : ConnectSession}
    (h : Known env c header session) (hres : c.resolving = none) {ip : Text}
    (ho : c.openAdapter env { session with ipAddress := some ip } = some c') : Connecting env c' header := by
  rw [Connection.openAdapter, if_neg (by rw [h.cancelled]; exact Bool.false_ne_true)] at ho
  split at ho
  · rename_i factory session' hmatch
    have hc' : c' = { c with
        adapterSocket := some (openSocket env factory session').1, server := (openSocket env factory session').2 } :=
      (Option.some.inj ho).symm
    subst hc'
    obtain ⟨hcan, hstatus, target, hserver⟩ := openSocket_eq env factory session'
    have halive : Alive { c with
        adapterSocket := some (openSocket env factory session').1, server := (openSocket env factory session').2 } := by
      refine ⟨h.cancelled, h.delegate, h.closedCalls, h.client, h.status, h.client_closing, ?_, ?_, fun a ha => ?_⟩
      · rw [hserver]; rfl
      · rw [hserver]; rfl
      · cases ha
        exact ⟨hcan, by rw [hstatus]; rfl⟩
    have hrequested : Requested env { c with
        adapterSocket := some (openSocket env factory session').1, server := (openSocket env factory session').2 } header :=
      ⟨halive, h.tunnel, h.proxy_open, h.run, h.answered, h.results, h.currentHeader, h.isConnectCommand, h.readStatus,
        h.client_reads, h.delayedReads⟩
    refine ⟨⟨hrequested, hres, ?_, rfl, ?_, ?_⟩, h.readySignal, h.writeStatus, h.client_writes, h.client_sent⟩
    · exact .open hrequested.firstHeader ⟨session, ip, h.session, hmatch⟩ rfl rfl
    · rw [hserver]; rfl
    · rw [hserver]; rfl
  · cases ho

theorem Known.resolved {c c' : Connection Cryptor} {header : HTTPHeader} {session : ConnectSession}
    (h : Known env c header session) (hres : c.resolving = none) {ipv4Result : Option (List Text)}
    (hr : Connection.resolved env c session ipv4Result = some c') : Connecting env c' header := by
  rcases ipv4Result with _ | _ | ⟨ip, ips⟩
  · exact h.openAdapter hres hr
  · cases hr
  · exact h.openAdapter hres hr

theorem Known.resolved_step {c c' : Connection Cryptor} {header : HTTPHeader} {session : ConnectSession}
    (h : Known env c header session) (hres : c.resolving = some session) {ipv4Result : Option (List Text)}
    (hs : step env c (.resolved ipv4Result) = some c') : Connecting env c' header := by
  obtain ⟨c₁, hhappen, hs⟩ := Option.bind_eq_some_iff.1 hs
  obtain ⟨-, heq⟩ := Option.ite_none_right_eq_some.1 hhappen
  cases heq
  rw [handle] at hs
  split at hs
  · rename_i hnone
    rw [hres] at hnone
    cases hnone
  · rename_i session' hsome
    cases hres.symm.trans hsome
    have hnext : Known env { c with resolving := none } header session :=
      ⟨h.toRequested.congr rfl rfl, h.session, h.adapterSocket_none, h.server_new, h.readySignal, h.writeStatus,
        h.client_writes, h.client_sent⟩
    exact hnext.resolved rfl hs

/-- The proxy socket gives up on a client it cannot understand. -/
theorem Alive.proxyDisconnect {c : Connection Cryptor} (h : Alive c) : Alive c.proxyDisconnect := by
  unfold Connection.proxyDisconnect
  split
  · exact h
  · exact ⟨h.cancelled, h.delegate, h.closedCalls, h.client, rfl, rfl, h.server, h.server_closing, h.adapterSocket⟩

/-- The first read: the header of a request, for which the resolver is asked or the adapter opened, or
something the proxy socket does not take. -/
theorem Phase.firstRead {d : Data} {c' : Connection Cryptor}
    (hs : step env (didAcceptNewSocket : Connection Cryptor) (.clientRead d) = some c') : Phase env c' := by
  obtain ⟨c₁, hhappen, hs⟩ := Option.bind_eq_some_iff.1 hs
  obtain ⟨client, hd, rfl⟩ := Option.map_eq_some_iff.1 hhappen
  obtain ⟨-, r, reads, hreads, hans, rfl⟩ := RawSocket.deliver_eq_some.1 hd
  obtain ⟨rfl, rfl⟩ : .pattern DoubleCRLF = r ∧ [] = reads := List.cons.inj hreads
  simp only [handle, proxyDidRead] at hs
  split at hs
  · cases hs
  · rename_i scanner e hin
    cases hs
    refine .dropped ⟨Alive.proxyDisconnect (alive_didAcceptNewSocket.congr rfl), rfl, rfl, ?_, ?_, rfl, rfl,
      Nat.zero_le 1, Nat.zero_le 1⟩
    · exact flow_didAcceptNewSocket.congr rfl rfl rfl rfl rfl rfl
    · exact fun heq => by cases heq
  · rename_i scanner result hin
    rcases input_ok hin with ⟨-, header, hparse, rfl, hscanner⟩ | ⟨⟨length, hact⟩, -⟩
    · dsimp only [didAcceptNewSocket] at hs
      split at hs
      · cases hs
      · rename_i rewritten hrewrite
        split at hs
        · rename_i session hsession
          obtain ⟨hconn, hhost, hport⟩ := rewrite_eq hrewrite
          rw [hhost, hport] at hsession
          rw [hconn] at hs
          obtain ⟨hrun, hresults⟩ := run_singleton hin
          have hmeets : Lts.Meets (advance env.foundation) Answered .initial [d] := by
            rw [Lts.meets_cons]
            exact ⟨⟨.pattern DoubleCRLF, rfl, hans⟩, fun _ _ => trivial⟩
          rw [didReceive, if_neg Bool.false_ne_true] at hs
          have hknown (resolving : Option ConnectSession) : Known env { (didAcceptNewSocket : Connection Cryptor) with
              status := .waitingToBeReady, resolving
              client := { RawSocket.accepted with received := [d] }
              proxySocket := { HTTPProxySocket.new with
                scanner, currentHeader := some rewritten, isConnectCommand := header.isConnect
                readStatus := if header.isConnect then .readingContent else .pendingFirstHeader } } header session :=
            ⟨⟨(alive_didAcceptNewSocket.setStatus .waitingToBeReady).congr rfl, rfl, rfl, hrun, hmeets, hresults, ⟨rewritten, hrewrite, rfl⟩, rfl, rfl,
              rfl, rfl⟩, hsession, rfl, rfl, rfl, rfl, rfl, rfl⟩
          dsimp only at hs
          split at hs
          · exact .connecting header ((hknown none).openAdapter rfl hs)
          · cases hs
            exact .resolving header session (hknown (some session)) rfl
        · cases hs
    · cases hact

/-! ## Calls of an open connection -/

/-- A write is passed through the adapter to the server's socket. -/
theorem Alive.didReadFromProxy {c c' : Connection Cryptor} (h : Alive c) {a : AdapterSocket Cryptor}
    (ha : c.adapterSocket = some a) {d : Data} (hd : c.didReadFromProxy env d = some c') :
    ∃ kind out, a.kind.output env.lib d = some (kind, out) ∧ c' = { c with
      adapterSocket := some { a with kind }
      server := { c.server with writes := c.server.writes + 1, sent := c.server.sent ++ out } } := by
  have hopen : ¬ a.cancelled = true := by rw [(h.adapterSocket a ha).1]; exact Bool.false_ne_true
  rw [Connection.didReadFromProxy, if_neg (by rw [h.cancelled]; exact Bool.false_ne_true), adapterWrite_eq ha] at hd
  obtain ⟨⟨kind, out⟩, ho, hc'⟩ := Option.map_eq_some_iff.1 hd
  refine ⟨kind, out, ho, ?_⟩
  rw [← hc', writeRaw, if_neg hopen, RawSocket.write_of_not_closing h.server_closing]

/-- Data from the adapter is written to the client's socket. -/
theorem Alive.didReadFromAdapter {c : Connection Cryptor} (h : Alive c) (ho : c.proxySocket.cancelled = false) (d : Data) :
    c.didReadFromAdapter d =
      { c with client := { c.client with writes := c.client.writes + 1, sent := c.client.sent ++ d } } := by
  have hclosing : c.client.closing = false := h.client_closing.trans ho
  rw [Connection.didReadFromAdapter, if_neg (by rw [h.cancelled]; exact Bool.false_ne_true), proxyWrite,
    if_neg (by rw [ho]; exact Bool.false_ne_true), RawSocket.write_of_not_closing hclosing]

theorem Alive.adapterReadData {c : Connection Cryptor} (h : Alive c) {a : AdapterSocket Cryptor}
    (ha : c.adapterSocket = some a) :
    c.adapterReadData = { c with server := { c.server with reads := c.server.reads ++ [.data] } } := by
  rw [Connection.adapterReadData, ha]
  dsimp only
  rw [if_neg (by rw [(h.adapterSocket a ha).1]; exact Bool.false_ne_true),
    RawSocket.read_of_not_closing h.server_closing]

variable (env) in
/-- The proxy socket reads what its scanner asks for. -/
theorem Alive.proxyReadData {c : Connection Cryptor} (h : Alive c) (ho : c.proxySocket.cancelled = false)
    (hstatus : c.proxySocket.readStatus ≠ .pendingFirstHeader) {r : ReadRequest}
    (hr : c.proxySocket.scanner.request = some r) :
    ∃ readStatus, c.proxyReadData env = some { c with
        proxySocket := { c.proxySocket with readStatus }
        client := { c.client with reads := c.client.reads ++ [r] } } ∧
      readStatus ≠ .pendingFirstHeader ∧ Expects { c.proxySocket with readStatus } := by
  have hread (r : ReadRequest) : c.client.read r = { c.client with reads := c.client.reads ++ [r] } :=
    RawSocket.read_of_not_closing (h.client_closing.trans ho) r
  unfold Connection.proxyReadData
  dsimp only
  rw [if_neg (by rw [ho]; exact Bool.false_ne_true), if_neg hstatus]
  rw [request] at hr
  rcases hact : c.proxySocket.scanner.nextAction with _ | length | _
  · rw [hact] at hr
    cases hr
    exact ⟨.readingHeader, by dsimp only; rw [hread], by decide, by simp only [Expects, hact]⟩
  · rw [hact] at hr
    have hwhat : r = if 0 < length then .length length.toNat else .data := by
      dsimp only at hr
      split at hr
      · rename_i hpos
        rw [if_pos hpos]
        exact (Option.some.inj hr).symm
      · rename_i hpos
        rw [if_neg hpos]
        exact (Option.some.inj hr).symm
    subst hwhat
    exact ⟨.readingContent, by dsimp only; rw [hread], by decide, by simp only [Expects, hact]⟩
  · rw [hact] at hr
    cases hr

/-- A read the scanner accepts while the proxy socket expects it is passed on. -/
theorem proxyDidRead_eq {c c' : Connection Cryptor} {d : Data} {scanner : HTTPStreamScanner} {result : ScannerResult}
    (he : Expects c.proxySocket) (hin : c.proxySocket.scanner.input env.foundation d = some (scanner, .ok result))
    (hs : c.proxyDidRead env d = some c') :
    ∃ currentHeader p, payload env.foundation result = some p ∧
      Connection.didReadFromProxy env { c with proxySocket := { c.proxySocket with scanner, currentHeader } } p = some c' := by
  unfold proxyDidRead at hs
  dsimp only at hs
  rw [hin] at hs
  unfold Expects at he
  rcases input_ok hin with ⟨hact, header, -, rfl, -⟩ | ⟨⟨length, hact⟩, rfl, -, -⟩
  · rw [hact] at he
    dsimp only at he hs
    split at hs
    · rename_i hstatus _
      rw [he] at hstatus
      cases hstatus
    · rename_i heq
      cases heq
      split at hs
      · cases hs
      · rename_i rewritten hrewrite
        exact ⟨some rewritten, rewritten.toData, by rw [payload, hrewrite]; rfl, hs⟩
    · rename_i heq
      cases heq
    · rename_i hnone _
      exact (hnone header he rfl).elim
  · rw [hact] at he
    dsimp only at he hs
    split at hs
    · rename_i heq
      cases heq
    · rename_i heq
      cases heq
    · rename_i heq
      cases heq
      exact ⟨c.proxySocket.currentHeader, d, rfl, hs⟩
    · rename_i hnone
      exact (hnone d he rfl).elim

/-! ## Beginning to forward -/

/-- Both sockets are ready but for one signal. -/
structure Prepared (env : Environment Cryptor) (c : Connection Cryptor) (header : HTTPHeader) : Prop
    extends Opening env c header where
  ready : ∀ a, c.adapterSocket = some a → a.kind.Ready
  connecting : c.server.connecting = false
  readySignal : c.readySignal = 1
  writeStatus : c.proxySocket.writeStatus = .forwarding
  client_writes : c.client.writes = 0
  client_sent : c.client.sent = preface header

/-- The second signal starts both directions; the first header goes first, unless it was for the proxy. -/
theorem Prepared.signalReady {c c' : Connection Cryptor} {header : HTTPHeader} (h : Prepared env c header)
    (hs : c.signalReady env = some c') : Forwarding env c' := by
  obtain ⟨a, ha⟩ := Option.isSome_iff_exists.1 h.adapter
  have halive (readySignal : Nat) : Alive { c with readySignal, status := .forwarding } :=
    (h.toAlive.setStatus .forwarding).congr rfl
  rw [Connection.signalReady, h.readySignal] at hs
  dsimp only at hs
  rw [if_pos rfl] at hs
  obtain ⟨c₁, hread, rfl⟩ := Option.map_eq_some_iff.1 hs
  obtain ⟨rewritten, hrewrite, hcur⟩ := h.currentHeader
  have hrelayed := h.toRequested.relayed hrewrite
  cases hconn : header.isConnect with
  | true =>
    have hstatus : c.proxySocket.readStatus = .readingContent := by rw [h.readStatus, hconn]; rfl
    obtain ⟨r, hr⟩ := (framed_run h.answered h.run).request_isSome
    obtain ⟨readStatus, heq, hne, hexp⟩ := (halive 2).proxyReadData env h.proxy_open
      (by dsimp only; rw [hstatus]; decide) hr
    cases heq.symm.trans hread
    have halive' : Alive { c with
        readySignal := 2, status := .forwarding, proxySocket := { c.proxySocket with readStatus }
        client := { c.client with reads := c.client.reads ++ [r] } } := (halive 2).congr rfl
    rw [halive'.adapterReadData ha]
    refine ⟨halive'.congr rfl, h.proxy_open, rfl, h.resolving, h.run, h.answered, ?_, hne, h.writeStatus,
      ⟨a, ha, h.ready a ha⟩, h.connecting, ?_, ?_⟩
    · refine ⟨[], header, ?_, h.firstHeader, ?_⟩
      · dsimp only
        rw [hrelayed, hconn]
        exact h.linked.congr rfl rfl rfl rfl (List.append_nil _).symm
      · rw [List.append_nil]; exact h.client_sent
    · exact .reading r (by dsimp only; rw [h.client_reads]; rfl) hr hexp h.server_writes
    · exact .reading (by dsimp only; rw [h.server_reads]; rfl) h.client_writes h.delayedReads
  | false =>
    have hstatus : c.proxySocket.readStatus = .pendingFirstHeader := by rw [h.readStatus, hconn]; rfl
    rw [Connection.proxyReadData] at hread
    dsimp only at hread
    rw [if_neg (by rw [h.proxy_open]; exact Bool.false_ne_true), if_pos hstatus] at hread
    split at hread
    · cases hread
    rename_i first hfirst
    cases hcur.symm.trans hfirst
    have halive' : Alive { c with
        readySignal := 2, status := .forwarding, proxySocket := { c.proxySocket with readStatus := .readingContent } } :=
      (halive 2).congr rfl
    obtain ⟨kind, out, ho, rfl⟩ := halive'.didReadFromProxy ha hread
    have hnext : Alive { c with
        readySignal := 2, status := .forwarding, proxySocket := { c.proxySocket with readStatus := .readingContent }
        adapterSocket := some { a with kind }
        server := { c.server with writes := c.server.writes + 1, sent := c.server.sent ++ out } } :=
      halive'.congr (by simp only [control, ha, Option.map_some])
    rw [hnext.adapterReadData rfl]
    refine ⟨hnext.congr rfl, h.proxy_open, rfl, h.resolving, h.run, h.answered, ?_, by dsimp only; decide, h.writeStatus,
      ⟨_, rfl, (h.ready a ha).output ho⟩, h.connecting, ?_, ?_⟩
    · refine ⟨[], header, ?_, h.firstHeader, ?_⟩
      · dsimp only
        rw [hrelayed, hconn]
        exact h.linked.write ha ho rfl rfl rfl rfl (List.append_nil _).symm
      · rw [List.append_nil]; exact h.client_sent
    · exact .writing h.client_reads (by dsimp only; rw [h.server_writes])
    · exact .reading (by dsimp only; rw [h.server_reads]; rfl) h.client_writes h.delayedReads

/-- The adapter is connected: a `CONNECT` is answered, any other request goes on at once. -/
theorem Connecting.serverConnected {c c' : Connection Cryptor} {header : HTTPHeader} (h : Connecting env c header)
    (hs : step env c .serverConnected = some c') : Phase env c' := by
  obtain ⟨c₁, hhappen, hs⟩ := Option.bind_eq_some_iff.1 hs
  obtain ⟨server, hd, rfl⟩ := Option.map_eq_some_iff.1 hhappen
  obtain ⟨-, -, rfl⟩ := RawSocket.connected_eq_some.1 hd
  obtain ⟨a, ha⟩ := Option.isSome_iff_exists.1 h.adapter
  obtain ⟨hcan, -⟩ := h.adapterSocket a ha
  rw [handle, adapterDidConnect_eq (by exact ha), adapterReady,
    if_neg (by dsimp only; rw [h.cancelled]; exact Bool.false_ne_true), Connection.signalReady] at hs
  dsimp only at hs
  rw [h.readySignal, if_neg (by decide), Option.bind_some, respondTo] at hs
  dsimp only at hs
  rw [if_neg (by rw [h.proxy_open]; exact Bool.false_ne_true)] at hs
  -- the connection as the adapter leaves it, whatever is written back
  have halive : Alive { c with
      readySignal := 1, server := { c.server with connecting := false }
      adapterSocket := some { a with status := .established, kind := a.kind.start } } :=
    ⟨h.cancelled, h.delegate, h.closedCalls, h.client, h.status, h.client_closing, by rw [h.server, ha]; rfl,
      h.server_closing, fun a' ha' => by cases ha'; exact ⟨hcan, rfl⟩⟩
  have hrequested : Requested env { c with
      readySignal := 1, server := { c.server with connecting := false }
      adapterSocket := some { a with status := .established, kind := a.kind.start } } header :=
    ⟨halive, h.tunnel, h.proxy_open, h.run, h.answered, h.results, h.currentHeader, h.isConnectCommand, h.readStatus,
      h.client_reads, h.delayedReads⟩
  have hopening (writeStatus : HTTPProxyWriteStatus) (writes : Nat) (sent : Data) : Opening env { c with
      readySignal := 1, server := { c.server with connecting := false }
      adapterSocket := some { a with status := .established, kind := a.kind.start }
      proxySocket := { c.proxySocket with writeStatus }, client := { c.client with writes, sent } } header :=
    ⟨hrequested.congr rfl rfl, h.resolving, h.linked.change ha rfl rfl (List.append_nil _).symm fun _ hc => hc.start,
      rfl, h.server_reads, h.server_writes⟩
  have hready : ∀ a', some { a with status := .established, kind := a.kind.start } = some a' → a'.kind.Ready := by
    intro a' ha'
    cases ha'
    exact AdapterKind.ready_start a.kind
  split at hs
  · rename_i hconn
    rw [h.isConnectCommand] at hconn
    rw [proxyWrite, if_neg (by dsimp only; rw [h.proxy_open]; exact Bool.false_ne_true),
      RawSocket.write_of_not_closing (h.client_closing.trans h.proxy_open)] at hs
    cases hs
    refine .responding header ⟨hopening _ _ _, hconn, hready, rfl, rfl, rfl, ?_, ?_⟩
    · dsimp only; rw [h.client_writes]
    · dsimp only; rw [h.client_sent, List.nil_append]
  · rename_i hconn
    rw [h.isConnectCommand] at hconn
    rw [proxyReady, if_neg (by dsimp only; rw [h.cancelled]; exact Bool.false_ne_true)] at hs
    have hsent : c.client.sent = preface header := by rw [preface, if_neg hconn]; exact h.client_sent
    exact .forwarding (Prepared.signalReady ⟨hopening .forwarding c.client.writes c.client.sent, hready, rfl, rfl, rfl,
      h.client_writes, hsent⟩ hs)

/-- The response to a `CONNECT` is written. -/
theorem Responding.clientWrote {c c' : Connection Cryptor} {header : HTTPHeader} (h : Responding env c header)
    (hs : step env c .clientWrote = some c') : Forwarding env c' := by
  obtain ⟨c₁, hhappen, hs⟩ := Option.bind_eq_some_iff.1 hs
  obtain ⟨client, hd, rfl⟩ := Option.map_eq_some_iff.1 hhappen
  obtain ⟨-, n, hwrites, rfl⟩ := RawSocket.acknowledge_eq_some.1 hd
  have hn : n = 0 := by
    have := h.client_writes
    omega
  subst hn
  rw [handle, proxyDidWrite] at hs
  dsimp only at hs
  rw [if_pos h.writeStatus, proxyReady, if_neg (by dsimp only; rw [h.cancelled]; exact Bool.false_ne_true)] at hs
  have hsent : c.client.sent = preface header := by rw [preface, if_pos h.isConnect]; exact h.client_sent
  have hprepared : Prepared env { c with
      proxySocket := { c.proxySocket with writeStatus := .forwarding }, client := { c.client with writes := 0 } } header :=
    ⟨⟨h.toRequested.congr rfl rfl, h.resolving, h.linked.congr rfl rfl rfl rfl (List.append_nil _).symm, h.adapter,
      h.server_reads, h.server_writes⟩, h.ready, h.connecting, h.readySignal, rfl, rfl, hsent⟩
  exact hprepared.signalReady hs

/-! ## Forwarding -/

theorem Upstream.congr {c c' : Connection Cryptor} (h : Upstream c) (hreads : c'.client.reads = c.client.reads)
    (hproxy : c'.proxySocket = c.proxySocket) (hwrites : c'.server.writes = c.server.writes) : Upstream c' := by
  cases h with
  | reading r hr hrequest hexp hw =>
    exact .reading r (hreads.trans hr) (by rw [hproxy]; exact hrequest) (by rw [hproxy]; exact hexp) (hwrites.trans hw)
  | writing hr hw => exact .writing (hreads.trans hr) (hwrites.trans hw)

theorem Downstream.congr {c c' : Connection Cryptor} (h : Downstream c) (hreads : c'.server.reads = c.server.reads)
    (hwrites : c'.client.writes = c.client.writes) (hdelayed : c'.delayedReads = c.delayedReads) : Downstream c' := by
  cases h with
  | reading hr hw hd => exact .reading (hreads.trans hr) (hwrites.trans hw) (hdelayed.trans hd)
  | writing hr hw hd => exact .writing (hreads.trans hr) (hwrites.trans hw) (hdelayed.trans hd)
  | delayed hr hw hd => exact .delayed (hreads.trans hr) (hwrites.trans hw) (hdelayed.trans hd)

/-- A read of the client is passed on, or the proxy socket gives up. -/
theorem Forwarding.clientRead {c c' : Connection Cryptor} {d : Data} (h : Forwarding env c)
    (hs : step env c (.clientRead d) = some c') : Phase env c' := by
  obtain ⟨a, ha, hready⟩ := h.ready
  obtain ⟨r, hreads, hrequest, hexp, hwrites⟩ : ∃ r, c.client.reads = [r] ∧
      c.proxySocket.scanner.request = some r ∧ Expects c.proxySocket ∧ c.server.writes = 0 := by
    cases h.upstream with
    | reading r hreads hrequest hexp hwrites => exact ⟨r, hreads, hrequest, hexp, hwrites⟩
    | writing hreads hwrites =>
      rw [step_clientRead_eq_none hreads] at hs
      cases hs
  obtain ⟨c₁, hhappen, hs⟩ := Option.bind_eq_some_iff.1 hs
  obtain ⟨client, hd, rfl⟩ := Option.map_eq_some_iff.1 hhappen
  obtain ⟨-, r', reads, hreads', hans, rfl⟩ := RawSocket.deliver_eq_some.1 hd
  obtain ⟨rfl, rfl⟩ : r = r' ∧ [] = reads := List.cons.inj (hreads.symm.trans hreads')
  rw [handle] at hs
  rcases hin : c.proxySocket.scanner.input env.foundation d with _ | ⟨scanner, e | result⟩
  · simp only [proxyDidRead, hin, reduceCtorEq] at hs
  · simp only [proxyDidRead, hin, Option.some.injEq] at hs
    subst hs
    have halive : Alive { c with
        client := { c.client with reads := [], received := c.client.received ++ [d] }
        proxySocket := { c.proxySocket with scanner } } := h.toAlive.congr rfl
    have heq := Connection.proxyDisconnect.eq_1 { c with
        client := { c.client with reads := [], received := c.client.received ++ [d] }
        proxySocket := { c.proxySocket with scanner } }
    rw [if_neg (by dsimp only; rw [h.proxy_open]; exact Bool.false_ne_true)] at heq
    have hnext := halive.proxyDisconnect
    rw [heq] at hnext ⊢
    have hbounds := (Phase.forwarding h).bounds
    refine .dropped ⟨hnext, rfl, h.resolving, h.level.flow.congr rfl rfl rfl rfl rfl rfl, ?_, h.connecting, rfl, ?_,
      hbounds.2.2⟩
    · dsimp only
      rw [h.writeStatus]
      decide
    · simp only [Connection.upward, RawSocket.disconnect, hwrites, List.length_nil]
      omega
  · obtain ⟨currentHeader, p, hp, hs⟩ := proxyDidRead_eq (by exact hexp) (by exact hin) hs
    have halive : Alive { c with
        client := { c.client with reads := [], received := c.client.received ++ [d] }
        proxySocket := { c.proxySocket with scanner, currentHeader } } := h.toAlive.congr rfl
    obtain ⟨kind, out, ho, rfl⟩ := halive.didReadFromProxy ha hs
    obtain ⟨plain, header, hlinked, hfirst, hsent⟩ := h.level
    have hne : results env.foundation .initial c.client.received ≠ [] := by
      intro hnil
      rw [firstHeader, hnil] at hfirst
      cases hfirst
    refine .forwarding ⟨halive.congr ?_, h.proxy_open, h.tunnel, h.resolving, ?_, ?_, ?_, h.readStatus, h.writeStatus,
      ⟨_, rfl, hready.output ho⟩, h.connecting, ?_, h.downstream.congr rfl rfl rfl⟩
    · simp only [control, ha, Option.map_some]
    · rw [Lts.run_append_some]
      exact ⟨_, h.run, (run_singleton hin).1⟩
    · rw [Lts.meets_append]
      refine ⟨h.answered, fun s hrun => ?_⟩
      cases h.run.symm.trans hrun
      rw [Lts.meets_cons]
      exact ⟨⟨r, hrequest, hans⟩, fun _ _ => trivial⟩
    · refine ⟨plain, header, ?_, firstHeader_append hfirst [d], hsent⟩
      dsimp only
      rw [relayed_concat h.run hin hne hp]
      exact hlinked.write ha ho rfl rfl rfl rfl rfl
    · exact .writing rfl (by dsimp only; rw [hwrites])

/-- The client has taken some data: the next read of the server is put off. -/
theorem Forwarding.clientWrote {c c' : Connection Cryptor} (h : Forwarding env c)
    (hs : step env c .clientWrote = some c') : Forwarding env c' := by
  obtain ⟨c₁, hhappen, hs⟩ := Option.bind_eq_some_iff.1 hs
  obtain ⟨client, hd, rfl⟩ := Option.map_eq_some_iff.1 hhappen
  obtain ⟨-, n, hwrites, rfl⟩ := RawSocket.acknowledge_eq_some.1 hd
  rw [handle, proxyDidWrite] at hs
  dsimp only at hs
  rw [if_neg (by rw [h.writeStatus]; decide), didWriteByProxy,
    if_neg (by dsimp only; rw [h.cancelled]; exact Bool.false_ne_true)] at hs
  cases hs
  refine ⟨h.toAlive.congr rfl, h.proxy_open, h.tunnel, h.resolving, h.run, h.answered, ?_, h.readStatus, h.writeStatus,
    h.ready, h.connecting, h.upstream.congr rfl rfl rfl, ?_⟩
  · obtain ⟨plain, header, hlinked, hfirst, hsent⟩ := h.level
    exact ⟨plain, header, hlinked.congr rfl rfl rfl rfl (List.append_nil _).symm, hfirst, hsent⟩
  · cases h.downstream with
    | reading hr hw hd => omega
    | writing hr hw hd => exact .delayed hr (by dsimp only; omega) (by dsimp only; omega)
    | delayed hr hw hd => omega

/-- Data of the server is written to the client. -/
theorem Forwarding.serverRead {c c' : Connection Cryptor} {d : Data} (h : Forwarding env c)
    (hs : step env c (.serverRead d) = some c') : Forwarding env c' := by
  obtain ⟨a, ha, hready⟩ := h.ready
  obtain ⟨c₁, hhappen, hs⟩ := Option.bind_eq_some_iff.1 hs
  obtain ⟨server, hd, rfl⟩ := Option.map_eq_some_iff.1 hhappen
  obtain ⟨-, r, reads, hreads, -, rfl⟩ := RawSocket.deliver_eq_some.1 hd
  have halive : Alive { c with
      server := { c.server with reads, received := c.server.received ++ [d] }
      adapterSocket := some { a with kind := (a.kind.input env.lib d).1 } } :=
    h.toAlive.congr (by simp only [control, ha, Option.map_some])
  rw [handle, adapterDidRead_eq (by exact ha), halive.didReadFromAdapter h.proxy_open] at hs
  cases hs
  refine ⟨halive.congr rfl, h.proxy_open, h.tunnel, h.resolving, h.run, h.answered, ?_, h.readStatus, h.writeStatus,
    ⟨_, rfl, hready.input d⟩, h.connecting, h.upstream.congr rfl rfl rfl, ?_⟩
  · obtain ⟨plain, header, hlinked, hfirst, hsent⟩ := h.level
    refine ⟨plain ++ (a.kind.input env.lib d).2, header, ?_, hfirst, ?_⟩
    · exact hlinked.change ha rfl rfl (List.append_nil _).symm fun factory hc => hc.input d
    · dsimp only
      rw [hsent, List.append_assoc]
  · cases h.downstream with
    | reading hr hw hdelayed =>
      rw [hr] at hreads
      obtain ⟨-, rfl⟩ := List.cons.inj hreads
      exact .writing rfl (by dsimp only; omega) hdelayed
    | writing hr hw hd => rw [hr] at hreads; cases hreads
    | delayed hr hw hd => rw [hr] at hreads; cases hreads

/-- The server has taken some data: the client is read again. -/
theorem Forwarding.serverWrote {c c' : Connection Cryptor} (h : Forwarding env c)
    (hs : step env c .serverWrote = some c') : Forwarding env c' := by
  obtain ⟨a, ha, hready⟩ := h.ready
  obtain ⟨c₁, hhappen, hs⟩ := Option.bind_eq_some_iff.1 hs
  obtain ⟨server, hd, rfl⟩ := Option.map_eq_some_iff.1 hhappen
  obtain ⟨-, n, hwrites, rfl⟩ := RawSocket.acknowledge_eq_some.1 hd
  have halive : Alive { c with server := { c.server with writes := n } } := h.toAlive.congr rfl
  obtain ⟨r, hr⟩ := (framed_run h.answered h.run).request_isSome
  obtain ⟨readStatus, heq, hne, hexp⟩ := halive.proxyReadData env h.proxy_open h.readStatus hr
  rw [handle, adapterDidWrite_eq (by exact ha) hready, didWriteByAdapter,
    if_neg (by dsimp only; rw [h.cancelled]; exact Bool.false_ne_true), heq] at hs
  cases hs
  refine ⟨halive.congr rfl, h.proxy_open, h.tunnel, h.resolving, h.run, h.answered, ?_, hne, h.writeStatus,
    h.ready, h.connecting, ?_, h.downstream.congr rfl rfl rfl⟩
  · obtain ⟨plain, header, hlinked, hfirst, hsent⟩ := h.level
    exact ⟨plain, header, hlinked.congr rfl rfl rfl rfl (List.append_nil _).symm, hfirst, hsent⟩
  · cases h.upstream with
    | reading r' hreads _ _ hw => omega
    | writing hreads hw => exact .reading r (by dsimp only; rw [hreads]; rfl) hr hexp (by dsimp only; omega)

/-- The read that was put off. -/
theorem Forwarding.delayedRead {c c' : Connection Cryptor} (h : Forwarding env c)
    (hs : step env c .delayedRead = some c') : Forwarding env c' := by
  obtain ⟨a, ha, hready⟩ := h.ready
  obtain ⟨c₁, hhappen, hs⟩ := Option.bind_eq_some_iff.1 hs
  obtain ⟨hpos, heq⟩ := Option.ite_none_right_eq_some.1 hhappen
  cases heq
  have halive : Alive { c with delayedReads := c.delayedReads - 1 } := h.toAlive.congr rfl
  rw [handle, halive.adapterReadData ha] at hs
  cases hs
  refine ⟨halive.congr rfl, h.proxy_open, h.tunnel, h.resolving, h.run, h.answered, ?_, h.readStatus, h.writeStatus,
    h.ready, h.connecting, h.upstream.congr rfl rfl rfl, ?_⟩
  · obtain ⟨plain, header, hlinked, hfirst, hsent⟩ := h.level
    exact ⟨plain, header, hlinked.congr rfl rfl rfl rfl (List.append_nil _).symm, hfirst, hsent⟩
  · cases h.downstream with
    | reading hr hw hd => omega
    | writing hr hw hd => omega
    | delayed hr hw hd => exact .reading (by dsimp only; rw [hr]; rfl) hw (by dsimp only; omega)

/-! ## After the proxy socket has given up -/

theorem Dropped.clientWrote {c c' : Connection Cryptor} (h : Dropped env c)
    (hs : step env c .clientWrote = some c') : Dropped env c' := by
  obtain ⟨c₁, hhappen, hs⟩ := Option.bind_eq_some_iff.1 hs
  obtain ⟨client, hd, rfl⟩ := Option.map_eq_some_iff.1 hhappen
  obtain ⟨-, n, hwrites, rfl⟩ := RawSocket.acknowledge_eq_some.1 hd
  rw [handle, proxyDidWrite] at hs
  dsimp only at hs
  rw [if_neg h.writeStatus, didWriteByProxy, if_neg (by dsimp only; rw [h.cancelled]; exact Bool.false_ne_true)] at hs
  cases hs
  refine ⟨h.toAlive.congr rfl, h.proxy_cancelled, h.resolving, h.flow.congr rfl rfl rfl rfl (List.append_nil _).symm rfl,
    h.writeStatus, h.connecting, h.client_reads, h.upward, ?_⟩
  have hdown := h.downward
  simp only [Connection.downward, hwrites] at hdown ⊢
  omega

/-- Data of the server is lost. -/
theorem Dropped.serverRead {c c' : Connection Cryptor} {d : Data} (h : Dropped env c)
    (hs : step env c (.serverRead d) = some c') : Dropped env c' := by
  obtain ⟨c₁, hhappen, hs⟩ := Option.bind_eq_some_iff.1 hs
  obtain ⟨server, hd, rfl⟩ := Option.map_eq_some_iff.1 hhappen
  obtain ⟨hthere, r, reads, hreads, -, rfl⟩ := RawSocket.deliver_eq_some.1 hd
  obtain ⟨a, ha, -⟩ := h.server_open hthere
  rw [handle, adapterDidRead_eq (by exact ha), didReadFromAdapter,
    if_neg (by dsimp only; rw [h.cancelled]; exact Bool.false_ne_true), proxyWrite, if_pos h.proxy_cancelled] at hs
  cases hs
  refine ⟨h.toAlive.congr (by simp only [control, ha, Option.map_some]), h.proxy_cancelled, h.resolving,
    h.flow.serverRead ha, h.writeStatus, h.connecting, h.client_reads, h.upward, ?_⟩
  have hdown := h.downward
  simp only [Connection.downward, hreads, List.length_cons] at hdown ⊢
  omega

theorem Dropped.serverWrote {c c' : Connection Cryptor} (h : Dropped env c)
    (hs : step env c .serverWrote = some c') : Dropped env c' := by
  obtain ⟨c₁, hhappen, hs⟩ := Option.bind_eq_some_iff.1 hs
  obtain ⟨server, hd, rfl⟩ := Option.map_eq_some_iff.1 hhappen
  obtain ⟨-, n, hwrites, rfl⟩ := RawSocket.acknowledge_eq_some.1 hd
  have hread : didWriteByAdapter env { c with server := { c.server with writes := n } } =
      some { c with server := { c.server with writes := n } } := by
    rw [didWriteByAdapter, if_neg (by dsimp only; rw [h.cancelled]; exact Bool.false_ne_true), proxyReadData]
    exact if_pos h.proxy_cancelled
  have hdone : c' = { c with server := { c.server with writes := n } } := by
    rw [handle, adapterDidWrite, hread] at hs
    split at hs
    · exact (Option.some.inj hs).symm
    · split at hs
      · exact (Option.some.inj hs).symm
      · split at hs <;> exact (Option.some.inj hs).symm
  subst hdone
  refine ⟨h.toAlive.congr rfl, h.proxy_cancelled, h.resolving, h.flow.congr rfl rfl rfl rfl (List.append_nil _).symm rfl,
    h.writeStatus, h.connecting, h.client_reads, ?_, h.downward⟩
  have hup := h.upward
  simp only [Connection.upward, hwrites] at hup ⊢
  omega

theorem Dropped.delayedRead {c c' : Connection Cryptor} (h : Dropped env c)
    (hs : step env c .delayedRead = some c') : Dropped env c' := by
  obtain ⟨c₁, hhappen, hs⟩ := Option.bind_eq_some_iff.1 hs
  obtain ⟨hpos, heq⟩ := Option.ite_none_right_eq_some.1 hhappen
  cases heq
  obtain ⟨reads, hreads, hlen⟩ := adapterReadData_eq { c with delayedReads := c.delayedReads - 1 }
  rw [handle, hreads] at hs
  cases hs
  refine ⟨h.toAlive.congr rfl, h.proxy_cancelled, h.resolving, h.flow.congr rfl rfl rfl rfl (List.append_nil _).symm rfl,
    h.writeStatus, h.connecting, h.client_reads, h.upward, ?_⟩
  have hdown := h.downward
  dsimp only at hlen
  simp only [Connection.downward] at hdown ⊢
  omega

/-! ## Every step -/

theorem Phase.ends {c c' : Connection Cryptor} {e : Event} (h : Phase env c) (ha : Alive c) (he : e.Ends)
    (hs : step env c e = some c') : Phase env c' := by
  obtain ⟨hflow, hup, hdown⟩ := h.bounds
  have hebb := ha.ends hflow he hs
  exact .cancelled hebb.cancelled hebb.flow (hebb.upward.trans hup) (hebb.downward.trans hdown)

theorem Requested.serverGone {c : Connection Cryptor} {header : HTTPHeader} (h : Requested env c header) :
    Requested env { c with server := { c.server with gone := true } } header := h.congr rfl rfl

theorem Opening.serverGone {c : Connection Cryptor} {header : HTTPHeader} (h : Opening env c header) :
    Opening env { c with server := { c.server with gone := true } } header :=
  ⟨h.toRequested.serverGone, h.resolving, h.linked.congr rfl rfl rfl rfl (List.append_nil _).symm, h.adapter,
    h.server_reads, h.server_writes⟩

/-- A connection that has lost its server is told so later. -/
theorem Phase.serverGone {c c' : Connection Cryptor} (h : Phase env c) (hs : step env c .serverGone = some c') :
    Phase env c' := by
  cases h with
  | reading hc =>
    subst hc
    cases hs
  | resolving header session hk hres =>
    rw [step, happen, hk.server_new] at hs
    cases hs
  | connecting header hc =>
    cases step_serverGone_eq_some hs
    exact .connecting header ⟨hc.toOpening.serverGone, hc.readySignal, hc.writeStatus, hc.client_writes, hc.client_sent⟩
  | responding header hr =>
    cases step_serverGone_eq_some hs
    exact .responding header ⟨hr.toOpening.serverGone, hr.isConnect, hr.ready, hr.connecting, hr.readySignal,
      hr.writeStatus, hr.client_writes, hr.client_sent⟩
  | forwarding hf =>
    cases step_serverGone_eq_some hs
    have hstill : Still c { c with server := { c.server with gone := true } } :=
      ⟨rfl, rfl, rfl, rfl, rfl, rfl, rfl, .inr rfl, Nat.le_refl _, Nat.le_refl _⟩
    exact .forwarding ⟨hf.toAlive.congr rfl, hf.proxy_open, hf.tunnel, hf.resolving, hf.run, hf.answered,
      hf.level.still hstill, hf.readStatus, hf.writeStatus, hf.ready, hf.connecting, hf.upstream.congr rfl rfl rfl,
      hf.downstream.congr rfl rfl rfl⟩
  | dropped hd =>
    cases step_serverGone_eq_some hs
    exact .dropped ⟨hd.toAlive.congr rfl, hd.proxy_cancelled, hd.resolving,
      hd.flow.congr rfl rfl rfl rfl (List.append_nil _).symm rfl, hd.writeStatus, hd.connecting, hd.client_reads,
      hd.upward, hd.downward⟩
  | cancelled hc hflow hup hdown =>
    have hebb := hc.step hflow hs
    exact .cancelled hebb.cancelled hebb.flow (hebb.upward.trans hup) (hebb.downward.trans hdown)

theorem Phase.alive_or_cancelled {c : Connection Cryptor} (h : Phase env c) : Alive c ∨ Cancelled c := by
  cases h with
  | reading hc => subst hc; exact .inl alive_didAcceptNewSocket
  | resolving header session hk hres => exact .inl hk.toAlive
  | connecting header hc => exact .inl hc.toAlive
  | responding header hr => exact .inl hr.toAlive
  | forwarding hf => exact .inl hf.toAlive
  | dropped hd => exact .inl hd.toAlive
  | cancelled hc hflow hup hdown => exact .inr hc

theorem Phase.of_cancelled {c c' : Connection Cryptor} {e : Event} (h : Phase env c) (hc : Cancelled c)
    (hs : step env c e = some c') : Phase env c' := by
  obtain ⟨hflow, hup, hdown⟩ := h.bounds
  have hebb := hc.step hflow hs
  exact .cancelled hebb.cancelled hebb.flow (hebb.upward.trans hup) (hebb.downward.trans hdown)

/-- The events that every phase takes alike. -/
def Event.shared : Event → Bool
  | .clientDisconnected => true
  | .serverDisconnected => true
  | .serverFailed => true
  | .serverGone => true
  | .forceClose => true
  | _ => false

theorem Phase.shared {c c' : Connection Cryptor} {e : Event} (h : Phase env c) (he : e.shared = true)
    (hs : step env c e = some c') : Phase env c' := by
  rcases h.alive_or_cancelled with ha | hc
  · cases e with
    | clientDisconnected => exact h.ends ha .clientDisconnected hs
    | serverDisconnected => exact h.ends ha .serverDisconnected hs
    | serverFailed => exact h.ends ha .serverFailed hs
    | forceClose => exact h.ends ha .forceClose hs
    | serverGone => exact h.serverGone hs
    | _ => cases he
  · exact h.of_cancelled hc hs

/-- A connection that waits for the resolver goes on when it is answered, or ends. -/
theorem Known.step {c c' : Connection Cryptor} {header : HTTPHeader} {session : ConnectSession} {e : Event}
    (h : Known env c header session) (hres : c.resolving = some session) (hflow : Flow env c)
    (hs : step env c e = some c') : Connecting env c' header ∨ Ebb env c c' := by
  have disabled {o : Option (Connection Cryptor)} (ho : o = none) (hs : o = some c') :
      Connecting env c' header ∨ Ebb env c c' := by
    rw [ho] at hs
    cases hs
  cases e with
  | clientRead d => exact disabled (step_clientRead_eq_none h.client_reads d) hs
  | clientWrote => exact disabled (step_clientWrote_eq_none h.client_writes) hs
  | clientDisconnected => exact .inr (h.toAlive.ends hflow .clientDisconnected hs)
  | serverConnected => exact disabled (step_serverConnected_eq_none (by rw [h.server_new]; rfl)) hs
  | serverRead d => exact disabled (step_serverRead_eq_none (by rw [h.server_new]; rfl) d) hs
  | serverWrote => exact disabled (step_serverWrote_eq_none (by rw [h.server_new]; rfl)) hs
  | serverDisconnected => exact .inr (h.toAlive.ends hflow .serverDisconnected hs)
  | serverGone => exact disabled (by rw [Connection.step, happen, h.server_new]; rfl) hs
  | serverFailed => exact .inr (h.toAlive.ends hflow .serverFailed hs)
  | resolved ips => exact .inl (h.resolved_step hres hs)
  | delayedRead => exact disabled (step_delayedRead_eq_none h.delayedReads) hs
  | forceClose => exact .inr (h.toAlive.ends hflow .forceClose hs)

/-- Every step leads from a phase to a phase. -/
theorem Phase.step {c c' : Connection Cryptor} {e : Event} (h : Phase env c) (hs : step env c e = some c') :
    Phase env c' := by
  have disabled {o : Option (Connection Cryptor)} (ho : o = none) (hs : o = some c') : Phase env c' := by
    rw [ho] at hs
    cases hs
  cases h with
  | reading hc =>
    subst hc
    cases e with
    | clientRead d => exact .firstRead hs
    | clientWrote => exact disabled (step_clientWrote_eq_none rfl) hs
    | serverConnected => exact disabled (step_serverConnected_eq_none rfl) hs
    | serverRead d => exact disabled (step_serverRead_eq_none rfl d) hs
    | serverWrote => exact disabled (step_serverWrote_eq_none rfl) hs
    | resolved ips => exact disabled (step_resolved_eq_none rfl ips) hs
    | delayedRead => exact disabled (step_delayedRead_eq_none rfl) hs
    | _ => exact Phase.shared (.reading rfl) rfl hs
  | resolving header session hk hres =>
    obtain ⟨hflow, hup, hdown⟩ := (Phase.resolving header session hk hres).bounds
    rcases hk.step hres hflow hs with hc | hebb
    · exact .connecting header hc
    · exact .cancelled hebb.cancelled hebb.flow (hebb.upward.trans hup) (hebb.downward.trans hdown)
  | connecting header hc =>
    cases e with
    | clientRead d => exact disabled (step_clientRead_eq_none hc.client_reads d) hs
    | clientWrote => exact disabled (step_clientWrote_eq_none hc.client_writes) hs
    | serverConnected => exact hc.serverConnected hs
    | serverRead d => exact disabled (step_serverRead_eq_none hc.server_reads d) hs
    | serverWrote => exact disabled (step_serverWrote_eq_none hc.server_writes) hs
    | resolved ips => exact disabled (step_resolved_eq_none hc.resolving ips) hs
    | delayedRead => exact disabled (step_delayedRead_eq_none hc.delayedReads) hs
    | _ => exact Phase.shared (.connecting header hc) rfl hs
  | responding header hr =>
    cases e with
    | clientRead d => exact disabled (step_clientRead_eq_none hr.client_reads d) hs
    | clientWrote => exact .forwarding (hr.clientWrote hs)
    | serverConnected => exact disabled (step_serverConnected_eq_none hr.connecting) hs
    | serverRead d => exact disabled (step_serverRead_eq_none hr.server_reads d) hs
    | serverWrote => exact disabled (step_serverWrote_eq_none hr.server_writes) hs
    | resolved ips => exact disabled (step_resolved_eq_none hr.resolving ips) hs
    | delayedRead => exact disabled (step_delayedRead_eq_none hr.delayedReads) hs
    | _ => exact Phase.shared (.responding header hr) rfl hs
  | forwarding hf =>
    cases e with
    | clientRead d => exact hf.clientRead hs
    | clientWrote => exact .forwarding (hf.clientWrote hs)
    | serverConnected => exact disabled (step_serverConnected_eq_none hf.connecting) hs
    | serverRead d => exact .forwarding (hf.serverRead hs)
    | serverWrote => exact .forwarding (hf.serverWrote hs)
    | resolved ips => exact disabled (step_resolved_eq_none hf.resolving ips) hs
    | delayedRead => exact .forwarding (hf.delayedRead hs)
    | _ => exact Phase.shared (.forwarding hf) rfl hs
  | dropped hd =>
    cases e with
    | clientRead d => exact disabled (step_clientRead_eq_none hd.client_reads d) hs
    | clientWrote => exact .dropped (hd.clientWrote hs)
    | serverConnected => exact disabled (step_serverConnected_eq_none hd.connecting) hs
    | serverRead d => exact .dropped (hd.serverRead hs)
    | serverWrote => exact .dropped (hd.serverWrote hs)
    | resolved ips => exact disabled (step_resolved_eq_none hd.resolving ips) hs
    | delayedRead => exact .dropped (hd.delayedRead hs)
    | _ => exact Phase.shared (.dropped hd) rfl hs
  | cancelled hc hflow hup hdown => exact Phase.of_cancelled (.cancelled hc hflow hup hdown) hc hs

/-- A connection that has asked the resolver does not ask it again. -/
theorem Phase.resolving_step {c c' : Connection Cryptor} {e : Event} {session : ConnectSession} (h : Phase env c)
    (hres : c.resolving = some session) (hs : Connection.step env c e = some c') :
    c'.resolving = none ∨ c'.resolving = some session := by
  have idle (hnone : c.resolving = none) : c'.resolving = none ∨ c'.resolving = some session := by
    rw [hnone] at hres
    cases hres
  have hflow := h.bounds.1
  cases h with
  | reading hc => exact idle (by rw [hc]; rfl)
  | resolving header session' hk hres' =>
    rcases hk.step hres' hflow hs with hc | hebb
    · exact .inl hc.resolving
    · rw [← hres]; exact hebb.resolving
  | connecting header hc => exact idle hc.resolving
  | responding header hr => exact idle hr.resolving
  | forwarding hf => exact idle hf.resolving
  | dropped hd => exact idle hd.resolving
  | cancelled hc hflow hup hdown => rw [← hres]; exact (hc.step hflow hs).resolving

/-- Every connection is in a phase, whatever has happened to it. -/
theorem phase_run {es : List Event} {c : Connection Cryptor} (h : Lts.run (step env) didAcceptNewSocket es = some c) :
    Phase env c :=
  Lts.run_invariant (fun _ _ _ hi hs => hi.step hs) (.reading rfl) h

/-- The proxy server is told of no end more than once, and never untold. -/
theorem Phase.closedCalls_step {c c' : Connection Cryptor} {e : Event} (h : Phase env c)
    (hs : Connection.step env c e = some c') : c.closedCalls ≤ c'.closedCalls ∧ c'.closedCalls ≤ 1 := by
  have hle : c'.closedCalls ≤ 1 := by
    rcases (h.step hs).alive_or_cancelled with ha' | hc'
    · rw [ha'.closedCalls]; exact Nat.zero_le 1
    · rw [hc'.closedCalls]; cases c'.delegate <;> decide
  refine ⟨?_, hle⟩
  rcases h.alive_or_cancelled with ha | hc
  · rw [ha.closedCalls]; exact Nat.zero_le _
  · have hebb := hc.step h.bounds.1 hs
    rw [hc.closedCalls, hebb.cancelled.closedCalls]
    cases hd : c.delegate with
    | true => exact Nat.zero_le _
    | false => rw [hebb.delegate hd]

/-- A connection that forwards and has not given up on its client is in the phase for that. -/
theorem Phase.forwarding_of_status {c : Connection Cryptor} (h : Phase env c) (hstatus : c.status = .forwarding)
    (ho : c.proxySocket.cancelled = false) : Forwarding env c := by
  cases h with
  | reading hc => subst hc; cases hstatus
  | resolving header session hk hres => rw [hk.tunnel] at hstatus; cases hstatus
  | connecting header hc => rw [hc.tunnel] at hstatus; cases hstatus
  | responding header hr => rw [hr.tunnel] at hstatus; cases hstatus
  | forwarding hf => exact hf
  | dropped hd => rw [hd.proxy_cancelled] at ho; cases ho
  | cancelled hc hflow hup hdown =>
    rw [hc.status] at hstatus
    split at hstatus <;> cases hstatus

end Connection

end VpnSs.NEKit
