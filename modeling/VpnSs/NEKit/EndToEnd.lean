/-
What every connection keeps to, whatever its ends do and in whatever order: what each end is sent, how
much is under way, how it closes; and what a Shadowsocks server at the other end makes of it.
-/
import VpnSs.NEKit.Forwarding

namespace VpnSs.NEKit

open VpnSs.Swift VpnSs.Stream HTTPStreamScanner

/-! ## The wire of an adapter -/

namespace Processors

variable {Cryptor : Type} {lib : Libraries Cryptor} {key : Data} {algorithm : CryptoAlgorithm} {writeIV : Data}
  {session : ConnectSession}

/-- What a server with the key has decrypted of a beginning of the wire. -/
theorem decrypt_wire (hkey : key.length = getKeyLength algorithm) (hiv : writeIV.length = getIVLength algorithm)
    (ws ds : List Data) (random : Nat → UInt8)
    (hds : ds.flatten <+: wire lib key algorithm writeIV session ws) :
    (run (CryptoStreamProcessor.input lib) (.create key algorithm random) ds).2 <+:
        (framed ((OriginStreamObfuscater.requestData session []).getD []) ws).flatten ∧
      (ds.flatten = wire lib key algorithm writeIV session ws →
        (run (CryptoStreamProcessor.input lib) (.create key algorithm random) ds).2 =
          (framed ((OriginStreamObfuscater.requestData session []).getD []) ws).flatten) := by
  have hreads := @CryptoStreamProcessor.reads_create Cryptor key algorithm random
  rw [((CryptoStreamProcessor.input_refines lib key algorithm).run_eq hreads ds).2]
  have hdecodes := CryptoStreamProcessor.decodes_writer lib hkey hiv
  have hseamless := CryptoStreamProcessor.seamless_reader lib key algorithm
  have hsettled := CryptoStreamProcessor.settled_reader lib key algorithm
  exact ⟨hdecodes.run_part hseamless hsettled hds, fun heq => hdecodes.run_run hseamless hsettled heq⟩

/-- What a chain has given on of a beginning of what a server has encrypted. -/
theorem Received.plain_of_output {s : Processors Cryptor} {rs cs : List Data} {plain : Data} {random : Nat → UInt8}
    (h : Received lib key algorithm s rs plain) (hkey : key.length = getKeyLength algorithm)
    (hrs : rs.flatten <+: (run (CryptoStreamProcessor.output lib) (.create key algorithm random) cs).2) :
    plain <+: cs.flatten ∧
      (rs.flatten = (run (CryptoStreamProcessor.output lib) (.create key algorithm random) cs).2 → plain = cs.flatten) := by
  have hdecodes := CryptoStreamProcessor.decodes_output lib hkey random
  have hseamless := CryptoStreamProcessor.seamless_reader lib key algorithm
  have hsettled := CryptoStreamProcessor.settled_reader lib key algorithm
  rw [h.plain_eq]
  exact ⟨hdecodes.run_part hseamless hsettled hrs, fun heq => hdecodes.run_run hseamless hsettled heq⟩

end Processors

namespace Connection

variable {Cryptor : Type} {env : Environment Cryptor}

/-! ## A sample run -/

def sampleAdapterFactory : ShadowsocksAdapterFactory :=
  { serverHost := text "1.2.3.4", serverPort := 8388, password := text "pw", algorithm := .CHACHA20 }

/-- An environment in which one address is known and every connection goes through the sample server. -/
def sampleEnvironment : Environment Nat where
  lib := .keystream fun n => UInt8.ofNat (7 * n + 1)
  foundation := .fixed ⟨none, none⟩
  os := { inet_pton4 := fun t => if t = text "9.9.9.9" then some 0x09090909 else none
          inet_pton6 := fun t => if t = text "::1" then some 1 else none
          resolve := fun _ => []
          inet_pton4_nil := by decide
          inet_pton6_nil := by decide
          resolve_presentation := fun _ h => absurd rfl h }
  globals := .initial
  currentManager := .fromRules [.all (.shadowsocks sampleAdapterFactory)] false
  random := fun n => UInt8.ofNat n

def sampleHeader : HTTPHeader :=
  { HTTPVersion := "HTTP/1.1".toList, method := "CONNECT".toList, isConnect := true, path := "9.9.9.9:443".toList,
    host := "9.9.9.9".toList, port := 443, contentLength := 0, headers := [] }

/-- What the client sends first. -/
def sampleRequest : Data := encodeUTF8 "CONNECT 9.9.9.9:443 HTTP/1.1\r\n\r\n".toList

theorem ofData_sampleRequest : HTTPHeader.ofData sampleEnvironment.foundation sampleRequest = .ok sampleHeader := by
  rw [HTTPHeader.ofData, sampleRequest, decodeUTF8_encodeUTF8]
  decide

def sampleEvents : List Event :=
  [.clientRead sampleRequest, .serverConnected, .clientWrote, .clientRead [1, 2, 3], .serverWrote,
    .serverRead (List.replicate 20 0)]

theorem input_of_ofData {f : Foundation} {d : Data} {header : HTTPHeader} (h : HTTPHeader.ofData f d = .ok header) :
    HTTPStreamScanner.initial.input f d = some (accept .initial header, .ok (.header header)) := by
  have hread : readHeader f .initial d = .ok header := by
    rw [readHeader, h]; rfl
  rw [input, hread]
  rfl

/-- The connection that has opened the adapter for the request. -/
def sampleOpened : Connection Nat :=
  let session : ConnectSession :=
    { requestedHost := text "9.9.9.9", host := text "9.9.9.9", port := 443,
      matchedRule := some (.all (.shadowsocks sampleAdapterFactory)), fakeIPEnabled := true,
      ipAddress := some (text "9.9.9.9"), country := none }
  let opened := openSocket sampleEnvironment (.shadowsocks sampleAdapterFactory) session
  { (didAcceptNewSocket : Connection Nat) with
    status := .waitingToBeReady
    proxySocket := { HTTPProxySocket.new with
      scanner := accept .initial sampleHeader, currentHeader := some sampleHeader, isConnectCommand := true,
      readStatus := .readingContent }
    adapterSocket := some opened.1, server := opened.2, client := { RawSocket.accepted with received := [sampleRequest] } }

theorem step_sampleRequest :
    step sampleEnvironment didAcceptNewSocket (.clientRead sampleRequest) = some sampleOpened := by
  have hdeliver : (RawSocket.accepted.read (.pattern DoubleCRLF)).deliver sampleRequest =
      some { RawSocket.accepted with received := [sampleRequest] } := by decide
  have hhappen : (didAcceptNewSocket : Connection Nat).happen (.clientRead sampleRequest) =
      some { didAcceptNewSocket with client := { RawSocket.accepted with received := [sampleRequest] } } := by
    rw [happen, didAcceptNewSocket, hdeliver]; rfl
  rw [step, hhappen, Option.bind_some, handle, proxyDidRead]
  dsimp only [didAcceptNewSocket, HTTPProxySocket.new]
  rw [input_of_ofData ofData_sampleRequest]
  rfl

/-- The run forwards, through the adapter of the sample server. -/
theorem run_sampleEvents : ∃ c, Lts.run (step sampleEnvironment) didAcceptNewSocket sampleEvents = some c ∧
    c.status = .forwarding ∧ c.proxySocket.cancelled = false ∧ c.server.sent ≠ [] ∧
      c.server.received = [List.replicate 20 0] ∧
        ∃ session internalStatus processors, c.link = some (session, .shadowsocks internalStatus processors) := by
  rw [sampleEvents, Lts.run_cons, step_sampleRequest, Option.bind_some]
  exact ⟨_, rfl, rfl, rfl, List.cons_ne_nil _ _, rfl, _, _, _, rfl⟩

theorem factory_of_opened {header : HTTPHeader} {factory : ShadowsocksAdapterFactory} {session : ConnectSession}
    (h : Opened sampleEnvironment header (.shadowsocks factory) session) : factory = sampleAdapterFactory := by
  obtain ⟨requested, ip, hcreate, hmatch⟩ := h
  cases hcreate
  cases hmatch
  rfl

/-! ## Whole runs -/

/-- In every state of a connection the server's socket has been sent, through the adapter that the manager
picked for the host and port of the first header, what a beginning of the client's reads comes to, and the
client's socket a beginning of the response to a `CONNECT` and of what the adapter has made of the server's
data. While the connection forwards and has not given up its client, neither is short of anything. -/
theorem tunnel_forwards {es : List Event} {c : Connection Cryptor}
    (h : Lts.run (step env) didAcceptNewSocket es = some c) :
    (∃ ws plain, Linked env c ws plain ∧ ws <+: relayed env.foundation c.client.received ∧
      (c.client.sent = [] ∨ ∃ header, firstHeader env.foundation c.client.received = some header ∧
        c.client.sent <+: preface header ++ plain)) ∧
    (c.status = .forwarding → c.proxySocket.cancelled = false →
      ∃ plain header, Linked env c (relayed env.foundation c.client.received) plain ∧
        firstHeader env.foundation c.client.received = some header ∧ c.client.sent = preface header ++ plain) := by
  have hphase := phase_run h
  exact ⟨hphase.bounds.1, fun hstatus ho => (hphase.forwarding_of_status hstatus ho).level⟩

theorem tunnel_forwards_sample : ∃ c plain header, Lts.run (step sampleEnvironment) didAcceptNewSocket sampleEvents = some c ∧
    Linked sampleEnvironment c (relayed sampleEnvironment.foundation c.client.received) plain ∧
      firstHeader sampleEnvironment.foundation c.client.received = some header ∧ c.client.sent = preface header ++ plain := by
  obtain ⟨c, hrun, hstatus, ho, -⟩ := run_sampleEvents
  obtain ⟨plain, header, hlevel⟩ := (tunnel_forwards hrun).2 hstatus ho
  exact ⟨c, plain, header, hrun, hlevel⟩

/-- A connection asks for a read only when the last one was answered, and for a write only when the last
one was taken, in each direction one at a time; while it forwards and has not given up its client there is always
one under way, so that neither direction stops. -/
theorem tunnel_paces {es : List Event} {c : Connection Cryptor}
    (h : Lts.run (step env) didAcceptNewSocket es = some c) :
    c.client.reads.length + c.server.writes ≤ 1 ∧ c.server.reads.length + c.client.writes + c.delayedReads ≤ 1 ∧
      (c.status = .forwarding → c.proxySocket.cancelled = false →
        c.client.reads.length + c.server.writes = 1 ∧
          c.server.reads.length + c.client.writes + c.delayedReads = 1) := by
  have hphase := phase_run h
  obtain ⟨-, hup, hdown⟩ := hphase.bounds
  refine ⟨hup, hdown, fun hstatus ho => ?_⟩
  have hf := hphase.forwarding_of_status hstatus ho
  constructor
  · cases hf.upstream with
    | reading r hr _ _ hw => rw [hr, hw]; rfl
    | writing hr hw => rw [hr, hw]; rfl
  · cases hf.downstream with
    | reading hr hw hd => rw [hr, hw, hd]; rfl
    | writing hr hw hd => rw [hr, hw, hd]; rfl
    | delayed hr hw hd => rw [hr, hw, hd]; rfl

theorem tunnel_paces_sample : ∃ c, Lts.run (step sampleEnvironment) didAcceptNewSocket sampleEvents = some c ∧
    c.client.reads.length + c.server.writes = 1 ∧ c.server.reads.length + c.client.writes + c.delayedReads = 1 := by
  obtain ⟨c, hrun, hstatus, ho, -⟩ := run_sampleEvents
  exact ⟨c, hrun, (tunnel_paces hrun).2.2 hstatus ho⟩

/-- After the cancellation a run sends nothing to either end. -/
theorem Cancelled.run {c c' : Connection Cryptor} {es : List Event} (h : Cancelled c) (hflow : Flow env c)
    (hr : Lts.run (Connection.step env) c es = some c') :
    Cancelled c' ∧ c'.client.sent = c.client.sent ∧ c'.server.sent = c.server.sent := by
  have hstep : ∀ d e d', (Cancelled d ∧ Flow env d ∧ d.client.sent = c.client.sent ∧ d.server.sent = c.server.sent) →
      Connection.step env d e = some d' →
      Cancelled d' ∧ Flow env d' ∧ d'.client.sent = c.client.sent ∧ d'.server.sent = c.server.sent := by
    rintro d e d' ⟨hd, hflow, hcs, hss⟩ hs
    have hebb := hd.step hflow hs
    exact ⟨hebb.cancelled, hebb.flow, hebb.client_sent.trans hcs, hebb.server_sent.trans hss⟩
  have hinv := Lts.run_invariant hstep ⟨h, hflow, rfl, rfl⟩ hr
  exact ⟨hinv.1, hinv.2.2⟩

/-- The proxy server is told of the end of a connection at most once, not before the connection is
cancelled, and then by the time that both its raw sockets have reported to be disconnected. A connection
that is cancelled stays so, has told each raw socket that is still there to disconnect, and sends nothing
any more. -/
theorem tunnel_ends {es : List Event} {c : Connection Cryptor}
    (h : Lts.run (step env) didAcceptNewSocket es = some c) :
    c.closedCalls ≤ 1 ∧ (c.cancelled = false → c.closedCalls = 0 ∧ c.client.closing = c.proxySocket.cancelled) ∧
      (c.cancelled = true →
        (c.client.delegate = true → c.client.closing = true) ∧ (c.server.delegate = true → c.server.closing = true) ∧
        (c.client.delegate = false → c.server.delegate = false → c.closedCalls = 1) ∧
        ∀ fs c', Lts.run (step env) c fs = some c' →
          c'.cancelled = true ∧ c'.client.sent = c.client.sent ∧ c'.server.sent = c.server.sent) := by
  have hphase := phase_run h
  rcases hphase.alive_or_cancelled with ha | hc
  · refine ⟨by rw [ha.closedCalls]; exact Nat.zero_le 1, fun _ => ⟨ha.closedCalls, ha.client_closing⟩, fun hcan => ?_⟩
    rw [ha.cancelled] at hcan
    cases hcan
  · refine ⟨?_, fun hcan => ?_, fun _ => ⟨fun hd => (hc.client_open hd).2.2, fun hd => ?_,
      fun hcd hsd => hc.closedCalls_of_done hcd hsd, fun fs c' hr => ?_⟩⟩
    · rw [hc.closedCalls]
      cases c.delegate <;> decide
    · rw [hc.cancelled] at hcan
      cases hcan
    · obtain ⟨a, -, hclosing⟩ := hc.server_open hd
      exact hclosing
    · obtain ⟨hc', hsent⟩ := hc.run hphase.bounds.1 hr
      exact ⟨hc'.cancelled, hsent⟩

theorem tunnel_ends_sample : ∃ c, Lts.run (step sampleEnvironment) didAcceptNewSocket (sampleEvents ++ [.forceClose]) = some c ∧
    c.cancelled = true ∧ c.closedCalls ≤ 1 ∧ (c.client.delegate = true → c.client.closing = true) := by
  obtain ⟨c, hclose, hnow⟩ : ∃ c, Lts.run (step sampleEnvironment) didAcceptNewSocket (sampleEvents ++ [.forceClose]) = some c ∧
      c.cancelled = true := by
    rw [sampleEvents, List.cons_append, Lts.run_cons, step_sampleRequest, Option.bind_some]
    exact ⟨_, rfl, rfl⟩
  obtain ⟨hcalls, -, hends⟩ := tunnel_ends hclose
  exact ⟨c, hclose, hnow, hcalls, (hends hnow).1⟩

/-! ## A Shadowsocks server at the other end -/

theorem Linked.shadowsocks {c : Connection Cryptor} {ws : List Data} {plain : Data} {session : ConnectSession}
    {internalStatus : ShadowsocksAdapterStatus} {processors : Processors Cryptor} (h : Linked env c ws plain)
    (hlink : c.link = some (session, .shadowsocks internalStatus processors)) :
    ∃ header factory, firstHeader env.foundation c.client.received = some header ∧
      Opened env header (.shadowsocks factory) session ∧
      c.server.target = some (factory.serverHost, factory.serverPort) ∧
      processors.Sent env.lib (getKey env.lib factory.password factory.algorithm) factory.algorithm
        (getIV env.random factory.algorithm) session ws c.server.sent ∧
      processors.Received env.lib (getKey env.lib factory.password factory.algorithm) factory.algorithm
        c.server.received plain := by
  cases h with
  | unlinked hl => rw [hl] at hlink; cases hlink
  | linked header factory session' kind hl hfirst hopen ht hc =>
    cases hl.symm.trans hlink
    cases hc with
    | shadowsocks hs hr => exact ⟨header, _, hfirst, hopen, ht, hs, hr⟩

theorem flatten_of_isPrefix {ws vs : List Data} (h : ws <+: vs) : ws.flatten <+: vs.flatten := by
  obtain ⟨rest, rfl⟩ := h
  rw [List.flatten_append]
  exact List.prefix_append _ _

/-- A Shadowsocks server with the password of the adapter has been sent nothing or decrypts, of whatever has
reached it in whatever chunks, a beginning of one message: the request for the session's host and port, and
behind it what the client's reads come to. It decrypts the whole message once all has reached it, while the
connection forwards and has not given up its client. -/
theorem server_decrypts {es : List Event} {c : Connection Cryptor}
    (h : Lts.run (step env) didAcceptNewSocket es = some c) {session : ConnectSession}
    {internalStatus : ShadowsocksAdapterStatus} {processors : Processors Cryptor}
    (hlink : c.link = some (session, .shadowsocks internalStatus processors)) :
    ∃ header factory, Opened env header (.shadowsocks factory) session ∧
      c.server.target = some (factory.serverHost, factory.serverPort) ∧
      (c.server.sent = [] ∨
        ∃ message, OriginStreamObfuscater.requestData session (relayed env.foundation c.client.received).flatten =
            some message ∧
          ∀ random ds, ds.flatten <+: c.server.sent →
            (run (CryptoStreamProcessor.input env.lib) (.build env.lib factory.password factory.algorithm random) ds).2 <+:
                message ∧
              (c.status = .forwarding → c.proxySocket.cancelled = false → ds.flatten = c.server.sent →
                (run (CryptoStreamProcessor.input env.lib) (.build env.lib factory.password factory.algorithm random)
                  ds).2 = message)) := by
  have hphase := phase_run h
  -- the writes that were passed on: all of them while the connection forwards
  obtain ⟨ws, plain, hlinked, hws, hall⟩ : ∃ ws plain, Linked env c ws plain ∧
      ws <+: relayed env.foundation c.client.received ∧
      (c.status = .forwarding → c.proxySocket.cancelled = false → ws = relayed env.foundation c.client.received) := by
    by_cases hforward : c.status = .forwarding ∧ c.proxySocket.cancelled = false
    · obtain ⟨plain, header, hlinked, -⟩ := (hphase.forwarding_of_status hforward.1 hforward.2).level
      exact ⟨_, plain, hlinked, List.prefix_refl _, fun _ _ => rfl⟩
    · obtain ⟨ws, plain, hlinked, hws, -⟩ := hphase.bounds.1
      exact ⟨ws, plain, hlinked, hws, fun hstatus ho => absurd ⟨hstatus, ho⟩ hforward⟩
  obtain ⟨header, factory, -, hopen, htarget, hsent, -⟩ := hlinked.shadowsocks hlink
  refine ⟨header, factory, hopen, htarget, ?_⟩
  by_cases hnil : ws = []
  · subst hnil
    exact .inl hsent.sent_eq
  · right
    obtain ⟨request, hrequest⟩ :=
      Option.isSome_iff_exists.1 ((OriginStreamObfuscater.requestData_isSome session []).2 (hsent.fits hnil))
    refine ⟨request ++ (relayed env.foundation c.client.received).flatten, ?_, fun random ds hds => ?_⟩
    · rw [OriginStreamObfuscater.requestData_eq_map, hrequest, Option.map_some]
    · rw [hsent.sent_eq] at hds ⊢
      obtain ⟨hpart, hwhole⟩ := Processors.decrypt_wire (length_getKey _ _) (length_getIV env.random factory.algorithm) ws ds random hds
      rw [Processors.flatten_framed hnil, hrequest, Option.getD_some] at hpart hwhole
      constructor
      · exact hpart.trans ((List.prefix_append_right_inj request).2 (flatten_of_isPrefix hws))
      · intro hstatus ho heq
        rw [CryptoStreamProcessor.build, hwhole heq, hall hstatus ho]

theorem server_decrypts_sample : ∃ c header factory session message,
    Lts.run (step sampleEnvironment) didAcceptNewSocket sampleEvents = some c ∧
      Opened sampleEnvironment header (.shadowsocks factory) session ∧
      c.server.target = some (factory.serverHost, factory.serverPort) ∧
      OriginStreamObfuscater.requestData session (relayed sampleEnvironment.foundation c.client.received).flatten =
        some message ∧
      (run (CryptoStreamProcessor.input sampleEnvironment.lib)
        (.build sampleEnvironment.lib factory.password factory.algorithm sampleEnvironment.random) [c.server.sent]).2 =
          message := by
  obtain ⟨c, hrun, hstatus, ho, hsent, -, session, internalStatus, processors, hlink⟩ := run_sampleEvents
  obtain ⟨header, factory, hopen, htarget, hnil | ⟨message, hmessage, hreads⟩⟩ := server_decrypts hrun hlink
  · exact absurd hnil hsent
  · have hwhole : [c.server.sent].flatten = c.server.sent := List.flatten_singleton
    exact ⟨c, header, factory, session, message, hrun, hopen, htarget, hmessage,
      (hreads _ _ (by rw [hwhole])).2 hstatus ho hwhole⟩

/-- What a Shadowsocks server with the password of the adapter encrypts in whatever chunks, and of which
whatever part has arrived in whatever chunks, the client is sent a beginning of, behind the response to a
`CONNECT`; all of it once it has all arrived, while the connection forwards and has not given up its client. -/
theorem client_receives {es : List Event} {c : Connection Cryptor}
    (h : Lts.run (step env) didAcceptNewSocket es = some c) {session : ConnectSession}
    {internalStatus : ShadowsocksAdapterStatus} {processors : Processors Cryptor}
    (hlink : c.link = some (session, .shadowsocks internalStatus processors)) :
    ∃ header factory, firstHeader env.foundation c.client.received = some header ∧
      Opened env header (.shadowsocks factory) session ∧
      ∀ random cs, c.server.received.flatten <+:
          (run (CryptoStreamProcessor.output env.lib) (.build env.lib factory.password factory.algorithm random) cs).2 →
        c.client.sent <+: preface header ++ cs.flatten ∧
          (c.status = .forwarding → c.proxySocket.cancelled = false →
            c.server.received.flatten =
              (run (CryptoStreamProcessor.output env.lib) (.build env.lib factory.password factory.algorithm random) cs).2 →
            c.client.sent = preface header ++ cs.flatten) := by
  have hphase := phase_run h
  obtain ⟨ws, plain, hlinked, hsent, hall⟩ : ∃ ws plain, Linked env c ws plain ∧
      (c.client.sent = [] ∨ ∃ header, firstHeader env.foundation c.client.received = some header ∧
        c.client.sent <+: preface header ++ plain) ∧
      (c.status = .forwarding → c.proxySocket.cancelled = false →
        ∃ header, firstHeader env.foundation c.client.received = some header ∧ c.client.sent = preface header ++ plain) := by
    by_cases hforward : c.status = .forwarding ∧ c.proxySocket.cancelled = false
    · obtain ⟨plain, header, hlinked, hfirst, hsent⟩ := (hphase.forwarding_of_status hforward.1 hforward.2).level
      exact ⟨_, plain, hlinked, .inr ⟨header, hfirst, by rw [hsent]⟩, fun _ _ => ⟨header, hfirst, hsent⟩⟩
    · obtain ⟨ws, plain, hlinked, -, hsent⟩ := hphase.bounds.1
      exact ⟨ws, plain, hlinked, hsent, fun hstatus ho => absurd ⟨hstatus, ho⟩ hforward⟩
  obtain ⟨header, factory, hfirst, hopen, -, -, hreceived⟩ := hlinked.shadowsocks hlink
  refine ⟨header, factory, hfirst, hopen, fun random cs hcs => ?_⟩
  obtain ⟨hpart, hwhole⟩ := hreceived.plain_of_output (length_getKey _ _) hcs
  constructor
  · rcases hsent with hnil | ⟨header', hfirst', hsent⟩
    · rw [hnil]
      exact List.nil_prefix
    · cases hfirst.symm.trans hfirst'
      exact hsent.trans ((List.prefix_append_right_inj _).2 hpart)
  · intro hstatus ho heq
    obtain ⟨header', hfirst', hsent⟩ := hall hstatus ho
    cases hfirst.symm.trans hfirst'
    rw [hsent, hwhole heq]

/-- What the sample server answers; its initial vector and what it encrypts this to are zeros. -/
def sampleAnswer : Data := (List.range 12).map fun n => UInt8.ofNat (7 * n + 1)

theorem output_sampleAnswer :
    (run (CryptoStreamProcessor.output sampleEnvironment.lib)
      (.build sampleEnvironment.lib sampleAdapterFactory.password sampleAdapterFactory.algorithm fun _ => 0)
        [sampleAnswer]).2 = List.replicate 20 0 := by
  decide

theorem client_receives_sample : ∃ c header session,
    Lts.run (step sampleEnvironment) didAcceptNewSocket sampleEvents = some c ∧
      firstHeader sampleEnvironment.foundation c.client.received = some header ∧
      Opened sampleEnvironment header (.shadowsocks sampleAdapterFactory) session ∧
      c.client.sent = preface header ++ sampleAnswer := by
  obtain ⟨c, hrun, hstatus, ho, -, hreceived, session, internalStatus, processors, hlink⟩ := run_sampleEvents
  obtain ⟨header, factory, hfirst, hopen, hreads⟩ := client_receives hrun hlink
  cases factory_of_opened hopen
  have hall : c.server.received.flatten = (run (CryptoStreamProcessor.output sampleEnvironment.lib)
      (.build sampleEnvironment.lib sampleAdapterFactory.password sampleAdapterFactory.algorithm fun _ => 0)
        [sampleAnswer]).2 := by
    rw [hreceived, List.flatten_singleton, output_sampleAnswer]
  have hsent := (hreads (fun _ => 0) [sampleAnswer] (by rw [hall])).2 hstatus ho hall
  rw [List.flatten_singleton] at hsent
  exact ⟨c, header, session, hrun, hfirst, hopen, hsent⟩

end Connection

end VpnSs.NEKit
