/-
What a connection owes its two ends. The server's socket is sent what the client's reads come to: headers
rewritten, content as it is, all of it through the processors of the adapter. The client's socket is sent
what the adapter makes of the server's reads, behind the response to a `CONNECT`.
-/
import VpnSs.NEKit.Connection

namespace VpnSs.NEKit

open VpnSs.Swift HTTPStreamScanner

/-! ## From the client's reads to writes -/

/-- What the proxy socket gives the tunnel of a result; none where it traps. -/
def payload (f : Foundation) : ScannerResult → Option Data
  | .header h => (HTTPProxySocket.rewrite f h).map HTTPHeader.toData
  | .content d => some d

/-- The results that are for the server: the header of a `CONNECT` is for the proxy. -/
def passedOn : List ScannerResult → List ScannerResult
  | .header h :: rs => if h.isConnect then rs else .header h :: rs
  | rs => rs

/-- The writes that the reads of a client come to. -/
def relayed (f : Foundation) (ds : List Data) : List Data := (passedOn (results f .initial ds)).filterMap (payload f)

/-- The header that opens the stream. -/
def firstHeader (f : Foundation) (ds : List Data) : Option HTTPHeader :=
  match results f .initial ds with
  | .header h :: _ => some h
  | _ => none

/-- What the client is answered before the server's data. -/
def preface (h : HTTPHeader) : Data := if h.isConnect then ConnectSuccessResponse else []

theorem passedOn_append {rs : List ScannerResult} (h : rs ≠ []) (rs' : List ScannerResult) :
    passedOn (rs ++ rs') = passedOn rs ++ rs' := by
  cases rs with
  | nil => exact absurd rfl h
  | cons r rs =>
    cases r with
    | header header =>
      rw [List.cons_append, passedOn, passedOn]
      split
      · rfl
      · rfl
    | content d => rfl

theorem relayed_monotone (f : Foundation) (ds es : List Data) : relayed f ds <+: relayed f (ds ++ es) := by
  obtain ⟨rs, hrs⟩ := results_monotone f .initial ds es
  rw [relayed, relayed, ← hrs]
  rcases hnil : results f .initial ds with _ | ⟨r, rest⟩
  · exact List.nil_prefix
  · rw [passedOn_append (List.cons_ne_nil r rest), List.filterMap_append]
    exact List.prefix_append _ _

theorem relayed_concat {f : Foundation} {s t : HTTPStreamScanner} {ds : List Data} {d p : Data} {r : ScannerResult}
    (hrun : Lts.run (advance f) .initial ds = some s) (hr : s.input f d = some (t, .ok r))
    (hne : results f .initial ds ≠ []) (hp : payload f r = some p) :
    relayed f (ds ++ [d]) = relayed f ds ++ [p] := by
  rw [relayed, results_concat hrun hr, passedOn_append hne, List.filterMap_append, relayed]
  simp [hp]

theorem firstHeader_append {f : Foundation} {ds : List Data} {h : HTTPHeader} (hfirst : firstHeader f ds = some h)
    (es : List Data) : firstHeader f (ds ++ es) = some h := by
  obtain ⟨rs, hrs⟩ := results_monotone f .initial ds es
  unfold firstHeader at *
  rw [← hrs]
  split at hfirst
  · rename_i header rest heq
    rw [heq]
    exact hfirst
  · cases hfirst

theorem rewrite_eq {f : Foundation} {h h' : HTTPHeader} (hr : HTTPProxySocket.rewrite f h = some h') :
    h'.isConnect = h.isConnect ∧ h'.host = h.host ∧ h'.port = h.port := by
  unfold HTTPProxySocket.rewrite at hr
  rcases HTTPHeader.rewriteToRelativePath_cases f (h.removeProxyHeader f) with ⟨-, hnone⟩ | ⟨-, path, hsome, -⟩
  · rw [hr] at hnone; cases hnone
  · cases hr.symm.trans hsome
    exact ⟨rfl, rfl, rfl⟩

/-! ## The adapter on the way -/

/-- The host and the port the adapter of a factory connects to. -/
def AdapterFactory.target (session : ConnectSession) : AdapterFactory → Text × Int
  | .direct => (session.host, session.port)
  | .shadowsocks factory => (factory.serverHost, factory.serverPort)

namespace AdapterKind

variable {Cryptor : Type} (lib : Libraries Cryptor) (random : Nat → UInt8)

/-- A write of the adapter: its kind afterwards, and the bytes for the raw socket. -/
def output (k : AdapterKind Cryptor) (d : Data) : Option (AdapterKind Cryptor × Data) :=
  match k with
  | .direct => some (.direct, d)
  | .shadowsocks internalStatus processors =>
    (processors.output lib d).map fun p => (.shadowsocks internalStatus p.1, p.2)

/-- A read of the adapter: its kind afterwards, and the data for the tunnel. -/
def input (k : AdapterKind Cryptor) (d : Data) : AdapterKind Cryptor × Data :=
  match k with
  | .direct => (.direct, d)
  | .shadowsocks internalStatus processors =>
    (.shadowsocks internalStatus (processors.input lib d).1, (processors.input lib d).2)

/-- The kind of an adapter that is connected. -/
def start : AdapterKind Cryptor → AdapterKind Cryptor
  | .direct => .direct
  | .shadowsocks _ processors => .shadowsocks .forwarding processors

/-- The adapter tells its tunnel what was written. -/
def Ready : AdapterKind Cryptor → Prop
  | .direct => True
  | .shadowsocks internalStatus _ => internalStatus = .forwarding

/-- The adapter of a factory has turned the writes `ws` into the bytes `sent`, and given on `plain` of the
data it has received. -/
inductive Carries (session : ConnectSession) : AdapterFactory → AdapterKind Cryptor → (ws received : List Data) →
    (sent plain : Data) → Prop where
  | direct {ws received} : Carries session .direct .direct ws received ws.flatten received.flatten
  | shadowsocks {factory : ShadowsocksAdapterFactory} {internalStatus processors ws received sent plain} :
      processors.Sent lib (getKey lib factory.password factory.algorithm) factory.algorithm
        (getIV random factory.algorithm) session ws sent →
      processors.Received lib (getKey lib factory.password factory.algorithm) factory.algorithm received plain →
      Carries session (.shadowsocks factory) (.shadowsocks internalStatus processors) ws received sent plain

variable {lib random}

theorem ready_start (k : AdapterKind Cryptor) : k.start.Ready := by
  cases k with
  | direct => trivial
  | shadowsocks internalStatus processors => rfl

theorem Ready.output {k k' : AdapterKind Cryptor} {d out : Data} (h : k.Ready) (ho : k.output lib d = some (k', out)) :
    k'.Ready := by
  cases k with
  | direct => cases ho; trivial
  | shadowsocks internalStatus processors =>
    obtain ⟨p, -, hp⟩ := Option.map_eq_some_iff.1 ho
    cases hp
    exact h

theorem Ready.input {k : AdapterKind Cryptor} (h : k.Ready) (d : Data) : (k.input lib d).1.Ready := by
  cases k with
  | direct => trivial
  | shadowsocks internalStatus processors => exact h

section Carries

variable {session : ConnectSession} {factory : AdapterFactory} {k k' : AdapterKind Cryptor} {ws received : List Data}
  {sent plain d out : Data}

theorem Carries.output (h : Carries lib random session factory k ws received sent plain)
    (ho : k.output lib d = some (k', out)) :
    Carries lib random session factory k' (ws ++ [d]) received (sent ++ out) plain := by
  cases h with
  | direct =>
    cases ho
    have hflat : ws.flatten ++ d = (ws ++ [d]).flatten := by simp
    rw [hflat]
    exact .direct
  | shadowsocks hs hr =>
    obtain ⟨p, hprocessors, hp⟩ := Option.map_eq_some_iff.1 ho
    cases hp
    exact .shadowsocks (hs.output hprocessors) (hr.output hprocessors)

theorem Carries.input (h : Carries lib random session factory k ws received sent plain) (d : Data) :
    Carries lib random session factory (k.input lib d).1 ws (received ++ [d]) sent (plain ++ (k.input lib d).2) := by
  cases h with
  | direct =>
    have hflat : received.flatten ++ d = (received ++ [d]).flatten := by simp
    dsimp only [AdapterKind.input]
    rw [hflat]
    exact .direct
  | shadowsocks hs hr => exact .shadowsocks (hs.input d) (hr.input d)

theorem Carries.start (h : Carries lib random session factory k ws received sent plain) :
    Carries lib random session factory k.start ws received sent plain := by
  cases h with
  | direct => exact .direct
  | shadowsocks hs hr => exact .shadowsocks hs hr

end Carries

end AdapterKind

namespace Connection

variable {Cryptor : Type} (env : Environment Cryptor)

/-! ## The link to the server -/

/-- The factory of the adapter is the manager's choice for the host and the port of the header. -/
def Opened (header : HTTPHeader) (factory : AdapterFactory) (session : ConnectSession) : Prop :=
  ∃ requested ip,
    ConnectSession.create env.os env.globals (env.foundation.characters header.host) header.port true =
      .ok (some requested) ∧
    (env.currentManager.match env.os env.globals).run { requested with ipAddress := some ip } =
      .ok (some factory, session)

/-- The session and the kind of the adapter. -/
def link (c : Connection Cryptor) : Option (ConnectSession × AdapterKind Cryptor) :=
  c.adapterSocket.map fun a => (a.session, a.kind)

/-- The writes `ws` were passed to the adapter, and it has given on `plain` of the server's data; there is
none of either before it is opened. It is connected to where its factory says. -/
inductive Linked (c : Connection Cryptor) (ws : List Data) (plain : Data) : Prop where
  | unlinked : c.link = none → c.server.sent = [] → ws = [] → plain = [] → Linked c ws plain
  | linked (header factory session kind) : c.link = some (session, kind) →
      firstHeader env.foundation c.client.received = some header → Opened env header factory session →
      c.server.target = some (factory.target session) →
      AdapterKind.Carries env.lib env.random session factory kind ws c.server.received c.server.sent plain →
      Linked c ws plain

/-- What holds of the data in every state: each end has been sent a beginning of what it is owed. -/
def Flow (c : Connection Cryptor) : Prop :=
  ∃ ws plain, Linked env c ws plain ∧ ws <+: relayed env.foundation c.client.received ∧
    (c.client.sent = [] ∨
      ∃ header, firstHeader env.foundation c.client.received = some header ∧ c.client.sent <+: preface header ++ plain)

/-- Nothing was left out and nothing is held back. -/
def Level (c : Connection Cryptor) : Prop :=
  ∃ plain header, Linked env c (relayed env.foundation c.client.received) plain ∧
    firstHeader env.foundation c.client.received = some header ∧ c.client.sent = preface header ++ plain

variable {env}

theorem Level.flow {c : Connection Cryptor} (h : Level env c) : Flow env c := by
  obtain ⟨plain, header, hlinked, hfirst, hsent⟩ := h
  exact ⟨_, plain, hlinked, List.prefix_refl _, .inr ⟨header, hfirst, by rw [hsent]⟩⟩

theorem link_of_adapterSocket {c : Connection Cryptor} {a : AdapterSocket Cryptor} (h : c.adapterSocket = some a) :
    c.link = some (a.session, a.kind) := by
  rw [link, h, Option.map_some]

/-- A step of the adapter that carries on. -/
theorem Linked.change {c c' : Connection Cryptor} {ws ws' : List Data} {plain plain' : Data}
    {a : AdapterSocket Cryptor} {kind : AdapterKind Cryptor} (h : Linked env c ws plain)
    (ha : c.adapterSocket = some a) (hlink : c'.link = some (a.session, kind))
    (htarget : c'.server.target = c.server.target) {ds : List Data}
    (hclient : c'.client.received = c.client.received ++ ds)
    (hcarry : ∀ factory, AdapterKind.Carries env.lib env.random a.session factory a.kind ws c.server.received
        c.server.sent plain →
      AdapterKind.Carries env.lib env.random a.session factory kind ws' c'.server.received c'.server.sent plain') :
    Linked env c' ws' plain' := by
  have hl₀ := link_of_adapterSocket ha
  cases h with
  | unlinked hl => rw [hl] at hl₀; cases hl₀
  | linked header factory session kind₀ hl hfirst hopen ht hc =>
    cases hl.symm.trans hl₀
    refine .linked header factory a.session kind hlink ?_ hopen (htarget.trans ht) (hcarry factory hc)
    rw [hclient]
    exact firstHeader_append hfirst ds

/-- A step that leaves the link as it is. -/
theorem Linked.congr {c c' : Connection Cryptor} {ws : List Data} {plain : Data} (h : Linked env c ws plain)
    (hlink : c'.link = c.link) (htarget : c'.server.target = c.server.target) (hsent : c'.server.sent = c.server.sent)
    (hreceived : c'.server.received = c.server.received) {ds : List Data}
    (hclient : c'.client.received = c.client.received ++ ds) : Linked env c' ws plain := by
  cases h with
  | unlinked hl hs hws hp => exact .unlinked (hlink.trans hl) (hsent.trans hs) hws hp
  | linked header factory session kind hl hfirst hopen ht hc =>
    refine .linked header factory session kind (hlink.trans hl) ?_ hopen (htarget.trans ht) ?_
    · rw [hclient]; exact firstHeader_append hfirst ds
    · rw [hsent, hreceived]; exact hc

/-- A write adds its data to what was passed. -/
theorem Linked.write {c c' : Connection Cryptor} {ws : List Data} {plain d out : Data} {a : AdapterSocket Cryptor}
    {kind : AdapterKind Cryptor} (h : Linked env c ws plain) (ha : c.adapterSocket = some a)
    (ho : a.kind.output env.lib d = some (kind, out)) (hlink : c'.link = some (a.session, kind))
    (htarget : c'.server.target = c.server.target) (hsent : c'.server.sent = c.server.sent ++ out)
    (hreceived : c'.server.received = c.server.received) {ds : List Data}
    (hclient : c'.client.received = c.client.received ++ ds) : Linked env c' (ws ++ [d]) plain := by
  refine h.change ha hlink htarget hclient fun factory hc => ?_
  rw [hsent, hreceived]
  exact hc.output ho

/-- A new adapter has sent and given on nothing. -/
theorem Linked.open {c : Connection Cryptor} {header : HTTPHeader} {factory : AdapterFactory}
    {session : ConnectSession} (hfirst : firstHeader env.foundation c.client.received = some header)
    (hopen : Opened env header factory session)
    (ha : c.adapterSocket = some (openSocket env factory session).1)
    (hserver : c.server = (openSocket env factory session).2) : Linked env c [] [] := by
  have hlink : c.link = some (session, (openSocket env factory session).1.kind) := by
    rw [link_of_adapterSocket ha]
    cases factory <;> rfl
  refine .linked header factory session _ hlink hfirst hopen ?_ ?_
  · rw [hserver]
    cases factory <;> rfl
  · rw [hserver]
    cases factory with
    | direct => exact .direct
    | shadowsocks factory =>
      exact .shadowsocks (Processors.sent_processors factory session env.random)
        (Processors.received_processors factory session env.random)

theorem Flow.congr {c c' : Connection Cryptor} (h : Flow env c) (hlink : c'.link = c.link)
    (htarget : c'.server.target = c.server.target) (hsent : c'.server.sent = c.server.sent)
    (hreceived : c'.server.received = c.server.received) {ds : List Data}
    (hclient : c'.client.received = c.client.received ++ ds) (hout : c'.client.sent = c.client.sent) :
    Flow env c' := by
  obtain ⟨ws, plain, hlinked, hws, hplain⟩ := h
  refine ⟨ws, plain, hlinked.congr hlink htarget hsent hreceived hclient, ?_, ?_⟩
  · rw [hclient]
    exact hws.trans (relayed_monotone _ _ _)
  · rw [hout]
    rcases hplain with hnil | ⟨header, hfirst, hpre⟩
    · exact .inl hnil
    · refine .inr ⟨header, ?_, hpre⟩
      rw [hclient]
      exact firstHeader_append hfirst ds

/-! ## The methods of an adapter that is there -/

theorem adapterWrite_eq {c : Connection Cryptor} {a : AdapterSocket Cryptor} (h : c.adapterSocket = some a) (d : Data) :
    c.adapterWrite env d = (a.kind.output env.lib d).map fun p => c.writeRaw { a with kind := p.1 } p.2 := by
  rw [adapterWrite, h]
  dsimp only
  rcases hk : a.kind with _ | ⟨internalStatus, processors⟩
  · cases a
    cases hk
    rfl
  · rw [AdapterKind.output, Option.map_map]
    rfl

theorem adapterDidRead_eq {c : Connection Cryptor} {a : AdapterSocket Cryptor} (h : c.adapterSocket = some a)
    (d : Data) : c.adapterDidRead env d =
      didReadFromAdapter { c with adapterSocket := some { a with kind := (a.kind.input env.lib d).1 } }
        (a.kind.input env.lib d).2 := by
  rw [adapterDidRead, h]
  dsimp only
  rcases hk : a.kind with _ | ⟨internalStatus, processors⟩
  · cases a
    cases hk
    cases c
    cases h
    rfl
  · rfl

theorem adapterDidConnect_eq {c : Connection Cryptor} {a : AdapterSocket Cryptor} (h : c.adapterSocket = some a) :
    c.adapterDidConnect env =
      adapterReady env { c with adapterSocket := some { a with status := .established, kind := a.kind.start } } := by
  rw [adapterDidConnect, h]
  dsimp only
  rcases a.kind with _ | ⟨internalStatus, processors⟩ <;> rfl

theorem adapterDidWrite_eq {c : Connection Cryptor} {a : AdapterSocket Cryptor} (h : c.adapterSocket = some a)
    (hready : a.kind.Ready) : c.adapterDidWrite env = c.didWriteByAdapter env := by
  rw [adapterDidWrite, h]
  dsimp only
  rcases hk : a.kind with _ | ⟨internalStatus, processors⟩
  · rfl
  · rw [hk] at hready
    exact if_pos hready

end Connection

end VpnSs.NEKit
