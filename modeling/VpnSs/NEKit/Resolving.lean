/-
A tunnel and the resolver it asks. A host that is no address is asked for once, by the tunnel that has the
session; the block its completion handler puts on the queue unwraps the first IPv4 address. That is the one of
the first reply, or the empty text where an error or the timer came first, and never nil.
-/
import VpnSs.NEKit.EndToEnd
import VpnSs.NEKit.Resolver

namespace VpnSs.NEKit

open VpnSs.Swift

/-! ## The call and its block -/

/-- `Opt.DNSTimeout` -/
def DNSTimeout : Nat := 1

/-- The call of `Resolver.resolve` in `Tunnel.didReceive`, with the default type and `firstResult`. -/
def ConnectSession.query (session : ConnectSession) : Query :=
  { hostname := session.host, qtype := .ipv4, firstResult := true, timeout := DNSTimeout }

/-- The addresses the completion handler is given: none where there is an error. -/
def Resolver.addresses (r : Resolver) : Completion → Option (List Text)
  | .failed _ => none
  | .resolved => some r.ipv4Result

/-- What the block makes the session's address. -/
def Resolver.ipAddress (r : Resolver) : Completion → Except Trap Text
  | .failed _ => .ok []
  | .resolved => unwrap r.ipv4Result.head?

/-! ## A tunnel with the resolvers -/

/-- A connection and all resolvers; `place` is that of its own one, once it has asked, and `log` what has
happened to the resolvers. -/
structure Resolving (Cryptor : Type) where
  tunnel : Connection Cryptor
  resolvers : Resolvers
  place : Option Nat
  log : List Resolvers.Event

namespace Resolving

variable {Cryptor : Type}

def new : Resolving Cryptor := { tunnel := .didAcceptNewSocket, resolvers := .new, place := none, log := [] }

/-- An event of the tunnel, with what `DNSServiceGetAddrInfo` returns should the tunnel ask; one of the
resolvers, be it another tunnel's query; and the block of the completion handler. -/
inductive Event where
  | tunnel (e : Connection.Event) (error : DNSServiceErrorType)
  | resolvers (e : Resolvers.Event)
  | block

def happen (s : Resolving Cryptor) (e : Resolvers.Event) : Option (Resolving Cryptor) :=
  (Resolvers.step s.resolvers e).map fun resolvers => { s with resolvers, log := s.log ++ [e] }

/-- A tunnel that has come to wait for its session's address has called `Resolver.resolve`. -/
def step (env : Environment Cryptor) (s : Resolving Cryptor) : Event → Option (Resolving Cryptor)
  | .tunnel (.resolved _) _ => none
  | .tunnel e error =>
    (s.tunnel.step env e).bind fun tunnel =>
      match s.tunnel.resolving, tunnel.resolving with
      | none, some session =>
        happen { s with tunnel, place := some s.resolvers.made.length } (.resolve session.query error)
      | _, _ => some { s with tunnel }
  | .resolvers e => s.happen e
  | .block =>
    (s.place.bind fun place => s.resolvers.made[place]?).bind fun r =>
      r.completions.head?.bind fun c =>
        (s.tunnel.step env (.resolved (r.addresses c))).map fun tunnel => { s with tunnel }

/-! ## The query of the tunnel -/

variable {env : Environment Cryptor}

/-- What has happened to a query leaves it as it was asked. -/
theorem query_record {qs : List Request} {i : Nat} {q : Request} (hq : qs[i]? = some q) (e : Resolvers.Event) :
    ∃ q', (Request.record qs e)[i]? = some q' ∧ q'.query = q.query := by
  have hmodify (place : Nat) (x : Signal) :
      ∃ q', (qs.modify place (Request.receive x))[i]? = some q' ∧ q'.query = q.query := by
    rw [List.getElem?_modify, hq]
    refine ⟨_, rfl, ?_⟩
    split <;> rfl
  cases e with
  | resolve p error =>
    have hlt : i < qs.length := (List.getElem?_eq_some_iff.1 hq).1
    exact ⟨q, by rw [Request.record, List.getElem?_append_left hlt, hq], rfl⟩
  | reply place reply => exact hmodify place (.reply reply)
  | timeout place => exact hmodify place .timeout

theorem requests_concat (es : List Resolvers.Event) (e : Resolvers.Event) :
    requests (es ++ [e]) = Request.record (requests es) e := by
  rw [requests, List.foldl_append]
  rfl

/-- The tunnel waits for the answer to the query at its place. -/
structure Holds (env : Environment Cryptor) (s : Resolving Cryptor) : Prop where
  phase : Connection.Phase env s.tunnel
  run : Lts.run Resolvers.step .new s.log = some s.resolvers
  asked : ∀ session, s.tunnel.resolving = some session →
    ∃ i q, s.place = some i ∧ (requests s.log)[i]? = some q ∧ q.query = session.query

theorem holds_new : Holds env (new : Resolving Cryptor) := ⟨.reading rfl, rfl, fun _ h => by cases h⟩

theorem Holds.happen {s s' : Resolving Cryptor} {e : Resolvers.Event} (h : Holds env s) (hs : s.happen e = some s') :
    Holds env s' := by
  obtain ⟨resolvers, hstep, rfl⟩ := Option.map_eq_some_iff.1 hs
  refine ⟨h.phase, ?_, fun session hres => ?_⟩
  · rw [Lts.run_append, h.run, Option.bind_some, Lts.run_cons, hstep]
    rfl
  · obtain ⟨i, q, hplace, hq, hquery⟩ := h.asked session hres
    obtain ⟨q', hq', hsame⟩ := query_record hq e
    exact ⟨i, q', hplace, by rw [requests_concat, hq'], hsame.trans hquery⟩

/-- The new query stands behind all others. -/
theorem Holds.ask {s s' : Resolving Cryptor} {tunnel : Connection Cryptor} {session : ConnectSession}
    {error : DNSServiceErrorType} (h : Holds env s) (hphase : Connection.Phase env tunnel)
    (hres : tunnel.resolving = some session)
    (hs : Resolving.happen { s with tunnel, place := some s.resolvers.made.length } (.resolve session.query error) =
      some s') : Holds env s' := by
  obtain ⟨resolvers, hstep, rfl⟩ := Option.map_eq_some_iff.1 hs
  have hlength : (requests s.log).length = s.resolvers.made.length := (Resolvers.run_holds h.run).length
  refine ⟨hphase, ?_, fun session' hres' => ?_⟩
  · rw [Lts.run_append, h.run, Option.bind_some, Lts.run_cons, hstep]
    rfl
  · cases hres.symm.trans hres'
    refine ⟨_, { query := session.query, started := error = kDNSServiceErr_NoError, signals := [] }, rfl, ?_, rfl⟩
    rw [requests_concat, Request.record, ← hlength, List.getElem?_concat_length]

theorem Holds.step {s s' : Resolving Cryptor} {e : Event} (h : Holds env s) (hs : step env s e = some s') :
    Holds env s' := by
  -- a tunnel that asks nothing new waits for what it has waited for
  have hsame {e : Connection.Event} {tunnel : Connection Cryptor} (ht : s.tunnel.step env e = some tunnel)
      (hquiet : ∀ session, tunnel.resolving = some session → s.tunnel.resolving ≠ none) :
      Holds env { s with tunnel } := by
    refine ⟨h.phase.step ht, h.run, fun session hres => ?_⟩
    obtain ⟨session', hsession'⟩ := Option.ne_none_iff_exists'.1 (hquiet session hres)
    rcases h.phase.resolving_step hsession' ht with hnone | hsome
    · cases hnone.symm.trans hres
    · cases hsome.symm.trans hres
      exact h.asked session hsession'
  unfold Resolving.step at hs
  split at hs
  · cases hs
  · obtain ⟨tunnel, ht, hs⟩ := Option.bind_eq_some_iff.1 hs
    split at hs
    · rename_i session _ hres
      exact h.ask (h.phase.step ht) hres hs
    · rename_i hquiet
      cases hs
      exact hsame ht fun session hres hnone => hquiet session hnone hres
  · exact h.happen hs
  · obtain ⟨r, -, hs⟩ := Option.bind_eq_some_iff.1 hs
    obtain ⟨c, -, hs⟩ := Option.bind_eq_some_iff.1 hs
    obtain ⟨tunnel, ht, rfl⟩ := Option.map_eq_some_iff.1 hs
    refine hsame ht fun session _ hnone => ?_
    rw [Connection.step_resolved_eq_none hnone] at ht
    cases ht

/-- What the client sends first. -/
def sampleRequest : Data := encodeUTF8 "CONNECT cloudflare.com:443 HTTP/1.1\r\n\r\n".toList

def sampleHeader : HTTPHeader :=
  { HTTPVersion := "HTTP/1.1".toList, method := "CONNECT".toList, isConnect := true, path := "cloudflare.com:443".toList,
    host := "cloudflare.com".toList, port := 443, contentLength := 0, headers := [] }

def sampleSession : ConnectSession :=
  { requestedHost := text "cloudflare.com", host := text "cloudflare.com", port := 443, matchedRule := none,
    fakeIPEnabled := true, ipAddress := none, country := none }

theorem step_sampleRequest : ∃ tunnel,
    Connection.step Connection.sampleEnvironment .didAcceptNewSocket (.clientRead sampleRequest) = some tunnel ∧
      tunnel.resolving = some sampleSession := by
  have hdata : HTTPHeader.ofData Connection.sampleEnvironment.foundation sampleRequest = .ok sampleHeader := by
    rw [HTTPHeader.ofData, sampleRequest, decodeUTF8_encodeUTF8]
    decide
  have hdeliver : (RawSocket.accepted.read (.pattern DoubleCRLF)).deliver sampleRequest =
      some { RawSocket.accepted with received := [sampleRequest] } := by decide
  rw [Connection.step, Connection.happen, Connection.didAcceptNewSocket, hdeliver, Option.map_some, Option.bind_some,
    Connection.handle, Connection.proxyDidRead]
  dsimp only [HTTPProxySocket.new]
  rw [Connection.input_of_ofData hdata]
  exact ⟨_, rfl, rfl⟩

/-- The service takes the query of the tunnel and replies with an address. -/
def sampleEvents : List Event :=
  [.tunnel (.clientRead sampleRequest) kDNSServiceErr_NoError, .resolvers (.reply 0 Resolvers.sampleReply)]

theorem run_sampleEvents : ∃ s, Lts.run (step Connection.sampleEnvironment) new sampleEvents = some s ∧
    s.tunnel.resolving = some sampleSession ∧ s.place = some 0 ∧
      s.log = [.resolve sampleSession.query kDNSServiceErr_NoError, .reply 0 Resolvers.sampleReply] := by
  obtain ⟨tunnel, htunnel, hres⟩ := step_sampleRequest
  have hask : step Connection.sampleEnvironment new (.tunnel (.clientRead sampleRequest) kDNSServiceErr_NoError) =
      happen { (new : Resolving Nat) with tunnel, place := some 0 }
        (.resolve sampleSession.query kDNSServiceErr_NoError) := by
    have hnew : (new : Resolving Nat).tunnel.resolving = none := rfl
    have hstep : (new : Resolving Nat).tunnel.step Connection.sampleEnvironment (.clientRead sampleRequest) =
        some tunnel := htunnel
    rw [step, hstep, Option.bind_some, hnew, hres]
    · rfl
    · exact fun _ h => by cases h
  rw [sampleEvents, Lts.run_cons, hask]
  exact ⟨_, rfl, hres, rfl, rfl⟩

end Resolving

end VpnSs.NEKit
