/-
The packet tunnel provider from its start on: the completion of the network settings, which
creates the proxy server or restarts it, the observation of the default path, which schedules a
restart on a network change, the delayed restart, and the stop. A step with no next state is a
trap or an event that cannot happen there.
-/
import VpnSs.Tunnel.Compile
import VpnSs.Lib.Lts

namespace VpnSs.Tunnel

open VpnSs.Swift VpnSs.NEKit VpnSs.Except

/-! ## Paths -/

inductive NWPathStatus where
  | invalid
  | satisfied
  | unsatisfied
  | satisfiable
  deriving DecidableEq, Repr

/-- What the code asks of `NWPath`: its status, and `isEqual`, an equivalence. -/
structure NWPathApi (Path : Type) where
  status : Path → NWPathStatus
  isEqual : Path → Path → Bool
  equivalence : Equivalence fun p q => isEqual p q = true

namespace NWPathApi

variable {Path : Type} (api : NWPathApi Path)

/-- `==` of optional paths. -/
def eq : Option Path → Option Path → Bool
  | none, none => true
  | some p, some q => api.isEqual p q
  | _, _ => false

/-- `path?.status == .satisfied` -/
def satisfied : Option Path → Bool
  | none => false
  | some p => api.status p == .satisfied

/-- Paths that are numbers; 0 is the one that is not satisfied. -/
def numbered : NWPathApi Nat where
  status p := if p = 0 then .unsatisfied else .satisfied
  isEqual p q := p == q
  equivalence := ⟨fun p => beq_self_eq_true p, fun h => by rw [beq_iff_eq] at *; exact h.symm,
    fun h h' => by rw [beq_iff_eq] at *; exact h.trans h'⟩

end NWPathApi

/-! ## State -/

/-- The provider object and what it drives: `created` servers so far, the servers with a socket on
the proxy port, the registrations for `defaultPath`, the outstanding completions of
`setTunnelNetworkSettings` and the restarts scheduled on the main queue. Packet processing is off
and nothing turns it on. -/
structure Provider (Path : Type) where
  process : Process
  defaultPath : Option Path
  lastPath : Option Path
  started : Bool
  proxyServer : Option Nat
  created : Nat
  listening : List Nat
  observers : Nat
  settings : Nat
  scheduled : Nat
  exited : Bool

namespace Provider

variable {Path : Type}

/-- A provider the system has just created. -/
def initial (defaultPath : Option Path) : Provider Path :=
  { process := .initial, defaultPath, lastPath := none, started := false, proxyServer := none, created := 0,
    listening := [], observers := 0, settings := 0, scheduled := 0, exited := false }

/-! ## The proxy server -/

/-- `GCDProxyServer.start`: fails while another socket of the process listens on the port. -/
def startServer (s : Provider Path) (server : Nat) : Except Text (Provider Path) :=
  if s.listening = [] then .ok { s with listening := [server] } else .error (text "Address already in use")

/-- `GCDProxyServer.stop`: releases the port. -/
def stopServer (s : Provider Path) (server : Nat) : Provider Path :=
  { s with listening := s.listening.filter (· != server) }

/-! ## The provider -/

/-- `startTunnel`: installs the rules and asks for the network settings. -/
def startTunnel (os : OS) (load : Text → Except Text Yaml) (providerConfiguration : Option Dictionary)
    (s : Provider Path) : Except Trap (Provider Path) := do
  let process ← configure os load providerConfiguration s.process
  let _ ← unwrap process.proxyPort
  return { s with process, settings := s.settings + 1 }

variable (api : NWPathApi Path)

/-- `observeValue` for `defaultPath`. -/
def observeValue (s : Provider Path) : Provider Path :=
  if api.satisfied s.defaultPath && !api.eq s.defaultPath s.lastPath then
    if api.eq s.lastPath none then { s with lastPath := s.defaultPath }
    else { s with scheduled := s.scheduled + 1 } -- `lastPath` stays
  else { s with lastPath := s.defaultPath }

/-- `addObserver` with the option `.initial`: the observer is told the current value at once. -/
def addObserver (s : Provider Path) : Provider Path := observeValue api { s with observers := s.observers + 1 }

/-- The branch of the completion for a provider that has not started. -/
def firstStart (s : Provider Path) : Except Trap (Provider Path) := do
  let _ ← unwrap s.process.proxyPort
  let server := s.created
  let s := { s with proxyServer := some server, created := server + 1 }
  let s ← forceTry (s.startServer server)
  -- told the path before `started` is set
  return s.addObserver api

/-- The restart branch: stops the server and starts it again. -/
def restart (s : Provider Path) : Except Trap (Provider Path) := do
  let proxyServer ← unwrap s.proxyServer
  forceTry ((s.stopServer proxyServer).startServer proxyServer)

/-- The completion of `setTunnelNetworkSettings`. -/
def settingsCompleted (s : Provider Path) (error : Bool) : Except Trap (Provider Path) :=
  if error then .ok s
  else do
    let s ← if !s.started then s.firstStart api else s.restart
    return { s with started := true }

/-- `stopTunnel`, which exits the process. -/
def stopTunnel (s : Provider Path) : Provider Path :=
  match s.proxyServer with
  | none => { s with exited := true }
  | some proxyServer => { s.stopServer proxyServer with proxyServer := none, exited := true }

/-! ## Runs -/

/-- A change of the default path, a restart that fires and reads its configuration, a completion of
the network settings with or without an error, and the stop. -/
inductive Event (Path : Type) where
  | pathChange (path : Option Path)
  | fire (providerConfiguration : Option Dictionary)
  | settingsCompleted (error : Bool)
  | stopTunnel

/-- Sees a value of the default path. -/
def observe (s : Provider Path) (path : Option Path) : Provider Path :=
  observeValue api { s with defaultPath := path }

variable (os : OS) (load : Text → Except Text Yaml)

/-- One event; each registered observer is told a change of the path. -/
def step (s : Provider Path) (e : Event Path) : Option (Provider Path) :=
  if s.exited then none
  else
    match e with
    | .pathChange path => some ((observeValue api)^[s.observers] { s with defaultPath := path })
    | .fire providerConfiguration =>
      if 0 < s.scheduled then
        ({ s with scheduled := s.scheduled - 1 }.startTunnel os load providerConfiguration).toOption
      else none
    | .settingsCompleted error =>
      if 0 < s.settings then
        ({ s with settings := s.settings - 1 }.settingsCompleted api error).toOption
      else none
    | .stopTunnel => some s.stopTunnel

end Provider

end VpnSs.Tunnel
