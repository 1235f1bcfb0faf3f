/-
One connection through the proxy server: a `Tunnel` between the `HTTPProxySocket` of a client and the
adapter socket of a server, with the raw sockets under them. Each function is a method as it runs when it
is called, calls to delegates included; none is a trap. The events are what the raw sockets, the resolver,
a delayed read and the proxy server call.
-/
import VpnSs.Lib.Lts
import VpnSs.NEKit.HTTPStreamScanner
import VpnSs.NEKit.RuleManager
import VpnSs.NEKit.Shadowsocks

namespace VpnSs.NEKit

open VpnSs.Swift

/-! ## The sockets of a connection -/

/-- `Utils.HTTPData.ConnectSuccessResponse` -/
def ConnectSuccessResponse : Data := data "HTTP/1.1 200 Connection Established\r\n\r\n"

inductive SocketStatus where
  | invalid
  | connecting
  | established
  | disconnecting
  | closed
  deriving DecidableEq, Repr

/-- `SocketProtocol.isDisconnected` -/
def SocketStatus.isDisconnected (s : SocketStatus) : Bool := s = .closed || s = .invalid

inductive HTTPProxyReadStatus where
  | invalid
  | readingFirstHeader
  | pendingFirstHeader
  | readingHeader
  | readingContent
  | stopped
  deriving DecidableEq, Repr

inductive HTTPProxyWriteStatus where
  | invalid
  | sendingConnectResponse
  | forwarding
  | stopped
  deriving DecidableEq, Repr

structure HTTPProxySocket where
  cancelled : Bool
  status : SocketStatus
  currentHeader : Option HTTPHeader
  scanner : HTTPStreamScanner
  readStatus : HTTPProxyReadStatus
  writeStatus : HTTPProxyWriteStatus
  isConnectCommand : Bool

def HTTPProxySocket.new : HTTPProxySocket :=
  { cancelled := false, status := .established, currentHeader := none, scanner := .initial, readStatus := .invalid,
    writeStatus := .invalid, isConnectCommand := false }

/-- The header the proxy socket keeps of one it has read; none where `rewriteToRelativePath` traps. -/
def HTTPProxySocket.rewrite (f : Foundation) (header : HTTPHeader) : Option HTTPHeader :=
  (header.removeProxyHeader f).rewriteToRelativePath f

inductive ShadowsocksAdapterStatus where
  | invalid
  | connecting
  | connected
  | forwarding
  | stopped
  deriving DecidableEq, Repr

/-- What `DirectAdapter` and `ShadowsocksAdapter` keep beside an `AdapterSocket`. -/
inductive AdapterKind (Cryptor : Type) where
  | direct
  | shadowsocks (internalStatus : ShadowsocksAdapterStatus) (processors : Processors Cryptor)

structure AdapterSocket (Cryptor : Type) where
  session : ConnectSession
  cancelled : Bool
  status : SocketStatus
  kind : AdapterKind Cryptor

/-- `Tunnel.TunnelStatus` -/
inductive TunnelStatus where
  | invalid
  | readingRequest
  | waitingToBeReady
  | forwarding
  | closing
  | closed
  deriving DecidableEq, Repr

/-- A `Tunnel` with its two sockets and the raw sockets `client` and `server` under them. `delegate` is the
proxy server, `resolving` the session of a request to the resolver that is under way, `delayedReads` counts
the reads that were put off, and `closedCalls` the calls of `tunnelDidClose`. -/
structure Connection (Cryptor : Type) where
  delegate : Bool
  readySignal : Nat
  cancelled : Bool
  status : TunnelStatus
  proxySocket : HTTPProxySocket
  adapterSocket : Option (AdapterSocket Cryptor)
  client : RawSocket
  server : RawSocket
  resolving : Option ConnectSession
  delayedReads : Nat
  closedCalls : Nat

/-- What the connection asks of the process and of the libraries. -/
structure Environment (Cryptor : Type) where
  lib : Libraries Cryptor
  foundation : Foundation
  os : OS
  globals : Globals
  currentManager : RuleManager
  random : Nat → UInt8

namespace Connection

variable {Cryptor : Type} (env : Environment Cryptor)

/-! ## Closing -/

/-- `Tunnel.isClosed` -/
def isClosed (c : Connection Cryptor) : Bool :=
  c.proxySocket.status.isDisconnected && c.adapterSocket.all fun a => a.status.isDisconnected

/-- `Tunnel.checkStatus` -/
def checkStatus (c : Connection Cryptor) : Connection Cryptor :=
  if c.isClosed then
    { c with status := .closed, delegate := false, closedCalls := c.closedCalls + c.delegate.toNat }
  else c

/-- `ProxySocket.disconnect` -/
def proxyDisconnect (c : Connection Cryptor) : Connection Cryptor :=
  if c.proxySocket.cancelled then c
  else { c with
    proxySocket := { c.proxySocket with status := .disconnecting, cancelled := true }
    client := c.client.disconnect }

/-- `ProxySocket.forceDisconnect` -/
def proxyForceDisconnect (c : Connection Cryptor) : Connection Cryptor :=
  if c.proxySocket.cancelled then c
  else { c with
    proxySocket := { c.proxySocket with status := .disconnecting, cancelled := true }
    client := c.client.forceDisconnect }

/-- `AdapterSocket.disconnect` and `forceDisconnect`, which a cancelled tunnel calls. The raw socket of a
cancelled connection tells the adapter at once, and the adapter the tunnel. -/
def adapterDisconnect (disconnect : RawSocket → RawSocket) (c : Connection Cryptor) (a : AdapterSocket Cryptor) :
    Connection Cryptor :=
  let server := disconnect c.server
  if server.gone && server.delegate then
    checkStatus { c with adapterSocket := some { a with status := .closed, cancelled := true }, server }
  else { c with adapterSocket := some { a with status := .disconnecting, cancelled := true }, server }

/-- A tunnel disconnects the proxy socket if that is not disconnected. -/
def closeProxy (disconnect : Connection Cryptor → Connection Cryptor) (c : Connection Cryptor) : Connection Cryptor :=
  if c.proxySocket.status.isDisconnected then c else disconnect c

/-- A tunnel disconnects the adapter socket if there is one that is not disconnected. -/
def closeAdapter (disconnect : RawSocket → RawSocket) (c : Connection Cryptor) : Connection Cryptor :=
  match c.adapterSocket with
  | none => c
  | some a => if a.status.isDisconnected then c else c.adapterDisconnect disconnect a

/-- `Tunnel.close` -/
def close (c : Connection Cryptor) : Connection Cryptor :=
  if c.cancelled then c
  else closeAdapter RawSocket.disconnect (closeProxy proxyDisconnect { c with cancelled := true, status := .closing })

/-- `Tunnel.forceClose` -/
def forceClose (c : Connection Cryptor) : Connection Cryptor :=
  if c.cancelled then c
  else
    closeAdapter RawSocket.forceDisconnect
      (closeProxy proxyForceDisconnect { c with cancelled := true, status := .closing })

/-- `Tunnel.didDisconnectWith` -/
def didDisconnect (c : Connection Cryptor) : Connection Cryptor :=
  checkStatus (if c.cancelled then c else c.close)

/-! ## Forwarding -/

/-- `AdapterSocket.write` -/
def writeRaw (c : Connection Cryptor) (a : AdapterSocket Cryptor) (d : Data) : Connection Cryptor :=
  if a.cancelled then { c with adapterSocket := some a }
  else { c with adapterSocket := some a, server := c.server.write d }

/-- `adapterSocket!.write`: a `ShadowsocksAdapter` passes the data through its processors first. -/
def adapterWrite (c : Connection Cryptor) (d : Data) : Option (Connection Cryptor) :=
  match c.adapterSocket with
  | none => none
  | some a =>
    match a.kind with
    | .direct => some (c.writeRaw a d)
    | .shadowsocks internalStatus processors =>
      (processors.output env.lib d).map fun (processors, d) =>
        c.writeRaw { a with kind := .shadowsocks internalStatus processors } d

/-- `adapterSocket?.readData()` -/
def adapterReadData (c : Connection Cryptor) : Connection Cryptor :=
  match c.adapterSocket with
  | none => c
  | some a => if a.cancelled then c else { c with server := c.server.read .data }

/-- `ProxySocket.write` -/
def proxyWrite (c : Connection Cryptor) (d : Data) : Connection Cryptor :=
  if c.proxySocket.cancelled then c else { c with client := c.client.write d }

/-- `Tunnel.didRead` from the proxy socket. -/
def didReadFromProxy (c : Connection Cryptor) (d : Data) : Option (Connection Cryptor) :=
  if c.cancelled then some c else c.adapterWrite env d

/-- `Tunnel.didRead` from the adapter socket. -/
def didReadFromAdapter (c : Connection Cryptor) (d : Data) : Connection Cryptor :=
  if c.cancelled then c else c.proxyWrite d

/-- `HTTPProxySocket.readData` -/
def proxyReadData (c : Connection Cryptor) : Option (Connection Cryptor) :=
  let p := c.proxySocket
  if p.cancelled then some c
  else if p.readStatus = .pendingFirstHeader then
    match p.currentHeader with
    | none => none
    | some header =>
      -- the tunnel reads no status of the proxy socket, so that it may be set before the call
      didReadFromProxy env { c with proxySocket := { p with readStatus := .readingContent } } header.toData
  else
    match p.scanner.nextAction with
    | .readContent length => some { c with
        proxySocket := { p with readStatus := .readingContent }
        client := c.client.read (if 0 < length then .length length.toNat else .data) }
    | .readHeader => some { c with
        proxySocket := { p with readStatus := .readingHeader }
        client := c.client.read (.pattern DoubleCRLF) }
    | .stop => some (proxyDisconnect { c with proxySocket := { p with readStatus := .stopped } })

/-- `Tunnel.didWrite` by the proxy socket: the next read of the adapter is put off. -/
def didWriteByProxy (c : Connection Cryptor) : Connection Cryptor :=
  if c.cancelled then c else { c with delayedReads := c.delayedReads + 1 }

/-- `Tunnel.didWrite` by the adapter socket. -/
def didWriteByAdapter (c : Connection Cryptor) : Option (Connection Cryptor) :=
  if c.cancelled then some c else c.proxyReadData env

/-! ## Getting ready -/

/-- `Tunnel.didBecomeReadyToForwardWith`, but for the response to an adapter socket: at the second signal
both directions begin. -/
def signalReady (c : Connection Cryptor) : Option (Connection Cryptor) :=
  let c := { c with readySignal := c.readySignal + 1 }
  if c.readySignal = 2 then (proxyReadData env { c with status := .forwarding }).map adapterReadData else some c

/-- `Tunnel.didBecomeReadyToForwardWith` the proxy socket. -/
def proxyReady (c : Connection Cryptor) : Option (Connection Cryptor) :=
  if c.cancelled then some c else c.signalReady env

/-- `HTTPProxySocket.respondTo` -/
def respondTo (c : Connection Cryptor) : Option (Connection Cryptor) :=
  let p := c.proxySocket
  if p.cancelled then some c
  else if p.isConnectCommand then
    some (proxyWrite { c with proxySocket := { p with writeStatus := .sendingConnectResponse } } ConnectSuccessResponse)
  else proxyReady env { c with proxySocket := { p with writeStatus := .forwarding } }

/-- `Tunnel.didBecomeReadyToForwardWith` the adapter socket. -/
def adapterReady (c : Connection Cryptor) : Option (Connection Cryptor) :=
  if c.cancelled then some c else (c.signalReady env).bind (respondTo env)

/-- `getAdapterFor` and `openSocketWith`: a new adapter, and its raw socket as it begins to connect. -/
def openSocket (factory : AdapterFactory) (session : ConnectSession) : AdapterSocket Cryptor × RawSocket :=
  match factory with
  | .direct =>
    ({ session, cancelled := false, status := .connecting, kind := .direct },
      { RawSocket.new with delegate := true }.connectTo session.host session.port)
  | .shadowsocks factory =>
    ({ session, cancelled := false, status := .connecting,
       kind := .shadowsocks .connecting (factory.processors env.lib session env.random) },
      { RawSocket.new with delegate := true }.connectTo factory.serverHost factory.serverPort)

/-- `Tunnel.openAdapter` -/
def openAdapter (c : Connection Cryptor) (session : ConnectSession) : Option (Connection Cryptor) :=
  if c.cancelled then some c
  else
    match (env.currentManager.match env.os env.globals).run session with
    | .ok (some factory, session) =>
      let (a, server) := openSocket env factory session
      some { c with adapterSocket := some a, server }
    | _ => none

/-- `Tunnel.didReceive`: the address of a host that is none is asked of the resolver. -/
def didReceive (c : Connection Cryptor) (session : ConnectSession) : Option (Connection Cryptor) :=
  if c.cancelled then some c
  else
    let c := { c with status := .waitingToBeReady }
    if isIP env.os session.host then c.openAdapter env { session with ipAddress := some session.host }
    else some { c with resolving := some session }

/-! ## What the raw sockets, the resolver and the queue call -/

/-- `ProxyServer.didAcceptNewSocket`: a new tunnel, opened. -/
def didAcceptNewSocket : Connection Cryptor :=
  { delegate := true, readySignal := 0, cancelled := false, status := .readingRequest
    proxySocket := { HTTPProxySocket.new with readStatus := .readingFirstHeader }
    adapterSocket := none, client := RawSocket.accepted.read (.pattern DoubleCRLF), server := .new
    resolving := none, delayedReads := 0, closedCalls := 0 }

/-- `HTTPProxySocket.didRead` -/
def proxyDidRead (c : Connection Cryptor) (d : Data) : Option (Connection Cryptor) :=
  let p := c.proxySocket
  match p.scanner.input env.foundation d with
  | none => none
  | some (scanner, .error _) => some (proxyDisconnect { c with proxySocket := { p with scanner } })
  | some (scanner, .ok result) =>
    let p := { p with scanner }
    match p.readStatus, result with
    | .readingFirstHeader, .header header =>
      match HTTPProxySocket.rewrite env.foundation header with
      | none => none
      | some header =>
        let readStatus := if header.isConnect then .readingContent else .pendingFirstHeader
        let p := { p with currentHeader := some header, isConnectCommand := header.isConnect, readStatus }
        match ConnectSession.create env.os env.globals (env.foundation.characters header.host) header.port true with
        | .ok (some session) => didReceive env { c with proxySocket := p } session
        | _ => none
    | .readingHeader, .header header =>
      match HTTPProxySocket.rewrite env.foundation header with
      | none => none
      | some header =>
        didReadFromProxy env { c with proxySocket := { p with currentHeader := some header } } header.toData
    | .readingContent, .content content => didReadFromProxy env { c with proxySocket := p } content
    | _, _ => some { c with proxySocket := p }

/-- `HTTPProxySocket.didWrite` -/
def proxyDidWrite (c : Connection Cryptor) : Option (Connection Cryptor) :=
  let p := c.proxySocket
  if p.writeStatus = .sendingConnectResponse then
    proxyReady env { c with proxySocket := { p with writeStatus := .forwarding } }
  else some c.didWriteByProxy

/-- `ProxySocket.didDisconnectWith` -/
def proxyDidDisconnect (c : Connection Cryptor) : Connection Cryptor :=
  didDisconnect { c with proxySocket := { c.proxySocket with status := .closed } }

/-- `didConnectWith` of the adapter; the origin protocol obfuscater starts by telling that it is ready. -/
def adapterDidConnect (c : Connection Cryptor) : Option (Connection Cryptor) :=
  match c.adapterSocket with
  | none => some c
  | some a =>
    let kind := match a.kind with
      | .direct => .direct
      | .shadowsocks _ processors => .shadowsocks .forwarding processors
    adapterReady env { c with adapterSocket := some { a with status := .established, kind } }

/-- `didRead` of the adapter: a `ShadowsocksAdapter` gives on what its processors make of the data. -/
def adapterDidRead (c : Connection Cryptor) (d : Data) : Connection Cryptor :=
  match c.adapterSocket with
  | none => c
  | some a =>
    match a.kind with
    | .direct => c.didReadFromAdapter d
    | .shadowsocks internalStatus processors =>
      let (processors, d) := processors.input env.lib d
      didReadFromAdapter { c with adapterSocket := some { a with kind := .shadowsocks internalStatus processors } } d

/-- `didWrite` of the adapter. -/
def adapterDidWrite (c : Connection Cryptor) : Option (Connection Cryptor) :=
  match c.adapterSocket with
  | none => some c
  | some a =>
    match a.kind with
    | .direct => c.didWriteByAdapter env
    | .shadowsocks internalStatus _ => if internalStatus = .forwarding then c.didWriteByAdapter env else some c

/-- `AdapterSocket.didDisconnectWith` -/
def adapterDidDisconnect (c : Connection Cryptor) : Connection Cryptor :=
  match c.adapterSocket with
  | none => c
  | some a => didDisconnect { c with adapterSocket := some { a with status := .closed } }

/-- The resolver has found the addresses, or none. The first one is taken by force. -/
def resolved (c : Connection Cryptor) (session : ConnectSession) : Option (List Text) → Option (Connection Cryptor)
  | none => c.openAdapter env { session with ipAddress := some [] }
  | some [] => none
  | some (ip :: _) => c.openAdapter env { session with ipAddress := some ip }

/-! ## Steps -/

inductive Event where
  | clientRead (d : Data)
  | clientWrote
  | clientDisconnected
  | serverConnected
  | serverRead (d : Data)
  | serverWrote
  | serverDisconnected
  | serverGone
  | serverFailed
  | resolved (ipv4Result : Option (List Text))
  | delayedRead
  | forceClose

/-- What happens outside of the tunnel before it is called; none where the event cannot happen. -/
def happen (c : Connection Cryptor) : Event → Option (Connection Cryptor)
  | .clientRead d => (c.client.deliver d).map fun client => { c with client }
  | .clientWrote => c.client.acknowledge.map fun client => { c with client }
  | .clientDisconnected => c.client.disconnected.map fun client => { c with client }
  | .serverConnected => c.server.connected.map fun server => { c with server }
  | .serverRead d => (c.server.deliver d).map fun server => { c with server }
  | .serverWrote => c.server.acknowledge.map fun server => { c with server }
  | .serverDisconnected => c.server.disconnected.map fun server => { c with server }
  | .serverGone => c.server.vanished.map fun server => { c with server }
  | .serverFailed => c.server.failed.map fun server => { c with server }
  | .resolved _ => if c.resolving.isSome then some c else none
  | .delayedRead => if 0 < c.delayedReads then some { c with delayedReads := c.delayedReads - 1 } else none
  | .forceClose => some c

/-- What the event calls; none is a trap. -/
def handle (c : Connection Cryptor) : Event → Option (Connection Cryptor)
  | .clientRead d => c.proxyDidRead env d
  | .clientWrote => c.proxyDidWrite env
  | .clientDisconnected => some c.proxyDidDisconnect
  | .serverConnected => c.adapterDidConnect env
  | .serverRead d => some (c.adapterDidRead env d)
  | .serverWrote => c.adapterDidWrite env
  | .serverDisconnected => some c.adapterDidDisconnect
  | .serverGone => some c
  | .serverFailed => some c.adapterDidDisconnect
  | .resolved ipv4Result =>
    match c.resolving with
    | none => some c
    | some session => resolved env { c with resolving := none } session ipv4Result
  | .delayedRead => some c.adapterReadData
  | .forceClose => some c.forceClose

def step (c : Connection Cryptor) (e : Event) : Option (Connection Cryptor) := (c.happen e).bind fun c => c.handle env e

end Connection

end VpnSs.NEKit
