/-
`NWTCPSocket`, the raw socket of an adapter, over the `NWTCPConnection` of the system: its calls return at
once, the connection answers in its own time, and what the answers call runs later as a block on the queue.
Whatever the order, it keeps to the contract of a raw socket.
-/
import VpnSs.NEKit.Buffer
import VpnSs.NEKit.RawSocket
import VpnSs.Lib.Lts

namespace VpnSs.NEKit

open VpnSs.Swift

/-! ## The connection of the system -/

inductive NWTCPConnectionState where
  | connecting
  | waiting
  | connected
  | disconnected
  | cancelled
  deriving DecidableEq, Repr

/-- How far a connection has come: it never goes back. -/
def NWTCPConnectionState.rank : NWTCPConnectionState → Nat
  | .connecting => 0
  | .waiting => 0
  | .connected => 1
  | .disconnected => 2
  | .cancelled => 3

/-- An `NWTCPConnection`: its state, whether `cancel` was called, the least and the most bytes that each read
under way is for, the number of writes under way, the bytes read from it and written to it, and whether a read
has found the end of its stream. -/
structure NWTCPConnection where
  state : NWTCPConnectionState
  cancelCalled : Bool
  reads : List (Nat × Nat)
  writes : Nat
  received : Data
  sent : Data
  ended : Bool
  deriving DecidableEq, Repr

namespace NWTCPConnection

/-- `createTCPConnection` -/
def create : NWTCPConnection :=
  { state := .connecting, cancelCalled := false, reads := [], writes := 0, received := [], sent := [], ended := false }

/-- The state changes; a connection is cancelled only when it is told to. -/
def move (c : NWTCPConnection) (state : NWTCPConnectionState) : Option NWTCPConnection :=
  if (c.state.rank < state.rank ∨ c.state.rank = 0 ∧ state.rank = 0) ∧ (state = .cancelled → c.cancelCalled = true) then
    some { c with state }
  else none

/-- The data a read for `minimum` to `maximum` bytes ends with: at the end of the stream they may be fewer, or
none at all. -/
def Gives (minimum maximum : Nat) (data : Option Data) : Prop :=
  ∀ d ∈ data, (minimum ≤ d.length ∨ d ≠ []) ∧ d.length ≤ maximum

instance Gives.decidable (minimum maximum : Nat) (data : Option Data) : Decidable (Gives minimum maximum data) :=
  inferInstanceAs (Decidable (∀ d ∈ data, (minimum ≤ d.length ∨ d ≠ []) ∧ d.length ≤ maximum))

/-- The first read ends; with less than it is for it has found the end of the stream. -/
def complete (c : NWTCPConnection) (data : Option Data) : Option NWTCPConnection :=
  match c.reads with
  | [] => none
  | (minimum, maximum) :: reads =>
    if Gives minimum maximum data then
      some { c with
        reads, received := c.received ++ data.getD [], ended := c.ended || data.all fun d => d.length < minimum }
    else none

/-- A write ends. -/
def acknowledge (c : NWTCPConnection) : Option NWTCPConnection :=
  if 0 < c.writes then some { c with writes := c.writes - 1 } else none

end NWTCPConnection

/-! ## The socket -/

/-- `Opt.MAXNWTCPSocketReadDataSize` -/
def MAXNWTCPSocketReadDataSize : Nat := 128 * 1024

/-- `Opt.MAXNWTCPScanLength` -/
def MAXNWTCPScanLength : Nat := 8912

/-- A block on the queue. `checkStatus` is what is left of the block that has told of a write. -/
inductive Block where
  | didConnect
  | didDisconnect
  | disconnect
  | readCallback (data : Option Data)
  | written (error : Bool)
  | didWrite
  | checkStatus
  deriving DecidableEq, Repr

/-- An `NWTCPSocket`, whether it has a delegate, and the blocks it has put on the queue. -/
structure NWTCPSocket where
  connection : Option NWTCPConnection
  writePending : Bool
  closeAfterWriting : Bool
  cancelled : Bool
  scanner : Option StreamScanner
  scanning : Bool
  readDataPrefix : Option Data
  delegate : Bool
  queue : List Block

namespace NWTCPSocket

open RawSocket (Exchange)

/-- `connectTo`, with the connection that the tunnel provider has created, if there is a provider. -/
def connectTo (connection : Option NWTCPConnection) : NWTCPSocket :=
  { connection, writePending := false, closeAfterWriting := false, cancelled := false, scanner := none
    scanning := false, readDataPrefix := none, delegate := true, queue := [] }

def queueCall (s : NWTCPSocket) (block : Block) : NWTCPSocket := { s with queue := s.queue ++ [block] }

/-- What the delegate is told, if there is one. -/
def tell (s : NWTCPSocket) (e : Exchange) : List Exchange := if s.delegate then [e] else []

def cancel (s : NWTCPSocket) : NWTCPSocket :=
  { s with connection := s.connection.map fun c => { c with cancelCalled := true } }

def checkStatus (s : NWTCPSocket) : NWTCPSocket := if s.closeAfterWriting && !s.writePending then s.cancel else s

/-- `connection == nil || connection!.state == .cancelled` -/
def isGone (s : NWTCPSocket) : Bool := s.connection.all fun c => c.state = .cancelled

/-- `disconnect`, and whether the delegate is told at once. -/
def disconnect (s : NWTCPSocket) : NWTCPSocket × Bool :=
  let s := { s with cancelled := true }
  if s.isGone then (s, s.delegate) else ({ s with closeAfterWriting := true }.checkStatus, false)

/-- `forceDisconnect`, and whether the delegate is told at once. -/
def forceDisconnect (s : NWTCPSocket) : NWTCPSocket × Bool :=
  let s := { s with cancelled := true }
  if s.isGone then (s, s.delegate) else (s.cancel, false)

/-! ## Writing -/

/-- none where `connection!` traps. -/
def send (s : NWTCPSocket) (data : Data) : Option NWTCPSocket :=
  s.connection.map fun c =>
    { s with writePending := true, connection := some { c with writes := c.writes + 1, sent := c.sent ++ data } }

def write (s : NWTCPSocket) (data : Data) : Option NWTCPSocket :=
  if s.cancelled then some s
  else if data.isEmpty then some (s.queueCall .didWrite)
  else s.send data

/-! ## Reading -/

/-- A read of the connection; none where `connection!` traps. -/
def readConnection (s : NWTCPSocket) (minimum maximum : Nat) : Option NWTCPSocket :=
  s.connection.map fun c => { s with connection := some { c with reads := c.reads ++ [(minimum, maximum)] } }

def readData (s : NWTCPSocket) : Option NWTCPSocket :=
  if s.cancelled then some s else s.readConnection 1 MAXNWTCPSocketReadDataSize

/-- `readDataTo(length:)` -/
def readDataToLength (s : NWTCPSocket) (length : Nat) : Option NWTCPSocket :=
  if s.cancelled then some s else s.readConnection length length

/-- `readDataTo(data:)` -/
def readDataToPattern (s : NWTCPSocket) (pattern : Data) : Option NWTCPSocket :=
  if s.cancelled then some s
  else readData { s with scanner := some (.create pattern MAXNWTCPScanLength), scanning := true }

def read (s : NWTCPSocket) : ReadRequest → Option NWTCPSocket
  | .data => s.readData
  | .length n => s.readDataToLength n
  | .pattern p => s.readDataToPattern p

/-- The data of a read with what was held over put before it; that is held no longer. -/
def consumeReadData (s : NWTCPSocket) (data : Option Data) : NWTCPSocket × Option Data :=
  ({ s with readDataPrefix := none },
    match s.readDataPrefix, data with
    | none, data => data
    | some pre, none => some pre
    | some pre, some data => some (pre ++ data))

def readCallback (s : NWTCPSocket) (data : Option Data) : NWTCPSocket :=
  if s.cancelled then s else s.queueCall (.readCallback data)

/-- The block of `readCallback`; none where `scanner` or `connection!` traps. -/
def deliver (s : NWTCPSocket) (data : Option Data) : Option (NWTCPSocket × List Exchange) :=
  match s.consumeReadData data with
  | (s, none) => some (s, [])
  | (s, some data) =>
    if s.scanning then
      match s.scanner with
      | none => none
      | some scanner =>
        match scanner.addAndScan data with
        | (scanner, none) => (readData { s with scanner := some scanner }).map fun s => (s, [])
        | (_, some (none, _)) => some ({ s with scanner := none, scanning := false }, [])
        | (_, some (some found, rest)) =>
          some ({ s with scanner := none, scanning := false, readDataPrefix := some rest },
            s.tell (.didRead found (some rest)))
    else some (s, s.tell (.didRead data none))

/-! ## Steps -/

/-- `observeValue` of the state, after it has changed; none where `connection!` traps. -/
def observeValue (s : NWTCPSocket) : Option NWTCPSocket :=
  s.connection.map fun c =>
    match c.state with
    | .connected => s.queueCall .didConnect
    | .disconnected => cancel { s with cancelled := true }
    | .cancelled => queueCall { s with cancelled := true } .didDisconnect
    | _ => s

/-- A block runs: what the socket is then, and what the delegate is told. -/
def runBlock (s : NWTCPSocket) : Block → Option (NWTCPSocket × List Exchange)
  | .didConnect => some (s, s.tell .didConnect)
  | .didDisconnect => some ({ s with delegate := false }, s.tell .didDisconnect)
  | .disconnect => some (s.disconnect.1, if s.disconnect.2 then [.failed] else [])
  | .readCallback data => s.deliver data
  | .written error =>
    let s := { s with writePending := false }
    if error then some (s.disconnect.1, if s.disconnect.2 then [.failed] else [])
    else some ({ s with queue := .checkStatus :: s.queue }, s.tell .didWrite)
  | .didWrite => some (s, s.tell .didWrite)
  | .checkStatus => some (s.checkStatus, [])

/-- What the delegate calls, what the connection does, and the queue. -/
inductive Input where
  | read (r : ReadRequest)
  | write (data : Data)
  | disconnect
  | forceDisconnect
  | stateChanged (state : NWTCPConnectionState)
  | readCompleted (data : Option Data)
  | readFailed
  | writeCompleted (error : Bool)
  | block

/-- What happens before the socket is called; none where the input cannot come. -/
def happen (s : NWTCPSocket) : Input → Option NWTCPSocket
  | .stateChanged state => (s.connection.bind (·.move state)).map fun c => { s with connection := some c }
  | .readCompleted data => (s.connection.bind (·.complete data)).map fun c => { s with connection := some c }
  | .readFailed => (s.connection.bind (·.complete none)).map fun c => { s with connection := some c }
  | .writeCompleted _ => (s.connection.bind (·.acknowledge)).map fun c => { s with connection := some c }
  | .block => if s.queue.isEmpty then none else some s
  | _ => some s

/-- Whether the stream of the connection has ended. -/
def noteEnd (s : NWTCPSocket) : List Exchange := if s.connection.any (·.ended) then [.ended] else []

/-- What the input calls, with what passes between the socket and its delegate; none is a trap. A cancelled
connection is one the delegate is told of at once when it next disconnects. -/
def handle (s : NWTCPSocket) : Input → Option (NWTCPSocket × List Exchange)
  | .read r => (s.read r).map fun s => (s, [.read r])
  | .write data => (s.write data).map fun s => (s, [.write data])
  | .disconnect => some (s.disconnect.1, [.disconnect s.disconnect.2])
  | .forceDisconnect => some (s.forceDisconnect.1, [.forceDisconnect s.forceDisconnect.2])
  | .stateChanged state => s.observeValue.map fun s => (s, if state = .cancelled then [.gone] else [])
  | .readCompleted data => some (s.readCallback data, s.noteEnd)
  | .readFailed => some (s.queueCall .disconnect, s.noteEnd)
  | .writeCompleted error => some (s.queueCall (.written error), [])
  | .block =>
    match s.queue with
    | [] => some (s, [])
    | block :: queue => runBlock { s with queue } block

def step (s : NWTCPSocket) (i : Input) : Option (NWTCPSocket × List Exchange) := (s.happen i).bind fun s => s.handle i

/-- A step of a socket together with all that has passed between it and its delegate. -/
def watch (w : NWTCPSocket × List Exchange) (i : Input) : Option (NWTCPSocket × List Exchange) :=
  (w.1.step i).map fun p => (p.1, w.2 ++ p.2)

/-- A socket that has been told to connect, with a tunnel provider or without one. -/
def start (tunnelProvider : Bool) : NWTCPSocket × List Exchange :=
  if tunnelProvider then (connectTo (some .create), []) else (connectTo none, [.gone])

/-- The bytes the socket has read from its connection. -/
def received (s : NWTCPSocket) : Data := (s.connection.map (·.received)).getD []

/-- The bytes the socket has written to its connection. -/
def sent (s : NWTCPSocket) : Data := (s.connection.map (·.sent)).getD []

end NWTCPSocket

end VpnSs.NEKit
