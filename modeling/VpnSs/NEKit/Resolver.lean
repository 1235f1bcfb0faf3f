/-
`Resolver`: queries to the DNS service, each with a timer, and the table of those under way. A query that was
started is answered once, by the first thing to happen that answers it, be it only its timer; it then holds
the addresses of all replies so far, and it leaves the table. One that could not be started is never
answered, and stays in the table.
-/
import VpnSs.Lib.Lts
import VpnSs.Swift.Text
import Mathlib.Data.List.AList
import Mathlib.Data.List.Forall2

namespace VpnSs.NEKit

open VpnSs.Swift

/-! ## The table -/

/-- `SafeDict`: the values inserted and not removed, each under the count of those before it. -/
structure SafeDict (T : Type) where
  dict : AList fun _ : Nat => T
  curr : Nat

namespace SafeDict

variable {T : Type}

def empty : SafeDict T := { dict := ∅, curr := 0 }

def count (d : SafeDict T) : Nat := d.dict.keys.length

/-- The key is what the pointer that `insert` returns points at. -/
def insert (d : SafeDict T) (value : T) : Nat × SafeDict T :=
  (d.curr, { dict := d.dict.insert d.curr value, curr := d.curr + 1 })

def get (d : SafeDict T) (id : Nat) : Option T := d.dict.lookup id

def remove (d : SafeDict T) (id : Nat) : SafeDict T := { d with dict := d.dict.erase id }

theorem get_insert (d : SafeDict T) (value : T) (i : Nat) :
    (d.insert value).2.get i = if i = d.curr then some value else d.get i := by
  unfold get insert
  split
  · rename_i h
    rw [h]
    exact AList.lookup_insert _
  · rename_i h
    exact AList.lookup_insert_ne h

theorem get_remove (d : SafeDict T) (id i : Nat) : (d.remove id).get i = if i = id then none else d.get i := by
  unfold get remove
  split
  · rename_i h
    rw [h]
    exact AList.lookup_erase _ _
  · rename_i h
    exact AList.lookup_erase_ne h

/-- The keys in use are those of any list that names each once. -/
theorem count_eq {d : SafeDict T} {keys : List Nat} (hnodup : keys.Nodup)
    (hmem : ∀ i, i ∈ keys ↔ (d.get i).isSome) : d.count = keys.length := by
  refine List.Perm.length_eq ((List.perm_ext_iff_of_nodup d.dict.keys_nodup hnodup).2 fun i => ?_)
  rw [hmem, ← AList.mem_keys]
  exact AList.lookup_isSome.symm

end SafeDict

/-! ## The service -/

/-- `DNSServiceErrorType` -/
abbrev DNSServiceErrorType := Int

def kDNSServiceErr_NoError : DNSServiceErrorType := 0

def kDNSServiceErr_Timeout : DNSServiceErrorType := -65568

def kDNSServiceFlagsMoreComing : BitVec 32 := 1

/-- A `sockaddr` by its family, with the text `inet_ntop` makes of an Internet address. -/
inductive SockAddr where
  | inet (text : Text)
  | inet6 (text : Text)
  | other

/-- What the callback of `DNSServiceGetAddrInfo` reads of its arguments. The address is there only without an
error, and not looked at with one. -/
structure Reply where
  flags : BitVec 32
  errorCode : DNSServiceErrorType
  address : SockAddr

/-! ## A query -/

inductive ResolveType where
  | ipv4
  | ipv6
  | any
  deriving DecidableEq

inductive TimerState where
  | suspended
  | resumed
  | cancelled
  deriving DecidableEq

/-- How the completion handler is called: with the resolver and no error, or with the error alone. -/
inductive Completion where
  | resolved
  | failed (err : DNSServiceErrorType)
  deriving DecidableEq

/-- A resolver, whether it has a `DNSServiceRef`, and the calls of its completion handler so far. -/
structure Resolver where
  hostname : Text
  resolveType : ResolveType
  firstResult : Bool
  timeout : Nat
  ipv4Result : List Text
  ipv6Result : List Text
  cancelled : Bool
  ref : Bool
  id : Option Nat
  timer : TimerState
  completions : List Completion

/-- The arguments of `Resolver.resolve`. -/
structure Query where
  hostname : Text
  qtype : ResolveType
  firstResult : Bool
  timeout : Nat

namespace Resolver

def init (q : Query) : Resolver :=
  { hostname := q.hostname, resolveType := q.qtype, firstResult := q.firstResult, timeout := q.timeout,
    ipv4Result := [], ipv6Result := [], cancelled := false, ref := false, id := none, timer := .suspended,
    completions := [] }

/-- `completionHandler` -/
def complete (r : Resolver) (c : Completion) : Resolver := { r with completions := r.completions ++ [c] }

/-- `release`, which also takes the resolver out of the table. -/
def release (r : Resolver) (dict : SafeDict Nat) : Resolver × SafeDict Nat :=
  ({ r with cancelled := true, timer := .cancelled, ref := false, id := none },
    match r.id with
    | none => dict
    | some id => dict.remove id)

/-- The `switch` of the callback. -/
def append (r : Resolver) : SockAddr → Resolver
  | .inet text => { r with ipv4Result := r.ipv4Result ++ [text] }
  | .inet6 text => { r with ipv6Result := r.ipv6Result ++ [text] }
  | .other => r

/-- The callback, once it has found its resolver. -/
def callback (r : Resolver) (reply : Reply) (dict : SafeDict Nat) : Resolver × SafeDict Nat :=
  if r.cancelled then (r, dict)
  else if reply.errorCode = kDNSServiceErr_NoError then
    let r := r.append reply.address
    if r.firstResult || reply.flags &&& kDNSServiceFlagsMoreComing == 0 then
      let (r, dict) := r.release dict
      (r.complete .resolved, dict)
    else (r, dict)
  else
    let (r, dict) := r.release dict
    (r.complete (.failed reply.errorCode), dict)

def timeoutHandler (r : Resolver) (dict : SafeDict Nat) : Resolver × SafeDict Nat :=
  if r.cancelled then (r, dict)
  else
    let (r, dict) := r.release dict
    (r.complete (.failed kDNSServiceErr_Timeout), dict)

end Resolver

/-! ## All queries -/

/-- The resolvers in the order they were made, and the table, which refers to them by their places. -/
structure Resolvers where
  made : List Resolver
  dict : SafeDict Nat

namespace Resolvers

def new : Resolvers := { made := [], dict := .empty }

def activeCount (s : Resolvers) : Nat := s.dict.count

/-- `Resolver.resolve`, where `DNSServiceGetAddrInfo` returns `error`, and whether it returns true. -/
def resolve (s : Resolvers) (q : Query) (error : DNSServiceErrorType) : Resolvers × Bool :=
  let (id, dict) := s.dict.insert s.made.length
  let r := { Resolver.init q with id := some id }
  if error = kDNSServiceErr_NoError then
    ({ made := s.made ++ [{ r with ref := true, timer := .resumed }], dict }, true)
  else ({ made := s.made ++ [r], dict }, false)

/-- A method of the resolver at a place. -/
def call (s : Resolvers) (place : Nat) (method : Resolver → SafeDict Nat → Resolver × SafeDict Nat) : Resolvers :=
  match s.made[place]? with
  | none => s
  | some r => { made := s.made.set place (method r s.dict).1, dict := (method r s.dict).2 }

/-- The callback of `DNSServiceGetAddrInfo`, which finds its resolver in the table. -/
def getAddrInfoReply (s : Resolvers) (context : Nat) (reply : Reply) : Resolvers :=
  match s.dict.get context with
  | none => s
  | some place => s.call place fun r dict => r.callback reply dict

inductive Event where
  | resolve (q : Query) (error : DNSServiceErrorType)
  | reply (place : Nat) (reply : Reply)
  | timeout (place : Nat)

/-- The service replies while the resolver has a `DNSServiceRef`, with the key it was given. A timer's handler
runs once it was resumed; it may have been on its way when the timer was cancelled. -/
def step (s : Resolvers) : Event → Option Resolvers
  | .resolve q error => some (s.resolve q error).1
  | .reply place reply => do
    let r ← s.made[place]?
    let context ← r.id
    if r.ref then some (s.getAddrInfoReply context reply) else none
  | .timeout place => do
    let r ← s.made[place]?
    if r.timer = .suspended then none else some (s.call place Resolver.timeoutHandler)

end Resolvers

/-! ## What a query comes to -/

/-- What can happen to a query: a reply, and its timer. -/
inductive Signal where
  | reply (reply : Reply)
  | timeout

namespace Signal

/-- The answer to the query that the signal calls for, if it does. -/
def answer (firstResult : Bool) : Signal → Option Completion
  | .timeout => some (.failed kDNSServiceErr_Timeout)
  | .reply r =>
    if r.errorCode = kDNSServiceErr_NoError then
      if firstResult || r.flags &&& kDNSServiceFlagsMoreComing == 0 then some .resolved else none
    else some (.failed r.errorCode)

/-- The address the signal brings. -/
def address : Signal → Option SockAddr
  | .timeout => none
  | .reply r => if r.errorCode = kDNSServiceErr_NoError then some r.address else none

def inet (x : Signal) : Option Text :=
  match x.address with
  | some (.inet text) => some text
  | _ => none

def inet6 (x : Signal) : Option Text :=
  match x.address with
  | some (.inet6 text) => some text
  | _ => none

end Signal

/-- A query, whether the service took it, and what has happened to it. -/
structure Request where
  query : Query
  started : Bool
  signals : List Signal

namespace Request

/-- The first signal that calls for an answer decides. -/
def answer (q : Request) : Option Completion := q.signals.findSome? (Signal.answer q.query.firstResult)

def receive (x : Signal) (q : Request) : Request := { q with signals := q.signals ++ [x] }

def record (qs : List Request) : Resolvers.Event → List Request
  | .resolve q error => qs ++ [{ query := q, started := error = kDNSServiceErr_NoError, signals := [] }]
  | .reply place reply => qs.modify place (receive (.reply reply))
  | .timeout place => qs.modify place (receive .timeout)

theorem answer_receive (x : Signal) (q : Request) :
    (q.receive x).answer = q.answer.or (x.answer q.query.firstResult) := by
  rw [answer, receive, List.findSome?_append, List.findSome?_singleton]
  rfl

theorem filterMap_receive {α : Type} (f : Signal → Option α) (x : Signal) (q : Request) :
    (q.receive x).signals.filterMap f = q.signals.filterMap f ++ (f x).toList := by
  rw [receive, List.filterMap_append]
  cases hx : f x <;> simp [hx]

theorem idle_of_started {q : Request} (hs : q.started = true) : q.started = false → q.signals = [] := by
  intro hf
  rw [hf] at hs
  cases hs

end Request

/-- The queries of a run with what has happened to each. -/
def requests (es : List Resolvers.Event) : List Request := es.foldl Request.record []

/-! ## One resolver -/

namespace Resolver

/-- The resolver has done what its query calls for. -/
structure Answers (r : Resolver) (q : Request) : Prop where
  firstResult : r.firstResult = q.query.firstResult
  completions : r.completions = q.answer.toList
  ipv4Result : r.ipv4Result = q.signals.filterMap Signal.inet
  ipv6Result : r.ipv6Result = q.signals.filterMap Signal.inet6
  cancelled : r.cancelled = q.answer.isSome
  ref : r.ref = (q.started && q.answer.isNone)
  timer : r.timer = .suspended ↔ q.started = false
  idle : q.started = false → q.signals = []

/-- With the addresses of a signal. -/
def gain (r : Resolver) (x : Signal) : Resolver :=
  { r with ipv4Result := r.ipv4Result ++ x.inet.toList, ipv6Result := r.ipv6Result ++ x.inet6.toList }

/-- What a resolver that is not cancelled makes of a signal, in one. -/
def signal (x : Signal) (r : Resolver) (dict : SafeDict Nat) : Resolver × SafeDict Nat :=
  match x.answer r.firstResult with
  | none => (r.gain x, dict)
  | some c => (((r.gain x).release dict).1.complete c, (r.release dict).2)

variable {r : Resolver} {q : Request} {dict : SafeDict Nat}

theorem gain_timeout (r : Resolver) : r.gain .timeout = r := by
  simp [gain, Signal.inet, Signal.inet6, Signal.address]

theorem gain_error {reply : Reply} (h : reply.errorCode ≠ kDNSServiceErr_NoError) (r : Resolver) :
    r.gain (.reply reply) = r := by
  simp [gain, Signal.inet, Signal.inet6, Signal.address, h]

theorem gain_address {reply : Reply} (h : reply.errorCode = kDNSServiceErr_NoError) (r : Resolver) :
    r.gain (.reply reply) = r.append reply.address := by
  unfold gain append Signal.inet Signal.inet6 Signal.address
  rcases haddr : reply.address with text | text | _ <;> simp [h, haddr]

theorem timeoutHandler_eq (hc : r.cancelled = false) : r.timeoutHandler dict = r.signal .timeout dict := by
  rw [timeoutHandler, hc, if_neg Bool.false_ne_true, signal, Signal.answer, gain_timeout]

theorem callback_eq (hc : r.cancelled = false) (reply : Reply) :
    r.callback reply dict = r.signal (.reply reply) dict := by
  rw [callback, hc, if_neg Bool.false_ne_true, signal, Signal.answer]
  by_cases herr : reply.errorCode = kDNSServiceErr_NoError
  · rw [if_pos herr, if_pos herr, gain_address herr]
    have hfirst : (r.append reply.address).firstResult = r.firstResult := by cases reply.address <;> rfl
    have hid : ((r.append reply.address).release dict).2 = (r.release dict).2 := by cases reply.address <;> rfl
    dsimp only
    rw [hfirst]
    split
    · rw [hid]
    · rfl
  · rw [if_neg herr, if_neg herr, gain_error herr]

theorem Answers.signal (h : Answers r q) (hc : r.cancelled = false) (hs : q.started = true) (x : Signal) :
    Answers (r.signal x dict).1 (q.receive x) := by
  have hnone : q.answer = none := by
    rw [← Option.not_isSome_iff_eq_none, ← h.cancelled, hc]
    exact Bool.false_ne_true
  have hans : (q.receive x).answer = x.answer r.firstResult := by
    rw [Request.answer_receive, hnone, Option.none_or, h.firstResult]
  have hinet : r.ipv4Result ++ x.inet.toList = (q.receive x).signals.filterMap Signal.inet := by
    rw [Request.filterMap_receive, h.ipv4Result]
  have hinet6 : r.ipv6Result ++ x.inet6.toList = (q.receive x).signals.filterMap Signal.inet6 := by
    rw [Request.filterMap_receive, h.ipv6Result]
  have hidle : (q.receive x).started = false → (q.receive x).signals = [] := Request.idle_of_started hs
  have hcalls : r.completions = [] := by rw [h.completions, hnone]; rfl
  rw [Resolver.signal]
  rcases hx : x.answer r.firstResult with _ | c
  · rw [hx] at hans
    exact ⟨h.firstResult, by rw [hans]; exact hcalls, hinet, hinet6, by rw [hans]; exact hc,
      by rw [hans]; exact h.ref.trans (by rw [hnone]; rfl), h.timer, hidle⟩
  · rw [hx] at hans
    refine ⟨h.firstResult, ?_, hinet, hinet6, by rw [hans]; rfl, ?_, ?_, hidle⟩
    · rw [hans]
      show r.completions ++ [c] = [c]
      rw [hcalls]
      rfl
    · rw [hans, Option.isNone_some, Bool.and_false]
      rfl
    · exact iff_of_false (by intro hf; cases hf) (by intro hf; rw [show q.started = false from hf] at hs; cases hs)

/-- The timer of a query that was answered changes nothing. -/
theorem Answers.late (h : Answers r q) (hc : r.cancelled = true) (hs : q.started = true) :
    Answers r (q.receive .timeout) := by
  have hsome : q.answer.isSome = true := by rw [← h.cancelled, hc]
  have hans : (q.receive .timeout).answer = q.answer := by
    rw [Request.answer_receive, Option.or_of_isSome hsome]
  have hinet : (q.receive .timeout).signals.filterMap Signal.inet = q.signals.filterMap Signal.inet := by
    rw [Request.filterMap_receive]
    exact List.append_nil _
  have hinet6 : (q.receive .timeout).signals.filterMap Signal.inet6 = q.signals.filterMap Signal.inet6 := by
    rw [Request.filterMap_receive]
    exact List.append_nil _
  exact ⟨h.firstResult, by rw [hans]; exact h.completions, by rw [hinet]; exact h.ipv4Result,
    by rw [hinet6]; exact h.ipv6Result, by rw [hans]; exact h.cancelled, by rw [hans]; exact h.ref, h.timer,
    Request.idle_of_started hs⟩

end Resolver

/-! ## Steps -/

namespace Resolvers

/-- Each resolver has done what its query calls for, and the table holds those that are not cancelled, each
under its place. -/
structure Holds (s : Resolvers) (qs : List Request) : Prop where
  length : qs.length = s.made.length
  answers : ∀ (i : Nat) (r : Resolver) (q : Request), s.made[i]? = some r → qs[i]? = some q → r.Answers q
  curr : s.dict.curr = s.made.length
  id : ∀ (i : Nat) (r : Resolver), s.made[i]? = some r → r.id = if r.cancelled then none else some i
  get : ∀ i : Nat, s.dict.get i = s.made[i]?.bind (·.id)

variable {s s' : Resolvers} {qs : List Request} {place : Nat} {r : Resolver} {q : Request}

theorem holds_new : Holds new [] where
  length := rfl
  answers _ _ _ hr := by cases hr
  curr := rfl
  id _ _ hr := by cases hr
  get _ := rfl

theorem Holds.request (h : Holds s qs) (hr : s.made[place]? = some r) : ∃ q, qs[place]? = some q ∧ r.Answers q := by
  have hlt : place < qs.length := by
    rw [h.length]
    exact (List.getElem?_eq_some_iff.1 hr).1
  exact ⟨_, List.getElem?_eq_getElem hlt, h.answers place r _ hr (List.getElem?_eq_getElem hlt)⟩

theorem resolve_eq (s : Resolvers) (q : Query) (error : DNSServiceErrorType) :
    ∃ r, (s.resolve q error).1 = { made := s.made ++ [r], dict := (s.dict.insert s.made.length).2 } ∧
      r.Answers { query := q, started := error = kDNSServiceErr_NoError, signals := [] } ∧
      r.id = some s.dict.curr ∧ r.cancelled = false := by
  dsimp only [resolve, SafeDict.insert]
  by_cases herr : error = kDNSServiceErr_NoError
  · rw [if_pos herr]
    refine ⟨_, rfl, ⟨rfl, rfl, rfl, rfl, rfl, ?_, ?_, fun _ => rfl⟩, rfl, rfl⟩
    · simp [herr, Request.answer]
    · simp [herr]
  · rw [if_neg herr]
    refine ⟨_, rfl, ⟨rfl, rfl, rfl, rfl, rfl, ?_, ?_, fun _ => rfl⟩, rfl, rfl⟩
    · simp [herr, Resolver.init]
    · simp [herr, Resolver.init]

theorem Holds.resolve (h : Holds s qs) (q : Query) (error : DNSServiceErrorType) :
    Holds (s.resolve q error).1 (Request.record qs (.resolve q error)) := by
  obtain ⟨r, heq, hans, hid, hc⟩ := resolve_eq s q error
  rw [heq, Request.record]
  -- A place is either an old one or the next.
  have hlast : ∀ i r', (s.made ++ [r])[i]? = some r' → s.made[i]? = some r' ∨ (i = s.made.length ∧ r' = r) := by
    intro i r' hi
    rcases Nat.lt_trichotomy i s.made.length with hlt | rfl | hgt
    · rw [List.getElem?_append_left hlt] at hi
      exact .inl hi
    · rw [List.getElem?_concat_length] at hi
      cases hi
      exact .inr ⟨rfl, rfl⟩
    · rw [List.getElem?_eq_none (by rw [List.length_append, List.length_singleton]; omega)] at hi
      cases hi
  refine ⟨?_, ?_, ?_, ?_, ?_⟩
  · rw [List.length_append, List.length_append, h.length]
    rfl
  · intro i r' q' hr hq
    rcases hlast i r' hr with hr | ⟨rfl, rfl⟩
    · have hlt : i < qs.length := by
        rw [h.length]
        exact (List.getElem?_eq_some_iff.1 hr).1
      rw [List.getElem?_append_left hlt] at hq
      exact h.answers i r' q' hr hq
    · rw [← h.length, List.getElem?_concat_length] at hq
      cases hq
      exact hans
  · rw [List.length_append]
    exact congrArg (· + 1) h.curr
  · intro i r' hr
    rcases hlast i r' hr with hr | ⟨rfl, rfl⟩
    · exact h.id i r' hr
    · rw [hid, hc, h.curr]
      rfl
  · intro i
    rw [SafeDict.get_insert]
    dsimp only
    split
    · rename_i hi
      rw [hi, h.curr, List.getElem?_concat_length, Option.bind_some, hid, h.curr]
    · rename_i hi
      rw [h.get]
      rcases Nat.lt_or_gt_of_ne (h.curr ▸ hi) with hlt | hgt
      · rw [List.getElem?_append_left hlt]
      · rw [List.getElem?_eq_none (by omega),
          List.getElem?_eq_none (by rw [List.length_append, List.length_singleton]; omega)]

theorem call_eq (hr : s.made[place]? = some r) (method : Resolver → SafeDict Nat → Resolver × SafeDict Nat) :
    s.call place method = { made := s.made.set place (method r s.dict).1, dict := (method r s.dict).2 } := by
  rw [call, hr]

/-- A method that answers for what has happened, and leaves the resolver in the table or takes it out as it is
cancelled. -/
theorem Holds.call (h : Holds s qs) (hr : s.made[place]? = some r) (hq : qs[place]? = some q)
    {method : Resolver → SafeDict Nat → Resolver × SafeDict Nat} {receive : Request → Request} {r' : Resolver}
    {dict : SafeDict Nat} (hm : method r s.dict = (r', dict)) (hans : r'.Answers (receive q))
    (hentry : (r'.id = r.id ∧ r'.cancelled = r.cancelled ∧ dict = s.dict) ∨
      (r'.id = none ∧ r'.cancelled = true ∧ dict = s.dict.remove place)) :
    Holds (s.call place method) (qs.modify place receive) := by
  have hlt : place < s.made.length := (List.getElem?_eq_some_iff.1 hr).1
  rw [call_eq hr, hm]
  have hset : ∀ i, (s.made.set place r')[i]? = if i = place then some r' else s.made[i]? := by
    intro i
    split
    · rename_i hi
      rw [hi, List.getElem?_set_self hlt]
    · rename_i hi
      rw [List.getElem?_set_ne (Ne.symm hi)]
  refine ⟨?_, ?_, ?_, ?_, ?_⟩
  · rw [List.length_modify, List.length_set, h.length]
  · intro i r₁ q₁ hr₁ hq₁
    rw [hset] at hr₁
    split at hr₁
    · rename_i hi
      rw [hi, List.getElem?_modify_eq, hq] at hq₁
      cases hr₁
      cases hq₁
      exact hans
    · rename_i hi
      rw [List.getElem?_modify_ne receive qs (Ne.symm hi)] at hq₁
      exact h.answers i r₁ q₁ hr₁ hq₁
  · rw [List.length_set, ← h.curr]
    rcases hentry with ⟨-, -, rfl⟩ | ⟨-, -, rfl⟩ <;> rfl
  · intro i r₁ hr₁
    rw [hset] at hr₁
    split at hr₁
    · rename_i hi
      cases hr₁
      rw [hi]
      rcases hentry with ⟨hid, hc, -⟩ | ⟨hid, hc, -⟩
      · rw [hid, hc, h.id place r hr]
      · rw [hid, hc]
        rfl
    · exact h.id i r₁ hr₁
  · intro i
    dsimp only
    rw [hset]
    rcases hentry with ⟨hid, -, rfl⟩ | ⟨hid, -, rfl⟩
    · rw [h.get]
      split
      · rename_i hi
        rw [hi, hr, Option.bind_some, Option.bind_some, hid]
      · rfl
    · rw [SafeDict.get_remove]
      split
      · rw [Option.bind_some, hid]
      · exact h.get i

theorem Holds.signal (h : Holds s qs) (hr : s.made[place]? = some r) (hq : qs[place]? = some q)
    (hc : r.cancelled = false) (hs : q.started = true) {x : Signal}
    {method : Resolver → SafeDict Nat → Resolver × SafeDict Nat} (hm : method r s.dict = r.signal x s.dict) :
    Holds (s.call place method) (qs.modify place (Request.receive x)) := by
  have hans : (r.signal x s.dict).1.Answers (q.receive x) := (h.answers place r q hr hq).signal hc hs x
  refine h.call hr hq hm hans ?_
  have hid : r.id = some place := by rw [h.id place r hr, hc]; rfl
  rcases x.answer r.firstResult with _ | c
  · exact .inl ⟨rfl, rfl, rfl⟩
  · refine .inr ⟨rfl, rfl, ?_⟩
    show (r.release s.dict).2 = s.dict.remove place
    rw [Resolver.release, hid]

theorem Holds.step (h : Holds s qs) {e : Event} (hs : step s e = some s') : Holds s' (Request.record qs e) := by
  cases e with
  | resolve query error =>
    cases hs
    exact h.resolve query error
  | reply place reply =>
    obtain ⟨r, hr, hs⟩ := Option.bind_eq_some_iff.1 hs
    obtain ⟨context, hid, hs⟩ := Option.bind_eq_some_iff.1 hs
    obtain ⟨q, hq, hans⟩ := h.request hr
    split at hs
    · rename_i href
      cases hs
      rw [hans.ref, Bool.and_eq_true] at href
      -- A resolver with a reference is in the table, under its place.
      have hc : r.cancelled = false := by rw [hans.cancelled, ← Option.not_isNone, href.2]; rfl
      have hplace : context = place := by
        rw [h.id place r hr, hc] at hid
        cases hid
        rfl
      have hget : s.dict.get context = some place := by
        rw [hplace, h.get, hr, Option.bind_some, h.id place r hr, hc]
        rfl
      rw [getAddrInfoReply, hget]
      exact h.signal hr hq hc href.1 (Resolver.callback_eq hc reply)
    · cases hs
  | timeout place =>
    obtain ⟨r, hr, hs⟩ := Option.bind_eq_some_iff.1 hs
    obtain ⟨q, hq, hans⟩ := h.request hr
    split at hs
    · cases hs
    · rename_i htimer
      cases hs
      have hstarted : q.started = true := by
        rw [hans.timer, Bool.not_eq_false] at htimer
        exact htimer
      cases hc : r.cancelled with
      | false => exact h.signal hr hq hc hstarted (Resolver.timeoutHandler_eq hc)
      | true =>
        have hsame : r.timeoutHandler s.dict = (r, s.dict) := by rw [Resolver.timeoutHandler, if_pos hc]
        exact h.call hr hq hsame (hans.late hc hstarted) (.inl ⟨rfl, rfl, rfl⟩)

/-! ## The table and the queries -/

theorem length_filter_range (p : Request → Bool) (qs : List Request) :
    ((List.range qs.length).filter fun i => qs[i]?.any p).length = (qs.filter p).length := by
  induction qs using List.reverseRecOn with
  | nil => rfl
  | append_singleton qs q ih =>
    have hold : ((List.range qs.length).filter fun i => (qs ++ [q])[i]?.any p) =
        (List.range qs.length).filter fun i => qs[i]?.any p := by
      refine List.filter_congr fun i hi => ?_
      rw [List.getElem?_append_left (List.mem_range.1 hi)]
    rw [List.length_append, List.length_singleton, List.range_succ, List.filter_append, List.filter_append,
      List.length_append, List.length_append, hold, ih, List.filter_singleton, List.filter_singleton,
      List.getElem?_concat_length, Option.any_some]
    cases p q <;> rfl

/-- `activeCount` counts the queries that have no answer. -/
theorem Holds.activeCount (h : Holds s qs) : s.activeCount = (qs.filter fun q => q.answer.isNone).length := by
  rw [← length_filter_range, Resolvers.activeCount]
  refine SafeDict.count_eq (List.nodup_range.filter _) fun i => ?_
  rw [List.mem_filter, List.mem_range, h.get]
  cases hi : s.made[i]? with
  | none =>
    have hle : qs.length ≤ i := by
      rw [h.length]
      exact List.getElem?_eq_none_iff.1 hi
    rw [Option.bind_none]
    exact iff_of_false (fun hmem => absurd hmem.1 (Nat.not_lt.2 hle)) Bool.false_ne_true
  | some r =>
    obtain ⟨q, hq, hans⟩ := h.request hi
    have hlt : i < qs.length := (List.getElem?_eq_some_iff.1 hq).1
    rw [Option.bind_some, h.id i r hi, hq, Option.any_some, hans.cancelled, and_iff_right hlt]
    cases q.answer <;> simp

/-- The timer of a query that was started and has no answer answers it. -/
theorem Holds.timeout (h : Holds s qs) (hr : s.made[place]? = some r) (hq : qs[place]? = some q)
    (hs : q.started = true) (hnone : q.answer = none) :
    ∃ s' r', Resolvers.step s (.timeout place) = some s' ∧ s'.made[place]? = some r' ∧
      r'.completions = [.failed kDNSServiceErr_Timeout] := by
  have hans : r.Answers q := h.answers place r q hr hq
  have htimer : r.timer ≠ .suspended := by
    intro htimer
    rw [hans.timer.1 htimer] at hs
    cases hs
  have hstep : Resolvers.step s (.timeout place) = some (s.call place Resolver.timeoutHandler) := by
    rw [Resolvers.step, hr]
    exact if_neg htimer
  have hlt : place < s.made.length := (List.getElem?_eq_some_iff.1 hr).1
  have hc : r.cancelled = false := by rw [hans.cancelled, hnone]; rfl
  refine ⟨_, (r.timeoutHandler s.dict).1, hstep, ?_, ?_⟩
  · rw [call_eq hr]
    exact List.getElem?_set_self hlt
  · rw [Resolver.timeoutHandler_eq hc, (hans.signal hc hs .timeout).completions, Request.answer_receive, hnone]
    rfl

/-! ## Runs -/

variable {es : List Event}

theorem run_holds (hr : Lts.run step new es = some s) : Holds s (requests es) := by
  have hstep : ∀ s qs e s', Holds s qs → True → step s e = some s' → Holds s' (Request.record qs e) :=
    fun _ _ _ _ h _ hs => h.step hs
  exact Lts.run_simulates hstep holds_new (Lts.meets_of_forall (fun _ _ => trivial) _ _) hr

/-- In every run each completion handler has been called with the answer to its query and no more, that is, not
before the first signal that decides it and not again, and the resolver holds the addresses of its replies in
order. The table holds those without an answer, which a query that was started gets from its timer at the
latest, and one that was not never gets. -/
theorem run_answers (hr : Lts.run step new es = some s) :
    List.Forall₂ Resolver.Answers s.made (requests es) ∧
      s.activeCount = ((requests es).filter fun q => q.answer.isNone).length ∧
      ∀ (i : Nat) (q : Request), (requests es)[i]? = some q →
        (q.started = false → q.answer = none) ∧
        (q.started = true → q.answer = none → ∃ s' r', step s (.timeout i) = some s' ∧ s'.made[i]? = some r' ∧
          r'.completions = [.failed kDNSServiceErr_Timeout]) := by
  have h : Holds s (requests es) := run_holds hr
  refine ⟨?_, h.activeCount, ?_⟩
  · rw [List.forall₂_iff_get]
    refine ⟨h.length.symm, fun i hi hi' => ?_⟩
    exact h.answers i _ _ (List.getElem?_eq_getElem hi) (List.getElem?_eq_getElem hi')
  · intro i q hq
    have hlt : i < s.made.length := by
      rw [← h.length]
      exact (List.getElem?_eq_some_iff.1 hq).1
    have hi : s.made[i]? = some s.made[i] := List.getElem?_eq_getElem hlt
    refine ⟨fun hs => ?_, fun hs hnone => h.timeout hi hq hs hnone⟩
    rw [Request.answer, (h.answers i _ q hi hq).idle hs]
    rfl

def sampleReply : Reply := { flags := 1, errorCode := kDNSServiceErr_NoError, address := .inet (text "1.2.3.4") }

/-- A query for the first result, with its reply and then its timer, and one that the service refuses. -/
def sampleRun : List Event :=
  let q : Query := { hostname := text "cloudflare.com", qtype := .ipv4, firstResult := true, timeout := 1 }
  [.resolve q kDNSServiceErr_NoError, .resolve q (-65537), .reply 0 sampleReply, .timeout 0]

theorem run_answers_sample : ∃ s, Lts.run step new sampleRun = some s ∧ s.activeCount = 1 ∧
    List.Forall₂ Resolver.Answers s.made (requests sampleRun) := by
  refine ⟨_, rfl, rfl, ?_⟩
  exact (@run_answers _ sampleRun rfl).1

end Resolvers

end VpnSs.NEKit
