/-
`GCDHTTPProxyServer`: it makes a tunnel of each socket it accepts, and keeps those that have not told it of
their end. Its tunnels do not touch each other, so that each is a connection of its own, whatever the others
do and however their events are interleaved; a server that is stopped closes them all.
-/
import VpnSs.Lib.Family
import VpnSs.NEKit.EndToEnd

namespace VpnSs.NEKit

open VpnSs.Swift

/-! ## The server -/

/-- A proxy server: all the connections it has accepted so far, and its `tunnels`, each by its place among
these. -/
structure ProxyServer (Cryptor : Type) where
  accepted : List (Connection Cryptor)
  tunnels : List Nat

namespace ProxyServer

variable {Cryptor : Type}

def new : ProxyServer Cryptor := { accepted := [], tunnels := [] }

/-- `didAcceptNewSocket`. The listening socket hands its sockets over on the queue, one it has accepted before
a `stop` also after it. -/
def didAcceptNewSocket (s : ProxyServer Cryptor) : ProxyServer Cryptor :=
  { accepted := s.accepted ++ [Connection.didAcceptNewSocket], tunnels := s.tunnels ++ [s.accepted.length] }

/-- `tunnelDidClose` -/
def tunnelDidClose (s : ProxyServer Cryptor) (tunnel : Nat) : ProxyServer Cryptor :=
  { s with tunnels := s.tunnels.erase tunnel }

/-- A tunnel has become another and has told the server of its end as often as it counts. -/
def update (s : ProxyServer Cryptor) (tunnel : Nat) (c c' : Connection Cryptor) : ProxyServer Cryptor :=
  (tunnelDidClose · tunnel)^[c'.closedCalls - c.closedCalls] { s with accepted := s.accepted.set tunnel c' }

/-- `forceClose` of a tunnel. -/
def forceClose (s : ProxyServer Cryptor) (tunnel : Nat) : ProxyServer Cryptor :=
  match s.accepted[tunnel]? with
  | none => s
  | some c => s.update tunnel c c.forceClose

/-- `stop`: the loop is over the tunnels as they are when it begins. -/
def stop (s : ProxyServer Cryptor) : ProxyServer Cryptor :=
  s.tunnels.foldl forceClose s

/-! ## Steps -/

/-- An accepted socket, an event of one tunnel, and `stop`. -/
inductive Event where
  | accept
  | tunnel (i : Nat) (e : Connection.Event)
  | stop

/-- A tunnel is closed by force by `stop` alone. Each connection has an environment of its own: it draws its
own random bytes. -/
def step (env : Nat → Environment Cryptor) (s : ProxyServer Cryptor) : Event → Option (ProxyServer Cryptor)
  | .accept => some s.didAcceptNewSocket
  | .tunnel _ .forceClose => none
  | .tunnel i e => s.accepted[i]?.bind fun c => (c.step (env i) e).map fun c' => s.update i c c'
  | .stop => some s.stop

/-! ## The tunnels -/

variable {env : Nat → Environment Cryptor}

/-- A connection is open until it has told the server of its end. -/
def isOpen (accepted : List (Connection Cryptor)) (i : Nat) : Bool := accepted[i]?.any fun c => c.closedCalls = 0

/-- The tunnels are the open connections in the order they were accepted. -/
structure Listed (env : Nat → Environment Cryptor) (s : ProxyServer Cryptor) : Prop where
  tunnels : s.tunnels = (List.range s.accepted.length).filter (isOpen s.accepted)
  phase : ∀ i c, s.accepted[i]? = some c → Connection.Phase (env i) c

theorem listed_new : Listed env (new : ProxyServer Cryptor) := ⟨rfl, fun _ _ hc => by cases hc⟩

theorem accepted_iterate (s : ProxyServer Cryptor) (i n : Nat) :
    ((tunnelDidClose · i)^[n] s).accepted = s.accepted := by
  induction n generalizing s with
  | zero => rfl
  | succ n ih => rw [Function.iterate_succ_apply, ih]; rfl

theorem accepted_update (s : ProxyServer Cryptor) (i : Nat) (c c' : Connection Cryptor) :
    (s.update i c c').accepted = s.accepted.set i c' :=
  accepted_iterate _ i _

theorem isOpen_set {accepted : List (Connection Cryptor)} {i j : Nat} (c : Connection Cryptor)
    (hi : i < accepted.length) :
    isOpen (accepted.set i c) j = if i = j then decide (c.closedCalls = 0) else isOpen accepted j := by
  unfold isOpen
  split
  · rename_i hij
    subst hij
    rw [List.getElem?_set_self hi]
    rfl
  · rename_i hij
    rw [List.getElem?_set_ne hij]

/-- A tunnel that closes leaves the list, any other change leaves the list as it is. -/
theorem Listed.update {s : ProxyServer Cryptor} {i : Nat} {c c' : Connection Cryptor} (h : Listed env s)
    (hc : s.accepted[i]? = some c) (hphase : Connection.Phase (env i) c') (hle : c.closedCalls ≤ c'.closedCalls)
    (hone : c'.closedCalls ≤ 1) : Listed env (s.update i c c') := by
  have hlt : i < s.accepted.length := (List.getElem?_eq_some_iff.1 hc).1
  have hopen : isOpen s.accepted i = decide (c.closedCalls = 0) := by rw [isOpen, hc]; rfl
  refine ⟨?_, ?_⟩
  · rw [accepted_update, List.length_set, ProxyServer.update]
    by_cases heq : c'.closedCalls = c.closedCalls
    · rw [heq, Nat.sub_self, Function.iterate_zero, id]
      refine h.tunnels.trans (List.filter_congr fun j _ => ?_)
      rw [isOpen_set c' hlt, heq, ← hopen]
      split
      · rename_i hij; rw [hij]
      · rfl
    · have hfrom : c.closedCalls = 0 ∧ c'.closedCalls = 1 := by omega
      rw [hfrom.1, hfrom.2, Function.iterate_one, tunnelDidClose]
      dsimp only
      have hnodup : s.tunnels.Nodup := by rw [h.tunnels]; exact List.nodup_range.filter _
      rw [hnodup.erase_eq_filter, h.tunnels, List.filter_filter]
      refine List.filter_congr fun j _ => ?_
      rw [isOpen_set c' hlt, hfrom.2]
      split
      · rename_i hij
        subst hij
        simp
      · rename_i hij
        have hne : (j != i) = true := bne_iff_ne.2 (Ne.symm hij)
        rw [hne, Bool.true_and]
  · intro j d hd
    rw [accepted_update] at hd
    by_cases hij : i = j
    · subst hij
      rw [List.getElem?_set_self hlt] at hd
      cases hd
      exact hphase
    · rw [List.getElem?_set_ne hij] at hd
      exact h.phase j d hd

theorem Listed.didAcceptNewSocket {s : ProxyServer Cryptor} (h : Listed env s) : Listed env s.didAcceptNewSocket := by
  refine ⟨?_, ?_⟩
  · have hold : (List.range s.accepted.length).filter (isOpen s.accepted) =
        (List.range s.accepted.length).filter (isOpen (s.accepted ++ [Connection.didAcceptNewSocket])) := by
      refine List.filter_congr fun j hj => ?_
      rw [isOpen, isOpen, List.getElem?_append_left (List.mem_range.1 hj)]
    have hnew : isOpen (s.accepted ++ [(Connection.didAcceptNewSocket : Connection Cryptor)]) s.accepted.length = true := by
      rw [isOpen, List.getElem?_append_right (Nat.le_refl _), Nat.sub_self]
      rfl
    dsimp only [ProxyServer.didAcceptNewSocket]
    rw [List.length_append, List.length_singleton, List.range_succ, List.filter_append, h.tunnels, hold,
      List.filter_singleton, hnew]
    rfl
  · intro i c hc
    dsimp only [ProxyServer.didAcceptNewSocket] at hc
    rcases Nat.lt_or_ge i s.accepted.length with hlt | hge
    · rw [List.getElem?_append_left hlt] at hc
      exact h.phase i c hc
    · rw [List.getElem?_append_right hge] at hc
      cases List.mem_singleton.1 (List.mem_of_getElem? hc)
      exact .reading rfl

theorem Listed.forceClose {s : ProxyServer Cryptor} (h : Listed env s) (i : Nat) : Listed env (s.forceClose i) := by
  unfold ProxyServer.forceClose
  split
  · exact h
  · rename_i c hc
    have hphase := h.phase i c hc
    have hstep : c.step (env i) .forceClose = some c.forceClose := rfl
    obtain ⟨hle, hone⟩ := hphase.closedCalls_step hstep
    exact h.update hc (hphase.step hstep) hle hone

theorem Listed.stop {s : ProxyServer Cryptor} (h : Listed env s) : Listed env s.stop := by
  have hfold : ∀ (tunnels : List Nat) (s : ProxyServer Cryptor), Listed env s →
      Listed env (tunnels.foldl ProxyServer.forceClose s) := by
    intro tunnels
    induction tunnels with
    | nil => exact fun s hs => hs
    | cons i tunnels ih => exact fun s hs => ih _ (hs.forceClose i)
  exact hfold s.tunnels s h

theorem Listed.step {s s' : ProxyServer Cryptor} {e : Event} (h : Listed env s) (hs : s.step env e = some s') :
    Listed env s' := by
  unfold ProxyServer.step at hs
  split at hs
  · cases hs
    exact h.didAcceptNewSocket
  · cases hs
  · obtain ⟨c, hc, hs⟩ := Option.bind_eq_some_iff.1 hs
    obtain ⟨c', hstep, rfl⟩ := Option.map_eq_some_iff.1 hs
    have hphase := h.phase _ c hc
    obtain ⟨hle, hone⟩ := hphase.closedCalls_step hstep
    exact h.update hc (hphase.step hstep) hle hone
  · cases hs
    exact h.stop

theorem listed_run {es : List Event} {s : ProxyServer Cryptor} (h : Lts.run (step env) new es = some s) :
    Listed env s :=
  Lts.run_invariant (fun _ _ _ hi hs => hi.step hs) listed_new h

/-! ## Each connection for itself -/

/-- What an event of the server is for its connections. -/
def familyEvents : Event → List (Family.Event Connection.Event)
  | .accept => [.spawn]
  | .tunnel i e => [.one i e]
  | .stop => [.all .forceClose]

/-- The events of the connection `i` in a run of the server, `n` connections being there. -/
def own (i n : Nat) (es : List Event) : List Connection.Event := Family.own i n (es.flatMap familyEvents)

theorem cancelled_forceClose {env : Environment Cryptor} {c : Connection Cryptor} (h : Connection.Phase env c) :
    c.forceClose.cancelled = true ∧ (c.cancelled = true → c.forceClose = c) := by
  have hstays : c.cancelled = true → c.forceClose = c := by
    intro hcancelled
    rw [Connection.forceClose_eq_close, Connection.close_of_cancelled hcancelled]
  refine ⟨?_, hstays⟩
  rcases h.alive_or_cancelled with ha | hc
  · exact (ha.closable.forceClose ha.client).cancelled
  · rw [hstays hc.cancelled]; exact hc.cancelled

theorem Listed.cancelled {s : ProxyServer Cryptor} (h : Listed env s) {i : Nat} {c : Connection Cryptor}
    (hc : s.accepted[i]? = some c) (hi : i ∉ s.tunnels) : c.cancelled = true := by
  have hlt : i < s.accepted.length := (List.getElem?_eq_some_iff.1 hc).1
  rcases (h.phase i c hc).alive_or_cancelled with ha | hcan
  · refine absurd ?_ hi
    rw [h.tunnels, List.mem_filter, List.mem_range, isOpen, hc]
    exact ⟨hlt, decide_eq_true ha.closedCalls⟩
  · exact hcan.cancelled

theorem getElem?_forceClose (s : ProxyServer Cryptor) (i j : Nat) :
    (s.forceClose j).accepted[i]? = s.accepted[i]?.map fun c => if i = j then c.forceClose else c := by
  unfold forceClose
  by_cases hij : i = j
  · subst hij
    simp only [if_true]
    split
    · rename_i hnone; rw [hnone]; rfl
    · rename_i c hc
      have hlt : i < s.accepted.length := (List.getElem?_eq_some_iff.1 hc).1
      rw [accepted_update, List.getElem?_set_self hlt, hc]
      rfl
  · simp only [if_neg hij, Option.map_id']
    split
    · rfl
    · rw [accepted_update, List.getElem?_set_ne (Ne.symm hij)]

theorem Listed.getElem?_foldl (tunnels : List Nat) {s : ProxyServer Cryptor} (h : Listed env s) (i : Nat) :
    (tunnels.foldl ProxyServer.forceClose s).accepted[i]? =
      s.accepted[i]?.map fun c => if i ∈ tunnels then c.forceClose else c := by
  induction tunnels generalizing s with
  | nil => simp
  | cons j tunnels ih =>
    rw [List.foldl_cons, ih (h.forceClose j), getElem?_forceClose, Option.map_map]
    rcases hc : s.accepted[i]? with _ | c
    · rfl
    · obtain ⟨hcancelled, -⟩ := cancelled_forceClose (h.phase i c hc)
      -- closed twice is closed once
      have htwice : c.forceClose.forceClose = c.forceClose := by
        rw [Connection.forceClose_eq_close c.forceClose, Connection.close_of_cancelled hcancelled]
      by_cases hij : i = j
      · simp [hij, htwice]
      · simp [hij]

/-- All connections are closed by force: those that are no tunnels any more are left as they are. -/
theorem Listed.accepted_stop {s : ProxyServer Cryptor} (h : Listed env s) :
    s.stop.accepted = s.accepted.map Connection.forceClose := by
  refine List.ext_getElem? fun i => ?_
  rw [ProxyServer.stop, h.getElem?_foldl, List.getElem?_map]
  rcases hc : s.accepted[i]? with _ | c
  · rfl
  · rw [Option.map_some, Option.map_some]
    split
    · rfl
    · rename_i hi
      rw [(cancelled_forceClose (h.phase i c hc)).2 (h.cancelled hc hi)]

/-- The connections of the server are a family. -/
theorem Listed.run_family {s s' : ProxyServer Cryptor} {e : Event} (h : Listed env s) (hs : s.step env e = some s') :
    Lts.run (Family.step (fun i => Connection.step (env i)) Connection.didAcceptNewSocket) s.accepted (familyEvents e) =
      some s'.accepted := by
  have hone : ∀ {e ss}, Family.step (fun i => Connection.step (env i)) Connection.didAcceptNewSocket s.accepted e = some ss →
      Lts.run (Family.step (fun i => Connection.step (env i)) Connection.didAcceptNewSocket) s.accepted [e] = some ss := by
    intro e ss he
    rw [Lts.run_cons, he]
    rfl
  unfold ProxyServer.step at hs
  split at hs
  · cases hs
    rfl
  · cases hs
  · rename_i i e _
    obtain ⟨c, hc, hs⟩ := Option.bind_eq_some_iff.1 hs
    obtain ⟨c', hstep, rfl⟩ := Option.map_eq_some_iff.1 hs
    refine hone ?_
    rw [Family.step, hc, Option.bind_some, hstep, accepted_update]
    rfl
  · cases hs
    refine hone ?_
    have hforce : (fun p : Connection Cryptor × Nat => p.1.step (env p.2) .forceClose) =
        fun p => pure (p.1.forceClose) := rfl
    rw [Family.step, hforce, List.mapM_pure, h.accepted_stop, ← List.zipIdx_map_fst 0 s.accepted, List.map_map,
      List.zipIdx_map_fst]
    rfl

theorem run_family {s s' : ProxyServer Cryptor} {es : List Event} (h : Listed env s)
    (hr : Lts.run (step env) s es = some s') :
    Lts.run (Family.step (fun i => Connection.step (env i)) Connection.didAcceptNewSocket) s.accepted (es.flatMap familyEvents) =
      some s'.accepted := by
  induction es generalizing s with
  | nil => cases hr; rfl
  | cons e es ih =>
    obtain ⟨t, ht, hrest⟩ := Lts.run_cons_some.1 hr
    rw [List.flatMap_cons, Lts.run_append, h.run_family ht, Option.bind_some]
    exact ih (h.step ht) hrest

/-! ## A sample run -/

/-- Two clients are accepted and one of them leaves; then the server is stopped. -/
def sampleEvents : List Event := [.accept, .accept, .tunnel 1 .clientDisconnected]

theorem run_sampleEvents : ∃ s c, Lts.run (step fun _ => Connection.sampleEnvironment) new sampleEvents = some s ∧
    s.tunnels = [0] ∧ s.accepted[1]? = some c := ⟨_, _, rfl, rfl, rfl⟩

/-! ## Whole runs -/

section Runs

variable {es : List Event} {s : ProxyServer Cryptor}

/-- The server's list has every accepted connection that has not told of its end, once and in the order of
acceptance, and no other; none tells of its end twice. -/
theorem tunnels_listed (h : Lts.run (step env) new es = some s) :
    s.tunnels.Pairwise (· < ·) ∧ (∀ i, i ∈ s.tunnels ↔ ∃ c, s.accepted[i]? = some c ∧ c.closedCalls = 0) ∧
      ∀ c ∈ s.accepted, c.closedCalls ≤ 1 := by
  have hlisted := listed_run h
  refine ⟨?_, fun i => ?_, fun c hc => ?_⟩
  · rw [hlisted.tunnels]
    exact List.pairwise_lt_range.filter _
  · rw [hlisted.tunnels, List.mem_filter, List.mem_range, isOpen]
    constructor
    · rintro ⟨-, hopen⟩
      obtain ⟨c, hc, hcalls⟩ := (Option.any_eq_true _ _).1 hopen
      exact ⟨c, hc, of_decide_eq_true hcalls⟩
    · rintro ⟨c, hc, hcalls⟩
      rw [hc]
      exact ⟨(List.getElem?_eq_some_iff.1 hc).1, decide_eq_true hcalls⟩
  · obtain ⟨i, hi⟩ := List.mem_iff_getElem?.1 hc
    rcases (hlisted.phase i c hi).alive_or_cancelled with ha | hcan
    · rw [ha.closedCalls]; exact Nat.zero_le 1
    · rw [hcan.closedCalls]; cases c.delegate <;> decide

theorem tunnels_listed_sample : ∃ s, Lts.run (step fun _ => Connection.sampleEnvironment) new sampleEvents = some s ∧
    ∃ c, s.accepted[0]? = some c ∧ c.closedCalls = 0 := by
  obtain ⟨s, -, hrun, htunnels, -⟩ := run_sampleEvents
  obtain ⟨-, hmem, -⟩ := tunnels_listed hrun
  exact ⟨s, hrun, (hmem 0).1 (by rw [htunnels]; exact List.mem_singleton_self 0)⟩

/-- However the events of the connections are interleaved, each connection is where its own events lead it,
as if it were the only one. -/
theorem tunnels_separate (h : Lts.run (step env) new es = some s) {i : Nat} {c : Connection Cryptor}
    (hc : s.accepted[i]? = some c) :
    Lts.run (Connection.step (env i)) Connection.didAcceptNewSocket (own i 0 es) = some c :=
  Family.run_member (run_family listed_new h) hc

theorem tunnels_separate_sample : ∃ c : Connection Nat,
    Lts.run (Connection.step Connection.sampleEnvironment) Connection.didAcceptNewSocket (own 1 0 sampleEvents) = some c := by
  obtain ⟨s, c, hrun, -, hc⟩ := run_sampleEvents
  exact ⟨c, tunnels_separate hrun hc⟩

/-- Whatever follows when the server is stopped, the connections it had accepted are cancelled and send
nothing more to either end; one that is still listed has a raw socket that has not reported its end. -/
theorem stop_closes (h : Lts.run (step env) new es = some s) {fs : List Event} {t : ProxyServer Cryptor}
    (ht : Lts.run (step env) s (.stop :: fs) = some t) {i : Nat} {c : Connection Cryptor}
    (hc : s.accepted[i]? = some c) :
    ∃ c', t.accepted[i]? = some c' ∧ c'.cancelled = true ∧ c'.client.sent = c.client.sent ∧
      c'.server.sent = c.server.sent ∧ (i ∈ t.tunnels → c'.client.delegate = true ∨ c'.server.delegate = true) := by
  have hlisted := listed_run h
  have hphase := hlisted.phase i c hc
  obtain ⟨u, hu, hrest⟩ := Lts.run_cons_some.1 ht
  cases hu
  have hstop : s.stop.accepted[i]? = some c.forceClose := by
    rw [hlisted.accepted_stop, List.getElem?_map, hc]
    rfl
  have hfamily := run_family hlisted.stop hrest
  have hlt : i < t.accepted.length :=
    Nat.lt_of_lt_of_le (List.getElem?_eq_some_iff.1 hstop).1 (Family.length_le_run hfamily)
  have hc' : t.accepted[i]? = some t.accepted[i] := List.getElem?_eq_getElem hlt
  have hown := Family.run_member hfamily hc'
  rw [hstop, Option.getD_some] at hown
  -- the connection is cancelled when the server has stopped, and it goes on by itself
  have hclosed : Connection.Cancelled c.forceClose := by
    rcases hphase.alive_or_cancelled with ha | hcan
    · exact ha.closable.forceClose ha.client
    · rw [(cancelled_forceClose hphase).2 hcan.cancelled]; exact hcan
  have hstill : Connection.Still c c.forceClose := Connection.still_close c
  obtain ⟨hcan, hclient, hserver⟩ := hclosed.run (hphase.bounds.1.still hstill) hown
  refine ⟨_, hc', hcan.cancelled, hclient.trans hstill.client_sent, hserver.trans hstill.server_sent, fun hi => ?_⟩
  by_contra hdone
  rw [not_or, Bool.not_eq_true, Bool.not_eq_true] at hdone
  have hcalls := hcan.closedCalls_of_done hdone.1 hdone.2
  have hlast : Listed env t := Lts.run_invariant (fun _ _ _ hi hs => hi.step hs) hlisted.stop hrest
  rw [hlast.tunnels, List.mem_filter, isOpen, hc'] at hi
  have hzero := of_decide_eq_true hi.2
  rw [hcalls] at hzero
  cases hzero

theorem stop_closes_sample : ∃ s t c c', Lts.run (step fun _ => Connection.sampleEnvironment) new sampleEvents = some s ∧
    Lts.run (step fun _ => Connection.sampleEnvironment) s [.stop] = some t ∧ s.accepted[1]? = some c ∧
      t.accepted[1]? = some c' ∧ c'.cancelled = true ∧ c'.server.sent = c.server.sent := by
  obtain ⟨s, c, hrun, -, hc⟩ := run_sampleEvents
  have hstop : Lts.run (step fun _ => Connection.sampleEnvironment) s [.stop] = some s.stop := rfl
  obtain ⟨c', hc', hcancelled, -, hsent, -⟩ := stop_closes hrun hstop hc
  exact ⟨s, s.stop, c, c', hrun, hstop, hc, hc', hcancelled, hsent⟩

end Runs

end ProxyServer

end VpnSs.NEKit
