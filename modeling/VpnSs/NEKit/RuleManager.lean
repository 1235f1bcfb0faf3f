/-
`RuleManager.match` as a decision list. A session's address and country have one value however
often and in whatever order the rules read them (`address`, `countryOf`), so each rule has one
answer (`answer`), and the loop over the rules computes the first of these answers.
-/
import VpnSs.NEKit.Rule
import VpnSs.Lib.DecisionList

namespace VpnSs.NEKit

open VpnSs.Swift VpnSs.Except

structure RuleManager where
  rules : List Rule

def RuleManager.fromRules (rules : List Rule) (appendDirect : Bool) : RuleManager :=
  if appendDirect || rules.length == 0 then ⟨rules ++ [.direct]⟩ else ⟨rules⟩

/-- `RuleManager.match`: the rule a session has matched before, else the first that answers, which
the session then keeps. -/
def RuleManager.match (os : OS) (g : Globals) (m : RuleManager) : SessionM (Option AdapterFactory) := do
  match (← get).matchedRule with
  | some rule => rule.match os g
  | none =>
    match ← DecisionList.firstM (Rule.match os g) m.rules with
    | some (rule, adapterFactory) =>
      modify fun s => { s with matchedRule := some rule }
      return some adapterFactory
    | none => return none

/-! ## The values of the lazy fields -/

section Values

variable (os : OS) (g : Globals)

/-- The address every read of the session gives. -/
def ConnectSession.address (s : ConnectSession) : Text := s.ipAddress.getD (s.initIPAddress os g)

/-- The country every read of the session gives, or the trap. -/
def ConnectSession.countryOf (s : ConnectSession) : Except Trap Text :=
  match s.country with
  | some c => .ok c
  | none => (lookup os g (s.address os g)).map fun c => c.getD []

/-- Sessions that differ from `s` at most in which lazy fields are computed. -/
structure ConnectSession.Same (s t : ConnectSession) : Prop where
  host : t.host = s.host
  matchedRule : t.matchedRule = s.matchedRule
  address : t.address os g = s.address os g
  countryOf : t.countryOf os g = s.countryOf os g

/-- What a rule answers on a session. -/
def Rule.answer (s : ConnectSession) : Rule → Except Trap (Option AdapterFactory)
  | .domainList adapterFactory matchCriteria =>
    .ok (if matchDomain matchCriteria s.host then some adapterFactory else none)
  | .ipRangeList adapterFactory ranges =>
    match IPAddress.fromString os (s.address os g) with
    | none => .ok none
    | some ip => .ok (if ranges.any (fun range => range.contains ip) then some adapterFactory else none)
  | .country countryCode isMatch adapterFactory => do
    return if ((← s.countryOf os g) != countryCode) != isMatch then some adapterFactory else none
  | .dnsFail adapterFactory => .ok (if s.address os g == [] then some adapterFactory else none)
  | .all adapterFactory => .ok (some adapterFactory)
  | .direct => .ok (some .direct)

variable {os g}

theorem ConnectSession.Same.refl (s : ConnectSession) : s.Same os g s := ⟨rfl, rfl, rfl, rfl⟩

theorem readIPAddress_run (s : ConnectSession) :
    (readIPAddress os g).run s = .ok (s.address os g, { s with ipAddress := some (s.address os g) }) := by
  rcases hip : s.ipAddress with _ | ip
  · simp [readIPAddress, ConnectSession.address, hip]
  · -- a computed address is read back, and writing it again changes nothing
    cases s
    simp only at hip
    subst hip
    simp [readIPAddress, ConnectSession.address]

theorem readCountry_some {s : ConnectSession} {c : Text} (h : s.country = some c) :
    (readCountry os g).run s = .ok (c, s) := by
  simp [readCountry, h]

theorem readCountry_none {s : ConnectSession} (h : s.country = none) :
    (readCountry os g).run s = (lookup os g (s.address os g)).map fun c =>
      (c.getD [], { s with ipAddress := some (s.address os g), country := some (c.getD []) }) := by
  simp only [readCountry, StateT.run_bind, StateT.run_get, pure_eq_ok, ok_bind, h, readIPAddress_run]
  rcases lookup os g (s.address os g) with e | c <;> rfl

theorem readIPAddress_computes (s : ConnectSession) :
    Computes (s.Same os g) (readIPAddress os g) (.ok (s.address os g)) := by
  intro t ht
  refine ⟨{ t with ipAddress := some (t.address os g) }, ?_, ht.host, ht.matchedRule, ht.address, ht.countryOf⟩
  rw [readIPAddress_run, ht.address]

theorem readCountry_computes (s : ConnectSession) :
    Computes (s.Same os g) (readCountry os g) (s.countryOf os g) := by
  intro t ht
  rw [← ht.countryOf]
  rcases hc : t.country with _ | c
  · rw [ConnectSession.countryOf, hc, readCountry_none hc]
    rcases hlook : lookup os g (t.address os g) with e | c
    · rfl
    · -- the session keeps the country it would give again
      refine ⟨_, rfl, ht.host, ht.matchedRule, ht.address, ?_⟩
      rw [← ht.countryOf, ConnectSession.countryOf, ConnectSession.countryOf, hc, hlook]; rfl
  · rw [ConnectSession.countryOf, hc]
    exact ⟨t, readCountry_some hc, ht⟩

/-- Every rule computes its answer, from whatever the session has read so far. -/
theorem Rule.match_computes (s : ConnectSession) (r : Rule) :
    Computes (s.Same os g) (r.match os g) (r.answer os g s) := by
  cases r with
  | domainList adapterFactory matchCriteria =>
    exact Computes.gets (fun t : ConnectSession => if matchDomain matchCriteria t.host then some adapterFactory else none) _
      fun t ht => by rw [ht.host]
  | ipRangeList adapterFactory ranges =>
    show Computes _ _ ((.ok (s.address os g) : Except Trap Text) >>= fun ip =>
      match IPAddress.fromString os ip with
      | none => .ok none
      | some ip => .ok (if ranges.any (fun range => range.contains ip) then some adapterFactory else none))
    apply (readIPAddress_computes s).bind
    intro ip _
    cases IPAddress.fromString os ip with
    | none => exact Computes.pure _
    | some ip => exact Computes.pure _
  | country countryCode isMatch adapterFactory =>
    -- a trap of the lookup is the trap of the rule
    exact (readCountry_computes s).bind fun c _ => Computes.pure _
  | dnsFail adapterFactory =>
    exact (readIPAddress_computes s).bind fun ip _ => Computes.pure _
  | all adapterFactory => exact Computes.pure _
  | direct => exact Computes.pure _

end Values

/-! ## The adapter `match` picks -/

/-- The adapter `RuleManager.match` returns for a session, or the trap it ends in. -/
def RuleManager.pick (os : OS) (g : Globals) (m : RuleManager) (s : ConnectSession) :
    Except Trap (Option AdapterFactory) :=
  ((m.match os g).run s).map Prod.fst

/-- For a session that has matched no rule before, `match` picks the adapter of the first rule
that answers. -/
theorem RuleManager.pick_eq (os : OS) (g : Globals) (m : RuleManager) {s : ConnectSession}
    (h : s.matchedRule = none) :
    m.pick os g s = DecisionList.verdict (Rule.answer os g s) m.rules := by
  have hrun : (m.match os g).run s =
      ((DecisionList.firstM (Rule.match os g) m.rules).run s >>= fun p => match p with
        | (some (rule, adapterFactory), t) => .ok (some adapterFactory, { t with matchedRule := some rule })
        | (none, t) => .ok (none, t)) := by
    simp only [RuleManager.match, StateT.run_bind, StateT.run_get, pure_eq_ok, ok_bind, h]
    rcases (DecisionList.firstM (Rule.match os g) m.rules).run s with e | ⟨_ | ⟨rule, adapterFactory⟩, t⟩ <;> rfl
  have hloop := DecisionList.firstM_computes (C := s.Same os g) m.rules fun r _ => Rule.match_computes s r
  rw [RuleManager.pick, DecisionList.verdict, hrun]
  cases hd : DecisionList.decide (Rule.answer os g s) m.rules with
  | error e =>
    rw [hd] at hloop
    rw [hloop.run_error (.refl s)]; rfl
  | ok o =>
    rw [hd] at hloop
    obtain ⟨t, ht, -⟩ := hloop.run_ok (.refl s)
    rw [ht]
    rcases o with _ | ⟨rule, adapterFactory⟩ <;> rfl

end VpnSs.NEKit
