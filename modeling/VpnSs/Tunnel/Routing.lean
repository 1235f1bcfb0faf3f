/-
What the compiled rules mean. A rule document is a list of entries; its policy sends a session to
the adapter of the first entry that matches it, and otherwise decides by the country. The rule
manager `startTunnel` installs picks the adapter of the policy, for every document and every
session whose country can be read; where it cannot, routing traps.
-/
import VpnSs.Tunnel.Compile
import VpnSs.NEKit.RangeText
import VpnSs.Lib.DecisionList

namespace VpnSs.Tunnel

open VpnSs.Swift VpnSs.NEKit VpnSs.Except

/-! ## Documents and their policy -/

structure Entry where
  type : Text
  adapter : Text
  criteria : List Text

/-- The entry has one of the two types the compiler knows. -/
def Entry.HasCriteria (e : Entry) : Prop := e.type = text "domainlist" ∨ e.type = text "iplist"

/-- The YAML value of an entry. Criteria of an unknown type are never read. -/
structure Entry.Represents (e : Entry) (each : Yaml) : Prop where
  type : each.get (text "type") = .string e.type
  adapter : each.get (text "adapter") = .string e.adapter
  criteria : e.HasCriteria → each.get (text "criteria") = .array (e.criteria.map .string)

/-- A YAML value whose `rule` is the list of the entries. -/
def Represents (doc : List Entry) (value : Yaml) : Prop :=
  ∃ items, value.get (text "rule") = .array items ∧ List.Forall₂ Entry.Represents doc items

/-- Domain criteria of at least two characters, IP criteria that the code reads as ranges. -/
structure Entry.WellFormed (os : OS) (e : Entry) : Prop where
  domainlist : e.type = text "domainlist" → ∀ c ∈ e.criteria, 2 ≤ c.length
  iplist : e.type = text "iplist" → ∀ c ∈ e.criteria, ∃ r, IPRange.withString os c = .ok r

/-- Domain criteria of at least two characters, IP criteria that say a valid range. -/
structure Entry.Valid (os : OS) (e : Entry) : Prop where
  domainlist : e.type = text "domainlist" → ∀ c ∈ e.criteria, 2 ≤ c.length
  iplist : e.type = text "iplist" → ∀ c ∈ e.criteria, ∃ t, RangeText.read os c = some t ∧ t.Valid

section Ranges

variable (os : OS)

/-- An address text in the range the code reads from another text. -/
def inRange (address c : Text) : Bool :=
  match IPAddress.fromString os address, IPRange.withString os c with
  | some ip, .ok r => r.contains ip
  | _, _ => false

/-- An address text among the addresses another text says. -/
def liesIn (address c : Text) : Bool :=
  match IPAddress.fromString os address, RangeText.read os c with
  | some ip, some t => decide (t.Contains ip)
  | _, _ => false

/-- No criterion of the entry is an IPv6 prefix that an IPv6 address is looked for under. -/
def Entry.Unreversed (e : Entry) (address : Text) : Prop :=
  e.type = text "iplist" → ∀ c ∈ e.criteria, ∀ t, RangeText.read os c = some t →
    ∀ ip, IPAddress.fromString os address = some ip → ¬t.Reversed ip

end Ranges

section Policy

variable (substring within : Text → Text → Bool)

/-- A domain criterion: the letter `s`, `k` or `p`, one more character, and the text the host is
searched for. -/
def criterionMatches (host : Text) : Text → Bool
  | letter :: _ :: url =>
    (letter == ⟨['s']⟩ && decide (url <:+ host)) || (letter == ⟨['k']⟩ && substring host url) ||
      (letter == ⟨['p']⟩ && decide (url <+: host))
  | _ => false

/-- The sessions an entry matches, by host and resolved address. -/
def Entry.matches (e : Entry) (host address : Text) : Bool :=
  if e.type == text "domainlist" then e.criteria.any (criterionMatches substring host)
  else if e.type == text "iplist" then e.criteria.any (within address)
  else false

/-- Direct iff the adapter text says so. -/
def Entry.adapterFactory (proxy : AdapterFactory) (e : Entry) : AdapterFactory :=
  if e.adapter == text "direct" then .direct else proxy

/-- Where no entry matches: China and unknown locations are reached directly. -/
def countryPolicy (proxy : AdapterFactory) (country : Text) : AdapterFactory :=
  if country = text "CN" ∨ country = text "--" then .direct else proxy

/-- The adapter a document assigns to a host, its address and its country: the first entry that
matches decides, and the country is asked for only where none does. -/
def policy (proxy : AdapterFactory) (doc : List Entry) (host address : Text) (country : Except Trap Text) :
    Except Trap AdapterFactory :=
  match doc.find? fun e => e.matches substring within host address with
  | some e => .ok (e.adapterFactory proxy)
  | none => country.map (countryPolicy proxy)

end Policy

/-! ## What one entry compiles to -/

/-- The criterion a text of a domain list compiles to; none for a letter the loop drops. -/
def criterionOf : Text → List MatchCriterion
  | letter :: _ :: url =>
    if letter = ⟨['s']⟩ then [.suffixOf url]
    else if letter = ⟨['k']⟩ then [.keyword url]
    else if letter = ⟨['p']⟩ then [.prefixOf url]
    else []
  | _ => []

/-- The criteria one element of `criteria` adds. -/
def criterion (dom : Yaml) : Except Trap (List MatchCriterion) := do
  let raw_dom ← unwrap dom.string?
  let _ ← index raw_dom 1
  let _ ← index raw_dom 2
  return criterionOf raw_dom

/-- The rules one element of `rule` adds. -/
def entryRules (os : OS) (ssAdapterFactory : AdapterFactory) (each : Yaml) : Except Trap (List Rule) := do
  let adapter := if (← unwrap (each.get (text "adapter")).string?) == text "direct" then .direct
    else ssAdapterFactory
  let ruleType ← unwrap (each.get (text "type")).string?
  if ruleType == text "domainlist" then
    let parts ← (← unwrap (each.get (text "criteria")).array?).mapM criterion
    return [.domainList adapter parts.flatten]
  else if ruleType == text "iplist" then
    let ipArray ← (← unwrap (each.get (text "criteria")).array?).mapM fun c => unwrap c.string?
    let rule ← forceTry (Rule.ofRanges os adapter ipArray)
    return [rule]
  else return []

theorem index_of_le {t : Text} {n : Nat} (h : n ≤ t.length) : index t n = .ok n := if_pos h

theorem criterionStep_eq (acc : List MatchCriterion) (dom : Yaml) :
    criterionStep acc dom = (criterion dom).map (acc ++ ·) := by
  unfold criterionStep criterion
  cases dom.string? with
  | none => rfl
  | some raw_dom =>
    simp only [unwrap_some, ok_bind]
    match raw_dom with
    -- with fewer than two characters both sides trap at the same index
    | [] => rfl
    | [c] => rfl
    | letter :: c :: url =>
      rw [index_of_le (by simp), index_of_le (by simp)]
      simp only [ok_bind, upTo, suffixFrom, List.take_succ_cons, List.take_zero, List.drop_succ_cons,
        List.drop_zero, criterionOf]
      have hletter (c : Char) : ([letter] == [⟨[c]⟩]) = decide (letter = ⟨[c]⟩) := by
        rw [Bool.eq_iff_iff]; simp
      simp only [show text "s" = [⟨['s']⟩] from rfl, show text "k" = [⟨['k']⟩] from rfl,
        show text "p" = [⟨['p']⟩] from rfl, hletter, decide_eq_true_eq]
      by_cases hs : letter = ⟨['s']⟩
      · simp [hs]
      by_cases hk : letter = ⟨['k']⟩
      · simp [hk]
      by_cases hp : letter = ⟨['p']⟩
      · simp [hp]
      · simp [hs, hk, hp]

theorem ruleStep_eq (os : OS) (ssAdapterFactory : AdapterFactory) (acc : List Rule) (each : Yaml) :
    ruleStep os ssAdapterFactory acc each = (entryRules os ssAdapterFactory each).map (acc ++ ·) := by
  unfold ruleStep entryRules
  simp only [map_bind]
  apply bind_congr; intro adapter
  apply bind_congr; intro ruleType
  by_cases hd : (ruleType == text "domainlist") = true
  · simp only [if_pos hd, map_bind]
    apply bind_congr; intro criteria
    rw [foldlM_append criterionStep_eq]
    rcases criteria.mapM criterion with e | parts <;> rfl
  by_cases hi : (ruleType == text "iplist") = true
  · simp only [if_neg hd, if_pos hi, map_bind]
    apply bind_congr; intro criteria
    apply bind_congr; intro ipArray
    apply bind_congr; intro rule
    rfl
  · simp only [if_neg hd, if_neg hi]
    exact congrArg Except.ok (List.append_nil acc).symm

/-- The compiled rules are those of the entries, in document order. -/
theorem compileRules_eq (os : OS) (ssAdapterFactory : AdapterFactory) {value : Yaml} {items : List Yaml}
    (h : value.get (text "rule") = .array items) :
    compileRules os ssAdapterFactory value =
      (items.mapM (entryRules os ssAdapterFactory)).map List.flatten := by
  unfold compileRules
  rw [h]
  exact foldlM_append (ruleStep_eq os ssAdapterFactory) [] items

/-! ## What the rules of an entry answer -/

theorem criterion_string {c : Text} (h : 2 ≤ c.length) : criterion (.string c) = .ok (criterionOf c) := by
  unfold criterion
  simp only [Yaml.string?, unwrap_some, ok_bind, index_of_le (Nat.le_of_succ_le h), index_of_le h, pure_eq_ok]

theorem matchDomain_criterionOf (c host : Text) :
    matchDomain (criterionOf c) host = criterionMatches contains host c := by
  match c with
  | [] => rfl
  | [_] => rfl
  | letter :: _ :: url =>
    simp only [criterionOf, criterionMatches]
    by_cases hs : letter = ⟨['s']⟩
    · rw [Bool.eq_iff_iff]; simp [hs, matchDomain, MatchCriterion.match, hasSuffix_iff]
    by_cases hk : letter = ⟨['k']⟩
    · rw [Bool.eq_iff_iff]; simp [hk, matchDomain, MatchCriterion.match]
    by_cases hp : letter = ⟨['p']⟩
    · rw [Bool.eq_iff_iff]; simp [hp, matchDomain, MatchCriterion.match, hasPrefix_iff]
    · simp [hs, hk, hp, matchDomain]

theorem matchDomain_flatten (parts : List (List MatchCriterion)) (host : Text) :
    matchDomain parts.flatten host = parts.any fun cs => matchDomain cs host := List.any_flatten

/-- An address lies in one of the parsed ranges iff one of the texts writes a range around it. -/
theorem any_contains_eq {os : OS} {criteria : List Text} {ranges : List IPRange}
    (h : criteria.mapM (IPRange.withString os) = .ok ranges) {address : Text} {ip : IPAddress}
    (hip : IPAddress.fromString os address = some ip) :
    (ranges.any fun range => range.contains ip) = criteria.any (inRange os address) := by
  have hr := mapM_eq_ok.1 h
  clear h
  induction hr with
  | nil => rfl
  | @cons c r criteria ranges hc _ ih => rw [List.any_cons, List.any_cons, ih, inRange, hip, hc]

theorem any_inRange_none {os : OS} {address : Text} (hip : IPAddress.fromString os address = none)
    (criteria : List Text) : criteria.any (inRange os address) = false := by
  simp [inRange, hip]

theorem mapM_string (criteria : List Text) :
    (criteria.map Yaml.string).mapM (fun c => unwrap c.string?) = .ok criteria := by
  rw [List.mapM_map]
  have h : criteria.mapM (fun c => unwrap (Yaml.string c).string?) = .ok (criteria.map id) :=
    mapM_of_forall fun c _ => rfl
  rw [List.map_id] at h
  exact h

theorem exists_criteria {P : Text → Prop} {items : List Yaml} (h : ∀ dom ∈ items, ∃ c, dom = .string c ∧ P c) :
    ∃ criteria : List Text, items = criteria.map .string ∧ ∀ c ∈ criteria, P c := by
  induction items with
  | nil => exact ⟨[], rfl, List.forall_mem_nil _⟩
  | cons dom items ih =>
    obtain ⟨⟨c, rfl, hc⟩, htail⟩ := List.forall_mem_cons.1 h
    obtain ⟨criteria, rfl, hcs⟩ := ih htail
    exact ⟨c :: criteria, rfl, List.forall_mem_cons.2 ⟨hc, hcs⟩⟩

theorem criterion_ok {dom : Yaml} {cs : List MatchCriterion} (h : criterion dom = .ok cs) :
    ∃ c, dom = .string c ∧ 2 ≤ c.length := by
  obtain ⟨c, hc, h⟩ := bind_eq_ok.1 h
  obtain ⟨_, -, h⟩ := bind_eq_ok.1 h
  obtain ⟨_, hlen, -⟩ := bind_eq_ok.1 h
  exact ⟨c, Yaml.string?_eq_some.1 (unwrap_ok.1 hc), (index_ok.1 hlen).1⟩

section Entries

variable {os : OS} (proxy : AdapterFactory)

/-- What a well-formed entry compiles to: a domain list, an IP list, or nothing for another type. -/
theorem entryRules_eq {e : Entry} {each : Yaml} (h : e.Represents each) (hw : e.WellFormed os) :
    (e.type = text "domainlist" ∧ entryRules os proxy each =
        .ok [.domainList (e.adapterFactory proxy) (e.criteria.map criterionOf).flatten]) ∨
      (e.type = text "iplist" ∧ ∃ ranges, e.criteria.mapM (IPRange.withString os) = .ok ranges ∧
        entryRules os proxy each = .ok [.ipRangeList (e.adapterFactory proxy) ranges]) ∨
      (¬e.HasCriteria ∧ entryRules os proxy each = .ok []) := by
  unfold entryRules
  simp only [h.type, h.adapter, Yaml.string?_string, unwrap_some, ok_bind]
  by_cases hd : e.type = text "domainlist"
  · left
    have hparts : (e.criteria.map Yaml.string).mapM criterion = .ok (e.criteria.map criterionOf) := by
      rw [List.mapM_map]
      exact mapM_of_forall fun c hc => criterion_string (hw.domainlist hd c hc)
    refine ⟨hd, ?_⟩
    simp only [hd, beq_self_eq_true, if_true, h.criteria (.inl hd), Yaml.array?_array, unwrap_some, ok_bind, hparts]
    rfl
  by_cases hi : e.type = text "iplist"
  · right; left
    obtain ⟨ranges, hranges⟩ := mapM_isOk_iff.2 (hw.iplist hi)
    refine ⟨hi, ranges, hranges, ?_⟩
    simp only [h.criteria (.inr hi), Yaml.array?_array, unwrap_some, ok_bind, mapM_string, Rule.ofRanges, hranges,
      pure_eq_ok, forceTry_ok, Entry.adapterFactory, beq_iff_eq, if_neg hd, if_pos hi]
  · right; right
    refine ⟨fun hc => hc.elim hd hi, ?_⟩
    simp only [beq_iff_eq, if_neg hd, if_neg hi, pure_eq_ok]

/-- The rules of a well-formed entry answer with its adapter on the sessions it matches. -/
theorem entryRules_represented {e : Entry} {each : Yaml} (h : e.Represents each) (hw : e.WellFormed os) :
    ∃ rules, entryRules os proxy each = .ok rules ∧ ∀ g s,
      DecisionList.verdict (Rule.answer os g s) rules =
        .ok (if e.matches contains (inRange os) s.host (s.address os g) then some (e.adapterFactory proxy) else none) := by
  rcases entryRules_eq proxy h hw with ⟨hd, hrules⟩ | ⟨hi, ranges, hranges, hrules⟩ | ⟨hno, hrules⟩
  · refine ⟨_, hrules, ?_⟩
    intro g s
    rw [DecisionList.verdict_singleton, Rule.answer, matchDomain_flatten, List.any_map]
    simp only [Entry.matches, hd, beq_self_eq_true, if_true, Function.comp_def, matchDomain_criterionOf]
  · have hd : e.type ≠ text "domainlist" := by
      rw [hi]; decide
    refine ⟨_, hrules, ?_⟩
    intro g s
    rw [DecisionList.verdict_singleton, Rule.answer]
    simp only [Entry.matches, beq_iff_eq, if_neg hd, if_pos hi]
    cases hip : IPAddress.fromString os (s.address os g) with
    | none => rw [any_inRange_none hip]; rfl
    | some ip => simp only [any_contains_eq hranges hip]
  · -- an entry of another type compiles to no rule and matches nothing
    refine ⟨_, hrules, ?_⟩
    intro g s
    obtain ⟨hd, hi⟩ := not_or.1 hno
    simp only [Entry.matches, beq_iff_eq, if_neg hd, if_neg hi]; rfl

variable {proxy}

/-- What compiles is represented by a well-formed entry. -/
theorem entryRules_ok {each : Yaml} {rules : List Rule} (h : entryRules os proxy each = .ok rules) :
    ∃ e : Entry, e.Represents each ∧ e.WellFormed os := by
  unfold entryRules at h
  obtain ⟨adapter, ha, h⟩ := bind_eq_ok.1 h
  obtain ⟨ruleType, ht, h⟩ := bind_eq_ok.1 h
  have ha := Yaml.string?_eq_some.1 (unwrap_ok.1 ha)
  have ht := Yaml.string?_eq_some.1 (unwrap_ok.1 ht)
  by_cases hd : ruleType = text "domainlist"
  · rw [if_pos (by simpa using hd)] at h
    obtain ⟨items, hc, h⟩ := bind_eq_ok.1 h
    obtain ⟨parts, hparts, -⟩ := bind_eq_ok.1 h
    have hitems := mapM_isOk_iff.1 ⟨parts, hparts⟩
    obtain ⟨criteria, rfl, hlen⟩ := exists_criteria fun dom hm => criterion_ok (hitems dom hm).choose_spec
    refine ⟨⟨ruleType, adapter, criteria⟩, ⟨ht, ha, ?_⟩, fun _ => hlen, ?_⟩
    · intro _
      exact Yaml.array?_eq_some.1 (unwrap_ok.1 hc)
    · intro hi
      exact absurd (hd.symm.trans hi) (by decide)
  rw [if_neg (by simpa using hd)] at h
  by_cases hi : ruleType = text "iplist"
  · rw [if_pos (by simpa using hi)] at h
    obtain ⟨items, hc, h⟩ := bind_eq_ok.1 h
    obtain ⟨ipArray, hip, h⟩ := bind_eq_ok.1 h
    obtain ⟨rule, hrule, -⟩ := bind_eq_ok.1 h
    have hitems := mapM_isOk_iff.1 ⟨ipArray, hip⟩
    obtain ⟨criteria, rfl, -⟩ := exists_criteria (P := fun _ => True) fun dom hm =>
      ⟨_, Yaml.string?_eq_some.1 (unwrap_ok.1 (hitems dom hm).choose_spec), trivial⟩
    rw [mapM_string] at hip
    cases hip
    obtain ⟨ranges, hranges, -⟩ := bind_eq_ok.1 (forceTry_eq_ok.1 hrule)
    refine ⟨⟨ruleType, adapter, ipArray⟩, ⟨ht, ha, ?_⟩, fun h => absurd h hd, ?_⟩
    · intro _
      exact Yaml.array?_eq_some.1 (unwrap_ok.1 hc)
    · intro _
      exact mapM_isOk_iff.1 ⟨ranges, hranges⟩
  · -- the criteria of an unknown type are not read, so any will do
    refine ⟨⟨ruleType, adapter, []⟩, ⟨ht, ha, ?_⟩, fun h => absurd h hd, fun h => absurd h hi⟩
    rintro (h | h)
    · exact absurd h hd
    · exact absurd h hi

end Entries

/-! ## The rules of a document -/

section Documents

variable {os : OS} (proxy : AdapterFactory)

theorem findSome?_ite {α β : Type} (p : α → Bool) (f : α → β) (l : List α) :
    (l.findSome? fun a => if p a then some (f a) else none) = (l.find? p).map f := by
  induction l with
  | nil => rfl
  | cons a l ih => rw [List.findSome?_cons, List.find?_cons]; cases p a <;> simp [ih]

/-- The rules of a well-formed document answer with the adapter of the first entry that matches. -/
theorem compileRules_represented {doc : List Entry} {value : Yaml} (h : Represents doc value)
    (hw : ∀ e ∈ doc, e.WellFormed os) :
    ∃ UserRules, compileRules os proxy value = .ok UserRules ∧ ∀ g s,
      DecisionList.verdict (Rule.answer os g s) UserRules =
        .ok ((doc.find? fun e => e.matches contains (inRange os) s.host (s.address os g)).map (Entry.adapterFactory proxy)) := by
  obtain ⟨items, hitems, hdoc⟩ := h
  have hparts : ∃ parts, items.mapM (entryRules os proxy) = .ok parts ∧
      List.Forall₂ (fun (e : Entry) rules => ∀ g s, DecisionList.verdict (Rule.answer os g s) rules =
        .ok (if e.matches contains (inRange os) s.host (s.address os g) then some (e.adapterFactory proxy) else none))
        doc parts := by
    clear hitems
    induction hdoc with
    | nil => exact ⟨[], rfl, .nil⟩
    | @cons e each doc items he _ ih =>
      obtain ⟨hwe, hwdoc⟩ := List.forall_mem_cons.1 hw
      obtain ⟨rules, hrules, hv⟩ := entryRules_represented proxy he hwe
      obtain ⟨parts, hparts, hvs⟩ := ih hwdoc
      exact ⟨rules :: parts, by rw [List.mapM_cons, hrules, hparts]; rfl, .cons hv hvs⟩
  obtain ⟨parts, hparts, hv⟩ := hparts
  refine ⟨parts.flatten, ?_, ?_⟩
  · rw [compileRules_eq os proxy hitems, hparts]; rfl
  · intro g s
    rw [DecisionList.verdict_flatten (hv.imp fun _ _ h => h g s), findSome?_ite]

variable {proxy}

/-- A document that compiles is a list of well-formed entries. -/
theorem compileRules_ok {value : Yaml} {UserRules : List Rule} (h : compileRules os proxy value = .ok UserRules) :
    ∃ doc, Represents doc value ∧ ∀ e ∈ doc, e.WellFormed os := by
  obtain ⟨items, hrule, -⟩ := bind_eq_ok.1 h
  have hitems := Yaml.array?_eq_some.1 (unwrap_ok.1 hrule)
  rw [compileRules_eq os proxy hitems] at h
  obtain ⟨parts, hparts, -⟩ := map_eq_ok.1 h
  have hall := mapM_isOk_iff.1 ⟨parts, hparts⟩
  suffices ∃ doc, List.Forall₂ Entry.Represents doc items ∧ ∀ e ∈ doc, e.WellFormed os by
    obtain ⟨doc, hdoc, hw⟩ := this
    exact ⟨doc, ⟨items, hitems, hdoc⟩, hw⟩
  clear hrule hitems h hparts
  induction items with
  | nil => exact ⟨[], .nil, List.forall_mem_nil _⟩
  | cons each items ih =>
    obtain ⟨⟨rules, hrules⟩, htail⟩ := List.forall_mem_cons.1 hall
    obtain ⟨e, he, hwe⟩ := entryRules_ok hrules
    obtain ⟨doc, hdoc, hw⟩ := ih htail
    exact ⟨e :: doc, .cons he hdoc, List.forall_mem_cons.2 ⟨hwe, hw⟩⟩

/-- The trailing rules decide by the country, which the first of them reads: the rule for DNS
failures and the one for all sessions use the same adapter, and the appended direct rule is never
reached. -/
theorem verdict_trailingRules (g : Globals) (s : ConnectSession) :
    DecisionList.verdict (Rule.answer os g s) (trailingRules proxy ++ [.direct]) =
      (s.countryOf os g).map fun c => some (countryPolicy proxy c) := by
  simp only [trailingRules, List.cons_append, List.nil_append, DecisionList.verdict_cons, Rule.answer]
  rcases s.countryOf os g with e | c
  · rfl
  simp only [ok_bind, map_ok, pure_eq_ok, countryPolicy]
  by_cases hcn : c = text "CN"
  · simp [hcn]
  by_cases hun : c = text "--"
  · subst hun; rfl
  · have hcn' : ((c != text "CN") != true) = false := by simp [hcn]
    have hun' : ((c != text "--") != true) = false := by simp [hun]
    have hno : ¬(c = text "CN" ∨ c = text "--") := by
      rintro (h | h)
      · exact hcn h
      · exact hun h
    simp only [hcn', hun', hno, Bool.false_eq_true, if_false]
    -- the session has an address or it has none: the proxy either way
    cases s.address os g == [] <;> rfl

end Documents

/-! ## Routing a session -/

/-- The YAML value of an entry, and of a document. -/
def Entry.toYaml (e : Entry) : Yaml :=
  .dictionary [(.string (text "type"), .string e.type), (.string (text "adapter"), .string e.adapter),
    (.string (text "criteria"), .array (e.criteria.map .string))]

def document (doc : List Entry) : Yaml := .dictionary [(.string (text "rule"), .array (doc.map Entry.toYaml))]

theorem Entry.represents_toYaml (e : Entry) : e.Represents e.toYaml := ⟨rfl, rfl, fun _ => rfl⟩

theorem represents_document (doc : List Entry) : Represents doc (document doc) :=
  ⟨_, rfl, List.forall₂_map_right_iff.2 (List.forall₂_same.2 fun e _ => e.represents_toYaml)⟩

/-- User rules that answer as the document does, with the trailing rules, pick by its policy. -/
theorem pick_ruleManager {os : OS} {g : Globals} {proxy : AdapterFactory} {doc : List Entry}
    {UserRules : List Rule} {s : ConnectSession} (hs : s.matchedRule = none)
    (hv : DecisionList.verdict (Rule.answer os g s) UserRules = .ok ((doc.find? fun e =>
      e.matches contains (inRange os) s.host (s.address os g)).map (Entry.adapterFactory proxy))) :
    (ruleManager proxy UserRules).pick os g s =
      (policy contains (inRange os) proxy doc s.host (s.address os g) (s.countryOf os g)).map some := by
  have hman : (ruleManager proxy UserRules).rules = UserRules ++ (trailingRules proxy ++ [.direct]) :=
    List.append_assoc ..
  rw [RuleManager.pick_eq os g _ hs, hman, DecisionList.verdict_append, hv, ok_bind, policy]
  cases doc.find? fun e => e.matches contains (inRange os) s.host (s.address os g) with
  | some e => rfl
  | none =>
    simp only [Option.map_none, verdict_trailingRules]
    rcases s.countryOf os g with e | c <;> rfl

theorem Entry.Valid.wellFormed {os : OS} {e : Entry} (h : e.Valid os) : e.WellFormed os := by
  refine ⟨h.domainlist, fun hi c hc => ?_⟩
  obtain ⟨t, ht, hv⟩ := h.iplist hi c hc
  obtain ⟨r, hr, -⟩ := RangeText.withString_spec ht hv
  exact ⟨r, hr⟩

/-- The range the code reads from a valid text has the addresses the text says, IPv6 prefixes apart. -/
theorem inRange_eq_liesIn {os : OS} {address c : Text} {t : RangeText} (ht : RangeText.read os c = some t)
    (hv : t.Valid) (hrev : ∀ ip, IPAddress.fromString os address = some ip → ¬t.Reversed ip) :
    inRange os address c = liesIn os address c := by
  obtain ⟨r, hr, hcontains⟩ := RangeText.withString_spec ht hv
  rw [inRange, liesIn, hr, ht]
  cases hip : IPAddress.fromString os address with
  | none => rfl
  | some ip =>
    rw [Bool.eq_iff_iff, decide_eq_true_eq]
    exact hcontains ip (hrev ip hip)

theorem Entry.matches_liesIn {os : OS} {e : Entry} (hv : e.Valid os) {address : Text}
    (hrev : e.Unreversed os address) (host : Text) :
    e.matches contains (inRange os) host address = e.matches contains (liesIn os) host address := by
  unfold Entry.matches
  split
  · rfl
  split
  · rename_i hi
    have hi : e.type = text "iplist" := beq_iff_eq.1 hi
    rw [Bool.eq_iff_iff, List.any_eq_true, List.any_eq_true]
    refine exists_congr fun c => and_congr_right fun hc => ?_
    obtain ⟨t, ht, htv⟩ := hv.iplist hi c hc
    rw [inRange_eq_liesIn ht htv (hrev hi c hc t ht)]
  · rfl

theorem find?_congr {α : Type} {p q : α → Bool} {l : List α} (h : ∀ a ∈ l, p a = q a) : l.find? p = l.find? q := by
  induction l with
  | nil => rfl
  | cons a l ih =>
    rw [List.find?_cons, List.find?_cons, h a List.mem_cons_self, ih fun b hb => h b (List.mem_cons_of_mem a hb)]

/-- The installed rule manager picks the adapter of the policy for every session that has matched
no rule before. -/
theorem pick_eq_policy (os : OS) (g : Globals) (proxy : AdapterFactory) {doc : List Entry} {value : Yaml}
    {s : ConnectSession} (hdoc : Represents doc value) (hv : ∀ e ∈ doc, e.Valid os)
    (hrev : ∀ e ∈ doc, e.Unreversed os (s.address os g)) (hs : s.matchedRule = none) :
    ∃ UserRules, compileRules os proxy value = .ok UserRules ∧
      (ruleManager proxy UserRules).pick os g s =
        (policy contains (liesIn os) proxy doc s.host (s.address os g) (s.countryOf os g)).map some := by
  obtain ⟨UserRules, hrules, hverdict⟩ := compileRules_represented proxy hdoc fun e he => (hv e he).wellFormed
  refine ⟨UserRules, hrules, ?_⟩
  rw [pick_ruleManager hs (hverdict g s), policy, policy,
    find?_congr fun e he => Entry.matches_liesIn (hv e he) (hrev e he) s.host]

def sampleGlobals : Globals := { database := some fun _ => some (text "US"), currentServer := none }

def sampleSession : ConnectSession :=
  { requestedHost := text "a.com", host := text "a.com", port := 443, matchedRule := none,
    fakeIPEnabled := false, ipAddress := none, country := none }

/-- A keyword criterion without a text, and a range with the address of the session's host. -/
def sampleDocument : List Entry :=
  [⟨text "domainlist", text "proxy", [text "k,"]⟩, ⟨text "iplist", text "direct", [text "8.8.8.8/8"]⟩]

theorem read_sampleRange : RangeText.read sampleOS (text "8.8.8.8/8") = some (.cidr (.IPv4 0x08080808) 8) := rfl

theorem sampleDocument_valid : ∀ e ∈ sampleDocument, e.Valid sampleOS := by
  simp only [sampleDocument, List.forall_mem_cons]
  refine ⟨⟨fun _ => by decide, fun h => absurd h (by decide)⟩, ⟨fun h => absurd h (by decide), ?_⟩,
    List.forall_mem_nil _⟩
  intro _
  exact List.forall_mem_singleton.2 ⟨_, read_sampleRange, (by decide : 8 ≤ 32)⟩

theorem sampleDocument_unreversed :
    ∀ e ∈ sampleDocument, e.Unreversed sampleOS (sampleSession.address sampleOS sampleGlobals) := by
  simp only [sampleDocument, List.forall_mem_cons]
  refine ⟨fun h => absurd h (by decide), ?_, List.forall_mem_nil _⟩
  intro _ c hc t ht ip hip
  rw [List.mem_singleton.1 hc, read_sampleRange] at ht
  cases ht
  exact id

theorem pick_eq_policy_sample : ∃ UserRules,
    compileRules sampleOS (.shadowsocks sampleProxy) (document sampleDocument) = .ok UserRules ∧
      (ruleManager (.shadowsocks sampleProxy) UserRules).pick sampleOS sampleGlobals sampleSession =
        .ok (some .direct) := by
  have hpolicy : policy contains (liesIn sampleOS) (.shadowsocks sampleProxy) sampleDocument sampleSession.host
      (sampleSession.address sampleOS sampleGlobals) (sampleSession.countryOf sampleOS sampleGlobals) =
        .ok .direct := by decide
  obtain ⟨UserRules, hrules, hpick⟩ := pick_eq_policy sampleOS sampleGlobals (.shadowsocks sampleProxy)
    (s := sampleSession) (represents_document sampleDocument) sampleDocument_valid sampleDocument_unreversed rfl
  rw [hpolicy] at hpick
  exact ⟨UserRules, hrules, hpick⟩

/-- A keyword criterion without a text. -/
def emptyKeyword : List Entry := [⟨text "domainlist", text "direct", [text "k,"]⟩]

/-- The empty text occurs in every host, and no keyword criterion finds it: read with plain
substrings, the policy is not the one the manager follows. -/
theorem empty_keyword_matches_nothing : ∃ UserRules,
    compileRules sampleOS (.shadowsocks sampleProxy) (document emptyKeyword) = .ok UserRules ∧
      (ruleManager (.shadowsocks sampleProxy) UserRules).pick sampleOS sampleGlobals sampleSession =
        .ok (some (.shadowsocks sampleProxy)) ∧
      policy (fun host t => decide (t <:+: host)) (liesIn sampleOS) (.shadowsocks sampleProxy) emptyKeyword
        sampleSession.host (sampleSession.address sampleOS sampleGlobals)
        (sampleSession.countryOf sampleOS sampleGlobals) = .ok .direct :=
  ⟨[.domainList .direct [.keyword []]], rfl, rfl, rfl⟩

/-! ## Routing after startTunnel -/

/-- The address a host is connected to, empty when it does not resolve. -/
def resolved (os : OS) (host : Text) : Text := if isIP os host then host else os.resolve host

theorem isIP_resolved {os : OS} {host : Text} (h : resolved os host ≠ []) : isIP os (resolved os host) = true := by
  unfold resolved at *
  split at h
  · rename_i hip; rw [if_pos hip]; exact hip
  · rename_i hip
    rw [if_neg hip, isIP, isIPv4, os.resolve_presentation host h, Bool.true_or]

theorem isIP_nil (os : OS) : isIP os [] = false := by
  simp [isIP, isIPv4, isIPv6, os.inet_pton4_nil, os.inet_pton6_nil]

/-- With no GeoIP database only the sessions without an address have a country. -/
theorem countryOf_initial {os : OS} {s : ConnectSession} {host : Text} (hc : s.country = none)
    (ha : s.address os .initial = resolved os host) :
    s.countryOf os .initial = if resolved os host = [] then .ok [] else .error .unwrapNil := by
  rw [ConnectSession.countryOf, hc, ha]
  by_cases h : resolved os host = []
  · simp [h, lookup, isIP_nil]
  · rw [if_neg h]
    simp [lookup, isIP_resolved h, geoIPLookUp, Globals.initial]

theorem create_initial (os : OS) (host : Text) (port : Int) (fakeIPEnabled : Bool) :
    ∃ s, ConnectSession.create os .initial host port fakeIPEnabled = .ok (some s) ∧ s.host = host ∧
      s.matchedRule = none ∧ s.country = none ∧ s.address os .initial = resolved os host := by
  -- without a DNS server there is no fake address to look behind
  refine ⟨⟨host, host, port, none, fakeIPEnabled, none, none⟩, ?_, rfl, rfl, rfl, ?_⟩
  · unfold ConnectSession.create
    split <;> rfl
  · show ConnectSession.initIPAddress os .initial _ = _
    unfold ConnectSession.initIPAddress resolved
    split
    · rfl
    · cases fakeIPEnabled <;> rfl

/-- What `startTunnel` installs: the compiled document of the configuration. The globals stay. -/
theorem configure_ok {os : OS} {load : Text → Except Text Yaml} {providerConfiguration : Option Dictionary}
    {p p' : Process} (h : configure os load providerConfiguration p = .ok p') :
    ∃ conf factory yaml_str value UserRules, providerConfiguration = some conf ∧
      readConfiguration conf = .ok factory ∧
      (conf.get (text "ymal_conf")).bind AnyValue.asString = some yaml_str ∧ load yaml_str = .ok value ∧
      compileRules os (.shadowsocks factory) value = .ok UserRules ∧
      p' = { p with currentManager := ruleManager (.shadowsocks factory) UserRules, proxyPort := some 9090 } := by
  unfold configure at h
  cases providerConfiguration with
  | none => cases h
  | some conf =>
    obtain ⟨factory, hf, h⟩ := bind_eq_ok.1 h
    obtain ⟨yaml_str, hy, h⟩ := bind_eq_ok.1 h
    obtain ⟨value, hv, h⟩ := bind_eq_ok.1 h
    obtain ⟨UserRules, hr, h⟩ := bind_eq_ok.1 h
    exact ⟨conf, factory, yaml_str, value, UserRules, rfl, hf, forceCast_eq_ok.1 hy, forceTry_eq_ok.1 hv, hr,
      (Except.ok.inj h).symm⟩

/-- Routing after `startTunnel` returns an adapter exactly for the sessions some entry of the
document matches and for those whose host does not resolve; for every other session it looks the
country up with no database. -/
theorem pick_after_startTunnel {os : OS} {load : Text → Except Text Yaml}
    {providerConfiguration : Option Dictionary} {p : Process}
    (h : configure os load providerConfiguration .initial = .ok p) :
    ∃ doc yaml_str value, (providerConfiguration.bind fun conf => (conf.get (text "ymal_conf")).bind
        AnyValue.asString) = some yaml_str ∧ load yaml_str = .ok value ∧ Represents doc value ∧
      ∀ host port fakeIPEnabled, ∃ s,
        ConnectSession.create os p.globals host port fakeIPEnabled = .ok (some s) ∧
        ((∃ adapterFactory, p.currentManager.pick os p.globals s = .ok (some adapterFactory)) ↔
          (∃ e ∈ doc, e.matches contains (inRange os) host (resolved os host)) ∨ resolved os host = []) := by
  obtain ⟨conf, factory, yaml_str, value, UserRules, rfl, -, hy, hv, hr, rfl⟩ := configure_ok h
  obtain ⟨doc, hdoc, hw⟩ := compileRules_ok hr
  refine ⟨doc, yaml_str, value, hy, hv, hdoc, ?_⟩
  intro host port fakeIPEnabled
  obtain ⟨s, hs, hhost, hm, hc, ha⟩ := create_initial os host port fakeIPEnabled
  refine ⟨s, hs, ?_⟩
  obtain ⟨UserRules', hr', hanswer⟩ := compileRules_represented (.shadowsocks factory) hdoc hw
  obtain rfl := Except.ok.inj (hr.symm.trans hr')
  show (∃ adapterFactory, (ruleManager _ UserRules).pick os .initial s = .ok (some adapterFactory)) ↔ _
  rw [pick_ruleManager hm (hanswer .initial s), hhost, ha, countryOf_initial hc ha, policy]
  cases hfind : doc.find? fun e => e.matches contains (inRange os) host (resolved os host) with
  | some e =>
    have he := List.find?_some hfind
    constructor
    · intro _; exact .inl ⟨e, List.mem_of_find?_eq_some hfind, he⟩
    · intro _; exact ⟨_, rfl⟩
  | none =>
    have hno : ¬∃ e ∈ doc, e.matches contains (inRange os) host (resolved os host) := by
      simpa using hfind
    by_cases hres : resolved os host = []
    · simp [hres]
    · simp [hres, hno]

/-- A document with one entry, which matches the hosts that end in a text. -/
def suffixDocument : List Entry := [⟨text "domainlist", text "direct", [text "s,a.com"]⟩]

/-- The process once `startTunnel` has read it. -/
def sampleProcess : Process :=
  { globals := .initial
    currentManager := ruleManager (.shadowsocks sampleProxy) [.domainList .direct [.suffixOf (text "a.com")]]
    proxyPort := some 9090 }

theorem configure_sample :
    configure sampleOS (fun _ => .ok (document suffixDocument)) (some sampleConfiguration) .initial =
      .ok sampleProcess := rfl

theorem pick_after_startTunnel_sample :
    ∃ doc yaml_str value, ((some sampleConfiguration).bind fun conf => (conf.get (text "ymal_conf")).bind
        AnyValue.asString) = some yaml_str ∧ Except.ok (document suffixDocument) = (.ok value : Except Text Yaml) ∧
      Represents doc value ∧ ∀ host port fakeIPEnabled, ∃ s,
        ConnectSession.create sampleOS sampleProcess.globals host port fakeIPEnabled = .ok (some s) ∧
        ((∃ adapterFactory, sampleProcess.currentManager.pick sampleOS sampleProcess.globals s =
            .ok (some adapterFactory)) ↔
          (∃ e ∈ doc, e.matches contains (inRange sampleOS) host (resolved sampleOS host)) ∨
            resolved sampleOS host = []) :=
  pick_after_startTunnel configure_sample

/-- A host that no entry matches and that resolves: the rule for China asks for its country. -/
theorem pick_traps_without_database : ∃ p s,
    configure sampleOS (fun _ => .ok (document [])) (some sampleConfiguration) .initial = .ok p ∧
      ConnectSession.create sampleOS p.globals (text "a.com") 443 true = .ok (some s) ∧
      p.currentManager.pick sampleOS p.globals s = .error .unwrapNil :=
  ⟨_, _, rfl, rfl, rfl⟩

end VpnSs.Tunnel
