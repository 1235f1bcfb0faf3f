/-
The grammar of rule documents. `startTunnel` unwraps, force-tries and indexes its way through the
document and traps on every value outside the grammar; on the others it compiles one rule for each
element of the two types it knows, in document order.
-/
import VpnSs.Tunnel.Routing

namespace VpnSs.Tunnel

open VpnSs.Swift VpnSs.NEKit VpnSs.Except

/-! ## The grammar -/

/-- An element of `rule`: two strings, and criteria for the two known types. The criteria of another type
may be anything. -/
structure GrammarElement (os : OS) (each : Yaml) : Prop where
  adapter : ∃ t, each.get (text "adapter") = .string t
  type : ∃ t, each.get (text "type") = .string t
  domainlist : each.get (text "type") = .string (text "domainlist") →
    ∃ criteria : List Text, each.get (text "criteria") = .array (criteria.map .string) ∧ ∀ c ∈ criteria, 2 ≤ c.length
  iplist : each.get (text "type") = .string (text "iplist") →
    ∃ criteria : List Text, each.get (text "criteria") = .array (criteria.map .string) ∧
      ∀ c ∈ criteria, ∃ range, IPRange.withString os c = .ok range

def Grammar (os : OS) (value : Yaml) : Prop :=
  ∃ items, value.get (text "rule") = .array items ∧ ∀ each ∈ items, GrammarElement os each

/-- The element has one of the types that compile to a rule. -/
def listed (each : Yaml) : Bool :=
  (each.get (text "type")).string? == some (text "domainlist") || (each.get (text "type")).string? == some (text "iplist")

def adapterOf (proxy : AdapterFactory) (each : Yaml) : AdapterFactory :=
  if (each.get (text "adapter")).string? = some (text "direct") then .direct else proxy

/-- The rule an element compiles to. -/
inductive Compiled (os : OS) (proxy : AdapterFactory) (each : Yaml) : Rule → Prop
  | domainlist {criteria : List Text} (htype : each.get (text "type") = .string (text "domainlist"))
      (hcriteria : each.get (text "criteria") = .array (criteria.map .string)) :
      Compiled os proxy each (.domainList (adapterOf proxy each) (criteria.flatMap criterionOf))
  | iplist {criteria : List Text} {ranges : List IPRange} (htype : each.get (text "type") = .string (text "iplist"))
      (hcriteria : each.get (text "criteria") = .array (criteria.map .string))
      (hranges : criteria.mapM (IPRange.withString os) = .ok ranges) :
      Compiled os proxy each (.ipRangeList (adapterOf proxy each) ranges)

/-! ## One element -/

section Elements

variable {os : OS} {proxy : AdapterFactory}

theorem GrammarElement.of_represents {e : Entry} {each : Yaml} (h : e.Represents each) (hw : e.WellFormed os) :
    GrammarElement os each := by
  refine ⟨⟨_, h.adapter⟩, ⟨_, h.type⟩, ?_, ?_⟩
  · intro ht
    have hd : e.type = text "domainlist" := Yaml.string.inj (h.type.symm.trans ht)
    exact ⟨e.criteria, h.criteria (.inl hd), hw.domainlist hd⟩
  · intro ht
    have hi : e.type = text "iplist" := Yaml.string.inj (h.type.symm.trans ht)
    exact ⟨e.criteria, h.criteria (.inr hi), hw.iplist hi⟩

/-- An element of the grammar is represented by a well-formed entry. -/
theorem GrammarElement.represents {each : Yaml} (h : GrammarElement os each) :
    ∃ e : Entry, e.Represents each ∧ e.WellFormed os := by
  obtain ⟨adapter, ha⟩ := h.adapter
  obtain ⟨type, ht⟩ := h.type
  by_cases hd : type = text "domainlist"
  · obtain ⟨criteria, hc, hlen⟩ := h.domainlist (by rw [ht, hd])
    refine ⟨⟨type, adapter, criteria⟩, ⟨ht, ha, fun _ => hc⟩, fun _ => hlen, ?_⟩
    intro hi
    exact absurd (hd.symm.trans hi) (by decide)
  by_cases hi : type = text "iplist"
  · obtain ⟨criteria, hc, hranges⟩ := h.iplist (by rw [ht, hi])
    exact ⟨⟨type, adapter, criteria⟩, ⟨ht, ha, fun _ => hc⟩, fun h => absurd h hd, fun _ => hranges⟩
  · -- any criteria stand for those that are not read
    refine ⟨⟨type, adapter, []⟩, ⟨ht, ha, ?_⟩, fun h => absurd h hd, fun h => absurd h hi⟩
    rintro (h | h)
    · exact absurd h hd
    · exact absurd h hi

/-- A well-formed entry compiles to its rule, or to none when its type is unknown. -/
theorem entryRules_compiled {e : Entry} {each : Yaml} (h : e.Represents each) (hw : e.WellFormed os) :
    ∃ rules, entryRules os proxy each = .ok rules ∧
      List.Forall₂ (Compiled os proxy) ([each].filter listed) rules := by
  have hadapter : e.adapterFactory proxy = adapterOf proxy each := by
    simp only [adapterOf, Entry.adapterFactory, h.adapter, Yaml.string?_string, Option.some.injEq, beq_iff_eq]
  rcases entryRules_eq proxy h hw with ⟨hd, hrules⟩ | ⟨hi, ranges, hranges, hrules⟩ | ⟨hno, hrules⟩
  · have hlisted : listed each = true := by simp [listed, h.type, hd]
    refine ⟨_, hrules, ?_⟩
    rw [List.filter_singleton, hlisted, hadapter, ← List.flatMap_def]
    exact .cons (.domainlist (by rw [h.type, hd]) (h.criteria (.inl hd))) .nil
  · have hlisted : listed each = true := by simp [listed, h.type, hi]
    refine ⟨_, hrules, ?_⟩
    rw [List.filter_singleton, hlisted, hadapter]
    exact .cons (.iplist (by rw [h.type, hi]) (h.criteria (.inr hi)) hranges) .nil
  · obtain ⟨hd, hi⟩ := not_or.1 hno
    have hlisted : listed each = false := by simp [listed, h.type, hd, hi]
    refine ⟨_, hrules, ?_⟩
    rw [List.filter_singleton, hlisted]
    exact .nil

theorem grammarElement_iff {each : Yaml} :
    GrammarElement os each ↔ ∃ rules, entryRules os proxy each = .ok rules := by
  constructor
  · intro h
    obtain ⟨e, he, hw⟩ := h.represents
    obtain ⟨rules, hrules, -⟩ := entryRules_compiled he hw
    exact ⟨rules, hrules⟩
  · rintro ⟨rules, hrules⟩
    obtain ⟨e, he, hw⟩ := entryRules_ok hrules
    exact .of_represents he hw

/-- An element compiles to one rule at most. -/
theorem Compiled.unique {each : Yaml} {rule rule' : Rule} (h : Compiled os proxy each rule)
    (h' : Compiled os proxy each rule') : rule = rule' := by
  have hstrings : Function.Injective (List.map Yaml.string) := List.map_injective_iff.2 fun _ _ => Yaml.string.inj
  have hne : text "domainlist" ≠ text "iplist" := by decide
  cases h with
  | domainlist htype hcriteria =>
    cases h' with
    | domainlist _ hcriteria' =>
      rw [hstrings (Yaml.array.inj (hcriteria.symm.trans hcriteria'))]
    | iplist htype' => exact absurd (Yaml.string.inj (htype.symm.trans htype')) hne
  | iplist htype hcriteria hranges =>
    cases h' with
    | domainlist htype' => exact absurd (Yaml.string.inj (htype'.symm.trans htype)) hne
    | iplist _ hcriteria' hranges' =>
      rw [hstrings (Yaml.array.inj (hcriteria.symm.trans hcriteria')), hranges'] at hranges
      cases hranges
      rfl

/-- One rule for each element of a known type, in order. -/
theorem compiled_flatten {items : List Yaml} {parts : List (List Rule)}
    (h : List.Forall₂ (fun each rules => List.Forall₂ (Compiled os proxy) ([each].filter listed) rules) items parts) :
    List.Forall₂ (Compiled os proxy) (items.filter listed) parts.flatten := by
  induction h with
  | nil => exact .nil
  | @cons each rules items parts hrules _ ih =>
    rw [← List.singleton_append, List.filter_append, List.flatten_cons]
    exact List.rel_append hrules ih

/-- A document of the grammar compiles. -/
theorem compileRules_isOk (proxy : AdapterFactory) {value : Yaml} {items : List Yaml}
    (hitems : value.get (text "rule") = .array items) (h : ∀ each ∈ items, GrammarElement os each) :
    ∃ UserRules, compileRules os proxy value = .ok UserRules ∧
      List.Forall₂ (Compiled os proxy) (items.filter listed) UserRules := by
  have hparts : ∃ parts, items.mapM (entryRules os proxy) = .ok parts ∧
      List.Forall₂ (fun each rules => List.Forall₂ (Compiled os proxy) ([each].filter listed) rules) items parts := by
    clear hitems
    induction items with
    | nil => exact ⟨[], rfl, .nil⟩
    | cons each items ih =>
      obtain ⟨heach, htail⟩ := List.forall_mem_cons.1 h
      obtain ⟨e, he, hw⟩ := heach.represents
      obtain ⟨rules, hrules, hc⟩ := entryRules_compiled he hw
      obtain ⟨parts, hparts, hcs⟩ := ih htail
      exact ⟨rules :: parts, by rw [List.mapM_cons, hrules, hparts]; rfl, .cons hc hcs⟩
  obtain ⟨parts, hparts, hc⟩ := hparts
  refine ⟨parts.flatten, ?_, compiled_flatten hc⟩
  rw [compileRules_eq os proxy hitems, hparts]; rfl

end Elements

/-! ## A document -/

/-- The compilation loop finishes without a trap exactly on the documents of the grammar, and its rules
are those of the elements of a known type, one each, in document order. -/
theorem compileRules_grammar (os : OS) (proxy : AdapterFactory) (value : Yaml) :
    ((∃ UserRules, compileRules os proxy value = .ok UserRules) ↔ Grammar os value) ∧
      ∀ UserRules, compileRules os proxy value = .ok UserRules ↔
        ∃ items, value.get (text "rule") = .array items ∧ (∀ each ∈ items, GrammarElement os each) ∧
          List.Forall₂ (Compiled os proxy) (items.filter listed) UserRules := by
  have hgrammar : ∀ UserRules, compileRules os proxy value = .ok UserRules → Grammar os value := by
    intro UserRules h
    obtain ⟨items, hrule, -⟩ := bind_eq_ok.1 h
    have hitems := Yaml.array?_eq_some.1 (unwrap_ok.1 hrule)
    rw [compileRules_eq os proxy hitems] at h
    obtain ⟨parts, hparts, -⟩ := map_eq_ok.1 h
    exact ⟨items, hitems, fun each hm => grammarElement_iff.2 (mapM_isOk_iff.1 ⟨parts, hparts⟩ each hm)⟩
  refine ⟨⟨?_, ?_⟩, ?_⟩
  · rintro ⟨UserRules, h⟩
    exact hgrammar UserRules h
  · rintro ⟨items, hitems, h⟩
    obtain ⟨UserRules, hrules, -⟩ := compileRules_isOk proxy hitems h
    exact ⟨UserRules, hrules⟩
  · intro UserRules
    constructor
    · intro h
      obtain ⟨items, hitems, hall⟩ := hgrammar UserRules h
      obtain ⟨rules, hrules, hc⟩ := compileRules_isOk proxy hitems hall
      rw [h] at hrules
      cases hrules
      exact ⟨items, hitems, hall, hc⟩
    · rintro ⟨items, hitems, hall, hc⟩
      obtain ⟨rules, hrules, hc'⟩ := compileRules_isOk proxy hitems hall
      have hunique : Relator.RightUnique (Compiled os proxy) := fun _ _ _ => Compiled.unique
      rw [hrules, List.right_unique_forall₂' hunique hc' hc]

end VpnSs.Tunnel
