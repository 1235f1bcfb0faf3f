/-
`PacketTunnelProvider.startTunnel` up to the network settings: reading the provider configuration,
compiling the rule document and installing the rule manager. Force unwraps, force tries and
string indices trap where the source's do.
-/
import VpnSs.NEKit.RuleManager

namespace VpnSs.Tunnel

open VpnSs.Swift VpnSs.NEKit

/-! ## YAML values -/

/-- `Yaml`, of the YamlSwift package. Nothing reads the payload of a double; its bits stand for it. -/
inductive Yaml where
  | null
  | bool (b : Bool)
  | int (i : Int)
  | double (bits : BitVec 64)
  | string (s : Text)
  | array (items : List Yaml)
  | dictionary (entries : List (Yaml × Yaml))

namespace Yaml

def string? : Yaml → Option Text
  | .string s => some s
  | _ => none

def array? : Yaml → Option (List Yaml)
  | .array items => some items
  | _ => none

/-- The subscript by a string literal: only a string key equals one. -/
def get : Yaml → Text → Yaml
  | .dictionary entries, key => ((entries.find? fun e => e.1.string? == some key).map Prod.snd).getD .null
  | _, _ => .null

@[simp] theorem string?_string (t : Text) : (Yaml.string t).string? = some t := rfl

@[simp] theorem array?_array (items : List Yaml) : (Yaml.array items).array? = some items := rfl

theorem string?_eq_some {y : Yaml} {t : Text} : y.string? = some t ↔ y = .string t := by
  cases y <;> simp [string?]

theorem array?_eq_some {y : Yaml} {items : List Yaml} : y.array? = some items ↔ y = .array items := by
  cases y <;> simp [array?]

end Yaml

/-! ## Rule compilation -/

/-- The body of the loop over the criteria of a domain list. The letter `r` is still to do in the
source: its branch appends nothing, like every other letter. -/
def criterionStep (rule_array : List MatchCriterion) (dom : Yaml) : Except Trap (List MatchCriterion) := do
  let raw_dom ← unwrap dom.string?
  -- both offsets are taken before the letter is looked at
  let index1 ← index raw_dom 1
  let index2 ← index raw_dom 2
  let typeStr := upTo raw_dom index1
  let url := suffixFrom raw_dom index2
  if typeStr == text "s" then return rule_array ++ [.suffixOf url]
  else if typeStr == text "k" then return rule_array ++ [.keyword url]
  else if typeStr == text "p" then return rule_array ++ [.prefixOf url]
  else return rule_array

/-- The body of the loop over the rules of the document. -/
def ruleStep (os : OS) (ssAdapterFactory : AdapterFactory) (UserRules : List Rule) (each : Yaml) :
    Except Trap (List Rule) := do
  let adapter := if (← unwrap (each.get (text "adapter")).string?) == text "direct" then .direct
    else ssAdapterFactory
  let ruleType ← unwrap (each.get (text "type")).string?
  if ruleType == text "domainlist" then
    let rule_array ← (← unwrap (each.get (text "criteria")).array?).foldlM criterionStep []
    return UserRules ++ [.domainList adapter rule_array]
  else if ruleType == text "iplist" then
    let ipArray ← (← unwrap (each.get (text "criteria")).array?).mapM fun c => unwrap c.string?
    let rule ← forceTry (Rule.ofRanges os adapter ipArray)
    return UserRules ++ [rule]
  else return UserRules -- the adapter is read all the same

/-- The loop over `value["rule"]`. -/
def compileRules (os : OS) (ssAdapterFactory : AdapterFactory) (value : Yaml) : Except Trap (List Rule) := do
  (← unwrap (value.get (text "rule")).array?).foldlM (ruleStep os ssAdapterFactory) []

/-- The rules appended after the compiled ones: China, unknown location, DNS failure, all. -/
def trailingRules (ssAdapterFactory : AdapterFactory) : List Rule :=
  [.country (text "CN") true .direct, .country (text "--") true .direct, .dnsFail ssAdapterFactory,
    .all ssAdapterFactory]

/-- `RuleManager(fromRules: UserRules, appendDirect: true)`, with the trailing rules appended. -/
def ruleManager (ssAdapterFactory : AdapterFactory) (UserRules : List Rule) : RuleManager :=
  .fromRules (UserRules ++ trailingRules ssAdapterFactory) true

/-! ## The provider configuration -/

/-- The switch over `ss_crypto`; any other name is a fatal error. -/
def cryptoAlgorithm (method : Text) : Except Trap CryptoAlgorithm :=
  if method == text "AES128CFB" then .ok .AES128CFB
  else if method == text "AES192CFB" then .ok .AES192CFB
  else if method == text "AES256CFB" then .ok .AES256CFB
  else if method == text "CHACHA20" then .ok .CHACHA20
  else if method == text "SALSA20" then .ok .SALSA20
  else if method == text "RC4MD5" then .ok .RC4MD5
  else .error .fatalError

/-- Reads the Shadowsocks server from the provider configuration. -/
def readConfiguration (conf : Dictionary) : Except Trap ShadowsocksAdapterFactory := do
  let ss_adder ← forceCast ((conf.get (text "ss_address")).bind AnyValue.asString)
  let ss_port ← forceCast ((conf.get (text "ss_port")).bind AnyValue.asInt)
  let method ← forceCast ((conf.get (text "ss_crypto")).bind AnyValue.asString)
  let password ← forceCast ((conf.get (text "ss_password")).bind AnyValue.asString)
  let algorithm ← cryptoAlgorithm method
  return { serverHost := ss_adder, serverPort := ss_port, password, algorithm }

/-- The process-wide state routing depends on. -/
structure Process where
  globals : Globals
  currentManager : RuleManager
  proxyPort : Option Int

/-- A process before `startTunnel`, with NEKit's initial rule manager. -/
def Process.initial : Process :=
  { globals := .initial, currentManager := .fromRules [] true, proxyPort := none }

/-- `startTunnel` up to `proxyPort = 9090`, with `load` for `Yaml.load`. It assigns the rule manager
and the port; nothing in it assigns a GeoIP database or a DNS server. -/
def configure (os : OS) (load : Text → Except Text Yaml) (providerConfiguration : Option Dictionary)
    (p : Process) : Except Trap Process := do
  match providerConfiguration with
  | none => .error .exitFailure
  | some conf =>
    let factory ← readConfiguration conf
    let ssAdapterFactory := AdapterFactory.shadowsocks factory
    let yaml_str ← forceCast ((conf.get (text "ymal_conf")).bind AnyValue.asString)
    let value ← forceTry (load yaml_str)
    let UserRules ← compileRules os ssAdapterFactory value
    return { p with currentManager := ruleManager ssAdapterFactory UserRules, proxyPort := some 9090 }

/-! ## A sample configuration -/

/-- A C library that knows one address and the one name it resolves. -/
def sampleOS : OS where
  inet_pton4 t := if t = text "8.8.8.8" then some 0x08080808 else none
  inet_pton6 _ := none
  resolve name := if name = text "a.com" then text "8.8.8.8" else []
  inet_pton4_nil := by decide
  inet_pton6_nil := rfl
  resolve_presentation name h := by
    by_cases hn : name = text "a.com"
    · simp [hn]
    · simp [hn] at h

def sampleProxy : ShadowsocksAdapterFactory :=
  { serverHost := text "1.2.3.4", serverPort := 8388, password := text "pw", algorithm := .AES256CFB }

def sampleConfiguration : Dictionary :=
  [(text "ss_address", .string sampleProxy.serverHost), (text "ss_port", .int sampleProxy.serverPort),
    (text "ss_crypto", .string (text "AES256CFB")), (text "ss_password", .string sampleProxy.password),
    (text "ymal_conf", .string [])]

end VpnSs.Tunnel
