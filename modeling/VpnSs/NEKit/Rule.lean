/-
NEKit's rules and the sessions they match: adapter factories, the rule classes, and a connect
session whose address and country are lazy, computed at the first read and kept. A rule is
evaluated on the session it reads; reading the country with no GeoIP database traps.
-/
import VpnSs.NEKit.IPRange

namespace VpnSs.NEKit

open VpnSs.Swift

/-! ## Adapters and rules -/

inductive CryptoAlgorithm where
  | AES128CFB
  | AES192CFB
  | AES256CFB
  | CHACHA20
  | SALSA20
  | RC4MD5
  deriving DecidableEq, Repr

/-- What a `ShadowsocksAdapterFactory` is built from; its obfuscaters are the default ones. -/
structure ShadowsocksAdapterFactory where
  serverHost : Text
  serverPort : Int
  password : Text
  algorithm : CryptoAlgorithm
  deriving DecidableEq, Repr

inductive AdapterFactory where
  | direct
  | shadowsocks (factory : ShadowsocksAdapterFactory)
  deriving DecidableEq, Repr

/-- `DomainListRule.MatchCriterion`; a regular expression is the predicate its `firstMatch` decides. -/
inductive MatchCriterion where
  | regex (firstMatch : Text → Bool)
  | prefixOf (t : Text)
  | suffixOf (t : Text)
  | keyword (t : Text)
  | complete (t : Text)

def MatchCriterion.match : MatchCriterion → Text → Bool
  | .regex firstMatch, domain => firstMatch domain
  | .prefixOf t, domain => hasPrefix domain t
  | .suffixOf t, domain => hasSuffix domain t
  | .keyword t, domain => contains domain t
  | .complete t, domain => domain == t

/-- The subclasses of `Rule`. -/
inductive Rule where
  | domainList (adapterFactory : AdapterFactory) (matchCriteria : List MatchCriterion)
  | ipRangeList (adapterFactory : AdapterFactory) (ranges : List IPRange)
  | country (countryCode : Text) (isMatch : Bool) (adapterFactory : AdapterFactory)
  | dnsFail (adapterFactory : AdapterFactory)
  | all (adapterFactory : AdapterFactory)
  | direct

/-- `IPRangeListRule(adapterFactory:ranges:)`: throws at the first range that does not parse. -/
def Rule.ofRanges (os : OS) (adapterFactory : AdapterFactory) (ranges : List Text) :
    Except IPRangeError Rule := do
  let ranges ← ranges.mapM (IPRange.withString os)
  return .ipRangeList adapterFactory ranges

def matchDomain (matchCriteria : List MatchCriterion) (domain : Text) : Bool :=
  matchCriteria.any fun criterion => criterion.match domain

/-! ## The process's globals -/

/-- A DNS request the DNS server has answered: the name asked for, the presentation of the real
address, and the rule that matched. -/
structure DNSSession where
  name : Text
  realIP : Option Text
  matchedRule : Option Rule

structure DNSServer where
  isFakeIP : IPAddress → Bool
  lookupFakeIP : IPAddress → Option DNSSession

/-- The static variables routing reads. `database` is the lookup of a loaded GeoIP database, which
gives the ISO code of an address it knows. -/
structure Globals where
  database : Option (Text → Option Text)
  currentServer : Option DNSServer

/-- The globals of a process before the application assigns any. -/
def Globals.initial : Globals := { database := none, currentServer := none }

def isIPv4 (os : OS) (t : Text) : Bool := (os.inet_pton4 t).isSome

def isIPv6 (os : OS) (t : Text) : Bool := (os.inet_pton6 t).isSome

def isIP (os : OS) (t : Text) : Bool := isIPv4 os t || isIPv6 os t

/-- `GeoIP.LookUp`: `database` is implicitly unwrapped. -/
def geoIPLookUp (g : Globals) (ip : Text) : Except Trap (Option Text) :=
  match g.database with
  | none => .error .unwrapNil
  | some lookup => .ok (lookup ip)

/-- `Utils.GeoIPLookup.Lookup`: nil for text that is no address, `--` for an unknown address. -/
def lookup (os : OS) (g : Globals) (ip : Text) : Except Trap (Option Text) :=
  if isIP os ip then do
    match ← geoIPLookUp g ip with
    | none => return some (text "--")
    | some isoCode => return some isoCode
  else .ok none

def DNSSession.countryCode (os : OS) (g : Globals) (d : DNSSession) : Except Trap (Option Text) :=
  match d.realIP with
  | none => .ok none
  | some ip => lookup os g ip

/-! ## Connect sessions -/

/-- `ConnectSession`; the lazy `ipAddress` and `country` are absent until first read. -/
structure ConnectSession where
  requestedHost : Text
  host : Text
  port : Int
  matchedRule : Option Rule
  fakeIPEnabled : Bool
  ipAddress : Option Text
  country : Option Text

/-- `ConnectSession.lookupRealIP`; the session it leaves behind, or none when it answers false. -/
def ConnectSession.lookupRealIP (os : OS) (g : Globals) (s : ConnectSession) :
    Except Trap (Option ConnectSession) :=
  match g.currentServer with
  | none => .ok (some s)
  | some dnsServer =>
    if isIPv4 os s.host then do
      let address ← unwrap (IPAddress.fromString os s.requestedHost)
      if dnsServer.isFakeIP address then
        match dnsServer.lookupFakeIP address with
        | none => return none
        | some session =>
          let s := { s with
            host := session.name
            ipAddress := some (session.realIP.getD [])
            matchedRule := session.matchedRule }
          match ← session.countryCode os g with
          | some c => return some { s with country := some c }
          | none => return some s
      else return some s
    else .ok (some s)

/-- The initialiser; none where `lookupRealIP` fails. -/
def ConnectSession.create (os : OS) (g : Globals) (host : Text) (port : Int) (fakeIPEnabled : Bool) :
    Except Trap (Option ConnectSession) :=
  let s : ConnectSession :=
    { requestedHost := host, host, port, matchedRule := none, fakeIPEnabled, ipAddress := none, country := none }
  if fakeIPEnabled then s.lookupRealIP os g else .ok (some s)

/-- The initialiser of the lazy `ipAddress`. -/
def ConnectSession.initIPAddress (os : OS) (g : Globals) (s : ConnectSession) : Text :=
  if isIP os s.host then s.host
  else
    let ip := os.resolve s.host
    if s.fakeIPEnabled then
      match g.currentServer with
      | none => ip
      | some dnsServer =>
        match IPAddress.fromString os ip with
        | none => ip
        | some address =>
          if dnsServer.isFakeIP address then
            match dnsServer.lookupFakeIP address with
            | none => ip
            | some session => session.realIP.getD []
          else ip
    else ip

/-- A computation that reads a session, and fills in its lazy fields. -/
abbrev SessionM := StateT ConnectSession (Except Trap)

def readIPAddress (os : OS) (g : Globals) : SessionM Text := do
  let s ← get
  match s.ipAddress with
  | some ip => return ip
  | none =>
    let ip := s.initIPAddress os g
    -- a failed resolution is kept too, as the empty text
    set { s with ipAddress := some ip }
    return ip

def readCountry (os : OS) (g : Globals) : SessionM Text := do
  match (← get).country with
  | some c => return c
  | none =>
    let ip ← readIPAddress os g
    let c := (← lookup os g ip).getD []
    modify fun s => { s with country := some c }
    return c

/-! ## Matching -/

/-- `Rule.match`, by subclass. -/
def Rule.match (os : OS) (g : Globals) : Rule → SessionM (Option AdapterFactory)
  | .domainList adapterFactory matchCriteria => do
    return if matchDomain matchCriteria (← get).host then some adapterFactory else none
  | .ipRangeList adapterFactory ranges => do
    match IPAddress.fromString os (← readIPAddress os g) with
    | none => return none
    | some ip => return if ranges.any (fun range => range.contains ip) then some adapterFactory else none
  | .country countryCode isMatch adapterFactory => do
    -- the first country rule forces the lookup, whether or not it matches
    return if ((← readCountry os g) != countryCode) != isMatch then some adapterFactory else none
  | .dnsFail adapterFactory => do
    return if (← readIPAddress os g) == [] then some adapterFactory else none
  | .all adapterFactory => return some adapterFactory
  | .direct => return some .direct

end VpnSs.NEKit
