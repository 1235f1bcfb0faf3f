/-
NEKit's IP addresses, masks and ranges. Words are kept in the byte order the code keeps them in,
so the byte swaps of the source stand where the source has them.
-/
import VpnSs.Swift.Text
import Mathlib.Data.BitVec

namespace VpnSs.NEKit

open VpnSs.Swift

/-! ## Words: `byteSwapped`, and `UInt128` from text -/

def byteSwapped32 (x : BitVec 32) : BitVec 32 :=
  x.extractLsb' 0 8 ++ x.extractLsb' 8 8 ++ x.extractLsb' 16 8 ++ x.extractLsb' 24 8

def byteSwapped64 (x : BitVec 64) : BitVec 64 :=
  byteSwapped32 (x.extractLsb' 0 32) ++ byteSwapped32 (x.extractLsb' 32 32)

def byteSwapped128 (x : BitVec 128) : BitVec 128 :=
  byteSwapped64 (x.extractLsb' 0 64) ++ byteSwapped64 (x.extractLsb' 64 64)

/-- `UInt128._valueFromString`: a radix prefix `0b`, `0o` or `0x`, else decimal. -/
def uInt128 (t : Text) : Option (BitVec 128) :=
  if hasPrefix t (text "0b") then unsigned 128 2 (t.drop 2)
  else if hasPrefix t (text "0o") then unsigned 128 8 (t.drop 2)
  else if hasPrefix t (text "0x") then unsigned 128 16 (t.drop 2)
  else unsigned 128 10 t

/-! ## The C library -/

/-- What the code asks of the C library: `inet_pton` for both families, with `s_addr` in network
byte order and `in6_addr` as the number its sixteen bytes write from the most significant on, and
name resolution (`Utils.DNS.resolve`, empty when it fails). `inet_pton` takes no empty text, and
a resolved name is an address `inet_ntop` printed. -/
structure OS where
  inet_pton4 : Text → Option (BitVec 32)
  inet_pton6 : Text → Option (BitVec 128)
  resolve : Text → Text
  inet_pton4_nil : inet_pton4 [] = none
  inet_pton6_nil : inet_pton6 [] = none
  resolve_presentation : ∀ name, resolve name ≠ [] → (inet_pton4 (resolve name)).isSome

/-! ## Addresses -/

inductive Family where
  | IPv4
  | IPv6
  deriving DecidableEq, Repr

/-- `IPAddress.Address` -/
inductive IPAddress where
  | IPv4 (s_addr : BitVec 32)
  | IPv6 (addr : BitVec 128)
  deriving DecidableEq, Repr

namespace IPAddress

def family : IPAddress → Family
  | IPv4 _ => .IPv4
  | IPv6 _ => .IPv6

def fromString (os : OS) (t : Text) : Option IPAddress :=
  match os.inet_pton4 t with
  | some addr => some (IPv4 addr)
  | none => (os.inet_pton6 t).map IPv6

def ipv4InNetworkOrder (ip : BitVec 32) : IPAddress := IPv4 ip

def ipv6InNetworkOrder (ip : BitVec 128) : IPAddress := IPv6 (byteSwapped128 ip)

/-- `<`; IPv4 is below IPv6. -/
def lt : IPAddress → IPAddress → Bool
  | IPv4 l, IPv4 r => byteSwapped32 l < byteSwapped32 r
  | IPv6 l, IPv6 r => l < r
  | IPv4 _, IPv6 _ => true
  | IPv6 _, IPv4 _ => false

/-- `<=`, as `Comparable` derives it -/
def le (l r : IPAddress) : Bool := !lt r l

end IPAddress

inductive IPInterval where
  | IPv4 (n : BitVec 32)
  | IPv6 (n : BitVec 128)

/-- `IPAddress.advanced(by: IPInterval)` -/
def IPAddress.advanced : IPAddress → IPInterval → Option IPAddress
  | .IPv4 addr, .IPv4 range => some (ipv4InNetworkOrder (byteSwapped32 (byteSwapped32 addr + range)))
  | .IPv6 addr, .IPv6 range => some (ipv6InNetworkOrder (byteSwapped128 (addr + range)))
  | _, _ => none

/-! ## Masks -/

inductive IPMask where
  | IPv4 (m : BitVec 32)
  | IPv6 (m : BitVec 128)

/-- `IPMask.mask(baseIP:)`. The IPv6 branch shifts the swapped word, as the source does. -/
def IPMask.mask : IPMask → IPAddress → Option (IPAddress × IPAddress)
  | .IPv4 m, .IPv4 addr =>
    if 32 < m then none
    else if m = 32 then some (.IPv4 addr, .IPv4 addr)
    else if m = 0 then some (.ipv4InNetworkOrder 0, .ipv4InNetworkOrder (BitVec.allOnes 32))
    else
      -- in host order, with the host bits cleared and then set
      let m := 32 - m
      let base := (byteSwapped32 addr >>> m) <<< m
      let «end» := base ||| ~~~((BitVec.allOnes 32 >>> m) <<< m)
      some (.ipv4InNetworkOrder (byteSwapped32 base), .ipv4InNetworkOrder (byteSwapped32 «end»))
  | .IPv6 m, .IPv6 addr =>
    if 128 < m then none
    else if m = 128 then some (.IPv6 addr, .IPv6 addr)
    else if m = 0 then some (.ipv6InNetworkOrder 0, .ipv6InNetworkOrder (BitVec.allOnes 128))
    else
      let m := 128 - m
      let base := (byteSwapped128 addr >>> m) <<< m
      let «end» := base ||| ~~~((BitVec.allOnes 128 >>> m) <<< m)
      some (.ipv6InNetworkOrder (byteSwapped128 base), .ipv6InNetworkOrder (byteSwapped128 «end»))
  | _, _ => none

/-! ## Ranges, and the initialisers of `IPRange` -/

inductive IPRangeError where
  | invalidCIDRFormat
  | invalidRangeFormat
  | invalidRange
  | invalidFormat
  | addressIncompatible
  | intervalInvalid
  | invalidMask
  deriving DecidableEq, Repr

/-- A range of addresses of one family, both ends included. -/
structure IPRange where
  startIP : IPAddress
  endIP : IPAddress
  family_eq : startIP.family = endIP.family
  ordered : startIP.le endIP = true
  deriving DecidableEq

namespace IPRange

/-- `IPRange(startIP:endIP:)` -/
def ofEnds (startIP endIP : IPAddress) : Except IPRangeError IPRange :=
  if hf : startIP.family = endIP.family then
    if ho : startIP.le endIP = true then .ok ⟨startIP, endIP, hf, ho⟩ else .error .invalidRange
  else .error .addressIncompatible

/-- `IPRange(startIP:interval:)` -/
def ofInterval (startIP : IPAddress) (interval : IPInterval) : Except IPRangeError IPRange :=
  match startIP.advanced interval with
  | some endIP => ofEnds startIP endIP
  | none => .error .intervalInvalid

/-- `IPRange(startIP:mask:)` -/
def ofMask (startIP : IPAddress) (mask : IPMask) : Except IPRangeError IPRange :=
  match mask.mask startIP with
  | some (startIP, endIP) => ofEnds startIP endIP
  | none => .error .invalidMask

/-- The number after the separator, in the width of the address before it. -/
def number (ip : IPAddress) (t : Text) : Option (BitVec 32 ⊕ BitVec 128) :=
  match ip.family with
  | .IPv4 => (uInt32 t).map .inl
  | .IPv6 => (uInt128 t).map .inr

def withCIDRString (os : OS) (rep : Text) : Except IPRangeError IPRange :=
  match components rep ⟨['/']⟩ with
  | [addr, len] =>
    match IPAddress.fromString os addr with
    | none => .error .invalidCIDRFormat
    | some ip =>
      match number ip len with
      | none => .error .invalidCIDRFormat
      | some (.inl m) => ofMask ip (.IPv4 m)
      | some (.inr m6) => ofMask ip (.IPv6 m6)
  | _ => .error .invalidCIDRFormat

def withRangeString (os : OS) (rep : Text) : Except IPRangeError IPRange :=
  match components rep ⟨['+']⟩ with
  | [addr, len] =>
    match IPAddress.fromString os addr with
    | none => .error .invalidRangeFormat
    | some ip =>
      match number ip len with
      | none => .error .invalidRangeFormat
      | some (.inl m) => ofInterval ip (.IPv4 m)
      | some (.inr m6) => ofInterval ip (.IPv6 m6)
  | _ => .error .invalidRangeFormat

def withString (os : OS) (rep : Text) : Except IPRangeError IPRange :=
  if contains rep (text "/") then withCIDRString os rep
  else if contains rep (text "+") then withRangeString os rep
  else
    match IPAddress.fromString os rep with
    | some ip => ofEnds ip ip
    | none => .error .invalidFormat

def contains (r : IPRange) (ip : IPAddress) : Bool :=
  -- an address of the other family lies in no range
  if ip.family = r.startIP.family then r.startIP.le ip && ip.le r.endIP else false

end IPRange

end VpnSs.NEKit
