import SolidOidcVerifier.Foundation.Exec
import SolidOidcVerifier.Foundation.IpText
import SolidOidcVerifier.Foundation.Text

/-! Public-address classification, with the NAT64 prefixes that an operator configures. -/
namespace SolidOidcVerifier
open Foundation

/-- The prefix lengths of RFC 6052 for the embedding of an IPv4 address. -/
def validLengths : List Nat := [32,40,48,56,64,96]

def maskSegments (bitsRemaining : Int) : List UInt16 → List UInt16
  | [] => []
  | seg :: rest =>
    if 16 ≤ bitsRemaining then seg :: maskSegments (bitsRemaining-16) rest
    else if bitsRemaining ≤ 0 then 0 :: maskSegments bitsRemaining rest
    else (seg &&& (0xffff <<< UInt16.ofNat (16-bitsRemaining.toNat))) :: maskSegments 0 rest

/-- A prefix holds the masked segments of an address, and one of the valid lengths. -/
structure Nat64Nsp where
  masked : List UInt16
  prefixLen : Nat
  valid : prefixLen ∈ validLengths
  exact : ∃ addr : Ipv6Addr, masked = maskSegments prefixLen addr.segments.toList

def Nat64Nsp.new (base : Ipv6Addr) (prefixLen : Nat) : Except String Nat64Nsp :=
  if valid : prefixLen ∈ validLengths then
    .ok ⟨maskSegments prefixLen base.segments.toList,prefixLen,valid,base,rfl⟩
  else .error ("prefix length /" ++ toString prefixLen ++
    " is not an RFC 6052 §2.2 embedding length (one of 32/40/48/56/64/96)")

/-- `str::parse::<u8>`. -/
def parseU8 (text : List Char) : Option Nat :=
  let digits := if text.head? = some '+' then text.tail else text
  if digits = [] ∨ ¬digits.all Char.isDigit ∨ 256 ≤ IpText.numeral 10 digits then none
  else some (IpText.numeral 10 digits)

def Nat64Nsp.parse (cidr : String) : Except String Nat64Nsp := do
  let (addrStr,lenStr) ← orError (Text.splitOnce '/' cidr.toList)
    ("expected `<ipv6>/<len>` form, got `" ++ cidr ++ "`")
  let prefixLen ← orError (parseU8 (Text.trim lenStr))
    ("prefix length is not a number: `" ++ String.ofList lenStr ++ "`")
  let addr ← orError (IpText.parseIpv6 (String.ofList (Text.trim addrStr)))
    ("prefix is not an IPv6 address: `" ++ String.ofList addrStr ++ "`")
  Nat64Nsp.new addr prefixLen

def addressBits (addr : Ipv6Addr) : BitVec 128 :=
  addr.segments.toList.foldl (fun bits seg => (bits <<< 16) ||| seg.toBitVec.setWidth 128) 0

/-- The loop that reads the remaining `left` bits from the position on. -/
def decodeBits (bits : BitVec 128) : (left pos : Nat) → BitVec 32 → BitVec 32
  | 0,_,v4 => v4
  | left+1,pos,v4 =>
    -- The reserved octet, the bits 64 to 71, is skipped.
    let pos := if 64 ≤ pos ∧ pos < 72 then 72 else pos
    decodeBits bits left (pos+1) ((v4 <<< 1) ||| ((bits >>> (127-pos)) &&& 1).setWidth 32)

def decodeEmbeddedV4 (addr : Ipv6Addr) (prefixLen : Nat) : Ipv4Addr :=
  .ofBits (decodeBits (addressBits addr) 32 prefixLen 0)

def Nat64Nsp.embeddedV4 (nsp : Nat64Nsp) (addr : Ipv6Addr) : Option Ipv4Addr :=
  if maskSegments nsp.prefixLen addr.segments.toList = nsp.masked then
    some (decodeEmbeddedV4 addr nsp.prefixLen)
  else none

structure Nat64Policy where
  nsps : List Nat64Nsp

namespace Nat64Policy

def strict : Nat64Policy := ⟨[]⟩

def withNsps (nsps : List Nat64Nsp) : Nat64Policy := ⟨nsps⟩

def fromCidrs (cidrs : List String) : Except String Nat64Policy := do
  return ⟨← cidrs.mapM Nat64Nsp.parse⟩

/-- The first matching prefix wins. -/
def embeddedV4 (policy : Nat64Policy) (addr : Ipv6Addr) : Option Ipv4Addr :=
  policy.nsps.findSome? (·.embeddedV4 addr)

end Nat64Policy

def isPublicIpv4 (addr : Ipv4Addr) (allowLoopback : Bool) : Bool :=
  let ⟨a,b,c,_⟩ := addr
  if a = 0 then false
  else if a = 127 then allowLoopback
  else if a = 10 then false
  else if a = 172 ∧ 16 ≤ b ∧ b ≤ 31 then false
  else if a = 192 ∧ b = 168 then false
  else if a = 169 ∧ b = 254 then false
  else if a = 100 ∧ 64 ≤ b ∧ b ≤ 127 then false
  else if 224 ≤ a ∧ a ≤ 239 then false
  else if 240 ≤ a then false
  else if a = 192 ∧ b = 0 ∧ c = 2 then false
  else if a = 198 ∧ (b = 18 ∨ b = 19) then false
  else if a = 198 ∧ b = 51 ∧ c = 100 then false
  else if a = 203 ∧ b = 0 ∧ c = 113 then false
  else true

def Ipv6Addr.localhost : Ipv6Addr := .ofList [0,0,0,0,0,0,0,1]

def Ipv6Addr.unspecified : Ipv6Addr := .ofList []

def nat64WellKnownEmbeddedV4 (addr : Ipv6Addr) : Option Ipv4Addr :=
  if addr.segments.toList.take 6 = [0x0064,0xff9b,0,0,0,0] then
    some (.ofSegments (addr.segment 6) (addr.segment 7))
  else none

def isPublicIpv6 (addr : Ipv6Addr) (allowLoopback : Bool) (nat64 : Nat64Policy) : Bool :=
  if addr = Ipv6Addr.localhost then allowLoopback
  else if addr = Ipv6Addr.unspecified then false
  else match addr.toIpv4Mapped with
    | some v4 => isPublicIpv4 v4 allowLoopback
    | none =>
      if addr.segments.toList.take 6 = [0,0,0,0,0,0] then
        isPublicIpv4 (.ofSegments (addr.segment 6) (addr.segment 7)) allowLoopback
      else
        let high := addr.segment 0
        if high &&& 0xffc0 = 0xfe80 then false
        else if high &&& 0xfe00 = 0xfc00 then false
        else if high &&& 0xff00 = 0xff00 then false
        else if high = 0x2002 then isPublicIpv4 (.ofSegments (addr.segment 1) (addr.segment 2)) allowLoopback
        else match nat64WellKnownEmbeddedV4 addr with
          | some v4 => isPublicIpv4 v4 allowLoopback
          | none =>
            match nat64.embeddedV4 addr with
            | some v4 => isPublicIpv4 v4 allowLoopback
            | none => true

def isPublicAddressWithNat64 (address : String) (allowLoopback : Bool) (nat64 : Nat64Policy) : Bool :=
  match IpText.parseIpv4 address with
  | some v4 => isPublicIpv4 v4 allowLoopback
  | none =>
    match IpText.parseIpv6 address with
    | some v6 => isPublicIpv6 v6 allowLoopback nat64
    | none => false

def isPublicAddress (address : String) (allowLoopback : Bool) : Bool :=
  isPublicAddressWithNat64 address allowLoopback .strict

def isLoopbackAddress (address : String) : Bool :=
  match IpText.parseIpv4 address with
  | some v4 => v4.a == 127
  | none =>
    match IpText.parseIpv6 address with
    | some v6 =>
      if v6 = Ipv6Addr.localhost then true
      else match v6.toIpv4Mapped with
        | some v4 => v4.a == 127
        | none => false
    | none => false

/-! What the texts of addresses say about the addresses. -/

def PublicIp (nat64 : Nat64Policy) (allowLoopback : Bool) : IpAddr → Prop
  | .v4 addr => isPublicIpv4 addr allowLoopback = true
  | .v6 addr => isPublicIpv6 addr allowLoopback nat64 = true

def LoopbackIp : IpAddr → Prop
  | .v4 addr => addr.a = 127
  | .v6 addr => addr = Ipv6Addr.localhost ∨ ∃ v4, addr.toIpv4Mapped = some v4 ∧ v4.a = 127

theorem isPublicAddress_parsed (address : String) (ip : IpAddr) (allowLoopback : Bool) (nat64 : Nat64Policy)
    (read : IpText.parseIp address = some ip) :
    isPublicAddressWithNat64 address allowLoopback nat64 = true ↔ PublicIp nat64 allowLoopback ip := by
  unfold isPublicAddressWithNat64
  obtain ⟨addr,rfl,v4⟩ | ⟨addr,rfl,v4,v6⟩ := IpText.parseIp_cases address ip read
  · rw [v4]
    exact Iff.rfl
  · rw [v4,v6]
    exact Iff.rfl

theorem isLoopbackAddress_parsed (address : String) (ip : IpAddr) (read : IpText.parseIp address = some ip) :
    isLoopbackAddress address = true ↔ LoopbackIp ip := by
  unfold isLoopbackAddress
  obtain ⟨addr,rfl,v4⟩ | ⟨addr,rfl,v4,v6⟩ := IpText.parseIp_cases address ip read
  · rw [v4]
    exact beq_iff_eq
  · rw [v4,v6]
    unfold LoopbackIp
    by_cases localhost : addr = Ipv6Addr.localhost
    · simp [localhost]
    · cases mapped : addr.toIpv4Mapped with
      | none => simp [localhost,mapped]
      | some v4 => simp [localhost,mapped]

end SolidOidcVerifier
