import SolidOidcVerifier.Nat64

/-! What the loopback flag adds to the public addresses: the loopback addresses, and the addresses that
tunnel to one. -/
namespace SolidOidcVerifier
open Foundation

def loopbackV4 : Cidr 32 := v4Block 127 0 0 0 8

/-- Neither `::1` nor a mapped address, but one of an IPv4 address in `127/8`: in the last 32 bits of `::/96`
or `64:ff9b::/96`, in the bits 16 to 47 of `2002::/16`, or behind the first configured prefix that covers it. -/
inductive TunnelsLoopback (policy : Nat64Policy) (addr : Ipv6Addr) : Prop
  | compatible (inside : (v6Block [0,0,0,0,0,0] 96).Contains (addressBits addr))
      (loopback : loopbackV4.Contains ((addressBits addr).extractLsb' 0 32))
  | wellKnown (inside : (v6Block [0x64,0xff9b,0,0,0,0] 96).Contains (addressBits addr))
      (loopback : loopbackV4.Contains ((addressBits addr).extractLsb' 0 32))
  | relay (inside : sixToFour.Contains (addressBits addr))
      (loopback : loopbackV4.Contains ((addressBits addr).extractLsb' 80 32))
  | configured (nsp : Nat64Nsp) (first : policy.nsps.find? (fun nsp => nsp.Covers addr) = some nsp)
      (ordinary : ¬FixedRange addr) (unreserved : ∀ block ∈ reservedV6, ¬block.Contains (addressBits addr))
      (loopback : loopbackV4.Contains (ipv4Bits (decodeEmbeddedV4 addr nsp.prefixLen)))

/-- The flag re-permits loopback only. -/
def PermitsLoopbackOnly (address : String) (policy : Nat64Policy) : Prop :=
  isPublicAddressWithNat64 address true policy = true ↔
    isPublicAddressWithNat64 address false policy = true ∨ isLoopbackAddress address = true

theorem loopbackV4_contains (addr : Ipv4Addr) : loopbackV4.Contains (ipv4Bits addr) ↔ addr.a = 127 := by
  unfold loopbackV4
  rw [v4Block_contains _ _ _ _ 8 addr (by omega),(ipv4Number_leading addr).2.1,
    (ipv4Number_leading ⟨127,0,0,0⟩).2.1,UInt8.toNat_inj]

theorem loopbackV4_reserved (bits : BitVec 32) (loopback : loopbackV4.Contains bits) : ¬GlobalV4 bits := by
  intro global
  exact global loopbackV4 (by simp [reservedV4,loopbackV4]) loopback

theorem isPublicIpv4_flag (addr : Ipv4Addr) :
    isPublicIpv4 addr true = true ↔ isPublicIpv4 addr false = true ∨ addr.a = 127 := by
  unfold isPublicIpv4
  by_cases zero : addr.a = 0
  · simp [zero]
  · by_cases loopback : addr.a = 127
    · simp [loopback]
    · simp [zero,loopback]

theorem mapped_leading (addr : Ipv6Addr) (v4 : Ipv4Addr) (mapped : addr.toIpv4Mapped = some v4) :
    addr.segments.toList.take 6 = [0,0,0,0,0,0xffff] := by
  unfold Ipv6Addr.toIpv4Mapped at mapped
  rw [Option.ite_none_right_eq_some] at mapped
  exact mapped.1

theorem loopbackIp_fixed (addr : Ipv6Addr) (loopback : LoopbackIp (.v6 addr)) :
    addr = Ipv6Addr.localhost ∨ addr.segments.toList.take 6 = [0,0,0,0,0,0xffff] := by
  obtain localhost | ⟨v4,mapped,_⟩ := loopback
  · exact Or.inl localhost
  · exact Or.inr (mapped_leading addr v4 mapped)

theorem unspecified_distant : Ipv6Addr.unspecified ≠ Ipv6Addr.localhost := by decide

theorem localhost_leading : Ipv6Addr.localhost.segments.toList.take 6 = [0,0,0,0,0,0] := by decide

theorem nonzero_leading (addr : Ipv6Addr) (other : addr.segments.toList.take 6 ≠ [0,0,0,0,0,0]) :
    addr ≠ Ipv6Addr.localhost ∧ addr ≠ Ipv6Addr.unspecified := by
  constructor
  · intro same
    rw [same] at other
    exact other localhost_leading
  · intro same
    rw [same] at other
    exact other (by decide)

theorem TunnelsLoopback.not_loopbackIp {policy : Nat64Policy} {addr : Ipv6Addr}
    (tunnel : TunnelsLoopback policy addr) : ¬LoopbackIp (.v6 addr) := by
  intro own
  cases tunnel with
  | compatible inside loopback =>
    rw [v6Block_leading] at inside
    obtain localhost | mapped := loopbackIp_fixed addr own
    · rw [extracted_lowest,loopbackV4_contains,localhost] at loopback
      exact absurd loopback (by decide)
    · rw [inside] at mapped
      exact absurd mapped (by decide)
  | wellKnown inside loopback =>
    rw [v6Block_leading] at inside
    obtain localhost | mapped := loopbackIp_fixed addr own
    · rw [localhost,localhost_leading] at inside
      exact absurd inside (by decide)
    · rw [inside] at mapped
      exact absurd mapped (by decide)
  | relay inside loopback =>
    rw [sixToFour_iff] at inside
    obtain localhost | mapped := loopbackIp_fixed addr own
    · rw [localhost] at inside
      exact absurd inside (by decide)
    · rw [leading_head addr 0 _ mapped] at inside
      exact absurd inside (by decide)
  | configured nsp first ordinary unreserved loopback =>
    apply ordinary
    rw [fixedRange_iff]
    obtain localhost | mapped := loopbackIp_fixed addr own
    · rw [localhost]
      exact Or.inr (Or.inr (Or.inl localhost_leading))
    · exact Or.inr (Or.inl mapped)

theorem TunnelsLoopback.refused {policy : Nat64Policy} {addr : Ipv6Addr}
    (tunnel : TunnelsLoopback policy addr) : ¬isPublicIpv6 addr false policy = true := by
  intro accepted
  obtain ⟨strict,embedded⟩ := (isPublicIpv6_policy addr false policy).mp accepted
  have global := (isPublicIpv6_iff addr).mp strict
  cases tunnel with
  | compatible inside loopback =>
    exact loopbackV4_reserved _ loopback (global.embedded _ (by simp [embeddingV6]) inside)
  | wellKnown inside loopback =>
    exact loopbackV4_reserved _ loopback (global.embedded _ (by simp [embeddingV6]) inside)
  | relay inside loopback =>
    exact loopbackV4_reserved _ loopback (global.sixToFour inside)
  | configured nsp first ordinary unreserved loopback =>
    exact loopbackV4_reserved _ loopback ((isPublicIpv4_iff _).mp (embedded ordinary nsp first))

/-- Outside the ranges with an embedding of their own, the strict verdict does not look at the flag. -/
theorem isPublicIpv6_ordinary (addr : Ipv6Addr) (ordinary : ¬FixedRange addr) (allowLoopback : Bool) :
    isPublicIpv6 addr allowLoopback .strict = true ↔
      ∀ block ∈ reservedV6, ¬block.Contains (addressBits addr) := by
  have outside := mt (fixedRange_iff addr).mpr ordinary
  simp only [not_or] at outside
  obtain ⟨relay,mapped,compatible,wellKnown⟩ := outside
  obtain ⟨localhost,unspecified⟩ := nonzero_leading addr compatible
  rw [unreserved_iff]
  unfold isPublicIpv6 Ipv6Addr.toIpv4Mapped nat64WellKnownEmbeddedV4
  simp [localhost,unspecified,mapped,compatible,relay,wellKnown,Nat64Policy.embeddedV4,Nat64Policy.strict]

theorem firstPublic_flag (policy : Nat64Policy) (addr : Ipv6Addr) :
    FirstPublic policy addr true ↔ FirstPublic policy addr false ∨
      ∃ nsp, policy.nsps.find? (fun nsp => nsp.Covers addr) = some nsp ∧
        loopbackV4.Contains (ipv4Bits (decodeEmbeddedV4 addr nsp.prefixLen)) := by
  unfold FirstPublic
  cases policy.nsps.find? (fun nsp => nsp.Covers addr) with
  | none => simp
  | some nsp => simp [isPublicIpv4_flag,loopbackV4_contains]

/-- The ranges whose last 32 bits are an IPv4 address. -/
def EndsInIpv4 (addr : Ipv6Addr) : Prop :=
  addr.segments.toList.take 6 = [0,0,0,0,0,0xffff] ∨ addr.segments.toList.take 6 = [0,0,0,0,0,0] ∨
    addr.segments.toList.take 6 = [0x64,0xff9b,0,0,0,0]

theorem isPublicIpv6_last (addr : Ipv6Addr) (allowLoopback : Bool) (policy : Nat64Policy)
    (distant : addr ≠ Ipv6Addr.localhost) (specified : addr ≠ Ipv6Addr.unspecified) (ends : EndsInIpv4 addr) :
    isPublicIpv6 addr allowLoopback policy =
      isPublicIpv4 (.ofSegments (addr.segment 6) (addr.segment 7)) allowLoopback := by
  unfold isPublicIpv6 Ipv6Addr.toIpv4Mapped nat64WellKnownEmbeddedV4
  obtain mapped | compatible | wellKnown := ends
  · simp [distant,specified,mapped]
  · simp [distant,specified,compatible]
  · have head := leading_head addr _ _ wellKnown
    have unreserved : ¬(0x64 : UInt16) &&& 0xffc0 = 0xfe80 ∧ ¬(0x64 : UInt16) &&& 0xfe00 = 0xfc00 ∧
        ¬(0x64 : UInt16) &&& 0xff00 = 0xff00 := by decide
    simp [distant,specified,wellKnown,head,unreserved]

theorem isPublicIpv6_relay (addr : Ipv6Addr) (allowLoopback : Bool) (policy : Nat64Policy)
    (relay : addr.segment 0 = 0x2002) : isPublicIpv6 addr allowLoopback policy =
      isPublicIpv4 (.ofSegments (addr.segment 1) (addr.segment 2)) allowLoopback := by
  have elsewhere : ∀ segment rest, segment ≠ 0x2002 → addr.segments.toList.take 6 ≠ segment :: rest := by
    intro segment rest other leading
    exact other ((leading_head addr segment rest leading).symm.trans relay)
  obtain ⟨distant,specified⟩ := nonzero_leading addr (elsewhere 0 [0,0,0,0,0] (by decide))
  have unreserved : ¬(0x2002 : UInt16) &&& 0xffc0 = 0xfe80 ∧ ¬(0x2002 : UInt16) &&& 0xfe00 = 0xfc00 ∧
      ¬(0x2002 : UInt16) &&& 0xff00 = 0xff00 := by decide
  unfold isPublicIpv6 Ipv6Addr.toIpv4Mapped nat64WellKnownEmbeddedV4
  simp [distant,specified,relay,elsewhere,unreserved]

theorem isPublicIpv6_flag_fixed (addr : Ipv6Addr) (policy : Nat64Policy) (fixed : FixedRange addr)
    (accepted : isPublicIpv6 addr true policy = true) :
    isPublicIpv6 addr false policy = true ∨ LoopbackIp (.v6 addr) ∨ TunnelsLoopback policy addr := by
  by_cases localhost : addr = Ipv6Addr.localhost
  · exact Or.inr (Or.inl (Or.inl localhost))
  by_cases unspecified : addr = Ipv6Addr.unspecified
  · rw [unspecified] at accepted
    exact absurd accepted (by simp [isPublicIpv6,unspecified_distant])
  obtain relay | ends := (fixedRange_iff addr).mp fixed
  · rw [isPublicIpv6_relay addr _ policy relay] at accepted ⊢
    obtain strict | loopback := (isPublicIpv4_flag _).mp accepted
    · exact Or.inl strict
    · refine Or.inr (Or.inr (.relay ((sixToFour_iff addr).mpr relay) ?_))
      rw [extracted_sixToFour,loopbackV4_contains]
      exact loopback
  · rw [isPublicIpv6_last addr _ policy localhost unspecified ends] at accepted ⊢
    obtain strict | loopback := (isPublicIpv4_flag _).mp accepted
    · exact Or.inl strict
    · have embedded : loopbackV4.Contains ((addressBits addr).extractLsb' 0 32) := by
        rw [extracted_lowest,loopbackV4_contains]
        exact loopback
      obtain mapped | compatible | wellKnown := ends
      · refine Or.inr (Or.inl (Or.inr ⟨_,?_,loopback⟩))
        unfold Ipv6Addr.toIpv4Mapped
        rw [if_pos mapped]
      · exact Or.inr (Or.inr (.compatible ((v6Block_leading addr _ _ _ _ _ _).mpr compatible) embedded))
      · exact Or.inr (Or.inr (.wellKnown ((v6Block_leading addr _ _ _ _ _ _).mpr wellKnown) embedded))

theorem isPublicIpv6_flag (addr : Ipv6Addr) (policy : Nat64Policy)
    (accepted : isPublicIpv6 addr true policy = true) :
    isPublicIpv6 addr false policy = true ∨ LoopbackIp (.v6 addr) ∨ TunnelsLoopback policy addr := by
  by_cases fixed : FixedRange addr
  · exact isPublicIpv6_flag_fixed addr policy fixed accepted
  · obtain ⟨strict,embedded⟩ := (isPublicIpv6_policy addr true policy).mp accepted
    rw [isPublicIpv6_ordinary addr fixed] at strict
    obtain global | ⟨nsp,first,loopback⟩ := (firstPublic_flag policy addr).mp (embedded fixed)
    · refine Or.inl ((isPublicIpv6_policy addr false policy).mpr ⟨?_,fun _ => global⟩)
      rw [isPublicIpv6_ordinary addr fixed]
      exact strict
    · exact Or.inr (Or.inr (.configured nsp first fixed strict loopback))

theorem isPublicIpv6_flag_mono (addr : Ipv6Addr) (policy : Nat64Policy)
    (accepted : isPublicIpv6 addr false policy = true) : isPublicIpv6 addr true policy = true := by
  by_cases fixed : FixedRange addr
  · obtain ⟨strict,_⟩ := (isPublicIpv6_policy addr false policy).mp accepted
    have global := (isPublicIpv6_iff addr).mp strict
    have distant : addr ≠ Ipv6Addr.localhost := by
      intro same
      exact global.distant (by rw [same,localhost_bits])
    have specified : addr ≠ Ipv6Addr.unspecified := by
      intro same
      exact global.specified (by rw [same,unspecified_bits])
    obtain relay | ends := (fixedRange_iff addr).mp fixed
    · rw [isPublicIpv6_relay addr _ policy relay] at accepted ⊢
      exact (isPublicIpv4_flag _).mpr (Or.inl accepted)
    · rw [isPublicIpv6_last addr _ policy distant specified ends] at accepted ⊢
      exact (isPublicIpv4_flag _).mpr (Or.inl accepted)
  · obtain ⟨strict,embedded⟩ := (isPublicIpv6_policy addr false policy).mp accepted
    rw [isPublicIpv6_ordinary addr fixed] at strict
    refine (isPublicIpv6_policy addr true policy).mpr ⟨?_,fun _ => ?_⟩
    · rw [isPublicIpv6_ordinary addr fixed]
      exact strict
    · exact (firstPublic_flag policy addr).mpr (Or.inl (embedded fixed))

theorem ends_loopback_permitted (addr : Ipv6Addr) (policy : Nat64Policy) (ends : EndsInIpv4 addr)
    (loopback : (Ipv4Addr.ofSegments (addr.segment 6) (addr.segment 7)).a = 127) :
    isPublicIpv6 addr true policy = true := by
  have distant : addr ≠ Ipv6Addr.localhost := by
    intro same
    rw [same] at loopback
    exact absurd loopback (by decide)
  have specified : addr ≠ Ipv6Addr.unspecified := by
    intro same
    rw [same] at loopback
    exact absurd loopback (by decide)
  rw [isPublicIpv6_last addr true policy distant specified ends]
  exact (isPublicIpv4_flag _).mpr (Or.inr loopback)

theorem loopbackIp_permitted (addr : Ipv6Addr) (policy : Nat64Policy) (own : LoopbackIp (.v6 addr)) :
    isPublicIpv6 addr true policy = true := by
  obtain localhost | ⟨v4,mapped,loopback⟩ := own
  · simp [isPublicIpv6,localhost]
  · have leading := mapped_leading addr v4 mapped
    unfold Ipv6Addr.toIpv4Mapped at mapped
    rw [if_pos leading,Option.some.injEq] at mapped
    apply ends_loopback_permitted addr policy (Or.inl leading)
    rw [mapped]
    exact loopback

theorem TunnelsLoopback.permitted {policy : Nat64Policy} {addr : Ipv6Addr}
    (tunnel : TunnelsLoopback policy addr) : isPublicIpv6 addr true policy = true := by
  cases tunnel with
  | compatible inside loopback =>
    rw [v6Block_leading] at inside
    rw [extracted_lowest,loopbackV4_contains] at loopback
    exact ends_loopback_permitted addr policy (Or.inr (Or.inl inside)) loopback
  | wellKnown inside loopback =>
    rw [v6Block_leading] at inside
    rw [extracted_lowest,loopbackV4_contains] at loopback
    exact ends_loopback_permitted addr policy (Or.inr (Or.inr inside)) loopback
  | relay inside loopback =>
    rw [extracted_sixToFour,loopbackV4_contains] at loopback
    rw [isPublicIpv6_relay addr true policy ((sixToFour_iff addr).mp inside)]
    exact (isPublicIpv4_flag _).mpr (Or.inr loopback)
  | configured nsp first ordinary unreserved loopback =>
    refine (isPublicIpv6_policy addr true policy).mpr ⟨?_,fun _ => ?_⟩
    · rw [isPublicIpv6_ordinary addr ordinary]
      exact unreserved
    · exact (firstPublic_flag policy addr).mpr (Or.inr ⟨nsp,first,loopback⟩)

theorem isPublicIpv6_flag_iff (addr : Ipv6Addr) (policy : Nat64Policy) :
    isPublicIpv6 addr true policy = true ↔
      isPublicIpv6 addr false policy = true ∨ LoopbackIp (.v6 addr) ∨ TunnelsLoopback policy addr := by
  constructor
  · exact isPublicIpv6_flag addr policy
  · intro reason
    obtain strict | own | tunnel := reason
    · exact isPublicIpv6_flag_mono addr policy strict
    · exact loopbackIp_permitted addr policy own
    · exact tunnel.permitted

theorem unparsed_refused (address : String) (allowLoopback : Bool) (policy : Nat64Policy)
    (unread : IpText.parseIp address = none) :
    isPublicAddressWithNat64 address allowLoopback policy = false ∧ isLoopbackAddress address = false := by
  obtain ⟨v4,v6⟩ := IpText.parseIp_none address unread
  unfold isPublicAddressWithNat64 isLoopbackAddress
  rw [v4,v6]
  exact ⟨rfl,rfl⟩

/-- The flag adds the loopback addresses and nothing else exactly outside the tunnels. -/
theorem flag_permits_loopback (address : String) (policy : Nat64Policy) :
    PermitsLoopbackOnly address policy ↔
      ∀ addr, IpText.parseIp address = some (.v6 addr) → ¬TunnelsLoopback policy addr := by
  unfold PermitsLoopbackOnly
  cases read : IpText.parseIp address with
  | none =>
    obtain ⟨_,loopback⟩ := unparsed_refused address false policy read
    simp [unparsed_refused address _ policy read,loopback]
  | some ip =>
    rw [isPublicAddress_parsed address ip true policy read,isPublicAddress_parsed address ip false policy read,
      isLoopbackAddress_parsed address ip read]
    cases ip with
    | v4 addr =>
      have flag := isPublicIpv4_flag addr
      simpa [PublicIp,LoopbackIp] using flag
    | v6 addr =>
      unfold PublicIp
      simp only
      rw [isPublicIpv6_flag_iff]
      constructor
      · intro only other same tunnel
        cases same
        obtain strict | own := only.mp (Or.inr (Or.inr tunnel))
        · exact tunnel.refused strict
        · exact tunnel.not_loopbackIp own
      · intro outside
        rw [← or_assoc]
        exact or_iff_left (outside addr rfl)

/-- `127.0.0.1` under `::/96`, `2002::/16` and `64:ff9b::/96`, each permitted and none of them loopback. -/
theorem tunnels_permitted :
    (isPublicAddressWithNat64 "::127.0.0.1" true .strict = true ∧
      isPublicAddressWithNat64 "::127.0.0.1" false .strict = false ∧ isLoopbackAddress "::127.0.0.1" = false) ∧
    ¬PermitsLoopbackOnly "::127.0.0.1" .strict ∧ ¬PermitsLoopbackOnly "2002:7f00:1::" .strict ∧
    ¬PermitsLoopbackOnly "64:ff9b::7f00:1" .strict := by
  have verdicts : ∀ address ∈ ["::127.0.0.1","2002:7f00:1::","64:ff9b::7f00:1"],
      isPublicAddressWithNat64 address true .strict = true ∧
        isPublicAddressWithNat64 address false .strict = false ∧ isLoopbackAddress address = false := by
    decide +kernel
  have unlike : ∀ address ∈ ["::127.0.0.1","2002:7f00:1::","64:ff9b::7f00:1"], ¬PermitsLoopbackOnly address .strict := by
    intro address listed
    obtain ⟨permitted,refused,other⟩ := verdicts address listed
    unfold PermitsLoopbackOnly
    simp [permitted,refused,other]
  exact ⟨verdicts _ (by simp),unlike _ (by simp),unlike _ (by simp),unlike _ (by simp)⟩

end SolidOidcVerifier
