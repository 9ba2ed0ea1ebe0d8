import SolidOidcVerifier.Foundation.Cidr
import SolidOidcVerifier.Ssrf

/-! Public addresses as numbers outside blocks of leading bits, whatever the order of the tests. -/
namespace SolidOidcVerifier
open Foundation

def ipv4Number (addr : Ipv4Addr) : Nat :=
  addr.a.toNat*2^24+addr.b.toNat*2^16+addr.c.toNat*2^8+addr.d.toNat

def ipv4Bits (addr : Ipv4Addr) : BitVec 32 := .ofNat 32 (ipv4Number addr)

def v4Block (a b c d : UInt8) (len : Nat) : Cidr 32 := ⟨ipv4Bits ⟨a,b,c,d⟩,len⟩

def v6Block (segments : List UInt16) (len : Nat) : Cidr 128 := ⟨addressBits (.ofList segments),len⟩

def reservedV4 : List (Cidr 32) :=
  [v4Block 0 0 0 0 8,v4Block 10 0 0 0 8,v4Block 127 0 0 0 8,v4Block 100 64 0 0 10,v4Block 169 254 0 0 16,
    v4Block 172 16 0 0 12,v4Block 192 168 0 0 16,v4Block 192 0 2 0 24,v4Block 198 18 0 0 15,
    v4Block 198 51 100 0 24,v4Block 203 0 113 0 24,v4Block 224 0 0 0 4,v4Block 240 0 0 0 4]

def GlobalV4 (bits : BitVec 32) : Prop := ∀ block ∈ reservedV4, ¬block.Contains bits

/-- `fe80::/10`, `fc00::/7` and `ff00::/8`. -/
def reservedV6 : List (Cidr 128) := [v6Block [0xfe80] 10,v6Block [0xfc00] 7,v6Block [0xff00] 8]

/-- `::ffff:0:0/96`, `::/96` and `64:ff9b::/96`. -/
def embeddingV6 : List (Cidr 128) :=
  [v6Block [0,0,0,0,0,0xffff] 96,v6Block [0,0,0,0,0,0] 96,v6Block [0x64,0xff9b,0,0,0,0] 96]

def sixToFour : Cidr 128 := v6Block [0x2002] 16

/-- Neither `::` nor `::1` and in no reserved block; an embedded IPv4 address, the last 32 bits or the bits
16 to 47, is global. -/
structure GlobalV6 (bits : BitVec 128) : Prop where
  specified : bits ≠ 0
  distant : bits ≠ 1
  unreserved : ∀ block ∈ reservedV6, ¬block.Contains bits
  embedded : ∀ block ∈ embeddingV6, block.Contains bits → GlobalV4 (bits.extractLsb' 0 32)
  sixToFour : sixToFour.Contains bits → GlobalV4 (bits.extractLsb' 80 32)

def GlobalIp : IpAddr → Prop
  | .v4 addr => GlobalV4 (ipv4Bits addr)
  | .v6 addr => GlobalV6 (addressBits addr)

theorem ipv4Number_lt (addr : Ipv4Addr) : ipv4Number addr < 2^32 := by
  have a := addr.a.toNat_lt
  have b := addr.b.toNat_lt
  have c := addr.c.toNat_lt
  have d := addr.d.toNat_lt
  unfold ipv4Number
  omega

theorem ipv4Bits_toNat (addr : Ipv4Addr) : (ipv4Bits addr).toNat = ipv4Number addr := by
  unfold ipv4Bits
  rw [BitVec.toNat_ofNat,Nat.mod_eq_of_lt (ipv4Number_lt addr)]

theorem v4Block_contains (a b c d : UInt8) (len : Nat) (addr : Ipv4Addr) (short : len ≤ 32) :
    (v4Block a b c d len).Contains (ipv4Bits addr) ↔
      ipv4Number addr/2^(32-len) = ipv4Number ⟨a,b,c,d⟩/2^(32-len) := by
  unfold v4Block
  rw [Cidr.contains_iff _ _ short,ipv4Bits_toNat,ipv4Bits_toNat]

theorem ipv4Number_leading (addr : Ipv4Addr) :
    ipv4Number addr/2^28 = addr.a.toNat/16 ∧ ipv4Number addr/2^24 = addr.a.toNat ∧
      ipv4Number addr/2^22 = addr.a.toNat*4+addr.b.toNat/64 ∧
      ipv4Number addr/2^20 = addr.a.toNat*16+addr.b.toNat/16 ∧
      ipv4Number addr/2^17 = addr.a.toNat*128+addr.b.toNat/2 ∧
      ipv4Number addr/2^16 = addr.a.toNat*256+addr.b.toNat ∧
      ipv4Number addr/2^8 = addr.a.toNat*65536+addr.b.toNat*256+addr.c.toNat := by
  have b := addr.b.toNat_lt
  have c := addr.c.toNat_lt
  have d := addr.d.toNat_lt
  unfold ipv4Number
  omega

theorem globalV4_octets (addr : Ipv4Addr) : GlobalV4 (ipv4Bits addr) ↔
    ¬addr.a.toNat = 0 ∧ ¬addr.a.toNat = 10 ∧ ¬addr.a.toNat = 127 ∧
      ¬(addr.a.toNat = 100 ∧ 64 ≤ addr.b.toNat ∧ addr.b.toNat ≤ 127) ∧
      ¬(addr.a.toNat = 169 ∧ addr.b.toNat = 254) ∧
      ¬(addr.a.toNat = 172 ∧ 16 ≤ addr.b.toNat ∧ addr.b.toNat ≤ 31) ∧
      ¬(addr.a.toNat = 192 ∧ addr.b.toNat = 168) ∧
      ¬(addr.a.toNat = 192 ∧ addr.b.toNat = 0 ∧ addr.c.toNat = 2) ∧
      ¬(addr.a.toNat = 198 ∧ (addr.b.toNat = 18 ∨ addr.b.toNat = 19)) ∧
      ¬(addr.a.toNat = 198 ∧ addr.b.toNat = 51 ∧ addr.c.toNat = 100) ∧
      ¬(addr.a.toNat = 203 ∧ addr.b.toNat = 0 ∧ addr.c.toNat = 113) ∧
      ¬(224 ≤ addr.a.toNat ∧ addr.a.toNat ≤ 239) ∧ ¬240 ≤ addr.a.toNat := by
  have a := addr.a.toNat_lt
  have b := addr.b.toNat_lt
  have c := addr.c.toNat_lt
  obtain ⟨by28,by24,by22,by20,by17,by16,by8⟩ := ipv4Number_leading addr
  unfold GlobalV4 reservedV4
  simp only [List.forall_mem_cons,v4Block_contains,Nat.reduceLeDiff,Nat.reduceSub,List.not_mem_nil,
    false_implies,implies_true,and_true,by28,by24,by22,by20,by17,by16,by8]
  unfold ipv4Number
  simp only [UInt8.reduceToNat]
  refine and_congr (not_congr ?_) (and_congr (not_congr ?_) (and_congr (not_congr ?_) (and_congr (not_congr ?_)
    (and_congr (not_congr ?_) (and_congr (not_congr ?_) (and_congr (not_congr ?_) (and_congr (not_congr ?_)
    (and_congr (not_congr ?_) (and_congr (not_congr ?_) (and_congr (not_congr ?_) (and_congr (not_congr ?_)
    (not_congr ?_)))))))))))) <;> omega

private theorem refused_iff (refused : Prop) [Decidable refused] (rest : Bool) :
    (if refused then false else rest) = true ↔ ¬refused ∧ rest = true := by
  split <;> simp_all

theorem isPublicIpv4_iff (addr : Ipv4Addr) : isPublicIpv4 addr false = true ↔ GlobalV4 (ipv4Bits addr) := by
  rw [globalV4_octets]
  unfold isPublicIpv4
  simp only [refused_iff,and_true,← UInt8.toNat_inj,UInt8.le_iff_toNat_le,UInt8.reduceToNat]
  constructor
  · intro tests
    obtain ⟨zero,loopback,ten,private172,private192,linkLocal,shared,multicast,reserved,test1,benchmark,test2,
      test3⟩ := tests
    exact ⟨zero,ten,loopback,shared,linkLocal,private172,private192,test1,benchmark,test2,test3,multicast,
      reserved⟩
  · intro outside
    obtain ⟨zero,ten,loopback,shared,linkLocal,private172,private192,test1,benchmark,test2,test3,multicast,
      reserved⟩ := outside
    exact ⟨zero,loopback,ten,private172,private192,linkLocal,shared,multicast,reserved,test1,benchmark,test2,
      test3⟩

theorem segments_small (addr : Ipv6Addr) :
    (addr.segment 0).toNat < 2^16 ∧ (addr.segment 1).toNat < 2^16 ∧ (addr.segment 2).toNat < 2^16 ∧
      (addr.segment 3).toNat < 2^16 ∧ (addr.segment 4).toNat < 2^16 ∧ (addr.segment 5).toNat < 2^16 ∧
      (addr.segment 6).toNat < 2^16 ∧ (addr.segment 7).toNat < 2^16 := by
  have bounded : ∀ segment ∈ addr.segments.toList, segment.toNat < 2^16 := fun segment _ => segment.toNat_lt
  rw [addr.segments_toList] at bounded
  simpa only [List.forall_mem_cons,List.not_mem_nil,false_implies,implies_true,and_true] using bounded

theorem addressBits_toNat (addr : Ipv6Addr) : (addressBits addr).toNat =
    (addr.segment 0).toNat*2^112+(addr.segment 1).toNat*2^96+(addr.segment 2).toNat*2^80+
      (addr.segment 3).toNat*2^64+(addr.segment 4).toNat*2^48+(addr.segment 5).toNat*2^32+
      (addr.segment 6).toNat*2^16+(addr.segment 7).toNat := by
  unfold addressBits
  rw [foldl_words _ 0 0 0 (by simp) (by decide) rfl,Ipv6Addr.segments_toList]
  simp only [wordsNumber,List.length_cons,List.length_nil]
  omega

theorem addressBits_leading (addr : Ipv6Addr) :
    (addressBits addr).toNat/2^121 = (addr.segment 0).toNat/512 ∧
      (addressBits addr).toNat/2^120 = (addr.segment 0).toNat/256 ∧
      (addressBits addr).toNat/2^118 = (addr.segment 0).toNat/64 ∧
      (addressBits addr).toNat/2^112 = (addr.segment 0).toNat ∧
      (addressBits addr).toNat/2^32 = (addr.segment 0).toNat*2^80+(addr.segment 1).toNat*2^64+
        (addr.segment 2).toNat*2^48+(addr.segment 3).toNat*2^32+(addr.segment 4).toNat*2^16+
        (addr.segment 5).toNat := by
  have small := segments_small addr
  rw [addressBits_toNat]
  omega

theorem halves_number (word : UInt16) :
    (word >>> 8).toUInt8.toNat*256+(word &&& 0xff).toUInt8.toNat = word.toNat := by
  have bound := word.toNat_lt
  have low : word.toNat % 256 &&& 255 = word.toNat % 256 := by
    rw [Nat.and_two_pow_sub_one_eq_mod _ 8,Nat.mod_mod]
  simp [low,Nat.shiftRight_eq_div_pow]
  omega

theorem ofSegments_number (high low : UInt16) :
    ipv4Number (.ofSegments high low) = high.toNat*2^16+low.toNat := by
  unfold ipv4Number Ipv4Addr.ofSegments
  rw [← halves_number high,← halves_number low]
  ring

theorem extracted_lowest (addr : Ipv6Addr) : (addressBits addr).extractLsb' 0 32 =
    ipv4Bits (.ofSegments (addr.segment 6) (addr.segment 7)) := by
  apply BitVec.eq_of_toNat_eq
  rw [ipv4Bits_toNat,ofSegments_number,BitVec.extractLsb'_toNat,Nat.shiftRight_zero,addressBits_toNat]
  have small := segments_small addr
  omega

theorem extracted_sixToFour (addr : Ipv6Addr) : (addressBits addr).extractLsb' 80 32 =
    ipv4Bits (.ofSegments (addr.segment 1) (addr.segment 2)) := by
  apply BitVec.eq_of_toNat_eq
  rw [ipv4Bits_toNat,ofSegments_number,BitVec.extractLsb'_toNat,Nat.shiftRight_eq_div_pow,addressBits_toNat]
  have small := segments_small addr
  omega

theorem v6Block_contains (segments : List UInt16) (len base : Nat) (addr : Ipv6Addr) (short : len ≤ 128)
    (value : (addressBits (.ofList segments)).toNat = base) :
    (v6Block segments len).Contains (addressBits addr) ↔
      (addressBits addr).toNat/2^(128-len) = base/2^(128-len) := by
  unfold v6Block
  rw [Cidr.contains_iff _ _ short,value]

theorem masked_iff (segment mask pattern : UInt16) (low : Nat) (fits : low ≤ 16)
    (shape : mask.toNat = 2^16-2^low) :
    segment &&& mask = pattern ↔ segment.toNat/2^low*2^low = pattern.toNat := by
  rw [← UInt16.toNat_inj,UInt16.toNat_and,shape,and_high_mask 16 low _ segment.toNat_lt fits]

theorem addressBits_inj (left right : Ipv6Addr) : addressBits left = addressBits right ↔ left = right := by
  constructor
  · intro same
    have numbers := congrArg BitVec.toNat same
    rw [addressBits_toNat,addressBits_toNat] at numbers
    have leftSmall := segments_small left
    have rightSmall := segments_small right
    have lists : left.segments.toList = right.segments.toList := by
      rw [Ipv6Addr.segments_toList,Ipv6Addr.segments_toList]
      simp only [List.cons.injEq,← UInt16.toNat_inj,and_true]
      omega
    rw [← IpText.ofList_segments left,lists,IpText.ofList_segments]
  · intro same
    rw [same]

theorem leading_iff (addr : Ipv6Addr) (s0 s1 s2 s3 s4 s5 : UInt16) :
    addr.segments.toList.take 6 = [s0,s1,s2,s3,s4,s5] ↔ (addressBits addr).toNat/2^32 =
      s0.toNat*2^80+s1.toNat*2^64+s2.toNat*2^48+s3.toNat*2^32+s4.toNat*2^16+s5.toNat := by
  have small := segments_small addr
  have t0 := s0.toNat_lt
  have t1 := s1.toNat_lt
  have t2 := s2.toNat_lt
  have t3 := s3.toNat_lt
  have t4 := s4.toNat_lt
  have t5 := s5.toNat_lt
  rw [(addressBits_leading addr).2.2.2.2,Ipv6Addr.segments_toList]
  simp only [List.take_succ_cons,List.take_zero,List.cons.injEq,← UInt16.toNat_inj,and_true]
  omega

theorem localhost_bits : addressBits Ipv6Addr.localhost = 1 := by decide +kernel

theorem unspecified_bits : addressBits Ipv6Addr.unspecified = 0 := by decide +kernel

theorem unreserved_iff (addr : Ipv6Addr) : (∀ block ∈ reservedV6, ¬block.Contains (addressBits addr)) ↔
    ¬addr.segment 0 &&& 0xffc0 = 0xfe80 ∧ ¬addr.segment 0 &&& 0xfe00 = 0xfc00 ∧
      ¬addr.segment 0 &&& 0xff00 = 0xff00 := by
  obtain ⟨by121,by120,by118,_⟩ := addressBits_leading addr
  unfold reservedV6
  simp only [List.forall_mem_cons,List.not_mem_nil,false_implies,implies_true,and_true]
  refine and_congr (not_congr ?_) (and_congr (not_congr ?_) (not_congr ?_))
  · rw [v6Block_contains [0xfe80] 10 (0xfe80*2^112) addr (by omega) (by decide +kernel),by118,
      masked_iff _ 0xffc0 0xfe80 6 (by omega) rfl]
    simp only [UInt16.reduceToNat]
    omega
  · rw [v6Block_contains [0xfc00] 7 (0xfc00*2^112) addr (by omega) (by decide +kernel),by121,
      masked_iff _ 0xfe00 0xfc00 9 (by omega) rfl]
    simp only [UInt16.reduceToNat]
    omega
  · rw [v6Block_contains [0xff00] 8 (0xff00*2^112) addr (by omega) (by decide +kernel),by120,
      masked_iff _ 0xff00 0xff00 8 (by omega) rfl]
    simp only [UInt16.reduceToNat]
    omega

theorem v6Block_leading (addr : Ipv6Addr) (s0 s1 s2 s3 s4 s5 : UInt16) :
    (v6Block [s0,s1,s2,s3,s4,s5] 96).Contains (addressBits addr) ↔
      addr.segments.toList.take 6 = [s0,s1,s2,s3,s4,s5] := by
  have base := addressBits_toNat (.ofList [s0,s1,s2,s3,s4,s5])
  simp only [Ipv6Addr.segment,Ipv6Addr.ofList,Vector.toList_ofFn] at base
  rw [v6Block_contains _ _ _ addr (by omega) base,leading_iff]
  simp
  omega

theorem embedding_iff (addr : Ipv6Addr) : (∃ block ∈ embeddingV6, block.Contains (addressBits addr)) ↔
    addr.segments.toList.take 6 = [0,0,0,0,0,0xffff] ∨ addr.segments.toList.take 6 = [0,0,0,0,0,0] ∨
      addr.segments.toList.take 6 = [0x64,0xff9b,0,0,0,0] := by
  unfold embeddingV6
  simp only [List.mem_cons,List.not_mem_nil,or_false,exists_eq_or_imp,exists_eq_left,v6Block_leading]

theorem sixToFour_iff (addr : Ipv6Addr) :
    sixToFour.Contains (addressBits addr) ↔ addr.segment 0 = 0x2002 := by
  unfold sixToFour
  rw [v6Block_contains [0x2002] 16 (0x2002*2^112) addr (by omega) (by decide +kernel),
    (addressBits_leading addr).2.2.2.1,← UInt16.toNat_inj]
  simp

theorem leading_head (addr : Ipv6Addr) (head : UInt16) (rest : List UInt16)
    (leading : addr.segments.toList.take 6 = head :: rest) : addr.segment 0 = head := by
  rw [Ipv6Addr.segments_toList,List.take_succ_cons] at leading
  exact (List.cons.inj leading).1

theorem globalV6_iff (addr : Ipv6Addr) : GlobalV6 (addressBits addr) ↔
    addr ≠ Ipv6Addr.localhost ∧ addr ≠ Ipv6Addr.unspecified ∧
      (¬addr.segment 0 &&& 0xffc0 = 0xfe80 ∧ ¬addr.segment 0 &&& 0xfe00 = 0xfc00 ∧
        ¬addr.segment 0 &&& 0xff00 = 0xff00) ∧
      ((addr.segments.toList.take 6 = [0,0,0,0,0,0xffff] ∨ addr.segments.toList.take 6 = [0,0,0,0,0,0] ∨
          addr.segments.toList.take 6 = [0x64,0xff9b,0,0,0,0]) →
        isPublicIpv4 (.ofSegments (addr.segment 6) (addr.segment 7)) false = true) ∧
      (addr.segment 0 = 0x2002 →
        isPublicIpv4 (.ofSegments (addr.segment 1) (addr.segment 2)) false = true) := by
  rw [← unreserved_iff,← embedding_iff,← sixToFour_iff,ne_eq,ne_eq,← addressBits_inj,← addressBits_inj,
    localhost_bits,unspecified_bits,isPublicIpv4_iff,isPublicIpv4_iff,← extracted_lowest,← extracted_sixToFour]
  constructor
  · intro spec
    refine ⟨spec.distant,spec.specified,spec.unreserved,?_,spec.sixToFour⟩
    intro inside
    obtain ⟨block,member,contains⟩ := inside
    exact spec.embedded block member contains
  · intro spec
    obtain ⟨distant,specified,unreserved,embedded,relay⟩ := spec
    refine ⟨specified,distant,unreserved,?_,relay⟩
    intro block member contains
    exact embedded ⟨block,member,contains⟩

/-- The order of the tests does not matter: what one of them answers, no later one would refuse. -/
theorem isPublicIpv6_iff (addr : Ipv6Addr) :
    isPublicIpv6 addr false .strict = true ↔ GlobalV6 (addressBits addr) := by
  rw [globalV6_iff]
  unfold isPublicIpv6 Ipv6Addr.toIpv4Mapped nat64WellKnownEmbeddedV4
  by_cases localhost : addr = Ipv6Addr.localhost
  · simp [localhost]
  by_cases unspecified : addr = Ipv6Addr.unspecified
  · simp [unspecified]
  by_cases mapped : addr.segments.toList.take 6 = [0,0,0,0,0,0xffff]
  · have head := leading_head addr 0 _ mapped
    simp [localhost,unspecified,mapped,head]
  by_cases compatible : addr.segments.toList.take 6 = [0,0,0,0,0,0]
  · have head := leading_head addr 0 _ compatible
    simp [localhost,unspecified,compatible,head]
  by_cases linkLocal : addr.segment 0 &&& 0xffc0 = 0xfe80
  · simp [localhost,unspecified,mapped,compatible,linkLocal]
  by_cases uniqueLocal : addr.segment 0 &&& 0xfe00 = 0xfc00
  · simp [localhost,unspecified,mapped,compatible,linkLocal,uniqueLocal]
  by_cases multicast : addr.segment 0 &&& 0xff00 = 0xff00
  · simp [localhost,unspecified,mapped,compatible,linkLocal,uniqueLocal,multicast]
  by_cases relay : addr.segment 0 = 0x2002
  · have distinct : ¬addr.segments.toList.take 6 = [0x64,0xff9b,0,0,0,0] := by
      intro wellKnown
      have head := leading_head addr 0x64 _ wellKnown
      rw [relay] at head
      exact absurd head (by decide)
    simp [localhost,unspecified,mapped,compatible,relay,distinct,and_assoc]
  by_cases wellKnown : addr.segments.toList.take 6 = [0x64,0xff9b,0,0,0,0]
  · simp [localhost,unspecified,wellKnown,linkLocal,uniqueLocal,multicast,relay]
  · simp [localhost,unspecified,mapped,compatible,linkLocal,uniqueLocal,multicast,relay,wellKnown,
      Nat64Policy.embeddedV4,Nat64Policy.strict]

/-- Without loopback and operator prefixes, an address is public exactly where its number is global. -/
theorem isPublicAddress_global (address : String) (ip : IpAddr) (read : IpText.parseIp address = some ip) :
    isPublicAddress address false = true ↔ GlobalIp ip := by
  unfold isPublicAddress
  rw [isPublicAddress_parsed address ip false .strict read]
  cases ip with
  | v4 addr => exact isPublicIpv4_iff addr
  | v6 addr => exact isPublicIpv6_iff addr

theorem isPublicAddress_sixToFour : isPublicAddress "2002:a00:1::" false = true ↔
    GlobalIp (.v6 (.ofList [0x2002,0xa00,1])) :=
  isPublicAddress_global "2002:a00:1::" _ (by decide +kernel)

end SolidOidcVerifier
