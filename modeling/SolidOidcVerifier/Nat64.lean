import SolidOidcVerifier.AddressClasses

/-! The prefixes that an operator configures: which addresses fall under them, what they embed and what a
policy of them refuses. -/
namespace SolidOidcVerifier
open Foundation

theorem maskSegments_spent (words : List UInt16) : maskSegments 0 words = List.replicate words.length 0 := by
  induction words with
  | nil => rfl
  | cons word rest ih =>
    unfold maskSegments
    rw [if_neg (by decide),if_pos (by decide),ih,List.length_cons,List.replicate_succ]

theorem maskSegments_length (words : List UInt16) (len : Int) : (maskSegments len words).length = words.length := by
  induction words generalizing len with
  | nil => rfl
  | cons word rest ih =>
    unfold maskSegments
    split_ifs <;> simp [ih]

theorem leadingMask_toNat (len : Nat) (some : 0 < len) (partly : len < 16) :
    ((0xffff : UInt16) <<< UInt16.ofNat (16-len)).toNat = 2^16-2^(16-len) := by
  interval_cases len <;> rfl

theorem masked_eq_iff (left right : UInt16) (len : Nat) (some : 0 < len) (partly : len < 16) :
    left &&& (0xffff <<< UInt16.ofNat (16-len)) = right &&& (0xffff <<< UInt16.ofNat (16-len)) ↔
      left.toNat/2^(16-len) = right.toNat/2^(16-len) := by
  rw [← UInt16.toNat_inj,UInt16.toNat_and,UInt16.toNat_and,leadingMask_toNat len some partly,
    and_high_mask 16 (16-len) _ left.toNat_lt (by omega),and_high_mask 16 (16-len) _ right.toNat_lt (by omega)]
  exact Nat.mul_left_inj (Nat.two_pow_pos _).ne'

theorem maskSegments_eq_iff (left right : List UInt16) (len : Nat) (same : left.length = right.length)
    (short : len ≤ 16*left.length) :
    maskSegments len left = maskSegments len right ↔
      wordsNumber left/2^(16*left.length-len) = wordsNumber right/2^(16*left.length-len) := by
  induction left generalizing right len with
  | nil =>
    have empty : right = [] := List.length_eq_zero_iff.mp same.symm
    rw [empty]
    simp
  | cons word rest ih =>
    obtain ⟨other,tail,rfl⟩ := List.exists_cons_of_length_eq_add_one same.symm
    rw [List.length_cons,List.length_cons] at same
    rw [List.length_cons] at short
    have lengths : rest.length = tail.length := by omega
    have restSmall := wordsNumber_lt rest
    have tailSmall := wordsNumber_lt tail
    rw [← lengths] at tailSmall
    unfold maskSegments wordsNumber
    rw [List.length_cons,← lengths]
    by_cases full : 16 ≤ len
    · have enough : (16 : Int) ≤ len := by omega
      have left : (len : Int)-16 = (len-16 : Nat) := by omega
      have low : 16*(rest.length+1)-len = 16*rest.length-(len-16) := by omega
      rw [if_pos enough,if_pos enough,left,List.cons.injEq,ih tail (len-16) lengths (by omega),low,
        leading_cons _ _ _ _ _ _ (by omega) restSmall tailSmall,UInt16.toNat_inj]
    · have scarce : ¬(16 : Int) ≤ len := by omega
      rw [if_neg scarce,if_neg scarce]
      by_cases spent : len = 0
      · have first := wordsNumber_lt (word :: rest)
        have second := wordsNumber_lt (other :: tail)
        unfold wordsNumber at first second
        rw [List.length_cons] at first second
        rw [← lengths] at second
        subst spent
        simp only [Nat.cast_zero,le_refl,if_true,maskSegments_spent,lengths,Nat.sub_zero]
        rw [← lengths,Nat.div_eq_of_lt first,Nat.div_eq_of_lt second]
        simp
      · have some : ¬(len : Int) ≤ 0 := by omega
        have low : 16*(rest.length+1)-len = 16*rest.length+(16-len) := by omega
        have front : ∀ head back : Nat, back < 2^(16*rest.length) →
            (head*2^(16*rest.length)+back)/2^(16*rest.length+(16-len)) = head/2^(16-len) := by
          intro head back small
          rw [pow_add,← Nat.div_div_eq_div_mul,Nat.mul_comm head,Nat.mul_add_div (Nat.two_pow_pos _),
            Nat.div_eq_of_lt small,Nat.add_zero]
        rw [if_neg some,if_neg some,maskSegments_spent,maskSegments_spent,lengths,← lengths,List.cons.injEq,
          Int.toNat_natCast,masked_eq_iff _ _ len (by omega) (by omega),low,front _ _ restSmall,
          front _ _ tailSmall]
        simp

def Nat64Nsp.block (nsp : Nat64Nsp) : Cidr 128 := v6Block nsp.masked nsp.prefixLen

def Nat64Nsp.Covers (nsp : Nat64Nsp) (addr : Ipv6Addr) : Prop := nsp.block.Contains (addressBits addr)

instance (nsp : Nat64Nsp) (addr : Ipv6Addr) : Decidable (nsp.Covers addr) :=
  inferInstanceAs (Decidable (nsp.block.Contains (addressBits addr)))

theorem validLengths_le (len : Nat) (valid : len ∈ validLengths) : len ≤ 96 := by
  have all : ∀ len ∈ validLengths, len ≤ 96 := by decide
  exact all len valid

theorem wordsNumber_segments (addr : Ipv6Addr) : wordsNumber addr.segments.toList = (addressBits addr).toNat := by
  rw [addressBits_toNat,Ipv6Addr.segments_toList]
  simp only [wordsNumber,List.length_cons,List.length_nil]
  omega

theorem ofList_toList (words : List UInt16) (full : words.length = 8) :
    (Ipv6Addr.ofList words).segments.toList = words := by
  apply List.ext_getElem (by simp [full])
  intro i inside bounded
  simp [Ipv6Addr.ofList,bounded]

theorem maskSegments_idem (words : List UInt16) (len : Int) :
    maskSegments len (maskSegments len words) = maskSegments len words := by
  induction words generalizing len with
  | nil => rfl
  | cons word rest ih =>
    by_cases full : 16 ≤ len
    · simp [maskSegments,full,ih]
    · by_cases spent : len ≤ 0
      · simp [maskSegments,full,spent,ih]
      · simp [maskSegments,full,spent,ih,UInt16.and_assoc]

theorem Nat64Nsp.masked_length (nsp : Nat64Nsp) : nsp.masked.length = 8 := by
  obtain ⟨base,same⟩ := nsp.exact
  rw [same,maskSegments_length]
  simp

theorem masked_covers (nsp : Nat64Nsp) (addr : Ipv6Addr) :
    maskSegments nsp.prefixLen addr.segments.toList = nsp.masked ↔ nsp.Covers addr := by
  have short := validLengths_le _ nsp.valid
  have again : maskSegments nsp.prefixLen nsp.masked = nsp.masked := by
    obtain ⟨base,same⟩ := nsp.exact
    rw [same,maskSegments_idem]
  have words : addr.segments.toList.length = 8 := by simp
  have base : wordsNumber nsp.masked = (addressBits (.ofList nsp.masked)).toNat := by
    rw [← wordsNumber_segments,ofList_toList _ nsp.masked_length]
  unfold Nat64Nsp.Covers Nat64Nsp.block
  rw [v6Block_contains _ _ _ addr (by omega) base.symm]
  conv_lhs => rw [← again]
  rw [maskSegments_eq_iff _ _ _ (by rw [words,nsp.masked_length]) (by omega),words,wordsNumber_segments]

theorem Nat64Nsp.embeddedV4_some (nsp : Nat64Nsp) (addr : Ipv6Addr) (v4 : Ipv4Addr) :
    nsp.embeddedV4 addr = some v4 ↔ nsp.Covers addr ∧ v4 = decodeEmbeddedV4 addr nsp.prefixLen := by
  unfold Nat64Nsp.embeddedV4
  rw [Option.ite_none_right_eq_some,masked_covers,Option.some.injEq]
  exact and_congr_right (fun _ => eq_comm)

/-- Where the bit `i` of an embedded IPv4 address lies behind a prefix; the bits 64 to 71 are left out. -/
def embeddedPosition (len i : Nat) : Nat :=
  if 64 ≤ len ∧ len < 72 then 72+i else if 72 ≤ len ∨ len+i < 64 then len+i else len+i+8

theorem embeddedPosition_zero (pos : Nat) :
    embeddedPosition pos 0 = if 64 ≤ pos ∧ pos < 72 then 72 else pos := by
  unfold embeddedPosition
  split_ifs <;> omega

theorem embeddedPosition_succ (pos i : Nat) :
    embeddedPosition pos (i+1) = embeddedPosition (embeddedPosition pos 0+1) i := by
  rw [embeddedPosition_zero]
  unfold embeddedPosition
  split_ifs <;> omega

theorem embeddedPosition_mono (pos i : Nat) : embeddedPosition pos 0 ≤ embeddedPosition pos i := by
  unfold embeddedPosition
  split_ifs <;> omega

theorem decodeBits_pass (bits : BitVec 128) (pos : Nat) (v4 : BitVec 32) (j : Nat) (inside : pos < 128)
    (small : j < 32) : ((v4 <<< 1) ||| ((bits >>> (127-pos)) &&& 1).setWidth 32).getLsbD j =
      if j = 0 then bits.getMsbD pos else v4.getLsbD (j-1) := by
  cases j with
  | zero => simp [BitVec.getMsbD_eq_getLsbD,inside]
  | succ j =>
    have inner : j < 32 := by omega
    simp [small,BitVec.getLsbD_eq_getElem inner]

theorem decodeBits_bit (bits : BitVec 128) (left pos : Nat) (v4 : BitVec 32) (j : Nat)
    (inside : left ≠ 0 → embeddedPosition pos (left-1) < 128) (small : j < 32) :
    (decodeBits bits left pos v4).getLsbD j =
      if j < left then bits.getMsbD (embeddedPosition pos (left-1-j)) else v4.getLsbD (j-left) := by
  induction left generalizing pos v4 with
  | zero => simp [decodeBits]
  | succ left ih =>
    have last := inside (by omega)
    rw [Nat.add_sub_cancel] at last
    have first := (embeddedPosition_mono pos left).trans_lt last
    have onward : left ≠ 0 → embeddedPosition (embeddedPosition pos 0+1) (left-1) < 128 := by
      intro more
      rw [← embeddedPosition_succ,Nat.sub_add_cancel (by omega)]
      exact last
    unfold decodeBits
    rw [← embeddedPosition_zero]
    dsimp only
    rw [ih _ _ onward]
    by_cases later : j < left
    · have place : left+1-1-j = left-1-j+1 := by omega
      rw [if_pos later,if_pos (by omega),place,embeddedPosition_succ]
    · rw [if_neg later,decodeBits_pass _ _ _ _ first (by omega)]
      by_cases now : j = left
      · rw [if_pos (by omega),if_pos (by omega)]
        congr 2
        omega
      · rw [if_neg (by omega),if_neg (by omega)]
        congr 1

theorem ofBits_bits (bits : BitVec 32) : ipv4Bits (.ofBits bits) = bits := by
  apply BitVec.eq_of_toNat_eq
  rw [ipv4Bits_toNat]
  unfold ipv4Number Ipv4Addr.ofBits
  simp only [UInt8.toNat_ofBitVec,BitVec.extractLsb'_toNat,Nat.shiftRight_eq_div_pow]
  have bound := bits.isLt
  omega

theorem decodeEmbeddedV4_bit (addr : Ipv6Addr) (len i : Nat) (valid : len ∈ validLengths) (small : i < 32) :
    (ipv4Bits (decodeEmbeddedV4 addr len)).getMsbD i = (addressBits addr).getMsbD (embeddedPosition len i) := by
  have inside : embeddedPosition len 31 < 128 := by
    have all : ∀ len ∈ validLengths, embeddedPosition len 31 < 128 := by decide
    exact all len valid
  unfold decodeEmbeddedV4
  rw [ofBits_bits,BitVec.getMsbD_eq_getLsbD,decide_eq_true small,Bool.true_and,
    decodeBits_bit _ _ _ _ _ (fun _ => inside) (by omega),if_pos (by omega)]
  congr 2
  omega

/-- The first prefix of the list that the address falls under, if there is one, embeds a public IPv4
address. -/
def FirstPublic (policy : Nat64Policy) (addr : Ipv6Addr) (allowLoopback : Bool) : Prop :=
  ∀ nsp, policy.nsps.find? (fun nsp => nsp.Covers addr) = some nsp →
    isPublicIpv4 (decodeEmbeddedV4 addr nsp.prefixLen) allowLoopback = true

/-- The ranges with an embedded IPv4 address of their own: `::/96` with `::` and `::1`, `::ffff:0:0/96`,
`64:ff9b::/96` and `2002::/16`. -/
def FixedRange (addr : Ipv6Addr) : Prop :=
  ∃ block ∈ sixToFour :: embeddingV6, block.Contains (addressBits addr)

theorem policy_embeddedV4 (policy : Nat64Policy) (addr : Ipv6Addr) : policy.embeddedV4 addr =
    (policy.nsps.find? (fun nsp => nsp.Covers addr)).map (fun nsp => decodeEmbeddedV4 addr nsp.prefixLen) := by
  unfold Nat64Policy.embeddedV4
  induction policy.nsps with
  | nil => rfl
  | cons first rest ih =>
    rw [List.findSome?_cons]
    by_cases covered : first.Covers addr
    · rw [(first.embeddedV4_some addr _).mpr ⟨covered,rfl⟩,List.find?_cons_of_pos (by simpa using covered)]
      rfl
    · have outside : first.embeddedV4 addr = none := by
        rw [Option.eq_none_iff_forall_ne_some]
        intro v4 found
        exact covered ((first.embeddedV4_some addr v4).mp found).1
      rw [outside,List.find?_cons_of_neg (by simpa using covered)]
      exact ih

theorem fixedRange_iff (addr : Ipv6Addr) : FixedRange addr ↔
    addr.segment 0 = 0x2002 ∨ addr.segments.toList.take 6 = [0,0,0,0,0,0xffff] ∨
      addr.segments.toList.take 6 = [0,0,0,0,0,0] ∨ addr.segments.toList.take 6 = [0x64,0xff9b,0,0,0,0] := by
  unfold FixedRange
  simp only [List.mem_cons,exists_eq_or_imp]
  rw [sixToFour_iff,embedding_iff]

theorem isPublicIpv6_fixed (addr : Ipv6Addr) (allowLoopback : Bool) (policy : Nat64Policy)
    (fixed : FixedRange addr) :
    isPublicIpv6 addr allowLoopback policy = isPublicIpv6 addr allowLoopback .strict := by
  unfold isPublicIpv6 Ipv6Addr.toIpv4Mapped nat64WellKnownEmbeddedV4
  obtain relay | mapped | compatible | wellKnown := (fixedRange_iff addr).mp fixed
  · simp [relay]
  · simp [mapped]
  · simp [compatible]
  · simp [wellKnown]

theorem isPublicIpv6_policy (addr : Ipv6Addr) (allowLoopback : Bool) (policy : Nat64Policy) :
    isPublicIpv6 addr allowLoopback policy = true ↔ isPublicIpv6 addr allowLoopback .strict = true ∧
      (¬FixedRange addr → FirstPublic policy addr allowLoopback) := by
  by_cases fixed : FixedRange addr
  · rw [isPublicIpv6_fixed addr allowLoopback policy fixed]
    simp [fixed]
  · have outside := mt (fixedRange_iff addr).mpr fixed
    simp only [not_or] at outside
    obtain ⟨relay,mapped,compatible,wellKnown⟩ := outside
    have localhost : addr ≠ Ipv6Addr.localhost := by
      intro same
      exact compatible (by rw [same]; decide)
    have unspecified : addr ≠ Ipv6Addr.unspecified := by
      intro same
      exact compatible (by rw [same]; decide)
    unfold isPublicIpv6 Ipv6Addr.toIpv4Mapped nat64WellKnownEmbeddedV4 FirstPublic
    rw [policy_embeddedV4]
    by_cases reserved : addr.segment 0 &&& 0xffc0 = 0xfe80 ∨ addr.segment 0 &&& 0xfe00 = 0xfc00 ∨
        addr.segment 0 &&& 0xff00 = 0xff00
    · obtain linkLocal | uniqueLocal | multicast := reserved
      · simp [localhost,unspecified,mapped,compatible,linkLocal]
      · simp [localhost,unspecified,mapped,compatible,uniqueLocal]
      · simp [localhost,unspecified,mapped,compatible,multicast]
    · simp only [not_or] at reserved
      cases policy.nsps.find? (fun nsp => nsp.Covers addr) with
      | none =>
        simp [localhost,unspecified,mapped,compatible,relay,wellKnown,reserved,Nat64Policy.embeddedV4,
          Nat64Policy.strict]
      | some nsp =>
        simp [localhost,unspecified,mapped,compatible,relay,wellKnown,reserved,fixed,Nat64Policy.embeddedV4,
          Nat64Policy.strict]

/-- A prefix stands in the way of none behind it that covers the address, too. -/
theorem firstPublic_without (before after : List Nat64Nsp) (nsp : Nat64Nsp) (addr : Ipv6Addr)
    (allowLoopback : Bool) (alone : nsp.Covers addr → ∀ later ∈ after, ¬later.Covers addr)
    (checked : FirstPublic ⟨before ++ nsp :: after⟩ addr allowLoopback) :
    FirstPublic ⟨before ++ after⟩ addr allowLoopback := by
  intro found first
  apply checked found
  dsimp only at first ⊢
  rw [List.find?_append] at first ⊢
  cases earlier : before.find? (fun nsp => nsp.Covers addr) with
  | some other =>
    rw [earlier] at first
    exact first
  | none =>
    rw [earlier,Option.none_or] at first
    rw [Option.none_or,List.find?_cons_of_neg]
    · exact first
    · intro covered
      have member := List.mem_of_find?_eq_some first
      have covers := List.find?_some first
      exact alone (by simpa using covered) found member (by simpa using covers)

/-- What a policy refuses beyond the strict one: the private embeddings under the first prefix that an address
falls under, outside the ranges with an embedding of their own. -/
theorem nsp_verdict (policy : Nat64Policy) (address : String) (addr : Ipv6Addr) (allowLoopback : Bool)
    (read : IpText.parseIp address = some (.v6 addr)) :
    (isPublicAddressWithNat64 address allowLoopback policy = true ↔
      isPublicAddress address allowLoopback = true ∧ (¬FixedRange addr → FirstPublic policy addr allowLoopback)) ∧
    (∀ before nsp after, policy.nsps = before ++ nsp :: after →
      (nsp.Covers addr → ∀ later ∈ after, ¬later.Covers addr) →
      isPublicAddressWithNat64 address allowLoopback policy = true →
        isPublicAddressWithNat64 address allowLoopback ⟨before ++ after⟩ = true) ∧
    ((∀ nsp ∈ policy.nsps, ¬nsp.Covers addr) →
      isPublicAddressWithNat64 address allowLoopback policy = isPublicAddress address allowLoopback) := by
  have verdict : ∀ policy, isPublicAddressWithNat64 address allowLoopback policy = true ↔
      isPublicAddress address allowLoopback = true ∧
        (¬FixedRange addr → FirstPublic policy addr allowLoopback) := by
    intro policy
    unfold isPublicAddress
    rw [isPublicAddress_parsed address _ allowLoopback policy read,
      isPublicAddress_parsed address _ allowLoopback .strict read]
    exact isPublicIpv6_policy addr allowLoopback policy
  refine ⟨verdict policy,?_,?_⟩
  · intro before nsp after listed alone accepted
    obtain ⟨strict,embedded⟩ := (verdict policy).mp accepted
    refine (verdict _).mpr ⟨strict,?_⟩
    intro ordinary
    have checked := embedded ordinary
    unfold FirstPublic at checked
    rw [listed] at checked
    exact firstPublic_without before after nsp addr allowLoopback alone checked
  · intro outside
    have nothing : FirstPublic policy addr allowLoopback := by
      intro nsp first
      have covers := List.find?_some first
      exact absurd (by simpa using covers) (outside nsp (List.mem_of_find?_eq_some first))
    rw [Bool.eq_iff_iff,verdict policy]
    exact and_iff_left (fun _ => nothing)

/-- `2001:db8:808:808::a00:1` embeds `8.8.8.8` behind 32 bits and `10.0.0.1` behind 96. -/
def nestedAddr : Ipv6Addr := .ofList [0x2001,0xdb8,0x808,0x808,0,0,0xa00,1]

def nestedNsp (len : Nat) (valid : len ∈ validLengths) : Nat64Nsp :=
  ⟨maskSegments len nestedAddr.segments.toList,len,valid,nestedAddr,rfl⟩

theorem nested_read : IpText.parseIp "2001:db8:808:808::a00:1" = some (.v6 nestedAddr) := by decide +kernel

def outsideAddr : Ipv6Addr := .ofList [0x2001,0xdb9,0,0,0,0,0,1]

theorem outside_read : IpText.parseIp "2001:db9::1" = some (.v6 outsideAddr) := by decide +kernel

theorem nsp_verdict_nested :
    (isPublicAddressWithNat64 "2001:db8:808:808::a00:1" false
        ⟨[nestedNsp 32 (by decide),nestedNsp 96 (by decide)]⟩ = true ↔
      isPublicAddress "2001:db8:808:808::a00:1" false = true ∧ (¬FixedRange nestedAddr →
        FirstPublic ⟨[nestedNsp 32 (by decide),nestedNsp 96 (by decide)]⟩ nestedAddr false)) ∧
    isPublicAddressWithNat64 "2001:db8:808:808::a00:1" false ⟨[nestedNsp 32 (by decide)]⟩ = true ∧
    isPublicAddressWithNat64 "2001:db9::1" false ⟨[nestedNsp 32 (by decide),nestedNsp 96 (by decide)]⟩ =
      isPublicAddress "2001:db9::1" false := by
  have accepted : isPublicAddressWithNat64 "2001:db8:808:808::a00:1" false
      ⟨[nestedNsp 32 (by decide),nestedNsp 96 (by decide)]⟩ = true := by decide +kernel
  have outside : ∀ nsp ∈ [nestedNsp 32 (by decide),nestedNsp 96 (by decide)], ¬nsp.Covers outsideAddr := by
    decide +kernel
  obtain ⟨verdict,without,_⟩ := nsp_verdict ⟨[nestedNsp 32 (by decide),nestedNsp 96 (by decide)]⟩ _ nestedAddr false
    nested_read
  obtain ⟨_,_,same⟩ := nsp_verdict ⟨[nestedNsp 32 (by decide),nestedNsp 96 (by decide)]⟩ _ outsideAddr false
    outside_read
  refine ⟨verdict,without [nestedNsp 32 (by decide)] (nestedNsp 96 (by decide)) [] rfl ?_ accepted,same outside⟩
  intro covered later member
  cases member

/-- A wide prefix in front of a nested one hides the private address that the nested one embeds. -/
theorem wide_prefix_shadows :
    Nat64Nsp.new nestedAddr 32 = .ok (nestedNsp 32 (by decide)) ∧
      Nat64Nsp.new nestedAddr 96 = .ok (nestedNsp 96 (by decide)) ∧
      (nestedNsp 96 (by decide)).embeddedV4 nestedAddr = some ⟨10,0,0,1⟩ ∧
      isPublicIpv4 ⟨10,0,0,1⟩ false = false ∧
      isPublicAddressWithNat64 "2001:db8:808:808::a00:1" false ⟨[nestedNsp 96 (by decide)]⟩ = false ∧
      isPublicAddressWithNat64 "2001:db8:808:808::a00:1" false
        ⟨[nestedNsp 32 (by decide),nestedNsp 96 (by decide)]⟩ = true := by
  refine ⟨dif_pos (by decide),dif_pos (by decide),?_,by decide,?_,?_⟩
  · decide +kernel
  · decide +kernel
  · decide +kernel

end SolidOidcVerifier
