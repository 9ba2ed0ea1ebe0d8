import SolidOidcVerifier.Nat64

/-! What a configured prefix decodes: the thirty-two bits behind it, read by a loop that ends within the
address. -/
namespace SolidOidcVerifier
open Foundation

/-- `Ipv6Addr::from` of a `u128`. -/
def ipv6OfBits (bits : BitVec 128) : Ipv6Addr :=
  .ofList [.ofBitVec (bits.extractLsb' 112 16),.ofBitVec (bits.extractLsb' 96 16),
    .ofBitVec (bits.extractLsb' 80 16),.ofBitVec (bits.extractLsb' 64 16),.ofBitVec (bits.extractLsb' 48 16),
    .ofBitVec (bits.extractLsb' 32 16),.ofBitVec (bits.extractLsb' 16 16),.ofBitVec (bits.extractLsb' 0 16)]

/-- The first thirty-two positions from the prefix on, the bits 64 to 71 left out. -/
def embeddedPositions (len : Nat) : List Nat :=
  ((List.range 128).filter (fun pos => len ≤ pos ∧ ¬(64 ≤ pos ∧ pos < 72))).take 32

def embeddingBit (base rest : Ipv6Addr) (len : Nat) (v4 : Ipv4Addr) (pos : Nat) : Bool :=
  if pos < len then (addressBits base).getMsbD pos
  else match (embeddedPositions len).idxOf? pos with
    | some i => (ipv4Bits v4).getMsbD i
    | none => (addressBits rest).getMsbD pos

/-- The embedding of an IPv4 address behind a prefix; `rest` fills what neither of them takes. -/
def embedNat64 (base rest : Ipv6Addr) (len : Nat) (v4 : Ipv4Addr) : Ipv6Addr :=
  ipv6OfBits (BitVec.ofFnBE fun pos => embeddingBit base rest len v4 pos)

structure DecodeState where
  taken : Nat
  pos : Nat
  v4 : BitVec 32

/-- The loop of `decode_embedded_v4` as it stands, one iteration a unit of fuel. `none` is the overflow of
`127 - pos`, or a loop that runs on. -/
def decodeLoop (bits : BitVec 128) : (fuel : Nat) → DecodeState → Option DecodeState
  | fuel,state =>
    if 32 ≤ state.taken then some state
    else match fuel with
      | 0 => none
      | fuel+1 =>
        if 64 ≤ state.pos ∧ state.pos < 72 then decodeLoop bits fuel { state with pos := 72 }
        else if 127 < state.pos then none
        else decodeLoop bits fuel ⟨state.taken+1,state.pos+1,
          (state.v4 <<< 1) ||| ((bits >>> (127-state.pos)) &&& 1).setWidth 32⟩

/-- The text writes the prefix and its length. -/
def CidrNames (cidr : String) (base : Ipv6Addr) (len : Nat) : Prop :=
  ∃ addrStr lenStr, Text.splitOnce '/' cidr.toList = some (addrStr,lenStr) ∧
    IpText.parseIpv6 (String.ofList (Text.trim addrStr)) = some base ∧ parseU8 (Text.trim lenStr) = some len

inductive Nat64Nsp.BuiltFrom (nsp : Nat64Nsp) (base : Ipv6Addr) (len : Nat) : Prop
  | new (built : Nat64Nsp.new base len = .ok nsp)
  | parse (cidr : String) (names : CidrNames cidr base len) (parsed : Nat64Nsp.parse cidr = .ok nsp)

theorem ipv6OfBits_bits (bits : BitVec 128) : addressBits (ipv6OfBits bits) = bits := by
  have digit : ∀ count rest, rest.length = count → wordsNumber rest = bits.toNat % 2^(16*count) →
      wordsNumber (.ofBitVec (bits.extractLsb' (16*count) 16) :: rest) = bits.toNat % 2^(16*(count+1)) := by
    intro count rest behind low
    apply wordsNumber_digit _ count _ rest behind _ low
    rw [UInt16.toNat_ofBitVec,BitVec.extractLsb'_toNat,Nat.shiftRight_eq_div_pow]
  have none : wordsNumber [] = bits.toNat % 2^(16*0) := (Nat.mod_one _).symm
  apply BitVec.eq_of_toNat_eq
  rw [← wordsNumber_segments]
  unfold ipv6OfBits
  rw [ofList_toList _ rfl,← Nat.mod_eq_of_lt bits.isLt]
  exact digit 7 _ rfl (digit 6 _ rfl (digit 5 _ rfl (digit 4 _ rfl (digit 3 _ rfl (digit 2 _ rfl (digit 1 _ rfl
    (digit 0 [] rfl none)))))))

theorem embedNat64_bit (base rest : Ipv6Addr) (len : Nat) (v4 : Ipv4Addr) (pos : Nat) (inside : pos < 128) :
    (addressBits (embedNat64 base rest len v4)).getMsbD pos = embeddingBit base rest len v4 pos := by
  unfold embedNat64
  rw [ipv6OfBits_bits,BitVec.getMsbD_ofFnBE,dif_pos inside]

theorem embeddedPositions_eq (len : Nat) (valid : len ∈ validLengths) :
    embeddedPositions len = (List.range 32).map (embeddedPosition len) := by
  have all : ∀ len ∈ validLengths, embeddedPositions len = (List.range 32).map (embeddedPosition len) := by
    decide +kernel
  exact all len valid

theorem embeddedPosition_index (len i : Nat) (valid : len ∈ validLengths) (small : i < 32) :
    (embeddedPositions len).idxOf? (embeddedPosition len i) = some i := by
  have all : ∀ len ∈ validLengths, ∀ i < 32,
      (embeddedPositions len).idxOf? (embeddedPosition len i) = some i := by decide +kernel
  exact all len valid i small

theorem embeddedPosition_behind (len i : Nat) : len ≤ embeddedPosition len i := by
  unfold embeddedPosition
  split_ifs <;> omega

theorem embeddedPosition_inside (len i : Nat) (valid : len ∈ validLengths) (small : i < 32) :
    embeddedPosition len i < 128 := by
  have all : ∀ len ∈ validLengths, ∀ i < 32, embeddedPosition len i < 128 := by decide
  exact all len valid i small

theorem nsp_ext (left right : Nat64Nsp) (length : left.prefixLen = right.prefixLen)
    (masked : left.masked = right.masked) : left = right := by
  cases left
  cases right
  cases length
  cases masked
  rfl

theorem nsp_new (base : Ipv6Addr) (len : Nat) (nsp : Nat64Nsp) : Nat64Nsp.new base len = .ok nsp ↔
    len ∈ validLengths ∧ nsp.prefixLen = len ∧ nsp.masked = maskSegments len base.segments.toList := by
  unfold Nat64Nsp.new
  by_cases valid : len ∈ validLengths
  · rw [dif_pos valid,Except.ok.injEq]
    constructor
    · intro same
      rw [← same]
      exact ⟨valid,rfl,rfl⟩
    · intro fields
      obtain ⟨_,rfl,masked⟩ := fields
      exact nsp_ext _ nsp rfl masked.symm
  · rw [dif_neg valid]
    simp [valid]

theorem nsp_parse (cidr : String) (nsp : Nat64Nsp) : Nat64Nsp.parse cidr = .ok nsp ↔
    ∃ base len, CidrNames cidr base len ∧ Nat64Nsp.new base len = .ok nsp := by
  unfold Nat64Nsp.parse CidrNames
  simp only [Except.bind_ok,Except.orError_ok,Prod.exists]
  constructor
  · intro parsed
    obtain ⟨addrStr,lenStr,split,len,number,base,address,built⟩ := parsed
    exact ⟨base,len,⟨addrStr,lenStr,split,address,number⟩,built⟩
  · intro named
    obtain ⟨base,len,⟨addrStr,lenStr,split,address,number⟩,built⟩ := named
    exact ⟨addrStr,lenStr,split,len,number,base,address,built⟩

theorem cidrNames_unique (cidr : String) (base other : Ipv6Addr) (len length : Nat)
    (names : CidrNames cidr base len) (again : CidrNames cidr other length) : base = other ∧ len = length := by
  obtain ⟨addrStr,lenStr,split,address,number⟩ := names
  obtain ⟨_,_,split',address',number'⟩ := again
  rw [split] at split'
  cases split'
  rw [address] at address'
  rw [number] at number'
  cases address'
  cases number'
  exact ⟨rfl,rfl⟩

theorem Nat64Nsp.BuiltFrom.new_ok {nsp : Nat64Nsp} {base : Ipv6Addr} {len : Nat}
    (built : nsp.BuiltFrom base len) : Nat64Nsp.new base len = .ok nsp := by
  cases built with
  | new built => exact built
  | parse cidr names parsed =>
    obtain ⟨other,length,again,made⟩ := (nsp_parse cidr nsp).mp parsed
    obtain ⟨rfl,rfl⟩ := cidrNames_unique cidr _ _ _ _ names again
    exact made

theorem nsp_parse_builtFrom (cidr : String) (nsp : Nat64Nsp) (parsed : Nat64Nsp.parse cidr = .ok nsp) :
    ∃ base len, nsp.BuiltFrom base len := by
  obtain ⟨base,len,names,_⟩ := (nsp_parse cidr nsp).mp parsed
  exact ⟨base,len,.parse cidr names parsed⟩

theorem maskSegments_leading (left right : Ipv6Addr) (len : Nat) (short : len ≤ 128) :
    maskSegments len left.segments.toList = maskSegments len right.segments.toList ↔
      ∀ i < len, (addressBits left).getMsbD i = (addressBits right).getMsbD i := by
  have block := Cidr.contains_iff ⟨addressBits right,len⟩ (addressBits left) short
  unfold Cidr.Contains at block
  rw [block,maskSegments_eq_iff _ _ _ (by simp) (by simpa using short),wordsNumber_segments,wordsNumber_segments]
  simp

theorem decodeLoop_read (bits : BitVec 128) (fuel : Nat) (state : DecodeState) (more : state.taken < 32)
    (plain : ¬(64 ≤ state.pos ∧ state.pos < 72)) (inside : state.pos < 128) :
    decodeLoop bits (fuel+1) state = decodeLoop bits fuel ⟨state.taken+1,state.pos+1,
      (state.v4 <<< 1) ||| ((bits >>> (127-state.pos)) &&& 1).setWidth 32⟩ := by
  conv_lhs => unfold decodeLoop
  rw [if_neg (by omega)]
  simp only
  rw [if_neg plain,if_neg (by omega)]

theorem decodeLoop_skip (bits : BitVec 128) (fuel : Nat) (state : DecodeState) (more : state.taken < 32)
    (reserved : 64 ≤ state.pos ∧ state.pos < 72) :
    decodeLoop bits (fuel+1) state = decodeLoop bits fuel { state with pos := 72 } := by
  conv_lhs => unfold decodeLoop
  rw [if_neg (by omega)]
  simp only
  rw [if_pos reserved]

/-- With room for the skip, the loop takes the bits that are left. -/
theorem decodeLoop_ends (bits : BitVec 128) (left pos fuel : Nat) (v4 : BitVec 32) (few : left ≤ 32)
    (inside : left ≠ 0 → embeddedPosition pos (left-1) < 128)
    (enough : left+(if pos < 72 then 1 else 0) ≤ fuel) :
    ∃ last, decodeLoop bits fuel ⟨32-left,pos,v4⟩ = some ⟨32,last,decodeBits bits left pos v4⟩ := by
  induction left generalizing pos fuel v4 with
  | zero =>
    refine ⟨pos,?_⟩
    unfold decodeLoop
    rw [if_pos (by simp)]
    rfl
  | succ left ih =>
    have last := inside (by omega)
    rw [Nat.add_sub_cancel] at last
    have first := (embeddedPosition_mono pos left).trans_lt last
    have onward : left ≠ 0 → embeddedPosition (embeddedPosition pos 0+1) (left-1) < 128 := by
      intro more
      rw [← embeddedPosition_succ,Nat.sub_add_cancel (by omega)]
      exact last
    have taken : 32-(left+1)+1 = 32-left := by omega
    rw [embeddedPosition_zero] at first onward
    unfold decodeBits
    dsimp only
    by_cases reserved : 64 ≤ pos ∧ pos < 72
    · rw [if_pos reserved] at first onward ⊢
      rw [if_pos reserved.2] at enough
      obtain ⟨fuel,rfl⟩ := Nat.exists_eq_add_of_le' (show 2 ≤ fuel by omega)
      rw [decodeLoop_skip bits (fuel+1) _ (by simp; omega) reserved,
        decodeLoop_read bits fuel _ (by simp; omega) (by simp) (by simp),taken]
      apply ih _ _ _ (by omega) onward
      rw [if_neg (by decide)]
      omega
    · rw [if_neg reserved] at first onward ⊢
      obtain ⟨fuel,rfl⟩ := Nat.exists_eq_add_of_le' (show 1 ≤ fuel by omega)
      rw [decodeLoop_read bits fuel _ (by simp; omega) reserved first,taken]
      apply ih _ _ _ (by omega) onward
      split at enough <;> split <;> omega

theorem decodeLoop_valid (addr : Ipv6Addr) (len : Nat) (valid : len ∈ validLengths) :
    ∃ final, decodeLoop (addressBits addr) 33 ⟨0,len,0⟩ = some final ∧ final.taken = 32 ∧
      decodeEmbeddedV4 addr len = .ofBits final.v4 := by
  have short := validLengths_le len valid
  obtain ⟨last,ends⟩ := decodeLoop_ends (addressBits addr) 32 len 33 0 (by omega)
    (fun _ => embeddedPosition_inside len 31 valid (by omega)) (by split <;> omega)
  exact ⟨_,ends,rfl,rfl⟩

theorem decodeEmbeddedV4_bits (addr : Ipv6Addr) (len : Nat) (valid : len ∈ validLengths) :
    (List.range 32).map (ipv4Bits (decodeEmbeddedV4 addr len)).getMsbD =
      (embeddedPositions len).map (addressBits addr).getMsbD := by
  rw [embeddedPositions_eq len valid,List.map_map]
  apply List.map_congr_left
  intro i small
  exact decodeEmbeddedV4_bit addr len i valid (List.mem_range.mp small)

theorem ipv4Bits_inj (left right : Ipv4Addr) (same : ipv4Bits left = ipv4Bits right) : left = right := by
  have number := congrArg BitVec.toNat same
  rw [ipv4Bits_toNat,ipv4Bits_toNat] at number
  obtain ⟨a,b,c,d⟩ := left
  obtain ⟨a',b',c',d'⟩ := right
  have bounds := And.intro a.toNat_lt (And.intro b.toNat_lt (And.intro c.toNat_lt d.toNat_lt))
  have bounds' := And.intro a'.toNat_lt (And.intro b'.toNat_lt (And.intro c'.toNat_lt d'.toNat_lt))
  unfold ipv4Number at number
  rw [Ipv4Addr.mk.injEq,← UInt8.toNat_inj,← UInt8.toNat_inj,← UInt8.toNat_inj,← UInt8.toNat_inj]
  dsimp only at number
  omega

theorem decodeEmbeddedV4_embed (base rest : Ipv6Addr) (len : Nat) (v4 : Ipv4Addr) (valid : len ∈ validLengths) :
    decodeEmbeddedV4 (embedNat64 base rest len v4) len = v4 := by
  apply ipv4Bits_inj
  apply BitVec.eq_of_getMsbD_eq
  intro i small
  have behind := embeddedPosition_behind len i
  rw [decodeEmbeddedV4_bit _ len i valid small,embedNat64_bit _ _ _ _ _ (embeddedPosition_inside len i valid small)]
  unfold embeddingBit
  rw [if_neg (by omega),embeddedPosition_index len i valid small]

theorem embedNat64_leading (base rest : Ipv6Addr) (len : Nat) (v4 : Ipv4Addr) (short : len ≤ 128) :
    ∀ i < len, (addressBits (embedNat64 base rest len v4)).getMsbD i = (addressBits base).getMsbD i := by
  intro i leading
  rw [embedNat64_bit _ _ _ _ _ (by omega)]
  unfold embeddingBit
  rw [if_pos leading]

/-- A prefix decodes the addresses that share its leading bits, to the bits behind them, and undoes the
embedding whatever else the address holds. -/
theorem nsp_decodes_embedding (nsp : Nat64Nsp) (base : Ipv6Addr) (len : Nat) (built : nsp.BuiltFrom base len) :
    (∀ addr, (∃ v4, nsp.embeddedV4 addr = some v4) ↔
      ∀ i < len, (addressBits addr).getMsbD i = (addressBits base).getMsbD i) ∧
    (∀ addr v4, nsp.embeddedV4 addr = some v4 → (List.range 32).map (ipv4Bits v4).getMsbD =
      (embeddedPositions len).map (addressBits addr).getMsbD) ∧
    (∀ rest v4, nsp.embeddedV4 (embedNat64 base rest len v4) = some v4) ∧
    (∀ addr, ∃ final, decodeLoop (addressBits addr) 33 ⟨0,len,0⟩ = some final ∧ final.taken = 32 ∧
      decodeEmbeddedV4 addr len = .ofBits final.v4) ∧
    ∀ (other : Nat64Nsp) (base' : Ipv6Addr) (len' : Nat), other.BuiltFrom base' len' →
      (nsp = other ↔ len = len' ∧ ∀ i < len, (addressBits base).getMsbD i = (addressBits base').getMsbD i) := by
  obtain ⟨valid,rfl,masked⟩ := (nsp_new base len nsp).mp built.new_ok
  have short := validLengths_le _ valid
  have covers : ∀ addr, nsp.embeddedV4 addr =
      if ∀ i < nsp.prefixLen, (addressBits addr).getMsbD i = (addressBits base).getMsbD i then
        some (decodeEmbeddedV4 addr nsp.prefixLen) else none := by
    intro addr
    unfold Nat64Nsp.embeddedV4
    rw [masked]
    exact if_congr (maskSegments_leading addr base _ (by omega)) rfl rfl
  refine ⟨?_,?_,?_,?_,?_⟩
  · intro addr
    rw [covers]
    split <;> simp_all
  · intro addr v4 found
    rw [covers,Option.ite_none_right_eq_some] at found
    cases found.2
    exact decodeEmbeddedV4_bits addr _ valid
  · intro rest v4
    rw [covers,if_pos (embedNat64_leading base rest _ v4 (by omega)),decodeEmbeddedV4_embed base rest _ v4 valid]
  · intro addr
    exact decodeLoop_valid addr _ valid
  · intro other base' len' made
    obtain ⟨_,rfl,masked'⟩ := (nsp_new base' len' other).mp made.new_ok
    constructor
    · intro same
      rw [← same] at masked' ⊢
      refine ⟨rfl,(maskSegments_leading base base' _ (by omega)).mp ?_⟩
      rw [← masked,masked']
    · intro agree
      obtain ⟨length,leading⟩ := agree
      have words := (maskSegments_leading base base' _ (by omega)).mpr leading
      rw [← masked,length,← masked'] at words
      exact nsp_ext nsp other length words

def documentBase : Ipv6Addr := .ofList [0x2001,0xdb8]

theorem document_names : CidrNames "2001:db8::/40" documentBase 40 :=
  ⟨"2001:db8::".toList,"40".toList,by decide +kernel,by decide +kernel,by decide +kernel⟩

theorem document_decodes : ∃ nsp, Nat64Nsp.parse "2001:db8::/40" = .ok nsp ∧
    ∀ rest v4, nsp.embeddedV4 (embedNat64 documentBase rest 40 v4) = some v4 := by
  obtain ⟨nsp,made⟩ : ∃ nsp, Nat64Nsp.new documentBase 40 = .ok nsp := ⟨_,dif_pos (by decide)⟩
  have parsed := (nsp_parse "2001:db8::/40" nsp).mpr ⟨documentBase,40,document_names,made⟩
  exact ⟨nsp,parsed,(nsp_decodes_embedding nsp documentBase 40 (.parse _ document_names parsed)).2.2.1⟩

end SolidOidcVerifier
