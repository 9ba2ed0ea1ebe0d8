import Mathlib

/-! The unpadded URL-safe base 64 text of RFC 4648 §5. Decoding refuses padding, characters
outside the alphabet and non-zero trailing bits. -/
namespace Foundation.Base64Url

def encodeValue (v : Nat) : Char :=
  Char.ofNat (if v < 26 then v+65 else if v < 52 then v+71 else if v < 62 then v-4
    else if v = 62 then 45 else 95)

def decodeValue (c : Char) : Option Nat :=
  let n := c.toNat
  if 65 ≤ n ∧ n ≤ 90 then some (n-65)
  else if 97 ≤ n ∧ n ≤ 122 then some (n-71)
  else if 48 ≤ n ∧ n ≤ 57 then some (n+4)
  else if n = 45 then some 62
  else if n = 95 then some 63
  else none

def encode : List UInt8 → List Char
  | [] => []
  | [a] => [encodeValue (a.toNat/4),encodeValue (a.toNat%4*16)]
  | [a,b] => [encodeValue (a.toNat/4),encodeValue (a.toNat%4*16+b.toNat/16),encodeValue (b.toNat%16*4)]
  | a :: b :: c :: rest =>
    encodeValue (a.toNat/4) :: encodeValue (a.toNat%4*16+b.toNat/16) ::
      encodeValue (b.toNat%16*4+c.toNat/64) :: encodeValue (c.toNat%64) :: encode rest

def decode : List Char → Option (List UInt8)
  | [] => some []
  | [_] => none
  | [a,b] => do
    let x ← decodeValue a
    let y ← decodeValue b
    if y%16 = 0 then some [UInt8.ofNat (x*4+y/16)] else none
  | [a,b,c] => do
    let x ← decodeValue a
    let y ← decodeValue b
    let z ← decodeValue c
    if z%4 = 0 then some [UInt8.ofNat (x*4+y/16),UInt8.ofNat (y%16*16+z/4)] else none
  | a :: b :: c :: d :: rest => do
    let x ← decodeValue a
    let y ← decodeValue b
    let z ← decodeValue c
    let w ← decodeValue d
    let tail ← decode rest
    return UInt8.ofNat (x*4+y/16) :: UInt8.ofNat (y%16*16+z/4) :: UInt8.ofNat (z%4*64+w) :: tail

theorem decodeValue_encodeValue (v : Nat) (bound : v < 64) : decodeValue (encodeValue v) = some v := by
  have all : ∀ w : Fin 64, decodeValue (encodeValue w) = some w.val := by decide
  exact all ⟨v,bound⟩

private theorem octet (a : UInt8) (n : Nat) (same : n = a.toNat) : UInt8.ofNat n = a := by
  rw [same]
  exact UInt8.ofNat_toNat

theorem decode_encode (bytes : List UInt8) : decode (encode bytes) = some bytes := by
  induction bytes using encode.induct with
  | case1 => rfl
  | case2 a =>
    have ha := a.toNat_lt
    have first := decodeValue_encodeValue (a.toNat/4) (by omega)
    have second := decodeValue_encodeValue (a.toNat%4*16) (by omega)
    have trailing : a.toNat%4*16%16 = 0 := by omega
    simp only [encode,decode,first,second,Option.bind_eq_bind,Option.bind_some,if_pos trailing]
    rw [octet a _ (by omega)]
  | case3 a b =>
    have ha := a.toNat_lt
    have hb := b.toNat_lt
    have first := decodeValue_encodeValue (a.toNat/4) (by omega)
    have second := decodeValue_encodeValue (a.toNat%4*16+b.toNat/16) (by omega)
    have third := decodeValue_encodeValue (b.toNat%16*4) (by omega)
    have trailing : b.toNat%16*4%4 = 0 := by omega
    simp only [encode,decode,first,second,third,Option.bind_eq_bind,Option.bind_some,if_pos trailing]
    rw [octet a _ (by omega),octet b _ (by omega)]
  | case4 a b c rest ih =>
    have ha := a.toNat_lt
    have hb := b.toNat_lt
    have hc := c.toNat_lt
    have first := decodeValue_encodeValue (a.toNat/4) (by omega)
    have second := decodeValue_encodeValue (a.toNat%4*16+b.toNat/16) (by omega)
    have third := decodeValue_encodeValue (b.toNat%16*4+c.toNat/64) (by omega)
    have fourth := decodeValue_encodeValue (c.toNat%64) (by omega)
    simp only [encode,decode,first,second,third,fourth,ih,Option.bind_eq_bind,Option.bind_some]
    rw [octet a _ (by omega),octet b _ (by omega),octet c _ (by omega)]
    rfl

/-- What holds of the 64 characters of the alphabet holds of every encoded text. -/
theorem mem_encode (holds : Char → Prop) (alphabet : ∀ v : Fin 64, holds (encodeValue v)) (bytes : List UInt8) :
    ∀ c ∈ encode bytes, holds c := by
  have all : ∀ v, v < 64 → holds (encodeValue v) := fun v bound => alphabet ⟨v,bound⟩
  induction bytes using encode.induct with
  | case1 => simp [encode]
  | case2 a =>
    have ha := a.toNat_lt
    have first := all (a.toNat/4) (by omega)
    have second := all (a.toNat%4*16) (by omega)
    simp [encode,first,second]
  | case3 a b =>
    have ha := a.toNat_lt
    have hb := b.toNat_lt
    have first := all (a.toNat/4) (by omega)
    have second := all (a.toNat%4*16+b.toNat/16) (by omega)
    have third := all (b.toNat%16*4) (by omega)
    simp [encode,first,second,third]
  | case4 a b c rest ih =>
    have ha := a.toNat_lt
    have hb := b.toNat_lt
    have hc := c.toNat_lt
    have first := all (a.toNat/4) (by omega)
    have second := all (a.toNat%4*16+b.toNat/16) (by omega)
    have third := all (b.toNat%16*4+c.toNat/64) (by omega)
    have fourth := all (c.toNat%64) (by omega)
    simp only [encode,List.mem_cons,forall_eq_or_imp]
    exact ⟨first,second,third,fourth,ih⟩

theorem decodeValue_ascii (c : Char) (v : Nat) (decoded : decodeValue c = some v) : c.toNat < 128 := by
  simp only [decodeValue] at decoded
  by_contra wide
  simp (disch := omega) only [if_neg] at decoded
  cases decoded

theorem encodeValue_decodeValue (c : Char) (v : Nat) (decoded : decodeValue c = some v) :
    v < 64 ∧ encodeValue v = c := by
  have all : ∀ n : Fin 128, ∀ w ∈ decodeValue (Char.ofNat n), w < 64 ∧ encodeValue w = Char.ofNat n := by decide
  have here := all ⟨c.toNat,decodeValue_ascii c v decoded⟩ v
  rw [Char.ofNat_toNat] at here
  exact here decoded

private theorem octet_toNat (n : Nat) (small : n < 256) : (UInt8.ofNat n).toNat = n := UInt8.toNat_ofNat_of_lt' small

/-- Decoding accepts no text but the one that encoding writes. -/
theorem encode_decode (text : List Char) : ∀ bytes, decode text = some bytes → encode bytes = text := by
  induction text using decode.induct with
  | case1 =>
    intro bytes decoded
    cases decoded
    rfl
  | case2 a =>
    intro bytes decoded
    cases decoded
  | case3 a b =>
    intro bytes decoded
    simp only [decode,Option.bind_eq_bind,Option.bind_eq_some_iff,Option.ite_none_right_eq_some] at decoded
    obtain ⟨x,first,y,second,trailing,same⟩ := decoded
    cases same
    obtain ⟨xBound,rfl⟩ := encodeValue_decodeValue a x first
    obtain ⟨yBound,rfl⟩ := encodeValue_decodeValue b y second
    have octet : (UInt8.ofNat (x*4+y/16)).toNat = x*4+y/16 := octet_toNat _ (by omega)
    have high : (x*4+y/16)/4 = x := by omega
    have low : (x*4+y/16)%4*16 = y := by omega
    simp only [encode,octet,high,low]
  | case4 a b d =>
    intro bytes decoded
    simp only [decode,Option.bind_eq_bind,Option.bind_eq_some_iff,Option.ite_none_right_eq_some] at decoded
    obtain ⟨x,first,y,second,z,third,trailing,same⟩ := decoded
    cases same
    obtain ⟨xBound,rfl⟩ := encodeValue_decodeValue a x first
    obtain ⟨yBound,rfl⟩ := encodeValue_decodeValue b y second
    obtain ⟨zBound,rfl⟩ := encodeValue_decodeValue d z third
    have octet : (UInt8.ofNat (x*4+y/16)).toNat = x*4+y/16 := octet_toNat _ (by omega)
    have next : (UInt8.ofNat (y%16*16+z/4)).toNat = y%16*16+z/4 := octet_toNat _ (by omega)
    have high : (x*4+y/16)/4 = x := by omega
    have middle : (x*4+y/16)%4*16+(y%16*16+z/4)/16 = y := by omega
    have low : (y%16*16+z/4)%16*4 = z := by omega
    simp only [encode,octet,next,high,middle,low]
  | case5 a b d e rest ih =>
    intro bytes decoded
    simp only [decode,Option.bind_eq_bind,Option.bind_eq_some_iff] at decoded
    obtain ⟨x,first,y,second,z,third,w,fourth,tail,remaining,same⟩ := decoded
    cases same
    obtain ⟨xBound,rfl⟩ := encodeValue_decodeValue a x first
    obtain ⟨yBound,rfl⟩ := encodeValue_decodeValue b y second
    obtain ⟨zBound,rfl⟩ := encodeValue_decodeValue d z third
    obtain ⟨wBound,rfl⟩ := encodeValue_decodeValue e w fourth
    have octet : (UInt8.ofNat (x*4+y/16)).toNat = x*4+y/16 := octet_toNat _ (by omega)
    have next : (UInt8.ofNat (y%16*16+z/4)).toNat = y%16*16+z/4 := octet_toNat _ (by omega)
    have last : (UInt8.ofNat (z%4*64+w)).toNat = z%4*64+w := octet_toNat _ (by omega)
    have high : (x*4+y/16)/4 = x := by omega
    have middle : (x*4+y/16)%4*16+(y%16*16+z/4)/16 = y := by omega
    have low : (y%16*16+z/4)%16*4+(z%4*64+w)/64 = z := by omega
    have lowest : (z%4*64+w)%64 = w := by omega
    simp only [encode,octet,next,last,high,middle,low,lowest,ih tail remaining]

theorem decode_iff (text : List Char) (bytes : List UInt8) : decode text = some bytes ↔ text = encode bytes := by
  constructor
  · intro decoded
    exact (encode_decode text bytes decoded).symm
  · intro same
    rw [same]
    exact decode_encode bytes

theorem encode_injective : Function.Injective encode := by
  intro left right same
  have decoded := decode_encode left
  rw [same,decode_encode right] at decoded
  exact (Option.some.inj decoded).symm

/-- A text that decodes is ASCII. -/
theorem decode_ascii (text : List Char) : ∀ bytes, decode text = some bytes → ∀ c ∈ text, c.toNat < 128 := by
  intro bytes decoded
  rw [← encode_decode text bytes decoded]
  exact mem_encode (fun c => c.toNat < 128) (by decide) bytes

theorem dot_not_mem_encode (bytes : List UInt8) : '.' ∉ encode bytes := by
  intro member
  exact mem_encode (· ≠ '.') (by decide) bytes '.' member rfl

theorem encode_eq_nil (bytes : List UInt8) : encode bytes = [] ↔ bytes = [] := by
  induction bytes using encode.induct <;> simp [encode]

end Foundation.Base64Url
