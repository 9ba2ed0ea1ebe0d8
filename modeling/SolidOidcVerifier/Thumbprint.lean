import SolidOidcVerifier.Foundation.JsonText
import SolidOidcVerifier.Possession

/-! The text that a thumbprint hashes: which key it names, and when it is JSON. -/
namespace SolidOidcVerifier
open Foundation

/-- The required members of RFC 7638 §3.2 and RFC 8037 §2, for the key types that have a thumbprint. -/
def requiredNames (kty : String) : Option (List String) :=
  if kty = "EC" then some ["crv","kty","x","y"]
  else if kty = "RSA" then some ["e","kty","n"]
  else if kty = "OKP" then some ["crv","kty","x"]
  else none

def Jwk.member (jwk : Jwk) (name : String) : Option String :=
  if name = "kty" then some jwk.kty
  else if name = "crv" then jwk.crv
  else if name = "x" then jwk.x
  else if name = "y" then jwk.y
  else if name = "e" then jwk.e
  else if name = "n" then jwk.n
  else none

/-- The required members with their values; none where one is missing. -/
def Jwk.required (jwk : Jwk) : Option (List (String × String)) := do
  let names ← requiredNames jwk.kty
  names.mapM fun name => (jwk.member name).map fun value => (name,value)

def memberChars (member : String × String) : JsonText.Member := (member.1.toList,member.2.toList)

theorem jsonEscape_toList (s : String) : (jsonEscape s).toList = QuotedText.escape s.toList := by
  unfold jsonEscape
  rw [String.toList_ofList,QuotedText.replace_escape]

def objectString (members : List (String × String)) : String :=
  String.ofList (JsonText.objectText (members.map memberChars))

theorem objectString_toList (members : List (String × String)) :
    (objectString members).toList = JsonText.objectText (members.map memberChars) := String.toList_ofList

theorem literals_escape : QuotedText.escape ['c','r','v'] = ['c','r','v'] ∧
    QuotedText.escape ['k','t','y'] = ['k','t','y'] ∧ QuotedText.escape ['x'] = ['x'] ∧
    QuotedText.escape ['y'] = ['y'] ∧ QuotedText.escape ['e'] = ['e'] ∧ QuotedText.escape ['n'] = ['n'] ∧
    QuotedText.escape ['E','C'] = ['E','C'] ∧ QuotedText.escape ['R','S','A'] = ['R','S','A'] ∧
    QuotedText.escape ['O','K','P'] = ['O','K','P'] := by decide

theorem objectString_ec (crv x y : String) : "\x7b\"crv\":\"" ++ jsonEscape crv ++ "\",\"kty\":\"EC\",\"x\":\"" ++
    jsonEscape x ++ "\",\"y\":\"" ++ jsonEscape y ++ "\"\x7d" =
      objectString [("crv",crv),("kty","EC"),("x",x),("y",y)] := by
  rw [← String.toList_inj,objectString_toList]
  simp only [String.toList_append,jsonEscape_toList,JsonText.objectText,JsonText.membersText,JsonText.memberText,
    JsonText.stringText,List.map_cons,List.map_nil,memberChars]
  simp [literals_escape]

theorem objectString_rsa (e n : String) : "\x7b\"e\":\"" ++ jsonEscape e ++ "\",\"kty\":\"RSA\",\"n\":\"" ++
    jsonEscape n ++ "\"\x7d" = objectString [("e",e),("kty","RSA"),("n",n)] := by
  rw [← String.toList_inj,objectString_toList]
  simp only [String.toList_append,jsonEscape_toList,JsonText.objectText,JsonText.membersText,JsonText.memberText,
    JsonText.stringText,List.map_cons,List.map_nil,memberChars]
  simp [literals_escape]

theorem objectString_okp (crv x : String) : "\x7b\"crv\":\"" ++ jsonEscape crv ++
    "\",\"kty\":\"OKP\",\"x\":\"" ++ jsonEscape x ++ "\"\x7d" =
      objectString [("crv",crv),("kty","OKP"),("x",x)] := by
  rw [← String.toList_inj,objectString_toList]
  simp only [String.toList_append,jsonEscape_toList,JsonText.objectText,JsonText.membersText,JsonText.memberText,
    JsonText.stringText,List.map_cons,List.map_nil,memberChars]
  simp [literals_escape]

/-- The three templates write the required members as one object. -/
theorem canonical_required (jwk : Jwk) : jwk.canonical.toOption = jwk.required.map objectString := by
  unfold Jwk.canonical Jwk.required requiredNames
  by_cases ec : jwk.kty = "EC"
  · cases crv : jwk.crv <;> cases x : jwk.x <;> cases y : jwk.y <;>
      simp [ec,orError,Jwk.member,crv,x,y,objectString_ec] <;> rfl
  · by_cases rsa : jwk.kty = "RSA"
    · cases e : jwk.e <;> cases n : jwk.n <;> simp [rsa,orError,Jwk.member,e,n,objectString_rsa] <;> rfl
    · by_cases okp : jwk.kty = "OKP"
      · cases crv : jwk.crv <;> cases x : jwk.x <;> simp [okp,orError,Jwk.member,crv,x,objectString_okp] <;> rfl
      · simp [ec,rsa,okp]
        rfl

theorem canonical_ok (jwk : Jwk) (text : String) :
    jwk.canonical = .ok text ↔ ∃ members, jwk.required = some members ∧ text = objectString members := by
  have read := canonical_required jwk
  cases result : jwk.canonical with
  | error e =>
    rw [result] at read
    cases required : jwk.required with
    | none => simp
    | some members =>
      rw [required] at read
      cases read
  | ok found =>
    rw [result] at read
    cases required : jwk.required with
    | none =>
      rw [required] at read
      cases read
    | some members =>
      rw [required] at read
      cases read
      simp [eq_comm]

theorem objectString_inj (left right : List (String × String)) (same : objectString left = objectString right) :
    left = right := by
  have texts := congrArg String.toList same
  rw [objectString_toList,objectString_toList] at texts
  have injective : Function.Injective memberChars := by
    intro first second equal
    unfold memberChars at equal
    rw [Prod.mk.injEq,String.toList_inj,String.toList_inj] at equal
    exact Prod.ext equal.1 equal.2
  exact List.map_injective_iff.mpr injective (JsonText.objectText_inj _ _ texts)

theorem required_some (jwk : Jwk) (members : List (String × String)) : jwk.required = some members ↔
    (jwk.kty = "EC" ∧ ∃ crv x y, jwk.crv = some crv ∧ jwk.x = some x ∧ jwk.y = some y ∧
      members = [("crv",crv),("kty","EC"),("x",x),("y",y)]) ∨
    (jwk.kty = "RSA" ∧ ∃ e n, jwk.e = some e ∧ jwk.n = some n ∧ members = [("e",e),("kty","RSA"),("n",n)]) ∨
    (jwk.kty = "OKP" ∧ ∃ crv x, jwk.crv = some crv ∧ jwk.x = some x ∧
      members = [("crv",crv),("kty","OKP"),("x",x)]) := by
  unfold Jwk.required requiredNames
  by_cases ec : jwk.kty = "EC"
  · cases crv : jwk.crv <;> cases x : jwk.x <;> cases y : jwk.y <;> simp [ec,Jwk.member,crv,x,y,eq_comm]
  · by_cases rsa : jwk.kty = "RSA"
    · cases e : jwk.e <;> cases n : jwk.n <;> simp [rsa,Jwk.member,e,n,eq_comm]
    · by_cases okp : jwk.kty = "OKP"
      · cases crv : jwk.crv <;> cases x : jwk.x <;> simp [okp,Jwk.member,crv,x,eq_comm]
      · simp [ec,rsa,okp]

/-- The key types agree, and so do the values of all members that they require. -/
structure SameRequired (left right : Jwk) : Prop where
  kty : left.kty = right.kty
  values : ∀ names, requiredNames left.kty = some names →
    ∀ name ∈ names, left.member name = right.member name

theorem SameRequired.of_values {left right : Jwk} (names : List String) (kty : left.kty = right.kty)
    (required : requiredNames left.kty = some names)
    (values : ∀ name ∈ names, left.member name = right.member name) : SameRequired left right := by
  refine ⟨kty,?_⟩
  intro others named
  rw [required] at named
  cases named
  exact values

theorem sameRequired_of_required (left right : Jwk) (members : List (String × String))
    (first : left.required = some members) (second : right.required = some members) : SameRequired left right := by
  rw [required_some] at first second
  obtain ⟨ec,crv,x,y,hcrv,hx,hy,rfl⟩ | ⟨rsa,e,n,he,hn,rfl⟩ | ⟨okp,crv,x,hcrv,hx,rfl⟩ := first
  · obtain ⟨ec',_,_,_,hcrv',hx',hy',same⟩ | ⟨_,_,_,_,_,same⟩ | ⟨_,_,_,_,_,same⟩ := second
    · simp only [List.cons.injEq,Prod.mk.injEq,true_and,and_true] at same
      obtain ⟨rfl,rfl,rfl⟩ := same
      refine .of_values ["crv","kty","x","y"] (ec.trans ec'.symm) (by rw [ec]; rfl) ?_
      simp [Jwk.member,ec,ec',hcrv,hcrv',hx,hx',hy,hy']
    · simp at same
    · simp at same
  · obtain ⟨_,_,_,_,_,_,_,same⟩ | ⟨rsa',_,_,he',hn',same⟩ | ⟨_,_,_,_,_,same⟩ := second
    · simp at same
    · simp only [List.cons.injEq,Prod.mk.injEq,true_and,and_true] at same
      obtain ⟨rfl,rfl⟩ := same
      refine .of_values ["e","kty","n"] (rsa.trans rsa'.symm) (by rw [rsa]; rfl) ?_
      simp [Jwk.member,rsa,rsa',he,he',hn,hn']
    · simp at same
  · obtain ⟨_,_,_,_,_,_,_,same⟩ | ⟨_,_,_,_,_,same⟩ | ⟨okp',_,_,hcrv',hx',same⟩ := second
    · simp at same
    · simp at same
    · simp only [List.cons.injEq,Prod.mk.injEq,true_and,and_true] at same
      obtain ⟨rfl,rfl⟩ := same
      refine .of_values ["crv","kty","x"] (okp.trans okp'.symm) (by rw [okp]; rfl) ?_
      simp [Jwk.member,okp,okp',hcrv,hcrv',hx,hx']

theorem publicOnly_same (left right : Jwk) (kty : left.kty = right.kty)
    (secrets : left.hasPrivateMaterial = right.hasPrivateMaterial) : publicOnly left = publicOnly right := by
  unfold publicOnly Jwk.isSymmetric
  rw [kty,secrets]

/-- The key builder reads no member beyond the required ones. -/
theorem decodingKeyFromJwk_same (crates : Crates) (left right : Jwk) (same : SameRequired left right)
    (secrets : left.hasPrivateMaterial = right.hasPrivateMaterial) :
    decodingKeyFromJwk crates left = decodingKeyFromJwk crates right := by
  have kty := same.kty
  unfold decodingKeyFromJwk
  rw [publicOnly_same left right kty secrets,← kty]
  by_cases ec : left.kty = "EC"
  · have values := same.values ["crv","kty","x","y"] (by rw [ec]; rfl)
    have x : left.x = right.x := values "x" (by simp)
    have y : left.y = right.y := values "y" (by simp)
    simp only [if_pos ec,x,y]
  · by_cases rsa : left.kty = "RSA"
    · have values := same.values ["e","kty","n"] (by rw [rsa]; rfl)
      have e : left.e = right.e := values "e" (by simp)
      have n : left.n = right.n := values "n" (by simp)
      simp only [if_neg ec,if_pos rsa,e,n]
    · by_cases okp : left.kty = "OKP"
      · have values := same.values ["crv","kty","x"] (by rw [okp]; rfl)
        have x : left.x = right.x := values "x" (by simp)
        simp only [if_neg ec,if_neg rsa,if_pos okp,x]
      · simp only [if_neg ec,if_neg rsa,if_neg okp]

theorem p521VerifyingKeyFromJwk_same (crates : Crates) (left right : Jwk) (members : List (String × String))
    (required : left.required = some members) (same : SameRequired left right)
    (secrets : left.hasPrivateMaterial = right.hasPrivateMaterial) :
    p521VerifyingKeyFromJwk crates left = p521VerifyingKeyFromJwk crates right := by
  unfold p521VerifyingKeyFromJwk
  rw [publicOnly_same left right same.kty secrets,← same.kty]
  obtain ⟨ec,_⟩ | ⟨rsa,_⟩ | ⟨okp,_⟩ := (required_some left members).mp required
  · have values := same.values ["crv","kty","x","y"] (by rw [ec]; rfl)
    have crv : left.crv = right.crv := values "crv" (by simp)
    have x : left.x = right.x := values "x" (by simp)
    have y : left.y = right.y := values "y" (by simp)
    rw [crv,x,y]
  · have other : Text.eqIgnoreAsciiCase left.kty.toList "EC".toList = false := by
      rw [rsa]
      decide
    simp only [other,ensure,Bool.false_eq_true,if_false]
    cases publicOnly right <;> rfl
  · have other : Text.eqIgnoreAsciiCase left.kty.toList "EC".toList = false := by
      rw [okp]
      decide
    simp only [other,ensure,Bool.false_eq_true,if_false]
    cases publicOnly right <;> rfl

theorem verifySignature_same (build : Build) (crates : Crates) (token : String) (typ : Option String)
    (left right : Jwk) (primary : decodingKeyFromJwk crates left = decodingKeyFromJwk crates right)
    (fork : p521VerifyingKeyFromJwk crates left = p521VerifyingKeyFromJwk crates right) :
    verifySignature build crates token [left] typ = verifySignature build crates token [right] typ := by
  unfold verifySignature verifyEs512OverCandidates
  simp only [firstVerified,verifyWith,verifyEs512With,primary,fork,ne_eq,List.cons_ne_nil,not_false_eq_true]

/-- SHA-256 tells the canonical texts of the two keys apart, if they differ. -/
def NoCollision (crates : Crates) (left right : Jwk) : Prop :=
  ∀ first second, left.canonical = .ok first → right.canonical = .ok second →
    crates.sha256 (Text.asBytes first) = crates.sha256 (Text.asBytes second) → first = second

theorem digestText_inj (crates : Crates) (left right : String) (same : digestText crates left = digestText crates right) :
    crates.sha256 (Text.asBytes left) = crates.sha256 (Text.asBytes right) := by
  have texts := congrArg String.toList same
  unfold digestText at texts
  rw [String.toList_ofList,String.toList_ofList] at texts
  exact Base64Url.encode_injective texts

theorem thumbprint_ok (crates : Crates) (jwk : Jwk) (thumbprint : String) :
    jwk.thumbprintSha256 crates = .ok thumbprint ↔
      ∃ text, jwk.canonical = .ok text ∧ digestText crates text = thumbprint := by
  unfold Jwk.thumbprintSha256
  cases jwk.canonical with
  | error e => simp [Except.map]
  | ok text => simp [Except.map]

theorem sameRequired_of_canonical (left right : Jwk) (text : String) (first : left.canonical = .ok text)
    (second : right.canonical = .ok text) :
    SameRequired left right ∧ ∃ members, left.required = some members ∧ right.required = some members := by
  obtain ⟨members,required,rfl⟩ := (canonical_ok left text).mp first
  obtain ⟨others,required',same⟩ := (canonical_ok right _).mp second
  rw [objectString_inj members others same] at required
  exact ⟨sameRequired_of_required left right others required required',others,required,required'⟩

theorem canonical_of_thumbprints (crates : Crates) (left right : Jwk) (thumbprint : String)
    (first : left.thumbprintSha256 crates = .ok thumbprint) (second : right.thumbprintSha256 crates = .ok thumbprint)
    (apart : NoCollision crates left right) : ∃ text, left.canonical = .ok text ∧ right.canonical = .ok text := by
  obtain ⟨text,canonical,digest⟩ := (thumbprint_ok crates left thumbprint).mp first
  obtain ⟨other,canonical',digest'⟩ := (thumbprint_ok crates right thumbprint).mp second
  have same := apart text other canonical canonical' (digestText_inj crates _ _ (digest.trans digest'.symm))
  rw [← same] at canonical'
  exact ⟨text,canonical,canonical'⟩

theorem validateDpopProof_bound (build : Build) (crates : Crates) (config : VerifierConfig) (now : Int)
    (req : AuthRequest) (proof accessToken jkt : String) (requireAth : Bool) (claims : Claims) (jwk : Jwk)
    (passed : validateDpopProof build crates config now req proof accessToken jkt requireAth = .ok ())
    (embedded : verifyProofWithEmbeddedJwk build crates proof "dpop+jwt" = .ok (claims,jwk)) :
    jwk.thumbprintSha256 crates = .ok jkt := by
  unfold validateDpopProof verifiedProof at passed
  simp only [Except.bind_ok,liftStop_ok,rejectUnless_ok,exists_const,Except.mapError_ok,Prod.exists] at passed
  obtain ⟨_,_,verified,_,_,_,_,_,_,_,_,_,found,bound,same⟩ := passed
  rw [embedded] at verified
  cases verified
  rw [bound,same]

/-- A thumbprint names one verification key. -/
theorem thumbprint_names_key :
    (∀ left right text, left.canonical = .ok text → right.canonical = .ok text →
      SameRequired left right ∧ (left.hasPrivateMaterial = false → right.hasPrivateMaterial = false →
        ∀ crates, decodingKeyFromJwk crates left = decodingKeyFromJwk crates right)) ∧
    ∀ build crates config now req proof accessToken jkt requireAth claims jwk owner,
      validateDpopProof build crates config now req proof accessToken jkt requireAth = .ok () →
      verifyProofWithEmbeddedJwk build crates proof "dpop+jwt" = .ok (claims,jwk) →
      owner.thumbprintSha256 crates = .ok jkt → owner.hasPrivateMaterial = false →
      NoCollision crates jwk owner →
      SameRequired jwk owner ∧ decodingKeyFromJwk crates jwk = decodingKeyFromJwk crates owner ∧
        verifySignature build crates proof [owner] (some "dpop+jwt") = .ok claims := by
  constructor
  · intro left right text first second
    obtain ⟨same,_⟩ := sameRequired_of_canonical left right text first second
    refine ⟨same,?_⟩
    intro ownPublic otherPublic crates
    exact decodingKeyFromJwk_same crates left right same (by rw [ownPublic,otherPublic])
  · intro build crates config now req proof accessToken jkt requireAth claims jwk owner passed embedded bound
      ownerPublic apart
    have thumbprint := validateDpopProof_bound build crates config now req proof accessToken jkt requireAth claims jwk
      passed embedded
    obtain ⟨text,first,second⟩ := canonical_of_thumbprints crates jwk owner jkt thumbprint bound apart
    obtain ⟨same,members,required,_⟩ := sameRequired_of_canonical jwk owner text first second
    simp only [verifyProofWithEmbeddedJwk,Except.bind_ok,Except.ensure_ok,exists_const] at embedded
    obtain ⟨_,_,_,_,isPublic,_,found,verified,pair⟩ := embedded
    cases pair
    have secrets : jwk.hasPrivateMaterial = owner.hasPrivateMaterial := by
      rw [ownerPublic]
      simpa using isPublic
    have primary := decodingKeyFromJwk_same crates jwk owner same secrets
    have fork := p521VerifyingKeyFromJwk_same crates jwk owner members required same secrets
    refine ⟨same,primary,?_⟩
    rw [← verifySignature_same build crates proof _ jwk owner primary fork]
    exact verified

def renamedJwk : Jwk := {sampleClientJwk with kid := some "owner"}

theorem renamed_canonical : renamedJwk.canonical = sampleClientJwk.canonical := rfl

theorem renamed_key_verifies :
    verifySignature ⟨false,false⟩ sampleCrates sampleProof [renamedJwk] (some "dpop+jwt") =
      .ok (sampleProofClaims [("htm",.string "GET")]) := by
  have valid := sampleProof_valid sampleConfig sampleRequest proofPayload [("htm",.string "GET")] _ rfl
    (Or.inr ⟨_,rfl⟩) (List.mem_of_getElem? (i := 5) rfl) (List.cons_ne_nil _ _)
    (List.mem_of_getElem? (i := 3) rfl) rfl (by decide)
  have passed := (validateDpopProof_ok _ _ sampleCrates_payload _ _ _ _ _ _ _ ()).mpr
    ⟨_,_,_,(ValidProof.absentAth _ _ sampleCrates_payload _ _ _ _ _ _ _ _ _).mpr valid⟩
  have embedded := (verifiedProof_ok _ _ sampleCrates_payload _ _ _).mpr valid.signed
  rw [verifiedProof,Except.mapError_ok] at embedded
  have bound : renamedJwk.thumbprintSha256 sampleCrates = .ok sampleThumbprint := by
    unfold Jwk.thumbprintSha256
    rw [renamed_canonical]
    exact sample_thumbprint
  have apart : NoCollision sampleCrates sampleClientJwk renamedJwk := by
    intro first second canonical canonical' _
    rw [renamed_canonical,canonical] at canonical'
    exact Except.ok.inj canonical'
  exact (thumbprint_names_key.2 _ _ _ _ _ _ _ _ _ _ _ _ passed embedded bound rfl apart).2.2

/-! The hashed text as JSON. -/

def stringObject (members : List (String × String)) : JsonText.Value :=
  .object (members.map fun member => (member.1.toList,.string member.2.toList))

/-- A JSON object of exactly the required members and their values, in order and without whitespace. -/
def CanonicalJson (jwk : Jwk) (text : String) : Prop :=
  ∃ members, jwk.required = some members ∧ JsonText.read text.toList = some (stringObject members) ∧
    JsonText.readCompact text.toList = some (stringObject members) ∧ (members.map Prod.fst).Pairwise (· < ·)

theorem required_names (jwk : Jwk) (members : List (String × String)) (required : jwk.required = some members) :
    members.map Prod.fst ∈ [["crv","kty","x","y"],["e","kty","n"],["crv","kty","x"]] := by
  obtain ⟨_,crv,x,y,_,_,_,rfl⟩ | ⟨_,e,n,_,_,rfl⟩ | ⟨_,crv,x,_,_,rfl⟩ := (required_some jwk members).mp required
  · simp
  · simp
  · simp

theorem required_controlled (jwk : Jwk) (members : List (String × String)) (required : jwk.required = some members) :
    (members.map memberChars).any JsonText.Member.controlled = false ↔
      ∀ member ∈ members, ∀ c ∈ member.2.toList, 0x20 ≤ c.toNat := by
  have names : ∀ names ∈ [["crv","kty","x","y"],["e","kty","n"],["crv","kty","x"]], ∀ name ∈ names,
      name.toList.any JsonText.isControl = false := by decide
  have named : ∀ member ∈ members, member.1.toList.any JsonText.isControl = false := by
    intro member listed
    exact names _ (required_names jwk members required) _ (List.mem_map_of_mem listed)
  rw [List.any_map,List.any_eq_false]
  apply forall₂_congr
  intro member listed
  simp [JsonText.Member.controlled,memberChars,named member listed,JsonText.isControl]

/-- The hashed text is that object exactly where no required value holds a control character, which the escape
leaves as it is. -/
theorem canonical_json_iff (jwk : Jwk) (members : List (String × String)) (required : jwk.required = some members) :
    ∃ text, jwk.canonical = .ok text ∧
      (CanonicalJson jwk text ↔ ∀ member ∈ members, ∀ c ∈ member.2.toList, 0x20 ≤ c.toNat) := by
  refine ⟨objectString members,(canonical_ok jwk _).mpr ⟨members,required,rfl⟩,?_⟩
  have sorted : ∀ names ∈ [["crv","kty","x","y"],["e","kty","n"],["crv","kty","x"]],
      names.Pairwise (· < ·) := by decide
  have object : (if (members.map memberChars).any JsonText.Member.controlled then none
      else some (JsonText.Value.object ((members.map memberChars).map fun member => (member.1,.string member.2)))) =
        some (stringObject members) ↔ (members.map memberChars).any JsonText.Member.controlled = false := by
    cases (members.map memberChars).any JsonText.Member.controlled with
    | true => simp
    | false => simp [stringObject,memberChars]
  rw [← required_controlled jwk members required,← object,← JsonText.read_objectText]
  constructor
  · intro json
    obtain ⟨others,same,read,_⟩ := json
    rw [required] at same
    cases same
    rwa [objectString_toList] at read
  · intro read
    have compact := read
    rw [JsonText.read_objectText,← JsonText.readCompact_objectText] at compact
    rw [← objectString_toList] at read compact
    exact ⟨members,required,read,compact,sorted _ (required_names jwk members required)⟩

theorem sampleClient_required :
    sampleClientJwk.required = some [("crv","Ed25519"),("kty","OKP"),("x",sampleClientKey)] := rfl

theorem sampleClient_json : ∃ text, sampleClientJwk.canonical = .ok text ∧ (CanonicalJson sampleClientJwk text ↔
    ∀ member ∈ [("crv","Ed25519"),("kty","OKP"),("x",sampleClientKey)], ∀ c ∈ member.2.toList, 0x20 ≤ c.toNat) :=
  canonical_json_iff sampleClientJwk _ sampleClient_required

def lineJwk : Jwk := {sampleClientJwk with x := some "\n"}

/-- A line break stands in the hashed text as it is, and the text is no JSON. -/
theorem line_break_no_json : ∃ text,
    lineJwk.required = some [("crv","Ed25519"),("kty","OKP"),("x","\n")] ∧ lineJwk.canonical = .ok text ∧
      JsonText.read text.toList = none ∧ ¬CanonicalJson lineJwk text := by
  have required : lineJwk.required = some [("crv","Ed25519"),("kty","OKP"),("x","\n")] := rfl
  have unread : JsonText.read (objectString [("crv","Ed25519"),("kty","OKP"),("x","\n")]).toList = none := by
    rw [objectString_toList,JsonText.read_objectText,if_pos (by decide)]
  refine ⟨_,required,(canonical_ok lineJwk _).mpr ⟨_,required,rfl⟩,unread,?_⟩
  intro json
  obtain ⟨_,_,read,_⟩ := json
  rw [unread] at read
  cases read

end SolidOidcVerifier
