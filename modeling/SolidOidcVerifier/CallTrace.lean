import SolidOidcVerifier.ReplayMarks

/-! The calls that a verification makes of the seams outside it, in their order. -/
namespace SolidOidcVerifier
open Foundation

theorem then_pure_state {σ ε α β : Type} (first : Exec σ ε α) (value : β) (state : σ) :
    ((first >>= fun _ => (pure value : Exec σ ε β)) state).2 = (first state).2 := by
  generalize outcome : first state = result
  obtain ⟨found,after⟩ := result
  cases found with
  | error stop => rw [Exec.bind_of_error _ _ _ _ _ outcome]
  | ok answer =>
    rw [Exec.bind_of_ok _ _ _ _ _ outcome]
    rfl

variable {S : Type}

def World.called (world : World S) (call : Call) : World S := {world with calls := world.calls ++ [call]}

section requests

variable (env : Env S) (config : VerifierConfig) (req : AuthRequest) (parsed : Parsed)

def VerifiableAlg (token : String) : Prop := ∃ header, peekHeader env.crates token = .ok header ∧
  algInPolicy header.alg ∧ algIsVerifiable env.build header.alg

/-- The keys of an issuer are asked for: it is trusted, and the `iss` of a token with a verifiable algorithm. -/
structure KeysAllowed (issuer : String) : Prop where
  presented : parseAuthorization env.crates req.authorization = some parsed
  claimed : ∃ peeked, peekClaims env.crates parsed.token = some peeked ∧ peeked.str "iss" = some issuer
  trusted : issuer ∈ config.trustedIssuers
  alg : VerifiableAlg env parsed.token

structure TokenPassed (issuer : String) (claims : Claims) : Prop where
  alg : VerifiableAlg env parsed.token
  signature : ∃ keys, env.keysFor issuer = .ok keys ∧ verifiedAccessToken env parsed.token keys = .ok claims
  claims : checkAccessClaims env config issuer claims = .ok ()

/-- The checks (2) to (6). -/
structure ChecksPassed (authenticated : Authenticated) : Prop where
  allowed : KeysAllowed env config req parsed authenticated.claimedIssuer
  gate : schemeGate env.crates config parsed = .ok ()
  token : TokenPassed env config parsed authenticated.claimedIssuer authenticated.claims
  possession : checkPossession env.build env.crates config (nowSecs env.proofClock) req parsed.token
    (parsed.scheme == "dpop") authenticated.claims = .ok ()
  webId : extractWebid env.crates.url config authenticated.claims = .ok authenticated.webId
  party : checkAuthorizedParty config authenticated.claims = .ok ()

theorem keysFor_error (issuer : String) (world after : World S) (stop : Stop VerifyError)
    (run : keysFor env issuer world = (.error stop,after)) : after = world.called (.keysFor issuer) := by
  unfold keysFor at run
  exact (congrArg Prod.snd run).symm

theorem validateAccessToken_passed (issuer : String) (world after : World S) (claims : Claims)
    (run : validateAccessToken env config parsed issuer world = (.ok claims,after)) :
    TokenPassed env config parsed issuer claims ∧ after = world.called (.keysFor issuer) := by
  unfold validateAccessToken at run
  simp only [Exec.bind_ok,Exec.lift_ok,Exec.checked_ok,keysFor_ok,Except.ensure_ok,Exec.pure_run] at run
  obtain ⟨header,first,⟨peeked,same⟩,_,second,⟨policy,again⟩,_,third,⟨verifiable,unchanged⟩,keys,fourth,
    ⟨served,called⟩,found,fifth,⟨verified,kept⟩,_,last,⟨checked,left⟩,done⟩ := run
  subst same again unchanged kept left called
  cases done
  exact ⟨⟨⟨header,peeked,policy,verifiable⟩,⟨keys,served,verified⟩,checked⟩,rfl⟩

theorem validateAccessToken_refused (issuer : String) (world after : World S) (stop : Stop VerifyError)
    (run : validateAccessToken env config parsed issuer world = (.error stop,after)) :
    after = world ∨ (VerifiableAlg env parsed.token ∧ after = world.called (.keysFor issuer)) := by
  unfold validateAccessToken at run
  simp only [Exec.bind_error,Exec.lift_error,Exec.lift_ok,Exec.checked_ok,Exec.checked_error,keysFor_ok,
    Except.ensure_ok] at run
  rcases run with ⟨_,early⟩ | ⟨header,_,⟨peeked,rfl⟩,⟨_,early⟩ | ⟨_,_,⟨policy,rfl⟩,⟨_,early⟩ |
    ⟨_,_,⟨verifiable,rfl⟩,run⟩⟩⟩
  · exact Or.inl early
  · exact Or.inl early
  · exact Or.inl early
  · right
    refine ⟨⟨header,peeked,policy,verifiable⟩,?_⟩
    rcases run with failed | ⟨keys,_,⟨_,rfl⟩,⟨_,late⟩ | ⟨claims,_,⟨_,rfl⟩,⟨_,late⟩ | ⟨_,_,_,done⟩⟩⟩
    · exact keysFor_error env issuer _ after stop failed
    · exact late
    · exact late
    · cases done

theorem validateToken_passed (issuer : String) (dpopScheme : Bool) (world after : World S) (claims : Claims)
    (run : validateToken env config req parsed issuer dpopScheme world = (.ok claims,after)) :
    TokenPassed env config parsed issuer claims ∧
      checkPossession env.build env.crates config (nowSecs env.proofClock) req parsed.token dpopScheme claims =
        .ok () ∧ after = world.called (.keysFor issuer) := by
  unfold validateToken at run
  simp only [Exec.bind_ok,Exec.checked_ok,Exec.pure_run] at run
  obtain ⟨found,_,validated,_,_,⟨possessed,rfl⟩,done⟩ := run
  cases done
  obtain ⟨passed,called⟩ := validateAccessToken_passed env config parsed issuer world _ claims validated
  exact ⟨passed,possessed,called⟩

theorem validateToken_refused (issuer : String) (dpopScheme : Bool) (world after : World S)
    (stop : Stop VerifyError)
    (run : validateToken env config req parsed issuer dpopScheme world = (.error stop,after)) :
    after = world ∨ (VerifiableAlg env parsed.token ∧ after = world.called (.keysFor issuer)) := by
  unfold validateToken at run
  simp only [Exec.bind_error,Exec.checked_ok,Exec.checked_error] at run
  rcases run with refused | ⟨claims,_,validated,⟨_,late⟩ | ⟨_,_,_,done⟩⟩
  · exact validateAccessToken_refused env config parsed issuer world after stop refused
  · obtain ⟨passed,called⟩ := validateAccessToken_passed env config parsed issuer world _ claims validated
    exact Or.inr ⟨passed.alg,late.trans called⟩
  · cases done

variable (presented : parseAuthorization env.crates req.authorization = some parsed)

include presented

theorem authenticate_passed (world after : World S) (authenticated : Authenticated)
    (run : authenticate env config req parsed world = (.ok authenticated,after)) :
    ChecksPassed env config req parsed authenticated ∧
      after = world.called (.keysFor authenticated.claimedIssuer) := by
  unfold authenticate at run
  simp only [Exec.bind_ok,Exec.lift_ok,Except.ensure_ok,peekIssuer_ok,Exec.pure_run] at run
  obtain ⟨_,_,⟨gate,rfl⟩,issuer,_,⟨⟨peeked,payload,iss,_⟩,rfl⟩,_,_,⟨trusted,rfl⟩,claims,_,validated,webId,_,
    ⟨identity,rfl⟩,_,_,⟨party,rfl⟩,done⟩ := run
  cases done
  obtain ⟨passed,possessed,called⟩ := validateToken_passed env config req parsed issuer _ _ _ claims validated
  exact ⟨⟨⟨presented,⟨peeked,payload,iss⟩,trusted,passed.alg⟩,gate,passed,possessed,identity,party⟩,called⟩

theorem authenticate_refused (world after : World S) (stop : Stop VerifyError)
    (run : authenticate env config req parsed world = (.error stop,after)) :
    after = world ∨ ∃ issuer, KeysAllowed env config req parsed issuer ∧ after = world.called (.keysFor issuer) := by
  unfold authenticate at run
  simp only [Exec.bind_error,Exec.lift_error,Exec.lift_ok,Except.ensure_ok,peekIssuer_ok] at run
  rcases run with ⟨_,early⟩ | ⟨_,_,⟨_,rfl⟩,⟨_,early⟩ | ⟨issuer,_,⟨⟨peeked,payload,iss,_⟩,rfl⟩,⟨_,early⟩ |
    ⟨_,_,⟨trusted,rfl⟩,run⟩⟩⟩
  · exact Or.inl early
  · exact Or.inl early
  · exact Or.inl early
  · rcases run with refused | ⟨claims,middle,validated,late⟩
    · apply Or.imp_right _ (validateToken_refused env config req parsed issuer _ _ after stop refused)
      intro asked
      exact ⟨issuer,⟨presented,⟨peeked,payload,iss⟩,trusted,asked.1⟩,asked.2⟩
    · obtain ⟨passed,_,called⟩ := validateToken_passed env config req parsed issuer _ _ _ claims validated
      have kept : after = middle := by
        rcases late with ⟨_,same⟩ | ⟨_,_,⟨_,rfl⟩,⟨_,same⟩ | ⟨_,_,_,done⟩⟩
        · exact same
        · exact same
        · cases done
      exact Or.inr ⟨issuer,⟨presented,⟨peeked,payload,iss⟩,trusted,passed.alg⟩,kept.trans called⟩

omit presented

/-- The traces of calls, with the store they leave. -/
inductive CallTrace (store : S) : List Call → S → Prop where
  | silent : CallTrace store [] store
  | keys (parsed : Parsed) (issuer : String) (allowed : KeysAllowed env config req parsed issuer) :
    CallTrace store [.keysFor issuer] store
  | marked (parsed : Parsed) (authenticated : Authenticated) (proof jti : String) (ttl : Nat)
    (passed : ChecksPassed env config req parsed authenticated) (given : req.dpop = some proof)
    (carried : proofJti env.crates proof = some jti) :
    CallTrace store [.keysFor authenticated.claimedIssuer,.mark jti ttl] (env.replay.mark jti ttl store).2
  | resolved (parsed : Parsed) (authenticated : Authenticated)
    (passed : ChecksPassed env config req parsed authenticated) (proofless : req.dpop = none) :
    CallTrace store [.keysFor authenticated.claimedIssuer,.resolve authenticated.webId] store
  | markedResolved (parsed : Parsed) (authenticated : Authenticated) (proof jti : String) (ttl : Nat)
    (passed : ChecksPassed env config req parsed authenticated) (given : req.dpop = some proof)
    (carried : proofJti env.crates proof = some jti)
    (admitted : Admits config (env.replay.mark jti ttl store).1) :
    CallTrace store [.keysFor authenticated.claimedIssuer,.mark jti ttl,.resolve authenticated.webId]
      (env.replay.mark jti ttl store).2

theorem checkBidirectional_calls (webId issuer : String) (world : World S) :
    (checkBidirectional config webId issuer world).2 = world ∨
      (checkBidirectional config webId issuer world).2 = world.called (.resolve webId) := by
  unfold checkBidirectional
  by_cases off : config.bidirectionalMode = .off
  · rw [if_pos off]
    exact Or.inl rfl
  · rw [if_neg off]
    cases config.webidResolver with
    | none => exact Or.inl rfl
    | some resolver => exact Or.inr rfl

theorem replayStep_calls (world : World S) :
    (req.dpop = none ∧ replayStep env config req world = (.ok (),world)) ∨
    (∃ stop, (stop = .panicked ∨ stop = .rejected (invalidTokenDpop "DPoP proof is missing a jti.")) ∧
      replayStep env config req world = (.error stop,world)) ∨
    ∃ proof jti ttl, req.dpop = some proof ∧ proofJti env.crates proof = some jti ∧
      replayStep env config req world = (acceptReply config (env.replay.mark jti ttl world.store).1,
        ⟨(env.replay.mark jti ttl world.store).2,world.calls ++ [.mark jti ttl]⟩) := by
  unfold replayStep
  cases req.dpop with
  | none => exact Or.inl ⟨rfl,rfl⟩
  | some proof =>
    right
    dsimp only
    rw [checkReplay_run]
    cases carried : proofJti env.crates proof with
    | none => exact Or.inl ⟨_,Or.inr rfl,rfl⟩
    | some jti =>
      cases config.replayTtl env.build with
      | none => exact Or.inl ⟨_,Or.inl rfl,rfl⟩
      | some ttl => exact Or.inr ⟨proof,jti,ttl,rfl,carried,rfl⟩

/-- What a request that passed the checks does with the store and the profile. -/
def conclude (authenticated : Authenticated) : Exec (World S) VerifyError VerifiedToken := do
  replayStep env config req
  checkBidirectional config authenticated.webId authenticated.issuer
  return authenticated.credentials

theorem conclude_calls (world : World S) (authenticated : Authenticated)
    (passed : ChecksPassed env config req parsed authenticated) :
    ∃ trace, (conclude env config req authenticated (world.called (.keysFor authenticated.claimedIssuer))).2.calls =
        world.calls ++ trace ∧ CallTrace env config req world.store trace
          (conclude env config req authenticated (world.called (.keysFor authenticated.claimedIssuer))).2.store := by
  unfold conclude
  obtain ⟨proofless,skipped⟩ | ⟨stop,_,refused⟩ | ⟨proof,jti,ttl,given,carried,asked⟩ :=
    replayStep_calls env config req (world.called (.keysFor authenticated.claimedIssuer))
  · rw [Exec.bind_of_ok _ _ _ _ _ skipped,then_pure_state]
    obtain same | fetched := checkBidirectional_calls config authenticated.webId authenticated.issuer
      (world.called (.keysFor authenticated.claimedIssuer))
    · rw [same]
      exact ⟨_,rfl,.keys parsed _ passed.allowed⟩
    · rw [fetched]
      exact ⟨[_,_],by simp [World.called],.resolved parsed authenticated passed proofless⟩
  · rw [Exec.bind_of_error _ _ _ _ _ refused]
    exact ⟨_,rfl,.keys parsed _ passed.allowed⟩
  · cases reply : acceptReply config
        (env.replay.mark jti ttl (world.called (.keysFor authenticated.claimedIssuer)).store).1 with
    | error stop =>
      rw [reply] at asked
      rw [Exec.bind_of_error _ _ _ _ _ asked]
      exact ⟨[_,_],by simp [World.called],.marked parsed authenticated proof jti ttl passed given carried⟩
    | ok value =>
      rw [reply] at asked
      rw [Exec.bind_of_ok _ _ _ _ _ asked,then_pure_state]
      obtain same | fetched := checkBidirectional_calls config authenticated.webId authenticated.issuer
        ⟨(env.replay.mark jti ttl (world.called (.keysFor authenticated.claimedIssuer)).store).2,
          (world.called (.keysFor authenticated.claimedIssuer)).calls ++ [.mark jti ttl]⟩
      · rw [same]
        exact ⟨[_,_],by simp [World.called],.marked parsed authenticated proof jti ttl passed given carried⟩
      · rw [fetched]
        exact ⟨[_,_,_],by simp [World.called],.markedResolved parsed authenticated proof jti ttl passed given
          carried ((acceptReply_ok _ _ _).mp reply)⟩

/-- Every run makes one of these traces of calls, whatever the seams answer. -/
theorem verify_calls (world : World S) : ∃ trace, (verify env config req world).2.calls = world.calls ++ trace ∧
    CallTrace env config req world.store trace (verify env config req world).2.store := by
  unfold verify
  cases presented : parseAuthorization env.crates req.authorization with
  | none => exact ⟨[],(List.append_nil _).symm,.silent⟩
  | some parsed =>
    change ∃ trace, ((authenticate env config req parsed >>= conclude env config req) world).2.calls = _ ∧
      CallTrace env config req world.store trace
        ((authenticate env config req parsed >>= conclude env config req) world).2.store
    generalize outcome : authenticate env config req parsed world = result
    obtain ⟨answer,middle⟩ := result
    cases answer with
    | error stop =>
      rw [Exec.bind_of_error _ _ _ _ _ outcome]
      obtain same | ⟨issuer,allowed,called⟩ :=
        authenticate_refused env config req parsed presented world middle stop outcome
      · rw [same]
        exact ⟨[],(List.append_nil _).symm,.silent⟩
      · rw [called]
        exact ⟨_,rfl,.keys parsed issuer allowed⟩
    | ok authenticated =>
      rw [Exec.bind_of_ok _ _ _ _ _ outcome]
      obtain ⟨passed,called⟩ := authenticate_passed env config req parsed presented world middle authenticated outcome
      rw [called]
      exact conclude_calls env config req parsed world authenticated passed

end requests

end SolidOidcVerifier
