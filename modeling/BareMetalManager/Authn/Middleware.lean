import BareMetalManager.Authn.Certificate

/-!
# Node tokens and the authentication middleware

The validation of node tokens in `crates/api-core/src/node_auth.rs`: a node signs a short-lived
token with the key of its client certificate and sends the certificate chain along. The token
libraries are the class `TokenLibrary`, and the certificate verifier is a field of the validator.

In `crates/authn/src/middleware.rs` the principals of a request come from the bearer token of its
`Authorization` header and from the certificates that the client presented. The TLS handshake
verifies the first certificate only, but the middleware maps all of them.
-/

namespace Authn

open Checked

inductive Algorithm where
  | es256
  | other
  deriving DecidableEq, Repr

/-- The header of a token, with the encoded certificate chain. -/
structure TokenHeader where
  alg : Algorithm
  x5c : Option (List Text)
  deriving DecidableEq, Repr

structure NodeClaims where
  sub : Text
  iat : Nat
  exp : Nat
  deriving DecidableEq, Repr

/-- The token library: decoding of headers and of certificate chains, and the check
of the signature and of the registered claims with a public key. -/
class TokenLibrary (δ : Type) where
  decodeHeader : Text → Option TokenHeader
  x5cDer : TokenHeader → Option (Option (List δ))
  decode : Text → List UInt8 → Option NodeClaims

open TokenLibrary

def nodeJwtMaxX5cCertificates : Nat := 4

inductive RejectReason where
  | malformed
  | algorithm (found : Algorithm)
  | noChain
  | chainTooLong (actual maximum : Nat)
  | chain
  | leafCertificateParse
  | claims
  | lifetime
  | spiffe (err : SpiffeValidationError)
  | subjectMismatch
  | clock
  deriving DecidableEq, Repr

/-- The validator: the installed certificate verifier and the limits of a token's
lifetime in seconds. -/
structure NodeJwtValidator (δ : Type) where
  verifyClientCert : δ → List δ → Nat → Bool
  leeway : Nat
  maxTokenTtlSec : Nat

/-- The clocks that a validation reads: the time of the chain verification, and the
seconds since the epoch, if the clock is past it. -/
structure Clock where
  unixTime : Nat
  sinceEpoch : Option Nat

section Validate

variable {δ : Type} [X509Parser δ] [TokenLibrary δ]

/-- The certificate chain of a token, leaf first. -/
def tokenChain (token : Text) : Checked (Except RejectReason (δ × List δ)) :=
  match decodeHeader δ token with
  | none => .ok (.error .malformed)
  | some header =>
    if header.alg ≠ .es256 then .ok (.error (.algorithm header.alg))
    else
      match header.x5c with
      | none | some [] => .ok (.error .noChain)
      | some (first :: rest) =>
        if nodeJwtMaxX5cCertificates < (first :: rest).length then
          .ok (.error (.chainTooLong (first :: rest).length nodeJwtMaxX5cCertificates))
        else
          match x5cDer header with
          | none => .ok (.error .malformed)
          | some none => .ok (.error .noChain)
          | some (some []) => .error .outOfBounds
          | some (some (leaf :: intermediates)) => .ok (.ok (leaf, intermediates))

namespace NodeJwtValidator

variable (validator : NodeJwtValidator δ)

/-- The token's lifetime is ordered and bounded. The sums are checked 64-bit ones. -/
def lifetimeOk (claims : NodeClaims) (now : Nat) : Checked Bool :=
  if claims.iat > claims.exp then .ok false
  else do
    let latestIat ← add 64 now validator.leeway
    if claims.iat > latestIat then return false
    else if claims.exp - claims.iat > validator.maxTokenTtlSec then return false
    else
      let latestExp ← add 64 (← add 64 now validator.maxTokenTtlSec)
        validator.leeway
      return !decide (claims.exp > latestExp)

variable (clock : Clock) (token : Text)

/-- The checks of the chain, of the signature and of the lifetime. -/
def checkToken (leaf : δ) (intermediates : List δ) : Checked (Except RejectReason NodeClaims) :=
  if validator.verifyClientCert leaf intermediates clock.unixTime then
    match X509Parser.fromDer leaf with
    | none => .ok (.error .leafCertificateParse)
    | some x509 =>
      match decode δ token x509.subjectPublicKey with
      | none => .ok (.error .claims)
      | some claims =>
        match clock.sinceEpoch with
        | none => .ok (.error .clock)
        | some now => do
            if ← validator.lifetimeOk claims now then return .ok claims
            else return .error .lifetime
  else .ok (.error .chain)

/-- The SPIFFE URI of a valid token. It is the one of the verified leaf certificate;
the subject of the token has to agree with it. -/
def validate : Checked (Except RejectReason Text) := do
  match ← tokenChain token with
  | .error reason => return .error reason
  | .ok (leaf, intermediates) =>
    match ← validator.checkToken clock token leaf intermediates with
    | .error reason => return .error reason
    | .ok claims =>
      match ← validateX509Certificate leaf with
      | .error err => return .error (.spiffe err)
      | .ok id =>
        if claims.sub = id.toText then return .ok id.toText
        else return .error .subjectMismatch

def spiffeIdFromBearer : Checked (Option Text) := do
  match ← validator.validate clock token with
  | .ok uri => return some uri
  | .error _ => return none

/-- The chain of a token was verified up to `leaf`, and its signature was checked
with the key of `leaf`. -/
def Verified (leaf : δ) : Prop :=
  ∃ intermediates x509 claims,
    tokenChain token = .ok (.ok (leaf, intermediates)) ∧
    validator.verifyClientCert leaf intermediates clock.unixTime = true ∧
    X509Parser.fromDer leaf = some x509 ∧
    decode δ token x509.subjectPublicKey = some claims

variable {validator clock token}

theorem checkToken_eq_ok {leaf : δ} {intermediates : List δ} {claims : NodeClaims}
    (passed : validator.checkToken clock token leaf intermediates = .ok (.ok claims)) :
    validator.verifyClientCert leaf intermediates clock.unixTime = true ∧
      ∃ x509, X509Parser.fromDer leaf = some x509 ∧
        decode δ token x509.subjectPublicKey = some claims := by
  unfold checkToken at passed
  split at passed
  next verified =>
    refine ⟨verified, ?_⟩
    split at passed
    next => cases passed
    next x509 parsed =>
      split at passed
      next => cases passed
      next found decoded =>
        split at passed
        next => cases passed
        next now _ =>
          obtain ⟨bounded, -, passed⟩ := bind_eq_ok.mp passed
          split at passed <;> cases passed
          exact ⟨x509, parsed, decoded⟩
  next => cases passed

/-- The URI of a valid token is the SPIFFE ID of a leaf certificate whose chain was
verified and whose key has signed the token. -/
theorem spiffeIdFromBearer_eq_some {uri : Text}
    (accepted : validator.spiffeIdFromBearer clock token = .ok (some uri)) :
    ∃ leaf id, validator.Verified clock token leaf ∧
      validateX509Certificate leaf = .ok (.ok id) ∧ uri = id.toText := by
  obtain ⟨outcome, validated, accepted⟩ := bind_eq_ok.mp accepted
  cases outcome with
  | error reason => cases accepted
  | ok found =>
    cases accepted
    obtain ⟨chain, chainEq, validated⟩ := bind_eq_ok.mp validated
    cases chain with
    | error reason => cases validated
    | ok chain =>
      obtain ⟨leaf, intermediates⟩ := chain
      obtain ⟨checked, passed, validated⟩ := bind_eq_ok.mp validated
      cases checked with
      | error reason => cases validated
      | ok claims =>
        obtain ⟨outcome, idEq, validated⟩ := bind_eq_ok.mp validated
        cases outcome with
        | error err => cases validated
        | ok id =>
          simp only at validated
          split at validated <;> cases validated
          obtain ⟨verified, x509, parsed, decoded⟩ := checkToken_eq_ok passed
          exact ⟨leaf, id, ⟨intermediates, x509, claims, chainEq, verified, parsed, decoded⟩,
            idEq, rfl⟩

end NodeJwtValidator

end Validate

/-! ## The middleware -/

open List

/-- A request, as the middleware sees it: the `Authorization` header, whose value may not be text,
and the certificates of the connection, leaf first, if the listener has recorded them. -/
structure AuthRequest (δ : Type) where
  authorization : Option (Option Text)
  peerCertificates : Option (List δ)

structure CertDescriptionMiddleware (δ : Type) where
  certificateContext : CertificateContext
  bearerAuthenticator : Option (NodeJwtValidator δ)
  machineCertsEnabled : Bool

/-- The token of an `Authorization: Bearer` header. -/
def bearerTokenFromHeaders (authorization : Option (Option Text)) : Option Text :=
  match authorization with
  | some (some value) =>
    match value.splitOnce ' ' with
    | some (scheme, token) =>
      if scheme.eqIgnoreAsciiCase ['B', 'e', 'a', 'r', 'e', 'r'] then
        some (token.trimMatches Text.isWhiteSpace)
      else none
    | none => none
  | _ => none

/-- The principals minted so far, the errors of the certificates that map to none,
and whether a machine certificate was refused. -/
structure MintState where
  principals : List Principal
  rejections : List SpiffeError
  refusedMachineCert : Bool
  deriving DecidableEq, Repr

/-- The principals of a request, and the error that is reported when the presented
certificates mint none. -/
structure AuthOutcome where
  principals : List Principal
  rejected : Option SpiffeError
  deriving DecidableEq, Repr

def Principal.isMachine : Principal → Bool
  | spiffeMachineIdentifier _ => true
  | _ => false

namespace CertDescriptionMiddleware

variable {δ : Type} [X509Parser δ]

variable (middleware : CertDescriptionMiddleware δ) (state : MintState) (certificate : δ)

def mintCertificate : Checked MintState := do
  match ← tryFromClientCertificate middleware.certificateContext certificate with
  | .error err => return { state with rejections := state.rejections ++ [err] }
  | .ok principal =>
    if principal.isMachine && !middleware.machineCertsEnabled then
      return { state with refusedMachineCert := true }
    else return { state with principals := state.principals ++ [principal] }

def Mints (principal : Principal) : Prop :=
  tryFromClientCertificate middleware.certificateContext certificate = .ok (.ok principal) ∧
    (principal.isMachine && !middleware.machineCertsEnabled) = false

variable {middleware state}

variable {certificate : δ}

theorem mintCertificate_eq_ok {next : MintState}
    (minted : middleware.mintCertificate state certificate = .ok next) (principal : Principal) :
    principal ∈ next.principals ↔
      principal ∈ state.principals ∨ Mints middleware certificate principal := by
  obtain ⟨outcome, outcomeEq, minted⟩ := bind_eq_ok.mp minted
  unfold Mints
  rw [outcomeEq]
  cases outcome with
  | error err =>
    cases minted
    simp
  | ok found =>
    simp only at minted
    split at minted
    next gated =>
      cases minted
      grind
    next passes =>
      cases minted
      grind

variable {certificates : List δ}

theorem foldlM_mintCertificate_eq_ok {result : MintState}
    (minted : certificates.foldlM middleware.mintCertificate state = .ok result)
    (principal : Principal) :
    principal ∈ result.principals ↔ principal ∈ state.principals ∨
      ∃ certificate ∈ certificates, Mints middleware certificate principal := by
  induction certificates generalizing state with
  | nil =>
    cases minted
    simp
  | cons certificate certificates ih =>
    obtain ⟨next, nextEq, minted⟩ := bind_eq_ok.mp minted
    rw [ih minted, mintCertificate_eq_ok nextEq]
    simp [or_assoc]

theorem exists_mintCertificate_iff :
    (∃ next, middleware.mintCertificate state certificate = .ok next) ↔
      ∃ outcome, tryFromClientCertificate middleware.certificateContext certificate =
        .ok outcome := by
  constructor
  · intro ⟨next, minted⟩
    obtain ⟨outcome, outcomeEq, -⟩ := bind_eq_ok.mp minted
    exact ⟨outcome, outcomeEq⟩
  · intro ⟨outcome, outcomeEq⟩
    rw [mintCertificate, outcomeEq]
    cases outcome with
    | error err => exact ⟨_, rfl⟩
    | ok principal =>
      simp only [bind, Except.bind]
      split <;> exact ⟨_, rfl⟩

/-- The loop over the certificates ends unless reading one of them panics. -/
theorem exists_foldlM_mintCertificate_iff :
    (∃ result, certificates.foldlM middleware.mintCertificate state = .ok result) ↔
      ∀ certificate ∈ certificates, ∃ outcome,
        tryFromClientCertificate middleware.certificateContext certificate = .ok outcome := by
  induction certificates generalizing state with
  | nil => exact ⟨fun _ _ mem => absurd mem not_mem_nil, fun _ => ⟨state, rfl⟩⟩
  | cons certificate certificates ih =>
    rw [foldlM_cons, forall_mem_cons]
    constructor
    · intro ⟨result, minted⟩
      obtain ⟨next, nextEq, minted⟩ := bind_eq_ok.mp minted
      exact ⟨exists_mintCertificate_iff.mp ⟨next, nextEq⟩, ih.mp ⟨result, minted⟩⟩
    · intro ⟨first, total⟩
      obtain ⟨next, nextEq⟩ := exists_mintCertificate_iff.mpr first
      rw [nextEq]
      exact ih.mpr total

variable [TokenLibrary δ]

variable (middleware : CertDescriptionMiddleware δ) (clock : Clock) (request : AuthRequest δ)

def bearerPrincipals : Checked (List Principal) :=
  match middleware.bearerAuthenticator, bearerTokenFromHeaders request.authorization with
  | some authenticator, some token => do
      match ← authenticator.spiffeIdFromBearer clock token with
      | none => return []
      | some uri =>
        match ← SpiffeId.new uri with
        | .error _ => return []
        | .ok id =>
          match middleware.certificateContext.spiffeContext.extractServiceIdentifier id with
          | .error _ => return []
          | .ok idClass => return [idClass.principal, .trustedCertificate]
  | _, _ => .ok []

def call : Checked AuthOutcome := do
  let bearer ← middleware.bearerPrincipals clock request
  match request.peerCertificates with
  | none => return ⟨bearer, none⟩
  | some certificates =>
    let state ← certificates.foldlM middleware.mintCertificate ⟨bearer, [], false⟩
    let mintedNone := state.principals.length == bearer.length
    let refusedTheOnlyCredential := state.refusedMachineCert && mintedNone
    return {
      principals :=
        if !certificates.isEmpty && !refusedTheOnlyCredential then
          state.principals ++ [.trustedCertificate]
        else state.principals
      rejected := if mintedNone then state.rejections.head? else none }

/-! ## Where principals come from -/

/-- A principal is derived from a verified certificate: the end-entity certificate of
the connection, or the leaf of a node token whose chain and signature were checked. -/
inductive Derived (principal : Principal) : Prop where
  | endEntity {certificate : δ} {rest : List δ}
      (presented : request.peerCertificates = some (certificate :: rest))
      (mapped : tryFromClientCertificate middleware.certificateContext certificate =
        .ok (.ok principal))
  | nodeToken {validator : NodeJwtValidator δ} {token : Text} {leaf : δ}
      (configured : middleware.bearerAuthenticator = some validator)
      (carried : bearerTokenFromHeaders request.authorization = some token)
      (verified : validator.Verified clock token leaf)
      (mapped : tryFromClientCertificate middleware.certificateContext leaf =
        .ok (.ok principal))

def Panics : Prop :=
  (∃ reason, middleware.bearerPrincipals clock request = .error reason) ∨
    ∃ certificates, request.peerCertificates = some certificates ∧
      ∃ certificate ∈ certificates, ∃ reason,
        tryFromClientCertificate middleware.certificateContext certificate = .error reason

variable {middleware clock request}

theorem mem_bearerPrincipals {principals : List Principal} {principal : Principal}
    (minted : middleware.bearerPrincipals clock request = .ok principals)
    (mem : principal ∈ principals) (identity : principal.isIdentity = true) :
    Derived middleware clock request principal := by
  unfold bearerPrincipals at minted
  split at minted
  next authenticator token configured carried =>
    obtain ⟨accepted, acceptedEq, minted⟩ := bind_eq_ok.mp minted
    cases accepted with
    | none =>
      cases minted
      cases mem
    | some uri =>
      obtain ⟨leaf, id, verified, validated, rfl⟩ :=
        NodeJwtValidator.spiffeIdFromBearer_eq_some acceptedEq
      simp only [SpiffeId.new_toText_of_validated validated, bind, Except.bind] at minted
      split at minted
      next =>
        cases minted
        cases mem
      next idClass recognized =>
        cases minted
        rcases mem_cons.mp mem with rfl | mem
        · exact .nodeToken configured carried verified
            (tryFromClientCertificate_of_spiffe validated recognized)
        · rw [mem_singleton.mp mem] at identity
          cases identity
  next =>
    cases minted
    cases mem

/-- The identities of a request are those of its token and of all presented
certificates. -/
theorem call_eq_ok {outcome : AuthOutcome} (called : middleware.call clock request = .ok outcome) :
    ∃ bearer, middleware.bearerPrincipals clock request = .ok bearer ∧
      ∀ principal, principal.isIdentity = true →
        (principal ∈ outcome.principals ↔ principal ∈ bearer ∨
          ∃ certificates, request.peerCertificates = some certificates ∧
            ∃ certificate ∈ certificates, Mints middleware certificate principal) := by
  obtain ⟨bearer, bearerEq, called⟩ := bind_eq_ok.mp called
  refine ⟨bearer, bearerEq, ?_⟩
  intro principal identity
  cases presented : request.peerCertificates with
  | none =>
    rw [presented] at called
    cases called
    simp
  | some certificates =>
    rw [presented] at called
    obtain ⟨state, stateEq, called⟩ := bind_eq_ok.mp called
    cases called
    have minted := foldlM_mintCertificate_eq_ok stateEq principal
    have notTrusted : principal ≠ .trustedCertificate := by
      rintro rfl
      cases identity
    simp only [Option.some.injEq, exists_eq_left']
    rw [← minted]
    split
    · simp [notTrusted]
    · rfl

/-- The middleware returns unless reading a token or a certificate panics. -/
theorem exists_call_eq_ok_iff :
    (∃ outcome, middleware.call clock request = .ok outcome) ↔
      ¬ Panics middleware clock request := by
  unfold Panics call
  cases bearerEq : middleware.bearerPrincipals clock request with
  | error reason => simp [bind, Except.bind]
  | ok bearer =>
    cases presented : request.peerCertificates with
    | none => simp [bind, Except.bind, pure, Except.pure]
    | some certificates =>
      have loop : (∃ state, certificates.foldlM middleware.mintCertificate
          ⟨bearer, [], false⟩ = .ok state) ↔ _ := exists_foldlM_mintCertificate_iff
      simp only [← not_exists_error_iff] at loop
      cases loopEq : certificates.foldlM middleware.mintCertificate ⟨bearer, [], false⟩ with
      | error reason =>
        simpa [bind, Except.bind, loopEq] using loop
      | ok state =>
        simpa [bind, Except.bind, pure, Except.pure, loopEq] using loop

/-- All identities of a request are derived from verified certificates if and only if reading it
panics, or no certificate after the first adds an identity that is not derived from the first
certificate or from the token. -/
theorem call_derived_iff (middleware : CertDescriptionMiddleware δ) (clock : Clock)
    (request : AuthRequest δ) :
    (∀ outcome, middleware.call clock request = .ok outcome →
        ∀ principal ∈ outcome.principals, principal.isIdentity = true →
          Derived middleware clock request principal) ↔
      Panics middleware clock request ∨
        ∀ first rest, request.peerCertificates = some (first :: rest) →
          ∀ certificate ∈ rest, ∀ principal, Mints middleware certificate principal →
            Derived middleware clock request principal := by
  constructor
  · intro derived
    by_cases panics : Panics middleware clock request
    · exact .inl panics
    · right
      obtain ⟨outcome, called⟩ := exists_call_eq_ok_iff.mpr panics
      obtain ⟨bearer, -, minted⟩ := call_eq_ok called
      intro first rest presented certificate mem principal mints
      have identity := tryFromClientCertificate_isIdentity mints.1
      apply derived outcome called principal _ identity
      exact (minted principal identity).mpr (.inr ⟨first :: rest, presented, certificate,
        mem_cons_of_mem _ mem, mints⟩)
  · intro condition outcome called principal mem identity
    obtain ⟨bearer, bearerEq, minted⟩ := call_eq_ok called
    rcases condition with panics | later
    · exact absurd panics (exists_call_eq_ok_iff.mp ⟨outcome, called⟩)
    · rcases (minted principal identity).mp mem with inBearer |
        ⟨certificates, presented, certificate, certificateIn, mints⟩
      · exact mem_bearerPrincipals bearerEq inBearer identity
      · cases certificates with
        | nil => cases certificateIn
        | cons first rest =>
          rcases mem_cons.mp certificateIn with rfl | inRest
          · exact .endEntity presented mints.1
          · exact later first rest presented certificate inRest principal mints

/-! ## A copied certificate

Parsed certificates stand for their encodings, and no token is readable. The client
presents its own machine certificate and appends a public service certificate. -/

instance : X509Parser X509Certificate where
  fromDer := some

instance : TokenLibrary X509Certificate where
  decodeHeader _ := none
  x5cDer _ := none
  decode _ _ := none

/-- A trust domain `t` with services below `/s/` and machines below `/m/`. -/
def smallSite : CertDescriptionMiddleware X509Certificate where
  certificateContext :=
    { spiffeContext :=
        { trustDomain := ⟨['t']⟩
          serviceBasePaths := [['/', 's', '/']]
          machineBasePath := ['/', 'm', '/']
          additionalIssuerCns := [] }
      extraAllowedCerts := none }
  bearerAuthenticator := none
  machineCertsEnabled := true

/-- A leaf certificate for a path of the trust domain `t`. -/
def leafCert (path : Text) : X509Certificate where
  issuer := []
  subject := []
  basicConstraints := .absent
  keyUsage := .absent
  subjectAlternativeName := .present [.uri (SpiffeId.schemePrefix ++ ['t'] ++ path)]
  subjectPublicKey := []

/-- Machine `7` presents its certificate and a copy of the one of service `a`. -/
def copiedCertRequest : AuthRequest X509Certificate where
  authorization := none
  peerCertificates := some [leafCert ['/', 'm', '/', '7'], leafCert ['/', 's', '/', 'a']]

/-- The machine is taken for the service. -/
theorem copiedCertRequest_mints_service :
    ¬ ∀ outcome, smallSite.call ⟨0, some 0⟩ copiedCertRequest = .ok outcome →
      ∀ principal ∈ outcome.principals, principal.isIdentity = true →
        Derived smallSite ⟨0, some 0⟩ copiedCertRequest principal := by
  intro sound
  have called : smallSite.call ⟨0, some 0⟩ copiedCertRequest =
      .ok ⟨[.spiffeMachineIdentifier ['7'], .spiffeServiceIdentifier ['a'],
        .trustedCertificate], none⟩ := by decide +kernel
  have firstMaps : tryFromClientCertificate smallSite.certificateContext
      (leafCert ['/', 'm', '/', '7']) = .ok (.ok (.spiffeMachineIdentifier ['7'])) := by
    decide +kernel
  have derived := sound _ called (.spiffeServiceIdentifier ['a']) (by decide) rfl
  cases derived with
  | endEntity presented mapped =>
    cases presented
    rw [firstMaps] at mapped
    cases mapped
  | nodeToken configured _ _ _ => cases configured

end CertDescriptionMiddleware

end Authn
