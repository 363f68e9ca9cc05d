import BareMetalManager.Authn.SpiffeId

/-!
# Certificates and principals

How `crates/authn/src/lib.rs` and `crates/authn/src/middleware.rs` read a principal out of a
client certificate. The result of the X.509 parser is the structure `X509Certificate`, with the
fields that the source looks at. No function here verifies a certificate.
-/

namespace Authn

/-! ## Parsed certificates -/

abbrev Oid := List Nat

namespace Oid

def organizationName : Oid := [2, 5, 4, 10]

def organizationalUnit : Oid := [2, 5, 4, 11]

def commonName : Oid := [2, 5, 4, 3]

end Oid

/-- The value of an attribute: a `PrintableString` or a string of another type. -/
inductive AttributeValue where
  | printable (text : Text)
  | other (text : Text)
  deriving DecidableEq, Repr

namespace AttributeValue

def text : AttributeValue → Text
  | printable text => text
  | other text => text

def asPrintablestring : AttributeValue → Option Text
  | printable text => some text
  | other _ => none

/-- The text of a `PrintableString`; any other string is read as the empty text. -/
def printableOrEmpty (value : AttributeValue) : Text := value.asPrintablestring.getD []

end AttributeValue

structure Attribute where
  attrType : Oid
  attrValue : AttributeValue
  deriving DecidableEq, Repr

/-- A distinguished name: a list of relative distinguished names. -/
abbrev X509Name := List (List Attribute)

inductive GeneralName where
  | uri (text : Text)
  | other
  deriving DecidableEq, Repr

structure KeyUsage where
  keyCertSign : Bool
  crlSign : Bool
  deriving DecidableEq, Repr

/-- An extension that may be absent, or present more than once. -/
inductive Extension (α : Type) where
  | absent
  | present (value : α)
  | duplicate
  deriving DecidableEq, Repr

structure X509Certificate where
  issuer : X509Name
  subject : X509Name
  /-- The CA flag of the Basic Constraints extension. -/
  basicConstraints : Extension Bool
  keyUsage : Extension KeyUsage
  subjectAlternativeName : Extension (List GeneralName)
  subjectPublicKey : List UInt8
  deriving DecidableEq, Repr

/-- The X.509 parser, for encoded certificates of type `δ`. -/
class X509Parser (δ : Type) where
  fromDer : δ → Option X509Certificate

/-! ## SPIFFE validation -/

/-- Why a certificate is not a valid SPIFFE certificate. -/
inductive SpiffeValidationError where
  | parse
  | multipleBasicConstraints
  | caCertificate
  | multipleKeyUsage
  | keyCertSign
  | crlSign
  | multipleSubjectAlternativeName
  | noSubjectAlternativeName
  | uriCount (count : Nat)
  | spiffeId (err : SpiffeIdError)
  deriving DecidableEq, Repr

namespace X509Certificate

variable (cert : X509Certificate)

def checkLeaf : Except SpiffeValidationError Unit :=
  match cert.basicConstraints with
  | .duplicate => .error .multipleBasicConstraints
  | .present true => .error .caCertificate
  | .present false | .absent => .ok ()

/-- The key may not sign certificates or revocation lists. -/
def checkKeyUsage : Except SpiffeValidationError Unit :=
  match cert.keyUsage with
  | .duplicate => .error .multipleKeyUsage
  | .present usage =>
    if usage.keyCertSign then .error .keyCertSign
    else if usage.crlSign then .error .crlSign
    else .ok ()
  | .absent => .ok ()

def sanUri : Except SpiffeValidationError Text :=
  match cert.subjectAlternativeName with
  | .duplicate => .error .multipleSubjectAlternativeName
  | .absent => .error .noSubjectAlternativeName
  | .present names =>
    let uris := names.filterMap fun
      | .uri text => some text
      | .other => none
    match uris with
    | [uri] => .ok uri
    | uris => .error (.uriCount uris.length)

end X509Certificate

section Parser

variable {δ : Type} [X509Parser δ]

def certificateUri (certificate : δ) : Except SpiffeValidationError Text :=
  match X509Parser.fromDer certificate with
  | none => .error .parse
  | some cert => do
      cert.checkLeaf
      cert.checkKeyUsage
      cert.sanUri

def validateX509Certificate (certificate : δ) :
    Checked (Except SpiffeValidationError SpiffeId) :=
  match certificateUri certificate with
  | .error err => .ok (.error err)
  | .ok uri => do
      match ← SpiffeId.new uri with
      | .error err => return .error (.spiffeId err)
      | .ok id => return .ok id

end Parser

/-- The two kinds of SPIFFE identities, with the part after the base path. -/
inductive SpiffeIdClass where
  | service (identifier : Text)
  | machine (identifier : Text)
  deriving DecidableEq, Repr

def SpiffeIdClass.identifier : SpiffeIdClass → Text
  | service identifier => identifier
  | machine identifier => identifier

inductive SpiffeContextError where
  | notMember (found expected : TrustDomain)
  | emptyIdentifier
  | unrecognizedPath (path : Text)
  deriving DecidableEq, Repr

structure SpiffeContext where
  trustDomain : TrustDomain
  serviceBasePaths : List Text
  machineBasePath : Text
  additionalIssuerCns : List Text
  deriving DecidableEq, Repr

def SpiffeContext.extractServiceIdentifier (context : SpiffeContext) (id : SpiffeId) :
    Except SpiffeContextError SpiffeIdClass :=
  if id.trustDomain ≠ context.trustDomain then
    .error (.notMember id.trustDomain context.trustDomain)
  else
    let maybeService := (context.serviceBasePaths.findSome? fun base =>
      id.path.stripPrefix base).map SpiffeIdClass.service
    let maybeMachine := (id.path.stripPrefix context.machineBasePath).map SpiffeIdClass.machine
    match maybeService.or maybeMachine with
    | some identifier =>
      if identifier.identifier = [] then .error .emptyIdentifier else .ok identifier
    | none => .error (.unrecognizedPath id.path)

/-! ## Principals -/

/-- Properties of a user found in a certificate. -/
structure ExternalUserInfo where
  org : Option Text
  group : Text
  user : Option Text
  deriving DecidableEq, Repr

inductive Principal where
  | spiffeServiceIdentifier (identifier : Text)
  | spiffeMachineIdentifier (identifier : Text)
  | externalUser (info : ExternalUserInfo)
  | trustedCertificate
  | anonymous
  deriving DecidableEq, Repr

def SpiffeIdClass.principal : SpiffeIdClass → Principal
  | service identifier => .spiffeServiceIdentifier identifier
  | machine identifier => .spiffeMachineIdentifier identifier

/-- The identities that a certificate can give: a SPIFFE service or machine, or an
external user. -/
def Principal.isIdentity : Principal → Bool
  | spiffeServiceIdentifier _ | spiffeMachineIdentifier _ | externalUser _ => true
  | trustedCertificate | anonymous => false

/-- The components of a certificate that site criteria may name. -/
inductive CertComponent where
  | issuerO
  | issuerOU
  | issuerCN
  | subjectO
  | subjectOU
  | subjectCN
  deriving DecidableEq, Repr

/-- Site criteria for certificates that are allowed in addition. -/
structure AllowedCertCriteria where
  /-- The components that have to equal a value. -/
  requiredEquals : CertComponent → Option Text
  groupFrom : Option CertComponent
  usernameFrom : Option CertComponent
  username : Option Text

def certComponentFromOidIssuer (oid : Oid) : Option CertComponent :=
  if oid = .organizationName then some .issuerO
  else if oid = .organizationalUnit then some .issuerOU
  else if oid = .commonName then some .issuerCN
  else none

def certComponentFromOidSubject (oid : Oid) : Option CertComponent :=
  if oid = .organizationName then some .subjectO
  else if oid = .organizationalUnit then some .subjectOU
  else if oid = .commonName then some .subjectCN
  else none

namespace AllowedCertCriteria

def mismatch (criteria : AllowedCertCriteria) (component : CertComponent)
    (value : AttributeValue) : Bool :=
  match criteria.requiredEquals component with
  | some required => value.printableOrEmpty != required
  | none => false

/-- The group and the user name read from the subject so far. -/
structure SubjectInfo where
  group : Text
  usernameFromCert : Option Text
  deriving DecidableEq, Repr

variable (criteria : AllowedCertCriteria) (info : SubjectInfo) (attr : Attribute)

/-- Read one attribute of the subject; `none` when a requirement fails. -/
def readSubjectAttribute : Option SubjectInfo :=
  match certComponentFromOidSubject attr.attrType with
  | none => some info
  | some component =>
    let value := attr.attrValue.printableOrEmpty
    if criteria.mismatch component attr.attrValue then none
    else some {
      group := if criteria.groupFrom = some component then value else info.group
      usernameFromCert :=
        if criteria.usernameFrom = some component then some value
        else info.usernameFromCert }

def issuerMismatch : Bool :=
  match certComponentFromOidIssuer attr.attrType with
  | none => false
  | some component => criteria.mismatch component attr.attrValue

def user : Option Text :=
  if criteria.usernameFrom.isSome ∧ info.usernameFromCert.isSome then info.usernameFromCert
  else criteria.username

end AllowedCertCriteria

/-- The user of a certificate that meets the site criteria. -/
def siteAllowedCert (cert : X509Certificate) (criteria : AllowedCertCriteria) :
    Option Principal :=
  if cert.issuer.any fun rdn => rdn.any criteria.issuerMismatch then none
  else do
    let info ← cert.subject.foldlM
      (fun info rdn => rdn.foldlM criteria.readSubjectAttribute info) ⟨[], none⟩
    return .externalUser ⟨none, info.group, criteria.user info⟩

/-- Keep the values of the organization, unit and common name of one attribute. -/
def readUserAttribute (info : ExternalUserInfo) (attr : Attribute) : ExternalUserInfo :=
  match attr.attrValue.asPrintablestring with
  | none => info
  | some value =>
    if attr.attrType = .organizationName then { info with org := some value }
    else if attr.attrType = .organizationalUnit then { info with group := value }
    else if attr.attrType = .commonName then { info with user := some value }
    else info

def parseOrgGroupUserFromSubject (subject : X509Name) : ExternalUserInfo :=
  subject.foldl (fun info rdn => rdn.foldl readUserAttribute info) ⟨none, [], none⟩

/-- The trust configuration of the middleware that certificates are read with. -/
structure CertificateContext where
  spiffeContext : SpiffeContext
  extraAllowedCerts : Option AllowedCertCriteria

section Parser

variable {δ : Type} [X509Parser δ]

variable (context : CertificateContext) (certificate : δ)

def tryExternalCert : Option Principal :=
  match X509Parser.fromDer certificate with
  | none => none
  | some cert =>
    if cert.issuer.any fun rdn => rdn.any fun attr =>
        attr.attrType == .commonName && attr.attrValue.asPrintablestring.any fun value =>
          context.spiffeContext.additionalIssuerCns.contains value then
      some (.externalUser (parseOrgGroupUserFromSubject cert.subject))
    else context.extraAllowedCerts.bind (siteAllowedCert cert)

inductive SpiffeError where
  | validation (err : SpiffeValidationError)
  | recognition (err : SpiffeContextError)
  deriving DecidableEq, Repr

/-- The principal of a client certificate, which is taken to be verified. -/
def tryFromClientCertificate : Checked (Except SpiffeError Principal) := do
  match ← validateX509Certificate certificate with
  | .ok id =>
    match context.spiffeContext.extractServiceIdentifier id with
    | .ok idClass => return .ok idClass.principal
    | .error err => return .error (.recognition err)
  | .error err =>
    match tryExternalCert context certificate with
    | some principal => return .ok principal
    | none => return .error (.validation err)

variable {certificate : δ} {id : SpiffeId}

/-- Parsing the printed ID of a validated certificate gives the ID again. -/
theorem SpiffeId.new_toText_of_validated
    (validated : validateX509Certificate certificate = .ok (.ok id)) :
    SpiffeId.new id.toText = .ok (.ok id) := by
  unfold validateX509Certificate at validated
  split at validated
  next => cases validated
  next uri _ =>
    obtain ⟨outcome, parsed, validated⟩ := Checked.bind_eq_ok.mp validated
    cases outcome with
    | error err => cases validated
    | ok found =>
      cases validated
      rw [SpiffeId.toText_of_new parsed, parsed]

variable {context}

/-- A validated certificate with a recognized SPIFFE ID maps to its principal. -/
theorem tryFromClientCertificate_of_spiffe {idClass : SpiffeIdClass}
    (validated : validateX509Certificate certificate = .ok (.ok id))
    (recognized : context.spiffeContext.extractServiceIdentifier id = .ok idClass) :
    tryFromClientCertificate context certificate = .ok (.ok idClass.principal) := by
  rw [tryFromClientCertificate, validated]
  simp only [bind, Except.bind, recognized]
  rfl

theorem tryFromClientCertificate_isIdentity {principal : Principal}
    (mapped : tryFromClientCertificate context certificate = .ok (.ok principal)) :
    principal.isIdentity = true := by
  obtain ⟨outcome, -, mapped⟩ := Checked.bind_eq_ok.mp mapped
  cases outcome with
  | ok id =>
    simp only at mapped
    split at mapped <;> cases mapped
    next idClass _ => cases idClass <;> rfl
  | error err =>
    simp only at mapped
    split at mapped <;> cases mapped
    next external =>
      unfold tryExternalCert at external
      split at external
      next => cases external
      next cert _ =>
        split at external
        next =>
          cases external
          rfl
        next =>
          obtain ⟨criteria, -, allowed⟩ := Option.bind_eq_some_iff.mp external
          obtain ⟨-, allowed⟩ := Option.ite_none_left_eq_some.mp allowed
          obtain ⟨info, -, ⟨⟩⟩ := Option.bind_eq_some_iff.mp allowed
          rfl

end Parser

end Authn
