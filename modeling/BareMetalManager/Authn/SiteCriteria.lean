import BareMetalManager.Authn.Certificate

/-!
# Site criteria for certificates

A certificate is refused when a component that the criteria name has another value than the
required one. A component that does not occur is not refused, and a value that is not a
`PrintableString` counts as empty. The main theorem says which certificates meet the criteria.
-/

namespace Authn

open List

variable {component : CertComponent}

namespace CertComponent

/-- The name of the certificate that a component belongs to. -/
def name (cert : X509Certificate) : CertComponent → X509Name
  | issuerO | issuerOU | issuerCN => cert.issuer
  | subjectO | subjectOU | subjectCN => cert.subject

def oid : CertComponent → Oid
  | issuerO | subjectO => .organizationName
  | issuerOU | subjectOU => .organizationalUnit
  | issuerCN | subjectCN => .commonName

def occurrences (cert : X509Certificate) (component : CertComponent) : List AttributeValue :=
  ((component.name cert).flatten.filter fun attr => attr.attrType = component.oid).map
    Attribute.attrValue

theorem mem_occurrences {cert : X509Certificate} {value : AttributeValue} :
    value ∈ component.occurrences cert ↔
      ∃ attr ∈ (component.name cert).flatten, attr.attrType = component.oid ∧
        attr.attrValue = value := by
  simp only [occurrences, mem_map, mem_filter, decide_eq_true_eq, and_assoc]

end CertComponent

variable {oid : Oid}

theorem certComponentFromOidIssuer_eq_some :
    certComponentFromOidIssuer oid = some component ↔
      (component = .issuerO ∨ component = .issuerOU ∨ component = .issuerCN) ∧
        component.oid = oid := by
  unfold certComponentFromOidIssuer
  cases component <;> simp only [CertComponent.oid, eq_comm] <;> grind [Oid.organizationName,
    Oid.organizationalUnit, Oid.commonName]

theorem certComponentFromOidSubject_eq_some :
    certComponentFromOidSubject oid = some component ↔
      (component = .subjectO ∨ component = .subjectOU ∨ component = .subjectCN) ∧
        component.oid = oid := by
  unfold certComponentFromOidSubject
  cases component <;> simp only [CertComponent.oid, eq_comm] <;> grind [Oid.organizationName,
    Oid.organizationalUnit, Oid.commonName]

namespace AllowedCertCriteria

variable {criteria : AllowedCertCriteria} {cert : X509Certificate}

theorem mismatch_eq_false {value : AttributeValue} :
    criteria.mismatch component value = false ↔
      ∀ required, criteria.requiredEquals component = some required →
        value.printableOrEmpty = required := by
  unfold mismatch
  cases criteria.requiredEquals component <;> simp

/-- The attributes of a name pass when no occurrence of one of its components differs. -/
theorem passes_iff (criteria : AllowedCertCriteria) (cert : X509Certificate) (name : X509Name)
    {fromOid : Oid → Option CertComponent} {named : CertComponent → Prop}
    (spec : ∀ oid component, fromOid oid = some component ↔ named component ∧ component.oid = oid)
    (inName : ∀ component, named component → component.name cert = name) :
    (∀ attr ∈ name.flatten, ∀ component, fromOid attr.attrType = some component →
        criteria.mismatch component attr.attrValue = false) ↔
      ∀ component, named component →
        ∀ value ∈ component.occurrences cert, criteria.mismatch component value = false := by
  simp only [CertComponent.mem_occurrences, spec]
  constructor
  · rintro all component isNamed _ ⟨attr, attrIn, oidEq, rfl⟩
    rw [inName component isNamed] at attrIn
    exact all attr attrIn component ⟨isNamed, oidEq.symm⟩
  · rintro all attr attrIn component ⟨isNamed, oidEq⟩
    rw [← inName component isNamed] at attrIn
    exact all component isNamed _ ⟨attr, attrIn, oidEq.symm, rfl⟩

theorem any_issuerMismatch_eq_false :
    (cert.issuer.any fun rdn => rdn.any criteria.issuerMismatch) = false ↔
      ∀ attr ∈ cert.issuer.flatten, ∀ component,
        certComponentFromOidIssuer attr.attrType = some component →
          criteria.mismatch component attr.attrValue = false := by
  simp only [any_eq_false, mem_flatten, Bool.not_eq_true, issuerMismatch]
  grind

theorem foldlM_rdns (rdns : X509Name) (info : SubjectInfo) :
    rdns.foldlM (fun info rdn => rdn.foldlM criteria.readSubjectAttribute info) info =
      rdns.flatten.foldlM criteria.readSubjectAttribute info := by
  induction rdns generalizing info with
  | nil => rfl
  | cons rdn rdns ih =>
    rw [foldlM_cons, flatten_cons, foldlM_append]
    exact bind_congr fun next => ih next

structure Reads (criteria : AllowedCertCriteria) (attrs : List Attribute)
    (start result : SubjectInfo) : Prop where
  matched : ∀ attr ∈ attrs, ∀ component,
    certComponentFromOidSubject attr.attrType = some component →
      criteria.mismatch component attr.attrValue = false
  group : result.group = start.group ∨ ∃ attr ∈ attrs,
    certComponentFromOidSubject attr.attrType = criteria.groupFrom ∧
      criteria.groupFrom.isSome ∧ result.group = attr.attrValue.printableOrEmpty
  username : result.usernameFromCert = start.usernameFromCert ∨ ∃ attr ∈ attrs,
    certComponentFromOidSubject attr.attrType = criteria.usernameFrom ∧
      criteria.usernameFrom.isSome ∧
      result.usernameFromCert = some attr.attrValue.printableOrEmpty

variable {attr : Attribute}

variable {start result : SubjectInfo}

theorem readSubjectAttribute_eq_some
    (read : criteria.readSubjectAttribute start attr = some result) :
    Reads criteria [attr] start result := by
  unfold readSubjectAttribute at read
  cases componentEq : certComponentFromOidSubject attr.attrType with
  | none =>
    rw [componentEq] at read
    cases read
    exact ⟨by simp [componentEq], .inl rfl, .inl rfl⟩
  | some component =>
    rw [componentEq] at read
    simp only at read
    split at read
    next => cases read
    next matched =>
      cases read
      refine ⟨?_, ?_, ?_⟩
      · simpa [componentEq] using matched
      · by_cases isGroup : criteria.groupFrom = some component
        · right
          exact ⟨attr, mem_singleton.mpr rfl, by simp [componentEq, isGroup]⟩
        · left
          simp [isGroup]
      · by_cases isUsername : criteria.usernameFrom = some component
        · right
          exact ⟨attr, mem_singleton.mpr rfl, by simp [componentEq, isUsername]⟩
        · left
          simp [isUsername]

theorem Reads.trans {first second : List Attribute} {start middle result : SubjectInfo}
    (before : Reads criteria first start middle) (after : Reads criteria second middle result) :
    Reads criteria (first ++ second) start result where
  matched := forall_mem_append.mpr ⟨before.matched, after.matched⟩
  group := by
    rcases after.group with same | ⟨attr, mem, rest⟩
    · rcases before.group with same' | ⟨attr, mem, isGroup, isSome, value⟩
      · exact .inl (same.trans same')
      · exact .inr ⟨attr, mem_append_left _ mem, isGroup, isSome, same.trans value⟩
    · exact .inr ⟨attr, mem_append_right _ mem, rest⟩
  username := by
    rcases after.username with same | ⟨attr, mem, rest⟩
    · rcases before.username with same' | ⟨attr, mem, isUsername, isSome, value⟩
      · exact .inl (same.trans same')
      · exact .inr ⟨attr, mem_append_left _ mem, isUsername, isSome, same.trans value⟩
    · exact .inr ⟨attr, mem_append_right _ mem, rest⟩

variable {attrs : List Attribute}

theorem reads_of_foldlM
    (read : attrs.foldlM criteria.readSubjectAttribute start = some result) :
    Reads criteria attrs start result := by
  induction attrs generalizing start with
  | nil =>
    cases read
    exact ⟨by simp, .inl rfl, .inl rfl⟩
  | cons attr attrs ih =>
    obtain ⟨middle, first, rest⟩ := Option.bind_eq_some_iff.mp read
    exact (readSubjectAttribute_eq_some first).trans (ih rest)

/-- Reading succeeds when every attribute of a named component matches. -/
theorem foldlM_isSome (start : SubjectInfo)
    (matched : ∀ attr ∈ attrs, ∀ component, certComponentFromOidSubject attr.attrType =
      some component → criteria.mismatch component attr.attrValue = false) :
    ∃ result, attrs.foldlM criteria.readSubjectAttribute start = some result := by
  induction attrs generalizing start with
  | nil => exact ⟨start, rfl⟩
  | cons attr attrs ih =>
    obtain ⟨middle, middleEq⟩ :
        ∃ middle, criteria.readSubjectAttribute start attr = some middle := by
      unfold readSubjectAttribute
      cases componentEq : certComponentFromOidSubject attr.attrType with
      | none => exact ⟨start, rfl⟩
      | some component =>
        simp only [matched attr (mem_cons_self ..) component componentEq]
        exact ⟨_, rfl⟩
    obtain ⟨result, resultEq⟩ := ih middle fun attr mem =>
      matched attr (mem_cons_of_mem _ mem)
    refine ⟨result, ?_⟩
    rwa [foldlM_cons, middleEq]

/-- A certificate is accepted exactly when no occurrence of a named component reads
differently from the required value. -/
theorem siteAllowedCert_isSome_iff :
    (∃ principal, siteAllowedCert cert criteria = some principal) ↔
      ∀ component required, criteria.requiredEquals component = some required →
        ∀ value ∈ component.occurrences cert, value.printableOrEmpty = required := by
  have split : (∀ component required, criteria.requiredEquals component = some required →
        ∀ value ∈ component.occurrences cert, value.printableOrEmpty = required) ↔
      ∀ component, ∀ value ∈ component.occurrences cert,
        criteria.mismatch component value = false := by
    simp only [mismatch_eq_false]
    grind
  have issuerIff := passes_iff criteria cert cert.issuer
    (fun _ _ => certComponentFromOidIssuer_eq_some) (by rintro _ (rfl | rfl | rfl) <;> rfl)
  have subjectIff := passes_iff criteria cert cert.subject
    (fun _ _ => certComponentFromOidSubject_eq_some) (by rintro _ (rfl | rfl | rfl) <;> rfl)
  rw [split]
  unfold siteAllowedCert
  constructor
  · rintro ⟨principal, accepted⟩
    obtain ⟨issuerPasses, accepted⟩ := Option.ite_none_left_eq_some.mp accepted
    obtain ⟨info, infoEq, -⟩ := Option.bind_eq_some_iff.mp accepted
    rw [foldlM_rdns] at infoEq
    rw [Bool.not_eq_true, any_issuerMismatch_eq_false] at issuerPasses
    have issuer := issuerIff.mp issuerPasses
    have subject := subjectIff.mp (reads_of_foldlM infoEq).matched
    intro component
    cases component with
    | issuerO | issuerOU | issuerCN => exact issuer _ (by simp)
    | subjectO | subjectOU | subjectCN => exact subject _ (by simp)
  · intro passes
    have issuer := any_issuerMismatch_eq_false.mpr
      (issuerIff.mpr fun component _ => passes component)
    obtain ⟨info, infoEq⟩ := foldlM_isSome ⟨[], none⟩
      (subjectIff.mpr fun component _ => passes component)
    rw [← foldlM_rdns] at infoEq
    rw [if_neg (by rw [issuer]; decide), infoEq]
    exact ⟨_, rfl⟩

/-- Every named component occurs in the certificate, and only with the required
value. -/
def RequirementsMet (criteria : AllowedCertCriteria) (cert : X509Certificate) : Prop :=
  ∀ component required, criteria.requiredEquals component = some required →
    component.occurrences cert ≠ [] ∧
      ∀ value ∈ component.occurrences cert, value.text = required

/-- The group and the user of a principal are values of the configured components,
the configured user name, or empty. -/
def ValuesFromCertificate (criteria : AllowedCertCriteria) (cert : X509Certificate)
    (principal : Principal) : Prop :=
  ∃ group user, principal = .externalUser ⟨none, group, user⟩ ∧
    (group = [] ∨ ∃ component, criteria.groupFrom = some component ∧
      ∃ value ∈ component.occurrences cert, group = value.text) ∧
    (user = none ∨ user = some [] ∨ user = criteria.username ∨
      ∃ component, criteria.usernameFrom = some component ∧
        ∃ value ∈ component.occurrences cert, user = some value.text)

theorem printableOrEmpty_cases (value : AttributeValue) :
    value.printableOrEmpty = [] ∨ value.printableOrEmpty = value.text := by
  cases value with
  | printable text => exact .inr rfl
  | other text => exact .inl rfl

/-- An attribute read for a configured component is one of its occurrences. -/
theorem mem_occurrences_of_component {configured : Option CertComponent}
    (mem : attr ∈ cert.subject.flatten)
    (isConfigured : certComponentFromOidSubject attr.attrType = configured)
    (isSome : configured.isSome = true) :
    ∃ component, configured = some component ∧
      attr.attrValue ∈ component.occurrences cert := by
  obtain ⟨component, rfl⟩ := Option.isSome_iff_exists.mp isSome
  obtain ⟨isSubject, oidEq⟩ := certComponentFromOidSubject_eq_some.mp isConfigured
  refine ⟨component, rfl, CertComponent.mem_occurrences.mpr ⟨attr, ?_, oidEq.symm, rfl⟩⟩
  rcases isSubject with rfl | rfl | rfl <;> exact mem

/-- The values of an accepted certificate always come from the configuration. -/
theorem valuesFromCertificate_of_accepted {principal : Principal}
    (accepted : siteAllowedCert cert criteria = some principal) :
    ValuesFromCertificate criteria cert principal := by
  obtain ⟨-, accepted⟩ := Option.ite_none_left_eq_some.mp accepted
  obtain ⟨info, infoEq, ⟨⟩⟩ := Option.bind_eq_some_iff.mp accepted
  rw [foldlM_rdns] at infoEq
  have reads := reads_of_foldlM infoEq
  refine ⟨info.group, criteria.user info, rfl, ?_, ?_⟩
  · rcases reads.group with isEmpty | ⟨attr, mem, isGroup, isSome, value⟩
    · exact .inl isEmpty
    · obtain ⟨component, configured, occurs⟩ :=
        mem_occurrences_of_component mem isGroup isSome
      rcases printableOrEmpty_cases attr.attrValue with isEmpty | isText
      · exact .inl (value.trans isEmpty)
      · exact .inr ⟨component, configured, _, occurs, value.trans isText⟩
  · unfold user
    split
    next =>
      rcases reads.username with isNone | ⟨attr, mem, isUsername, isSome, value⟩
      · exact .inl isNone
      · obtain ⟨component, configured, occurs⟩ :=
          mem_occurrences_of_component mem isUsername isSome
        rcases printableOrEmpty_cases attr.attrValue with isEmpty | isText
        · rw [isEmpty] at value
          exact .inr (.inl value)
        · rw [isText] at value
          exact .inr (.inr (.inr ⟨component, configured, _, occurs, value⟩))
    next => exact .inr (.inr (.inl rfl))

/-- Accepting a certificate means that the criteria are met if and only if some occurrence of a
named component reads differently, so that it is not accepted, or every named component occurs and
its values that are not `PrintableString`s have the required text. -/
theorem siteAllowedCert_sound_iff (criteria : AllowedCertCriteria) (cert : X509Certificate) :
    (∀ principal, siteAllowedCert cert criteria = some principal →
        RequirementsMet criteria cert ∧ ValuesFromCertificate criteria cert principal) ↔
      (∃ component required, criteria.requiredEquals component = some required ∧
        ∃ value ∈ component.occurrences cert, value.printableOrEmpty ≠ required) ∨
      (∀ component required, criteria.requiredEquals component = some required →
        component.occurrences cert ≠ [] ∧
          ∀ value ∈ component.occurrences cert, value.asPrintablestring = none →
            value.text = required) := by
  constructor
  · intro sound
    by_cases reads : ∀ component required, criteria.requiredEquals component = some required →
          ∀ value ∈ component.occurrences cert, value.printableOrEmpty = required
    · right
      obtain ⟨principal, accepted⟩ := siteAllowedCert_isSome_iff.mpr reads
      intro component required isRequired
      obtain ⟨occurs, texts⟩ := (sound principal accepted).1 component required isRequired
      exact ⟨occurs, fun value mem _ => texts value mem⟩
    · left
      push Not at reads
      exact reads
  · intro condition principal accepted
    refine ⟨?_, valuesFromCertificate_of_accepted accepted⟩
    have reads := siteAllowedCert_isSome_iff.mp ⟨principal, accepted⟩
    rcases condition with ⟨component, required, isRequired, value, mem, differs⟩ | listed
    · exact absurd (reads component required isRequired value mem) differs
    · intro component required isRequired
      obtain ⟨occurs, others⟩ := listed component required isRequired
      refine ⟨occurs, ?_⟩
      intro value mem
      cases value with
      | printable text => exact reads component required isRequired _ mem
      | other text => exact others _ mem rfl

/-- Criteria that require the organizational unit `admin` of the subject. -/
def adminOnly : AllowedCertCriteria where
  requiredEquals
    | .subjectOU => some ['a', 'd', 'm', 'i', 'n']
    | _ => none
  groupFrom := some .subjectOU
  usernameFrom := some .subjectCN
  username := none

def noUnitCert : X509Certificate where
  issuer := [[⟨.commonName, .printable ['c', 'a']⟩]]
  subject := [[⟨.commonName, .printable ['e', 'v', 'e']⟩]]
  basicConstraints := .absent
  keyUsage := .absent
  subjectAlternativeName := .absent
  subjectPublicKey := []

/-- The certificate without the required unit is accepted. -/
theorem noUnitCert_accepted :
    ¬ ∀ principal, siteAllowedCert noUnitCert adminOnly = some principal →
      RequirementsMet adminOnly noUnitCert ∧
        ValuesFromCertificate adminOnly noUnitCert principal := by
  intro sound
  have accepted : siteAllowedCert noUnitCert adminOnly =
      some (.externalUser ⟨none, [], some ['e', 'v', 'e']⟩) := by decide
  exact ((sound _ accepted).1 .subjectOU _ rfl).1 (by decide)

end AllowedCertCriteria

end Authn
