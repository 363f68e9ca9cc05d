import BareMetalManager.Lib.Transition
import BareMetalManager.RestAuth.Processors

/-!
# Concurrent requests of one user

Every request reads the record of its user, decides what to write, writes whole columns and reads
the record again; the statements of requests interleave. The organization data is one column, so a
request that has read before another one wrote puts back what the other has changed.
-/

namespace RestAuth

open Collections List Library BTreeMap

abbrev RequestId := Nat

inductive Phase where
  | read (user : User)
  /-- The decision is made, the statement not yet executed. -/
  | updating (update : UserUpdate)
  /-- The statement is executed, the record not yet read again. -/
  | written
  | handed (user : User)
  | rejected (error : ApiError)

/-- The request still has something to read or to write. -/
def Phase.inFlight : Phase → Bool
  | read _ | updating _ | written => true
  | handed _ | rejected _ => false

def Phase.readUser? : Phase → Option User
  | read user => some user
  | updating _ | written | handed _ | rejected _ => none

def Phase.pendingUpdate? : Phase → Option UserUpdate
  | updating update => some update
  | read _ | written | handed _ | rejected _ => none

structure Progress where
  request : Request
  phase : Phase

/-- The record of the user and the requests that authenticate as them. -/
structure Site where
  stored : User
  requests : BTreeMap RequestId Progress

open Site

def Site.put (site : Site) (id : RequestId) (request : Request) (phase : Phase) : Site :=
  { site with requests := site.requests.insert id ⟨request, phase⟩ }

inductive Action where
  | start (id : RequestId) (request : Request)
  /-- It decides, at some time, with some order of iteration over the organizations. -/
  | decide (id : RequestId) (now : Time) (order : List (Text × Org))
  | update (id : RequestId)
  | reread (id : RequestId)
  | fail (id : RequestId)

variable {id : RequestId} {next : Site}

section Machine

variable [Library]

/-- Where a request stands after its first read. A Keycloak token without any organization is
turned away before. -/
def startPhase (request : Request) (user : User) : Phase :=
  match request.credential with
  | .keycloak orgData .. => if orgData.entries.isEmpty then .rejected .noRolesAssigned else
      .read user
  | .custom .. | .headers _ => .read user

def decidedPhase (user : User) : Except ApiError (Option UserUpdate) → Phase
  | .error error => .rejected error
  | .ok none => .handed user
  | .ok (some update) => .updating update

/-- One step of a request; a map is read in any order. -/
def step (action : Action) (site : Site) : Option Site :=
  match action with
  | .start id request =>
    match site.requests.get? id with
    | none => some (site.put id request (startPhase request site.stored))
    | some _ => none
  | .decide id now order =>
    match site.requests.get? id with
    | some ⟨request, .read user⟩ =>
      if order.Perm user.orgData.entries then
        some (site.put id request (decidedPhase user (request.decision user order now)))
      else none
    | _ => none
  | .update id =>
    match site.requests.get? id with
    | some ⟨request, .updating update⟩ =>
      some ({ site with stored := update.apply site.stored }.put id request .written)
    | _ => none
  | .reread id =>
    match site.requests.get? id with
    | some ⟨request, .written⟩ => some (site.put id request (.handed site.stored))
    | _ => none
  | .fail id =>
    match site.requests.get? id with
    | some ⟨request, phase⟩ =>
      if phase.inFlight then some (site.put id request (.rejected .database)) else none
    | none => none

def machine : Machine Action Site := ⟨step⟩

/-! ## What is wanted -/

/-- The organizations that a handler may find for a request. It looks for the name of the route in
lower case. -/
def Request.handlerOrgs (request : Request) (data : OrgData) : List Org :=
  orgsByName data (toLower request.orgName)

/-- The organization data hold, for the requested organization, exactly the roles that the
credential of the request asserts, whichever entry of it a handler finds. -/
def OwnRoles (request : Request) (data : OrgData) : Prop :=
  request.handlerOrgs data ≠ [] ∧
    ∀ org ∈ request.handlerOrgs data, ∀ role, role ∈ org.roles ↔ role ∈ request.roles

/-- The stored roles of every organization other than the given one are the same. -/
def OthersKept (name : Text) (before after : OrgData) : Prop :=
  ∀ other ≠ name, (before.get? other).map Org.roles = (after.get? other).map Org.roles

/-- Every request that was handed over acts with its own roles. -/
def HandedOwnRoles (site : Site) : Prop :=
  ∀ id request user, site.requests.get? id = some ⟨request, .handed user⟩ →
    OwnRoles request user.orgData

/-- A step changes at most the roles of the organization of the request that takes it. -/
def StepKeepsOthers (site : Site) (action : Action) (next : Site) : Prop :=
  next.stored.orgData = site.stored.orgData ∨
    ∃ id request update, action = .update id ∧
      site.requests.get? id = some ⟨request, .updating update⟩ ∧
      OthersKept request.org site.stored.orgData next.stored.orgData

/-! ## When it holds -/

def Alone (id : RequestId) (site : Site) : Prop :=
  ∀ entry ∈ site.requests.entries, entry.1 ≠ id → entry.2.phase.inFlight = false

variable (request : Request) (user : User)

/-- The processor looks for the organization under the name in lower case, the header roles name
no role twice, and the record has the requested organization under its exact name or under one
name that agrees up to case. -/
def Unambiguous : Prop :=
  request.org = toLower request.orgName ∧
    match request.credential with
    | .headers headers =>
      (headerRoles headers.roles).Nodup ∧ (request.handlerOrgs user.orgData).length ≤ 1
    | .custom .. | .keycloak .. => True

instance : Decidable (Unambiguous request user) :=
  match request with
  | ⟨_, .headers _⟩ => inferInstanceAs (Decidable (_ ∧ _ ∧ _))
  | ⟨_, .custom ..⟩ | ⟨_, .keycloak ..⟩ => inferInstanceAs (Decidable (_ ∧ True))

instance (id : RequestId) (site : Site) : Decidable (Alone id site) :=
  inferInstanceAs (Decidable (∀ entry ∈ site.requests.entries, _))

/-- A request writes organization data only while no other one is in flight, and decides
only about unambiguous headers. -/
def Safe (site : Site) : Action → Prop
  | .decide id _ _ =>
    ∀ progress ∈ site.requests.get? id, ∀ user ∈ progress.phase.readUser?,
      Unambiguous progress.request user
  | .update id =>
    ∀ progress ∈ site.requests.get? id, ∀ update ∈ progress.phase.pendingUpdate?,
      update.orgData.isSome → Alone id site
  | .start _ _ | .reread _ | .fail _ => True

instance (site : Site) : (action : Action) → Decidable (Safe site action)
  | .decide id _ _ =>
    inferInstanceAs (Decidable (∀ progress ∈ site.requests.get? id,
      ∀ user ∈ progress.phase.readUser?, Unambiguous progress.request user))
  | .update id =>
    inferInstanceAs (Decidable (∀ progress ∈ site.requests.get? id,
      ∀ update ∈ progress.phase.pendingUpdate?, update.orgData.isSome → Alone id site))
  | .start _ _ | .reread _ | .fail _ => .isTrue trivial

/-! ## Decisions -/

/-- New organization data give the request its own roles and keep those of every other
organization. -/
structure Fits (request : Request) (before after : OrgData) : Prop where
  own : OwnRoles request after
  others : OthersKept request.org before after

omit [Library] in
theorem othersKept_insert (data : OrgData) (name : Text) (org : Org) :
    OthersKept name data (data.insert name org) := by
  intro other ne
  rw [get?_insert, if_neg ne]

variable {request} {order : List (Text × Org)} {site : Site} {data : OrgData}

theorem Fits.of_ownRoles (own : OwnRoles request data) : Fits request data data :=
  ⟨own, fun _ _ => rfl⟩

variable {user} {now : Time} {update : Option UserUpdate}

section Decision

variable (lower : request.org = toLower request.orgName) {org : Org}
include lower

theorem ownRoles_of_get? (found : data.get? request.org = some org)
    (same : ∀ role, role ∈ org.roles ↔ role ∈ request.roles) : OwnRoles request data := by
  rw [OwnRoles, Request.handlerOrgs, ← lower, orgsByName_of_get? found]
  refine ⟨cons_ne_nil _ _, fun other mem => ?_⟩
  rwa [mem_singleton.mp mem]

theorem fits_insert (data : OrgData) (same : ∀ role, role ∈ org.roles ↔ role ∈ request.roles) :
    Fits request data (data.insert request.org org) where
  own := ownRoles_of_get? lower (by rw [get?_insert, if_pos rfl]) same
  others := othersKept_insert data request.org org

def decidedData (user : User) (update : Option UserUpdate) : OrgData :=
  (update.bind UserUpdate.orgData).getD user.orgData

variable {tokenOrgData : OrgData}

/-- The decision about token data writes their roles or finds them stored. -/
theorem fits_of_updatedOrgData {updated : Option OrgData}
    (asserted : request.roles = (tokenOrgData.get? request.org).elim [] Org.roles)
    (decided : getUserWithUpdatedOrgData user tokenOrgData request.org now = .ok updated) :
    Fits request user.orgData (updated.getD user.orgData) := by
  rw [getUserWithUpdatedOrgData] at decided
  cases token : tokenOrgData.get? request.org with
  | none => simp [token] at decided
  | some reqOrg =>
    have asserts : request.roles = reqOrg.roles := by rw [asserted, token]; rfl
    have written : Fits request user.orgData
        (user.orgData.insert request.org { reqOrg with updated := some now }) :=
      fits_insert lower user.orgData fun role => by rw [asserts]
    cases existing : user.orgData.get? request.org with
    | none =>
      simp only [token, existing, Except.ok.injEq] at decided
      exact decided ▸ written
    | some existingOrg =>
      simp only [token, existing] at decided
      split at decided
      · rwa [← Except.ok.inj decided]
      · rename_i unchanged
        simp only [Bool.or_eq_true, Bool.not_eq_true', not_or, Bool.not_eq_false] at unchanged
        rw [← Except.ok.inj decided]
        refine .of_ownRoles (ownRoles_of_get? lower existing fun role => ?_)
        rw [asserts, (Org.perm_roles_of_equal unchanged.2).mem_iff]

theorem fits_of_token {email firstName lastName : Text}
    (asserted : request.roles = (tokenOrgData.get? request.org).elim [] Org.roles)
    (decided : (getUserWithUpdatedOrgData user tokenOrgData request.org now).map
      (fun updated => updated.map fun data => (⟨some email, some firstName, some lastName,
        some data⟩ : UserUpdate)) = .ok update) :
    Fits request user.orgData (decidedData user update) := by
  cases result : getUserWithUpdatedOrgData user tokenOrgData request.org now with
  | error error => simp [result, Except.map] at decided
  | ok updated =>
    simp only [result, Except.map, Except.ok.injEq] at decided
    subst decided
    have fits := fits_of_updatedOrgData lower asserted result
    cases updated <;> exact fits

omit [Library] lower in
/-- Roles that do not count as a change are the stored ones, if none is named twice. -/
theorem mem_iff_of_not_rolesChanged {stored new : List Text} (nodup : new.Nodup)
    (unchanged : rolesChanged stored new = false) (role : Text) :
    role ∈ stored ↔ role ∈ new := by
  simp only [rolesChanged, Bool.or_eq_false_iff, decide_eq_false_iff_not, not_not,
    any_eq_false, Bool.not_eq_true', Bool.not_eq_false, contains_iff_mem] at unchanged
  obtain ⟨lengths, contained⟩ := unchanged
  have perm := (subperm_of_subset nodup contained).perm_of_length_le (Nat.le_of_eq lengths)
  exact perm.mem_iff.symm

/-- The decision about headers writes their roles or finds them stored. -/
theorem fits_of_headers (nodup : request.roles.Nodup)
    (single : (request.handlerOrgs data).length ≤ 1) (perm : order.Perm data.entries)
    (displayName : Text) (now : Time) :
    Fits request data
      ((headerOrgData order data request.org displayName request.roles now).getD data) := by
  rw [headerOrgData]
  cases found : getOrgByName order data request.org with
  | none => exact fits_insert lower data fun _ => .rfl
  | some org =>
    have sameRoles (kept : rolesChanged org.roles request.roles = false) (role : Text) :
        role ∈ org.roles ↔ role ∈ request.roles :=
      mem_iff_of_not_rolesChanged nodup kept role
    simp only
    split
    · refine fits_insert lower data fun role => ?_
      cases changed : rolesChanged org.roles request.roles with
      | true => simp
      | false => simpa using sameRoles changed role
    · rename_i unchanged
      simp only [Bool.or_eq_true, not_or, Bool.not_eq_true] at unchanged
      have here := mem_orgsByName_of_getOrgByName perm found
      rw [lower, ← Request.handlerOrgs] at here
      obtain ⟨only, orgs⟩ := length_eq_one_iff.mp
        (Nat.le_antisymm single (length_pos_of_mem here))
      rw [orgs, mem_singleton] at here
      refine .of_ownRoles ⟨by simp [orgs], fun other mem => ?_⟩
      rw [orgs, mem_singleton] at mem
      rw [mem, ← here]
      exact sameRoles unchanged.1

end Decision

theorem fits_of_decision (unambiguous : Unambiguous request user)
    (perm : order.Perm user.orgData.entries)
    (decided : request.decision user order now = .ok update) :
    Fits request user.orgData (decidedData user update) := by
  obtain ⟨orgName, credential⟩ := request
  cases credential with
  | custom orgData email firstName lastName | keycloak orgData email firstName lastName =>
    exact fits_of_token unambiguous.1 rfl decided
  | headers headers =>
    have nodup : (Request.roles ⟨orgName, .headers headers⟩).Nodup := unambiguous.2.1
    obtain ⟨names, -, decided⟩ := Checked.bind_eq_ok.mp decided
    obtain ⟨email, -, decided⟩ := Checked.bind_eq_ok.mp decided
    split at decided
    · cases decided
    obtain ⟨displayName, -, decided⟩ := Checked.bind_eq_ok.mp decided
    have fits := fits_of_headers unambiguous.1 nodup unambiguous.2.2 perm displayName now
    obtain rfl := Except.ok.inj decided
    split
    · exact fits
    · rename_i unchanged
      simp only [Bool.or_eq_true, not_or, Bool.not_eq_true, Option.isSome_eq_false_iff,
        Option.isNone_iff_eq_none] at unchanged
      have kept : headerOrgData order user.orgData orgName displayName
        (headerRoles headers.roles) now = none := unchanged.2
      simp only [Request.org, Request.roles, kept] at fits
      exact fits

/-! ## Runs -/

/-- What is known about a request in each phase, given the stored organization data. -/
def PhaseOk (stored : OrgData) (request : Request) : Phase → Prop
  | .read user => user.orgData = stored
  | .updating update => Fits request stored (update.orgData.getD stored)
  | .written => OwnRoles request stored
  | .handed user => OwnRoles request user.orgData
  | .rejected _ => True

def Consistent (site : Site) : Prop :=
  ∀ id progress, site.requests.get? id = some progress →
    PhaseOk site.stored.orgData progress.request progress.phase

variable {phase : Phase}

/-- A request that is not in flight does not depend on the record. -/
theorem PhaseOk.of_not_inFlight {stored other : OrgData} (ok : PhaseOk stored request phase)
    (done : phase.inFlight = false) :
    PhaseOk other request phase := by
  cases phase with
  | read | updating | written => cases done
  | handed | rejected => exact ok

omit [Library] in
theorem get?_put (site : Site) (id other : RequestId) (request : Request) (phase : Phase) :
    (site.put id request phase).requests.get? other =
      if other = id then some ⟨request, phase⟩ else site.requests.get? other :=
  get?_insert _ _ _ _

/-- What is known about the other requests over a record. -/
def OthersOk (id : RequestId) (site : Site) (user : User) : Prop :=
  ∀ other progress, other ≠ id → site.requests.get? other = some progress →
    PhaseOk user.orgData progress.request progress.phase

/-- Only the request that moves has to be looked at again. -/
theorem Consistent.put (others : OthersOk id site site.stored)
    (ok : PhaseOk site.stored.orgData request phase) : Consistent (site.put id request phase) := by
  intro other progress found
  rw [get?_put] at found
  split at found
  · cases found
    exact ok
  · rename_i ne
    exact others other progress ne found

theorem Consistent.others (consistent : Consistent site) (id : RequestId) :
    OthersOk id site site.stored :=
  fun other progress _ => consistent other progress

theorem startPhase_ok (request : Request) (user : User) :
    PhaseOk user.orgData request (startPhase request user) := by
  obtain ⟨orgName, credential⟩ := request
  cases credential with
  | custom | headers => rfl
  | keycloak orgData email firstName lastName =>
    simp only [startPhase]
    split
    · trivial
    · rfl

theorem decidedPhase_ok (unambiguous : Unambiguous request user)
    (perm : order.Perm user.orgData.entries) :
    PhaseOk user.orgData request (decidedPhase user (request.decision user order now)) := by
  cases decided : request.decision user order now with
  | error error => trivial
  | ok update =>
    have fits := fits_of_decision unambiguous perm decided
    cases update with
    | none => exact fits.own
    | some update => exact fits

/-- A statement keeps what is known about every other request if it leaves the organization
data alone or nothing else is in flight. -/
theorem Consistent.others_apply (consistent : Consistent site) {update : UserUpdate}
    (alone : update.orgData.isSome → Alone id site) :
    OthersOk id site (update.apply site.stored) := by
  intro other progress ne found
  have ok := consistent other progress found
  cases written : update.orgData with
  | none => simpa [UserUpdate.apply, written] using ok
  | some data =>
    refine ok.of_not_inFlight (alone (by simp [written]) (other, progress) ?_ ne)
    exact get?_eq_some_iff.mp found

variable {action : Action}

theorem consistent_step (consistent : Consistent site) (safe : Safe site action)
    (moved : machine.step action site = some next) :
    Consistent next := by
  simp only [machine, step] at moved
  cases action with
  | start id request =>
    simp only at moved
    split at moved <;> cases moved
    exact .put (consistent.others id) (startPhase_ok request site.stored)
  | decide id now order =>
    simp only at moved
    split at moved
    case h_2 => cases moved
    rename_i request user found
    obtain ⟨perm, ⟨⟩⟩ := Option.ite_none_right_eq_some.mp moved
    have current : user.orgData = site.stored.orgData := consistent id _ found
    exact .put (consistent.others id) (current ▸ decidedPhase_ok (safe _ found user rfl) perm)
  | update id =>
    simp only at moved
    split at moved <;> cases moved
    next request update found =>
      have fits : Fits request site.stored.orgData _ := consistent id _ found
      exact .put (consistent.others_apply (safe _ found update rfl)) fits.own
  | reread id =>
    simp only at moved
    split at moved <;> cases moved
    next request found => exact .put (consistent.others id) (consistent id _ found)
  | fail id =>
    simp only at moved
    split at moved
    case h_2 => cases moved
    obtain ⟨-, ⟨⟩⟩ := Option.ite_none_right_eq_some.mp moved
    exact .put (consistent.others id) trivial

/-- Only an update changes the record, and it keeps the roles of other organizations. -/
theorem stepKeepsOthers (consistent : Consistent site)
    (moved : machine.step action site = some next) : StepKeepsOthers site action next := by
  simp only [machine, step] at moved
  cases action with
  | update id =>
    simp only at moved
    split at moved <;> cases moved
    next request update found =>
      have fits : Fits request site.stored.orgData _ := consistent id _ found
      exact .inr ⟨id, request, update, rfl, found, fits.others⟩
  | start id request | decide id now order | reread id | fail id =>
    simp only at moved
    split at moved <;> try split at moved
    all_goals cases moved
    all_goals exact .inl rfl

def Site.initial (user : User) : Site := ⟨user, .empty⟩

theorem consistent_initial (user : User) : Consistent (initial user) := by
  nofun

/-- If organization data are written only while no other request is in flight and headers are
unambiguous, every request that is handed over acts with the roles of its own credential, and no
step changes the stored roles of another organization. -/
theorem ownRoles_of_run {user : User} {actions : List Action} {site : Site}
    (safe : machine.Meets Safe actions (initial user))
    (ran : machine.run actions (initial user) = some site) :
    HandedOwnRoles site ∧
      ∀ action next, machine.step action site = some next → StepKeepsOthers site action next := by
  have consistent : Consistent site :=
    Machine.run_induction Consistent
      (fun _ _ _ consistent safe moved => consistent_step consistent safe moved)
      (consistent_initial user) safe ran
  refine ⟨fun id request user found => consistent id _ found, ?_⟩
  exact fun action next moved => stepKeepsOthers consistent moved

end Machine

/-! ## Two requests at once -/

/-- Case mappings of single characters, and text in place of its encoding. -/
@[reducible] def Library.reference : Library := ⟨.map .toLower, .map .toUpper, some⟩

variable (name : Text) (roles : List Text)

def tokenOrg : Org := ⟨0, name, name, [], roles, [], none⟩

def tokenRequest : Request :=
  ⟨name, .keycloak (.insert .empty name (tokenOrg name roles)) [] [] []⟩

def headerRequest (name roles : Text) : Request := ⟨name, .headers ⟨[], [], roles, name⟩⟩

/-- A user with two roles in organization `o` and none elsewhere. -/
def storedUser : User :=
  ⟨none, none, none, .insert .empty ['o'] (tokenOrg ['o'] [['O', 'L', 'D'], ['N', 'E', 'W']])⟩

def requestO : Request := tokenRequest ['o'] [['N', 'E', 'W']]

def requestP : Request := tokenRequest ['p'] [['N', 'E', 'W']]

/-- Both requests read, both decide, then each writes all organizations. -/
def interleaved : List Action :=
  [.start 0 requestO, .start 1 requestP, .decide 0 0 storedUser.orgData.entries,
    .decide 1 0 storedUser.orgData.entries, .update 0]

/-- The same requests one after the other, and then a request with headers. -/
def oneByOne : List Action :=
  [.start 0 requestO, .decide 0 0 storedUser.orgData.entries, .update 0, .reread 0,
    .start 1 (headerRequest ['o'] ['n', 'e', 'w', ',', 'o', 'l', 'd']),
    .decide 1 1 [(['o'], ⟨0, ['o'], ['o'], [], [['N', 'E', 'W']], [], some 0⟩)], .update 1,
    .reread 1]

/-- A request whose header names one role twice. -/
def repeatedRole : List Action :=
  [.start 0 (headerRequest ['o'] ['n', 'e', 'w', ',', 'n', 'e', 'w']),
    .decide 0 0 storedUser.orgData.entries]

/-- A request under the name of the organization in upper case. -/
def upperCase : List Action :=
  [.start 0 (headerRequest ['O'] ['n', 'e', 'w']), .decide 0 0 storedUser.orgData.entries,
    .update 0, .reread 0]

section Acting

variable [Library]

/-- The handlers of a handed request find a role that it does not assert. -/
def findsForeignRole (site : Site) (id : RequestId) : Bool :=
  (site.requests.get? id).any fun progress =>
    match progress.phase with
    | .handed user => (progress.request.handlerOrgs user.orgData).any fun org =>
        org.roles.any fun role => !progress.request.roles.contains role
    | _ => false

variable {site : Site}

theorem not_handedOwnRoles (finds : findsForeignRole site id) : ¬HandedOwnRoles site := by
  intro own
  obtain ⟨⟨request, phase⟩, present, finds⟩ := (Option.any_eq_true _ _).mp finds
  cases phase with
  | handed user =>
    obtain ⟨org, orgMem, finds⟩ := any_eq_true.mp finds
    obtain ⟨role, roleMem, foreign⟩ := any_eq_true.mp finds
    have asserted := ((own id request user present).2 org orgMem role).mp roleMem
    simp [asserted] at foreign
  | read | updating | written | rejected => cases finds

def storedRoles (site : Site) (name : Text) : Option (List Text) :=
  (site.stored.orgData.get? name).map Org.roles

theorem StepKeepsOthers.storedRoles_eq {org name : Text}
    (kept : StepKeepsOthers site (.update id) next)
    (updated : (site.requests.get? id).map (fun progress => progress.request.org) = some org)
    (ne : name ≠ org) : storedRoles site name = storedRoles next name := by
  rcases kept with same | ⟨_, request, update, action, found, others⟩
  · rw [storedRoles, storedRoles, same]
  · cases action
    rw [found] at updated
    cases updated
    exact others name ne

end Acting

/-- With both updates in flight, the second one puts back the roles that the first one revoked, and
the first request gets them. A header that names a role twice passes for two stored roles. The
roles for a name in upper case are stored where no handler looks for them. -/
theorem not_ownRoles_of_interleaved :
    letI := reference
    (∃ site, machine.run (interleaved ++ [.update 1, .reread 0]) (initial storedUser) =
        some site ∧ ¬ HandedOwnRoles site) ∧
    (∃ site next, machine.run interleaved (initial storedUser) = some site ∧
      machine.step (.update 1) site = some next ∧ ¬ StepKeepsOthers site (.update 1) next) ∧
    ∀ actions ∈ [repeatedRole, upperCase], ∃ site,
      machine.run actions (initial storedUser) = some site ∧ ¬ HandedOwnRoles site := by
  let := reference
  have foreign : ∀ actions ∈ [interleaved ++ [.update 1, .reread 0], repeatedRole, upperCase],
      ∃ site ∈ machine.run actions (initial storedUser), findsForeignRole site 0 := by
    decide +kernel
  have notOwn (actions : List Action) (listed : actions ∈ _) : ∃ site,
      machine.run actions (initial storedUser) = some site ∧ ¬ HandedOwnRoles site :=
    (foreign actions listed).imp fun _ finds => ⟨finds.1, not_handedOwnRoles finds.2⟩
  refine ⟨notOwn _ mem_cons_self, ?_, fun actions listed => notOwn _ (mem_cons_of_mem _ listed)⟩
  obtain ⟨site, ran, before, org, next, moved, after⟩ :
      ∃ site ∈ machine.run interleaved (initial storedUser),
        storedRoles site ['o'] = some [['N', 'E', 'W']] ∧
        (site.requests.get? 1).map (fun progress => progress.request.org) = some ['p'] ∧
        ∃ next ∈ machine.step (.update 1) site,
          storedRoles next ['o'] = some [['O', 'L', 'D'], ['N', 'E', 'W']] := by
    decide +kernel
  refine ⟨site, next, ran, moved, fun kept => ?_⟩
  have ne : (['o'] : Text) ≠ ['p'] := by decide
  have same := kept.storedRoles_eq org ne
  rw [before, after] at same
  exact absurd same (by decide)

theorem safe_oneByOne :
    letI := reference
    machine.Meets Safe oneByOne (initial storedUser) := by
  decide +kernel

theorem ownRoles_of_oneByOne :
    letI := reference
    ∃ site, machine.run oneByOne (initial storedUser) = some site ∧ HandedOwnRoles site ∧
      ∀ action next, machine.step action site = some next → StepKeepsOthers site action next := by
  let := reference
  obtain ⟨site, ran⟩ : ∃ site, machine.run oneByOne (initial storedUser) = some site :=
    ⟨_, rfl⟩
  exact ⟨site, ran, ownRoles_of_run safe_oneByOne ran⟩

end RestAuth
