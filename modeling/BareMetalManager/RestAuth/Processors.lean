import BareMetalManager.Lib.BTreeMap
import BareMetalManager.Lib.Text
import Mathlib.Data.Char
import Mathlib.Data.List.Lex

/-!
# Users and the roles of their credentials

The user record of `rest-api/db/pkg/db/model/user.go`, which keeps the roles of all organizations
in one column, and the decisions of `rest-api/auth/pkg/processors` about what a request has to
write to it before it is handled: from the organizations of a custom or Keycloak token
(`GetUserWithUpdatedOrgData`), or from the headers of a gateway (`GetUpdatedUserFromHeaders`).
-/

namespace RestAuth

open Collections List

/-- Functions of the libraries: the case mappings of `strings` and the decoder of
`encoding/base64`. Nothing is assumed about them. -/
class Library where
  toLower : Text → Text
  toUpper : Text → Text
  decodeString : Text → Option Text

/-- A time in nanoseconds. -/
abbrev Time := Int

structure Team where
  id : Int
  name : Text
  teamType : Text
  roles : List Text
  deriving DecidableEq

structure Org where
  id : Int
  name : Text
  displayName : Text
  orgType : Text
  roles : List Text
  teams : List Team
  updated : Option Time
  deriving DecidableEq

/-- The organizations of a user by name. A nil map and an empty one are not told apart. -/
abbrev OrgData := BTreeMap Text Org

/-- The columns of a user that a request reads or writes. -/
structure User where
  email : Option Text
  firstName : Option Text
  lastName : Option Text
  orgData : OrgData

/-- The columns that an update writes; the others keep their value. -/
structure UserUpdate where
  email : Option Text := none
  firstName : Option Text := none
  lastName : Option Text := none
  orgData : Option OrgData := none

def UserUpdate.apply (update : UserUpdate) (user : User) : User where
  email := update.email <|> user.email
  firstName := update.firstName <|> user.firstName
  lastName := update.lastName <|> user.lastName
  orgData := update.orgData.getD user.orgData

/-! ## Comparison -/

def sortStrings (values : List Text) : List Text := values.insertionSort (· ≤ ·)

/-- Whether two slices agree up to the order of their elements. -/
def compareStringSlicesIgnoreOrder (left right : List Text) : Bool :=
  left.length = right.length && sortStrings left = sortStrings right

theorem perm_of_compareStringSlices {left right : List Text}
    (same : compareStringSlicesIgnoreOrder left right = true) : left.Perm right := by
  simp only [compareStringSlicesIgnoreOrder, Bool.and_eq_true, decide_eq_true_eq] at same
  have leftPerm : (sortStrings left).Perm left := perm_insertionSort _ left
  rw [same.2] at leftPerm
  exact leftPerm.symm.trans (perm_insertionSort _ right)

def Team.equal (team other : Team) : Bool :=
  team.id = other.id && team.name = other.name && team.teamType = other.teamType
    && compareStringSlicesIgnoreOrder team.roles other.roles

/-- Each team of the first list takes the first equal one of the second list that is not
taken yet. -/
def teamsMatch : List Team → List Team → Bool
  | [], _ => true
  | team :: rest, others =>
    others.any team.equal && teamsMatch rest (others.eraseP team.equal)

/-- Whether two organizations agree up to the order of their slices. The time of the last
update is not compared. -/
def Org.equal (org other : Org) : Bool :=
  org.id = other.id && org.name = other.name && org.displayName = other.displayName
    && org.orgType = other.orgType
    && compareStringSlicesIgnoreOrder org.roles other.roles
    && org.teams.length = other.teams.length && teamsMatch org.teams other.teams

theorem Org.perm_roles_of_equal {org other : Org} (same : org.equal other = true) :
    org.roles.Perm other.roles := by
  simp only [equal, Bool.and_eq_true] at same
  exact perm_of_compareStringSlices same.1.1.2

section Lookup

variable [Library]

/-- The organization with a name, otherwise the first one whose name agrees up to case, in
the order in which the map happens to be iterated. -/
def getOrgByName (order : List (Text × Org)) (data : OrgData) (name : Text) : Option Org :=
  match data.get? name with
  | some org => some org
  | none =>
    (order.find? fun entry => Library.toLower entry.1 = Library.toLower name).map Prod.snd

/-- The organizations that `getOrgByName` finds in some order of iteration. -/
def orgsByName (data : OrgData) (name : Text) : List Org :=
  match data.get? name with
  | some org => [org]
  | none =>
    (data.entries.filter fun entry => Library.toLower entry.1 = Library.toLower name).map
      Prod.snd

variable {data : OrgData} {name : Text} {org : Org}

theorem orgsByName_of_get? (found : data.get? name = some org) : orgsByName data name = [org] := by
  rw [orgsByName, found]

theorem mem_orgsByName_of_getOrgByName {order : List (Text × Org)} (perm : order.Perm data.entries)
    (found : getOrgByName order data name = some org) :
    org ∈ orgsByName data name := by
  rw [getOrgByName] at found
  rw [orgsByName]
  cases exact : data.get? name with
  | some stored =>
    rw [exact] at found
    exact mem_singleton.mpr (Option.some.inj found).symm
  | none =>
    simp only [exact] at found
    obtain ⟨entry, first, rfl⟩ := Option.map_eq_some_iff.mp found
    have mem := perm.mem_iff.mp (mem_of_find?_eq_some first)
    have sameName := find?_some first
    exact mem_map_of_mem (mem_filter.mpr ⟨mem, sameName⟩)

end Lookup

/-! ## The roles of a credential -/

/-- The errors of the processors, with the text of the response. -/
inductive ApiError where
  /-- 403 "User does not have any roles assigned" -/
  | noRolesAssigned
  /-- 403 "Requested organization not found in token claims" -/
  | requestedOrgNotFound
  /-- 401 "Invalid value in NGC org user name header" -/
  | invalidUserName
  /-- 401 "Invalid value in NGC org user email header" -/
  | invalidUserEmail
  /-- 401 "Request is missing NGC roles header" -/
  | missingRoles
  /-- 401 "Request is missing NGC org display name header" -/
  | missingOrgDisplayName
  /-- 401 "Invalid value in NGC org display name header" -/
  | invalidOrgDisplayName
  /-- 401 "Failed to retrieve or create user record, DB error" and
  "Failed to update user record, DB error" -/
  | database
  deriving DecidableEq

/-- The age after which the data of an organization are written again. -/
def orgDataStalePeriod : Time := 60 * 1000000000

/-- The organization data with the requested organization taken from the token, if they
have to be written. -/
def getUserWithUpdatedOrgData (existingUser : User) (tokenOrgData : OrgData) (reqOrgName : Text)
    (now : Time) : Except ApiError (Option OrgData) :=
  match tokenOrgData.get? reqOrgName with
  | none => .error .requestedOrgNotFound
  | some reqOrg =>
    match existingUser.orgData.get? reqOrgName with
    | some existingOrg =>
      let isStale := existingOrg.updated.all fun updated => orgDataStalePeriod < now - updated
      if isStale || !existingOrg.equal reqOrg then
        .ok (existingUser.orgData.insert reqOrgName { reqOrg with updated := now })
      else .ok none
    | none => .ok (existingUser.orgData.insert reqOrgName { reqOrg with updated := now })

/-- The headers of a request from the gateway; an absent header is empty. -/
structure KasHeaders where
  userName : Text
  userEmail : Text
  roles : Text
  orgDisplayName : Text
  deriving DecidableEq

section Headers

variable [Library]

/-- The roles of a header value: split at commas, with underscores and in upper case. -/
def headerRoles (value : Text) : List Text :=
  sortStrings ((value.splitOn ',').map fun role =>
    Library.toUpper (role.map fun char => if char = '-' then '_' else char))

/-- A name column is written when the header has a part for it that differs. -/
def changedName (existing : Option Text) (part : Text) : Option Text :=
  if part ≠ [] ∧ existing ≠ some part then some part else none

variable (existingUser : User) (value : Text)

def headerNames : Except ApiError (Option Text × Option Text) :=
  if value = [] then .ok (none, none)
  else
    match Library.decodeString value with
    | none => .error .invalidUserName
    | some userName =>
      match userName.splitOnce ' ' with
      | some (first, last) =>
        .ok (changedName existingUser.firstName first, changedName existingUser.lastName last)
      | none => .ok (changedName existingUser.firstName userName, none)

def headerEmail : Except ApiError (Option Text) :=
  if value = [] then .ok none
  else
    match Library.decodeString value with
    | none => .error .invalidUserEmail
    | some email => .ok (if existingUser.email = some email then none else some email)

def headerOrgDisplayName : Except ApiError Text :=
  if value = [] then .error .missingOrgDisplayName
  else
    match Library.decodeString value with
    | none => .error .invalidOrgDisplayName
    | some name => .ok name

/-- Whether roles of a header count as a change. Only their number is compared, and that
each of them is among the stored ones. -/
def rolesChanged (stored new : List Text) : Bool :=
  stored.length ≠ new.length || new.any fun role => !stored.contains role

/-- The organization data with the roles and the display name of the headers, if they have
to be written. -/
def headerOrgData (order : List (Text × Org)) (data : OrgData) (name displayName : Text)
    (roles : List Text) (now : Time) : Option OrgData :=
  match getOrgByName order data name with
  | none => some (data.insert name ⟨0, name, displayName, [], roles, [], some now⟩)
  | some org =>
    let updateRoles := rolesChanged org.roles roles
    let updateName := org.displayName ≠ displayName
    if updateRoles || updateName then
      some (data.insert name
        { org with
          roles := if updateRoles then roles else org.roles
          displayName := if updateName then displayName else org.displayName
          updated := some now })
    else none

/-- What the headers of a request change in the record of its user. -/
def getUpdatedUserFromHeaders (headers : KasHeaders) (existingUser : User)
    (order : List (Text × Org)) (ngcOrgName : Text) (now : Time) :
    Except ApiError (Option UserUpdate) := do
  let (firstName, lastName) ← headerNames existingUser headers.userName
  let email ← headerEmail existingUser headers.userEmail
  if headers.roles = [] then throw .missingRoles
  let displayName ← headerOrgDisplayName headers.orgDisplayName
  let orgData := headerOrgData order existingUser.orgData ngcOrgName displayName
    (headerRoles headers.roles) now
  let isUserUpdated :=
    firstName.isSome || lastName.isSome || email.isSome || orgData.isSome
  return if isUserUpdated then some ⟨email, firstName, lastName, orgData⟩ else none

end Headers

/-! ## Requests -/

inductive Credential where
  | custom (orgData : OrgData) (email firstName lastName : Text)
  | keycloak (orgData : OrgData) (email firstName lastName : Text)
  | headers (headers : KasHeaders)

structure Request where
  orgName : Text
  credential : Credential

section Requests

variable [Library]

variable (request : Request)

/-- The name under which the processor looks for the organization. -/
def Request.org : Text :=
  match request.credential with
  | .custom .. => Library.toLower request.orgName
  | .keycloak .. | .headers _ => request.orgName

/-- The roles that the credential asserts for the requested organization. -/
def Request.roles : List Text :=
  match request.credential with
  | .custom orgData .. | .keycloak orgData .. =>
    (orgData.get? request.org).elim [] Org.roles
  | .headers headers => headerRoles headers.roles

/-- What a request decides about the record that it has read. -/
def Request.decision (existingUser : User) (order : List (Text × Org)) (now : Time) :
    Except ApiError (Option UserUpdate) :=
  match request.credential with
  | .custom orgData email firstName lastName | .keycloak orgData email firstName lastName =>
    (getUserWithUpdatedOrgData existingUser orgData request.org now).map fun updated =>
      updated.map fun data => ⟨some email, some firstName, some lastName, some data⟩
  | .headers headers => getUpdatedUserFromHeaders headers existingUser order request.org now

end Requests

end RestAuth
