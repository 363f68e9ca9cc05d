import BareMetalManager.Lib.BTreeMap
import BareMetalManager.Lib.Checked
import BareMetalManager.Lib.Replace
import BareMetalManager.Lib.StableSort
import Mathlib.Data.List.DropRight
import Mathlib.Data.Prod.Lex
import Mathlib.Data.String.Basic

/-!
# iPXE scripts and their rendering

`crates/ipxe-renderer/src/lib.rs`. A script is a template, and the parameters and artifacts that
are filled into it. Its hash is the SHA-256 digest of its fields, one behind the other: the id of
the template, the parameters sorted by name and value, and the artifacts sorted by name and URL,
names in lower case.

The renderer collects the values that a template consumes by name and then writes them into the
template, one name after the other, each value in place of the first placeholder in the text as it
is by then. The names come in the order in which a hash map is iterated.
-/

namespace Ipxe

open StableSort

/-- The functions of the standard library and of the `sha2` crate that the renderer uses.
SHA-256 is taken to be injective. -/
class Primitives where
  toLowercase : String → String
  isWhitespace : Char → Bool
  sha256 : ByteArray → ByteArray
  sha256_injective : Function.Injective sha256

open Primitives

structure IpxeTemplateParameter where
  name : String
  value : String
  deriving DecidableEq

inductive IpxeTemplateArtifactCacheStrategy where
  | cacheAsNeeded
  | localOnly
  | cachedOnly
  | remoteOnly
  deriving DecidableEq

structure IpxeTemplateArtifact where
  name : String
  url : String
  sha : Option String
  authType : Option String
  authToken : Option String
  cacheStrategy : IpxeTemplateArtifactCacheStrategy
  cachedUrl : Option String
  deriving DecidableEq

structure IpxeScript where
  name : String
  description : Option String
  hash : String
  tenantId : Option String
  ipxeTemplateId : String
  parameters : List IpxeTemplateParameter
  artifacts : List IpxeTemplateArtifact

/-- `hex::encode`. -/
def hexEncode (bytes : ByteArray) : String :=
  .ofList (bytes.data.toList.flatMap fun byte =>
    [Nat.digitChar (byte.toNat / 16), Nat.digitChar (byte.toNat % 16)])

section Hash

variable [Primitives]

variable (parameter : IpxeTemplateParameter)

def parameterKey : String ×ₗ String :=
  toLex (toLowercase parameter.name, parameter.value)

variable (artifact : IpxeTemplateArtifact)

def artifactKey : String ×ₗ String :=
  toLex (toLowercase artifact.name, artifact.url)

def parameterFields : List String :=
  [toLowercase parameter.name, parameter.value]

/-- The fields of an artifact in the hash. An absent field is left out. -/
def artifactFields : List String :=
  [toLowercase artifact.name, artifact.url] ++ artifact.sha.toList ++
    artifact.authType.toList ++ artifact.authToken.toList

def hashedFields (script : IpxeScript) : List String :=
  toLowercase script.ipxeTemplateId ::
    ((sortBy parameterKey script.parameters).flatMap parameterFields ++
      (sortBy artifactKey script.artifacts).flatMap artifactFields)

def IpxeScript.computeHash (script : IpxeScript) : String :=
  let input := (hashedFields script).foldl (fun input field => input ++ field.toUTF8) .empty
  hexEncode (sha256 input)

end Hash

/-! ## Templates -/

open Checked Collections Replace

structure IpxeTemplate where
  id : String
  name : String
  template : String
  reservedParams : List String
  requiredParams : List String
  requiredArtifacts : List String

inductive IpxeScriptError where
  | templateNotFound (id : String)
  | reservedParameterFound (message : String)
  | requiredParameterMissing (message : String)
  | extraParametersNotSupported
  | hashMismatch (expected actual : String)
  | artifactNotFound (message : String)
  | missingReservedParameter (name : String)
  | unexpectedReservedParameter (name : String)
  | unreplacedPlaceholders (placeholders : String)
  | cachedOnlyNotCached (artifact : String)
  deriving DecidableEq

def placeholder (name : String) : List Char := '{' :: '{' :: (name.toList ++ ['}', '}'])

def getTemplateById (templates : List IpxeTemplate) (id : String) : Option IpxeTemplate :=
  templates.find? (·.id = id)

def resolveArtifactUrl (artifact : IpxeTemplateArtifact) : Except IpxeScriptError String :=
  match artifact.cacheStrategy with
  | .remoteOnly | .localOnly => .ok artifact.url
  | .cachedOnly => okOr (.cachedOnlyNotCached artifact.name) artifact.cachedUrl
  | .cacheAsNeeded => .ok (artifact.cachedUrl.getD artifact.url)

section Renderer

variable [Primitives]

/-! ## Validation -/

/-- How often each name occurs, without case. -/
def countNames (names : List String) : BTreeMap String Nat :=
  names.foldl (fun counts name => counts.upsert (· + ·) (toLowercase name) 1) .empty

/-- The names that are globally reserved must not be used. -/
def rejectExtra (name reason : String) : Except IpxeScriptError Unit :=
  rejectIf (toLowercase name = "extra")
    (.reservedParameterFound ("'" ++ name ++ "' (normalized to 'extra' which is globally reserved"
      ++ reason ++ ")"))

def needMessage (name : String) (required available : Nat) : String :=
  name ++ " (need " ++ toString required ++ " occurrences, have " ++ toString available ++ ")"

variable (script : IpxeScript) (name : String)

def parameterCount : Nat :=
  (script.parameters.filter fun parameter =>
    toLowercase parameter.name = name && !parameter.value.isEmpty).length

def artifactCount : Nat :=
  (script.artifacts.filter fun artifact => toLowercase artifact.name = name).length

def usableArtifactCount : Nat :=
  (script.artifacts.filter fun artifact =>
    toLowercase artifact.name = name && !artifact.url.isEmpty).length

/-- Whether a script has a parameter that its template does not name. -/
def hasExtraParams (template : IpxeTemplate) (script : IpxeScript) : Bool :=
  let used := (template.requiredParams ++ template.reservedParams).map toLowercase
  script.parameters.any fun parameter => toLowercase parameter.name ∉ used

def containsText (needle text : List Char) : Bool := (splitFirst needle text).isSome

/-- The checks of a script against its template. The counts of the source are iterated in
the order of a hash map, which only selects the error that is reported. -/
def validate (templates : List IpxeTemplate) (script : IpxeScript) :
    Except IpxeScriptError Unit := do
  let template ← okOr (.templateNotFound script.ipxeTemplateId)
    (getTemplateById templates script.ipxeTemplateId)
  script.parameters.forM fun parameter =>
    rejectExtra parameter.name " for \x7b\x7bextra\x7d\x7d placeholder"
  script.artifacts.forM fun artifact =>
    rejectExtra artifact.name ", cannot be used as artifact name"
  script.parameters.forM fun parameter => template.reservedParams.forM fun reserved =>
    rejectIf (toLowercase parameter.name = toLowercase reserved)
      (.reservedParameterFound parameter.name)
  (countNames template.requiredParams).entries.forM fun (name, required) =>
    let available := parameterCount script name + artifactCount script name
    rejectIf (available < required)
      (.requiredParameterMissing (needMessage name required available))
  (countNames template.requiredArtifacts).entries.forM fun (name, required) =>
    let available := usableArtifactCount script name
    rejectIf (available < required)
      (.artifactNotFound (needMessage name required available))
  rejectIf (hasExtraParams template script &&
    !containsText (placeholder "extra") template.template.toList) .extraParametersNotSupported
  rejectIf (script.computeHash ≠ script.hash)
    (.hashMismatch script.hash script.computeHash)

/-- The reserved parameters must be those of the template. -/
def validateReservedParams (reserved : List IpxeTemplateParameter) (template : IpxeTemplate) :
    Except IpxeScriptError Unit := do
  let provided := reserved.map fun parameter => toLowercase parameter.name
  let required := template.reservedParams.map toLowercase
  template.reservedParams.forM fun name =>
    rejectIf (toLowercase name ∉ provided) (.missingReservedParameter name)
  reserved.forM fun parameter =>
    rejectIf (toLowercase parameter.name ∉ required)
      (.unexpectedReservedParameter parameter.name)

/-! ## Consumption -/

/-- The values by name, and the parameters and artifacts that have been consumed. -/
structure Consumption where
  values : BTreeMap String (List String)
  parameters : List Nat
  artifacts : List Nat

variable (consumption : Consumption)

def Consumption.push (name value : String) : Consumption :=
  { consumption with values := consumption.values.upsert (· ++ ·) name [value] }

def consumeParameter (required : String) : Consumption :=
  let name := toLowercase required
  match script.parameters.zipIdx.find? fun (parameter, index) =>
      toLowercase parameter.name = name && index ∉ consumption.parameters &&
        !parameter.value.isEmpty with
  | none => consumption
  | some (parameter, index) =>
    { consumption.push name parameter.value with
      parameters := index :: consumption.parameters }

def consumeArtifact (required : String) : Except IpxeScriptError Consumption :=
  let name := toLowercase required
  match script.artifacts.zipIdx.find? fun (artifact, index) =>
      toLowercase artifact.name = name && index ∉ consumption.artifacts with
  | none => .ok consumption
  | some (artifact, index) => do
      let url ← resolveArtifactUrl artifact
      return { consumption.push name url with artifacts := index :: consumption.artifacts }

def consumeReserved (reserved : List IpxeTemplateParameter) (consumption : Consumption)
    (name : String) : Consumption :=
  match reserved.find? fun parameter =>
      toLowercase parameter.name = toLowercase name with
  | none => consumption
  | some parameter => consumption.push (toLowercase name) parameter.value

def consume (template : IpxeTemplate) (script : IpxeScript)
    (reserved : List IpxeTemplateParameter) : Except IpxeScriptError Consumption := do
  let parameters := template.requiredParams.foldl (consumeParameter script) ⟨.empty, [], []⟩
  let artifacts ← template.requiredArtifacts.foldlM (consumeArtifact script) parameters
  return template.reservedParams.foldl (consumeReserved reserved) artifacts

/-! ## Substitution -/

def substitute (text : List Char) (entry : String × List String) : List Char :=
  entry.2.foldl (fun text value => replaceFirst (placeholder entry.1) value.toList text) text

/-- The parameters that are not consumed, with their names as they are written. -/
def extraText (consumption : Consumption) : List Char :=
  let extra := (script.parameters.zipIdx.filter fun (parameter, index) =>
    index ∉ consumption.parameters && !parameter.value.isEmpty).map fun (parameter, _) =>
      parameter.name ++ "=" ++ parameter.value
  (" ".intercalate extra).toList

/-- Replace pairs of spaces as long as there are any. -/
def collapseSpaces : Nat → List Char → List Char
  | 0, text => text
  | fuel + 1, text =>
    if containsText [' ', ' '] text then
      collapseSpaces fuel (replaceAll [' ', ' '] [' '] text)
    else text

/-- `str::lines`: a line ends before a line feed, or before a carriage return and a line feed. -/
def lines (text : List Char) : List (List Char) :=
  let parts := text.splitOn '\n'
  let terminated := parts.dropLast.map fun line =>
    if line.getLast? = some '\r' then line.dropLast else line
  terminated ++ (parts.getLast?.filter (!·.isEmpty)).toList

/-- One space between words and none at the ends of lines. -/
def cleanUp (text : List Char) : List Char :=
  let collapsed := collapseSpaces text.length text
  ['\n'].intercalate ((lines collapsed).map fun line => line.rdropWhile isWhitespace)

/-- The text of the placeholders that are left. -/
def unreplaced : Nat → List Char → List (List Char)
  | 0, _ => []
  | fuel + 1, text =>
    match splitFirst ['{', '{'] text with
    | none => []
    | some (_, after) =>
      match splitFirst ['}', '}'] ('{' :: '{' :: after) with
      | none => []
      | some (inner, rest) => (inner ++ ['}', '}']) :: unreplaced fuel rest

def checkUnreplacedPlaceholders (text : List Char) : Except IpxeScriptError Unit :=
  let found := unreplaced text.length text
  rejectIf (!found.isEmpty)
    (.unreplacedPlaceholders (", ".intercalate (found.map .ofList)))

/-- Replace the placeholder for the parameters that are not consumed. -/
def substituteExtra (extra text : List Char) : List Char :=
  if containsText (placeholder "extra") text then replaceAll (placeholder "extra") extra text
  else text

/-- Render a script. The iteration lists the entries of the map of the values. -/
def render (iteration : BTreeMap String (List String) → List (String × List String))
    (templates : List IpxeTemplate) (script : IpxeScript)
    (reserved : List IpxeTemplateParameter) : Except IpxeScriptError String := do
  validate templates script
  let template ← okOr (.templateNotFound script.ipxeTemplateId)
    (getTemplateById templates script.ipxeTemplateId)
  validateReservedParams reserved template
  let consumption ← consume template script reserved
  let substituted := (iteration consumption.values).foldl substitute template.template.toList
  let result := cleanUp (substituteExtra (extraText script consumption) substituted)
  checkUnreplacedPlaceholders result
  return .ofList result

end Renderer

end Ipxe
