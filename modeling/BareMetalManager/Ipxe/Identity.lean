import BareMetalManager.Ipxe.Render

/-!
# What the hash of a script identifies

The fields are hashed without separators. Two scripts have one hash if and only if their
fields join to the same text, so a hash does not see where one field ends and the next one
begins. Artifacts with one name and one URL are hashed in the order of the list.
-/

namespace Ipxe

open StableSort List Primitives IpxeTemplateArtifact

/-! ## The hash and the joined fields -/

theorem digitChar_inj : ∀ left < 16, ∀ right < 16,
    Nat.digitChar left = Nat.digitChar right → left = right := by
  decide

theorem bytes_of_hexDigits {left right : List UInt8} (same : (left.flatMap fun byte =>
        [Nat.digitChar (byte.toNat / 16), Nat.digitChar (byte.toNat % 16)]) =
      right.flatMap fun byte =>
        [Nat.digitChar (byte.toNat / 16), Nat.digitChar (byte.toNat % 16)]) : left = right := by
  induction left generalizing right with
  | nil =>
    cases right with
    | nil => rfl
    | cons byte right => cases same
  | cons leftByte left ih =>
    cases right with
    | nil => cases same
    | cons rightByte right =>
      simp only [flatMap_cons, cons_append, nil_append, List.cons.injEq] at same
      obtain ⟨high, low, rest⟩ := same
      have leftBound := leftByte.toNat_lt
      have rightBound := rightByte.toNat_lt
      have sameHigh := digitChar_inj _ (by omega) _ (by omega) high
      have sameLow := digitChar_inj _ (by omega) _ (by omega) low
      have sameByte : leftByte = rightByte := UInt8.toNat_inj.mp (by omega)
      rw [sameByte, ih rest]

theorem hexEncode_injective : Function.Injective hexEncode := by
  intro left right same
  have sameBytes := bytes_of_hexDigits (String.ofList_inj.mp same)
  exact ByteArray.ext (Array.toList_inj.mp sameBytes)

variable (fields : List String) (start : String)

theorem foldl_toUTF8 :
    fields.foldl (fun input field => input ++ field.toUTF8) start.toUTF8 =
      (fields.foldl (· ++ ·) start).toUTF8 := by
  induction fields generalizing start with
  | nil => rfl
  | cons field fields ih =>
    rw [foldl_cons, foldl_cons, ← ih, String.toUTF8_eq_toByteArray,
      String.toUTF8_eq_toByteArray, String.toUTF8_eq_toByteArray, String.toByteArray_append]

theorem toList_foldl_append :
    (fields.foldl (· ++ ·) start).toList = start.toList ++ (fields.map String.toList).flatten := by
  induction fields generalizing start with
  | nil => simp
  | cons field fields ih => simp [ih]

section Hash

variable [Primitives]

def fieldTexts (script : IpxeScript) : List (List Char) :=
  (hashedFields script).map String.toList

variable {left right : IpxeScript}

theorem computeHash_eq_iff :
    left.computeHash = right.computeHash ↔
      (fieldTexts left).flatten = (fieldTexts right).flatten := by
  have joined (script : IpxeScript) :
      (hashedFields script).foldl (fun input field => input ++ field.toUTF8) .empty =
        ((hashedFields script).foldl (· ++ ·) "").toUTF8 := foldl_toUTF8 _ ""
  unfold IpxeScript.computeHash
  simp only [joined]
  rw [hexEncode_injective.eq_iff, sha256_injective.eq_iff]
  refine String.toByteArray_inj.trans ?_
  rw [← String.toList_inj, toList_foldl_append, toList_foldl_append]
  rfl

/-! ## The fields of equal scripts -/

/-- The hashed fields of an artifact, names without case. -/
structure HashedArtifact where
  name : String
  url : String
  sha : Option String
  authType : Option String
  authToken : Option String

variable (artifact : IpxeTemplateArtifact)

def IpxeTemplateArtifact.hashed : HashedArtifact :=
  ⟨toLowercase artifact.name, artifact.url, artifact.sha, artifact.authType,
    artifact.authToken⟩

/-- Two scripts have the same template id, parameters and artifacts, up to the order of the
lists and the case of the names. -/
structure SameScript (left right : IpxeScript) : Prop where
  template : toLowercase left.ipxeTemplateId =
    toLowercase right.ipxeTemplateId
  parameters : (left.parameters.map parameterKey).Perm (right.parameters.map parameterKey)
  artifacts : (left.artifacts.map hashed).Perm
    (right.artifacts.map hashed)

def artifactText : List Char :=
  (artifactFields artifact).flatMap String.toList

/-- The joined text of the artifacts with one name and one URL, in the order of the list. -/
def tiedText (name url : String) (artifacts : List IpxeTemplateArtifact) : List Char :=
  (tied artifactKey (toLex (name, url)) artifacts).flatMap artifactText

/-- Artifacts with one name and one URL come in an order that gives the same text. -/
def TiesAgree (left right : IpxeScript) : Prop :=
  ∀ name url, tiedText name url left.artifacts = tiedText name url right.artifacts

/-- The joined fields are the texts of the template id, the parameters and the artifacts. -/
theorem flatten_fieldTexts (script : IpxeScript) :
    (fieldTexts script).flatten = (toLowercase script.ipxeTemplateId).toList ++
      ((sortBy parameterKey script.parameters).flatMap parameterFields).flatMap String.toList ++
      (sortBy artifactKey script.artifacts).flatMap artifactText := by
  simp only [fieldTexts, hashedFields, map_cons, map_append, flatten_cons,
    flatten_append, ← flatMap_def, flatMap_assoc, append_assoc]
  rfl

theorem SameScript.parameters_text (same : SameScript left right) :
    ((sortBy parameterKey left.parameters).flatMap parameterFields).flatMap String.toList =
      ((sortBy parameterKey right.parameters).flatMap parameterFields).flatMap String.toList := by
  have byKey (parameters : List IpxeTemplateParameter) :
      parameters.flatMap parameterFields =
        (parameters.map parameterKey).flatMap fun key => [(ofLex key).1, (ofLex key).2] := by
    rw [flatMap_map]
    rfl
  rw [byKey, byKey, map_sortBy_eq_of_perm same.parameters]

/-- Two equal scripts have the same artifacts with one name and one URL, up to their order. -/
theorem SameScript.tied_perm (same : SameScript left right) (wanted : String ×ₗ String) :
    ((tied artifactKey wanted left.artifacts).map hashed).Perm
      ((tied artifactKey wanted right.artifacts).map hashed) := by
  have asFilter (artifacts : List IpxeTemplateArtifact) :
      (tied artifactKey wanted artifacts).map hashed = (artifacts.map hashed).filter fun hashed =>
          toLex (hashed.name, hashed.url) = wanted := by
    rw [filter_map]
    rfl
  rw [asFilter, asFilter]
  exact same.artifacts.filter _

def HashedArtifact.text (artifact : HashedArtifact) : List Char :=
  ([artifact.name, artifact.url] ++ artifact.sha.toList ++ artifact.authType.toList ++
    artifact.authToken.toList).flatMap String.toList

theorem SameScript.flatten_eq_iff (same : SameScript left right) :
    (fieldTexts left).flatten = (fieldTexts right).flatten ↔ TiesAgree left right := by
  have lengths (wanted : String ×ₗ String) :
      ((tied artifactKey wanted left.artifacts).flatMap artifactText).length =
        ((tied artifactKey wanted right.artifacts).flatMap artifactText).length := by
    have byHashed (artifacts : List IpxeTemplateArtifact) :
        artifacts.flatMap artifactText =
          (artifacts.map hashed).flatMap HashedArtifact.text := by
      rw [flatMap_map]
      rfl
    rw [byHashed, byHashed]
    exact ((same.tied_perm wanted).flatMap_right _).length_eq
  rw [flatten_fieldTexts, flatten_fieldTexts, same.template, same.parameters_text,
    append_cancel_left_eq]
  rw [flatMap_eq_iff (pairwise_sortBy artifactKey _) (pairwise_sortBy artifactKey _) (by
    simpa only [tied_sortBy] using lengths)]
  simp only [tied_sortBy]
  exact ⟨fun each name url => each (toLex (name, url)),
    fun each wanted => each (ofLex wanted).1 (ofLex wanted).2⟩

/-! ## When the hash identifies a script -/

/-- The hash tells two scripts apart exactly if they differ: the fields of different scripts do not
join to one text, and in equal scripts the artifacts with one name and one URL come in an order
that gives the same text. -/
structure Separated (left right : IpxeScript) : Prop where
  different : ¬ SameScript left right → (fieldTexts left).flatten ≠ (fieldTexts right).flatten
  same : SameScript left right → TiesAgree left right

/-- The hash identifies the script exactly for the pairs that are separated. -/
theorem identifies_iff_separated (left right : IpxeScript) :
    (left.computeHash = right.computeHash ↔ SameScript left right) ↔ Separated left right := by
  rw [computeHash_eq_iff]
  by_cases same : SameScript left right
  · rw [same.flatten_eq_iff]
    exact ⟨fun agrees => ⟨fun ne => absurd same ne, agrees.mpr⟩,
      fun separated => ⟨fun _ => same, separated.same⟩⟩
  · exact ⟨fun agrees => ⟨fun _ equal => same (agrees.mp equal), fun isSame => absurd isSame same⟩,
      fun separated => ⟨fun equal => absurd equal (separated.different same),
        fun isSame => absurd isSame same⟩⟩

end Hash

/-- Names in lower case by their ASCII letters, and a digest that is the input. -/
@[reducible] def Primitives.reference : Primitives where
  toLowercase text := text.map .toLower
  isWhitespace := Char.isWhitespace
  sha256 input := input
  sha256_injective := Function.injective_id

def oneParameter (name value : String) : IpxeScript :=
  ⟨"os", none, "", none, "template", [⟨name, value⟩], []⟩

/-- The parameters `ab=c` and `a=bc` have one hash. -/
theorem not_identifies_oneParameter :
    letI := reference
    (oneParameter "ab" "c").computeHash = (oneParameter "a" "bc").computeHash ∧
      ¬ SameScript (oneParameter "ab" "c") (oneParameter "a" "bc") := by
  let := reference
  refine ⟨computeHash_eq_iff.mpr (by decide +kernel), fun same => ?_⟩
  have sameKey := same.parameters
  revert sameKey
  decide +kernel

end Ipxe
