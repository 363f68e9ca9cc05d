import BareMetalManager.Lib.Text

/-!
# SPIFFE IDs

The parser and the printer of `crates/authn/src/spiffe_id.rs`. The parser slices
its input at byte offsets and counts characters where it means bytes, so the model
keeps both and may panic.
-/

namespace Authn

open List Text

inductive SpiffeIdError where
  | empty
  | missingTrustDomain
  | wrongScheme
  | badTrustDomainChar
  | badPathSegmentChar
  | emptySegment
  | dotSegment
  | trailingSlash
  deriving DecidableEq, Repr

structure TrustDomain where
  name : Text
  deriving DecidableEq, Repr

structure SpiffeId where
  trustDomain : TrustDomain
  path : Text
  deriving DecidableEq, Repr

namespace SpiffeId

/-- `spiffe://` -/
def schemePrefix : Text := ['s', 'p', 'i', 'f', 'f', 'e', ':', '/', '/']

def isValidTrustDomainChar (c : Char) : Bool :=
  ('a' ≤ c && c ≤ 'z') || ('0' ≤ c && c ≤ '9') || c == '-' || c == '.' || c == '_'

def isValidPathSegmentChar (c : Char) : Bool :=
  ('a' ≤ c && c ≤ 'z') || ('A' ≤ c && c ≤ 'Z') || ('0' ≤ c && c ≤ '9') ||
    c == '-' || c == '.' || c == '_'

/-- The number of characters before the first slash, all of them allowed. -/
def trustDomainLength : Text → Except SpiffeIdError Nat
  | [] => .ok 0
  | c :: rest =>
    if c = '/' then .ok 0
    else if isValidTrustDomainChar c then return (← trustDomainLength rest) + 1
    else .error .badTrustDomainChar

/-- The segments that a path may not have: none, or one or two dots. -/
def checkSegment (segment : Text) (ifEmpty : SpiffeIdError) : Except SpiffeIdError Unit :=
  if segment = ['/'] then .error ifEmpty
  else if segment = ['/', '.'] ∨ segment = ['/', '.', '.'] then .error .dotSegment
  else .ok ()

/-- The loop over the characters of a path. The position counts characters, and is
used as a byte offset where a segment is sliced. -/
def validatePathFrom (path : Text) (segmentStart segmentEnd : Nat) :
    Checked (Except SpiffeIdError Unit) :=
  if segmentEnd < path.utf8Len then
    match path[segmentEnd]? with
    | none => lastSegment path segmentStart segmentEnd
    | some c =>
      if c = '/' then
        match path.slice segmentStart segmentEnd with
        | .error reason => .error reason
        | .ok segment =>
          match checkSegment segment .emptySegment with
          | .error err => .ok (.error err)
          | .ok () => validatePathFrom path segmentEnd (segmentEnd + 1)
      else if isValidPathSegmentChar c then
        validatePathFrom path segmentStart (segmentEnd + 1)
      else .ok (.error .badPathSegmentChar)
  else lastSegment path segmentStart segmentEnd
termination_by path.utf8Len - segmentEnd
where
  lastSegment (path : Text) (segmentStart segmentEnd : Nat) :
      Checked (Except SpiffeIdError Unit) :=
    return checkSegment (← path.slice segmentStart segmentEnd) .trailingSlash

def validatePath (path : Text) : Checked (Except SpiffeIdError Unit) :=
  if path = [] then .ok (.error .empty) else validatePathFrom path 0 0

def parseRest (rest : Text) : Checked (Except SpiffeIdError SpiffeId) :=
  match trustDomainLength rest with
  | .error err => .ok (.error err)
  | .ok 0 => .ok (.error .missingTrustDomain)
  | .ok (i + 1) => do
      let (td, path) ← rest.sliceAt (i + 1)
      if path = [] then return .ok ⟨⟨td⟩, path⟩
      else
        match ← validatePath path with
        | .error err => return .error err
        | .ok () => return .ok ⟨⟨td⟩, path⟩

def new (id : Text) : Checked (Except SpiffeIdError SpiffeId) :=
  if id = [] then .ok (.error .empty)
  else if id.utf8Len < schemePrefix.utf8Len then .ok (.error .wrongScheme)
  else do
    let (scheme, rest) ← id.sliceAt schemePrefix.utf8Len
    if scheme = schemePrefix then parseRest rest
    else return .error .wrongScheme

def toText (id : SpiffeId) : Text := schemePrefix ++ id.trustDomain.name ++ id.path

/-! ## Accepted texts -/

/-- A segment of allowed characters that is neither empty nor one or two dots. -/
def IsSegment (segment : Text) : Prop :=
  segment ≠ [] ∧ (∀ c ∈ segment, isValidPathSegmentChar c) ∧ segment ≠ ['.'] ∧ segment ≠ ['.', '.']

def IsPath (path : Text) : Prop :=
  ∃ segments : List Text, path = segments.flatMap ('/' :: ·) ∧
    ∀ segment ∈ segments, IsSegment segment

/-- A SPIFFE ID as the standard has it: the scheme, a trust domain and a path. -/
def Conformant (text : Text) : Prop :=
  ∃ domain path, text = schemePrefix ++ domain ++ path ∧ domain ≠ [] ∧
    (∀ c ∈ domain, isValidTrustDomainChar c) ∧ IsPath path

variable {c : Char} {rest segment path : Text} {allowed : Panic → Prop}

theorem ascii_of_path (valid : isValidPathSegmentChar c) : c.utf8Size = 1 ∧ c ≠ '/' := by
  rw [Char.utf8Size_eq_one_iff]
  refine ⟨?_, ?_⟩
  · simp only [isValidPathSegmentChar, Bool.or_eq_true, Bool.and_eq_true, decide_eq_true_eq,
      beq_iff_eq] at valid
    obtain ((((⟨-, le⟩ | ⟨-, le⟩) | ⟨-, le⟩) | rfl) | rfl) | rfl := valid
    iterate 3 exact UInt32.le_trans le (by decide)
    all_goals decide
  · rintro rfl
    cases valid

theorem path_of_trustDomain (valid : isValidTrustDomainChar c) : isValidPathSegmentChar c := by
  simp only [isValidTrustDomainChar, isValidPathSegmentChar, Bool.or_eq_true] at valid ⊢
  tauto

theorem takeWhile_append (valid : ∀ c ∈ segment, isValidPathSegmentChar c)
    (slash : path.takeWhile (· ≠ '/') = []) : (segment ++ path).takeWhile (· ≠ '/') = segment := by
  rw [takeWhile_append_of_pos, slash, append_nil]
  intro c mem
  exact decide_eq_true (ascii_of_path (valid c mem)).2

theorem IsPath.slash (isPath : IsPath path) : path.takeWhile (· ≠ '/') = [] := by
  obtain ⟨segments, rfl, -⟩ := isPath
  cases segments <;> rfl

theorem isPath_cons (valid : ∀ c ∈ segment, isValidPathSegmentChar c)
    (slash : path.takeWhile (· ≠ '/') = []) :
    IsPath ('/' :: segment ++ path) ↔ IsSegment segment ∧ IsPath path := by
  constructor
  · rintro ⟨segments, same, all⟩
    cases segments with
    | nil => cases same
    | cons first others =>
      obtain ⟨isFirst, areOthers⟩ := forall_mem_cons.mp all
      have others : IsPath (others.flatMap ('/' :: ·)) := ⟨others, rfl, areOthers⟩
      simp only [flatMap_cons, cons_append, cons_inj_right] at same
      have equal : segment = first := by
        rw [← takeWhile_append valid slash, same, takeWhile_append isFirst.2.1 others.slash]
      subst equal
      rw [append_cancel_left same]
      exact ⟨isFirst, others⟩
  · rintro ⟨isFirst, others, rfl, areOthers⟩
    exact ⟨segment :: others, rfl, forall_mem_cons.mpr ⟨isFirst, areOthers⟩⟩

theorem isPath_nil : IsPath [] := ⟨[], rfl, forall_mem_nil _⟩

theorem checkSegment_eq_ok (valid : ∀ c ∈ segment, isValidPathSegmentChar c)
    (ifEmpty : SpiffeIdError) :
    checkSegment ('/' :: segment) ifEmpty = .ok () ↔ IsSegment segment := by
  simp only [checkSegment, IsSegment, cons_inj_right]
  split_ifs
  · simp_all
  · simp_all
    tauto
  · simp_all

section Loop

variable {before : Text} {start stop : Nat} (ascii : ∀ c ∈ before, c.utf8Size = 1)
  (valid : ∀ c ∈ segment, isValidPathSegmentChar c)
include ascii valid

theorem ascii_read : ∀ c ∈ before ++ '/' :: segment, c.utf8Size = 1 := by
  rw [forall_mem_append, forall_mem_cons]
  exact ⟨ascii, rfl, fun c mem => (ascii_of_path (valid c mem)).1⟩

variable (parts : before ++ '/' :: segment ++ rest = path) (isStart : before.length = start)
  (isStop : (before ++ '/' :: segment).length = stop)
include parts isStart isStop

/-- Characters and bytes count the same up to here, so that the loop slices what it has read. -/
theorem validatePathFrom_eq : validatePathFrom path start stop =
    match rest with
    | [] => .ok (checkSegment ('/' :: segment) .trailingSlash)
    | c :: _ =>
      if c = '/' then
        match checkSegment ('/' :: segment) .emptySegment with
        | .error err => .ok (.error err)
        | .ok () => validatePathFrom path stop (stop + 1)
      else if isValidPathSegmentChar c then validatePathFrom path start (stop + 1)
      else .ok (.error .badPathSegmentChar) := by
  have isStop : (before ++ '/' :: segment).utf8Len = stop := by
    rw [utf8Len_of_ascii (ascii_read ascii valid), isStop]
  have sliced : path.slice start stop = .ok ('/' :: segment) := by
    rw [← parts, ← isStart, ← isStop, ← utf8Len_of_ascii ascii]
    exact slice_append before ('/' :: segment) rest
  have length : path.utf8Len = stop + rest.utf8Len := by
    rw [← parts, utf8Len_append, isStop]
  have current : path[stop]? = rest[0]? := by
    rw [← parts, getElem?_append_right (by omega), Nat.sub_eq_zero_of_le (by omega)]
  rw [validatePathFrom, validatePathFrom.lastSegment, length, current, sliced]
  cases rest with
  | nil => exact if_neg (Nat.lt_irrefl _)
  | cons c rest =>
    exact if_pos (Nat.lt_add_of_pos_right (c.utf8Size_pos.trans_le le_self_add))

open Checked in
theorem validatePathFrom_spec :
    Ends allowed (fun result => result = .ok () ↔ IsPath ('/' :: segment ++ rest))
      (validatePathFrom path start stop) := by
  induction rest generalizing before segment start stop with
  | nil =>
    rw [validatePathFrom_eq ascii valid parts isStart isStop, isPath_cons valid rfl,
      and_iff_left isPath_nil]
    exact checkSegment_eq_ok valid .trailingSlash
  | cons c rest ih =>
    rw [validatePathFrom_eq ascii valid parts isStart isStop]
    simp only
    split
    next isSlash =>
      subst isSlash
      rw [isPath_cons valid rfl, ← checkSegment_eq_ok valid .emptySegment]
      cases checkSegment ('/' :: segment) .emptySegment with
      | error err => simp [Ends]
      | ok _ =>
        simp only [true_and]
        have next := ih (ascii_read ascii valid) (forall_mem_nil _) ?_ isStop rfl
        · rwa [length_append, isStop] at next
        · rw [append_assoc, singleton_append, parts]
    next isOther =>
      split
      next validChar =>
        have moved := append_assoc before ('/' :: segment) [c]
        have longer := @ih (segment ++ [c]) before start (stop + 1) ascii ?_ ?_ isStart ?_
        · simpa using longer
        · exact forall_mem_append.mpr ⟨valid, forall_mem_singleton.mpr validChar⟩
        · simp [← parts]
        · rw [← cons_append, ← moved, length_append, isStop, length_singleton]
      next invalid =>
        refine iff_of_false (by simp) ?_
        rintro ⟨segments, same, all⟩
        have mem : c ∈ segments.flatMap ('/' :: ·) := by simp [← same]
        obtain ⟨other, otherMem, mem⟩ := mem_flatMap.mp mem
        exact invalid ((all other otherMem).2.1 c (mem_of_ne_of_mem isOther mem))

end Loop

theorem trustDomainLength_eq (rest : Text) : trustDomainLength rest =
    if (rest.takeWhile (· ≠ '/')).all isValidTrustDomainChar then
      .ok (rest.takeWhile (· ≠ '/')).length
    else .error .badTrustDomainChar := by
  induction rest with
  | nil => rfl
  | cons c rest ih =>
    rw [trustDomainLength, ih]
    by_cases isSlash : c = '/'
    · subst isSlash
      rfl
    · rw [if_neg isSlash, takeWhile_cons_of_pos (by simpa)]
      rw [all_cons]
      cases isValidTrustDomainChar c with
      | false => rfl
      | true =>
        rw [Bool.true_and, if_pos rfl]
        split_ifs <;> rfl

theorem conformant_iff : Conformant (schemePrefix ++ rest) ↔
    rest.takeWhile (· ≠ '/') ≠ [] ∧ (∀ c ∈ rest.takeWhile (· ≠ '/'), isValidTrustDomainChar c) ∧
      IsPath (rest.dropWhile (· ≠ '/')) := by
  constructor
  · rintro ⟨domain, path, same, notEmpty, valid, isPath⟩
    rw [append_assoc, append_cancel_left_eq] at same
    have first : rest.takeWhile (· ≠ '/') = domain := by
      rw [same]
      exact takeWhile_append (fun c mem => path_of_trustDomain (valid c mem)) isPath.slash
    have second := rest.takeWhile_append_dropWhile (p := fun c => decide (c ≠ '/'))
    rw [first] at second ⊢
    nth_rewrite 2 [same] at second
    rw [append_cancel_left second]
    exact ⟨notEmpty, valid, isPath⟩
  · rintro ⟨notEmpty, valid, isPath⟩
    refine ⟨_, _, ?_, notEmpty, valid, isPath⟩
    rw [append_assoc, takeWhile_append_dropWhile]

open Checked in
theorem validatePath_spec (more : Text) :
    Ends allowed (fun result => result = .ok () ↔ IsPath ('/' :: more))
      (validatePath ('/' :: more)) := by
  have started : validatePath ('/' :: more) = validatePathFrom ('/' :: more) 0 1 := by
    rw [validatePath, if_neg (cons_ne_nil _ _), validatePathFrom]
    exact if_pos (Nat.lt_add_right _ (by decide))
  rw [started]
  exact validatePathFrom_spec (forall_mem_nil _) (forall_mem_nil _) rfl rfl rfl

/-- The parser accepts a text just if it is conformant, and printing gives it back. -/
structure Exact (text : Text) (result : Except SpiffeIdError SpiffeId) : Prop where
  accepts : (∃ id, result = .ok id) ↔ Conformant text
  prints : ∀ id, result = .ok id → id.toText = text

variable {text : Text}

theorem Exact.ofError (unfit : ¬Conformant text) (err : SpiffeIdError) : Exact text (.error err) :=
  ⟨iff_of_false (by simp) unfit, by simp⟩

theorem Exact.ofOk (id : SpiffeId) (fit : Conformant id.toText) : Exact id.toText (.ok id) :=
  ⟨iff_of_true ⟨id, rfl⟩ fit, by simp⟩

open Checked in
theorem parseRest_spec (rest : Text) :
    Ends allowed (Exact (schemePrefix ++ rest)) (parseRest rest) := by
  rw [parseRest, trustDomainLength_eq]
  split_ifs with valid <;> rw [all_eq_true] at valid
  · have parts := rest.takeWhile_append_dropWhile (p := fun c => decide (c ≠ '/'))
    have slash := rest.head?_dropWhile_not (p := fun c => decide (c ≠ '/'))
    have fit := @conformant_iff rest
    revert parts slash valid fit
    generalize rest.takeWhile (· ≠ '/') = domain, rest.dropWhile (· ≠ '/') = path
    rintro valid rfl slash fit
    cases domain with
    | nil => exact .ofError (fun facts => (fit.mp facts).1 rfl) _
    | cons first domain =>
      have sliced : sliceAt (first :: domain ++ path) (domain.length + 1) =
          .ok (first :: domain, path) :=
        sliceAt_eq_ok.mpr ⟨rfl, utf8Len_of_ascii fun c mem =>
          (ascii_of_path (path_of_trustDomain (valid c mem))).1⟩
      rw [and_iff_right (cons_ne_nil _ _), and_iff_right valid] at fit
      simp only [length_cons, sliced, bind, Except.bind]
      cases path with
      | nil => exact .ofOk ⟨⟨first :: domain⟩, []⟩ (fit.mpr isPath_nil)
      | cons c more =>
        obtain rfl : c = '/' := by simpa using slash
        refine (validatePath_spec more).bind fun checked isPath => ?_
        rw [← isPath] at fit
        cases checked with
        | error err => exact .ofError (fun facts => by cases fit.mp facts) err
        | ok _ => exact .ofOk ⟨⟨first :: domain⟩, '/' :: more⟩ (fit.mpr rfl)
  · exact .ofError (fun fit => valid (conformant_iff.mp fit).2.1) _

theorem Conformant.sliceAt (conformant : Conformant text) :
    ∃ rest, text.sliceAt schemePrefix.utf8Len = .ok (schemePrefix, rest) := by
  obtain ⟨domain, path, rfl, -⟩ := conformant
  exact ⟨_, sliceAt_eq_ok.mpr ⟨(append_assoc ..).symm, rfl⟩⟩

/-- The text is shorter than the scheme, or no character lies across the end of the scheme. -/
def Separable (text : Text) : Prop :=
  text.utf8Len < schemePrefix.utf8Len ∨
    ∃ scheme rest : Text, scheme ++ rest = text ∧ scheme.utf8Len = schemePrefix.utf8Len

open Checked in
theorem new_spec (text : Text) : Ends (fun _ => ¬Separable text) (Exact text) (new text) := by
  have unfit (short : text.utf8Len < schemePrefix.utf8Len) : ¬Conformant text := by
    intro fit
    obtain ⟨rest, sliced⟩ := fit.sliceAt
    rw [← (sliceAt_eq_ok.mp sliced).1, utf8Len_append] at short
    omega
  rw [new]
  split_ifs with empty short
  · exact .ofError (unfit (empty ▸ by decide)) _
  · exact .ofError (unfit short) _
  cases sliced : text.sliceAt schemePrefix.utf8Len with
  | error reason =>
    rintro (isShort | ⟨scheme, rest, parts⟩)
    · exact short isShort
    · rw [sliceAt_eq_ok.mpr parts] at sliced
      cases sliced
  | ok parts =>
    obtain ⟨scheme, rest⟩ := parts
    simp only [bind, Except.bind]
    split_ifs with isScheme
    · rw [← (sliceAt_eq_ok.mp sliced).1, isScheme]
      exact parseRest_spec rest
    · refine .ofError (fun fit => isScheme ?_) _
      obtain ⟨others, slicedAgain⟩ := fit.sliceAt
      rw [sliced] at slicedAgain
      cases slicedAgain
      rfl

theorem toText_of_new {id : SpiffeId} (parsed : new text = .ok (.ok id)) : id.toText = text :=
  ((new_spec text).of_eq_ok parsed).prints id rfl

/-- The parser returns and is exact, unless it cuts the text inside a character. -/
theorem new_exact_iff (text : Text) :
    (∃ result, new text = .ok result ∧ Exact text result) ↔ Separable text := by
  constructor
  · rintro ⟨result, returned, -⟩
    by_cases short : text.utf8Len < schemePrefix.utf8Len
    · exact .inl short
    · have notEmpty : text ≠ [] := by
        rintro rfl
        exact short (by decide)
      rw [new, if_neg notEmpty, if_neg short] at returned
      obtain ⟨⟨scheme, rest⟩, sliced, -⟩ := Checked.bind_eq_ok.mp returned
      exact .inr ⟨scheme, rest, sliceAt_eq_ok.mp sliced⟩
  · intro separable
    cases returned : new text with
    | error reason => exact absurd separable ((new_spec text).of_eq_error returned)
    | ok result => exact ⟨result, rfl, (new_spec text).of_eq_ok returned⟩

/-- The cut is inside the last character. -/
theorem new_panics_of_cut :
    ¬∃ result, new ['s', 'p', 'i', 'f', 'f', 'e', ':', '/', 'é'] = .ok result := by
  decide

end SpiffeId

end Authn
