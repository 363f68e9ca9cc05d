import BareMetalManager.Lib.Text

/-!
# Configuration versions

`config-version/src/lib.rs`. A version is a number and the time at which it was made. The database
and the API carry it as text, `V<number>-T<microseconds>`, and an update compares that text with
the one its writer has read. Each constructor is given the reading of the system clock, in
nanoseconds since the Unix epoch.
-/

namespace Versions

open Checked Text List

/-! ## Time -/

/-- `DateTime<Utc>` of chrono: whole seconds since the Unix epoch and nanoseconds. -/
structure DateTime where
  timestamp : Int
  subsecNanos : Nat
  deriving DecidableEq, Repr

open DateTime

namespace DateTime

/-- The first second of chrono's range, at the beginning of the year -262143. -/
def minTimestamp : Int := -8334601228800

/-- The last second of chrono's range, at the end of the year 262142. -/
def maxTimestamp : Int := 8210266876799

/-- `DateTime::from_timestamp`: a second in the range, and nanoseconds below one second,
or below two in the last second of a minute, as in a leap second. -/
def fromTimestamp (secs : Int) (nsecs : Nat) : Option DateTime :=
  if minTimestamp ≤ secs ∧ secs ≤ maxTimestamp ∧
      (nsecs < 1000000000 ∨ nsecs < 2000000000 ∧ secs % 60 = 59) then
    some ⟨secs, nsecs⟩
  else none

/-- `DateTime::timestamp_micros`: the microseconds since the Unix epoch, cut off. -/
def timestampMicros (time : DateTime) : Int :=
  time.timestamp * 1000000 + (time.subsecNanos / 1000 : Nat)

end DateTime

/-- `duration_since(UNIX_EPOCH).expect(..)`. -/
def durationSinceEpoch (reading : Int) : Checked Nat :=
  unwrap (if 0 ≤ reading then some reading.toNat else none)

def timeAfterEpoch (nanos : Nat) : Checked DateTime :=
  unwrap (fromTimestamp (nanos / 1000000000 : Nat) (nanos % 1000000000))

/-- `now`: the current time, rounded down to a whole microsecond. -/
def now (reading : Int) : Checked DateTime := do
  let elapsed ← durationSinceEpoch reading
  timeAfterEpoch (elapsed - elapsed % 1000)

/-- `Utc::now` of chrono: the current time with all its nanoseconds. -/
def utcNow (reading : Int) : Checked DateTime := do
  let elapsed ← durationSinceEpoch reading
  timeAfterEpoch elapsed

/-! ## Versions -/

structure ConfigVersion where
  versionNr : Nat
  timestamp : DateTime
  deriving DecidableEq, Repr

open ConfigVersion

/-- A change to `new` that is to happen only while the version is `current`. -/
structure ConfigVersionChange where
  current : ConfigVersion
  new : ConfigVersion

inductive ConfigVersionParseError where
  | versionFormat (text : Text)
  | dateTime (secs : Int) (nsecs : Nat)
  deriving DecidableEq, Repr

namespace ConfigVersion

def initial (reading : Int) : Checked ConfigVersion := do
  return ⟨1, ← now reading⟩

def new (versionNr : Nat) (reading : Int) : Checked ConfigVersion := do
  return ⟨versionNr, ← now reading⟩

variable (version : ConfigVersion) (reading : Int)

/-- The next version, made at a time. The number wraps around, and 0 is passed over. -/
def next (time : DateTime) : ConfigVersion :=
  let nr := (version.versionNr + 1) % 2 ^ 64
  ⟨nr ||| (nr == 0).toNat, time⟩

theorem versionNr_next {version : ConfigVersion} {time : DateTime}
    (small : version.versionNr + 1 < 2 ^ 64) :
    (version.next time).versionNr = version.versionNr + 1 := by
  simp only [next, Nat.mod_eq_of_lt small]
  simp

def increment : Checked ConfigVersion := do
  return version.next (← now reading)

/-- The change to the next version. The addition is checked, and the time keeps all the
nanoseconds of the clock. -/
def incrementalChange : Checked ConfigVersionChange := do
  return ⟨version, ⟨← add 64 version.versionNr 1, ← utcNow reading⟩⟩

def versionString : Text :=
  'V' :: decimal version.versionNr ++
    '-' :: 'T' :: signedDecimal version.timestamp.timestampMicros

/-- The number and the microseconds of a text that has two parts with their letters. -/
def parts (text : Text) : Option (Nat × Nat) :=
  match (text.trimMatches isWhiteSpace).splitOn '-' with
  | ['V' :: versionNr, 'T' :: timestamp] => do
      return (← parseUnsigned 64 versionNr, ← parseUnsigned 64 timestamp)
  | _ => none

/-- `FromStr` of a version. -/
def fromStr (text : Text) : Except ConfigVersionParseError ConfigVersion :=
  match parts text with
  | none => .error (.versionFormat text)
  | some (versionNr, timestamp) =>
    let secs := timestamp / 1000000
    let nsecs := timestamp % 1000000 * 1000
    match fromTimestamp secs nsecs with
    | some time => .ok ⟨versionNr, time⟩
    | none => .error (.dateTime secs nsecs)

end ConfigVersion

/-- An update of a row whose text of the version is compared with the one its writer has
read: the text the row then holds, or nothing when the row was not found. -/
def compareAndSet (stored : Text) (change : ConfigVersionChange) : Option Text :=
  if stored = change.current.versionString then some change.new.versionString else none

/-! ## Histories of one versioned value -/

/-- How the first version was made. -/
inductive Origin where
  | initial (reading : Int)
  | new (versionNr : Nat) (reading : Int)

/-- How the next version is made from the last one. -/
inductive Change where
  | increment (reading : Int)
  | incrementalChange (reading : Int)

def Origin.versionNr : Origin → Nat
  | .initial _ => 1
  | .new versionNr _ => versionNr

def Origin.create : Origin → Checked ConfigVersion
  | .initial reading => ConfigVersion.initial reading
  | .new versionNr reading => ConfigVersion.new versionNr reading

def Change.apply (version : ConfigVersion) : Change → Checked ConfigVersion
  | .increment reading => version.increment reading
  | .incrementalChange reading => do
      return (← version.incrementalChange reading).new

/-- A version and those made from it by a list of changes, one after another. -/
def versionsFrom (version : ConfigVersion) : List Change → Checked (List ConfigVersion)
  | [] => .ok [version]
  | change :: changes => do
      let next ← change.apply version
      return version :: (← versionsFrom next changes)

/-- The versions that a value has had, the oldest first. -/
def history (origin : Origin) (changes : List Change) : Checked (List ConfigVersion) := do
  versionsFrom (← origin.create) changes

/-! ## The text of a version -/

/-- What every version has that was made by this code. -/
structure ConfigVersion.WellFormed (version : ConfigVersion) : Prop where
  versionNr : version.versionNr < 2 ^ 64
  afterEpoch : 0 ≤ version.timestamp.timestamp
  inRange : version.timestamp.timestamp ≤ maxTimestamp
  subsecNanos : version.timestamp.subsecNanos < 1000000000

def ConfigVersion.truncated (version : ConfigVersion) : ConfigVersion :=
  ⟨version.versionNr, ⟨version.timestamp.timestamp, version.timestamp.subsecNanos / 1000 * 1000⟩⟩

theorem isWhiteSpace_of_isDigit {char : Char} (digit : char.isDigit = true) :
    isWhiteSpace char = false := by
  have bounds : 48 ≤ char.toNat ∧ char.toNat ≤ 57 := Char.isDigit_iff_toNat.mp digit
  simp [isWhiteSpace]
  omega

variable {versionNr : Nat}

namespace ConfigVersion

theorem not_mem_decimal_of_not_isDigit {char : Char} (number : Nat)
    (other : char.isDigit = false) : char ∉ decimal number := by
  intro mem
  rw [isDigit_of_mem_decimal mem] at other
  cases other

def render (versionNr micros : Nat) : Text :=
  'V' :: decimal versionNr ++ '-' :: 'T' :: decimal micros

theorem trim_render (versionNr micros : Nat) :
    trimMatches isWhiteSpace (render versionNr micros) = render versionNr micros := by
  have starts : (render versionNr micros).head? = some 'V' := rfl
  have ends : (render versionNr micros).getLast? =
      some ((decimal micros).getLast (decimal_ne_nil micros)) := by
    have last := getLast?_eq_some_getLast (decimal_ne_nil micros)
    simp [render, getLast?_append, getLast?_cons, last]
  apply trimMatches_eq_self starts ends
  · decide
  · exact isWhiteSpace_of_isDigit (isDigit_of_mem_decimal (getLast_mem _))

theorem splitOn_render (versionNr micros : Nat) :
    (render versionNr micros).splitOn '-' =
      ['V' :: decimal versionNr, 'T' :: decimal micros] := by
  have joined : intercalate ['-'] ['V' :: decimal versionNr, 'T' :: decimal micros] =
      render versionNr micros := by
    simp [intercalate, render]
  rw [← joined]
  apply splitOn_intercalate
  · intro part partMem
    have noDash (number : Nat) : '-' ∉ decimal number :=
      not_mem_decimal_of_not_isDigit number (by decide)
    rcases partMem with _ | ⟨_, _ | ⟨_, ⟨⟩⟩⟩
    · simp [noDash]
    · simp [noDash]
  · exact cons_ne_nil _ _

variable {micros : Nat}

theorem parts_render (versionFits : versionNr < 2 ^ 64) (microsFit : micros < 2 ^ 64) :
    parts (render versionNr micros) = some (versionNr, micros) := by
  rw [parts, trim_render, splitOn_render]
  simp [parseUnsigned_decimal versionFits, parseUnsigned_decimal microsFit]

variable {version : ConfigVersion}

theorem versionString_eq_render (time : version.timestamp.timestampMicros = micros) :
    version.versionString = render version.versionNr micros := by
  rw [versionString, time, signedDecimal_natCast, render]

theorem fromStr_of_parts {text : Text} {time : DateTime}
    (read : parts text = some (versionNr, micros))
    (valid : fromTimestamp (micros / 1000000 : Nat) (micros % 1000000 * 1000) =
      some time) : fromStr text = .ok ⟨versionNr, time⟩ := by
  simp only [fromStr, read, valid]

/-- The text of a version reads back as the version without the nanoseconds below one
microsecond. -/
theorem fromStr_versionString (wellFormed : version.WellFormed) :
    fromStr version.versionString = .ok version.truncated := by
  obtain ⟨versionFits, afterEpoch, inRange, belowSecond⟩ := wellFormed
  obtain ⟨nr, time, nanos⟩ := version
  obtain ⟨secs, rfl⟩ := Int.eq_ofNat_of_zero_le afterEpoch
  have secsBound : (secs : Int) ≤ 8210266876799 := inRange
  have nanosBound : nanos < 1000000000 := belowSecond
  have microsFit : secs * 1000000 + nanos / 1000 < 2 ^ 64 := by omega
  have secsEq : (secs * 1000000 + nanos / 1000) / 1000000 = secs := by omega
  have nsecsEq : (secs * 1000000 + nanos / 1000) % 1000000 * 1000 = nanos / 1000 * 1000 := by omega
  have valid : fromTimestamp secs (nanos / 1000 * 1000) = some ⟨secs, nanos / 1000 * 1000⟩ := by
    have afterMin : minTimestamp ≤ secs := by
      rw [minTimestamp]
      omega
    have cutOff := (Nat.div_mul_le_self nanos 1000).trans_lt nanosBound
    exact if_pos ⟨afterMin, inRange, .inl cutOff⟩
  rw [← secsEq, ← nsecsEq] at valid
  have read := fromStr_of_parts (parts_render versionFits microsFit) valid
  rw [versionString_eq_render rfl, read, secsEq, nsecsEq, truncated]

theorem truncated_eq_self_iff :
    version.truncated = version ↔ version.timestamp.subsecNanos % 1000 = 0 := by
  obtain ⟨versionNr, secs, nanos⟩ := version
  simp only [truncated, mk.injEq, DateTime.mk.injEq, true_and]
  omega

theorem versionNr_eq_of_versionString_eq {left right : ConfigVersion}
    (leftFormed : left.WellFormed) (rightFormed : right.WellFormed)
    (equal : left.versionString = right.versionString) : left.versionNr = right.versionNr := by
  have leftRead := fromStr_versionString leftFormed
  rw [equal, fromStr_versionString rightFormed] at leftRead
  exact (congrArg versionNr (Except.ok.inj leftRead)).symm

end ConfigVersion

/-! ## What the constructors make -/

variable {reading : Int}

theorem durationSinceEpoch_eq_ok {elapsed : Nat} :
    durationSinceEpoch reading = .ok elapsed ↔ reading = elapsed := by
  rw [durationSinceEpoch]
  split
  next after =>
    rw [unwrap_some, Except.ok.injEq]
    omega
  next before =>
    constructor
    · nofun
    · intro equal
      omega

variable {time : DateTime} {version : ConfigVersion} {nanos : Nat}

theorem timeAfterEpoch_eq_ok (returned : timeAfterEpoch nanos = .ok time) :
    0 ≤ time.timestamp ∧ time.timestamp ≤ maxTimestamp ∧
      time.subsecNanos = nanos % 1000000000 := by
  rw [timeAfterEpoch, fromTimestamp] at returned
  split at returned
  next valid =>
    cases returned
    exact ⟨Int.natCast_nonneg _, valid.2.1, rfl⟩
  next => cases returned

theorem wellFormed_of_time (versionFits : versionNr < 2 ^ 64)
    (returned : timeAfterEpoch nanos = .ok time) :
    ConfigVersion.WellFormed ⟨versionNr, time⟩ := by
  obtain ⟨afterEpoch, inRange, subsec⟩ := timeAfterEpoch_eq_ok returned
  have belowSecond : time.subsecNanos < 1000000000 := by
    rw [subsec]
    exact Nat.mod_lt _ (by decide)
  exact ⟨versionFits, afterEpoch, inRange, belowSecond⟩

theorem now_spec (versionFits : versionNr < 2 ^ 64) (returned : now reading = .ok time) :
    ConfigVersion.WellFormed ⟨versionNr, time⟩ ∧ time.subsecNanos % 1000 = 0 := by
  obtain ⟨elapsed, -, made⟩ := bind_eq_ok.mp returned
  obtain ⟨-, -, subsec⟩ := timeAfterEpoch_eq_ok made
  exact ⟨wellFormed_of_time versionFits made, by omega⟩

theorem utcNow_spec (versionFits : versionNr < 2 ^ 64) (returned : utcNow reading = .ok time) :
    ConfigVersion.WellFormed ⟨versionNr, time⟩ ∧
      (time.subsecNanos % 1000 = 0 ↔ reading % 1000 = 0) := by
  obtain ⟨elapsed, since, made⟩ := bind_eq_ok.mp returned
  obtain ⟨-, -, subsec⟩ := timeAfterEpoch_eq_ok made
  have readingEq := durationSinceEpoch_eq_ok.mp since
  exact ⟨wellFormed_of_time versionFits made, by omega⟩

def Origin.Counted (origin : Origin) : Prop := origin.versionNr ≠ 0

/-- The condition on a change: one by `incrementalChange` reads the clock at a whole
microsecond. -/
def Change.Rounded : Change → Prop
  | .increment _ => True
  | .incrementalChange reading => reading % 1000 = 0

variable {origin : Origin}

theorem Origin.create_spec (fits : origin.versionNr < 2 ^ 64)
    (created : origin.create = .ok version) :
    version.WellFormed ∧ version.versionNr = origin.versionNr ∧ version.truncated = version := by
  rw [truncated_eq_self_iff]
  cases origin with
  | initial | new =>
    obtain ⟨time, read, made⟩ := bind_eq_ok.mp created
    cases made
    obtain ⟨wellFormed, whole⟩ := now_spec fits read
    exact ⟨wellFormed, rfl, whole⟩

/-- A change makes a well-formed version with the next number. It has whole microseconds
exactly if the change is rounded. -/
theorem Change.apply_spec {change : Change} {next : ConfigVersion}
    (fits : version.versionNr + 1 < 2 ^ 64) (applied : change.apply version = .ok next) :
    next.WellFormed ∧ next.versionNr = version.versionNr + 1 ∧
      (next.truncated = next ↔ change.Rounded) := by
  rw [truncated_eq_self_iff]
  cases change with
  | increment reading =>
    obtain ⟨time, read, made⟩ := bind_eq_ok.mp applied
    cases made
    have nr : (version.next time).versionNr = _ := versionNr_next fits
    obtain ⟨wellFormed, whole⟩ := now_spec (nr.trans_lt fits) read
    exact ⟨wellFormed, nr, iff_of_true whole trivial⟩
  | incrementalChange reading =>
    obtain ⟨change, changed, made⟩ := bind_eq_ok.mp applied
    obtain ⟨nr, added, rest⟩ := bind_eq_ok.mp changed
    obtain ⟨time, read, built⟩ := bind_eq_ok.mp rest
    rw [add, if_pos fits] at added
    cases added
    cases built
    cases made
    obtain ⟨wellFormed, whole⟩ := utcNow_spec fits read
    exact ⟨wellFormed, rfl, whole⟩

/-! ## What a history keeps in storage -/

variable {changes : List Change} {versions : List ConfigVersion}

theorem versionsFrom_spec (wellFormed : version.WellFormed)
    (fits : version.versionNr + changes.length < 2 ^ 64)
    (returned : versionsFrom version changes = .ok versions) :
    (∀ later ∈ versions, later.WellFormed ∧ version.versionNr ≤ later.versionNr) ∧
      (versions.Pairwise fun before after => before.versionNr < after.versionNr) ∧
      version ∈ versions ∧ ((∀ later ∈ versions, later.truncated = later) ↔
        version.truncated = version ∧ ∀ change ∈ changes, change.Rounded) := by
  induction changes generalizing version versions with
  | nil =>
    cases returned
    simp [wellFormed]
  | cons change changes ih =>
    rw [length_cons] at fits
    obtain ⟨next, applied, rest⟩ := bind_eq_ok.mp returned
    obtain ⟨later, made, built⟩ := bind_eq_ok.mp rest
    cases built
    obtain ⟨nextFormed, nr, whole⟩ := change.apply_spec (by omega) applied
    obtain ⟨allFormed, grows, nextMem, allWhole⟩ := ih nextFormed (by omega) made
    refine ⟨?_, ?_, mem_cons_self, ?_⟩
    · intro other otherMem
      obtain rfl | otherMem := mem_cons.mp otherMem
      · exact ⟨wellFormed, le_rfl⟩
      · obtain ⟨otherFormed, above⟩ := allFormed other otherMem
        exact ⟨otherFormed, by omega⟩
    · refine pairwise_cons.mpr ⟨?_, grows⟩
      intro other otherMem
      have above := (allFormed other otherMem).2
      omega
    · rw [forall_mem_cons, forall_mem_cons, allWhole, whole]

/-- The versions of a history are safe in storage. -/
structure Survives (versions : List ConfigVersion) : Prop where
  roundTrip : ∀ version ∈ versions, fromStr version.versionString = .ok version
  grows : versions.Pairwise fun before after => before.versionNr < after.versionNr
  nonzero : ∀ version ∈ versions, version.versionNr ≠ 0
  /-- An update by a writer who has read a version fails once the row has a later one. -/
  detects : versions.Pairwise fun before after =>
    ∀ new, compareAndSet after.versionString ⟨before, new⟩ = none

def Kept (origin : Origin) (changes : List Change) : Prop :=
  origin.Counted ∧ ∀ change ∈ changes, change.Rounded

theorem history_spec (fits : origin.versionNr + changes.length < 2 ^ 64)
    (returned : history origin changes = .ok versions) :
    (∀ version ∈ versions, version.WellFormed) ∧ (Survives versions ↔ Kept origin changes) := by
  obtain ⟨first, created, rest⟩ := bind_eq_ok.mp returned
  obtain ⟨firstFormed, nr, firstWhole⟩ := origin.create_spec (by omega) created
  obtain ⟨allFormed, grows, firstMem, allWhole⟩ :=
    versionsFrom_spec firstFormed (nr ▸ fits) rest
  have formed := fun version mem => (allFormed version mem).1
  refine ⟨formed, ?_⟩
  constructor
  · intro survives
    refine ⟨fun zero => survives.nonzero first firstMem (nr.trans zero), (allWhole.mp ?_).2⟩
    intro version versionMem
    have read := survives.roundTrip version versionMem
    rw [fromStr_versionString (formed version versionMem)] at read
    exact Except.ok.inj read
  · intro kept
    have whole := allWhole.mpr ⟨firstWhole, kept.2⟩
    refine ⟨?_, grows, ?_, ?_⟩
    · intro version versionMem
      rw [fromStr_versionString (formed version versionMem), whole version versionMem]
    · intro version versionMem
      have above := (allFormed version versionMem).2
      have counted : origin.versionNr ≠ 0 := kept.1
      omega
    · refine grows.imp_of_mem ?_
      intro before after beforeMem afterMem less new
      refine if_neg fun equal => ?_
      have same := versionNr_eq_of_versionString_eq (formed after afterMem)
        (formed before beforeMem) equal
      omega

/-- The versions of any two histories survive storage and different versions have different texts
exactly if no history starts at number 0 and every `incrementalChange` happens to read the clock
at a whole microsecond. -/
theorem survives_iff_kept {leftOrigin rightOrigin : Origin} {leftChanges rightChanges : List Change}
    {left right : List ConfigVersion}
    (leftFits : leftOrigin.versionNr + leftChanges.length < 2 ^ 64)
    (rightFits : rightOrigin.versionNr + rightChanges.length < 2 ^ 64)
    (leftReturned : history leftOrigin leftChanges = .ok left)
    (rightReturned : history rightOrigin rightChanges = .ok right) :
    (Survives left ∧ Survives right ∧ ∀ version ∈ left, ∀ other ∈ right,
        version.versionString = other.versionString → version = other) ↔
      Kept leftOrigin leftChanges ∧ Kept rightOrigin rightChanges := by
  obtain ⟨-, leftSpec⟩ := history_spec leftFits leftReturned
  obtain ⟨-, rightSpec⟩ := history_spec rightFits rightReturned
  rw [← leftSpec, ← rightSpec]
  constructor
  · intro ⟨leftSurvives, rightSurvives, _⟩
    exact ⟨leftSurvives, rightSurvives⟩
  · intro ⟨leftSurvives, rightSurvives⟩
    refine ⟨leftSurvives, rightSurvives, ?_⟩
    intro version versionMem other otherMem equal
    have read := leftSurvives.roundTrip version versionMem
    rw [equal, rightSurvives.roundTrip other otherMem] at read
    exact (Except.ok.inj read).symm

/-- A value that was changed twice in whole microseconds, and another one made with a
number. -/
theorem survives_of_rounded :
    ∃ left right, history (.initial 1700000000123456789)
        [.increment 1700000000123456999, .incrementalChange 1700000001000001000] = .ok left ∧
      history (.new 7 1700000000000000001) [.incrementalChange 1700000002000000000] = .ok right ∧
      Survives left ∧ Survives right ∧ ∀ version ∈ left, ∀ other ∈ right,
        version.versionString = other.versionString → version = other := by
  obtain ⟨left, leftReturned⟩ : ∃ versions, history (.initial 1700000000123456789)
      [.increment 1700000000123456999, .incrementalChange 1700000001000001000] = .ok versions :=
    ⟨_, rfl⟩
  obtain ⟨right, rightReturned⟩ : ∃ versions, history (.new 7 1700000000000000001)
      [.incrementalChange 1700000002000000000] = .ok versions := ⟨_, rfl⟩
  refine ⟨left, right, leftReturned, rightReturned, ?_⟩
  refine (survives_iff_kept (by decide) (by decide) leftReturned rightReturned).mpr ?_
  simp [Kept, Origin.Counted, Origin.versionNr, Change.Rounded]

/-- A change at 789 nanoseconds after a whole microsecond: the version is not the one that is read
back, and the change of another writer one nanosecond later has the same text. -/
theorem lost_of_nanoseconds :
    ∃ first second other,
      history (.initial 1700000000000000000) [.incrementalChange 1700000000123456789] =
        .ok [first, second] ∧
      history (.initial 1700000000000000000) [.incrementalChange 1700000000123456790] =
        .ok [first, other] ∧
      fromStr second.versionString ≠ .ok second ∧
      second ≠ other ∧ second.versionString = other.versionString := by
  refine ⟨⟨1, ⟨1700000000, 0⟩⟩, ⟨2, ⟨1700000000, 123456789⟩⟩, ⟨2, ⟨1700000000, 123456790⟩⟩,
    rfl, rfl, ?_, by decide, by decide +kernel⟩
  have read : fromStr
      (versionString ⟨2, ⟨1700000000, 123456789⟩⟩) =
        .ok ⟨2, ⟨1700000000, 123456000⟩⟩ := by rfl
  decide

end Versions
