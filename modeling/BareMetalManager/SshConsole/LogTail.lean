import BareMetalManager.Lib.Text
import Mathlib.Data.List.DropRight

/-!
# The tail of the console log

`into_log_tail` of `crates/ssh-console/src/console_logger.rs` reads the files of a snapshot
backwards in blocks, the newest file first, until more lines have ended than were asked for.
What it has read by then begins anywhere in a line. Its only caller, in `api_server.rs`, bounds
the number of lines.
-/

namespace SshConsole

open List

/-- A number of lines to keep. -/
structure TailLines where
  count : Nat
  bounded : count ≤ 1000

/-- `tail_lines` of a request, where 0 stands for the default. -/
def tailLines (requested : UInt32) : Except String TailLines :=
  if requested = 0 then .ok ⟨1000, le_rfl⟩
  else if bounded : requested.toNat ≤ 1000 then .ok ⟨requested.toNat, bounded⟩
  else .error "tail_lines must not exceed 1000"

/-- A file as it is when it is read, and its length when the snapshot was captured. -/
structure SnapshotFile where
  contents : Bytes
  len : Nat

inductive IoError where
  | unexpectedEof
  deriving DecidableEq, Repr

/-- Seek to the start and fill a block. -/
def SnapshotFile.readExact (file : SnapshotFile) (start stop : Nat) :
    Except IoError Bytes :=
  if stop ≤ file.contents.length then .ok ((file.contents.take stop).drop start)
  else .error .unexpectedEof

def newline : UInt8 := 10

def blockSize : Nat := 8192

/-- What was read, the oldest block first, and the newlines in it. -/
structure LogTail where
  blocks : List Bytes := []
  completeLines : Nat := 0
  counted : blocks.flatten.count newline = completeLines := by rfl

namespace LogTail

def push (tail : LogTail) (block : Bytes) : LogTail where
  blocks := block :: tail.blocks
  completeLines := tail.completeLines + block.count newline
  counted := by rw [flatten_cons, count_append, tail.counted, Nat.add_comm]

def bytes (tail : LogTail) : Bytes := tail.blocks.flatten

variable (limit : Nat)

/-- The blocks of a file. The flag says that the loop over the files is left too. -/
def readFile (file : SnapshotFile) (stop : Nat) (tail : LogTail) :
    Except IoError (LogTail × Bool) :=
  if stop = 0 then .ok (tail, false)
  else do
    let start := stop - blockSize
    let tail := tail.push (← file.readExact start stop)
    if limit < tail.completeLines then return (tail, true)
    else readFile file start tail
termination_by stop
decreasing_by exact Nat.sub_lt (Nat.pos_of_ne_zero ‹_›) (by decide)

def readFiles : List SnapshotFile → LogTail → Except IoError LogTail
  | [], tail => .ok tail
  | file :: files, tail => do
    let (tail, left) ← readFile limit file file.len tail
    if left then return tail else readFiles files tail

end LogTail

/-- `split_inclusive` at newlines. -/
def splitInclusive : Bytes → List Bytes
  | [] => []
  | byte :: bytes =>
    if byte = newline then [byte] :: splitInclusive bytes
    else
      match splitInclusive bytes with
      | [] => [[byte]]
      | line :: lines => (byte :: line) :: lines

def completeLines (bytes : Bytes) : List Bytes :=
  (splitInclusive bytes).filter (·.getLast? = some newline)

/-- The last complete lines. -/
def intoLogTail (files : List SnapshotFile) (limit : TailLines) : Except IoError (List Bytes) := do
  let tail ← LogTail.readFiles limit.count files {}
  return ((completeLines tail.bytes).reverse.take limit.count).reverse

/-! ## Lines -/

/-- The complete lines of a text, and its unfinished line. -/
inductive Splits : (bytes : Bytes) → (lines : List Bytes) → (rest : Bytes) → Prop
  | rest {rest : Bytes} (unfinished : newline ∉ rest) : Splits rest [] rest
  | line {body bytes : Bytes} {lines : List Bytes} {rest : Bytes} (within : newline ∉ body)
      (splits : Splits bytes lines rest) :
      Splits (body ++ newline :: bytes) ((body ++ [newline]) :: lines) rest

theorem exists_splits (bytes : Bytes) : ∃ lines rest, Splits bytes lines rest := by
  induction bytes with
  | nil => exact ⟨[], [], .rest not_mem_nil⟩
  | cons byte bytes ih =>
    obtain ⟨lines, rest, splits⟩ := ih
    obtain rfl | ne := eq_or_ne newline byte
    · exact ⟨_, _, .line (not_mem_nil : newline ∉ []) splits⟩
    · cases splits with
      | rest unfinished => exact ⟨_, _, .rest (not_mem_cons_of_ne_of_not_mem ne unfinished)⟩
      | line within splits =>
        exact ⟨_, _, .line (not_mem_cons_of_ne_of_not_mem ne within) splits⟩

theorem flatten_splitInclusive (bytes : Bytes) : (splitInclusive bytes).flatten = bytes := by
  induction bytes with
  | nil => rfl
  | cons byte bytes ih =>
    rw [splitInclusive]
    split
    · rw [flatten_cons, ih, singleton_append]
    · split <;> simp_all

theorem splitInclusive_line {body : Bytes} (within : newline ∉ body) (bytes : Bytes) :
    splitInclusive (body ++ newline :: bytes) = (body ++ [newline]) :: splitInclusive bytes := by
  induction body with
  | nil => simp [splitInclusive]
  | cons byte body ih =>
    obtain ⟨ne, within⟩ := ne_and_not_mem_of_not_mem_cons within
    rw [cons_append, splitInclusive, if_neg ne.symm, ih within]
    rfl

namespace Splits

variable {bytes rest : Bytes} {lines : List Bytes} (splits : Splits bytes lines rest)
include splits

theorem completeLines_eq : completeLines bytes = lines := by
  induction splits with
  | @rest rest unfinished =>
    refine filter_eq_nil_iff.mpr fun line lineMem => ?_
    rw [decide_eq_true_eq]
    intro ends
    apply unfinished
    rw [← flatten_splitInclusive rest]
    exact mem_flatten_of_mem lineMem (mem_of_getLast? ends)
  | line within splits ih =>
    rw [completeLines, splitInclusive_line within, filter_cons_of_pos (by simp),
      ← completeLines, ih]

theorem count_newline : bytes.count newline = lines.length := by
  induction splits with
  | rest unfinished => exact count_eq_zero_of_not_mem unfinished
  | line within splits ih =>
    rw [count_append, count_eq_zero_of_not_mem within, count_cons_self, ih, zero_add, length_cons]

omit splits in
/-- What was read begins within a line, which the bytes before it complete. -/
theorem append {unread : Bytes} {older : List Bytes} {unfinished line : Bytes}
    (unreadSplits : Splits unread older unfinished) (splits : Splits bytes (line :: lines) rest) :
    ∃ first, Splits (unread ++ bytes) (older ++ first :: lines) rest := by
  induction unreadSplits with
  | @rest start unfinished =>
    cases splits with
    | @line body _ _ _ within splits =>
      refine ⟨start ++ body ++ [newline], ?_⟩
      rw [← append_assoc]
      exact .line (not_mem_append unfinished within) splits
  | line within _ ih =>
    obtain ⟨first, joined⟩ := ih
    refine ⟨first, ?_⟩
    rw [append_assoc, cons_append]
    exact .line within joined

end Splits

/-! ## Reading -/

/-- The bytes that were captured, from the oldest file to the newest. -/
def captured (files : List SnapshotFile) : Bytes :=
  files.reverse.flatMap fun file => file.contents.take file.len

variable {file : SnapshotFile} {files : List SnapshotFile} {limit : Nat}

namespace LogTail

theorem readFile_spec {stop : Nat} (enough : stop ≤ file.contents.length) (tail : LogTail) :
    ∃ next left unread, readFile limit file stop tail = .ok (next, left) ∧
      file.contents.take stop ++ tail.bytes = unread ++ next.bytes ∧
        if left then limit < next.completeLines else unread = [] := by
  induction stop using Nat.strong_induction_on generalizing tail with
  | _ stop ih =>
    rw [readFile]
    split
    next done => exact ⟨tail, false, [], rfl, by rw [done, take_zero], rfl⟩
    next more =>
      let block := (file.contents.take stop).drop (stop - blockSize)
      have read : file.readExact (stop - blockSize) stop = .ok block := if_pos enough
      have joined : file.contents.take (stop - blockSize) ++ block = file.contents.take stop := by
        have joined := take_append_drop (stop - blockSize) (file.contents.take stop)
        rwa [take_take, Nat.min_eq_left (Nat.sub_le ..)] at joined
      rw [← joined, append_assoc]
      simp only [read, bind, Except.bind]
      split
      next ended => exact ⟨_, true, _, rfl, rfl, ended⟩
      next =>
        have less : stop - blockSize < stop := Nat.sub_lt (Nat.pos_of_ne_zero more) (by decide)
        exact ih _ less (less.le.trans enough) (tail.push block)

theorem readFiles_spec (present : ∀ file ∈ files, file.len ≤ file.contents.length)
    (tail : LogTail) :
    ∃ next unread, readFiles limit files tail = .ok next ∧
      captured files ++ tail.bytes = unread ++ next.bytes ∧
        (unread = [] ∨ limit < next.completeLines) := by
  induction files generalizing tail with
  | nil => exact ⟨tail, [], rfl, rfl, .inl rfl⟩
  | cons file files ih =>
    obtain ⟨enough, present⟩ := forall_mem_cons.mp present
    have joined : captured (file :: files) = captured files ++ file.contents.take file.len := by
      simp [captured]
    obtain ⟨middle, left, unread, read, whole, ended⟩ := readFile_spec enough tail
    rw [joined, append_assoc, whole, readFiles, read]
    cases left with
    | true => exact ⟨middle, _, rfl, (append_assoc ..).symm, .inr ended⟩
    | false =>
      obtain rfl : unread = [] := ended
      exact ih present middle

end LogTail

theorem rtake_append {α : Type} {left right : List α} (enough : limit ≤ right.length) :
    (left ++ right).rtake limit = right.rtake limit := by
  rw [rtake, rtake, length_append, Nat.add_sub_assoc enough, drop_length_add_append]

/-- If the files still have their captured bytes, the result is the last complete lines of these
bytes. -/
theorem intoLogTail_eq (present : ∀ file ∈ files, file.len ≤ file.contents.length)
    (limit : TailLines) :
    ∃ lines rest, Splits (captured files) lines rest ∧
      intoLogTail files limit = .ok (lines.rtake limit.count) := by
  obtain ⟨tail, unread, read, whole, stopped⟩ :=
    @LogTail.readFiles_spec files limit.count present {}
  obtain ⟨lines, rest, splits⟩ := exists_splits tail.bytes
  have whole : captured files = unread ++ tail.bytes := (append_nil _).symm.trans whole
  have result : intoLogTail files limit = .ok (lines.rtake limit.count) := by
    rw [rtake_eq_reverse_take_reverse, ← splits.completeLines_eq, intoLogTail, read]
    rfl
  have count : lines.length = tail.completeLines := splits.count_newline.symm.trans tail.counted
  rcases stopped with rfl | more
  · exact ⟨lines, rest, whole ▸ splits, result⟩
  · rw [← count] at more
    cases lines with
    | nil => cases more
    | cons line lines =>
      obtain ⟨older, unfinished, unreadSplits⟩ := exists_splits unread
      obtain ⟨first, joined⟩ := unreadSplits.append splits
      have enough : limit.count ≤ lines.length := Nat.le_of_lt_succ more
      refine ⟨_, _, whole ▸ joined, ?_⟩
      rw [result, ← singleton_append, rtake_append enough, append_cons, rtake_append enough]

def oneLine : TailLines := ⟨1, by decide⟩

theorem intoLogTail_eq_of_split :
    ∃ lines rest, Splits (captured [⟨[98, 10], 2⟩, ⟨[97], 1⟩]) lines rest ∧
      intoLogTail [⟨[98, 10], 2⟩, ⟨[97], 1⟩] oneLine = .ok (lines.rtake 1) :=
  intoLogTail_eq (by decide) oneLine

/-- A file that was cut off since the snapshot: its line is not returned. -/
theorem intoLogTail_of_shortened :
    tailLines 1 = .ok oneLine ∧ completeLines (captured [⟨[97, 10], 3⟩]) = [[97, 10]] ∧
      intoLogTail [⟨[97, 10], 3⟩] oneLine = .error .unexpectedEof := by
  refine ⟨rfl, rfl, ?_⟩
  rw [intoLogTail, LogTail.readFiles, LogTail.readFile]
  rfl

end SshConsole
