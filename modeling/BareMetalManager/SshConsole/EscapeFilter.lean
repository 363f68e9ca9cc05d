import BareMetalManager.Lib.Text
import BareMetalManager.Lib.Transition
import Mathlib.Data.List.Chain

/-!
# The escape filter of the SSH console

What users type is filtered chunk by chunk before it is sent to the BMC, so that they cannot leave
the console. Between two chunks the filter of `crates/ssh-console/src/bmc/vendor.rs` keeps one
flag: that the lead byte of a sequence was withheld. It does not know the last byte it has sent.
-/

namespace SshConsole

open List

/-- The bytes with which a console is left. -/
inductive EscapeSequence where
  | single (esc : UInt8)
  /-- A lead byte and one of the trail bytes. -/
  | pair (lead : UInt8) (trail : Bytes)

namespace EscapeSequence

section Pair

variable (lead : UInt8) (trail : Bytes)

/-- The byte would complete a sequence in the output. -/
def completes (out : Option Bytes) (byte : UInt8) : Bool :=
  out.any fun buf => trail.contains byte && buf.getLast? = some lead

/-- The loop over a chunk. `out` is the copy of the output, which is made as soon as it
differs from the chunk, and `before` the part of the chunk that was read. -/
def scan (out : Option Bytes) (before : Bytes) (prevPending : Bool) : Bytes → Option Bytes × Bool
  | [] => (out, prevPending)
  | [byte] =>
    if completes lead trail out byte then (out, true)
    else if byte = lead then (some (out.getD before), true)
    else (out.map (· ++ [byte]), prevPending)
  | byte :: next :: rest =>
    if completes lead trail out byte then scan out (before ++ [byte]) true (next :: rest)
    else if byte = lead then
      if trail.contains next then
        scan (some (out.getD before)) (before ++ [byte, next]) prevPending rest
      else scan (some (out.getD before ++ [byte])) (before ++ [byte]) prevPending (next :: rest)
    else scan (out.map (· ++ [byte])) (before ++ [byte]) prevPending (next :: rest)

/-- The chunk itself is the output if no copy was made. -/
def finish (input : Bytes) : Option Bytes × Bool → Bytes × Bool
  | (some buf, pending) => (buf, pending)
  | (none, _) => (input, false)

def filterPair (input : Bytes) (prevPending : Bool) : Bytes × Bool :=
  match prevPending, input with
  | false, _ => finish input (scan lead trail none [] false input)
  | true, [] => (input, true)
  | true, first :: rest =>
    if trail.contains first then finish input (scan lead trail (some []) [first] false rest)
    else finish input (scan lead trail (some [lead]) [] false input)

end Pair

/-- The filtered chunk, and whether a lead byte is withheld. -/
def filterEscapeSequences (input : Bytes) (prevPending : Bool) : EscapeSequence → Bytes × Bool
  | single esc => if input.contains esc then (input.filter (· ≠ esc), false) else (input, false)
  | pair lead trail => filterPair lead trail input prevPending

def Clean : EscapeSequence → Bytes → Prop
  | single esc, bytes => esc ∉ bytes
  | pair lead trail, bytes => bytes.IsChain fun left right => ¬ (left = lead ∧ right ∈ trail)

/-- A chunk begins with a trail byte, behind the sequences at its start. -/
def exposed (lead : UInt8) (trail : Bytes) : Bytes → Bool
  | [] => false
  | [byte] => trail.contains byte
  | byte :: next :: rest =>
    if byte = lead ∧ next ∈ trail then exposed lead trail rest else trail.contains byte

/-- A lead byte is not a trail byte. -/
def Proper : EscapeSequence → Prop
  | single _ => True
  | pair lead trail => lead ∉ trail

/-! ## One chunk -/

section Chunk

variable {lead : UInt8} {trail : Bytes} {out : Option Bytes} {buf before rest sent input : Bytes}
  {byte : UInt8}

/-- What is sent when the loop goes on with the rest of a chunk. -/
structure Emits (lead : UInt8) (trail buf rest sent : Bytes) : Prop where
  clean : (pair lead trail).Clean sent
  begins : buf <+: sent
  head : buf = [] → ((∃ byte ∈ sent.head?, byte ∈ trail) ↔ exposed lead trail rest = true)

theorem clean_concat (clean : (pair lead trail).Clean buf)
    (apart : byte ∈ trail → buf.getLast? ≠ some lead) :
    (pair lead trail).Clean (buf ++ [byte]) := by
  refine isChain_append.mpr ⟨clean, .singleton byte, ?_⟩
  rintro last lastMem _ ⟨⟩ ⟨rfl, isTrail⟩
  exact apart isTrail lastMem

theorem Emits.push (emits : Emits lead trail (buf ++ [byte]) rest sent)
    (noPair : exposed lead trail (byte :: rest) = trail.contains byte) :
    Emits lead trail buf (byte :: rest) sent where
  clean := emits.clean
  begins := (prefix_append _ _).trans emits.begins
  head empty := by
    obtain ⟨_, rfl⟩ := emits.begins
    simp [empty, noPair]

theorem fst_finish (whole : out = none → before = input) (pending : Bool) :
    (finish input (out, pending)).1 = out.getD before := by
  cases out with
  | none => exact (whole rfl).symm
  | some buf => rfl

theorem getD_map_concat : (out.map (· ++ [byte])).getD (before ++ [byte]) =
    out.getD before ++ [byte] := by
  cases out <;> rfl

theorem completes_iff {out : Option Bytes} {byte : UInt8} : completes lead trail out byte ↔
    byte ∈ trail ∧ ∃ buf, out = some buf ∧ buf.getLast? = some lead := by
  cases out <;> simp [completes]

theorem scan_spec (proper : lead ∉ trail) (out : Option Bytes) (before : Bytes) (pending : Bool)
    (whole : before ++ rest = input)
    (noLead : out = none → lead ∉ before) (clean : (pair lead trail).Clean (out.getD before)) :
    Emits lead trail (out.getD before) rest
      (finish input (scan lead trail out before pending rest)).1 := by
  have kept {out : Option Bytes} {before : Bytes} (noLead : out = none → lead ∉ before)
      (clean : (pair lead trail).Clean (out.getD before)) {byte : UInt8}
      (incomplete : ¬ completes lead trail out byte) :
      (pair lead trail).Clean (out.getD before ++ [byte]) := by
    refine clean_concat clean fun isTrail isLead => ?_
    cases out with
    | none => exact noLead rfl (mem_of_getLast? isLead)
    | some buf => exact incomplete (completes_iff.mpr ⟨isTrail, buf, rfl, isLead⟩)
  fun_induction scan lead trail out before pending rest with
  | case1 =>
    rw [fst_finish fun _ => by simpa using whole]
    exact ⟨clean, prefix_rfl, fun empty => by simp [empty, exposed]⟩
  | case2 out before _ byte completed =>
    obtain ⟨-, buf, rfl, isLast⟩ := completes_iff.mp completed
    refine ⟨clean, prefix_rfl, fun empty => ?_⟩
    exact absurd empty (ne_nil_of_mem (mem_of_getLast? isLast))
  | case3 => exact ⟨clean, prefix_rfl, fun empty => by simp [finish, empty, exposed, proper]⟩
  | case4 out before _ byte incomplete _ =>
    rw [fst_finish fun _ => whole, getD_map_concat]
    have last : Emits lead trail (out.getD before ++ [byte]) [] (out.getD before ++ [byte]) :=
      ⟨kept noLead clean incomplete, prefix_rfl, fun empty => by simp at empty⟩
    exact last.push rfl
  | case5 out before _ byte next rest completed ih =>
    obtain ⟨-, buf, rfl, isLast⟩ := completes_iff.mp completed
    obtain ⟨clean, begins, -⟩ := ih (by simpa using whole) (by simp) clean
    refine ⟨clean, begins, fun empty => ?_⟩
    exact absurd empty (ne_nil_of_mem (mem_of_getLast? isLast))
  | case6 out before _ next rest isTrail _ ih =>
    obtain ⟨clean, begins, head⟩ := ih (by simpa using whole) (by simp) clean
    refine ⟨clean, begins, fun empty => (head empty).trans ?_⟩
    rw [exposed, if_pos ⟨rfl, by simpa using isTrail⟩]
  | case7 out before _ next rest noTrail incomplete ih =>
    refine (ih (by simpa using whole) (by simp) (kept noLead clean incomplete)).push ?_
    rw [exposed, if_neg fun isPair => noTrail (by simpa using isPair.2)]
  | case8 out before _ byte next rest incomplete notLead ih =>
    rw [getD_map_concat] at ih
    refine (ih (by simpa using whole) (by simpa [Ne.symm notLead] using noLead)
      (kept noLead clean incomplete)).push ?_
    rw [exposed, if_neg fun isPair => notLead isPair.1]

/-- A filtered chunk is clean, and it is known how it begins. A withheld lead byte counts as
its first byte. -/
theorem filterPair_spec (proper : lead ∉ trail) (input : Bytes) (pending : Bool) :
    Emits lead trail [] (if pending then lead :: input else input)
      (filterPair lead trail input pending).1 := by
  cases pending with
  | false => exact scan_spec proper none [] false rfl (by simp) .nil
  | true =>
    rw [if_pos rfl]
    cases input with
    | nil => exact ⟨.nil, prefix_rfl, fun _ => by simp [filterPair, exposed, proper]⟩
    | cons first rest =>
      rw [filterPair]
      split
      next isTrail =>
        obtain ⟨clean, begins, head⟩ :=
          scan_spec proper (some []) [first] false rfl (by simp) .nil
        refine ⟨clean, begins, fun empty => (head empty).trans ?_⟩
        rw [exposed, if_pos ⟨rfl, by simpa using isTrail⟩]
      next noTrail =>
        have emits : Emits lead trail ([] ++ [lead]) (first :: rest) _ :=
          scan_spec proper (some [lead]) [] false rfl (by simp) (.singleton lead)
        refine emits.push ?_
        rw [exposed, if_neg fun isPair => noTrail (by simpa using isPair.2)]

end Chunk

/-! ## The connection -/

/-- What was sent to the BMC, and whether a lead byte is withheld. -/
structure Console where
  sent : Bytes
  pending : Bool

def Console.start : Console := ⟨[], false⟩

def console (sequence : EscapeSequence) : Machine Bytes Console where
  step chunk state :=
    let (data, pending) := sequence.filterEscapeSequences chunk state.pending
    some ⟨state.sent ++ data, pending⟩

/-- The chunk does not continue a sequence whose lead byte was sent before. A withheld lead
byte counts as the first byte of the chunk. -/
def Seamless : EscapeSequence → Console → Bytes → Prop
  | single _, _, _ => True
  | pair lead trail, state, chunk => state.sent.getLast? = some lead →
      exposed lead trail (if state.pending then lead :: chunk else chunk) = false

instance : (sequence : EscapeSequence) → (state : Console) → (chunk : Bytes) →
    Decidable (sequence.Seamless state chunk)
  | single _, _, _ => .isTrue trivial
  | pair _ _, _, _ => inferInstanceAs (Decidable (_ → _))

variable {sequence : EscapeSequence} {state next final : Console} {chunk : Bytes}
  {chunks : List Bytes}

theorem clean_step_iff (proper : sequence.Proper)
    (moved : sequence.console.step chunk state = some next) :
    sequence.Clean next.sent ↔ sequence.Clean state.sent ∧ sequence.Seamless state chunk := by
  cases moved
  cases sequence with
  | single esc =>
    simp only [Clean, Seamless]
    split <;> simp_all
  | pair lead trail =>
    obtain ⟨clean, -, head⟩ := filterPair_spec proper chunk state.pending
    simp only [Clean, Seamless, isChain_append, ← Bool.not_eq_true, ← head rfl]
    constructor
    · rintro ⟨before, -, apart⟩
      exact ⟨before, fun isLead ⟨byte, isHead, isTrail⟩ =>
        apart lead isLead byte isHead ⟨rfl, isTrail⟩⟩
    · rintro ⟨before, seamless⟩
      refine ⟨before, clean, ?_⟩
      rintro _ isLast byte isHead ⟨rfl, isTrail⟩
      exact seamless isLast ⟨byte, isHead, isTrail⟩

theorem clean_run_iff (proper : sequence.Proper)
    (ran : sequence.console.run chunks state = some final) :
    sequence.Clean final.sent ↔
      sequence.Clean state.sent ∧ sequence.console.Meets sequence.Seamless chunks state := by
  induction chunks generalizing state with
  | nil =>
    cases ran
    exact (and_iff_left trivial).symm
  | cons chunk chunks ih =>
    obtain ⟨next, moved, ran⟩ := (Machine.run_cons_eq_some _).mp ran
    rw [ih ran, clean_step_iff proper moved, and_assoc]
    simp [Machine.Meets, moved]

/-- The bytes that are sent contain no escape sequence exactly if no chunk continues one
whose lead byte was sent before. -/
theorem clean_iff_seamless (proper : sequence.Proper)
    (ran : sequence.console.run chunks .start = some final) :
    sequence.Clean final.sent ↔ sequence.console.Meets sequence.Seamless chunks .start := by
  have empty : sequence.Clean Console.start.sent := by
    cases sequence with
    | single esc => exact not_mem_nil
    | pair lead trail => exact .nil
  rw [clean_run_iff proper ran, and_iff_right empty]

/-- The sequence of Lenovo and HPE: ESC and an opening parenthesis. -/
def escParen : EscapeSequence := .pair 0x1b [0x28]

theorem clean_iff_seamless_escParen :
    escParen.Proper ∧ ∀ final ∈ escParen.console.run [[0x1b], [0x28, 0x28]] .start,
      (escParen.Clean final.sent ↔
        escParen.console.Meets escParen.Seamless [[0x1b], [0x28, 0x28]] .start) := by
  have proper : escParen.Proper := by simp [Proper, escParen]
  exact ⟨proper, fun final ran => clean_iff_seamless proper ran⟩

/-- After a sequence behind a lone ESC, the parenthesis of the next chunk completes one. -/
theorem not_clean_escParen :
    escParen.Proper ∧ ∃ final ∈ escParen.console.run [[0x1b, 0x1b, 0x28], [0x28]] .start,
      final.sent = [0x1b, 0x28] ∧ ¬ escParen.Clean final.sent := by
  refine ⟨by simp [Proper, escParen], ⟨[0x1b, 0x28], false⟩, rfl, rfl, ?_⟩
  simp [Clean, escParen]

/-! ## Chunking -/

section Chunking

variable (lead : UInt8) (trail : Bytes)

def withheld (pending : Bool) : Bytes := if pending then [lead] else []

/-- The output for the chunks one after another, and the lead byte that is withheld last. -/
def filterChunks (pending : Bool) : List Bytes → Bytes
  | [] => withheld lead pending
  | chunk :: chunks =>
    let (data, pending) := (pair lead trail).filterEscapeSequences chunk pending
    data ++ filterChunks pending chunks

/-- A stream without the lead bytes that a trail byte follows, and without these. A pending
lead byte stands in front of it. -/
def removePairs (pending : Bool) : Bytes → Bytes
  | [] => withheld lead pending
  | byte :: rest =>
    if pending ∧ byte ∈ trail then removePairs false rest
    else withheld lead pending ++
      if byte = lead then removePairs true rest else byte :: removePairs false rest

/-- The output for a stream does not depend on its division into chunks, has only bytes of the
stream, and is the stream if that is clean. -/
def Lawful (stream : Bytes) : Prop :=
  ∀ chunks : List Bytes, chunks.flatten = stream →
    filterChunks lead trail false chunks = filterChunks lead trail false [stream] ∧
    filterChunks lead trail false chunks <+ stream ∧
    ((pair lead trail).Clean stream → filterChunks lead trail false chunks = stream)

variable {lead trail} {pending : Bool} {tail input before rest sent : Bytes} {out : Option Bytes}

theorem removePairs_sublist (pending : Bool) (stream : Bytes) :
    removePairs lead trail pending stream <+ withheld lead pending ++ stream := by
  induction stream generalizing pending with
  | nil => simp [removePairs]
  | cons byte rest ih =>
    rw [removePairs]
    split
    · exact ((ih false).cons byte).trans (sublist_append_right _ _)
    · split
      next isLead => exact isLead.symm ▸ (ih true).append_left _
      next => exact ((ih false).cons_cons byte).append_left _

theorem removePairs_of_clean (pending : Bool) (stream : Bytes)
    (clean : (pair lead trail).Clean (withheld lead pending ++ stream)) :
    removePairs lead trail pending stream = withheld lead pending ++ stream := by
  induction stream generalizing pending with
  | nil => simp [removePairs]
  | cons byte rest ih =>
    obtain ⟨-, clean, apart⟩ := isChain_append.mp clean
    have noPair : ¬ (pending ∧ byte ∈ trail) := fun ⟨isPending, isTrail⟩ =>
      apart lead (by simp [withheld, isPending]) byte rfl ⟨rfl, isTrail⟩
    rw [removePairs, if_neg noPair]
    split
    next isLead => rw [isLead] at clean ⊢; rw [ih true clean]; rfl
    next => rw [ih false clean.tail]; rfl

variable (proper : lead ∉ trail)
include proper

/-- While no byte completes a sequence in the output, the loop removes the pairs. -/
theorem scan_removePairs (idle : pending = false) (whole : before ++ rest = input)
    (clean : (pair lead trail).Clean sent)
    (ahead : out.getD before ++ removePairs lead trail false (rest ++ tail) = sent) :
    let result := finish input (scan lead trail out before pending rest)
    result.1 ++ removePairs lead trail result.2 tail = sent := by
  have never {out : Option Bytes} {before rest : Bytes} {byte : UInt8}
      (ahead : out.getD before ++ removePairs lead trail false (byte :: rest) = sent)
      (completed : completes lead trail out byte) : False := by
    obtain ⟨isTrail, buf, rfl, isLast⟩ := completes_iff.mp completed
    have notLead : byte ≠ lead := fun isLead => proper (isLead ▸ isTrail)
    rw [← ahead] at clean
    refine (isChain_append.mp clean).2.2 lead isLast byte ?_ ⟨rfl, isTrail⟩
    simp [removePairs, withheld, notLead]
  fun_induction scan lead trail out before pending rest with
  | case1 out before => cases out <;> simpa [finish, idle, ← whole] using ahead
  | case2 _ _ _ _ completed | case5 _ _ _ _ _ _ completed => exact (never ahead completed).elim
  | case3 => simpa [finish, removePairs, withheld] using ahead
  | case4 out before _ byte _ notLead =>
    cases out <;> simpa [finish, removePairs, withheld, notLead, idle, ← whole] using ahead
  | case6 _ _ _ next rest isTrail _ ih | case7 _ _ _ next rest isTrail _ ih =>
    refine ih idle (by simpa using whole) ?_
    simp_all [removePairs, withheld]
  | case8 out before _ byte next rest _ notLead ih =>
    refine ih idle (by simpa using whole) ?_
    simpa [getD_map_concat, removePairs, withheld, notLead] using ahead

/-- A chunk of one byte is filtered without looking back at the output. -/
theorem filterPair_removePairs (pending : Bool) (clean : chunk.length = 1 ∨
      (pair lead trail).Clean (removePairs lead trail pending (chunk ++ tail))) :
    let result := filterPair lead trail chunk pending
    result.1 ++ removePairs lead trail result.2 tail =
      removePairs lead trail pending (chunk ++ tail) := by
  rcases clean with single | clean
  · obtain ⟨byte, rfl⟩ := length_eq_one_iff.mp single
    by_cases isLead : byte = lead
    · cases pending <;>
        simp [filterPair, scan, completes, finish, withheld, removePairs, isLead, proper]
    · cases pending <;> by_cases isTrail : byte ∈ trail <;>
        simp [filterPair, scan, completes, finish, withheld, removePairs, isLead, isTrail]
  · cases pending with
    | false => exact scan_removePairs proper rfl rfl clean rfl
    | true =>
      cases chunk with
      | nil => rfl
      | cons first rest =>
        rw [filterPair]
        split
        all_goals
          refine scan_removePairs proper rfl rfl clean ?_
          simp_all [removePairs, withheld]

theorem filterChunks_eq (pending : Bool) (chunks : List Bytes)
    (clean : (∀ chunk ∈ chunks, chunk.length = 1) ∨
      (pair lead trail).Clean (removePairs lead trail pending chunks.flatten)) :
    filterChunks lead trail pending chunks = removePairs lead trail pending chunks.flatten := by
  induction chunks generalizing pending with
  | nil => rfl
  | cons chunk chunks ih =>
    rw [flatten_cons] at *
    have step := filterPair_removePairs proper pending
      (clean.imp_left fun single => single chunk mem_cons_self)
    rw [← step] at clean ⊢
    refine congrArg (_ ++ ·) (ih _ (clean.imp (fun single _ mem => ?_) fun clean => ?_))
    · exact single _ (mem_cons_of_mem _ mem)
    · exact (isChain_append.mp clean).2.1

/-- Filtering is lawful exactly for the streams that are clean once their pairs are removed. -/
theorem lawful_iff_clean (stream : Bytes) : Lawful lead trail stream ↔
    (pair lead trail).Clean (removePairs lead trail false stream) := by
  constructor
  · intro lawful
    have bytewise : (stream.map fun byte => [byte]).flatten = stream := by simp [← flatMap_def]
    have removed := filterChunks_eq proper false (stream.map fun byte => [byte]) (.inl (by simp))
    rw [(lawful _ bytewise).1, bytewise] at removed
    rw [← removed]
    have clean := (filterPair_spec proper stream false).clean
    simp only [filterChunks, filterEscapeSequences]
    cases (filterPair lead trail stream false).2 with
    | false => simpa [withheld] using clean
    | true => exact clean_concat clean fun isTrail => absurd isTrail proper
  · rintro clean chunks rfl
    have filtered := filterChunks_eq proper false chunks (.inr clean)
    have whole := filterChunks_eq proper false [chunks.flatten] (.inr (by rwa [flatten_singleton]))
    rw [flatten_singleton] at whole
    exact ⟨filtered.trans whole.symm, filtered ▸ removePairs_sublist false _,
      fun clean => filtered.trans (removePairs_of_clean false _ clean)⟩

omit proper

theorem lawful_iff_clean_escParen : (0x1b : UInt8) ∉ [0x28] ∧ (Lawful 0x1b [0x28] [0x1b, 0x28] ↔
    (pair 0x1b [0x28]).Clean (removePairs 0x1b [0x28] false [0x1b, 0x28])) :=
  ⟨by decide, lawful_iff_clean (by decide) _⟩

/-- The second parenthesis is dropped if it comes in one chunk with the first one, and an ESC is
taken to be withheld from then on. -/
theorem not_lawful_escParen : (0x1b : UInt8) ∉ [0x28] ∧
    let stream := [0x1b, 0x1b, 0x28, 0x28, 0x61]
    filterChunks 0x1b [0x28] false [stream] = [0x1b, 0x61, 0x1b] ∧
    filterChunks 0x1b [0x28] false [[0x1b, 0x1b, 0x28], [0x28, 0x61]] = [0x1b, 0x28, 0x61] ∧
    ¬ Lawful 0x1b [0x28] stream := by
  refine ⟨by decide, rfl, rfl, fun lawful => ?_⟩
  exact absurd (lawful [[0x1b, 0x1b, 0x28, 0x28, 0x61]] rfl).2.1 (by decide)

end Chunking

end EscapeSequence

end SshConsole
