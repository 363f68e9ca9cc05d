import Mathlib.Tactic.Linarith

/-!
# Replacing occurrences in a sequence

The search for the first occurrence of a pattern, its replacement, and the replacement of
all occurrences from left to right.
-/

namespace Replace

open List

variable {α : Type*}

theorem append_cons_inj {left right leftRest rightRest : List α} {separator : α}
    (leftAbsent : separator ∉ left) (rightAbsent : separator ∉ right)
    (same : left ++ separator :: leftRest = right ++ separator :: rightRest) :
    left = right ∧ leftRest = rightRest := by
  induction left generalizing right with
  | nil | cons head left ih => cases right <;> grind

variable [DecidableEq α] (needle text : List α) (offset : Nat)

def OccursAt : Prop := needle <+: text.drop offset

instance : Decidable (OccursAt needle text offset) :=
  inferInstanceAs (Decidable (needle <+: text.drop offset))

/-- The text before and behind the first occurrence of a pattern. -/
def splitFirst (needle : List α) : List α → Option (List α × List α)
  | [] => if needle.isPrefixOf [] then some ([], []) else none
  | head :: rest =>
    if needle.isPrefixOf (head :: rest) then some ([], (head :: rest).drop needle.length)
    else (splitFirst needle rest).map fun (before, after) => (head :: before, after)

def replaceFirst (needle value text : List α) : List α :=
  match splitFirst needle text with
  | some (before, after) => before ++ value ++ after
  | none => text

/-- Replace all occurrences from left to right, after some elements that are skipped. -/
def replaceFrom (needle value : List α) : Nat → List α → List α
  | _, [] => []
  | skip + 1, _ :: rest => replaceFrom needle value skip rest
  | 0, head :: rest =>
    if needle.isPrefixOf (head :: rest) then
      value ++ replaceFrom needle value (needle.length - 1) rest
    else head :: replaceFrom needle value 0 rest

def replaceAll (needle value text : List α) : List α := replaceFrom needle value 0 text

variable {needle value text : List α}

theorem isPrefixOf_append (head : α) (tail after : List α) :
    (head :: tail).isPrefixOf (head :: (tail ++ after)) = true :=
  List.isPrefixOf_iff_prefix.mpr (prefix_append (head :: tail) after)

variable {before : List α}

theorem not_isPrefixOf (absent : ¬ OccursAt needle text 0) : ¬ needle.isPrefixOf text = true := by
  rw [List.isPrefixOf_iff_prefix]
  exact absent

theorem replaceFrom_skip (skipped : List α) :
    replaceFrom needle value skipped.length (skipped ++ text) = replaceAll needle value text := by
  induction skipped with
  | nil => rfl
  | cons head skipped ih => exact ih

theorem replaceAll_append (nonempty : needle ≠ []) (after : List α) :
    replaceAll needle value (needle ++ after) = value ++ replaceAll needle value after := by
  cases needle with
  | nil => exact absurd rfl nonempty
  | cons head needle =>
    rw [replaceAll, cons_append, replaceFrom, if_pos (isPrefixOf_append ..)]
    exact congrArg _ (replaceFrom_skip needle)

theorem replaceAll_of_not_occursAt
    (none : ∀ offset < before.length, ¬ OccursAt needle (before ++ text) offset) :
    replaceAll needle value (before ++ text) = before ++ replaceAll needle value text := by
  induction before with
  | nil => rfl
  | cons head before ih =>
    have notHere := not_isPrefixOf (none 0 (Nat.succ_pos _))
    have later := ih fun offset inside => none (offset + 1) (Nat.succ_lt_succ inside)
    rw [cons_append] at notHere ⊢
    rw [replaceAll, replaceFrom, if_neg notHere]
    exact congrArg _ later

/-- Split at all occurrences of a pattern, after some elements that are skipped. -/
def splitFrom (needle : List α) : Nat → List α → List (List α)
  | _, [] => [[]]
  | skip + 1, _ :: rest => splitFrom needle skip rest
  | 0, head :: rest =>
    if needle.isPrefixOf (head :: rest) then [] :: splitFrom needle (needle.length - 1) rest
    else (splitFrom needle 0 rest).modifyHead (head :: ·)

def splitAll (needle text : List α) : List (List α) := splitFrom needle 0 text

section Split

variable {first : α} {tail : List α}

theorem splitFrom_skip (skipped rest : List α) :
    splitFrom needle skipped.length (skipped ++ rest) = splitFrom needle 0 rest := by
  induction skipped with
  | nil => rfl
  | cons head skipped ih =>
    exact ih

/-- A part that does not contain the first element of the pattern is not split. -/
theorem splitFrom_of_not_mem {part : List α} (absent : first ∉ part) :
    splitFrom (first :: tail) 0 part = [part] := by
  induction part with
  | nil => rfl
  | cons head part ih =>
    obtain ⟨differs, absent⟩ := not_or.mp (mt mem_cons.mpr absent)
    rw [splitFrom, if_neg (by simp [List.isPrefixOf, differs]), ih absent]
    rfl

theorem splitFrom_append {part : List α} (absent : first ∉ part) (rest : List α) :
    splitFrom (first :: tail) 0 (part ++ (first :: tail ++ rest)) =
      part :: splitFrom (first :: tail) 0 rest := by
  induction part with
  | nil =>
    rw [nil_append, cons_append, splitFrom, if_pos (isPrefixOf_append ..),
      length_cons, Nat.add_sub_cancel, splitFrom_skip]
  | cons head part ih =>
    obtain ⟨differs, absent⟩ := not_or.mp (mt mem_cons.mpr absent)
    rw [cons_append, splitFrom, if_neg (by simp [List.isPrefixOf, differs]), ih absent]
    rfl

/-- Parts that do not contain the first element of the separator are split again. -/
theorem splitAll_intercalate {parts : List (List α)} (nonempty : parts ≠ [])
    (absent : ∀ part ∈ parts, first ∉ part) :
    splitAll (first :: tail) ((first :: tail).intercalate parts) = parts := by
  induction parts with
  | nil => exact absurd rfl nonempty
  | cons part parts ih =>
    cases parts with
    | nil =>
      rw [intercalate_singleton]
      exact splitFrom_of_not_mem (absent part mem_cons_self)
    | cons next parts =>
      have rest := ih (cons_ne_nil _ _) fun other member =>
        absent other (mem_cons_of_mem _ member)
      rw [intercalate_cons_cons, append_assoc, splitAll,
        splitFrom_append (absent part mem_cons_self)]
      exact congrArg (part :: ·) rest

end Split

end Replace
