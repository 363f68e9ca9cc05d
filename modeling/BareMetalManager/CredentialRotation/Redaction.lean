import BareMetalManager.Lib.Replace
import BareMetalManager.Lib.Text

/-!
# Redacted passwords

The passwords of a rotation are replaced in an error text one after the other. A password that is
found across a mark, in the other password or in a replaced one leaves a part of it behind.
-/

namespace CredentialRotation

open Replace List

def redacted : Text := "REDACTED".toList

def redact (message : Text) (secrets : List Text) : Text :=
  secrets.foldl
    (fun message secret => if secret ≠ [] then replaceAll secret redacted message else message)
    message

/-! ## One password -/

/-- A text in parts, with a password at its marks. -/
def joined (secret : Text) (parts : List (Option Text)) : Text := parts.flatMap (·.getD secret)

/-- The password begins nowhere in the parts between its marks. -/
def FoundAtMarks (secret : Text) : List (Option Text) → Prop
  | [] => True
  | none :: rest => FoundAtMarks secret rest
  | some text :: rest =>
    (∀ offset < text.length, ¬OccursAt secret (text ++ joined secret rest) offset) ∧
      FoundAtMarks secret rest

instance decidableFoundAtMarks (secret : Text) :
    (parts : List (Option Text)) → Decidable (FoundAtMarks secret parts)
  | [] => .isTrue trivial
  | none :: rest => decidableFoundAtMarks secret rest
  | some _ :: rest =>
    have := decidableFoundAtMarks secret rest
    inferInstanceAs (Decidable (_ ∧ _))

theorem replaceAll_joined {secret : Text} (nonempty : secret ≠ []) (value : Text)
    {parts : List (Option Text)} (found : FoundAtMarks secret parts) :
    replaceAll secret value (joined secret parts) = joined value parts := by
  induction parts with
  | nil => rfl
  | cons part rest ih =>
    cases part with
    | none =>
      rw [joined, flatMap_cons, Option.getD_none, replaceAll_append nonempty, ← joined, ih found]
      rfl
    | some text =>
      rw [joined, flatMap_cons, Option.getD_some, ← joined,
        replaceAll_of_not_occursAt found.1, ih found.2]
      rfl

/-! ## Both passwords -/

structure Passwords where
  current : Text
  new : Text
  current_ne : current ≠ []
  new_ne : new ≠ []

/-- A piece of an error text: what is written, or a password that is inserted. -/
inductive Piece where
  | literal (text : Text)
  | current
  | new

def Piece.fill (current new : Text) : Piece → Text
  | .literal text => text
  | .current => current
  | .new => new

def fill (current new : Text) (pieces : List Piece) : Text :=
  pieces.flatMap (Piece.fill current new)

namespace Passwords

variable (passwords : Passwords)

/-- The pieces when the current password is replaced, which the new one may repeat. -/
def first : Piece → Option Text
  | .literal text => some text
  | .current => none
  | .new => if passwords.new = passwords.current then none else some passwords.new

/-- The pieces when the new password is replaced. -/
def second : Piece → Option Text
  | .literal text => some text
  | .current => some redacted
  | .new => if passwords.new = passwords.current then some redacted else none

variable (pieces : List Piece)

/-- Each password is found where it has been inserted only. -/
def Separated : Prop :=
  FoundAtMarks passwords.current (pieces.map passwords.first) ∧
    FoundAtMarks passwords.new (pieces.map passwords.second)

instance : Decidable (passwords.Separated pieces) :=
  inferInstanceAs (Decidable (_ ∧ _))

/-- The error text with the passwords inserted, as it is logged. -/
def logged : Text :=
  redact (fill passwords.current passwords.new pieces) [passwords.current, passwords.new]

/-- The passwords do not occur in the text itself. -/
def Absent : Prop :=
  ¬passwords.current <:+: fill [] [] pieces ∧ ¬passwords.new <:+: fill [] [] pieces

instance : Decidable (passwords.Absent pieces) :=
  inferInstanceAs (Decidable (_ ∧ _))

variable {passwords}

theorem logged_eq {pieces : List Piece} (separated : passwords.Separated pieces) :
    passwords.logged pieces = fill redacted redacted pieces := by
  have inserted : fill passwords.current passwords.new pieces =
      joined passwords.current (pieces.map passwords.first) := by
    rw [fill, joined, flatMap_map]
    congr 1
    funext piece
    cases piece <;> grind [Piece.fill, first]
  have replaced : joined redacted (pieces.map passwords.first) =
      joined passwords.new (pieces.map passwords.second) := by
    rw [joined, joined, flatMap_map, flatMap_map]
    congr 1
    funext piece
    cases piece <;> grind [first, second]
  have masked : joined redacted (pieces.map passwords.second) = fill redacted redacted pieces := by
    rw [joined, fill, flatMap_map]
    congr 1
    funext piece
    cases piece <;> grind [Piece.fill, second]
  rw [logged, redact, foldl_cons, foldl_cons, foldl_nil,
    if_pos passwords.current_ne, if_pos passwords.new_ne, inserted,
    replaceAll_joined passwords.current_ne _ separated.1, replaced,
    replaceAll_joined passwords.new_ne _ separated.2, masked]

/-- Two choices of passwords that are found where they have been inserted only are logged alike. -/
theorem logged_eq_logged {pieces : List Piece} {passwords others : Passwords}
    (separated : passwords.Separated pieces) (othersSeparated : others.Separated pieces) :
    passwords.logged pieces = others.logged pieces ∧
      passwords.logged pieces = fill redacted redacted pieces :=
  ⟨(logged_eq separated).trans (logged_eq othersSeparated).symm, logged_eq separated⟩

end Passwords

def swordfish : Passwords := ⟨"swordfish".toList, "hunter2".toList, by simp, by simp⟩

/-- A new password that begins with the current one. -/
def hunter : Passwords := ⟨"hunter".toList, "hunter2".toList, by simp, by simp⟩

def loginError : List Piece := [.literal "new=".toList, .new, .literal " now=".toList, .current]

/-- Both passwords are the same. -/
def tuna : Passwords := ⟨"tuna".toList, "tuna".toList, by simp, by simp⟩

theorem logged_swordfish_tuna :
    swordfish.Separated loginError ∧ tuna.Separated loginError ∧
      swordfish.logged loginError = tuna.logged loginError := by
  have separated : swordfish.Separated loginError := by decide
  have tunaSeparated : tuna.Separated loginError := by decide
  exact ⟨separated, tunaSeparated, (Passwords.logged_eq_logged separated tunaSeparated).1⟩

/-- The end of the new password is logged. -/
theorem logged_hunter :
    hunter.Absent loginError ∧ swordfish.Absent loginError ∧
      hunter.logged loginError = "new=REDACTED2 now=REDACTED".toList ∧
      hunter.logged loginError ≠ swordfish.logged loginError := by
  decide

end CredentialRotation
