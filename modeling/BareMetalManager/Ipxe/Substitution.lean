import BareMetalManager.Ipxe.Identity

/-!
# Rendering as a simultaneous substitution

The template is cut once into its placeholders and the characters between them. The simultaneous
substitution fills the placeholders of each name with its values in their order. The renderer
searches the text that it has already written into, so it does the same only if no value together
with the text around it can be read as a placeholder.
-/

namespace Ipxe

open Function Collections Replace List Primitives Checked

/-! ## The cells of a template -/

/-- A character of the template, a placeholder of the template, or a value that has been
filled in. -/
inductive Cell where
  | char (single : Char)
  | hole (name : String)
  | value (text : List Char)
  deriving DecidableEq

def Cell.text : Cell → List Char
  | char single => [single]
  | hole name => placeholder name
  | value text => text

def fillFirst (name : String) (value : List Char) : List Cell → List Cell
  | [] => []
  | cell :: cells =>
    if cell = .hole name then .value value :: cells
    else cell :: fillFirst name value cells

abbrev BraceFree (name : String) : Prop := '{' ∉ name.toList ∧ '}' ∉ name.toList

/-- The names of the holes have no braces, the values have no opening brace, and no two characters
that follow each other once holes and values are taken out are both opening braces. The flag says
whether the last character was one. -/
def Apart (opened : Bool) : List Cell → Prop
  | [] => True
  | .char single :: cells => ¬ (opened = true ∧ single = '{') ∧ Apart (single == '{') cells
  | .hole name :: cells => BraceFree name ∧ Apart opened cells
  | .value text :: cells => '{' ∉ text ∧ Apart opened cells

instance decidableApart (opened : Bool) : (cells : List Cell) → Decidable (Apart opened cells)
  | [] => .isTrue trivial
  | .char single :: cells =>
    have := decidableApart (single == '{') cells
    inferInstanceAs (Decidable (¬ (opened = true ∧ single = '{') ∧ Apart (single == '{') cells))
  | .hole name :: cells =>
    have := decidableApart opened cells
    inferInstanceAs (Decidable (BraceFree name ∧ Apart opened cells))
  | .value text :: cells =>
    have := decidableApart opened cells
    inferInstanceAs (Decidable ('{' ∉ text ∧ Apart opened cells))

section Cells

variable {name : String} {value : List Char} {cell : Cell} {cells : List Cell} {opened : Bool}

theorem Apart.tail (apart : Apart opened (cell :: cells)) : ∃ opened, Apart opened cells := by
  cases cell with
  | char | hole | value => exact ⟨_, apart.2⟩

theorem Apart.fillFirst (absent : '{' ∉ value) (apart : Apart opened cells) :
    Apart opened (fillFirst name value cells) := by
  induction cells generalizing opened with
  | nil => exact apart
  | cons cell cells ih =>
    rw [Ipxe.fillFirst]
    split
    next isHole =>
      subst isHole
      exact ⟨absent, apart.2⟩
    next =>
      cases cell with
      | char | hole | value => exact ⟨apart.1, ih apart.2⟩

end Cells

/-! ## The order of the names does not matter -/

variable (values : String → List String)

variable {entries : List (String × List String)}

variable {values : BTreeMap String (List String)}

end Ipxe
