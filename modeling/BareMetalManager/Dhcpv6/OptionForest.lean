import BareMetalManager.Dhcpv6.Decode

/-!
# Option trees

The options of a client message as a forest: an option, its nested options or vendor
suboptions, and the options after it. A forest describes a list of parsed options when
the payloads of all containers are parsed as well.
-/

namespace Dhcpv6

open Bytes List

/-- A sequence of options with everything that is nested in them. -/
inductive OptionForest where
  | nil
  | leaf (code : Nat) (data : Bytes) (rest : OptionForest)
  | container (code : Nat) (fields : Bytes) (nested rest : OptionForest)
  | vendor (enterprise : Bytes) (suboptions : List (Nat × Bytes)) (rest : OptionForest)
  deriving DecidableEq

open OptionForest

namespace OptionForest

/-- The suboptions of a vendor-specific option as they are written. -/
def encodeSuboptions (suboptions : List (Nat × Bytes)) : Bytes :=
  suboptions.flatMap fun suboption => frame suboption.1 suboption.2

/-- The forest as it is written, with the lengths that the payloads have. -/
def encode : OptionForest → Bytes
  | nil => []
  | leaf code data rest => frame code data ++ rest.encode
  | container code fields nested rest => frame code (fields ++ nested.encode) ++ rest.encode
  | vendor enterprise suboptions rest =>
    frame vendorOpts (enterprise ++ encodeSuboptions suboptions) ++ rest.encode

/-- The number of options, at every depth and with the vendor suboptions. -/
def optionCount : OptionForest → Nat
  | nil => 0
  | leaf _ _ rest => 1 + rest.optionCount
  | container _ _ nested rest => 1 + nested.optionCount + rest.optionCount
  | vendor _ suboptions rest => 1 + suboptions.length + rest.optionCount

def nestingDepth : OptionForest → Nat
  | nil => 0
  | leaf _ _ rest => rest.nestingDepth
  | container _ _ nil rest => rest.nestingDepth
  | container _ _ nested rest => max (nested.nestingDepth + 1) rest.nestingDepth
  | vendor _ suboptions rest => max (min suboptions.length 1) rest.nestingDepth

theorem nestingDepth_container_le (code : Nat) (fields : Bytes) (nested rest : OptionForest) :
    (container code fields nested rest).nestingDepth ≤
      max (nested.nestingDepth + 1) rest.nestingDepth := by
  cases nested with
  | nil => exact Nat.le_max_right _ _
  | leaf | container | vendor => exact le_rfl

def codes : OptionForest → List Nat
  | nil => []
  | leaf code _ rest => code :: rest.codes
  | container code _ nested rest => code :: nested.codes ++ rest.codes
  | vendor _ _ rest => vendorOpts :: rest.codes

/-- The options at every depth as they are written, except vendor-specific ones. -/
def encodings : OptionForest → List Bytes
  | nil => []
  | leaf code data rest => frame code data :: rest.encodings
  | container code fields nested rest =>
    frame code (fields ++ nested.encode) :: nested.encodings ++ rest.encodings
  | vendor _ _ rest => rest.encodings

/-- The forest without its vendor-specific options on the first level. -/
def withoutVendor : OptionForest → OptionForest
  | nil => nil
  | leaf code data rest => leaf code data rest.withoutVendor
  | container code fields nested rest => container code fields nested rest.withoutVendor
  | vendor _ _ rest => rest.withoutVendor

/-- Every length fits into its length field, exactly the containers have nested options,
and exactly the vendor-specific options have suboptions. -/
def Framed : OptionForest → Prop
  | nil => True
  | leaf code data rest => nestedOffset code = none ∧ code ≠ vendorOpts ∧
      data.length < 2 ^ 16 ∧ rest.Framed
  | container code fields nested rest => nestedOffset code = some fields.length ∧
      (fields ++ nested.encode).length < 2 ^ 16 ∧ nested.Framed ∧ rest.Framed
  | vendor enterprise suboptions rest => enterprise.length = 4 ∧
      (enterprise ++ encodeSuboptions suboptions).length < 2 ^ 16 ∧
      (∀ suboption ∈ suboptions, suboption.2.length < 2 ^ 16) ∧ rest.Framed

structure WithinBudget (forest : OptionForest) : Prop where
  framed : forest.Framed
  optionCount : forest.optionCount ≤ maxClientOptions
  nestingDepth : forest.nestingDepth ≤ maxClientOptionNestingDepth
  noRelayMessage : relayMsg ∉ forest.codes

theorem withoutVendor_spec (forest : OptionForest) :
    (forest.Framed → forest.withoutVendor.Framed) ∧
      forest.withoutVendor.optionCount ≤ forest.optionCount ∧
      forest.withoutVendor.nestingDepth ≤ forest.nestingDepth ∧
      forest.withoutVendor.codes ⊆ forest.codes := by
  induction forest with
  | nil => exact ⟨id, le_rfl, le_rfl, .refl _⟩
  | leaf _ _ _ ih =>
    obtain ⟨framed, count, depth, codes⟩ := ih
    exact ⟨.imp_right (.imp_right (.imp_right framed)), Nat.add_le_add_left count _, depth,
      cons_subset_cons _ codes⟩
  | container _ _ nested _ _ ih =>
    obtain ⟨framed, count, depth, codes⟩ := ih
    refine ⟨.imp_right (.imp_right (.imp_right framed)), Nat.add_le_add_left count _, ?_,
      cons_subset_cons _ (append_subset.mpr ⟨subset_append_left _ _, ?_⟩)⟩
    · cases nested with
      | nil => exact depth
      | leaf | container | vendor => exact max_le_max le_rfl depth
    · exact List.Subset.trans codes (subset_append_right _ _)
  | vendor _ _ _ ih =>
    obtain ⟨framed, count, depth, codes⟩ := ih
    exact ⟨fun whole => framed whole.2.2.2, count.trans (Nat.le_add_left _ _),
      depth.trans (Nat.le_max_right _ _), subset_cons_of_subset _ codes⟩

theorem WithinBudget.withoutVendor {forest : OptionForest} (within : forest.WithinBudget) :
    forest.withoutVendor.WithinBudget := by
  obtain ⟨framed, count, depth, codes⟩ := withoutVendor_spec forest
  exact ⟨framed within.framed, count.trans within.optionCount, depth.trans within.nestingDepth,
    fun mem => within.noRelayMessage (codes mem)⟩

end OptionForest

variable {ε : Type}

/-- A list of options, with the payloads of its containers parsed, is a forest. -/
inductive Describes (ε : Type) : List RawOption → OptionForest → Prop where
  | nil : Describes ε [] .nil
  | leaf {option : RawOption} {rest : List RawOption} {after : OptionForest}
      (notContainer : nestedOffset option.code = none) (notVendor : option.code ≠ vendorOpts)
      (notRelay : option.code ≠ relayMsg) :
      Describes ε rest after → Describes ε (option :: rest) (.leaf option.code option.data after)
  | container {option : RawOption} {rest nestedOptions : List RawOption}
      {nested after : OptionForest} {offset : Nat}
      (isContainer : nestedOffset option.code = some offset)
      (long : offset ≤ option.data.length)
      (parsed : (parseRawOptions (option.data.drop offset) : Outcome ε _) = .ok nestedOptions) :
      Describes ε nestedOptions nested → Describes ε rest after →
        Describes ε (option :: rest)
          (.container option.code (option.data.take offset) nested after)
  | vendor {option : RawOption} {rest suboptions : List RawOption} {after : OptionForest}
      (isVendor : option.code = vendorOpts) (long : 4 ≤ option.data.length)
      (parsed : (parseRawOptions (option.data.drop 4) : Outcome ε _) = .ok suboptions) :
      Describes ε rest after → Describes ε (option :: rest)
        (.vendor (option.data.take 4) (suboptions.map fun suboption =>
          (suboption.code, suboption.data)) after)

namespace Describes

variable {options : List RawOption} {forest : OptionForest}

theorem encodeSuboptions_eq {suboptions : List RawOption}
    (framed : ∀ option ∈ suboptions, option.Framed) :
    encodeSuboptions (suboptions.map fun suboption =>
      (suboption.code, suboption.data)) = suboptions.flatMap (·.encoded) := by
  induction suboptions with
  | nil => rfl
  | cons suboption rest ih =>
    obtain ⟨head, tail⟩ := forall_mem_cons.mp framed
    rw [map_cons, flatMap_cons, ← ih tail, head.encoded]
    rfl

theorem ne_of_nestedOffset {code offset : Nat} (isContainer : nestedOffset code = some offset)
    (other : Nat) (isLeaf : nestedOffset other = none) : code ≠ other := by
  rintro rfl
  cases isLeaf.symm.trans isContainer

variable (describes : Describes ε options forest)
include describes

theorem encode_eq (framed : ∀ option ∈ options, option.Framed) :
    options.flatMap (·.encoded) = forest.encode := by
  induction describes with
  | nil => rfl
  | leaf _ _ _ _ ih =>
    obtain ⟨head, tail⟩ := forall_mem_cons.mp framed
    rw [flatMap_cons, head.encoded, ih tail, encode]
  | container _ _ parsed _ _ nestedIH ih =>
    obtain ⟨head, tail⟩ := forall_mem_cons.mp framed
    obtain ⟨nestedFramed, flattened⟩ := parseRawOptions_spec parsed
    rw [flatMap_cons, head.encoded, ih tail, encode,
      ← nestedIH nestedFramed, flattened, take_append_drop]
  | vendor isVendor _ parsed _ ih =>
    obtain ⟨head, tail⟩ := forall_mem_cons.mp framed
    obtain ⟨subFramed, flattened⟩ := parseRawOptions_spec parsed
    rw [flatMap_cons, head.encoded, ih tail, encode,
      encodeSuboptions_eq subFramed, flattened, take_append_drop, isVendor]

theorem encode_of_parsed {bytes : Bytes}
    (parsed : (parseRawOptions bytes : Outcome ε _) = .ok options) : forest.encode = bytes := by
  obtain ⟨framed, flattened⟩ := parseRawOptions_spec parsed
  rw [← describes.encode_eq framed, flattened]

theorem framed (framed : ∀ option ∈ options, option.Framed) : forest.Framed := by
  induction describes with
  | nil => trivial
  | leaf notContainer notVendor _ _ ih =>
    obtain ⟨head, tail⟩ := forall_mem_cons.mp framed
    exact ⟨notContainer, notVendor, head.fits, ih tail⟩
  | container isContainer long parsed nestedDescribes _ nestedIH ih =>
    obtain ⟨head, tail⟩ := forall_mem_cons.mp framed
    refine ⟨?_, ?_, nestedIH (parseRawOptions_spec parsed).1, ih tail⟩
    · rw [isContainer, length_take_of_le long]
    · rw [nestedDescribes.encode_of_parsed parsed, take_append_drop]
      exact head.fits
  | vendor isVendor long parsed _ ih =>
    obtain ⟨head, tail⟩ := forall_mem_cons.mp framed
    obtain ⟨subFramed, flattened⟩ := parseRawOptions_spec parsed
    refine ⟨length_take_of_le long, ?_, ?_, ih tail⟩
    · rw [encodeSuboptions_eq subFramed, flattened, take_append_drop]
      exact head.fits
    · refine forall_mem_map.mpr fun option optionIn => ?_
      exact (subFramed option optionIn).fits

theorem noRelayMessage : relayMsg ∉ forest.codes := by
  induction describes with
  | nil => simp [codes]
  | leaf _ _ notRelay _ ih => simp [codes, notRelay.symm, ih]
  | container isContainer _ _ _ _ nestedIH ih =>
    simp [codes, (ne_of_nestedOffset isContainer relayMsg rfl).symm, nestedIH, ih]
  | vendor _ _ _ _ ih =>
    simp [codes, ih]
    decide

/-- The options that are not vendor-specific are written as the forest without them. -/
theorem encode_withoutVendor (framed : ∀ option ∈ options, option.Framed) :
    (options.filter fun option => option.code ≠ vendorOpts).flatMap (·.encoded) =
      forest.withoutVendor.encode := by
  induction describes with
  | nil => rfl
  | @leaf option rest after _ notVendor _ _ ih =>
    obtain ⟨head, tail⟩ := forall_mem_cons.mp framed
    rw [filter_cons_of_pos (by simpa using notVendor), flatMap_cons, ih tail, head.encoded]
    rfl
  | @container option rest nestedOptions nested after offset isContainer _ parsed
      nestedDescribes _ _ ih =>
      obtain ⟨head, tail⟩ := forall_mem_cons.mp framed
      have notVendor := ne_of_nestedOffset isContainer vendorOpts rfl
      rw [filter_cons_of_pos (by simpa using notVendor), flatMap_cons, ih tail,
        head.encoded, withoutVendor, encode,
        nestedDescribes.encode_of_parsed parsed, take_append_drop]
  | vendor isVendor _ _ _ ih =>
    rw [filter_cons_of_neg (by simpa using isVendor), ih (forall_mem_cons.mp framed).2]
    rfl

end Describes

end Dhcpv6
