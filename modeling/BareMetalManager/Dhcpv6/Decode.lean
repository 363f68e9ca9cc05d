import BareMetalManager.Lib.Text
import BareMetalManager.Lib.Traced

/-!
# Decoding DHCPv6 packets

The decoder of `crates/dhcpv6/src/lib.rs`. A packet is a client message, or a relay envelope
around one. Client options are first framed and bounded, and only then given to the crate
`dhcproto`, whose decoders are arbitrary functions here; a computation records the inputs on which
it has called them. The vendor-private codes of vendor-specific suboptions are not option codes.
-/

namespace Dhcpv6

open Bytes List

/-! ## Option codes -/

/-- `OptionCode::IANA`. -/
def iaNa : Nat := 3

/-- `OptionCode::IATA`. -/
def iaTa : Nat := 4

/-- `OptionCode::IAAddr`. -/
def iaAddr : Nat := 5

/-- `OptionCode::RelayMsg`. -/
def relayMsg : Nat := 9

/-- `OptionCode::VendorOpts`. -/
def vendorOpts : Nat := 17

/-- `OptionCode::InterfaceId`. -/
def interfaceId : Nat := 18

/-- `OptionCode::IAPD`. -/
def iaPd : Nat := 25

/-- `OptionCode::IAPrefix`. -/
def iaPrefix : Nat := 26

/-- `OptionCode::RemoteId`. -/
def remoteId : Nat := 37

/-- `OptionCode::ClientLinklayerAddr`. -/
def clientLinklayerAddr : Nat := 79

def relayForward : UInt8 := 12

def relayReply : UInt8 := 13

def maxClientOptionNestingDepth : Nat := 8

def maxClientOptions : Nat := 256

/-! ## Results -/

inductive Malformation where
  /-- "empty packet" -/
  | emptyPacket
  /-- "truncated client header" -/
  | truncatedClientHeader
  /-- "truncated relay header" -/
  | truncatedRelayHeader
  /-- "invalid relay link-address" -/
  | invalidRelayLinkAddress
  /-- "invalid relay peer-address" -/
  | invalidRelayPeerAddress
  /-- "truncated option header" -/
  | truncatedOptionHeader
  /-- "truncated option payload" -/
  | truncatedOptionPayload
  /-- "client option nesting limit exceeded" -/
  | nestingLimitExceeded
  /-- "client option count limit exceeded" -/
  | countLimitExceeded
  /-- "vendor-specific option in nested client option" -/
  | nestedVendorOption
  /-- "invalid vendor-specific option" -/
  | invalidVendorOption
  /-- "invalid client option length" -/
  | invalidClientOptionLength
  /-- "unencodable client option" -/
  | unencodableClientOption
  /-- "partially decoded client option" -/
  | partiallyDecodedClientOption
  /-- "relay-message option in client message" -/
  | relayMessageInClientMessage
  /-- "invalid client option" -/
  | invalidClientOption
  /-- "duplicate relay option" -/
  | duplicateRelayOption
  deriving DecidableEq

inductive DecodeError (ε : Type) where
  | malformedPacket (reason : Malformation)
  | clientMessageDecode (source : ε)
  | missingRelayMessage
  | nestedRelay
  | relayHopCountExceeded (hopCount : UInt8)
  | unexpectedRelayReply
  deriving DecidableEq

structure RelayEnvelope where
  hopCount : UInt8
  linkAddress : Bytes
  peerAddress : Bytes
  interfaceId : Option Bytes
  remoteId : Option Bytes
  clientLinkLayer : Option Bytes
  deriving DecidableEq

structure DecodedPacket (μ : Type) where
  message : μ
  relay : Option RelayEnvelope

structure RawOption where
  code : Nat
  data : Bytes
  encoded : Bytes
  deriving DecidableEq

/-- The crate `dhcproto`: its decoders of one option and of a message, with the bytes that
the option decoder leaves, the encoder of an option, and the insertion of an opaque
vendor option. -/
structure Dhcproto (ε ο μ : Type) where
  decodeOption : Bytes → Except ε (ο × Bytes)
  encodeOption : ο → Except ε Bytes
  decodeMessage : Bytes → Except ε μ
  insertVendorOpts : μ → Bytes → μ

/-- A call of a decoder of `dhcproto`. -/
inductive Call where
  | decodeOption (input : Bytes)
  | decodeMessage (input : Bytes)
  deriving DecidableEq

abbrev Outcome (ε α : Type) := Except (Failure (DecodeError ε)) α

variable {ε ο μ : Type}

def malformed {α : Type} (reason : Malformation) : Outcome ε α :=
  .error (.error (.malformedPacket reason))

/-! ## Framing -/

/-- Parse a sequence of options without interpreting their payloads. -/
def parseRawOptions (bytes : Bytes) : Outcome ε (List RawOption) :=
  if bytes.isEmpty then .ok []
  else if short : bytes.length < 4 then malformed .truncatedOptionHeader
  else do
    let code := u16FromBe (← (bytes.index 0).orPanic) (← (bytes.index 1).orPanic)
    let length := u16FromBe (← (bytes.index 2).orPanic) (← (bytes.index 3).orPanic)
    if bytes.length - 4 < length then malformed .truncatedOptionPayload
    else
      let encoded ← (bytes.slice 0 (4 + length)).orPanic
      let data ← (encoded.slice 4 encoded.length).orPanic
      let options ← parseRawOptions (bytes.drop (4 + length))
      return ⟨code, data, encoded⟩ :: options
termination_by bytes.length
decreasing_by
  rw [length_drop]
  omega

/-- A header and at least as many bytes as it announces are one option. No access is out
of bounds. -/
theorem parseRawOptions_cons (first second third fourth : UInt8) (rest : Bytes) :
    (parseRawOptions (first :: second :: third :: fourth :: rest) : Outcome ε _) =
      if rest.length < u16FromBe third fourth then malformed .truncatedOptionPayload
      else do
        let options ← parseRawOptions (rest.drop (u16FromBe third fourth))
        return ⟨u16FromBe first second, rest.take (u16FromBe third fourth),
          first :: second :: third :: fourth :: rest.take (u16FromBe third fourth)⟩ ::
            options := by
  rw [parseRawOptions, if_neg (by simp), dif_neg (by simp)]
  simp only [index, getElem?_cons_zero, getElem?_cons_succ, Checked.orPanic_ok,
    bind, Except.bind, length_cons]
  split
  next short => rw [if_pos (by omega)]
  next enough =>
    rw [if_neg (by omega), slice_eq_ok (Nat.zero_le _) (by simp only [length_cons]; omega)]
    simp only [Checked.orPanic_ok]
    rw [slice_eq_ok (by simp) le_rfl]
    simp only [Checked.orPanic_ok, add_comm 4, drop_zero, take_succ_cons,
      take_length, drop_succ_cons]

/-- An option as it is written: its code and the length of its payload in network order,
and the payload. -/
def frame (code : Nat) (data : Bytes) : Bytes := u16ToBe code ++ u16ToBe data.length ++ data

structure RawOption.Framed (option : RawOption) : Prop where
  encoded : option.encoded = frame option.code option.data
  fits : option.data.length < 2 ^ 16

theorem parseRawOptions_cases (bytes : Bytes) :
    (∃ reason, (parseRawOptions bytes : Outcome ε _) = malformed reason) ∨
      ∃ options, (parseRawOptions bytes : Outcome ε _) = .ok options ∧
        (∀ option ∈ options, option.Framed) ∧ options.flatMap (·.encoded) = bytes := by
  induction lengthEq : bytes.length using Nat.strong_induction_on generalizing bytes with
  | _ length ih =>
    match bytes with
    | [] => exact .inr ⟨[], by rw [parseRawOptions]; rfl, by simp, rfl⟩
    | [_] | [_, _] | [_, _, _] =>
      exact .inl ⟨.truncatedOptionHeader, by rw [parseRawOptions]; rfl⟩
    | first :: second :: third :: fourth :: rest =>
      rw [parseRawOptions_cons]
      split
      next => exact .inl ⟨_, rfl⟩
      next enough =>
        have shorter : (rest.drop (u16FromBe third fourth)).length < length := by
          rw [← lengthEq, length_drop]
          simp only [length_cons]
          omega
        rcases ih _ shorter (rest.drop (u16FromBe third fourth)) rfl with
          ⟨reason, failed⟩ | ⟨options, parsed, framed, flattened⟩
        · rw [failed]
          exact .inl ⟨reason, rfl⟩
        · rw [parsed]
          have taken : (rest.take (u16FromBe third fourth)).length =
              u16FromBe third fourth := length_take_of_le (by omega)
          refine .inr ⟨_, rfl, ?_, ?_⟩
          · refine forall_mem_cons.mpr ⟨⟨?_, ?_⟩, framed⟩
            · simp only [frame, taken, u16ToBe_u16FromBe]
              rfl
            · simp only [taken]
              exact u16FromBe_lt third fourth
          · simp [flattened]

variable {bytes : Bytes} {options : List RawOption}

/-- Parsed options are framed as their headers say, and together they are the bytes. -/
theorem parseRawOptions_spec (parsed : (parseRawOptions bytes : Outcome ε _) = .ok options) :
    (∀ option ∈ options, option.Framed) ∧ options.flatMap (·.encoded) = bytes := by
  rcases parseRawOptions_cases (ε := ε) bytes with ⟨reason, failed⟩ | ⟨others, same, fact⟩
  · rw [failed] at parsed
    cases parsed
  · rw [same] at parsed
    cases parsed
    exact fact

theorem frame_length (code : Nat) (data : Bytes) : (frame code data).length = 4 + data.length := by
  simp [frame, u16ToBe]
  omega

/-- Where the nested options of a container option start in its payload. -/
def nestedOffset (code : Nat) : Option Nat :=
  if code = iaNa ∨ code = iaPd then some 12
  else if code = iaTa then some 4
  else if code = iaAddr then some 24
  else if code = iaPrefix then some 25
  else none

def nestedOptionPayload (option : RawOption) : Outcome ε (Option Bytes) :=
  match nestedOffset option.code with
  | some offset =>
    match option.data.getFrom offset with
    | some nested => .ok (some nested)
    | none => malformed .invalidClientOption
  | none =>
    if option.code = relayMsg then malformed .relayMessageInClientMessage else .ok none

/-! ## The budget pass -/

def countSuboptions : List RawOption → (optionCount : Nat) → Outcome ε Nat
  | [], optionCount => .ok optionCount
  | _ :: rest, optionCount =>
    if optionCount + 1 > maxClientOptions then malformed .countLimitExceeded
    else countSuboptions rest (optionCount + 1)

/-- Bound the depth and the size of an option tree. The result is the new count. -/
def validateClientOptionBudget (options : List RawOption) (depth optionCount : Nat) :
    Outcome ε Nat :=
  -- the source tests the depth once for the list; it is the same for every option
  if depth > maxClientOptionNestingDepth then malformed .nestingLimitExceeded
  else
    match options with
    | [] => .ok optionCount
    | option :: rest =>
      if optionCount + 1 > maxClientOptions then malformed .countLimitExceeded
      else if option.code = vendorOpts then
        if depth ≠ 0 then malformed .nestedVendorOption
        else
          match option.data.getFrom 4 with
          | none => malformed .invalidVendorOption
          | some vendorPayload => do
              let suboptions ← parseRawOptions vendorPayload
              let counted ← countSuboptions suboptions (optionCount + 1)
              validateClientOptionBudget rest depth counted
      else do
        match ← nestedOptionPayload option with
        | none => validateClientOptionBudget rest depth (optionCount + 1)
        | some nested =>
          let nestedOptions ← parseRawOptions nested
          if nestedOptions.isEmpty then
            validateClientOptionBudget rest depth (optionCount + 1)
          else
            let counted ←
              validateClientOptionBudget nestedOptions (depth + 1) (optionCount + 1)
            validateClientOptionBudget rest depth counted
termination_by (maxClientOptionNestingDepth + 1 - depth, options.length)
decreasing_by
  · exact .right _ (by simp)
  · exact .right _ (by simp)
  · exact .right _ (by simp)
  · exact .left _ _ (by omega)
  · exact .right _ (by simp)

/-! ## The semantic pass -/

/-- The number of bytes of a list of options, headers included. -/
def totalLength (options : List RawOption) : Nat :=
  (options.map fun option => 4 + option.data.length).sum

theorem totalLength_of_parseRawOptions
    (parsed : (parseRawOptions bytes : Outcome ε _) = .ok options) :
    totalLength options = bytes.length := by
  obtain ⟨framed, rfl⟩ := parseRawOptions_spec parsed
  rw [totalLength, length_flatMap]
  congr 1
  refine map_congr_left ?_
  intro option mem
  rw [(framed option mem).encoded, frame_length]

variable {option : RawOption}

theorem length_of_nestedOptionPayload {nested : Bytes}
    (payload : (nestedOptionPayload option : Outcome ε _) = .ok (some nested)) :
    nested.length ≤ option.data.length := by
  unfold nestedOptionPayload at payload
  split at payload
  next offset _ =>
    split at payload
    next area areaEq =>
      cases payload
      rw [← (getFrom_eq_some.mp areaEq).2, length_drop]
      exact Nat.sub_le _ _
    next => cases payload
  next =>
    split at payload
    next => cases payload
    next => cases payload

/-- Decode one option in isolation: the decoder has to consume it, and the encoder has to
give back as many bytes. -/
def validateIsolatedOption (dhcproto : Dhcproto ε ο μ) (option : RawOption) :
    Traced (Failure (DecodeError ε)) Call Unit := do
  .call (.decodeOption option.encoded)
  match dhcproto.decodeOption option.encoded with
  | .error source => .fail (.error (.clientMessageDecode source))
  | .ok (decoded, remaining) =>
    if remaining ≠ [] then .ofExcept (malformed .invalidClientOptionLength)
    else
      match dhcproto.encodeOption decoded with
      | .error _ => .ofExcept (malformed .unencodableClientOption)
      | .ok encoded =>
        if encoded.length ≠ option.encoded.length then
          .ofExcept (malformed .partiallyDecodedClientOption)
        else pure ()

/-- Validate every option of a tree in isolation, nested options first. -/
def validateClientOptionSemantics (dhcproto : Dhcproto ε ο μ) (options : List RawOption) :
    Traced (Failure (DecodeError ε)) Call Unit :=
  match options with
  | [] => pure ()
  | option :: rest =>
    if option.code = vendorOpts then validateClientOptionSemantics dhcproto rest
    else do
      (match _ : (nestedOptionPayload option : Outcome ε _) with
        | .error failure => .fail failure
        | .ok none => pure ()
        | .ok (some nested) =>
          match _ : (parseRawOptions nested : Outcome ε _) with
          | .error failure => .fail failure
          | .ok nestedOptions => validateClientOptionSemantics dhcproto nestedOptions)
      validateIsolatedOption dhcproto option
      validateClientOptionSemantics dhcproto rest
termination_by totalLength options
decreasing_by
  · simp only [totalLength, map_cons, sum_cons]
    omega
  · have := totalLength_of_parseRawOptions ‹_›
    have := length_of_nestedOptionPayload ‹_›
    simp only [totalLength, map_cons, sum_cons] at *
    omega
  · simp only [totalLength, map_cons, sum_cons]
    omega

variable (dhcproto : Dhcproto ε ο μ)

theorem validateClientOptionSemantics_cons {rest : List RawOption}
    (notVendor : option.code ≠ vendorOpts) :
    validateClientOptionSemantics dhcproto (option :: rest) = (do
      (match (nestedOptionPayload option : Outcome ε _) with
        | .error failure => .fail failure
        | .ok none => pure ()
        | .ok (some nested) =>
          match (parseRawOptions nested : Outcome ε _) with
          | .error failure => .fail failure
          | .ok nestedOptions => validateClientOptionSemantics dhcproto nestedOptions)
      validateIsolatedOption dhcproto option
      validateClientOptionSemantics dhcproto rest) := by
  rw [validateClientOptionSemantics, if_neg notVendor]
  congr 1
  split
  next failure payload => rw [payload]
  next payload => rw [payload]
  next nested payload =>
    rw [payload]
    split
    next failure parsed => simp only [parsed]
    next nestedOptions parsed => simp only [parsed]

/-! ## Packets -/

/-- Bound the option tree first, and only then call the decoder anywhere in it. -/
def validateClientOptions (options : List RawOption) :
    Traced (Failure (DecodeError ε)) Call Unit := do
  let _ ← .ofExcept (validateClientOptionBudget options 0 0)
  validateClientOptionSemantics dhcproto options

def sanitizedPacket (packet : Bytes) (options : List RawOption) : Outcome ε Bytes :=
  if options.any fun option => option.code = vendorOpts then do
    let header ← (packet.slice 0 4).orPanic
    return header ++ (options.filter fun option => option.code ≠ vendorOpts).flatMap (·.encoded)
  else .ok packet

variable (packet : Bytes)

/-- Decode a client message. Its vendor-specific options are taken out and put back as
opaque options. -/
def decodeClientMessage : Traced (Failure (DecodeError ε)) Call μ :=
  match packet.getFrom 4 with
  | none => .ofExcept (malformed .truncatedClientHeader)
  | some area => do
      let options ← .ofExcept (parseRawOptions area)
      validateClientOptions dhcproto options
      let decodePacket ← .ofExcept (sanitizedPacket packet options)
      .call (.decodeMessage decodePacket)
      match dhcproto.decodeMessage decodePacket with
      | .error source => .fail (.error (.clientMessageDecode source))
      | .ok message =>
        return (options.filter fun option => option.code = vendorOpts).foldl
          (fun message option => dhcproto.insertVendorOpts message option.data) message

def uniqueRawOption (options : List RawOption) (code : Nat) : Outcome ε (Option Bytes) :=
  match (options.filter fun option => option.code = code).map (·.data) with
  | [] => .ok none
  | [data] => .ok (some data)
  | _ :: _ :: _ => malformed .duplicateRelayOption

def decodeRelayForward : Traced (Failure (DecodeError ε)) Call (DecodedPacket μ) :=
  if packet.length < 34 then .ofExcept (malformed .truncatedRelayHeader)
  else do
    let hopCount ← .ofExcept (packet.index 1).orPanic
    if hopCount ≠ 0 then .fail (.error (.relayHopCountExceeded hopCount))
    else
      let linkAddress ← .ofExcept (packet.slice 2 18).orPanic
      if linkAddress.length ≠ 16 then .ofExcept (malformed .invalidRelayLinkAddress)
      else
        let peerAddress ← .ofExcept (packet.slice 18 34).orPanic
        if peerAddress.length ≠ 16 then .ofExcept (malformed .invalidRelayPeerAddress)
        else
          let area ← .ofExcept (packet.slice 34 packet.length).orPanic
          let options ← .ofExcept (parseRawOptions area)
          match ← .ofExcept (uniqueRawOption options relayMsg) with
          | none => .fail (.error .missingRelayMessage)
          | some relayMessage =>
            if relayMessage.head? = some relayForward ∨
                relayMessage.head? = some relayReply then
              .fail (.error .nestedRelay)
            else
              let message ← decodeClientMessage dhcproto relayMessage
              let interfaceId ← .ofExcept (uniqueRawOption options interfaceId)
              let remoteId ← .ofExcept (uniqueRawOption options remoteId)
              let clientLinkLayer ← .ofExcept (uniqueRawOption options clientLinklayerAddr)
              return ⟨message, some ⟨hopCount, linkAddress, peerAddress, interfaceId,
                remoteId, clientLinkLayer⟩⟩

def decode : Traced (Failure (DecodeError ε)) Call (DecodedPacket μ) :=
  match packet.head? with
  | none => .ofExcept (malformed .emptyPacket)
  | some messageType =>
    if messageType = relayForward then decodeRelayForward dhcproto packet
    else if messageType = relayReply then .fail (.error .unexpectedRelayReply)
    else do
      let message ← decodeClientMessage dhcproto packet
      return ⟨message, none⟩

end Dhcpv6
