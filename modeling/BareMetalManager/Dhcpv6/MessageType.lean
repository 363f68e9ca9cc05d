import BareMetalManager.Dhcpv6.Budget

/-!
# The message type of a packet

The ingress metrics classify a packet without decoding it: a scan over a bounded number of
the options of a relay envelope looks for the relay message. On a packet that the decoder
accepts, the scan and the decoder see the same client message.

A message type is its octet.
-/

namespace Dhcpv6

open Bytes List Traced

variable {ε ο μ : Type}

/-- The loop of `relay_message_type`, with the number of rounds that it has left. -/
def relayMessageTypeWithin : (rounds : Nat) → Bytes → Option UInt8
  | 0, _ => none
  | rounds + 1, options =>
    match options with
    | first :: second :: third :: fourth :: _ => do
      -- at most `4 + 65535`, which does not overflow
      let encodedLength := 4 + u16FromBe third fourth
      let payload ← (options.slice 4 encodedLength).toOption
      if u16FromBe first second = relayMsg then payload.head?
      else
        let rest ← options.getFrom encodedLength
        relayMessageTypeWithin rounds rest
    | _ => none

def relayMessageType (packet : Bytes) : Option UInt8 := do
  let options ← packet.getFrom 34
  relayMessageTypeWithin maxClientOptions options

def requestMessageType (packet : Bytes) : UInt8 :=
  let outerType := packet.headD 0
  if outerType ≠ relayForward then outerType else (relayMessageType packet).getD outerType

variable {packet : Bytes} {options : List RawOption}

/-- With a round for each of the options, the scan ends at the first relay message. -/
theorem relayMessageTypeWithin_eq {rounds : Nat} {bytes : Bytes}
    (parsed : (parseRawOptions bytes : Outcome ε _) = .ok options)
    (enough : options.length ≤ rounds) :
    relayMessageTypeWithin rounds bytes =
      (options.find? fun option => option.code = relayMsg).bind (·.data.head?) := by
  induction rounds generalizing bytes options with
  | zero =>
    cases List.length_eq_zero_iff.mp (Nat.le_zero.mp enough)
    rfl
  | succ rounds ih =>
    match bytes with
    | [] =>
      rw [parseRawOptions] at parsed
      cases parsed
      rfl
    | [_] | [_, _] | [_, _, _] =>
      rw [parseRawOptions] at parsed
      cases parsed
    | first :: second :: third :: fourth :: rest =>
      rw [parseRawOptions_cons] at parsed
      obtain ⟨inside, parsed⟩ := Checked.error_ite_eq_ok.mp parsed
      obtain ⟨others, othersEq, ⟨⟩⟩ := Checked.bind_eq_ok.mp parsed
      have long : 4 + u16FromBe third fourth ≤
          (first :: second :: third :: fourth :: rest).length := by
        simp only [length_cons]
        omega
      rw [relayMessageTypeWithin, slice_eq_ok (Nat.le_add_right 4 _) long, getFrom, if_pos long]
      simp only [Except.toOption, add_comm 4, take_succ_cons, drop_succ_cons, drop_zero]
      by_cases isRelay : u16FromBe first second = relayMsg
      · simp [isRelay]
      · simpa [isRelay] using ih othersEq (by simpa using enough)

theorem find?_of_uniqueRawOption {code : Nat} {data : Bytes}
    (unique : (uniqueRawOption options code : Outcome ε _) = .ok (some data)) :
    ∃ option, (options.find? fun option => option.code = code) = some option ∧
      option.data = data := by
  unfold uniqueRawOption at unique
  split at unique <;> cases unique
  next only single =>
    rw [← Option.map_eq_some_iff, ← head?_filter, ← head?_map, single]
    rfl

/-- `dhcproto` takes the type of a message from its first octet, and inserting an option keeps
it. -/
structure Dhcproto.TakesType (dhcproto : Dhcproto ε ο μ) (messageType : μ → UInt8) : Prop where
  first : ∀ input message, dhcproto.decodeMessage input = .ok message →
    input.head? = some (messageType message)
  insert : ∀ message data,
    messageType (dhcproto.insertVendorOpts message data) = messageType message

theorem head?_of_sanitizedPacket {sanitized : Bytes} (header : 4 ≤ packet.length)
    (done : (sanitizedPacket packet options : Outcome ε _) = .ok sanitized) :
    sanitized.head? = packet.head? := by
  unfold sanitizedPacket at done
  split at done
  next =>
    rw [slice_eq_ok (Nat.zero_le 4) header] at done
    cases done
    cases packet with
    | nil => cases header
    | cons => rfl
  next =>
    cases done
    rfl

/-- A decoder that reads nothing but the first octet. -/
def firstOctet : Dhcproto Unit Unit UInt8 where
  decodeOption _ := .error ()
  encodeOption _ := .error ()
  decodeMessage
    | messageType :: _ => .ok messageType
    | [] => .error ()
  insertVendorOpts message _ := message

variable {dhcproto : Dhcproto ε ο μ} {messageType : μ → UInt8}
  (takesType : dhcproto.TakesType messageType)
include takesType

theorem head?_of_decodeClientMessage {message : μ}
    (decoded : (decodeClientMessage dhcproto packet).result = .ok message) :
    packet.head? = some (messageType message) := by
  rw [decodeClientMessage] at decoded
  split at decoded
  next => cases decoded
  next area areaEq =>
    obtain ⟨options, -, decoded⟩ := bind_result_eq_ok.mp decoded
    obtain ⟨_, -, decoded⟩ := bind_result_eq_ok.mp decoded
    obtain ⟨input, sanitized, decoded⟩ := bind_result_eq_ok.mp decoded
    split at decoded
    next => cases decoded
    next plain plainEq =>
      cases decoded
      rw [← head?_of_sanitizedPacket (getFrom_eq_some.mp areaEq).1 sanitized,
        takesType.first input plain plainEq]
      refine congrArg some (.symm ?_)
      refine foldlRecOn _ _ (motive := fun message => messageType message = messageType plain)
        rfl ?_
      exact fun message same option _ => (takesType.insert message option.data).trans same

/-- For every packet that the decoder accepts, with at most as many options around a relayed
message as the scan has rounds, the metrics see the type of the client message. -/
theorem requestMessageType_of_decode {decoded : DecodedPacket μ}
    (accepted : (decode dhcproto packet).result = .ok decoded)
    (few : packet.head? = some relayForward → ∀ options,
      (parseRawOptions (packet.drop 34) : Outcome ε _) = .ok options →
        options.length ≤ maxClientOptions) :
    requestMessageType packet = messageType decoded.message := by
  rw [decode] at accepted
  split at accepted
  next => cases accepted
  next outerType outerEq =>
    have outer : packet.headD 0 = outerType := by rw [headD_eq_head?_getD, outerEq]; rfl
    rw [requestMessageType, outer]
    split at accepted
    next isRelay =>
      obtain ⟨-, long, options, relayMessage, parsed, unique, decodedEq⟩ := relayAccepted accepted
      obtain ⟨option, found, rfl⟩ := find?_of_uniqueRawOption unique
      have scanned : relayMessageType packet = some (messageType decoded.message) := by
        rw [relayMessageType, getFrom, if_pos long]
        refine (relayMessageTypeWithin_eq parsed (few (isRelay ▸ outerEq) options parsed)).trans ?_
        rw [found]
        exact head?_of_decodeClientMessage takesType decodedEq
      rw [if_neg (not_not.mpr isRelay), scanned]
      rfl
    next notRelay =>
      split at accepted
      next => cases accepted
      next =>
        obtain ⟨message, messageEq, accepted⟩ := bind_result_eq_ok.mp accepted
        cases accepted
        rw [if_pos notRelay]
        exact Option.some.inj (outerEq.symm.trans
          (head?_of_decodeClientMessage takesType messageEq))

/-- A solicitation with a vendor-specific option, in an envelope with the identifier of an
interface in front of it. -/
def relayedSolicit : Bytes :=
  12 :: replicate 33 0 ++
    [0, 18, 0, 1, 7, 0, 9, 0, 12, 1, 0, 0, 0, 0, 17, 0, 4, 0, 0, 0, 9]

omit takesType in
theorem requestMessageType_relayedSolicit :
    (decode firstOctet relayedSolicit).result =
        .ok ⟨1, some ⟨0, replicate 16 0, replicate 16 0, some [7], none, none⟩⟩ ∧
      requestMessageType relayedSolicit = 1 := by
  have takesType : firstOctet.TakesType id := by
    refine ⟨fun input message decoded => ?_, fun _ _ => rfl⟩
    cases input <;> cases decoded
    rfl
  have noOptions : (parseRawOptions [] : Outcome Unit _) = .ok [] := by
    rw [parseRawOptions]
    rfl
  have accepted : (decode firstOctet relayedSolicit).result =
      .ok ⟨1, some ⟨0, replicate 16 0, replicate 16 0, some [7], none, none⟩⟩ := by
    simp [decode, decodeRelayForward, decodeClientMessage, getFrom, index, slice,
      relayedSolicit, relayForward, relayMsg, parseRawOptions_cons, u16FromBe, noOptions,
      uniqueRawOption, validateClientOptions, validateClientOptionBudget,
      validateClientOptionSemantics, sanitizedPacket, firstOctet]
    rfl
  refine ⟨accepted, requestMessageType_of_decode takesType accepted fun _ options parsed => ?_⟩
  simp [relayedSolicit, parseRawOptions_cons, u16FromBe, noOptions] at parsed
  cases parsed
  decide

end Dhcpv6
