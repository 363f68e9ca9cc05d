import BareMetalManager.Dhcpv6.OptionForest

/-!
# The decoder is called within a budget

The budget pass accepts only options that form a bounded forest without relay messages,
and the decoders of `dhcproto` are called only after it: on options of that forest and
on the message that it belongs to.
-/

namespace Dhcpv6

open Bytes OptionForest List Traced

variable {ε ο μ : Type}

/-! ## The budget pass -/

/-- A check fails only because a packet is malformed. -/
def IsMalformed : Failure (DecodeError ε) → Prop
  | .error (.malformedPacket _) => True
  | _ => False

theorem parseRawOptions_ends (bytes : Bytes) :
    Checked.Ends IsMalformed (fun options => (parseRawOptions bytes : Outcome ε _) = .ok options)
      (parseRawOptions bytes : Outcome ε _) := by
  rcases parseRawOptions_cases (ε := ε) bytes with ⟨reason, failed⟩ | ⟨options, parsed, -⟩
  · rw [failed]
    trivial
  · rw [parsed]
    rfl

theorem countSuboptions_ends (suboptions : List RawOption) (optionCount : Nat) :
    Checked.Ends IsMalformed
      (fun counted => counted = optionCount + suboptions.length ∧
        (optionCount ≤ maxClientOptions → counted ≤ maxClientOptions))
      (countSuboptions suboptions optionCount : Outcome ε Nat) := by
  induction suboptions generalizing optionCount with
  | nil => exact ⟨rfl, id⟩
  | cons suboption rest ih =>
    rw [countSuboptions]
    split
    next => trivial
    next inside =>
      refine (ih (optionCount + 1)).imp ?_
      rintro counted ⟨rfl, bounded⟩
      refine ⟨?_, fun _ => bounded (by omega)⟩
      rw [length_cons]
      omega

/-- The payload of a container is nested, and of every other option it is not. -/
theorem nestedOptionPayload_ends (option : RawOption) :
    Checked.Ends IsMalformed
      (fun payload => match payload with
        | none => nestedOffset option.code = none ∧ option.code ≠ relayMsg
        | some nested => ∃ offset, nestedOffset option.code = some offset ∧
            offset ≤ option.data.length ∧ nested = option.data.drop offset)
      (nestedOptionPayload option : Outcome ε _) := by
  unfold nestedOptionPayload
  split
  next offset isContainer =>
    split
    next nested nestedEq =>
      obtain ⟨long, rfl⟩ := getFrom_eq_some.mp nestedEq
      exact ⟨offset, isContainer, long, rfl⟩
    next => trivial
  next notContainer =>
    split
    next => trivial
    next notRelay => exact ⟨notContainer, notRelay⟩

structure Budgeted (ε : Type) (options : List RawOption) (depth optionCount counted : Nat) :
    Prop where
  bounded : optionCount ≤ maxClientOptions → counted ≤ maxClientOptions
  describes : ∃ forest, Describes ε options forest ∧
    counted = optionCount + forest.optionCount ∧
    depth + forest.nestingDepth ≤ maxClientOptionNestingDepth

variable {option : RawOption}

/-- An option in front of a list, with the options inside it. -/
theorem Budgeted.cons {rest : List RawOption}
    {depth optionCount middle counted : Nat} {wrap : OptionForest → OptionForest}
    (after : Budgeted ε rest depth middle counted) (inside : middle ≤ maxClientOptions)
    (describes : ∀ {forest}, Describes ε rest forest → Describes ε (option :: rest) (wrap forest))
    (count : ∀ forest, middle + forest.optionCount = optionCount + (wrap forest).optionCount)
    (nesting : ∀ forest, depth + forest.nestingDepth ≤ maxClientOptionNestingDepth →
      depth + (wrap forest).nestingDepth ≤ maxClientOptionNestingDepth) :
    Budgeted ε (option :: rest) depth optionCount counted where
  bounded _ := after.bounded inside
  describes := by
    obtain ⟨forest, described, rfl, depthLe⟩ := after.describes
    exact ⟨wrap forest, describes described, count forest, nesting forest depthLe⟩

theorem validateClientOptionBudget_ends (options : List RawOption) (depth optionCount : Nat) :
    Checked.Ends IsMalformed (Budgeted ε options depth optionCount)
      (validateClientOptionBudget options depth optionCount : Outcome ε Nat) := by
  -- the depth grows towards the limit, and at one depth the list gets shorter
  induction left : maxClientOptionNestingDepth + 1 - depth using Nat.strong_induction_on
    generalizing options depth optionCount with
  | _ left deeper =>
    induction options generalizing optionCount with
    | nil =>
      rw [validateClientOptionBudget]
      split
      next => trivial
      next notDeep => exact ⟨id, .nil, .nil, rfl, by simp only [nestingDepth]; omega⟩
    | cons option rest ih =>
      rw [validateClientOptionBudget]
      split
      next => trivial
      next notDeep =>
        split
        next => trivial
        next inside =>
          have inside : optionCount + 1 ≤ maxClientOptions := by omega
          split
          next isVendor =>
            split
            next => trivial
            next onTop =>
              obtain rfl : depth = 0 := not_not.mp onTop
              split
              next => trivial
              next vendorPayload payloadEq =>
                obtain ⟨long, rfl⟩ := getFrom_eq_some.mp payloadEq
                refine (parseRawOptions_ends _).bind fun suboptions parsed => ?_
                refine (countSuboptions_ends suboptions _).bind ?_
                rintro counted ⟨rfl, bounded⟩
                refine (ih _).imp fun counted after => ?_
                refine after.cons (bounded inside) (.vendor isVendor long parsed) (fun forest => ?_)
                  fun forest depthLe => ?_
                · rw [OptionForest.optionCount, length_map]
                  omega
                · simp only [nestingDepth, maxClientOptionNestingDepth] at depthLe ⊢
                  omega
          next notVendor =>
            refine (nestedOptionPayload_ends option).bind ?_
            rintro (_ | nested) payloadFacts
            · refine (ih _).imp fun counted after => ?_
              refine after.cons inside (.leaf payloadFacts.1 notVendor payloadFacts.2)
                (fun forest => ?_) fun _ => id
              rw [OptionForest.optionCount]
              omega
            · obtain ⟨offset, isContainer, long, rfl⟩ := payloadFacts
              refine (parseRawOptions_ends _).bind fun nestedOptions parsed => ?_
              split
              next empty =>
                cases List.isEmpty_iff.mp empty
                refine (ih _).imp fun counted after => ?_
                refine after.cons inside (.container isContainer long parsed .nil)
                  (fun forest => ?_) fun _ => id
                simp only [OptionForest.optionCount]
                omega
              next =>
                refine (deeper _ ?_ nestedOptions (depth + 1) _ rfl).bind
                  fun middle nested => ?_
                · omega
                refine (ih _).imp fun counted after => ?_
                obtain ⟨nestedForest, described, rfl, nestedDepth⟩ := nested.describes
                refine after.cons (nested.bounded inside)
                  (.container isContainer long parsed described) (fun forest => ?_)
                  fun forest depthLe => ?_
                · rw [OptionForest.optionCount]
                  omega
                · have := nestingDepth_container_le option.code (option.data.take offset)
                    nestedForest forest
                  omega

/-! ## The semantic pass -/

def NotPanic : Failure (DecodeError ε) → Prop
  | .panic _ => False
  | .error _ => True

theorem IsMalformed.notPanic {failure : Failure (DecodeError ε)} (malformed : IsMalformed failure) :
    NotPanic failure := by
  cases failure with
  | panic reason => exact malformed
  | error err => trivial

variable {allowed : Call → Prop} {dhcproto : Dhcproto ε ο μ} {α : Type}

theorem respects_malformed (reason : Malformation) :
    (.ofExcept (malformed reason : Outcome ε α) : Traced _ Call α).Respects allowed
      NotPanic := by
  refine .ofExcept ?_
  rintro _ ⟨⟩
  trivial

theorem validateIsolatedOption_respects
    (holds : allowed (.decodeOption option.encoded)) :
    (validateIsolatedOption dhcproto option).Respects allowed NotPanic := by
  refine .bind (.call holds) ?_
  intro _ _
  split
  next => exact .fail trivial
  next =>
    split
    next => exact respects_malformed _
    next =>
      split
      next => exact respects_malformed _
      next =>
        split
        next => exact respects_malformed _
        next => exact .pure ()

variable {options : List RawOption} {forest : OptionForest}

/-- In options that form a forest the decoder is called on the options of the forest. -/
theorem validateClientOptionSemantics_respects (describes : Describes ε options forest)
    (framed : ∀ option ∈ options, option.Framed)
    (holds : ∀ encoded ∈ forest.encodings, allowed (.decodeOption encoded)) :
    (validateClientOptionSemantics dhcproto options).Respects allowed NotPanic := by
  induction describes with
  | nil =>
    rw [validateClientOptionSemantics]
    exact .pure ()
  | @leaf option rest after notContainer notVendor notRelay _ ih =>
    obtain ⟨head, tail⟩ := forall_mem_cons.mp framed
    obtain ⟨own, others⟩ := forall_mem_cons.mp holds
    have payload : (nestedOptionPayload option : Outcome ε _) = .ok none := by
      rw [nestedOptionPayload, notContainer]
      exact if_neg notRelay
    rw [← head.encoded] at own
    rw [validateClientOptionSemantics_cons dhcproto notVendor, payload]
    refine .bind (.pure ()) fun _ _ => ?_
    exact .bind (validateIsolatedOption_respects own) fun _ _ => ih tail others
  | @container option rest nestedOptions nested after offset isContainer long parsed
      nestedDescribes _ nestedIH ih =>
      obtain ⟨head, tail⟩ := forall_mem_cons.mp framed
      simp only [encodings, cons_append, forall_mem_cons, forall_mem_append,
        nestedDescribes.encode_of_parsed parsed, take_append_drop, ← head.encoded] at holds
      obtain ⟨own, inside, others⟩ := holds
      have notVendor := Describes.ne_of_nestedOffset isContainer vendorOpts rfl
      have payload : (nestedOptionPayload option : Outcome ε _) =
          .ok (some (option.data.drop offset)) := by
        rw [nestedOptionPayload, isContainer]
        simp only [getFrom, if_pos long]
      rw [validateClientOptionSemantics_cons dhcproto notVendor, payload]
      simp only [parsed]
      refine .bind (nestedIH (parseRawOptions_spec parsed).1 inside) fun _ _ => ?_
      exact .bind (validateIsolatedOption_respects own) fun _ _ => ih tail others
  | vendor isVendor long parsed _ ih =>
    rw [validateClientOptionSemantics, if_pos isVendor]
    exact ih (forall_mem_cons.mp framed).2 holds

/-! ## Messages and packets -/

structure IsWithinBudget (message : Bytes) (forest : OptionForest) : Prop where
  header : 4 ≤ message.length
  framed : message.drop 4 = forest.encode
  within : forest.WithinBudget

/-- A call on behalf of a client message: on one of its options, or on the message with its
vendor-specific options taken out, which is within the budget as well. -/
def Call.IsFor (message : Bytes) (forest : OptionForest) : Call → Prop
  | .decodeOption input => input ∈ forest.encodings
  | .decodeMessage input => input = message.take 4 ++ forest.withoutVendor.encode ∧
      forest.withoutVendor.WithinBudget

/-- The client message of a packet is the packet itself, or the payload of the relay-message
option of the envelope. -/
inductive IsClientMessage (ε : Type) (packet : Bytes) : Bytes → Prop where
  | direct : IsClientMessage ε packet packet
  | relayed {options : List RawOption} {option : RawOption}
      (parsed : (parseRawOptions (packet.drop 34) : Outcome ε _) = .ok options)
      (membership : option ∈ options) (isRelayMessage : option.code = relayMsg) :
      IsClientMessage ε packet option.data

abbrev Call.IsForClient (ε : Type) (packet : Bytes) (call : Call) : Prop :=
  ∃ message forest, IsClientMessage ε packet message ∧ IsWithinBudget message forest ∧
    call.IsFor message forest

theorem Respects.ofEnds {post : α → Prop} {computation : Outcome ε α}
    (ends : Checked.Ends IsMalformed post computation) :
    (.ofExcept computation : Traced _ Call α).Respects allowed NotPanic :=
  .ofExcept fun _ failed => (ends.of_eq_error failed).notPanic

variable {message : Bytes}

/-- Options that the budget pass accepts are the forest of a message within the budget. -/
theorem exists_forest {counted : Nat} (header : 4 ≤ message.length)
    (parsed : (parseRawOptions (message.drop 4) : Outcome ε _) = .ok options)
    (accepted : (validateClientOptionBudget options 0 0 : Outcome ε _) = .ok counted) :
    ∃ forest, Describes ε options forest ∧ IsWithinBudget message forest := by
  obtain ⟨framed, flattened⟩ := parseRawOptions_spec parsed
  obtain ⟨bounded, forest, describes, rfl, depth⟩ :=
    (validateClientOptionBudget_ends options 0 0).of_eq_ok accepted
  refine ⟨forest, describes, header, ?_, ?_⟩
  · rw [← flattened, describes.encode_eq framed]
  · exact {
      framed := describes.framed framed
      optionCount := by
        omega
      nestingDepth := by omega
      noRelayMessage := describes.noRelayMessage }

theorem sanitizedPacket_eq (describes : Describes ε options forest)
    (framed : ∀ option ∈ options, option.Framed) (within : IsWithinBudget message forest) :
    (sanitizedPacket message options : Outcome ε _) =
      .ok (message.take 4 ++ forest.withoutVendor.encode) := by
  rw [sanitizedPacket, ← describes.encode_withoutVendor framed]
  split
  next =>
    rw [slice_eq_ok (Nat.zero_le 4) within.header, drop_zero]
    rfl
  next noVendor =>
    have all : (options.filter fun option => option.code ≠ vendorOpts) = options := by
      refine filter_eq_self.mpr ?_
      simpa using noVendor
    rw [all, describes.encode_eq framed, ← within.framed, take_append_drop]

theorem decodeClientMessage_respects (dhcproto : Dhcproto ε ο μ) {packet : Bytes}
    (isClient : IsClientMessage ε packet message) :
    (decodeClientMessage dhcproto message).Respects (Call.IsForClient ε packet) NotPanic := by
  rw [decodeClientMessage]
  split
  next => exact respects_malformed _
  next area areaEq =>
    obtain ⟨header, rfl⟩ := getFrom_eq_some.mp areaEq
    refine .bind (Respects.ofEnds (parseRawOptions_ends _)) fun options parsed => ?_
    have framed := (parseRawOptions_spec parsed).1
    refine .bind ?_ ?_
    · refine .bind (Respects.ofEnds (validateClientOptionBudget_ends options 0 0)) ?_
      intro counted accepted
      obtain ⟨forest, describes, within⟩ := exists_forest header parsed accepted
      refine validateClientOptionSemantics_respects describes framed ?_
      exact fun encoded mem => ⟨message, forest, isClient, within, mem⟩
    · intro _ validated
      obtain ⟨counted, accepted, -⟩ := bind_result_eq_ok.mp validated
      obtain ⟨forest, describes, within⟩ := exists_forest header parsed accepted
      rw [sanitizedPacket_eq describes framed within]
      refine .bind (.pure _) ?_
      rintro _ ⟨⟩
      refine .bind (.call ⟨message, forest, isClient, within, rfl, within.within.withoutVendor⟩)
        fun _ _ => ?_
      split
      next => exact .fail trivial
      next => exact .pure _

def countCode (options : List RawOption) (code : Nat) : Nat :=
  options.countP fun option => option.code = code

structure RelayAccepted (ε : Type) (packet : Bytes) : Prop where
  hopCount : packet[1]? = some 0
  options : ∃ options, (parseRawOptions (packet.drop 34) : Outcome ε _) = .ok options ∧
    countCode options relayMsg = 1 ∧ countCode options interfaceId ≤ 1 ∧
    countCode options remoteId ≤ 1 ∧ countCode options clientLinklayerAddr ≤ 1

theorem uniqueRawOption_ends (options : List RawOption) (code : Nat) :
    Checked.Ends IsMalformed
      (fun found => match found with
        | none => countCode options code = 0
        | some data => countCode options code = 1 ∧
            ∃ option ∈ options, option.code = code ∧ option.data = data)
      (uniqueRawOption options code : Outcome ε _) := by
  rw [uniqueRawOption]
  have count : countCode options code =
      (options.filter fun option => option.code = code).length := countP_eq_length_filter
  have mem_filter : ∀ option ∈ options.filter fun option => option.code = code,
      option ∈ options ∧ option.code = code := by
    intro option mem
    simpa using mem_filter.mp mem
  generalize options.filter (fun option => option.code = code) = found at count mem_filter ⊢
  match found with
  | [] => exact count
  | [option] =>
    obtain ⟨mem, isCode⟩ := mem_filter option mem_cons_self
    exact ⟨count, option, mem, isCode, rfl⟩
  | _ :: _ :: _ => trivial

/-- After the header of an envelope has been read, its options decide. -/
def decodeRelayOptions (dhcproto : Dhcproto ε ο μ) (packet : Bytes) :
    Traced (Failure (DecodeError ε)) Call (DecodedPacket μ) := do
  let options ← .ofExcept (parseRawOptions (packet.drop 34))
  match ← .ofExcept (uniqueRawOption options relayMsg) with
  | none => .fail (.error .missingRelayMessage)
  | some relayMessage =>
    if relayMessage.head? = some relayForward ∨ relayMessage.head? = some relayReply then
      .fail (.error .nestedRelay)
    else
      let message ← decodeClientMessage dhcproto relayMessage
      let interfaceId ← .ofExcept (uniqueRawOption options interfaceId)
      let remoteId ← .ofExcept (uniqueRawOption options remoteId)
      let clientLinkLayer ← .ofExcept (uniqueRawOption options clientLinklayerAddr)
      return ⟨message, some ⟨0, (packet.take 18).drop 2, (packet.take 34).drop 18, interfaceId,
        remoteId, clientLinkLayer⟩⟩

/-- No access to the header of an envelope is out of bounds. -/
theorem decodeRelayForward_eq (packet : Bytes) :
    decodeRelayForward dhcproto packet =
      if long : 34 ≤ packet.length then
        if packet[1] = 0 then decodeRelayOptions dhcproto packet
        else .fail (.error (.relayHopCountExceeded packet[1]))
      else .ofExcept (malformed .truncatedRelayHeader) := by
  rw [decodeRelayForward]
  by_cases long : 34 ≤ packet.length
  · rw [if_neg (by omega), dif_pos long, index_eq_ok (by omega)]
    simp only [Checked.orPanic_ok, ofExcept_ok_bind, ne_eq, ite_not]
    split
    next zero =>
      rw [slice_eq_ok (by decide) (by omega), slice_eq_ok (by decide) long,
        slice_eq_ok long le_rfl, take_length]
      have linkLength : ((packet.take 18).drop 2).length = 16 := by simp; omega
      have peerLength : ((packet.take 34).drop 18).length = 16 := by simp; omega
      simp only [Checked.orPanic_ok, ofExcept_ok_bind, linkLength, peerLength, if_true, zero]
      rfl
    next => rfl
  · rw [if_pos (by omega), dif_neg long]

theorem decodeRelayForward_respects (dhcproto : Dhcproto ε ο μ) (packet : Bytes) :
    (decodeRelayForward dhcproto packet).Respects (Call.IsForClient ε packet) NotPanic := by
  rw [decodeRelayForward_eq]
  split
  next long =>
    split
    next =>
      refine .bind (Respects.ofEnds (parseRawOptions_ends _)) fun options parsed => ?_
      refine .bind (Respects.ofEnds (uniqueRawOption_ends options relayMsg))
        fun found foundEq => ?_
      split
      next => exact .fail trivial
      next relayMessage =>
        split
        next => exact .fail trivial
        next =>
          obtain ⟨-, option, mem, isRelayMessage, rfl⟩ :=
            (uniqueRawOption_ends options relayMsg).of_eq_ok foundEq
          refine .bind (decodeClientMessage_respects dhcproto
            (.relayed parsed mem isRelayMessage)) fun message _ => ?_
          refine .bind (Respects.ofEnds (uniqueRawOption_ends options _)) fun _ _ => ?_
          refine .bind (Respects.ofEnds (uniqueRawOption_ends options _)) fun _ _ => ?_
          refine .bind (Respects.ofEnds (uniqueRawOption_ends options _)) fun _ _ => ?_
          exact .pure _
    next => exact .fail trivial
  next => exact respects_malformed _

theorem countCode_le_one {code : Nat} {found : Option Bytes}
    (unique : (uniqueRawOption options code : Outcome ε _) = .ok found) :
    countCode options code ≤ 1 := by
  have counted := (uniqueRawOption_ends options code).of_eq_ok unique
  cases found with
  | none => exact Nat.le_of_eq counted |>.trans (Nat.zero_le 1)
  | some data => exact counted.1.le

theorem relayAccepted {packet : Bytes} {decoded : DecodedPacket μ}
    (accepted : (decodeRelayForward dhcproto packet).result = .ok decoded) :
    RelayAccepted ε packet ∧ 34 ≤ packet.length ∧ ∃ options relayMessage,
      (parseRawOptions (packet.drop 34) : Outcome ε _) = .ok options ∧
        (uniqueRawOption options relayMsg : Outcome ε _) = .ok (some relayMessage) ∧
          (decodeClientMessage dhcproto relayMessage).result = .ok decoded.message := by
  rw [decodeRelayForward_eq] at accepted
  split at accepted
  next long =>
    split at accepted
    next zero =>
      have hopCount : packet[1]? = some 0 := by
        rw [List.getElem?_eq_getElem (by omega), zero]
      obtain ⟨options, parsed, accepted⟩ := bind_result_eq_ok.mp accepted
      obtain ⟨found, foundEq, accepted⟩ := bind_result_eq_ok.mp accepted
      cases found with
      | none => cases accepted
      | some relayMessage =>
        have counted := ((uniqueRawOption_ends options relayMsg).of_eq_ok foundEq).1
        simp only at accepted
        split at accepted
        next => cases accepted
        next =>
          obtain ⟨_, messageEq, accepted⟩ := bind_result_eq_ok.mp accepted
          obtain ⟨_, interfaceEq, accepted⟩ := bind_result_eq_ok.mp accepted
          obtain ⟨_, remoteEq, accepted⟩ := bind_result_eq_ok.mp accepted
          obtain ⟨_, linkLayerEq, accepted⟩ := bind_result_eq_ok.mp accepted
          cases accepted
          refine ⟨⟨hopCount, options, parsed, counted, countCode_le_one interfaceEq,
            countCode_le_one remoteEq, countCode_le_one linkLayerEq⟩, long, ?_⟩
          exact ⟨options, relayMessage, parsed, foundEq, messageEq⟩
    next => cases accepted
  next => cases accepted

structure Guarded (packet : Bytes)
    (decoding : Traced (Failure (DecodeError ε)) Call (DecodedPacket μ)) : Prop where
  calls : ∀ call ∈ decoding.calls, ∃ message forest, IsClientMessage ε packet message ∧
    IsWithinBudget message forest ∧ call.IsFor message forest
  relay : ∀ decoded, decoding.result = .ok decoded → packet.head? = some relayForward →
    RelayAccepted ε packet
  noPanic : ∀ reason, decoding.result ≠ .error (.panic reason)

/-- For every byte string, the decoders of `dhcproto` are called only within the budget, a
relay envelope is accepted only with one client and unambiguous metadata, and no access
is out of bounds. -/
theorem decode_guarded (dhcproto : Dhcproto ε ο μ) (packet : Bytes) :
    Guarded packet (decode dhcproto packet) := by
  have failed (error : DecodeError ε) :
      Guarded packet (.fail (.error error) : Traced _ Call (DecodedPacket μ)) := by
    refine ⟨fun call made => ?_, fun decoded accepted => ?_, fun reason panics => ?_⟩
    · cases made
    · cases accepted
    · cases panics
  rw [decode]
  split
  next => exact failed _
  next messageType typeEq =>
    split
    next isRelay =>
      have respects := decodeRelayForward_respects dhcproto packet
      exact ⟨respects.calls, fun decoded accepted _ => (relayAccepted accepted).1,
        fun reason panics => respects.failures _ panics⟩
    next notRelay =>
      split
      next => exact failed _
      next =>
        have respects := (decodeClientMessage_respects dhcproto
          (@IsClientMessage.direct ε packet)).bind
          fun message _ => .pure (⟨message, none⟩ : DecodedPacket μ)
        refine ⟨respects.calls, ?_, fun reason panics => respects.failures _ panics⟩
        intro decoded _ relayed
        rw [typeEq, Option.some.injEq] at relayed
        exact absurd relayed notRelay

end Dhcpv6
