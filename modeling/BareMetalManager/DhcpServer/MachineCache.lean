import BareMetalManager.Lib.Replace
import BareMetalManager.Lib.Text
import BareMetalManager.Lib.Transition
import Mathlib.Data.List.Basic

/-!
# The cache of DHCP answers

In controller mode the DHCP server asks the API for the record of a request and keeps the answer
for a minute. `key` of `crates/dhcp-server/src/cache.rs` joins the five fields that tell
requesters apart, with `_` between them. Relays and clients choose three of the fields, and a
field may be missing or have a `_` itself.
-/

namespace DhcpServer

open List Replace

/-! ## Requests -/

/-- An IP address, by the text that the standard library prints for it. -/
@[ext] structure IpAddr where
  display : Text
  separated : '_' ∉ display
  deriving DecidableEq

/-- The request that is made of a relayed packet. An option that is no text counts as
missing. -/
structure DhcpDiscovery where
  chaddr : Bytes
  relayAddress : IpAddr
  vendorString : Option Text
  linkAddress : Option IpAddr
  circuitId : Option Text
  remoteId : Option Text

def hexByte (byte : UInt8) : Text :=
  [Nat.digitChar (byte.toNat / 16), Nat.digitChar (byte.toNat % 16)]

def u8ToMac (data : Bytes) : Text := [':'].intercalate (data.map hexByte)

/-- The id that `VendorClass::from_str` reads. It reads every text. -/
def vendorClassId (vendorClass : Text) : Text :=
  let unknown := "unknown: '".toList ++ vendorClass ++ "'".toList
  if vendorClass.contains ':' then
    match splitAll [':'] vendorClass with
    | [id, _, _, _, _] => id
    | _ => unknown
  else if vendorClass.contains ' ' then
    match splitAll [' '] vendorClass with
    | [id, _] => id
    | _ => unknown
  else if (["NVIDIA/BF/OOB", "BF2Client", "PXEClient", "NVIDIA/BF/BMC", "iDRAC",
      "CPQRIB3"].map String.toList).contains vendorClass then vendorClass
  else unknown

structure Requester where
  macAddress : Text
  linkAddress : IpAddr
  circuitId : Option Text
  remoteId : Option Text
  vendorId : Text

def DhcpDiscovery.requester (request : DhcpDiscovery) : Requester where
  macAddress := u8ToMac request.chaddr
  linkAddress := request.linkAddress.getD request.relayAddress
  circuitId := request.circuitId
  remoteId := request.remoteId
  vendorId := (request.vendorString.map vendorClassId).getD []

/-! ## The cache -/

/-- The text under which an answer is kept. -/
def Requester.key (requester : Requester) : Text :=
  requester.macAddress ++ '_' :: (requester.linkAddress.display ++ '_' ::
    (requester.circuitId.getD [] ++ '_' :: (requester.remoteId.getD [] ++ '_' ::
      requester.vendorId)))

structure CacheEntry (ρ : Type) where
  dhcpRecord : ρ
  timestamp : Nat

/-- In seconds. -/
def machineCacheTimeout : Nat := 60

def machineCacheSize : Nat := 1000

def minKeyLen : Nat := 10

/-- The entries with their keys, the one that was used last first. -/
abbrev Cache (ρ : Type) := List (Text × CacheEntry ρ)

variable {ρ : Type}

namespace Cache

variable (cache : Cache ρ) (key : Text)

def popEntry : Cache ρ := cache.filter (·.1 ≠ key)

/-- The entry of a key, unless it has expired. -/
def get (now : Nat) : Option (CacheEntry ρ) × Cache ρ :=
  if key.utf8Len < minKeyLen then (none, cache)
  else
    match cache.find? (·.1 = key) with
    | none => (none, cache)
    | some (found, entry) =>
      if machineCacheTimeout ≤ now - entry.timestamp then (none, cache.popEntry key)
      else (some entry, (found, entry) :: cache.popEntry key)

/-- The entry that was not used for longest is evicted. -/
def put (entry : CacheEntry ρ) : Cache ρ :=
  ((key, entry) :: cache.popEntry key).take machineCacheSize

/-- Nothing new is in the cache afterwards, and what is returned was in it. -/
theorem get_spec (now : Nat) :
    (cache.get key now).2 ⊆ cache ∧ ∀ entry ∈ (cache.get key now).1, (key, entry) ∈ cache := by
  have fewer : cache.popEntry key ⊆ cache := filter_subset_self _
  unfold get
  split
  next => exact ⟨.refl _, nofun⟩
  next =>
    split
    next => exact ⟨.refl _, nofun⟩
    next found entry isFound =>
      have present := mem_of_find?_eq_some isFound
      have same : found = key := by simpa using List.find?_some isFound
      split
      next => exact ⟨fewer, nofun⟩
      next =>
        refine ⟨cons_subset.mpr ⟨present, fewer⟩, ?_⟩
        rintro _ ⟨⟩
        exact same ▸ present

theorem mem_put {cache : Cache ρ} {key : Text} {entry : CacheEntry ρ}
    {cached : Text × CacheEntry ρ} (cachedMem : cached ∈ cache.put key entry) :
    cached = (key, entry) ∨ cached ∈ cache :=
  (mem_cons.mp (mem_of_mem_take cachedMem)).imp_right mem_of_mem_filter

end Cache

/-! ## The controller -/

/-- The cache, the requests that wait for the API, and what the API and the cache have
returned. -/
structure Controller (ρ : Type) where
  cache : Cache ρ
  asking : List DhcpDiscovery
  answered : List (DhcpDiscovery × ρ)
  returned : List (DhcpDiscovery × ρ)

inductive Event (ρ : Type) where
  | discoverDhcp (request : DhcpDiscovery) (now : Nat)
  | answer (index : Nat) (record : ρ) (now : Nat)
  | fail (index : Nat)

/-- The cache is not locked while the API is asked, so requests interleave. -/
def controller : Machine (Event ρ) (Controller ρ) where
  step
    | .discoverDhcp request now, state =>
      match state.cache.get request.requester.key now with
      | (some entry, cache) =>
        some { state with cache, returned := state.returned ++ [(request, entry.dhcpRecord)] }
      | (none, cache) => some { state with cache, asking := state.asking ++ [request] }
    | .answer index record now, state =>
      state.asking[index]?.map fun request =>
        { state with
          cache := state.cache.put request.requester.key ⟨record, now⟩
          asking := state.asking.eraseIdx index
          answered := state.answered ++ [(request, record)] }
    | .fail index, state =>
      state.asking[index]?.map fun _ => { state with asking := state.asking.eraseIdx index }

/-- What the cache returned, the API had returned to the same requester. -/
def OwnAnswers (state : Controller ρ) : Prop :=
  ∀ entry ∈ state.returned, ∃ earlier, (earlier, entry.2) ∈ state.answered ∧
    earlier.requester = entry.1.requester

/-! ## Keys -/

/-- A field that can be told from its neighbours in a key. -/
def Plain (field : Option Text) : Prop := ∀ text ∈ field, text ≠ [] ∧ '_' ∉ text

instance (field : Option Text) : Decidable (Plain field) :=
  inferInstanceAs (Decidable (∀ text ∈ field, text ≠ [] ∧ '_' ∉ text))

theorem Plain.not_mem {field : Option Text} (plain : Plain field) : '_' ∉ field.getD [] := by
  cases field with
  | none => exact not_mem_nil
  | some text => exact (plain text rfl).2

theorem Plain.getD_inj {left right : Option Text} (leftPlain : Plain left)
    (rightPlain : Plain right) (same : left.getD [] = right.getD []) : left = right := by
  cases left with
  | none =>
    cases right with
    | none => rfl
    | some text => exact absurd same.symm (rightPlain text rfl).1
  | some text =>
    cases right with
    | none => exact absurd same (leftPlain text rfl).1
    | some other => exact congrArg some same

theorem not_mem_hexByte (byte : UInt8) : '_' ∉ hexByte byte := by
  have digit : ∀ digit < 16, '_' ≠ Nat.digitChar digit := by decide
  have lt := byte.toNat_lt
  simp [hexByte, digit (byte.toNat / 16) (by omega), digit (byte.toNat % 16) (by omega)]

theorem not_mem_u8ToMac (data : Bytes) : '_' ∉ u8ToMac data := by
  unfold u8ToMac
  induction data with
  | nil => simp
  | cons byte data ih =>
    cases data with
    | nil => simpa using not_mem_hexByte byte
    | cons next data => simpa [intercalate_cons_cons, not_mem_hexByte] using ih

/-- The circuit id and the remote id can be told from their neighbours. -/
def DhcpDiscovery.Plain (request : DhcpDiscovery) : Prop :=
  DhcpServer.Plain request.circuitId ∧ DhcpServer.Plain request.remoteId

theorem requester_eq {left right : DhcpDiscovery} (leftPlain : left.Plain)
    (rightPlain : right.Plain) (same : left.requester.key = right.requester.key) :
    left.requester = right.requester := by
  obtain ⟨mac, same⟩ := append_cons_inj (not_mem_u8ToMac _) (not_mem_u8ToMac _) same
  obtain ⟨link, same⟩ := append_cons_inj (IpAddr.separated _) (IpAddr.separated _) same
  obtain ⟨circuit, same⟩ := append_cons_inj leftPlain.1.not_mem rightPlain.1.not_mem same
  obtain ⟨remote, vendor⟩ := append_cons_inj leftPlain.2.not_mem rightPlain.2.not_mem same
  rw [Requester.mk.injEq]
  exact ⟨mac, IpAddr.ext link, leftPlain.1.getD_inj rightPlain.1 circuit,
    leftPlain.2.getD_inj rightPlain.2 remote, vendor⟩

/-! ## Runs -/

def Unambiguous (_ : Controller ρ) : Event ρ → Prop
  | .discoverDhcp request _ => request.Plain
  | .answer .. | .fail _ => True

instance (state : Controller ρ) : (event : Event ρ) → Decidable (Unambiguous state event)
  | .discoverDhcp request _ =>
    inferInstanceAs (Decidable (Plain request.circuitId ∧ Plain request.remoteId))
  | .answer .. | .fail _ => .isTrue trivial

structure Kept (state : Controller ρ) : Prop where
  asking : ∀ request ∈ state.asking, request.Plain
  cached : ∀ entry ∈ state.cache, ∃ request : DhcpDiscovery, request.Plain ∧
    request.requester.key = entry.1 ∧ (request, entry.2.dhcpRecord) ∈ state.answered
  own : OwnAnswers state

theorem Kept.step {state next : Controller ρ} {event : Event ρ} (kept : Kept state)
    (unambiguous : Unambiguous state event) (moved : controller.step event state = some next) :
    Kept next := by
  cases event with
  | discoverDhcp request now =>
    obtain ⟨fewer, hit⟩ := state.cache.get_spec request.requester.key now
    have cached := fun entry entryMem => kept.cached entry (fewer entryMem)
    simp only [controller] at moved
    split at moved
    next entry cache isHit =>
      cases moved
      rw [isHit] at fewer hit cached
      refine { kept with cached, own := forall_mem_append.mpr ⟨kept.own, ?_⟩ }
      obtain ⟨earlier, plain, sameKey, answered⟩ := kept.cached _ (hit entry rfl)
      exact forall_mem_singleton.mpr ⟨earlier, answered, requester_eq plain unambiguous sameKey⟩
    next cache isMiss =>
      cases moved
      rw [isMiss] at cached
      refine { kept with cached, asking := forall_mem_append.mpr ⟨kept.asking, ?_⟩ }
      exact forall_mem_singleton.mpr unambiguous
  | answer index record now =>
    obtain ⟨request, isAsking, rfl⟩ := Option.map_eq_some_iff.mp moved
    have plain := kept.asking request (mem_of_getElem? isAsking)
    refine ⟨fun other otherMem => kept.asking other (mem_of_mem_eraseIdx otherMem), ?_, ?_⟩
    · intro entry entryMem
      obtain rfl | old := Cache.mem_put entryMem
      · exact ⟨request, plain, rfl, mem_concat_self⟩
      · obtain ⟨other, otherPlain, sameKey, answered⟩ := kept.cached entry old
        exact ⟨other, otherPlain, sameKey, mem_append_left _ answered⟩
    · intro entry entryMem
      obtain ⟨earlier, answered, same⟩ := kept.own entry entryMem
      exact ⟨earlier, mem_append_left _ answered, same⟩
  | fail index =>
    obtain ⟨request, -, rfl⟩ := Option.map_eq_some_iff.mp moved
    exact { kept with
      asking := fun other otherMem => kept.asking other (mem_of_mem_eraseIdx otherMem) }

/-- While no request has an empty circuit or remote id or one with a `_`, the cache returns a
record only to the requester for whom the API returned it. -/
theorem ownAnswers_of_run {events : List (Event ρ)} {final : Controller ρ}
    (unambiguous : controller.Meets Unambiguous events ⟨[], [], [], []⟩)
    (ran : controller.run events ⟨[], [], [], []⟩ = some final) : OwnAnswers final := by
  have empty : Kept (⟨[], [], [], []⟩ : Controller ρ) := by constructor <;> simp [OwnAnswers]
  exact (Machine.run_induction Kept (fun _ _ _ kept => kept.step) empty unambiguous ran).own

/-- A request of one machine behind 10.0.0.1. -/
def relayed (circuitId remoteId : String) : DhcpDiscovery :=
  ⟨[2, 0, 0, 0, 0, 1], ⟨"10.0.0.1".toList, by decide⟩, none, none, some circuitId.toList,
    some remoteId.toList⟩

theorem ownAnswers_of_repeated :
    ∃ final : Controller Nat, controller.run [.discoverDhcp (relayed "a" "b") 0, .answer 0 7 1,
        .discoverDhcp (relayed "a" "b") 2] ⟨[], [], [], []⟩ = some final ∧
      final.returned.map Prod.snd = [7] ∧ OwnAnswers final := by
  obtain ⟨final, ran, returned⟩ : ∃ final ∈ controller.run [.discoverDhcp (relayed "a" "b") 0,
      .answer 0 7 1, .discoverDhcp (relayed "a" "b") 2] ⟨[], [], [], []⟩,
      final.returned.map Prod.snd = [7] := by
    decide +kernel
  exact ⟨final, ran, returned, ownAnswers_of_run (by decide +kernel) ran⟩

/-- The record of port `a_b` at `c` is returned to port `a` at `b_c`. -/
theorem not_ownAnswers_of_underscore :
    ∃ final : Controller Nat, controller.run [.discoverDhcp (relayed "a_b" "c") 0, .answer 0 7 1,
        .discoverDhcp (relayed "a" "b_c") 2] ⟨[], [], [], []⟩ = some final ∧
      ¬ OwnAnswers final := by
  refine ⟨_, rfl, fun own => ?_⟩
  obtain ⟨earlier, answered, same⟩ := own _ (mem_singleton_self _)
  cases mem_singleton.mp answered
  exact absurd (congrArg Requester.remoteId same) (by decide)

end DhcpServer
