import BareMetalManager.Ipam.Ipamer

/-!
# The invariant of the store

A store is a reservation forest of prefixes: a row is a stored prefix, and a child prefix that
is not available in its parent is a reservation. Here each write of the IPAM is related to a
write of the forest, and the addresses of a row are kept apart from its child prefixes.
-/

namespace Ipam

open Network Reservation Finmap PrefixRow Finset Forest Netip Option

variable {τ : Type} [DecidableEq τ] [Netip τ]

def forest (store : Store τ) : Forest IpPrefix where
  parent p := (store.lookup (prefixString p)).map fun row => parseMasked row.parentCidr
  reserved p c := ∃ row, store.lookup (prefixString p) = some row ∧
    row.availableChildPrefixes.lookup (prefixString c) = some false

/-- A row of a prefix, with printed texts only. It has its reserved addresses, and no others
once it has child prefixes. -/
structure RowOk (p : IpPrefix) (row : PrefixRow τ) : Prop where
  cidr : row.cidr = prefixString p
  parentCidr : row.parentCidr = empty ∨ ∃ parent, row.parentCidr = prefixString parent
  children : ∀ cidr, row.availableChildPrefixes.lookup cidr = some false →
    ∃ c, cidr = prefixString c
  blocked : reservedIPs p ⊆ row.ips
  within : ∀ ip ∈ row.ips, ∃ addr, ip = addrString addr ∧ containsAddr p addr
  isParent : row.taken.Nonempty → row.isParent
  exclusive : row.taken.Nonempty → row.ips = reservedIPs p

/-- The invariant of a store, where `pending` are the reservations without a stored child. -/
structure Sound (pending : IpPrefix → IpPrefix → Prop) (store : Store τ) : Prop where
  rows : ∀ {key row}, store.lookup key = some row → ∃ p, key = prefixString p ∧ RowOk p row
  forest : (forest store).Sound Inside pending

/-! ## Rows -/

variable {p : IpPrefix} {row : PrefixRow τ}

theorem mem_reservedIPs {ip : τ} :
    ip ∈ reservedIPs p ↔ ip = addrString (rangeFrom p) ∨
      p.addressFamily = .ipv4 ∧ ip = addrString (rangeTo p) := by
  rw [reservedIPs, Finset.mem_insert]
  split <;> simp_all

theorem card_reservedIPs (several : rangeFrom p ≠ rangeTo p) :
    (reservedIPs p : Finset τ).card = match p.addressFamily with
      | .ipv4 => 2
      | .ipv6 => 1 := by
  unfold reservedIPs
  cases p.addressFamily with
  | ipv4 =>
    rw [if_pos rfl, card_pair]
    exact fun same => several (addrString_injective same)
  | ipv6 => rfl

section RowOk

variable (rowOk : RowOk p row)
include rowOk

/-- `hasIPs` counts right: without it a row has its blocked addresses only. -/
theorem ips_of_not_hasIPs (noIPs : ¬row.hasIPs) : row.ips = reservedIPs p := by
  by_cases single : rangeFrom p = rangeTo p
  · refine Finset.Subset.antisymm (fun ip ipMem => ?_) rowOk.blocked
    obtain ⟨addr, rfl, inside⟩ := rowOk.within ip ipMem
    rw [eq_rangeFrom_of_single single inside]
    exact mem_reservedIPs.mpr (.inl rfl)
  · refine (eq_of_subset_of_card_le rowOk.blocked ?_).symm
    rw [card_reservedIPs single]
    unfold hasIPs at noIPs
    rw [rowOk.cidr, parseMasked_prefixString] at noIPs
    cases family : p.addressFamily <;> simp_all

theorem not_hasIPs_of_ips (onlyBlocked : row.ips = reservedIPs p) : ¬row.hasIPs := by
  unfold hasIPs
  rw [rowOk.cidr, parseMasked_prefixString, onlyBlocked, reservedIPs]
  cases family : p.addressFamily with
  | ipv4 => simpa [family] using card_le_two
  | ipv6 => simp [family]

theorem RowOk.containsAddr_of_mem {addr : Addr} (known : addrString addr ∈ row.ips) :
    containsAddr p addr := by
  obtain ⟨other, same, inside⟩ := rowOk.within _ known
  rwa [addrString_injective same]

theorem RowOk.parentCidr_of_parsed {parent : IpPrefix}
    (parsed : parseMasked row.parentCidr = some parent) : row.parentCidr = prefixString parent := by
  obtain root | ⟨q, child⟩ := rowOk.parentCidr
  · rw [root, parseMasked_empty] at parsed
    cases parsed
  · rw [child, parseMasked_prefixString] at parsed
    rw [child, some.inj parsed]

end RowOk

/-! ## Decisions -/

variable {parent : PrefixRow τ} {length : Nat}

theorem checkParent_spec {removed : Finset IpPrefix}
    (checked : checkParent parent p length = .ok removed) :
    p.prefixLength < length ∧ ¬parent.hasIPs ∧ ∀ d : IpPrefix,
      parent.availableChildPrefixes.lookup (prefixString d) = some false → d ∈ removed := by
  obtain ⟨longer, checked⟩ := Checked.error_ite_eq_ok.mp checked
  obtain ⟨noIPs, checked⟩ := Checked.error_ite_eq_ok.mp checked
  obtain ⟨-, ⟨⟩⟩ := Checked.error_ite_eq_ok.mp checked
  refine ⟨Nat.lt_of_not_le longer, noIPs, fun d isTaken => ?_⟩
  rw [mem_eraseNone, mem_image]
  exact ⟨_, mem_taken.mpr isTaken, parseMasked_prefixString d⟩

variable {c : IpPrefix}

theorem chooseChild_spec (rowOk : RowOk p parent) {childCidr : τ}
    (chosen : chooseChild parent childCidr length = .ok c) :
    Inside c p ∧ c ≠ p ∧ ¬parent.hasIPs ∧ ∀ d : IpPrefix,
      parent.availableChildPrefixes.lookup (prefixString d) = some false → ¬Overlaps c d := by
  obtain ⟨removed, checked, inSet⟩ : ∃ removed,
      checkParent parent p c.prefixLength = .ok removed ∧ ∀ addr ∈ c, InSet p removed addr := by
    unfold chooseChild at chosen
    rw [rowOk.cidr, parseMasked_prefixString] at chosen
    simp only at chosen
    split at chosen
    next =>
      obtain ⟨removed, checked, chosen⟩ := Checked.bind_eq_ok.mp chosen
      split at chosen <;> cases chosen
      next found =>
        obtain ⟨rfl, inSet⟩ := removeFreePrefix_spec found
        exact ⟨removed, checked, inSet⟩
    next =>
      split at chosen
      next => cases chosen
      next =>
        obtain ⟨removed, checked, chosen⟩ := Checked.bind_eq_ok.mp chosen
        split at chosen <;> cases chosen
        next contained => exact ⟨removed, checked, (containsPrefix_iff _ _ _).mp contained⟩
  obtain ⟨longer, noIPs, taken⟩ := checkParent_spec checked
  refine ⟨fun addr inC => (inSet addr inC).1, ?_, noIPs, ?_⟩
  · rintro rfl
    exact longer.ne rfl
  · rintro d isTaken ⟨addr, inC, inD⟩
    exact (inSet addr inC).2 d (taken d isTaken) inD

theorem chooseChild_of_free (rowOk : RowOk p parent) (noIPs : ¬parent.hasIPs) (below : Inside c p)
    (ne : c ≠ p)
    (free : ∀ d : IpPrefix, parent.availableChildPrefixes.lookup (prefixString d) = some false →
      ¬Overlaps c d)
    (length : Nat) :
    chooseChild parent (prefixString c) length = .ok c := by
  have longer := prefixLength_lt_of_inside below ne
  have parses : ¬∃ cidr ∈ parent.taken, parseMasked cidr = none := by
    rintro ⟨cidr, isTaken, notParsed⟩
    obtain ⟨d, rfl⟩ := rowOk.children cidr (mem_taken.mp isTaken)
    rw [parseMasked_prefixString] at notParsed
    cases notParsed
  have checked : checkParent parent p c.prefixLength =
      .ok (parent.taken.image parseMasked).eraseNone := by
    unfold checkParent
    rw [if_neg (Nat.not_le_of_lt longer), if_neg noIPs, if_neg parses]
  have contained : containsPrefix τ p (parent.taken.image parseMasked).eraseNone c := by
    refine (containsPrefix_iff _ _ _).mpr fun addr inC => ⟨below addr inC, ?_⟩
    intro d isRemoved inD
    obtain ⟨cidr, isTaken, parsed⟩ := mem_image.mp (mem_eraseNone.mp isRemoved)
    rw [mem_taken] at isTaken
    obtain ⟨e, rfl⟩ := rowOk.children cidr isTaken
    rw [parseMasked_prefixString] at parsed
    cases parsed
    exact free d isTaken ⟨addr, inC, inD⟩
  unfold chooseChild
  rw [rowOk.cidr, parseMasked_prefixString]
  simp only [if_neg (prefixString_ne_empty c), parseMasked_prefixString, checked]
  exact if_pos contained

theorem findIP_spec {ips : Finset τ} {specificIP : Option Addr}
    {remaining value : Nat} {ip : Addr} (found : findIP p ips specificIP remaining value = some ip)
    (lower : p.block.first ≤ value) (upper : remaining = p.block.last + 1 - value) :
    addrString ip ∉ ips ∧ containsAddr p ip := by
  induction remaining generalizing value with
  | zero => cases found
  | succ remaining ih =>
    simp only [findIP] at found
    split at found
    next free =>
      cases found
      have inside : value ∈ p.block := Dyadic.Block.mem_iff_bounds.mpr ⟨lower, by omega⟩
      exact ⟨free.1, containsAddr_iff.mpr ⟨rfl, addrAt_mem inside⟩⟩
    next => exact ih found (by omega) (by omega)

variable {specificIP : τ}

theorem chooseIP_spec (rowOk : RowOk p row) {ip : Addr}
    (chosen : chooseIP row specificIP = .ok ip) :
    ¬row.isParent ∧ addrString ip ∉ row.ips ∧ containsAddr p ip := by
  obtain ⟨noParent, chosen⟩ := Checked.error_ite_eq_ok.mp chosen
  refine ⟨noParent, ?_⟩
  rw [rowOk.cidr, parseMasked_prefixString] at chosen
  simp only at chosen
  split at chosen
  next =>
    split at chosen <;> cases chosen
    next found => exact findIP_spec found le_rfl rfl
  next =>
    split at chosen
    next => cases chosen
    next specific _ =>
      obtain ⟨inside, chosen⟩ := Checked.error_ite_eq_ok.mp chosen
      obtain ⟨-, chosen⟩ := Checked.error_ite_eq_ok.mp chosen
      have inside : containsAddr p specific := by simpa using inside
      have bounds : p.block.first ≤ specific.ip.bits ∧ specific.ip.bits ≤ p.block.last :=
        Dyadic.Block.mem_iff_bounds.mp (containsAddr_iff.mp inside).2.2
      split at chosen <;> cases chosen
      next found => exact findIP_spec found bounds.1 rfl

omit [DecidableEq τ] in
theorem parseAddr_of_releaseKey {ip : τ} {addr : Addr} (same : releaseKey ip = addrString addr) :
    parseAddr ip = some addr := by
  unfold releaseKey at same
  cases parsed : parseAddr ip with
  | none =>
    rw [parsed] at same
    rw [← parsed, show ip = addrString addr from same, parseAddr_addrString]
  | some other =>
    rw [parsed] at same
    rw [addrString_injective same]

theorem checkRelease_spec (rowOk : RowOk p row) {ip : τ} (checked : checkRelease row ip = .ok ()) :
    releaseKey ip ∈ row.ips ∧ releaseKey ip ∉ reservedIPs p := by
  obtain ⟨known, checked⟩ := Checked.error_ite_eq_ok.mp checked
  rw [rowOk.cidr, parseMasked_prefixString] at checked
  obtain ⟨notBlocked, -⟩ := Checked.error_ite_eq_ok.mp checked
  refine ⟨not_not.mp known, fun blocked => notBlocked ?_⟩
  obtain isFrom | ⟨ipv4, isTo⟩ := mem_reservedIPs.mp blocked
  · exact .inl (parseAddr_of_releaseKey isFrom)
  · exact .inr ⟨ipv4, parseAddr_of_releaseKey isTo⟩

variable {parentCidr : τ}

theorem newPrefixRow_spec {cidr : τ} (parsed : parseMasked cidr = some p)
    (created : newPrefixRow cidr parentCidr = .ok row) :
    RowOk p row ∧ row.availableChildPrefixes = ∅ ∧ row.ips = reservedIPs p ∧
      parseMasked row.parentCidr = parseMasked parentCidr := by
  have rowOk {parent : τ} (isParent : parent = empty ∨ ∃ q, parent = prefixString q) :
      RowOk p (⟨prefixString p, parent, false, ∅, reservedIPs p, 0⟩ : PrefixRow τ) := by
    refine ⟨rfl, isParent, fun cidr isTaken => ?_, subset_rfl, fun ip ipMem => ?_, ?_, fun _ => rfl⟩
    · cases isTaken
    · obtain rfl | ⟨-, rfl⟩ := mem_reservedIPs.mp ipMem
      · exact ⟨_, rfl, containsAddr_rangeFrom p⟩
      · exact ⟨_, rfl, containsAddr_rangeTo p⟩
    · rintro ⟨cidr, isTaken⟩
      cases isTaken
  unfold newPrefixRow at created
  rw [parsed] at created
  simp only at created
  split at created
  next isRoot =>
    cases created
    exact ⟨rowOk (.inl isRoot), rfl, rfl, rfl⟩
  next =>
    split at created
    next => cases created
    next parent parsedParent =>
      cases created
      refine ⟨rowOk (.inr ⟨parent, rfl⟩), rfl, rfl, ?_⟩
      rw [parseMasked_prefixString, parsedParent]

theorem newPrefixRow_of_parsed (p : IpPrefix) {parent : IpPrefix}
    (parsed : parseMasked parentCidr = some parent) :
    newPrefixRow (prefixString p) parentCidr =
      .ok ⟨prefixString p, prefixString parent, false, ∅, reservedIPs p, 0⟩ := by
  have notEmpty : parentCidr ≠ empty := by
    rintro rfl
    rw [parseMasked_empty] at parsed
    cases parsed
  unfold newPrefixRow
  rw [parseMasked_prefixString, parsed]
  exact if_neg notEmpty

omit [DecidableEq τ] in
theorem prefixesOverlapping_spec {existingPrefixes : Finset τ} {q : IpPrefix}
    (checked : prefixesOverlapping existingPrefixes c = .ok ())
    (existing : prefixString q ∈ existingPrefixes) : ¬Overlaps q c := by
  obtain ⟨-, checked⟩ := Checked.error_ite_eq_ok.mp checked
  obtain ⟨noOverlap, -⟩ := Checked.error_ite_eq_ok.mp checked
  intro overlaps
  exact noOverlap ⟨_, existing, q, parseMasked_prefixString q, overlaps⟩

/-! ## Written rows -/

section RowOk

variable (rowOk : RowOk p row)
include rowOk

theorem RowOk.acquireChild (noIPs : ¬row.hasIPs) :
    RowOk p (row.acquireChild (prefixString c)).nextVersion where
  __ := rowOk
  children cidr isTaken := by
    obtain rfl | other := eq_or_ne cidr (prefixString c)
    · exact ⟨c, rfl⟩
    · exact rowOk.children cidr ((lookup_insert_of_ne _ other).symm.trans isTaken)
  isParent _ := rfl
  exclusive _ := by
    have onlyBlocked := ips_of_not_hasIPs rowOk noIPs
    exact onlyBlocked

theorem RowOk.releaseChild (child : τ) : RowOk p (row.releaseChild child).nextVersion where
  __ := rowOk
  children cidr isTaken := rowOk.children cidr (lookup_of_releaseChild isTaken)
  isParent nonempty := rowOk.isParent (taken_of_releaseChild nonempty)
  exclusive nonempty := rowOk.exclusive (taken_of_releaseChild nonempty)

theorem RowOk.acquireIP {ip : Addr} (chosen : chooseIP row specificIP = .ok ip) :
    RowOk p (row.acquireIP (addrString ip)).nextVersion := by
  obtain ⟨noParent, -, inside⟩ := chooseIP_spec rowOk chosen
  refine { rowOk with blocked := ?_, within := ?_, exclusive := ?_ }
  · exact rowOk.blocked.trans (subset_insert _ _)
  · intro other otherMem
    obtain rfl | old := mem_insert.mp otherMem
    · exact ⟨ip, rfl, inside⟩
    · exact rowOk.within other old
  · exact fun nonempty => absurd (rowOk.isParent nonempty) noParent

theorem RowOk.releaseIP {ip : τ} (checked : checkRelease row ip = .ok ()) :
    RowOk p (row.releaseIP (releaseKey ip)).nextVersion := by
  obtain ⟨known, notBlocked⟩ := checkRelease_spec rowOk checked
  refine { rowOk with blocked := ?_, within := ?_, exclusive := ?_ }
  · exact subset_erase.mpr ⟨rowOk.blocked, notBlocked⟩
  · intro other otherMem
    exact rowOk.within other (mem_of_mem_erase otherMem)
  · intro nonempty
    exact absurd (rowOk.exclusive nonempty ▸ known) notBlocked

end RowOk

section Sound

variable {pending : IpPrefix → IpPrefix → Prop} {store : Store τ}

omit [Netip τ] in
theorem lookup_isSome_of_member {key : τ} (member : key ∈ store) :
    ∃ row, store.lookup key = some row :=
  isSome_iff_exists.mp (lookup_isSome.mpr member)

theorem stored_forest : (forest store).Stored p ↔
    ∃ row, store.lookup (prefixString p) = some row := by
  rw [Forest.Stored, forest, ne_eq, map_eq_none_iff, ← ne_eq, ne_none_iff_exists']

theorem reserved_iff (found : store.lookup (prefixString p) = some row) :
    (forest store).reserved p c ↔ row.availableChildPrefixes.lookup (prefixString c) =
      some false := by
  simp [forest, found]

section

variable (sound : Sound pending store)
include sound

theorem Sound.rowOk (found : store.lookup (prefixString p) = some row) : RowOk p row := by
  obtain ⟨q, same, rowOk⟩ := sound.rows found
  rwa [prefixString_injective same]

theorem parent_eq_iff {parent : Option IpPrefix} :
    (forest store).parent c = some parent ↔ ∃ row, store.lookup (prefixString c) = some row ∧
      row.parentCidr = parent.elim empty prefixString := by
  rw [forest, map_eq_some_iff]
  refine exists_congr fun row => and_congr_right fun found => ?_
  obtain root | ⟨p, child⟩ := (sound.rowOk found).parentCidr
  · rw [root, parseMasked_empty]
    cases parent with
    | none => exact iff_of_true rfl rfl
    | some q => exact iff_of_false nofun (prefixString_ne_empty q).symm
  · rw [child, parseMasked_prefixString]
    cases parent with
    | none => exact iff_of_false nofun (prefixString_ne_empty p)
    | some q => exact some_inj.trans prefixString_injective.eq_iff.symm

theorem Sound.reserved_of_parentCidr (found : store.lookup (prefixString c) = some row)
    (isChild : row.parentCidr = prefixString p) : (Ipam.forest store).reserved p c :=
  sound.forest.child ((parent_eq_iff sound).mpr ⟨row, found, isChild⟩)

theorem Sound.congr {other : IpPrefix → IpPrefix → Prop} (same : ∀ p c, other p c ↔ pending p c) :
    Sound other store := by
  have equal : other = pending := by
    funext p c
    exact propext (same p c)
  rwa [equal]

end

theorem sound_empty : Sound (fun _ _ => False) (∅ : Store τ) := by
  have noReservation {p c : IpPrefix} : ¬(forest (∅ : Store τ)).reserved p c := by
    rintro ⟨row, found, -⟩
    cases found
  have noRow {p : IpPrefix} : (forest (∅ : Store τ)).parent p = none := rfl
  have noneStored {p : IpPrefix} : ¬(forest (∅ : Store τ)).Stored p := fun stored => stored noRow
  refine ⟨nofun, ?_⟩
  constructor
  case child | roots => simp [noRow]
  case covered => exact fun stored => absurd stored noneStored
  case pendingReserved | pendingClear => exact False.elim
  all_goals exact fun reserved => absurd reserved noReservation

/-! ## The forest of a written store -/

theorem forest_insert (store : Store τ) (p : IpPrefix) (row : PrefixRow τ) :
    forest (store.insert (prefixString p) row) =
      { parent := Function.update (forest store).parent p (some (parseMasked row.parentCidr))
        reserved := fun q d =>
          if q = p then row.availableChildPrefixes.lookup (prefixString d) = some false
          else (forest store).reserved q d } := by
  ext q d <;> obtain rfl | ne := eq_or_ne q p
  · simp [forest]
  · simp [forest, ne, lookup_insert_of_ne _ (prefixString_injective.ne ne)]
  · simp [forest]
  · simp [forest, ne, lookup_insert_of_ne _ (prefixString_injective.ne ne)]

theorem forest_erase (store : Store τ) (p : IpPrefix) :
    forest (store.erase (prefixString p)) = (forest store).remove p := by
  ext q d <;> obtain rfl | ne := eq_or_ne q p
  · simp [forest, remove]
  · simp [forest, remove, ne, lookup_erase_ne (prefixString_injective.ne ne)]
  · simp [forest, remove]
  · simp [forest, remove, ne, lookup_erase_ne (prefixString_injective.ne ne)]

section

variable (found : store.lookup (prefixString p) = some row)
include found

theorem forest_overwrite {new : PrefixRow τ} (sameParent : new.parentCidr = row.parentCidr)
    {reserved : IpPrefix → IpPrefix → Prop}
    (here : ∀ d, new.availableChildPrefixes.lookup (prefixString d) = some false ↔ reserved p d)
    (elsewhere : ∀ q ≠ p, ∀ d, (forest store).reserved q d ↔ reserved q d) :
    forest (store.insert (prefixString p) new) = ⟨(forest store).parent, reserved⟩ := by
  rw [forest_insert, sameParent]
  congr 1
  · refine Function.update_eq_self_iff.mpr ?_
    simp only [forest, found, map_some]
  · ext q d
    split
    next same => exact same ▸ here d
    next ne => exact elsewhere q ne d

theorem forest_acquireChild :
    forest (store.insert (prefixString p) (row.acquireChild (prefixString c)).nextVersion) =
      (forest store).reserve p c := by
  refine forest_overwrite found (by rfl) (fun d => ?_) fun q ne d => (by simp [ne])
  obtain rfl | other := eq_or_ne d c
  · simp [acquireChild, nextVersion]
  · simp [acquireChild, nextVersion, forest, found, other,
      lookup_insert_of_ne _ (prefixString_injective.ne other)]

theorem forest_releaseChild :
    forest (store.insert (prefixString p) (row.releaseChild (prefixString c)).nextVersion) =
      (forest store).withdraw p c := by
  refine forest_overwrite found (by rfl) (fun d => ?_) fun q ne d => (by simp [ne])
  obtain rfl | other := eq_or_ne d c
  · simp [releaseChild, nextVersion]
  · simp [releaseChild, nextVersion, forest, found, other,
      lookup_insert_of_ne _ (prefixString_injective.ne other)]

end

theorem forest_create (absent : ¬(forest store).Stored c) {parent : Option IpPrefix}
    (sameParent : parseMasked row.parentCidr = parent) (empty : row.availableChildPrefixes = ∅) :
    forest (store.insert (prefixString c) row) = (forest store).store c parent := by
  rw [forest_insert, sameParent, empty]
  ext q d
  · rfl
  · obtain rfl | ne := eq_or_ne q c
    · have notFound : store.lookup (prefixString q) = none := by
        by_contra found
        exact absent (stored_forest.mpr (ne_none_iff_exists'.mp found))
      simp [Forest.store, forest, notFound]
    · simp [Forest.store, ne]

/-! ## Writes -/

variable (sound : Sound pending store)
include sound

theorem sound_insert {new : PrefixRow τ} (rowOk : RowOk p new)
    {pending : IpPrefix → IpPrefix → Prop}
    (forestSound : (forest (store.insert (prefixString p) new)).Sound Inside pending) :
    Sound pending (store.insert (prefixString p) new) := by
  refine ⟨fun {key row} found => ?_, forestSound⟩
  obtain rfl | ne := eq_or_ne key (prefixString p)
  · rw [lookup_insert] at found
    cases found
    exact ⟨p, rfl, rowOk⟩
  · rw [lookup_insert_of_ne _ ne] at found
    exact sound.rows found

theorem sound_erase {pending : IpPrefix → IpPrefix → Prop}
    (forestSound : (forest (store.erase (prefixString p))).Sound Inside pending) :
    Sound pending (store.erase (prefixString p)) := by
  refine ⟨fun {key row} found => ?_, forestSound⟩
  obtain rfl | ne := eq_or_ne key (prefixString p)
  · rw [lookup_erase] at found
    cases found
  · rw [lookup_erase_ne ne] at found
    exact sound.rows found

section Found

variable (found : store.lookup (prefixString p) = some row)
include found

theorem sound_acquireChild {childCidr : τ} (chosen : chooseChild row childCidr length = .ok c) :
    Sound (fun q d => pending q d ∨ q = p ∧ d = c)
      (store.insert (prefixString p) (row.acquireChild (prefixString c)).nextVersion) := by
  have rowOk := sound.rowOk found
  obtain ⟨below, ne, noIPs, free⟩ := chooseChild_spec rowOk chosen
  refine sound_insert sound (rowOk.acquireChild noIPs) ?_
  rw [forest_acquireChild found]
  refine sound.forest.reserve laminar_inside (stored_forest.mpr ⟨row, found⟩) below ne ?_
  exact fun d reserved => apart_iff.mpr (free d ((reserved_iff found).mp reserved))

theorem sound_releaseChild (isPending : pending p c) :
    Sound (fun q d => pending q d ∧ ¬(q = p ∧ d = c))
      (store.insert (prefixString p) (row.releaseChild (prefixString c)).nextVersion) := by
  refine sound_insert sound ((sound.rowOk found).releaseChild _) ?_
  rw [forest_releaseChild found]
  exact sound.forest.withdraw laminar_inside isPending

theorem sound_overwrite_ips {ips : Finset τ} (rowOk : RowOk p { row with ips }.nextVersion) :
    Sound pending (store.insert (prefixString p) { row with ips }.nextVersion) := by
  refine sound_insert sound rowOk ?_
  have same : forest (store.insert (prefixString p) { row with ips }.nextVersion) = forest store :=
    forest_overwrite found (by rfl) (fun d => (reserved_iff found).symm) fun _ _ _ => .rfl
  exact same ▸ sound.forest

end Found

section Delete

variable (found : store.lookup (prefixString c) = some row) (none : ¬0 < row.acquiredPrefixes)
include found none

omit sound in
theorem not_reserved_of_acquiredPrefixes (d : IpPrefix) : ¬(forest store).reserved c d := by
  rw [reserved_iff found]
  exact fun isTaken => none (card_pos.mpr ⟨_, mem_taken.mpr isTaken⟩)

theorem sound_deleteChild (isChild : row.parentCidr = prefixString p) :
    Sound (fun q d => pending q d ∨ q = p ∧ d = c) (store.erase (prefixString c)) := by
  refine sound_erase sound ?_
  rw [forest_erase]
  exact sound.forest.removeChild ((parent_eq_iff sound).mpr ⟨row, found, isChild⟩)
    (not_reserved_of_acquiredPrefixes found none)

theorem sound_deleteRoot (isRoot : row.parentCidr = empty) :
    Sound pending (store.erase (prefixString c)) := by
  refine sound_erase sound ?_
  rw [forest_erase]
  exact sound.forest.removeRoot ((parent_eq_iff sound).mpr ⟨row, found, isRoot⟩)
    (not_reserved_of_acquiredPrefixes found none)

end Delete

theorem sound_createChild (isPending : pending p c) (parsed : parseMasked parentCidr = some p)
    (created : newPrefixRow (prefixString c) parentCidr = .ok row) :
    (prefixString c : τ) ∉ store ∧ row.cidr = prefixString c ∧
      Sound (fun q d => pending q d ∧ ¬(q = p ∧ d = c)) (store.insert (prefixString c) row) := by
  obtain ⟨rowOk, noChildren, -, sameParent⟩ :=
    newPrefixRow_spec (parseMasked_prefixString c) created
  have absent : ¬(forest store).Stored c := fun stored =>
    sound.forest.pendingClear isPending stored (laminar_inside.refl c)
  refine ⟨fun member => absent ?_, rowOk.cidr, sound_insert sound rowOk ?_⟩
  · exact stored_forest.mpr (lookup_isSome_of_member member)
  · rw [forest_create absent (sameParent.trans parsed) noChildren]
    exact sound.forest.storeChild laminar_inside isPending

theorem sound_createRoot (apart : ∀ q, (forest store).Stored q → ¬Overlaps q c) {cidr : τ}
    (parsed : parseMasked cidr = some c) (created : newPrefixRow cidr empty = .ok row) :
    row.cidr = prefixString c ∧ Sound pending (store.insert (prefixString c) row) := by
  obtain ⟨rowOk, noChildren, -, sameParent⟩ := newPrefixRow_spec parsed created
  have absent : ¬(forest store).Stored c := fun stored =>
    apart c stored (overlaps_iff.mpr (.inl (laminar_inside.refl c)))
  refine ⟨rowOk.cidr, sound_insert sound rowOk ?_⟩
  rw [forest_create absent (sameParent.trans parseMasked_empty) noChildren]
  exact sound.forest.storeRoot laminar_inside fun q stored => (apart_iff.mpr (apart q stored)).symm

end Sound

end Ipam
