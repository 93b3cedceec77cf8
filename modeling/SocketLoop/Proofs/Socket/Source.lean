import SocketLoop.Proofs.Kernel.Buffer
import SocketLoop.Proofs.Socket.PacketInfo

/-!
# Sending from a local address

A send that asks for a source address passes a control area along with its data. What such an area
is for is said here by what the reader's walk finds in it, and not by how it is written: one message
that fills the area, packet information of the family of the source, with the source at its place
and zeros around it (`AsksForSource`). Reader and writer look at the same field of an IPv6
structure. Of an IPv4 structure they do not: the destination stands behind the source.

* `passSource?_eq`: a program that fills in a buffer and passes as much of it as is used comes to
  the same as `sourceArea`, and touches nothing outside the buffer.
* `asksForSource_sourceArea`: the area for a source asks for it.
* `AsksForSource.unique`: an area asks for one source only.
* **`Socket.asksForSource_of_packetInfo`**: what a send passes asks for the source it was given.
-/

namespace SocketLoop

/-! ## The message that asks for a source -/

namespace AddressFamily

/-- Level and kind of packet information of a family. -/
def infoKind : AddressFamily → UInt32 × UInt32
  | ipv4 => ipv4InfoKind
  | ipv6 => ipv6InfoKind

/-- Where the source stands in the structure of a family: behind the interface for IPv4, and in
front of it for IPv6. -/
def sourcePlace : AddressFamily → Nat
  | ipv4 => 4
  | ipv6 => 0

/-- The number of octets in an address of a family. -/
def addressLength : AddressFamily → Nat
  | ipv4 => 4
  | ipv6 => 16

/-- Level and kind tell the family. -/
theorem infoKind_inj {family family' : AddressFamily} (h : family.infoKind = family'.infoKind) :
    family = family' := by
  cases family with
  | ipv4 =>
    cases family' with
    | ipv4 => rfl
    | ipv6 => exact absurd h (by decide)
  | ipv6 =>
    cases family' with
    | ipv4 => exact absurd h (by decide)
    | ipv6 => rfl

end AddressFamily

/-- The octets of an address in their order; the invalid address has none. -/
def IpAddress.octets : IpAddress → List UInt8
  | invalid => []
  | v4 ip => ip.octets
  | v6 ip => ip.octets

/-- A message is packet information of a family that holds a source and nothing else. -/
structure ControlMessage.HoldsSource (message : ControlMessage) (family : AddressFamily)
    (source : IpAddress) : Prop where
  ofFamily : source.family? = some family
  kind : (message.level, message.kind) = family.infoKind
  length : infoLength? family.infoKind = some message.payload.length
  payload : message.payload =
    List.replicate family.sourcePlace 0 ++ (source.octets ++ List.replicate 4 0)

variable {source other : IpAddress} {family : AddressFamily} {message : ControlMessage}
  {area : List UInt8}

/-- The invalid address is the one without a family. -/
theorem IpAddress.family?_eq_none_iff : source.family? = none ↔ source = .invalid := by
  cases source with
  | invalid => exact iff_of_true rfl rfl
  | v4 ip => exact iff_of_false nofun nofun
  | v6 ip => exact iff_of_false nofun nofun

/-- An address has as many octets as its family says. -/
theorem IpAddress.length_octets (h : source.family? = some family) :
    source.octets.length = family.addressLength := by
  cases source with
  | invalid => exact absurd h nofun
  | v4 ip =>
    obtain rfl := Option.some.inj h
    rfl
  | v6 ip =>
    obtain rfl := Option.some.inj h
    rfl

/-- Addresses of a family differ in their octets. -/
theorem IpAddress.eq_of_octets (hfamily : source.family? = other.family?)
    (hoctets : source.octets = other.octets) : source = other := by
  cases source with
  | invalid => exact (IpAddress.family?_eq_none_iff.1 hfamily.symm).symm
  | v4 ip =>
    cases other with
    | invalid => exact absurd hfamily nofun
    | v4 ip' =>
      obtain ⟨a, b, c, d⟩ := ip
      obtain ⟨a', b', c', d'⟩ := ip'
      cases hoctets
      rfl
    | v6 ip' => exact absurd hfamily nofun
  | v6 ip =>
    cases other with
    | invalid => exact absurd hfamily nofun
    | v4 ip' => exact absurd hfamily nofun
    | v6 ip' =>
      have hoctets : ip.octets = ip'.octets := hoctets
      have hread := IPv6.ofOctets_octets ip
      rw [hoctets, IPv6.ofOctets_octets ip'] at hread
      rw [hread]

/-- For every other address there is a message that holds it. -/
theorem exists_sourceMessage? (h : source.family? = some family) :
    ∃ message, sourceMessage? source = some message ∧ message.HoldsSource family source := by
  cases source with
  | invalid => exact absurd h nofun
  | v4 ip =>
    obtain rfl := Option.some.inj h
    exact ⟨_, rfl, rfl, rfl, rfl, List.append_assoc _ _ _⟩
  | v6 ip =>
    obtain rfl := Option.some.inj h
    exact ⟨_, rfl, rfl, rfl, rfl, rfl⟩

namespace ControlMessage.HoldsSource

/-- The payload is a structure of twelve or of twenty bytes. -/
theorem length_payload_le (h : message.HoldsSource family source) :
    message.payload.length ≤ 20 := by
  have hlength := h.length
  cases family with
  | ipv4 =>
    have htwelve := Option.some.inj hlength
    omega
  | ipv6 =>
    have htwenty := Option.some.inj hlength
    omega

/-- Its length fits into its field. -/
theorem fits (h : message.HoldsSource family source) : message.Fits := by
  have hle := h.length_payload_le
  unfold Fits headerLength
  omega

/-- It fits into the buffer. -/
theorem space_le (h : message.HoldsSource family source) : message.space ≤ controlRoom := by
  have hle := h.length_payload_le
  unfold space alignEight headerLength controlRoom
  omega

/-- It holds the whole structure. -/
theorem isWhole (h : message.HoldsSource family source) : message.IsWhole := by
  intro length hlength
  rw [h.kind, h.length] at hlength
  exact Nat.le_of_eq (Option.some.inj hlength).symm

end ControlMessage.HoldsSource

/-! ## Passing an area -/

/-- The structure of packet information that asks for an IPv4 source: the interface, the source and
the destination, each a number of the machine. The number of the source has its octets in the order
in which they lie in memory. -/
def ipv4Info (ip : IPv4) : List UInt8 :=
  littleEndian 4 0 ++ (littleEndian 4 (ofLittleEndian ip.octets) ++ littleEndian 4 0)

/-- The structure of packet information that asks for an IPv6 source: the source, which is an array
of its octets, and the interface. -/
def ipv6Info (ip : IPv6) : List UInt8 :=
  ip.octets ++ littleEndian 4 0

/-- Stores the message that asks for a source. Nothing is stored for the invalid address. -/
def storeSource? (memory : Memory) : IpAddress → Option (Memory × Nat)
  | .invalid => some (memory, 0)
  | .v4 ip => storeMessage? memory ⟨ipv4InfoKind.1, ipv4InfoKind.2, ipv4Info ip⟩
  | .v6 ip => storeMessage? memory ⟨ipv6InfoKind.1, ipv6InfoKind.2, ipv6Info ip⟩

/-- What a send passes for a source: the used bytes of a buffer of zeros. If none are used there is
no area. -/
def passSource? (source : IpAddress) : Option (Option (List UInt8)) := do
  let (memory, used) ← storeSource? (.ofArea (List.replicate controlRoom 0)) source
  if used = 0 then return none
  let area ← memory.load? 0 used
  return some area

/-- An IPv4 structure is the payload of the message that asks for its source. -/
theorem ipv4Info_eq (ip : IPv4) :
    ipv4Info ip = List.replicate 4 0 ++ ip.octets ++ List.replicate 4 0 := by
  have hoctets : littleEndian 4 (ofLittleEndian ip.octets) = ip.octets :=
    littleEndian_ofLittleEndian ip.octets
  unfold ipv4Info
  rw [hoctets, List.append_assoc]
  rfl

/-- What is stored is the message that asks for a source. -/
theorem storeSource?_eq (memory : Memory) (h : sourceMessage? source = some message) :
    storeSource? memory source = storeMessage? memory message := by
  cases source with
  | invalid => exact absurd h nofun
  | v4 ip =>
    obtain rfl := Option.some.inj h
    show storeMessage? memory ⟨_, _, ipv4Info ip⟩ = _
    rw [ipv4Info_eq]
  | v6 ip =>
    obtain rfl := Option.some.inj h
    rfl

/-- The area that asks for a source is written for its message. -/
theorem sourceArea_eq (h : sourceMessage? source = some message) :
    sourceArea source = message.encode := by
  unfold sourceArea
  rw [h, Option.elim_some]

/-- **What a program passes for a source is the area that asks for it**, and none for the invalid
address. All that it stores and loads is in the buffer. -/
theorem passSource?_eq (source : IpAddress) :
    passSource? source = some (if source = .invalid then none else some (sourceArea source)) := by
  cases hfamily : source.family? with
  | none =>
    obtain rfl := IpAddress.family?_eq_none_iff.1 hfamily
    rfl
  | some family =>
    obtain ⟨message, hmessage, hholds⟩ := exists_sourceMessage? hfamily
    obtain ⟨behind, hbehind⟩ := Nat.exists_eq_add_of_le hholds.space_le
    have hvalid : source ≠ .invalid := by
      rintro rfl
      exact absurd hfamily nofun
    have hused : message.space ≠ 0 := Nat.ne_of_gt message.space_pos
    have hinside : 0 + message.space ≤
        (message.encode ++ List.replicate behind (0 : UInt8)).length := by
      rw [List.length_append, message.length_encode]
      omega
    unfold passSource?
    rw [storeSource?_eq _ hmessage, sourceArea_eq hmessage, hbehind, storeMessage?_zeros,
      if_neg hvalid]
    simp only [Option.bind_eq_bind, Option.bind_some, if_neg hused,
      Memory.load?_ofArea _ 0 message.space hinside, List.drop_zero,
      List.take_left' message.length_encode, Option.pure_def]

/-! ## Asking for a source -/

/-- What the reader finds is packet information of a family that holds a source and nothing else. -/
structure FoundMessage.HoldsSource (found : FoundMessage) (family : AddressFamily)
    (source : IpAddress) : Prop where
  ofFamily : source.family? = some family
  kind : (found.level, found.kind) = family.infoKind
  /-- The header states the length of the structure. -/
  length : ∃ count, infoLength? family.infoKind = some count ∧
    found.length = ControlMessage.headerLength + count
  /-- The source is at its place. -/
  octets : (found.following.drop family.sourcePlace).take family.addressLength = source.octets
  /-- In front of it and behind it, up to the end of the area, there are zeros. -/
  zeros : ∀ i, i < family.sourcePlace ∨ family.sourcePlace + family.addressLength ≤ i →
    found.payloadByte i = 0

/-- A control area asks for a source. -/
structure AsksForSource (source : IpAddress) (area : List UInt8) : Prop where
  /-- There is no area if and only if there is no source. -/
  eq_nil_iff : area = [] ↔ source = .invalid
  /-- The area is no larger than the buffer. -/
  room : area.length ≤ controlRoom
  aligned : 8 ∣ area.length
  /-- The reader's walk finds one message. With its padding it fills the area, and it holds the
  source. -/
  holds : ∀ family, source.family? = some family → ∃ found, controlMessages area = [found] ∧
    alignEight found.length = area.length ∧ found.HoldsSource family source
  /-- Who reads the area stays in it. -/
  inside : scanDestination? (.ofArea area) area.length = some (destinationOf area)
  /-- The reader takes an IPv6 source for a destination. -/
  readBack : ∀ ip, source = .v6 ip → destinationOf area = .v6 ip
  /-- The destination of IPv4 is another field, which is left zero. -/
  unread : ∀ ip, source = .v4 ip → destinationOf area = .v4 ⟨0, 0, 0, 0⟩

/-- Around some bytes there are zeros. -/
theorem getD_between_zeros (bytes : List UInt8) (before behind : Nat) {i : Nat}
    (h : i < before ∨ before + bytes.length ≤ i) :
    (List.replicate before 0 ++ (bytes ++ List.replicate behind 0)).getD i 0 = 0 := by
  rcases h with hbefore | hbehind
  · rw [List.getD_append _ _ _ _ (by rwa [List.length_replicate])]
    exact List.getD_replicate _ hbefore
  · rw [List.getD_append_right _ _ _ _ (by rw [List.length_replicate]; omega),
      List.getD_append_right _ _ _ _ (by rw [List.length_replicate]; omega)]
    exact List.getElem?_getD_replicate_default_eq _ _ _

/-- What a message holds is found in the bytes that are written for it. -/
theorem ControlMessage.HoldsSource.found (h : message.HoldsSource family source) :
    ∃ found, controlMessages message.encode = [found] ∧
      alignEight found.length = message.encode.length ∧ found.HoldsSource family source := by
  have hfollowing : message.payload ++ message.padding = List.replicate family.sourcePlace 0 ++
      (source.octets ++ List.replicate
        (4 + (alignEight message.payload.length - message.payload.length)) 0) := by
    unfold ControlMessage.padding
    rw [h.payload, ← List.replicate_append_replicate]
    simp only [List.append_assoc]
  have hlength := IpAddress.length_octets h.ofFamily
  refine ⟨_, ControlMessage.controlMessages_encode h.fits, ?_, h.ofFamily, h.kind,
    ⟨_, h.length, rfl⟩, ?_, ?_⟩
  · rw [message.length_encode]
    exact alignEight_header _
  · show ((message.payload ++ message.padding).drop _).take _ = _
    rw [hfollowing, List.drop_left' List.length_replicate, List.take_left' hlength]
  · intro i hi
    show (message.payload ++ message.padding).getD i 0 = 0
    rw [← hlength] at hi
    rw [hfollowing]
    exact getD_between_zeros _ _ _ hi

namespace FoundMessage.HoldsSource

variable {found : FoundMessage} {family' : AddressFamily}

/-- The reader takes an IPv6 source for a destination. -/
theorem destination?_ipv6 {ip : IPv6} (h : found.HoldsSource .ipv6 (.v6 ip)) :
    found.destination? = some (.v6 ip) := by
  have hfront : found.following.take 16 = ip.octets := h.octets
  have hfollowing : found.following = ip.octets ++ found.following.drop 16 := by
    rw [← hfront, List.take_append_drop]
  have hread := IPv6.ofOctets_append ip (found.following.drop 16)
  rw [← hfollowing] at hread
  rw [destination?_of_ipv6 h.kind]
  unfold payloadByte
  rw [hread]

/-- What the reader takes for an IPv4 destination lies behind the source. -/
theorem destination?_ipv4 {ip : IPv4} (h : found.HoldsSource .ipv4 (.v4 ip)) :
    found.destination? = some (.v4 ⟨0, 0, 0, 0⟩) := by
  have hbehind (i : Nat) (hi : 8 ≤ i) : found.payloadByte i = 0 := h.zeros i (.inr hi)
  rw [destination?_of_ipv4 h.kind, hbehind 8 (by decide), hbehind 9 (by decide),
    hbehind 10 (by decide), hbehind 11 (by decide)]

/-- What is found holds one source only. -/
theorem unique (h : found.HoldsSource family source) (h' : found.HoldsSource family' other) :
    other = source := by
  obtain rfl := AddressFamily.infoKind_inj (h.kind.symm.trans h'.kind)
  exact IpAddress.eq_of_octets (h'.ofFamily.trans h.ofFamily.symm) (h'.octets.symm.trans h.octets)

end FoundMessage.HoldsSource

/-- **An area asks for one source only.** -/
theorem AsksForSource.unique (h : AsksForSource source area) (h' : AsksForSource other area) :
    other = source := by
  cases hsource : source.family? with
  | none =>
    have hinvalid := IpAddress.family?_eq_none_iff.1 hsource
    rw [hinvalid]
    exact h'.eq_nil_iff.1 (h.eq_nil_iff.2 hinvalid)
  | some family =>
    cases hother : other.family? with
    | none =>
      have hinvalid := IpAddress.family?_eq_none_iff.1 hother
      rw [hinvalid]
      exact (h.eq_nil_iff.1 (h'.eq_nil_iff.2 hinvalid)).symm
    | some family' =>
      obtain ⟨found, hfound, -, hholds⟩ := h.holds family hsource
      obtain ⟨found', hfound', -, hholds'⟩ := h'.holds family' hother
      obtain rfl := List.singleton_inj.1 (hfound.symm.trans hfound')
      exact hholds.unique hholds'

/-- Where one message is found, the destination is what this one tells. -/
theorem destinationOf_of_singleton {found : FoundMessage} (h : controlMessages area = [found]) :
    destinationOf area = found.destination?.getD .invalid := by
  unfold destinationOf
  rw [h]
  rfl

/-- The bytes of a message that holds a source ask for the source. -/
theorem ControlMessage.HoldsSource.asksForSource (h : message.HoldsSource family source) :
    AsksForSource source message.encode := by
  obtain ⟨found, hfound, hfills, hholds⟩ := h.found
  have hread := destinationOf_of_singleton hfound
  have hlength := message.length_encode
  have hlaid : LaidOut [message] message.encode := by
    rw [← List.flatMap_singleton ControlMessage.encode message]
    apply laidOut_encode
    intro other hother
    rw [List.mem_singleton.1 hother]
    exact h.fits
  have hwhole : ∀ other ∈ [message], other.IsWhole := by
    intro other hother
    rw [List.mem_singleton.1 hother]
    exact h.isWhole
  constructor
  · apply iff_of_false
    · intro hnil
      rw [hnil] at hlength
      exact absurd hlength (Nat.ne_of_lt message.space_pos)
    · rintro rfl
      exact absurd h.ofFamily nofun
  · exact hlength ▸ h.space_le
  · exact hlength ▸ message.eight_dvd_space
  · intro family' hfamily'
    obtain rfl := Option.some.inj (h.ofFamily.symm.trans hfamily')
    exact ⟨found, hfound, hfills, hholds⟩
  · exact scanDestination?_eq (hlaid.isInside hwhole)
  · rintro ip rfl
    obtain rfl := Option.some.inj h.ofFamily
    rw [hread, hholds.destination?_ipv6, Option.getD_some]
  · rintro ip rfl
    obtain rfl := Option.some.inj h.ofFamily
    rw [hread, hholds.destination?_ipv4, Option.getD_some]

/-- **The area for a source asks for it.** -/
theorem asksForSource_sourceArea (source : IpAddress) :
    AsksForSource source (sourceArea source) := by
  cases hfamily : source.family? with
  | none =>
    obtain rfl := IpAddress.family?_eq_none_iff.1 hfamily
    exact ⟨iff_of_true rfl rfl, Nat.zero_le _, Nat.dvd_zero 8, nofun, rfl, nofun, nofun⟩
  | some family =>
    obtain ⟨message, hmessage, hholds⟩ := exists_sourceMessage? hfamily
    rw [sourceArea_eq hmessage]
    exact hholds.asksForSource

/-! ## Sending from it -/

/-- **A send passes what asks for the source it was given**, if packet information is available: it
makes one call, and the control area of this call asks for the source and for no other. A program
that fills in a buffer passes the same area, and none for the invalid address. -/
theorem Socket.asksForSource_of_packetInfo {s : Socket} (hinfo : s.packetInfo = true)
    {remote : Address} {layout : NativeAddress} (hnative : remote.toNative = some layout)
    (kernel : Kernel) (data : List UInt8) (source : IpAddress) :
    Session.CallsOnce (.sendMessage s.fd data layout (sourceArea source) noSignalFlag) ⟨s, kernel⟩
        ((SocketM.sendToFrom data remote source).after ⟨s, kernel⟩) ∧
      passSource? source = some (if source = .invalid then none else some (sourceArea source)) ∧
      AsksForSource source (sourceArea source) ∧
      ∀ other, sourceArea other = sourceArea source → other = source := by
  have hcalls := (informed_of_packetInfo hinfo).sendCalls kernel data remote source layout hnative
  have hasks := asksForSource_sourceArea source
  refine ⟨hcalls.1, passSource?_eq source, hasks, ?_⟩
  intro other hsame
  have hother := asksForSource_sourceArea other
  rw [hsame] at hother
  exact hasks.unique hother

/-- A datagram socket with packet information. -/
def informedSocket : Socket where
  id := 1
  fd := 100
  token := 1
  family := .ipv4
  cls := .datagram
  config := .standard
  packetInfo := true
  lastError := none
  subscription := .initial
  connect := .idle
  receiveLimit := .unlimited
  receiveCount := 0

/-- The block of `127.0.0.1:53`. -/
def resolverBlock : NativeAddress :=
  .ofBytes [2, 0, 0, 53, 127, 0, 0, 1, 0, 0, 0, 0, 0, 0, 0, 0]

/-- The area that asks for `10.0.0.7`: a header that states 28 bytes, the interface, the source, an
empty destination, and four bytes of padding. -/
def privateSourceArea : List UInt8 :=
  [28, 0, 0, 0, 0, 0, 0, 0, 0, 0, 0, 0, 8, 0, 0, 0,
    0, 0, 0, 0, 10, 0, 0, 7, 0, 0, 0, 0, 0, 0, 0, 0]

/-- This area is passed, it asks for its source and for no other, and who reads it finds no
destination. -/
theorem asksForSource_when_informed :
    informedSocket.packetInfo = true ∧
      Address.toNative (.v4 ⟨127, 0, 0, 1⟩ 53) = some resolverBlock ∧
      Session.CallsOnce
        (.sendMessage 100 [1, 2, 3] resolverBlock privateSourceArea noSignalFlag)
        ⟨informedSocket, .initial⟩
        ((SocketM.sendToFrom [1, 2, 3] (.v4 ⟨127, 0, 0, 1⟩ 53) (.v4 ⟨10, 0, 0, 7⟩)).after
          ⟨informedSocket, .initial⟩) ∧
      passSource? (.v4 ⟨10, 0, 0, 7⟩) = some (some privateSourceArea) ∧
      AsksForSource (.v4 ⟨10, 0, 0, 7⟩) privateSourceArea ∧
      destinationOf privateSourceArea = .v4 ⟨0, 0, 0, 0⟩ ∧
      ∀ other, sourceArea other = privateSourceArea → other = .v4 ⟨10, 0, 0, 7⟩ := by
  have hinfo : informedSocket.packetInfo = true := rfl
  have hnative : Address.toNative (.v4 ⟨127, 0, 0, 1⟩ 53) = some resolverBlock := by decide
  have harea : sourceArea (.v4 ⟨10, 0, 0, 7⟩) = privateSourceArea := by decide
  obtain ⟨hcalls, hpasses, hasks, halone⟩ := Socket.asksForSource_of_packetInfo hinfo hnative
    .initial [1, 2, 3] (.v4 ⟨10, 0, 0, 7⟩)
  rw [harea] at hcalls hpasses hasks halone
  exact ⟨hinfo, hnative, hcalls, hpasses, hasks, hasks.unread _ rfl, halone⟩

end SocketLoop
