import SocketLoop.Kernel.Call

/-!
# Addresses and their blocks of bytes

A block belongs to a family if it has the number and the length of that family
(`NativeAddress.IsOf`). Some of its bytes have no place in an address; `NativeAddress.cleared` is
the block with exactly these set to zero.

* `Address.ofNative_of_toNative`: a block that was written is read back as its address.
* `NativeAddress.IsOf.exists_ofNative` and `Address.isOf_of_ofNative`: the blocks that can be read
  are those that belong to a family.
* `NativeAddress.IsOf.toNative`: a block that was read is written back with the bytes cleared that
  no address keeps, and with no other change.

Both directions meet in the bytes of a word: `wordOfBytes_wordBytes` serves the first, and
`wordBytes_wordOfBytes` the last.

**`Address.native_round_trip`** puts these together.
-/

namespace SocketLoop

/-! ## The bytes of IPv6 addresses -/

namespace IPv6

/-- An address is what its octets are read as, whatever follows them. -/
theorem ofOctets_append (ip : IPv6) (rest : List UInt8) :
    ofOctets (fun i => (ip.octets ++ rest).getD i 0) = ip := by
  obtain ⟨g0, g1, g2, g3, g4, g5, g6, g7⟩ := ip
  unfold ofOctets
  congr 1
  all_goals exact wordOfBytes_wordBytes _

/-- So it is where nothing follows. -/
theorem ofOctets_octets (ip : IPv6) : ofOctets (fun i => ip.octets.getD i 0) = ip := by
  have hread := ofOctets_append ip []
  rwa [List.append_nil] at hread

/-- The octets are those that an address was read from. -/
theorem octets_ofOctets (byte : Nat → UInt8) :
    (ofOctets byte).octets = (List.range 16).map byte := by
  unfold octets groups ofOctets
  simp only [List.flatMap_cons, List.flatMap_nil, wordBytes_wordOfBytes]
  rfl

end IPv6

/-! ## The blocks of a family -/

namespace AddressFamily

/-- The number of bytes in the blocks of a family. -/
def nativeLength : AddressFamily → Nat
  | ipv4 => ipv4NativeLength
  | ipv6 => ipv6NativeLength

/-- Which bytes of a block say nothing about the address: the padding of IPv4, the flow label and
the scope of IPv6. -/
def ignores : AddressFamily → Nat → Bool
  | ipv4, i => 8 ≤ i
  | ipv6, i => (4 ≤ i && i < 8) || 24 ≤ i

end AddressFamily

namespace NativeAddress

variable {native : NativeAddress} {family : AddressFamily} {addr : Address}

/-- A block with the number and the length of a family. -/
structure IsOf (native : NativeAddress) (family : AddressFamily) : Prop where
  number : native.family = family.number
  length : native.length = family.nativeLength

/-- The bytes of a block with those set to zero that its family ignores. -/
def cleared (family : AddressFamily) (native : NativeAddress) : NativeAddress :=
  .ofBytes ((List.range native.length).map fun i =>
    if family.ignores i then 0 else native.byteAt i)

/-- The first two bytes are the family number, low byte first. -/
theorem bytes_of_family {number : Nat} (hsmall : number < 256) (h : native.family = number) :
    native.byteAt 0 = UInt8.ofNat number ∧ native.byteAt 1 = 0 := by
  have hlow := (native.byteAt 0).toNat_lt
  unfold family at h
  constructor
  · apply UInt8.toNat_inj.1
    rw [UInt8.toNat_ofNat_of_lt' hsmall]
    omega
  · apply UInt8.toNat_inj.1
    show (native.byteAt 1).toNat = 0
    omega

/-- What is read from an IPv4 block. -/
theorem IsOf.ofNative_ipv4 (h : native.IsOf .ipv4) : Address.ofNative native =
    .ok (.v4 ⟨native.byteAt 4, native.byteAt 5, native.byteAt 6, native.byteAt 7⟩ native.port) := by
  have hnumber : native.family = ipv4FamilyNumber := h.number
  have hlength : native.length = ipv4NativeLength := h.length
  unfold Address.ofNative
  rw [if_pos hnumber, if_pos hlength]

/-- What is read from an IPv6 block. -/
theorem IsOf.ofNative_ipv6 (h : native.IsOf .ipv6) : Address.ofNative native =
    .ok (.v6 (IPv6.ofOctets fun i => native.byteAt (8 + i)) native.port) := by
  have hnumber : native.family = ipv6FamilyNumber := h.number
  have hlength : native.length = ipv6NativeLength := h.length
  have hother : native.family ≠ ipv4FamilyNumber := by
    rw [hnumber]
    decide
  unfold Address.ofNative
  rw [if_neg hother, if_pos hnumber, if_pos hlength]

/-- A block of a family can be read. -/
theorem IsOf.exists_ofNative (h : native.IsOf family) :
    ∃ addr, Address.ofNative native = .ok addr := by
  cases family with
  | ipv4 => exact ⟨_, h.ofNative_ipv4⟩
  | ipv6 => exact ⟨_, h.ofNative_ipv6⟩

/-- **What was read is written back** with the bytes cleared that the family ignores. -/
theorem IsOf.toNative (h : native.IsOf family) (hread : Address.ofNative native = .ok addr) :
    addr.toNative = some (native.cleared family) := by
  have hlength := h.length
  obtain ⟨hlow, hhigh⟩ := bytes_of_family (by cases family <;> decide) h.number
  cases family with
  | ipv4 =>
    rw [← Except.ok.inj (h.ofNative_ipv4.symm.trans hread)]
    unfold Address.toNative cleared
    dsimp only
    rw [hlength, port, wordBytes_wordOfBytes]
    show _ = some (ofBytes [native.byteAt 0, native.byteAt 1, native.byteAt 2, native.byteAt 3,
      native.byteAt 4, native.byteAt 5, native.byteAt 6, native.byteAt 7, 0, 0, 0, 0, 0, 0, 0, 0])
    rw [hlow, hhigh]
    rfl
  | ipv6 =>
    rw [← Except.ok.inj (h.ofNative_ipv6.symm.trans hread)]
    unfold Address.toNative cleared
    dsimp only
    rw [hlength, port, wordBytes_wordOfBytes, IPv6.octets_ofOctets]
    show _ = some (ofBytes ([native.byteAt 0, native.byteAt 1, native.byteAt 2, native.byteAt 3] ++
      List.replicate 4 0 ++ (List.range 16).map (fun i => native.byteAt (8 + i)) ++
        List.replicate 4 0))
    rw [hlow, hhigh]
    rfl

end NativeAddress

namespace Address

variable {native : NativeAddress} {addr : Address}

/-- A block that can be read belongs to a family. -/
theorem isOf_of_ofNative (h : ofNative native = .ok addr) : ∃ family, native.IsOf family := by
  unfold ofNative at h
  by_cases hv4 : native.family = ipv4FamilyNumber
  · rw [if_pos hv4] at h
    by_cases hlength : native.length = ipv4NativeLength
    · exact ⟨.ipv4, hv4, hlength⟩
    · rw [if_neg hlength] at h
      simp at h
  rw [if_neg hv4] at h
  by_cases hv6 : native.family = ipv6FamilyNumber
  · rw [if_pos hv6] at h
    by_cases hlength : native.length = ipv6NativeLength
    · exact ⟨.ipv6, hv6, hlength⟩
    · rw [if_neg hlength] at h
      simp at h
  · rw [if_neg hv6] at h
    simp at h

/-- **What was written is read back.** -/
theorem ofNative_of_toNative (h : addr.toNative = some native) : ofNative native = .ok addr := by
  cases addr with
  | none => simp [toNative] at h
  | v4 ip port =>
    obtain rfl := Option.some.inj h
    exact congrArg (fun read => Except.ok (Address.v4 ip read)) (wordOfBytes_wordBytes port)
  | v6 ip port =>
    obtain rfl := Option.some.inj h
    show Except.ok (Address.v6 (IPv6.ofOctets fun i => ip.octets.getD i 0) _) = _
    rw [IPv6.ofOctets_octets]
    exact congrArg (fun read => Except.ok (Address.v6 ip read)) (wordOfBytes_wordBytes port)

/-- **The two translations** between addresses and blocks. Every address but the absent one has a
block, and that is read as this address. A block is read if and only if it has the number and the
length of a family; every other block is refused. What was read from a block is written as the same
block with the bytes cleared that its family ignores. -/
theorem native_round_trip :
    (∀ addr : Address, addr ≠ .none →
      ∃ native, addr.toNative = some native ∧ ofNative native = .ok addr) ∧
    ∀ native : NativeAddress,
      ((∃ addr, ofNative native = .ok addr) ↔ ∃ family, native.IsOf family) ∧
      ((¬∃ family, native.IsOf family) ↔ ∃ fault, ofNative native = .error fault) ∧
      ∀ addr family, ofNative native = .ok addr → native.IsOf family →
        addr.toNative = some (native.cleared family) := by
  refine ⟨fun addr hne => ?_, fun native => ⟨⟨?_, ?_⟩, ?_, ?_⟩⟩
  · have hsome : ∃ native, addr.toNative = some native := by
      cases addr with
      | none => exact absurd rfl hne
      | v4 ip port => exact ⟨_, rfl⟩
      | v6 ip port => exact ⟨_, rfl⟩
    obtain ⟨native, hnative⟩ := hsome
    exact ⟨native, hnative, ofNative_of_toNative hnative⟩
  · rintro ⟨addr, hread⟩
    exact isOf_of_ofNative hread
  · rintro ⟨family, hfamily⟩
    exact hfamily.exists_ofNative
  · cases hread : ofNative native with
    | error fault =>
      refine ⟨fun _ => ⟨fault, rfl⟩, fun _ hfamily => ?_⟩
      obtain ⟨family, hfamily⟩ := hfamily
      obtain ⟨addr, haddr⟩ := hfamily.exists_ofNative
      rw [hread] at haddr
      simp at haddr
    | ok addr =>
      refine ⟨fun hno => absurd (isOf_of_ofNative hread) hno, fun hfault => ?_⟩
      obtain ⟨fault, hfault⟩ := hfault
      simp at hfault
  · intro addr family hread hfamily
    exact hfamily.toNative hread

/-- The block of `[fe80::1%4]:8080`, with a flow label. -/
def linkLocalBlock : NativeAddress :=
  .ofBytes [10, 0, 0x1f, 0x90, 9, 0, 0, 0, 0xfe, 0x80, 0, 0, 0, 0, 0, 0, 0, 0, 0, 0, 0, 0, 0, 1,
    4, 0, 0, 0]

/-- The flow label and the scope of this block are lost, and nothing else. -/
theorem native_round_trip_linkLocal :
    ∃ addr, ofNative linkLocalBlock = .ok addr ∧ addr ≠ .none ∧
      addr.toNative = some (linkLocalBlock.cleared .ipv6) ∧
      (∃ native, addr.toNative = some native ∧ ofNative native = .ok addr) ∧
      linkLocalBlock.cleared .ipv6 ≠ linkLocalBlock := by
  have hof : linkLocalBlock.IsOf .ipv6 := ⟨by decide, by decide⟩
  obtain ⟨addr, hread⟩ := (native_round_trip.2 linkLocalBlock).1.2 ⟨.ipv6, hof⟩
  have hwritten := (native_round_trip.2 linkLocalBlock).2.2 addr .ipv6 hread hof
  have hne : addr ≠ .none := by
    rintro rfl
    simp [toNative] at hwritten
  exact ⟨addr, hread, hne, hwritten, native_round_trip.1 addr hne, by decide⟩

end Address

end SocketLoop
