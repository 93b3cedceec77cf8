import Mathlib.Data.List.GetD
import SocketLoop.Proofs.Kernel.Layout

/-!
# The destination in a control area

Some of the messages in an area are packet information, and the last of these tells the destination
of the datagram.

`destinationOf` reads the bytes of the area from a list, and beyond the end of the list it would
find zeros. Whether it ever looks there is a question that the list cannot answer. So there is a
second reader here, `scanDestination?`, that goes by addresses: it knows the size of the area, loads
what it needs from memory, and comes to nothing as soon as it loads a byte that may not be read. It
loads what a program loads that follows the headers: the length of a message and that of the next
one, the level and the kind, and of packet information the whole structure.

* `ControlMessage.Tells`: what it is for a message to tell a destination.
* `LaidOut.destinationOf_eq`: the destination is what the last telling message says.
* `scanDestination?_eq`: if every structure lies in the area, the second reader comes to the same as
  the first one, with nothing but the area in memory. The headers never lead out of an area,
  whatever it holds.
* **`destinationOf_of_laidOut`** puts these together.
-/

namespace SocketLoop

/-! ## Telling a destination -/

/-- The number of bytes in the structure of packet information, by level and kind: three fields of
four bytes for IPv4, an address and a field of four bytes for IPv6. -/
def infoLength? (levelAndKind : UInt32 × UInt32) : Option Nat :=
  if levelAndKind = ipv4InfoKind then some 12
  else if levelAndKind = ipv6InfoKind then some 20
  else none

/-- Packet information is of one of two families. -/
theorem infoLength?_cases (levelAndKind : UInt32 × UInt32) :
    (levelAndKind = ipv4InfoKind ∧ infoLength? levelAndKind = some 12) ∨
      (levelAndKind = ipv6InfoKind ∧ infoLength? levelAndKind = some 20) ∨
      (levelAndKind ≠ ipv4InfoKind ∧ levelAndKind ≠ ipv6InfoKind ∧
        infoLength? levelAndKind = none) := by
  by_cases hipv4 : levelAndKind = ipv4InfoKind
  · exact .inl ⟨hipv4, if_pos hipv4⟩
  by_cases hipv6 : levelAndKind = ipv6InfoKind
  · exact .inr (.inl ⟨hipv6, (if_neg hipv4).trans (if_pos hipv6)⟩)
  · exact .inr (.inr ⟨hipv4, hipv6, (if_neg hipv4).trans (if_neg hipv6)⟩)

namespace ControlMessage

/-- A message is packet information. -/
def IsInfo (message : ControlMessage) : Prop :=
  (infoLength? (message.level, message.kind)).isSome = true

instance (message : ControlMessage) : Decidable message.IsInfo :=
  inferInstanceAs (Decidable (_ = true))

/-- If a message is packet information, its payload holds the whole structure. -/
def IsWhole (message : ControlMessage) : Prop :=
  ∀ length ∈ infoLength? (message.level, message.kind), length ≤ message.payload.length

instance (message : ControlMessage) : Decidable message.IsWhole :=
  inferInstanceAs (Decidable (∀ length ∈ infoLength? _, _))

/-- A message tells a destination. For IPv4 it stands behind the interface and the source, and for
IPv6 it stands in front. -/
inductive Tells (message : ControlMessage) : IpAddress → Prop
  | ipv4 {front rest : List UInt8} {ip : IPv4}
      (isKind : (message.level, message.kind) = ipv4InfoKind) (skipped : front.length = 8)
      (payload : message.payload = front ++ (ip.octets ++ rest)) : Tells message (.v4 ip)
  | ipv6 {rest : List UInt8} {ip : IPv6} (isKind : (message.level, message.kind) = ipv6InfoKind)
      (payload : message.payload = ip.octets ++ rest) : Tells message (.v6 ip)

/-- What the reader takes a message to tell if nothing follows it. -/
def destination? (message : ControlMessage) : Option IpAddress :=
  FoundMessage.destination? ⟨headerLength + message.payload.length, message.level, message.kind,
    message.payload⟩

end ControlMessage

namespace FoundMessage

variable {found : FoundMessage} {message : ControlMessage}

/-- The destination that is read from an IPv4 structure. -/
theorem destination?_of_ipv4 (h : (found.level, found.kind) = ipv4InfoKind) :
    found.destination? = some (.v4 ⟨found.payloadByte 8, found.payloadByte 9,
      found.payloadByte 10, found.payloadByte 11⟩) := by
  unfold destination?
  exact if_pos h

/-- The destination that is read from an IPv6 structure. -/
theorem destination?_of_ipv6 (h : (found.level, found.kind) = ipv6InfoKind) :
    found.destination? = some (.v6 (IPv6.ofOctets found.payloadByte)) := by
  have hother : (found.level, found.kind) ≠ ipv4InfoKind := by
    rw [h]
    decide
  unfold destination?
  exact (if_neg hother).trans (if_pos h)

/-- Nothing is read from other messages. -/
theorem destination?_eq_none (h : infoLength? (found.level, found.kind) = none) :
    found.destination? = none := by
  obtain ⟨-, hlength⟩ | ⟨-, hlength⟩ | ⟨hipv4, hipv6, -⟩ :=
    infoLength?_cases (found.level, found.kind)
  · exact absurd (h.symm.trans hlength) nofun
  · exact absurd (h.symm.trans hlength) nofun
  · unfold destination?
    exact (if_neg hipv4).trans (if_neg hipv6)

/-- The bytes of a payload are found where they are. -/
theorem Of.payloadByte (h : found.Of message) {i : Nat} (hi : i < message.payload.length) :
    found.payloadByte i = message.payload.getD i 0 := by
  obtain ⟨rest, hrest⟩ := h.payload
  unfold FoundMessage.payloadByte
  rw [← hrest]
  exact List.getD_append _ _ _ _ hi

/-- **What follows a message has no influence** on what the reader takes it to tell. -/
theorem Of.destination?_eq (h : found.Of message) (hwhole : message.IsWhole) :
    found.destination? = message.destination? := by
  have hkinds : (found.level, found.kind) = (message.level, message.kind) := by
    rw [h.level, h.kind]
  obtain ⟨hipv4, hlength⟩ | ⟨hipv6, hlength⟩ | ⟨-, -, hnone⟩ :=
    infoLength?_cases (message.level, message.kind)
  · have hroom := hwhole 12 hlength
    unfold ControlMessage.destination?
    rw [destination?_of_ipv4 (hkinds.trans hipv4), destination?_of_ipv4 hipv4,
      h.payloadByte (by omega), h.payloadByte (by omega), h.payloadByte (by omega),
      h.payloadByte (by omega)]
    rfl
  · have hroom := hwhole 20 hlength
    have hbyte (i : Nat) (hi : i < 16) :
        found.payloadByte i = message.payload.getD i 0 := h.payloadByte (by omega)
    unfold ControlMessage.destination?
    rw [destination?_of_ipv6 (hkinds.trans hipv6), destination?_of_ipv6 hipv6]
    unfold IPv6.ofOctets
    simp only [hbyte, Nat.reduceLT]
    rfl
  · have hnone' := hnone
    rw [← hkinds] at hnone'
    unfold ControlMessage.destination?
    rw [destination?_eq_none hnone', destination?_eq_none hnone]

end FoundMessage

namespace ControlMessage

variable {message : ControlMessage} {ip : IpAddress}

/-- Bytes that are taken one by one are a piece of all bytes. -/
theorem map_getD_range (bytes : List UInt8) (start count : Nat)
    (hroom : start + count ≤ bytes.length) :
    (List.range count).map (fun i => bytes.getD (start + i) 0) = (bytes.drop start).take count := by
  apply List.ext_getElem
  · rw [List.length_map, List.length_range, List.length_take, List.length_drop]
    omega
  · intro i hi _
    rw [List.length_map, List.length_range] at hi
    have hinside : start + i < bytes.length := by omega
    rw [List.getElem_map, List.getElem_range, List.getElem_take, List.getElem_drop,
      List.getD_eq_getElem _ _ hinside]

/-- **A message of packet information tells** what the reader takes it to tell. -/
theorem exists_tells (hinfo : message.IsInfo) (hwhole : message.IsWhole) :
    ∃ ip, message.destination? = some ip ∧ message.Tells ip := by
  obtain ⟨hipv4, hlength⟩ | ⟨hipv6, hlength⟩ | ⟨-, -, hnone⟩ :=
    infoLength?_cases (message.level, message.kind)
  · have hroom := hwhole 12 hlength
    have hfront : (message.payload.take 8).length = 8 := by
      rw [List.length_take]
      omega
    have hpayload : message.payload = message.payload.take 8 ++
        ((List.range 4).map (fun i => message.payload.getD (8 + i) 0) ++
          message.payload.drop 12) := by
      have hrest := List.take_append_drop 4 (message.payload.drop 8)
      rw [List.drop_drop] at hrest
      rw [map_getD_range _ 8 4 hroom, hrest, List.take_append_drop]
    exact ⟨_, FoundMessage.destination?_of_ipv4 hipv4, .ipv4 hipv4 hfront hpayload⟩
  · have hroom := hwhole 20 hlength
    have hpayload : message.payload =
        (IPv6.ofOctets fun i => message.payload.getD i 0).octets ++ message.payload.drop 16 := by
      have hoctets := map_getD_range message.payload 0 16 (by omega)
      simp only [Nat.zero_add, List.drop_zero] at hoctets
      rw [IPv6.octets_ofOctets, hoctets, List.take_append_drop]
    exact ⟨_, FoundMessage.destination?_of_ipv6 hipv6, .ipv6 hipv6 hpayload⟩
  · unfold IsInfo at hinfo
    rw [hnone] at hinfo
    exact absurd hinfo Bool.false_ne_true

/-- No destination that is told is the invalid one. -/
theorem Tells.ne_invalid (h : message.Tells ip) : ip ≠ .invalid := by
  cases h with
  | ipv4 isKind skipped payload => nofun
  | ipv6 isKind payload => nofun

/-- The reader takes only packet information to tell something. -/
theorem destination?_eq_none_iff (hwhole : message.IsWhole) :
    message.destination? = none ↔ ¬message.IsInfo := by
  constructor
  · intro hnone hinfo
    obtain ⟨ip, hsome, -⟩ := exists_tells hinfo hwhole
    rw [hnone] at hsome
    simp at hsome
  · intro hother
    exact FoundMessage.destination?_eq_none (Option.not_isSome_iff_eq_none.1 hother)

end ControlMessage

/-! ## The last destination that is told -/

/-- Of all that is told the last counts. -/
theorem foldl_getD_eq {α β : Type} (told? : α → Option β) (found : List α) (start : β) :
    found.foldl (fun sofar next => (told? next).getD sofar) start =
      (found.filterMap told?).getLast?.getD start := by
  induction found generalizing start with
  | nil => rfl
  | cons next later ih =>
    rw [List.foldl_cons, ih]
    cases htold : told? next with
    | none => rw [List.filterMap_cons_none htold, Option.getD_none]
    | some told =>
      rw [List.filterMap_cons_some htold, List.getLast?_cons, Option.getD_some, Option.getD_some]

/-- **The destination is what the last telling message says.** -/
theorem LaidOut.destinationOf_eq {messages : List ControlMessage} {area : List UInt8}
    (h : LaidOut messages area) (hwhole : ∀ message ∈ messages, message.IsWhole) :
    destinationOf area =
      (messages.filterMap ControlMessage.destination?).getLast?.getD .invalid := by
  have hfound := h.found
  have hsame : (controlMessages area).filterMap FoundMessage.destination? =
      messages.filterMap ControlMessage.destination? := by
    generalize controlMessages area = found at hfound
    clear h
    induction hfound with
    | nil => rfl
    | @cons next message found messages hof _ ih =>
      have hnext := hof.destination?_eq (hwhole message List.mem_cons_self)
      have hlater := ih fun other hother => hwhole other (List.mem_cons_of_mem _ hother)
      rw [List.filterMap_cons, List.filterMap_cons, hnext, hlater]
  unfold destinationOf
  rw [foldl_getD_eq, hsame]

/-! ## Reading from memory -/

/-- Memory, of which some bytes may be read. -/
abbrev Memory := Nat → Option UInt8

namespace Memory

/-- Loads some bytes from an address on; nothing if one of them may not be read. -/
def load? (memory : Memory) (address : Nat) : Nat → Option (List UInt8)
  | 0 => some []
  | count + 1 => do
    let byte ← memory address
    let bytes ← memory.load? (address + 1) count
    return byte :: bytes

/-- Loads a number, low byte first. -/
def loadNumber? (memory : Memory) (address width : Nat) : Option Nat :=
  (memory.load? address width).map ofLittleEndian

/-- The memory of which an area can be read, and nothing else. -/
def ofArea (area : List UInt8) : Memory :=
  fun address => area[address]?

/-- The bytes of an area are loaded as they are. -/
theorem load?_ofArea (area : List UInt8) (address count : Nat)
    (hinside : address + count ≤ area.length) :
    (ofArea area).load? address count = some ((area.drop address).take count) := by
  induction count generalizing address with
  | zero => rfl
  | succ count ih =>
    have haddress : address < area.length := by omega
    have hlater := ih (address + 1) (by omega)
    unfold load?
    rw [hlater, List.drop_eq_getElem_cons haddress, List.take_succ_cons]
    unfold ofArea
    rw [List.getElem?_eq_getElem haddress]
    rfl

/-- The numbers in an area are loaded as they are. -/
theorem loadNumber?_ofArea (area : List UInt8) (address width : Nat)
    (hinside : address + width ≤ area.length) : (ofArea area).loadNumber? address width =
      some (ofLittleEndian ((area.drop address).take width)) := by
  unfold loadNumber?
  rw [load?_ofArea area address width hinside, Option.map_some]

end Memory

/-- The destination after the message whose header stands at an address, where `sofar` is the one
before it. -/
def scanMessage? (memory : Memory) (header : Nat) (sofar : IpAddress) : Option IpAddress := do
  let level ← memory.loadNumber? (header + 8) 4
  let kind ← memory.loadNumber? (header + 12) 4
  if (UInt32.ofNat level, UInt32.ofNat kind) = ipv4InfoKind then
    let info ← memory.load? (header + ControlMessage.headerLength) 12
    return .v4 ⟨info.getD 8 0, info.getD 9 0, info.getD 10 0, info.getD 11 0⟩
  else if (UInt32.ofNat level, UInt32.ofNat kind) = ipv6InfoKind then
    let info ← memory.load? (header + ControlMessage.headerLength) 20
    return .v6 (.ofOctets fun i => info.getD i 0)
  else return sofar

/-- The address of the header that follows the one at an address, if an area of this size has room
for it and its message. -/
def nextHeader? (memory : Memory) (size header : Nat) : Option (Option Nat) := do
  let length ← memory.loadNumber? header 8
  let next := header + alignEight length
  if length < ControlMessage.headerLength ∨ size < next + ControlMessage.headerLength then
    return none
  else
    let nextLength ← memory.loadNumber? next 8
    if size < next + alignEight nextLength then return none else return some next

/-- The next header stands further on. -/
theorem lt_of_nextHeader? {memory : Memory} {size header next : Nat}
    (h : nextHeader? memory size header = some (some next)) : header < next ∧ next ≤ size := by
  unfold nextHeader? at h
  obtain ⟨length, -, h⟩ := Option.bind_eq_some_iff.1 h
  have hle := le_alignEight length
  unfold ControlMessage.headerLength at h
  dsimp only at h
  split at h
  · simp at h
  · rename_i hroom
    obtain ⟨nextLength, -, h⟩ := Option.bind_eq_some_iff.1 h
    split at h
    · simp at h
    · obtain rfl := Option.some.inj (Option.some.inj h)
      omega

/-- The destination that the messages from a header on leave, where `sofar` is the one before
them. -/
def scanFrom? (memory : Memory) (size header : Nat) (sofar : IpAddress) : Option IpAddress :=
  match scanMessage? memory header sofar with
  | none => none
  | some told =>
    match _h : nextHeader? memory size header with
    | none => none
    | some none => some told
    | some (some next) => scanFrom? memory size next told
termination_by size - header
decreasing_by
  have hnext := lt_of_nextHeader? _h
  omega

/-- A message that no other one follows. -/
theorem scanFrom?_of_last {memory : Memory} {size header : Nat} {sofar told : IpAddress}
    (hmessage : scanMessage? memory header sofar = some told)
    (hnext : nextHeader? memory size header = some none) :
    scanFrom? memory size header sofar = some told := by
  rw [scanFrom?, hmessage]
  dsimp only
  split
  · rename_i hother
    exact absurd (hnext.symm.trans hother) nofun
  · rfl
  · rename_i hother
    exact absurd (hnext.symm.trans hother) nofun

/-- A message that another one follows. -/
theorem scanFrom?_of_next {memory : Memory} {size header next : Nat} {sofar told : IpAddress}
    (hmessage : scanMessage? memory header sofar = some told)
    (hnext : nextHeader? memory size header = some (some next)) :
    scanFrom? memory size header sofar = scanFrom? memory size next told := by
  rw [scanFrom?, hmessage]
  dsimp only
  split
  · rename_i hother
    exact absurd (hnext.symm.trans hother) nofun
  · rename_i hother
    exact absurd (hnext.symm.trans hother) nofun
  · rename_i other hother
    rw [hnext] at hother
    rw [Option.some.inj (Option.some.inj hother)]

/-- The destination in an area that begins at address zero. -/
def scanDestination? (memory : Memory) (size : Nat) : Option IpAddress :=
  if size < ControlMessage.headerLength then some .invalid else scanFrom? memory size 0 .invalid

/-! ## Reading from an area -/

/-- If a message is packet information, the whole structure follows its header. -/
def FoundMessage.IsInside (found : FoundMessage) : Prop :=
  ∀ length ∈ infoLength? (found.level, found.kind), length ≤ found.following.length

/-- A whole message lies inside. -/
theorem FoundMessage.Of.isInside {found : FoundMessage} {message : ControlMessage}
    (h : found.Of message) (hwhole : message.IsWhole) : found.IsInside := by
  intro length hlength
  rw [h.level, h.kind] at hlength
  exact Nat.le_trans (hwhole length hlength) h.payload.length_le

section Area

variable {area : List UInt8} {header : Nat}

/-- The header at an address of an area. -/
theorem ofBytes_drop (area : List UInt8) (header : Nat) :
    FoundMessage.ofBytes (area.drop header) =
      ⟨ofLittleEndian ((area.drop header).take 8),
        UInt32.ofNat (ofLittleEndian ((area.drop (header + 8)).take 4)),
        UInt32.ofNat (ofLittleEndian ((area.drop (header + 12)).take 4)),
        area.drop (header + ControlMessage.headerLength)⟩ := by
  unfold FoundMessage.ofBytes
  rw [List.drop_drop, List.drop_drop, List.drop_drop]

/-- What is loaded of a structure is what the reader finds in it. -/
theorem FoundMessage.getD_take_following (found : FoundMessage) {i count : Nat} (hi : i < count) :
    (found.following.take count).getD i 0 = found.payloadByte i := by
  unfold payloadByte
  rw [List.getD_eq_getElem?_getD, List.getD_eq_getElem?_getD, List.getElem?_take_of_lt hi]

/-- A structure that lies inside is loaded as it is. -/
theorem load?_of_isInside (count : Nat)
    (hinside : (FoundMessage.ofBytes (area.drop header)).IsInside)
    (hheader : header + ControlMessage.headerLength ≤ area.length)
    (hcount : infoLength? ((FoundMessage.ofBytes (area.drop header)).level,
      (FoundMessage.ofBytes (area.drop header)).kind) = some count) :
    (Memory.ofArea area).load? (header + ControlMessage.headerLength) count =
      some ((FoundMessage.ofBytes (area.drop header)).following.take count) := by
  have hlength := hinside count hcount
  rw [ofBytes_drop] at hlength ⊢
  rw [List.length_drop] at hlength
  exact Memory.load?_ofArea area _ count (by omega)

/-- **A message is read without leaving the area** if its structure lies inside. -/
theorem scanMessage?_eq (hheader : header + ControlMessage.headerLength ≤ area.length)
    (hinside : (FoundMessage.ofBytes (area.drop header)).IsInside) (sofar : IpAddress) :
    scanMessage? (.ofArea area) header sofar =
      some ((FoundMessage.ofBytes (area.drop header)).destination?.getD sofar) := by
  have hsixteen : ControlMessage.headerLength = 16 := rfl
  have hlevel := Memory.loadNumber?_ofArea area (header + 8) 4 (by omega)
  have hkind := Memory.loadNumber?_ofArea area (header + 12) 4 (by omega)
  have hload (count : Nat) := load?_of_isInside count hinside hheader
  unfold scanMessage?
  rw [hlevel, hkind]
  have hfound := ofBytes_drop area header
  generalize FoundMessage.ofBytes (area.drop header) = found at *
  have hkinds : (found.level, found.kind) =
      (UInt32.ofNat (ofLittleEndian ((area.drop (header + 8)).take 4)),
        UInt32.ofNat (ofLittleEndian ((area.drop (header + 12)).take 4))) := by
    rw [hfound]
  simp only [Option.bind_eq_bind, Option.bind_some, ← hkinds]
  obtain ⟨hipv4, hlength⟩ | ⟨hipv6, hlength⟩ | ⟨hipv4, hipv6, hnone⟩ :=
    infoLength?_cases (found.level, found.kind)
  · rw [if_pos hipv4, hload 12 hlength, FoundMessage.destination?_of_ipv4 hipv4]
    simp only [Option.bind_some, Option.getD_some, found.getD_take_following, Nat.reduceLT]
    rfl
  · have hipv4 : (found.level, found.kind) ≠ ipv4InfoKind := by
      rw [hipv6]
      decide
    rw [if_neg hipv4, if_pos hipv6, hload 20 hlength, FoundMessage.destination?_of_ipv6 hipv6]
    unfold IPv6.ofOctets
    simp only [Option.bind_some, Option.getD_some, found.getD_take_following, Nat.reduceLT]
    rfl
  · rw [if_neg hipv4, if_neg hipv6, FoundMessage.destination?_eq_none hnone]
    rfl

/-- **The headers do not lead out of the area**, whatever it holds. -/
theorem nextHeader?_eq (hheader : header + ControlMessage.headerLength ≤ area.length) :
    nextHeader? (.ofArea area) area.length header =
      some (if ControlMessage.headerLength ≤ (FoundMessage.ofBytes (area.drop header)).length ∧
          holdsMessage (afterMessage (area.drop header)) = true then
        some (header + alignEight (FoundMessage.ofBytes (area.drop header)).length)
      else none) := by
  have hsixteen : ControlMessage.headerLength = 16 := rfl
  have hlength := Memory.loadNumber?_ofArea area header 8 (by omega)
  have hfound : (FoundMessage.ofBytes (area.drop header)).length =
      ofLittleEndian ((area.drop header).take 8) := rfl
  have hnext : afterMessage (area.drop header) =
      area.drop (header + alignEight (FoundMessage.ofBytes (area.drop header)).length) :=
    List.drop_drop
  unfold nextHeader?
  rw [hlength, hnext, ← hfound]
  generalize (FoundMessage.ofBytes (area.drop header)).length = length
  simp only [Option.bind_eq_bind, Option.bind_some]
  by_cases hroom : length < ControlMessage.headerLength ∨
      area.length < header + alignEight length + ControlMessage.headerLength
  · rw [if_pos hroom]
    have hstop : ¬(ControlMessage.headerLength ≤ length ∧
        holdsMessage (area.drop (header + alignEight length)) = true) := by
      simp only [holdsMessage, Bool.and_eq_true, decide_eq_true_eq, List.length_drop]
      omega
    rw [if_neg hstop]
    rfl
  · have hnextLength := Memory.loadNumber?_ofArea area (header + alignEight length) 8 (by omega)
    have hfoundNext : (FoundMessage.ofBytes (area.drop (header + alignEight length))).length =
        ofLittleEndian ((area.drop (header + alignEight length)).take 8) := rfl
    rw [if_neg hroom, hnextLength, ← hfoundNext]
    simp only [Option.bind_some, holdsMessage, Bool.and_eq_true, decide_eq_true_eq,
      List.length_drop]
    by_cases hfits : area.length < header + alignEight length +
        alignEight (FoundMessage.ofBytes (area.drop (header + alignEight length))).length
    · rw [if_pos hfits, if_neg (by omega)]
      rfl
    · rw [if_neg hfits, if_pos (by omega)]
      rfl

/-- The messages from a header on are read without leaving the area. -/
theorem scanFrom?_eq (hheader : header + ControlMessage.headerLength ≤ area.length)
    (hinside : ∀ found ∈ walkMessages (area.drop header), found.IsInside) (sofar : IpAddress) :
    scanFrom? (.ofArea area) area.length header sofar =
      some ((walkMessages (area.drop header)).foldl
        (fun sofar found => found.destination?.getD sofar) sofar) := by
  generalize hbytes : area.drop header = bytes at hinside ⊢
  induction bytes using walkMessages.induct generalizing header sofar with
  | case1 bytes hgoes ih =>
    subst hbytes
    rw [walkMessages, dif_pos hgoes] at hinside ⊢
    have hmessage := scanMessage?_eq hheader (hinside _ List.mem_cons_self) sofar
    have hnext := nextHeader?_eq hheader
    rw [if_pos hgoes] at hnext
    have hafter : area.drop (header +
        alignEight (FoundMessage.ofBytes (area.drop header)).length) =
          afterMessage (area.drop header) := List.drop_drop.symm
    have hroom : header + alignEight (FoundMessage.ofBytes (area.drop header)).length +
        ControlMessage.headerLength ≤ area.length := by
      have hholds := hgoes.2
      rw [← hafter] at hholds
      simp only [holdsMessage, Bool.and_eq_true, decide_eq_true_eq, List.length_drop,
        ControlMessage.headerLength] at hholds ⊢
      omega
    rw [scanFrom?_of_next hmessage hnext, List.foldl_cons]
    exact ih hroom _ hafter fun found hfound => hinside found (List.mem_cons_of_mem _ hfound)
  | case2 bytes hstops =>
    subst hbytes
    rw [walkMessages, dif_neg hstops] at hinside ⊢
    have hmessage := scanMessage?_eq hheader (hinside _ List.mem_cons_self) sofar
    have hnext := nextHeader?_eq hheader
    rw [if_neg hstops] at hnext
    exact scanFrom?_of_last hmessage hnext

/-- **The second reader comes to the same as the first one**, if all structures lie in the area. -/
theorem scanDestination?_eq (hinside : ∀ found ∈ controlMessages area, found.IsInside) :
    scanDestination? (.ofArea area) area.length = some (destinationOf area) := by
  unfold scanDestination? destinationOf controlMessages at *
  by_cases hroom : area.length < ControlMessage.headerLength
  · rw [if_pos hroom, if_pos hroom]
    rfl
  · rw [if_neg hroom] at hinside
    rw [if_neg hroom, if_neg hroom]
    have hheader : 0 + ControlMessage.headerLength ≤ area.length := by omega
    have hscan := scanFrom?_eq hheader hinside .invalid
    rwa [List.drop_zero] at hscan

end Area

/-! ## Areas with messages in them -/

/-- What is read from an area in which these messages lie. -/
structure Recovers (messages : List ControlMessage) (area : List UInt8) : Prop where
  /-- The reader comes to an end, and no byte is read from outside the area. -/
  inside : scanDestination? (.ofArea area) area.length = some (destinationOf area)
  /-- The last message that is packet information tells the destination. -/
  last : ∀ before message after, messages = before ++ message :: after → message.IsInfo →
    (∀ later ∈ after, ¬later.IsInfo) → message.Tells (destinationOf area)
  /-- The destination is unknown if and only if there is no such message. -/
  invalid_iff : destinationOf area = .invalid ↔ ∀ message ∈ messages, ¬message.IsInfo
  /-- Other messages have no influence, wherever they are. -/
  others : ∀ messages' area', LaidOut messages' area' → (∀ message ∈ messages', message.IsWhole) →
    messages'.filter (·.IsInfo) = messages.filter (·.IsInfo) →
      destinationOf area' = destinationOf area

variable {messages : List ControlMessage} {area : List UInt8}

/-- What is told by messages is told by packet information. -/
theorem filterMap_filter_isInfo (hwhole : ∀ message ∈ messages, message.IsWhole) :
    (messages.filter (·.IsInfo)).filterMap ControlMessage.destination? =
      messages.filterMap ControlMessage.destination? := by
  rw [List.filterMap_filter]
  apply List.filterMap_congr
  intro message hmessage
  by_cases hinfo : message.IsInfo
  · exact if_pos (decide_eq_true hinfo)
  · have hnone := (ControlMessage.destination?_eq_none_iff (hwhole message hmessage)).2 hinfo
    rw [hnone, ite_self]

/-- Nothing is told if and only if there is no packet information. -/
theorem getLast?_destination?_eq_none_iff (hwhole : ∀ message ∈ messages, message.IsWhole) :
    (messages.filterMap ControlMessage.destination?).getLast? = none ↔
      ∀ message ∈ messages, ¬message.IsInfo := by
  rw [List.getLast?_eq_none_iff, List.filterMap_eq_nil_iff]
  apply forall₂_congr
  intro message hmessage
  exact ControlMessage.destination?_eq_none_iff (hwhole message hmessage)

/-- What is told at last is told by a message. -/
theorem exists_tells_of_getLast? {ip : IpAddress} (hwhole : ∀ message ∈ messages, message.IsWhole)
    (hlast : (messages.filterMap ControlMessage.destination?).getLast? = some ip) :
    ∃ message ∈ messages, message.Tells ip := by
  obtain ⟨message, hmessage, hip⟩ := List.mem_filterMap.1 (List.mem_of_getLast? hlast)
  have hwholeMessage := hwhole message hmessage
  have hinfo : message.IsInfo := by
    by_contra hother
    rw [(ControlMessage.destination?_eq_none_iff hwholeMessage).2 hother] at hip
    simp at hip
  obtain ⟨told, htold, htells⟩ := ControlMessage.exists_tells hinfo hwholeMessage
  obtain rfl := Option.some.inj (htold.symm.trans hip)
  exact ⟨message, hmessage, htells⟩

/-- Packet information with none behind it tells at last. -/
theorem exists_getLast?_of_last (before : List ControlMessage) {after : List ControlMessage}
    {message : ControlMessage} (hinfo : message.IsInfo)
    (hafter : ∀ later ∈ after, ¬later.IsInfo)
    (hwhole : ∀ other ∈ message :: after, other.IsWhole) : ∃ ip,
      ((before ++ message :: after).filterMap ControlMessage.destination?).getLast? = some ip ∧
        message.Tells ip := by
  obtain ⟨ip, hip, htells⟩ := ControlMessage.exists_tells hinfo (hwhole message List.mem_cons_self)
  have hnothing : after.filterMap ControlMessage.destination? = [] := by
    apply List.filterMap_eq_nil_iff.2
    intro later hlater
    have hlaterWhole := hwhole later (List.mem_cons_of_mem _ hlater)
    exact (ControlMessage.destination?_eq_none_iff hlaterWhole).2 (hafter later hlater)
  refine ⟨ip, ?_, htells⟩
  rw [List.filterMap_append, List.filterMap_cons_some hip, hnothing, List.getLast?_concat]

/-- The messages that are found in an area lie inside. -/
theorem LaidOut.isInside (h : LaidOut messages area)
    (hwhole : ∀ message ∈ messages, message.IsWhole) :
    ∀ found ∈ controlMessages area, found.IsInside := by
  have hfound := h.found
  clear h
  generalize controlMessages area = found at hfound ⊢
  induction hfound with
  | nil => exact fun found hmem => absurd hmem List.not_mem_nil
  | @cons next message found messages hof _ ih =>
    have hlater := ih fun other hother => hwhole other (List.mem_cons_of_mem _ hother)
    intro other hother
    rcases List.mem_cons.1 hother with rfl | hother
    · exact hof.isInside (hwhole message List.mem_cons_self)
    · exact hlater other hother

/-- **The destination is recovered** from every area in which messages lie, of any number and of any
kinds, if the packet information among them is whole. -/
theorem destinationOf_of_laidOut (h : LaidOut messages area)
    (hwhole : ∀ message ∈ messages, message.IsWhole) : Recovers messages area := by
  have htold := h.destinationOf_eq hwhole
  constructor
  · exact scanDestination?_eq (h.isInside hwhole)
  · intro before message after hmessages hinfo hafter
    subst hmessages
    have hwholeAfter : ∀ other ∈ message :: after, other.IsWhole :=
      fun other hother => hwhole other (List.mem_append_right _ hother)
    obtain ⟨ip, hlast, htells⟩ := exists_getLast?_of_last before hinfo hafter hwholeAfter
    rwa [htold, hlast]
  · rw [htold, ← getLast?_destination?_eq_none_iff hwhole]
    cases hlast : (messages.filterMap ControlMessage.destination?).getLast? with
    | none => exact iff_of_true rfl rfl
    | some ip =>
      obtain ⟨message, -, htells⟩ := exists_tells_of_getLast? hwhole hlast
      exact iff_of_false htells.ne_invalid nofun
  · intro messages' area' h' hwhole' hsame
    rw [h'.destinationOf_eq hwhole', htold, ← filterMap_filter_isInfo hwhole', hsame,
      filterMap_filter_isInfo hwhole]

/-! ### Packet information of both families between other messages -/

/-- A time to live, packet information of each family, and a time stamp that is cut short. -/
def mixedMessages : List ControlMessage :=
  [⟨0, 2, [64, 0, 0, 0]⟩,
    ⟨41, 50, [32, 1, 13, 184, 0, 0, 0, 0, 0, 0, 0, 0, 0, 0, 0, 1, 2, 0, 0, 0]⟩,
    ⟨0, 8, [2, 0, 0, 0, 127, 0, 0, 1, 10, 0, 0, 7]⟩,
    ⟨1, 29, [1, 2, 3]⟩]

/-- The IPv4 message comes last, and its last four bytes are the destination. -/
theorem destinationOf_when_mixed :
    LaidOut mixedMessages (mixedMessages.flatMap ControlMessage.encode) ∧
      (∀ message ∈ mixedMessages, message.IsWhole) ∧
      Recovers mixedMessages (mixedMessages.flatMap ControlMessage.encode) ∧
      destinationOf (mixedMessages.flatMap ControlMessage.encode) = .v4 ⟨10, 0, 0, 7⟩ := by
  have hlaid : LaidOut mixedMessages (mixedMessages.flatMap ControlMessage.encode) :=
    laidOut_encode (by unfold ControlMessage.Fits; decide)
  have hwhole : ∀ message ∈ mixedMessages, message.IsWhole := by decide
  have htold : (mixedMessages.filterMap ControlMessage.destination?).getLast?.getD .invalid =
      .v4 ⟨10, 0, 0, 7⟩ := by decide
  exact ⟨hlaid, hwhole, destinationOf_of_laidOut hlaid hwhole,
    (hlaid.destinationOf_eq hwhole).trans htold⟩

end SocketLoop
