import Mathlib.Logic.Function.Basic
import SocketLoop.Proofs.Kernel.Destination

/-!
# A message in a buffer

`ControlMessage.encode` puts the bytes of a message together from its parts. A program has a buffer
instead, and stores the fields of a header and the payload behind it, each at its own address. The
memory to which it stores is that of the second reader: storing comes to nothing as soon as it
leaves the buffer.

* `Memory.store?_ofArea`: bytes are stored over as many others, and what is around them stays.
* `storeMessage?_ofArea`: so a message replaces what was there, up to the end of its payload. The
  padding is not stored.
* **`storeMessage?_zeros`**: in a buffer of zeros both ways of writing come to the same.
* `ControlMessage.controlMessages_encode`: the reader's walk over these bytes finds the message, and
  its payload and its padding behind it.
-/

namespace SocketLoop

/-! ## Storing to memory -/

namespace Memory

/-- Stores some bytes from an address on; nothing if one of them may not be written. -/
def store? (memory : Memory) (address : Nat) : List UInt8 → Option Memory
  | [] => some memory
  | byte :: bytes => do
    let _ ← memory address
    store? (Function.update memory address (some byte)) (address + 1) bytes

/-- A byte of an area is replaced. -/
theorem update_ofArea (front rest : List UInt8) (old byte : UInt8) :
    Function.update (ofArea (front ++ old :: rest)) front.length (some byte) =
      ofArea (front ++ byte :: rest) := by
  funext address
  unfold ofArea
  rcases Nat.lt_trichotomy address front.length with hbefore | rfl | hbehind
  · rw [Function.update_of_ne (Nat.ne_of_lt hbefore), List.getElem?_append_left hbefore,
      List.getElem?_append_left hbefore]
  · rw [Function.update_self, List.getElem?_append_right (Nat.le_refl _), Nat.sub_self,
      List.getElem?_cons_zero]
  · obtain ⟨later, hlater⟩ := Nat.exists_eq_add_of_lt hbehind
    have hindex : address - front.length = later + 1 := by omega
    have hle := Nat.le_of_lt hbehind
    rw [Function.update_of_ne (Nat.ne_of_gt hbehind), List.getElem?_append_right hle,
      List.getElem?_append_right hle, hindex, List.getElem?_cons_succ, List.getElem?_cons_succ]

/-- **Bytes are stored over as many others** in an area, and what is around them stays. -/
theorem store?_ofArea (front rest : List UInt8) {old bytes : List UInt8}
    (hlength : old.length = bytes.length) :
    (ofArea (front ++ (old ++ rest))).store? front.length bytes =
      some (ofArea (front ++ (bytes ++ rest))) := by
  induction bytes generalizing front old with
  | nil =>
    obtain rfl := List.length_eq_zero_iff.1 hlength
    rfl
  | cons byte bytes ih =>
    obtain ⟨replaced, old, rfl⟩ := List.exists_cons_of_length_eq_add_one hlength
    have hinside : ofArea (front ++ (replaced :: old ++ rest)) front.length = some replaced := by
      unfold ofArea
      rw [List.getElem?_append_right (Nat.le_refl _), Nat.sub_self]
      rfl
    have hlater := ih (front ++ [byte]) (Nat.succ.inj hlength)
    rw [List.length_append, List.append_assoc, List.append_assoc] at hlater
    unfold store?
    rw [hinside, List.cons_append, update_ofArea]
    exact hlater

end Memory

/-! ## The bytes of a message -/

namespace ControlMessage

/-- The zeros behind a payload. -/
def padding (message : ControlMessage) : List UInt8 :=
  List.replicate (alignEight message.payload.length - message.payload.length) 0

/-- Payload and padding take a multiple of eight bytes. -/
theorem length_payload_padding (message : ControlMessage) :
    message.payload.length + message.padding.length = alignEight message.payload.length := by
  unfold padding
  rw [List.length_replicate]
  exact Nat.add_sub_cancel' (le_alignEight _)

/-- A message is written as its header, its payload and its padding. -/
theorem encode_eq (message : ControlMessage) :
    message.encode = message.header ++ (message.payload ++ message.padding) := by
  unfold encode header padding
  simp only [List.append_assoc]

/-- So it takes as much room as it is said to. -/
@[simp] theorem length_encode (message : ControlMessage) :
    message.encode.length = message.space := by
  rw [encode_eq, List.length_append, List.length_append, length_header, length_payload_padding,
    space]

/-- A message takes some room, -/
theorem space_pos (message : ControlMessage) : 0 < message.space :=
  Nat.lt_of_lt_of_le (by decide : 0 < headerLength) (Nat.le_add_right _ _)

/-- and that is a multiple of eight bytes. -/
theorem eight_dvd_space (message : ControlMessage) : 8 ∣ message.space := by
  unfold space alignEight headerLength
  omega

/-- The reader's walk over a message alone finds the message and nothing else. -/
theorem controlMessages_encode {message : ControlMessage} (hfits : message.Fits) :
    controlMessages message.encode = [⟨headerLength + message.payload.length, message.level,
      message.kind, message.payload ++ message.padding⟩] := by
  have hroom : ¬message.encode.length < headerLength := by
    rw [length_encode]
    exact Nat.not_lt.2 (Nat.le_add_right _ _)
  have hafter : afterMessage message.encode = [] := by
    have hlast : afterMessage
        (message.header ++ (message.payload ++ (message.padding ++ []))) = [] :=
      LaidOut.afterMessage hfits message.length_payload_padding
    rwa [List.append_nil, ← encode_eq] at hlast
  have hstop : ¬(headerLength ≤ (FoundMessage.ofBytes message.encode).length ∧
      holdsMessage (afterMessage message.encode) = true) := by
    rw [hafter]
    exact fun hgoes => absurd hgoes.2 (by decide)
  unfold controlMessages
  rw [if_neg hroom, walkMessages, dif_neg hstop, encode_eq, FoundMessage.ofBytes_header hfits]

end ControlMessage

/-! ## Filling a buffer -/

/-- Stores a message from address zero on: its kind and its length where the header has them, and
the payload behind the header. The result says how many bytes are used. -/
def storeMessage? (memory : Memory) (message : ControlMessage) : Option (Memory × Nat) := do
  let memory ← memory.store? 8 (littleEndian 4 message.level.toNat)
  let memory ← memory.store? 12 (littleEndian 4 message.kind.toNat)
  let memory ← memory.store? 0
    (littleEndian 8 (ControlMessage.headerLength + message.payload.length))
  let memory ← memory.store? ControlMessage.headerLength message.payload
  return (memory, message.space)

/-- **A message is stored over what was there**, and what lies behind its payload stays. -/
theorem storeMessage?_ofArea (message : ControlMessage)
    {length level kind payload rest : List UInt8}
    (hlength : length.length = 8) (hlevel : level.length = 4) (hkind : kind.length = 4)
    (hpayload : payload.length = message.payload.length) :
    storeMessage? (.ofArea (length ++ (level ++ (kind ++ (payload ++ rest))))) message =
      some (.ofArea (message.header ++ (message.payload ++ rest)), message.space) := by
  have hstoreLevel := Memory.store?_ofArea length (kind ++ (payload ++ rest))
    (hlevel.trans (length_littleEndian 4 message.level.toNat).symm)
  have hstoreKind := Memory.store?_ofArea (length ++ littleEndian 4 message.level.toNat)
    (payload ++ rest) (hkind.trans (length_littleEndian 4 message.kind.toNat).symm)
  have hstoreLength := Memory.store?_ofArea []
    (littleEndian 4 message.level.toNat ++
      (littleEndian 4 message.kind.toNat ++ (payload ++ rest)))
    (hlength.trans (length_littleEndian 8
      (ControlMessage.headerLength + message.payload.length)).symm)
  have hstorePayload := Memory.store?_ofArea message.header rest hpayload
  rw [hlength] at hstoreLevel
  rw [List.length_append, hlength, length_littleEndian] at hstoreKind
  rw [ControlMessage.length_header] at hstorePayload
  simp only [ControlMessage.header, List.append_assoc, List.nil_append, List.length_nil]
    at hstoreKind hstoreLength hstorePayload
  unfold storeMessage? ControlMessage.header
  simp only [hstoreLevel, hstoreKind, hstoreLength, hstorePayload, List.append_assoc,
    Option.bind_eq_bind, Option.bind_some, Option.pure_def]

/-- In a buffer of zeros a message is stored as it is written: some of the zeros are its padding. -/
theorem storeMessage?_zeros (message : ControlMessage) (behind : Nat) :
    storeMessage? (.ofArea (List.replicate (message.space + behind) 0)) message =
      some (.ofArea (message.encode ++ List.replicate behind 0), message.space) := by
  have hzeros : List.replicate (message.space + behind) (0 : UInt8) =
      List.replicate 8 0 ++ (List.replicate 4 0 ++ (List.replicate 4 0 ++
        (List.replicate message.payload.length 0 ++
          (message.padding ++ List.replicate behind 0)))) := by
    have hle := le_alignEight message.payload.length
    unfold ControlMessage.padding ControlMessage.space ControlMessage.headerLength
    simp only [List.replicate_append_replicate]
    congr 1
    omega
  rw [hzeros, storeMessage?_ofArea message List.length_replicate List.length_replicate
    List.length_replicate List.length_replicate, message.encode_eq]
  simp only [List.append_assoc]

end SocketLoop
