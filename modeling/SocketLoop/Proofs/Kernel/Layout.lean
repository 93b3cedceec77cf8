import Mathlib.Algebra.Group.Nat.Defs
import Mathlib.Data.List.Forall2
import SocketLoop.Proofs.Address.Native

/-!
# Messages that lie back to back

`LaidOut` says how messages lie in a control area, without reference to a reader: a header that
states the length of its message, the payload, and padding of any content up to a multiple of eight,
and right behind it the next message. The last message ends where the area ends.

* `FoundMessage.ofBytes_header`: what the reader finds at a header is what the header states.
* `LaidOut.afterMessage`: the padded length of a message leads from its header to the next one, and
  so the walk neither stops early nor goes on behind the last message
  (`LaidOut.holdsMessage_iff`).
* **`LaidOut.found`**: the walk finds the messages that lie in an area, all of them and in their
  order.
* `laidOut_encode`: messages lie in the bytes that are written for them, one after the other.
-/

namespace SocketLoop

/-! ## Numbers in bytes -/

@[simp] theorem length_littleEndian (width n : Nat) : (littleEndian width n).length = width := by
  induction width generalizing n with
  | zero => rfl
  | succ width ih =>
    show (littleEndian width (n / 256)).length + 1 = width + 1
    rw [ih]

/-- Bytes that are read as a number are written back as they were. -/
theorem littleEndian_ofLittleEndian (bytes : List UInt8) :
    littleEndian bytes.length (ofLittleEndian bytes) = bytes := by
  induction bytes with
  | nil => rfl
  | cons byte bytes ih =>
    have hbyte := byte.toNat_lt
    have hlow : (byte.toNat + 256 * ofLittleEndian bytes) % 256 = byte.toNat := by omega
    have hhigh : (byte.toNat + 256 * ofLittleEndian bytes) / 256 = ofLittleEndian bytes := by omega
    unfold ofLittleEndian
    rw [List.length_cons, littleEndian, hlow, hhigh, ih, UInt8.ofNat_toNat]

/-- A number that fits is read as it was written. -/
theorem ofLittleEndian_littleEndian {width n : Nat} (hfits : n < 256 ^ width) :
    ofLittleEndian (littleEndian width n) = n := by
  induction width generalizing n with
  | zero => exact (Nat.lt_one_iff.1 hfits).symm
  | succ width ih =>
    have hhigh : n / 256 < 256 ^ width := by
      apply Nat.div_lt_of_lt_mul
      rwa [Nat.pow_succ'] at hfits
    show (UInt8.ofNat (n % 256)).toNat + 256 * ofLittleEndian (littleEndian width (n / 256)) = n
    rw [ih hhigh, UInt8.toNat_ofNat']
    omega

/-- So is a word of 32 bits. -/
theorem ofNat_ofLittleEndian (word : UInt32) :
    UInt32.ofNat (ofLittleEndian (littleEndian 4 word.toNat)) = word := by
  rw [ofLittleEndian_littleEndian word.toNat_lt, UInt32.ofNat_toNat]

/-- A multiple of eight before a number is one before its next multiple. -/
theorem alignEight_header (n : Nat) :
    alignEight (ControlMessage.headerLength + n) = ControlMessage.headerLength + alignEight n := by
  unfold alignEight ControlMessage.headerLength
  omega

/-! ## Messages in an area -/

namespace ControlMessage

/-- The header of a message. -/
def header (message : ControlMessage) : List UInt8 :=
  littleEndian 8 (headerLength + message.payload.length) ++
    (littleEndian 4 message.level.toNat ++ littleEndian 4 message.kind.toNat)

@[simp] theorem length_header (message : ControlMessage) :
    message.header.length = headerLength := by
  unfold header
  simp only [List.length_append, length_littleEndian, headerLength]

/-- The length of a message fits into its field. -/
def Fits (message : ControlMessage) : Prop :=
  headerLength + message.payload.length < 256 ^ 8

end ControlMessage

/-- Messages lie back to back in an area and fill it. -/
inductive LaidOut : List ControlMessage → List UInt8 → Prop
  | nil : LaidOut [] []
  | cons {message : ControlMessage} {messages : List ControlMessage} {padding later : List UInt8}
      (fits : message.Fits)
      (padded : message.payload.length + padding.length = alignEight message.payload.length)
      (rest : LaidOut messages later) :
      LaidOut (message :: messages) (message.header ++ (message.payload ++ (padding ++ later)))

/-- **What is written for messages** is an area in which they lie. -/
theorem laidOut_encode {messages : List ControlMessage}
    (hfits : ∀ message ∈ messages, message.Fits) :
    LaidOut messages (messages.flatMap ControlMessage.encode) := by
  induction messages with
  | nil => exact .nil
  | cons message messages ih =>
    have hrest := ih fun other hother => hfits other (List.mem_cons_of_mem _ hother)
    have hpadded : message.payload.length + (List.replicate
        (alignEight message.payload.length - message.payload.length) (0 : UInt8)).length =
        alignEight message.payload.length := by
      rw [List.length_replicate]
      exact Nat.add_sub_cancel' (le_alignEight _)
    have hlaid := LaidOut.cons (hfits message List.mem_cons_self) hpadded hrest
    rw [List.flatMap_cons]
    unfold ControlMessage.encode ControlMessage.header at *
    simpa only [List.append_assoc] using hlaid

/-! ## Walking over them -/

/-- The reader has found a message: its header states what the message is, and the payload stands
at the front of what follows. -/
structure FoundMessage.Of (found : FoundMessage) (message : ControlMessage) : Prop where
  length : found.length = ControlMessage.headerLength + message.payload.length
  level : found.level = message.level
  kind : found.kind = message.kind
  payload : message.payload <+: found.following

/-- **At a header the reader finds what the header states.** -/
theorem FoundMessage.ofBytes_header {message : ControlMessage} (hfits : message.Fits)
    (bytes : List UInt8) : FoundMessage.ofBytes (message.header ++ bytes) =
      ⟨ControlMessage.headerLength + message.payload.length, message.level, message.kind,
        bytes⟩ := by
  have hlength : ofLittleEndian
      (littleEndian 8 (ControlMessage.headerLength + message.payload.length)) =
        ControlMessage.headerLength + message.payload.length :=
    ofLittleEndian_littleEndian hfits
  have hfields : message.header ++ bytes =
      littleEndian 8 (ControlMessage.headerLength + message.payload.length) ++
        (littleEndian 4 message.level.toNat ++ (littleEndian 4 message.kind.toNat ++ bytes)) := by
    unfold ControlMessage.header
    simp only [List.append_assoc]
  have hlevel : (message.header ++ bytes).drop 8 =
      littleEndian 4 message.level.toNat ++ (littleEndian 4 message.kind.toNat ++ bytes) := by
    rw [hfields]
    exact List.drop_left' (length_littleEndian 8 _)
  have hkind : (message.header ++ bytes).drop 12 = littleEndian 4 message.kind.toNat ++ bytes := by
    rw [← List.drop_drop (i := 4) (j := 8), hlevel]
    exact List.drop_left' (length_littleEndian 4 _)
  have hfollowing : (message.header ++ bytes).drop ControlMessage.headerLength = bytes :=
    List.drop_left' message.length_header
  unfold FoundMessage.ofBytes
  rw [hfollowing, hlevel, hkind, hfields, List.take_left' (length_littleEndian 8 _),
    List.take_left' (length_littleEndian 4 _), List.take_left' (length_littleEndian 4 _), hlength,
    ofNat_ofLittleEndian, ofNat_ofLittleEndian]

namespace LaidOut

variable {message : ControlMessage} {messages : List ControlMessage}
  {area padding later : List UInt8}

/-- The padded length of a message leads from its header to the next one. -/
theorem afterMessage (hfits : message.Fits)
    (hpadded : message.payload.length + padding.length = alignEight message.payload.length) :
    SocketLoop.afterMessage (message.header ++ (message.payload ++ (padding ++ later))) =
      later := by
  unfold SocketLoop.afterMessage
  rw [FoundMessage.ofBytes_header hfits, alignEight_header, ← hpadded]
  simp only [← List.append_assoc]
  apply List.drop_left'
  simp only [List.length_append, ControlMessage.length_header]
  omega

/-- The area has room for another message as long as there is one. -/
theorem holdsMessage_iff (h : LaidOut messages area) :
    holdsMessage area = true ↔ messages ≠ [] := by
  cases h with
  | nil => simp [holdsMessage, ControlMessage.headerLength]
  | cons fits padded rest =>
    have hroom := padded
    simp only [holdsMessage, FoundMessage.ofBytes_header fits, alignEight_header,
      List.length_append, ControlMessage.length_header, Bool.and_eq_true, decide_eq_true_eq, ne_eq,
      reduceCtorEq, not_false_eq_true, iff_true]
    omega

/-- Where there is a message there is room for its header. -/
theorem headerLength_le (h : LaidOut messages area) (hne : messages ≠ []) :
    ControlMessage.headerLength ≤ area.length := by
  have hholds := h.holdsMessage_iff.2 hne
  simp only [holdsMessage, Bool.and_eq_true, decide_eq_true_eq] at hholds
  exact hholds.1

/-- The walk over an area with a message in it. -/
theorem walk (h : LaidOut messages area) (hne : messages ≠ []) :
    List.Forall₂ FoundMessage.Of (walkMessages area) messages := by
  induction h with
  | nil => exact absurd rfl hne
  | @cons message messages padding later fits padded rest ih =>
    have hfound := FoundMessage.ofBytes_header fits (message.payload ++ (padding ++ later))
    have hafter : SocketLoop.afterMessage
        (message.header ++ (message.payload ++ (padding ++ later))) = later :=
      afterMessage fits padded
    have hof : (FoundMessage.ofBytes
        (message.header ++ (message.payload ++ (padding ++ later)))).Of message := by
      rw [hfound]
      exact ⟨rfl, rfl, rfl, List.prefix_append _ _⟩
    have hheader : ControlMessage.headerLength ≤ (FoundMessage.ofBytes
        (message.header ++ (message.payload ++ (padding ++ later)))).length := by
      rw [hfound]
      exact Nat.le_add_right _ _
    rw [walkMessages, hafter]
    by_cases hlast : messages = []
    · -- nothing is left behind the last message
      have hstop : ¬holdsMessage later = true := fun hholds => rest.holdsMessage_iff.1 hholds hlast
      rw [dif_neg fun hgoes => hstop hgoes.2, hlast]
      exact .cons hof .nil
    · have hgoes := rest.holdsMessage_iff.2 hlast
      rw [dif_pos ⟨hheader, hgoes⟩]
      exact .cons hof (ih hlast)

/-- **The walk finds the messages that lie in an area**, all of them and in their order. -/
theorem found (h : LaidOut messages area) :
    List.Forall₂ FoundMessage.Of (controlMessages area) messages := by
  unfold controlMessages
  by_cases hnil : messages = []
  · subst hnil
    cases h
    exact .nil
  · rw [if_neg (Nat.not_lt.2 (h.headerLength_le hnil))]
    exact h.walk hnil

end LaidOut

end SocketLoop
