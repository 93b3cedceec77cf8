import SocketLoop.Proofs.Socket.Contract

/-!
# Operations with packet information

Sending from a local address and receiving with the destination are done by other calls than plain
sending and receiving, if packet information is available. They agree with the plain operations.

* `EndsAlike` relates how two operations end: with related values, or with the same halt, and in
  both cases with the same socket. `endsAlike_bind` follows two operations step by step.
* **`plain_of_packetInfo`**: without packet information the operations are the plain ones.
* **`informed_of_packetInfo`**: with packet information there is one call in the place of the other,
  and on the same answer they end alike.
* **`flags_of_send`**: every call that sends keeps a broken connection from raising a signal.
-/

namespace SocketLoop

/-! ## Ending alike -/

/-- Two operations end alike: with related values or the same halt, and with the same socket. -/
inductive EndsAlike {α β : Type} (R : α → β → Prop) :
    EStateM.Result Halt Session α → EStateM.Result Halt Session β → Prop
  | ok {x : α} {y : β} {a b : Session} (related : R x y) (socket : a.socket = b.socket) :
      EndsAlike R (.ok x a) (.ok y b)
  | error {halt : Halt} {a b : Session} (socket : a.socket = b.socket) :
      EndsAlike R (.error halt a) (.error halt b)

/-- Two completions tell the same, but for what they tell of packet information. -/
structure Completion.Matches (x y : Completion) : Prop where
  value : x.value = y.value
  data : x.data = y.data
  address : x.address = y.address

namespace SocketM

variable {α β γ δ : Type} {R : α → β → Prop} {S : γ → δ → Prop} {a b : Session}

/-- What follows operations that end alike ends alike, if it does so for related values. -/
theorem endsAlike_bind {op : SocketM α} {op' : SocketM β} {next : α → SocketM γ}
    {next' : β → SocketM δ} (h : EndsAlike R (op a) (op' b))
    (hnext : ∀ x y, R x y → ∀ a b : Session, a.socket = b.socket →
      EndsAlike S (next x a) (next' y b)) :
    EndsAlike S ((op >>= next) a) ((op' >>= next') b) := by
  rw [run_bind, run_bind]
  generalize op a = ended, op' b = ended' at h
  cases h with
  | ok related socket => exact hnext _ _ related _ _ socket
  | error socket => exact .error socket

/-- A call takes the next answer of its kind. -/
theorem result_call (kernel : Kernel) (syscall : Syscall) :
    (kernel.call syscall).1 = match (kernel.script.next syscall.kind).1 with
      | .failure code => .error code
      | .success delivery => .ok (syscall.complete kernel.nextFd delivery) := by
  unfold Kernel.call
  split <;> rename_i heq <;> rw [heq]

/-- Two calls that get the same answer end alike, if the answer means the same for both. -/
theorem endsAlike_attempt {call call' : Syscall} (op : Operation) (hsocket : a.socket = b.socket)
    (hanswer : (a.kernel.script.next call.kind).1 = (b.kernel.script.next call'.kind).1)
    (hcomplete : ∀ fd fd' delivery,
      (call.complete fd delivery).Matches (call'.complete fd' delivery)) :
    EndsAlike Completion.Matches (attempt op call a) (attempt op call' b) := by
  have hcall := result_call a.kernel call
  have hcall' := result_call b.kernel call'
  rw [← hanswer] at hcall'
  simp only [attempt, run_bind, run_call]
  cases hnext : (a.kernel.script.next call.kind).1 with
  | failure code =>
    rw [hnext] at hcall hcall'
    simp only [hcall, hcall', run_complete_error, hsocket]
    exact .error rfl
  | success delivery =>
    rw [hnext] at hcall hcall'
    simp only [hcall, hcall', run_complete_ok, hsocket]
    exact .ok (hcomplete _ _ _) rfl

/-- The same address is read alike. -/
theorem endsAlike_decoded {addr addr' : NativeAddress} (haddr : addr = addr')
    (hsocket : a.socket = b.socket) : EndsAlike Eq (decoded addr a) (decoded addr' b) := by
  subst haddr
  unfold decoded
  cases Address.ofNative addr with
  | ok read => exact .ok rfl hsocket
  | error fault => exact .error hsocket

end SocketM

open SocketM

/-! ## Without packet information -/

/-- A datagram with its sender and nothing more. -/
def Datagram.ofPlain (received : List UInt8 × Address) : Datagram :=
  ⟨received.1, received.2, .invalid, false⟩

/-- The operations of a socket are the plain ones. -/
structure Socket.Plain (s : Socket) : Prop where
  send : ∀ kernel data remote source,
    sendToFrom data remote source ⟨s, kernel⟩ = sendTo data remote ⟨s, kernel⟩
  receive : ∀ kernel room,
    receiveFromTo room ⟨s, kernel⟩ = (Datagram.ofPlain <$> receiveFrom room) ⟨s, kernel⟩

/-- **Without packet information the operations are the plain ones.** -/
theorem Socket.plain_of_packetInfo {s : Socket} (h : s.packetInfo = false) : s.Plain := by
  constructor
  · intro kernel data remote source
    cases hnative : remote.toNative <;> simp [sendToFrom, sendTo, native, hnative, h]
  · intro kernel room
    rw [run_map, receiveFromTo, receiveFrom, run_bind, run_bind]
    cases hreached : s.receiveLimit.isReached s.receiveCount with
    | true => rw [run_takeSlot_of_isReached ⟨s, kernel⟩ hreached]
    | false =>
      rw [run_takeSlot_of_not_isReached ⟨s, kernel⟩ hreached]
      have hplain : (slotted ⟨s, kernel⟩).socket.packetInfo = false := h
      simp only [run_bind, run_socket, hplain, Bool.false_eq_true, ↓reduceIte]
      cases receiveDatagram room (slotted ⟨s, kernel⟩) <;> rfl

/-! ## With packet information -/

/-- Two kernels answer two kinds of calls alike: the next answer of one is that of the other. -/
def Kernel.AnswersAlike (kernel kernel' : Kernel) (kind kind' : CallKind) : Prop :=
  (kernel.script.next kind).1 = (kernel'.script.next kind').1

/-- A datagram that was received with packet information, and one that was received without. -/
structure Datagram.Matches (d : Datagram) (received : List UInt8 × Address) : Prop where
  data : d.data = received.1
  sender : d.sender = received.2
  viaPacketInfo : d.viaPacketInfo = true

/-- The operations of a socket make one call in the place of another, and on the same answer they
end like the plain ones. -/
structure Socket.Informed (s : Socket) : Prop where
  /-- Without an address nothing is called, as in the plain operation. -/
  sendNone : ∀ kernel data source,
    sendToFrom data .none source ⟨s, kernel⟩ = .error (.breached .addressMissing) ⟨s, kernel⟩ ∧
      sendTo data .none ⟨s, kernel⟩ = .error (.breached .addressMissing) ⟨s, kernel⟩
  sendCalls : ∀ kernel data remote source layout, remote.toNative = some layout →
    Session.CallsOnce (.sendMessage s.fd data layout (sourceArea source) noSignalFlag) ⟨s, kernel⟩
        ((sendToFrom data remote source).after ⟨s, kernel⟩) ∧
      Session.CallsOnce (.sendTo s.fd data layout noSignalFlag) ⟨s, kernel⟩
        ((sendTo data remote).after ⟨s, kernel⟩)
  send : ∀ kernel kernel' data remote source, kernel.AnswersAlike kernel' .sendMessage .sendTo →
    EndsAlike Eq (sendToFrom data remote source ⟨s, kernel⟩) (sendTo data remote ⟨s, kernel'⟩)
  /-- Where the limit is reached nothing is called, as in the plain operation. -/
  receiveRefused : s.receiveLimit.isReached s.receiveCount = true → ∀ kernel room,
    receiveFromTo room ⟨s, kernel⟩ =
        .error (.failed .later) ⟨{ s with lastError := some .later }, kernel⟩ ∧
      receiveFrom room ⟨s, kernel⟩ =
        .error (.failed .later) ⟨{ s with lastError := some .later }, kernel⟩
  receiveCalls : s.receiveLimit.isReached s.receiveCount = false → ∀ kernel room,
    Session.CallsOnce (.receiveMessage s.fd room) (slotted ⟨s, kernel⟩)
        ((receiveFromTo room).after ⟨s, kernel⟩) ∧
      Session.CallsOnce (.receiveFrom s.fd room) (slotted ⟨s, kernel⟩)
        ((receiveFrom room).after ⟨s, kernel⟩)
  receive : ∀ kernel kernel' room, kernel.AnswersAlike kernel' .receiveMessage .receiveFrom →
    EndsAlike Datagram.Matches (receiveFromTo room ⟨s, kernel⟩) (receiveFrom room ⟨s, kernel'⟩)

section Informed

variable (session : Session) {layout : NativeAddress} {remote : Address}

/-- Sending with packet information is one call. -/
theorem run_sendToFrom (h : session.socket.packetInfo = true)
    (hnative : remote.toNative = some layout) (data : List UInt8) (source : IpAddress) :
    sendToFrom data remote source session =
      (do return (← attempt .send (.sendMessage session.socket.fd data layout (sourceArea source)
        noSignalFlag)).value : SocketM Int) session := by
  simp only [sendToFrom, native, hnative, run_bind, run_pure, run_socket, h, ↓reduceIte]

/-- So is plain sending. -/
theorem run_sendTo (hnative : remote.toNative = some layout) (data : List UInt8) :
    sendTo data remote session =
      (do return (← attempt .send (.sendTo session.socket.fd data layout
        noSignalFlag)).value : SocketM Int) session := by
  simp only [sendTo, native, hnative, run_bind, run_pure, run_socket]

/-- Receiving with packet information takes a slot and is one call. -/
theorem run_receiveFromTo (h : session.socket.packetInfo = true)
    (hroom : session.socket.receiveLimit.isReached session.socket.receiveCount = false)
    (room : Nat) :
    receiveFromTo room session =
      (attempt .recv (.receiveMessage session.socket.fd room) >>= fun completion =>
        decoded completion.address >>= fun sender =>
          pure (⟨completion.data, sender, destinationOf completion.control, true⟩ : Datagram))
        (slotted session) := by
  have hinfo : (slotted session).socket.packetInfo = true := h
  rw [receiveFromTo, run_bind, run_takeSlot_of_not_isReached session hroom]
  simp only [run_bind, run_socket, hinfo, ↓reduceIte]
  rfl

/-- Plain receiving takes a slot and is one call. -/
theorem run_receiveFrom
    (hroom : session.socket.receiveLimit.isReached session.socket.receiveCount = false)
    (room : Nat) :
    receiveFrom room session =
      (attempt .recv (.receiveFrom session.socket.fd room) >>= fun completion =>
        decoded completion.address >>= fun sender => pure (completion.data, sender))
        (slotted session) := by
  rw [receiveFrom, run_bind, run_takeSlot_of_not_isReached session hroom]
  rfl

/-- Operations that run alike leave the same session. -/
theorem after_congr {α : Type} {op op' : SocketM α} {session session' : Session}
    (h : op session = op' session') : op.after session = op'.after session' := by
  rw [SocketM.after, SocketM.after, h]

end Informed

/-- **With packet information there is one call in the place of another**, and on the same answer
the operations end like the plain ones. -/
theorem Socket.informed_of_packetInfo {s : Socket} (h : s.packetInfo = true) : s.Informed := by
  constructor
  · exact fun kernel data source => ⟨rfl, rfl⟩
  · intro kernel data remote source layout hnative
    constructor
    · rw [after_congr (run_sendToFrom ⟨s, kernel⟩ h hnative data source),
        after_bind_pure]
      exact callsOnce_attempt _ _ _
    · rw [after_congr (run_sendTo ⟨s, kernel⟩ hnative data), after_bind_pure]
      exact callsOnce_attempt _ _ _
  · intro kernel kernel' data remote source hanswer
    cases hnative : remote.toNative with
    | none =>
      simp only [sendToFrom, sendTo, native, hnative, run_bind, run_breach]
      exact .error rfl
    | some layout =>
      rw [run_sendToFrom ⟨s, kernel⟩ h hnative, run_sendTo ⟨s, kernel'⟩ hnative]
      refine endsAlike_bind (endsAlike_attempt .send rfl hanswer fun _ _ _ => ⟨rfl, rfl, rfl⟩) ?_
      exact fun x y hmatches a b hsocket => .ok hmatches.value hsocket
  · intro hreached kernel room
    constructor
    · rw [receiveFromTo, run_bind, run_takeSlot_of_isReached ⟨s, kernel⟩ hreached]
    · rw [receiveFrom, run_bind, run_takeSlot_of_isReached ⟨s, kernel⟩ hreached]
  · intro hroom kernel room
    constructor
    · rw [after_congr (run_receiveFromTo ⟨s, kernel⟩ h hroom room), after_bind_decoded]
      exact callsOnce_attempt _ _ _
    · rw [after_congr (run_receiveFrom ⟨s, kernel⟩ hroom room), after_bind_decoded]
      exact callsOnce_attempt _ _ _
  · intro kernel kernel' room hanswer
    cases hreached : s.receiveLimit.isReached s.receiveCount with
    | true =>
      rw [receiveFromTo, receiveFrom, run_bind, run_bind,
        run_takeSlot_of_isReached ⟨s, kernel⟩ hreached,
        run_takeSlot_of_isReached ⟨s, kernel'⟩ hreached]
      exact .error rfl
    | false =>
      rw [run_receiveFromTo ⟨s, kernel⟩ h hreached,
        run_receiveFrom ⟨s, kernel'⟩ hreached]
      refine endsAlike_bind (endsAlike_attempt .recv rfl hanswer fun _ _ _ => ⟨rfl, rfl, rfl⟩) ?_
      intro x y hmatches a b hsocket
      refine endsAlike_bind (endsAlike_decoded hmatches.address hsocket) ?_
      exact fun sender sender' hsender a b hsocket => .ok ⟨hmatches.data, hsender, rfl⟩ hsocket

/-- Whether a datagram is said to come with packet information is whether the socket has it. -/
theorem Socket.via_of_receiveFromTo {s : Socket} {kernel : Kernel} {room : Nat} {d : Datagram}
    {after : Session} (h : receiveFromTo room ⟨s, kernel⟩ = .ok d after) :
    d.viaPacketInfo = s.packetInfo := by
  cases hinfo : s.packetInfo with
  | false =>
    rw [(plain_of_packetInfo hinfo).receive, run_map] at h
    split at h
    · cases h
      rfl
    · cases h
  | true =>
    -- any kernel that gives the same answer to plain receiving will do
    let script : Script := ⟨fun _ => [(kernel.script.next .receiveMessage).1], []⟩
    have halike := (informed_of_packetInfo hinfo).receive kernel { kernel with script } room rfl
    rw [h] at halike
    generalize receiveFrom room _ = ended at halike
    cases halike with
    | ok related _ => exact related.viaPacketInfo

/-! ## Sending without a signal -/

/-- The flags of a call that sends. -/
def Syscall.sendFlags? : Syscall → Option Nat
  | send _ _ flags => some flags
  | sendTo _ _ _ flags => some flags
  | sendMessage _ _ _ _ flags => some flags
  | _ => none

/-- Where one call was made there is no other. -/
theorem Session.CallsOnce.eq_of_mem {call call' : Syscall} {result : Except Errno Int}
    {a b : Session} {later : History} (h : a.CallsOnce call b)
    (hlater : b.kernel.history = a.kernel.history ++ later)
    (hmem : (call', result) ∈ callsOf later) : call' = call := by
  obtain ⟨outcome, houtcome⟩ := h.calls
  rw [List.append_cancel_left (hlater.symm.trans houtcome)] at hmem
  exact (Prod.mk.inj (List.mem_singleton.1 hmem)).1

/-- Nothing was called, or one call that has the flag. -/
def Session.SendsOnce (a b : Session) : Prop :=
  b = a ∨ ∃ call, call.sendFlags? = some noSignalFlag ∧ a.CallsOnce call b

/-- Sending to the other end sends once. -/
theorem sendsOnce_send (session : Session) (data : List UInt8) :
    session.SendsOnce ((send data).after session) := by
  refine .inr ⟨.send session.socket.fd data noSignalFlag, rfl, ?_⟩
  rw [send, after_socket_bind, after_bind_pure]
  exact callsOnce_attempt session .send _

/-- Plain sending to an address sends once. -/
theorem sendsOnce_sendTo (session : Session) (data : List UInt8) (remote : Address) :
    session.SendsOnce ((sendTo data remote).after session) := by
  cases hnative : remote.toNative with
  | none =>
    left
    simp only [SocketM.after, sendTo, native, hnative, run_bind, run_breach]
  | some layout =>
    refine .inr ⟨.sendTo session.socket.fd data layout noSignalFlag, rfl, ?_⟩
    rw [after_congr (run_sendTo session hnative data), after_bind_pure]
    exact callsOnce_attempt session .send _

/-- Sending from a local address sends once. -/
theorem sendsOnce_sendToFrom (session : Session) (data : List UInt8) (remote : Address)
    (source : IpAddress) : session.SendsOnce ((sendToFrom data remote source).after session) := by
  cases hinfo : session.socket.packetInfo with
  | false =>
    rw [after_congr ((Socket.plain_of_packetInfo hinfo).send session.kernel data remote source)]
    exact sendsOnce_sendTo session data remote
  | true =>
    cases hnative : remote.toNative with
    | none =>
      left
      simp only [SocketM.after, sendToFrom, native, hnative, run_bind, run_breach]
    | some layout =>
      exact .inr ⟨_, rfl,
        ((Socket.informed_of_packetInfo hinfo).sendCalls session.kernel data remote source layout
          hnative).1⟩

/-- **Every call that sends has the flag that keeps a broken connection from raising a signal.** -/
theorem Request.flags_of_send {request : Request} {session : Session} {later : History}
    (hlater : (SocketM.after request.run session).kernel.history = session.kernel.history ++ later)
    {call : Syscall} {result : Except Errno Int} (hmem : (call, result) ∈ callsOf later)
    {flags : Nat} (hflags : call.sendFlags? = some flags) : flags = noSignalFlag := by
  have honce (h : session.SendsOnce (SocketM.after request.run session)) :
      flags = noSignalFlag := by
    rcases h with hsame | ⟨call', hflags', hcall⟩
    · rw [hsame] at hlater
      rw [List.append_right_eq_self.1 hlater.symm] at hmem
      exact absurd hmem List.not_mem_nil
    · rw [hcall.eq_of_mem hlater hmem, hflags'] at hflags
      exact (Option.some.inj hflags).symm
  have hkind := request.kind_of_call hlater hmem
  cases request with
  | send data =>
    refine honce ?_
    rw [Request.run, after_bind_pure]
    exact sendsOnce_send session data
  | sendTo data remote =>
    refine honce ?_
    rw [Request.run, after_bind_pure]
    exact sendsOnce_sendTo session data remote
  | sendToFrom data remote source =>
    refine honce ?_
    rw [Request.run, after_bind_pure]
    exact sendsOnce_sendToFrom session data remote source
  | _ =>
    -- the calls of the other requests are of kinds that do not send
    cases call with
    | send _ _ _ | sendTo _ _ _ _ | sendMessage _ _ _ _ _ => simp [kinds, Syscall.kind] at hkind
    | _ => simp [Syscall.sendFlags?] at hflags

end SocketLoop
