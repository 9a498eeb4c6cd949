import MemoryPlan.Device.Host
import MemoryPlan.Proofs.History
/-!
# Calls to a host device

The memory calls of a host device as data, each with the answer of the device (`HostDevice.answer`), and the
history of a list of calls. `Move` says all that a turn can come to. A call that breaks off ends the history:
nothing is said about a device after it.
-/

namespace MemoryPlan

/-- A memory call to a device. -/
inductive HostCall where
  /-- Memory of that size is asked for. -/
  | allocate (size : Nat)
  /-- The memory at that address is given back. -/
  | free (address : Address)
  /-- Bytes are to be written at an address. -/
  | copyIn (address : Address) (data : Bytes)
  /-- That many bytes are to be read at an address. -/
  | copyOut (address : Address) (length : Nat)
  deriving DecidableEq, Repr

/-- What a device answers to a memory call. -/
inductive HostReply where
  /-- The memory starts at that address. -/
  | address (address : Address)
  /-- The call was carried out. -/
  | done
  /-- The bytes that were read. -/
  | bytes (data : Bytes)
  deriving DecidableEq, Repr

/-- The outcome of a memory call. -/
abbrev HostOutcome := Except (Halt DeviceFault) HostReply

/-- The range that a copy accesses: its address and how many bytes it has. -/
def HostCall.range? : HostCall → Option (Address × Nat)
  | .copyIn address data => some (address, data.length)
  | .copyOut address length => some (address, length)
  | _ => none

/-- A memory call in the history of a device. -/
abbrev HostTurn := Turn HostDevice HostCall HostOutcome

namespace HostDevice

/-- Whether a call was broken off. -/
def brokeOff : HostOutcome → Bool
  | .error (.crash _) => true
  | _ => false

/-- What the device answers to a call, and the device after it. -/
def answer (device : HostDevice) : HostCall → HostOutcome × HostDevice
  | .allocate size =>
    let (outcome, after) := Device.allocate device size
    (outcome.map .address, after)
  | .free address =>
    let (outcome, after) := Device.free device address
    ((outcome.mapError .error).map fun _ => .done, after)
  | .copyIn address data =>
    let (outcome, after) := Device.copyIn device address data
    (outcome.map fun _ => .done, after)
  | .copyOut address length =>
    let (outcome, after) := Device.copyOut device address length
    (outcome.map .bytes, after)

/-- The turns of several calls, up to one that is broken off. -/
def history (device : HostDevice) (calls : List HostCall) : List HostTurn :=
  Turn.history answer brokeOff device calls

/-- What a call to a device may come to. -/
inductive Move (turn : HostTurn) : Prop where
  /-- Memory is handed out. -/
  | allocates {size : Nat} {address : Address} (hcall : turn.call = .allocate size)
      (hreply : turn.reply = .ok (.address address)) (hop : turn.before.allocate size = .ok (address, turn.after))
  /-- No memory is handed out, and the device stays as it was. -/
  | refuses {size : Nat} {halt : Halt DeviceFault} (hcall : turn.call = .allocate size)
      (hreply : turn.reply = .error halt) (hsame : turn.after = turn.before)
      (hop : turn.before.allocate size = .error halt)
  /-- Memory is taken back. -/
  | frees {address : Address} {a : Allocation} (hcall : turn.call = .free address) (hreply : turn.reply = .ok .done)
      (hfound : turn.before.allocationAt? address = some a) (hop : turn.before.free address = .ok turn.after)
  /-- The address is unknown, and the device stays as it was. -/
  | unknown {address : Address} (hcall : turn.call = .free address)
      (hreply : turn.reply = .error (.error (.invalidAddress (.unknownFree address))))
      (hsame : turn.after = turn.before) (hnone : turn.before.allocationAt? address = none)
  /-- Bytes are written where the range was located. -/
  | writes {address : Address} {data : Bytes} {a : Allocation} (hcall : turn.call = .copyIn address data)
      (hreply : turn.reply = .ok .done) (hlocate : turn.before.locate address data.length = .ok a)
      (hop : turn.before.copyIn address data = .ok turn.after)
  /-- Bytes are read where the range was located, and the device stays as it was. -/
  | reads {address : Address} {length : Nat} {a : Allocation} (hcall : turn.call = .copyOut address length)
      (hreply : turn.reply = .ok (.bytes (a.read (address - a.base) length))) (hsame : turn.after = turn.before)
      (hlocate : turn.before.locate address length = .ok a)
  /-- The range of a copy is not located, and the device stays as it was. -/
  | misses {address : Address} {length : Nat} {halt : Halt DeviceFault}
      (hrange : turn.call.range? = some (address, length)) (hreply : turn.reply = .error halt)
      (hsame : turn.after = turn.before) (hlocate : turn.before.locate address length = .error halt)

/-- Every turn is one of these. -/
theorem move {turn : HostTurn} (hanswer : turn.before.answer turn.call = (turn.reply, turn.after)) : Move turn := by
  obtain ⟨device, call, reply, after⟩ := turn
  dsimp only at hanswer
  cases call with
  | allocate size =>
    cases hop : device.allocate size with
    | ok made =>
      obtain ⟨rfl, rfl⟩ : .ok (.address made.1) = reply ∧ made.2 = after := by
        simpa [answer, Device.allocate, hop, settle, Except.map] using hanswer
      exact .allocates rfl rfl hop
    | error halt =>
      obtain ⟨rfl, rfl⟩ : .error halt = reply ∧ device = after := by
        simpa [answer, Device.allocate, hop, settle, Except.map] using hanswer
      exact .refuses rfl rfl rfl hop
  | free address =>
    cases hfound : device.allocationAt? address with
    | none =>
      obtain ⟨rfl, rfl⟩ : .error (.error (.invalidAddress (.unknownFree address))) = reply ∧ device = after := by
        simpa [answer, Device.free, HostDevice.free, hfound, settle, Except.map, Except.mapError] using hanswer
      exact .unknown rfl rfl rfl hfound
    | some a =>
      cases hop : device.free address with
      | error fault => simp [HostDevice.free, hfound] at hop
      | ok made =>
        obtain ⟨rfl, rfl⟩ : .ok .done = reply ∧ made = after := by
          simpa [answer, Device.free, hop, settle, Except.map, Except.mapError] using hanswer
        exact .frees rfl rfl hfound hop
  | copyIn address data =>
    cases hlocate : device.locate address data.length with
    | error halt =>
      obtain ⟨rfl, rfl⟩ : .error halt = reply ∧ device = after := by
        simpa [answer, Device.copyIn, HostDevice.copyIn, hlocate, settle, Except.map] using hanswer
      exact .misses rfl rfl rfl hlocate
    | ok a =>
      cases hop : device.copyIn address data with
      | error fault => simp [HostDevice.copyIn, hlocate, Except.map] at hop
      | ok made =>
        obtain ⟨rfl, rfl⟩ : .ok .done = reply ∧ made = after := by
          simpa [answer, Device.copyIn, hop, settle, Except.map] using hanswer
        exact .writes rfl rfl hlocate hop
  | copyOut address length =>
    cases hlocate : device.locate address length with
    | error halt =>
      obtain ⟨rfl, rfl⟩ : .error halt = reply ∧ device = after := by
        simpa [answer, Device.copyOut, HostDevice.copyOut, hlocate, Except.map] using hanswer
      exact .misses rfl rfl rfl hlocate
    | ok a =>
      obtain ⟨rfl, rfl⟩ : .ok (.bytes (a.read (address - a.base) length)) = reply ∧ device = after := by
        simpa [answer, Device.copyOut, HostDevice.copyOut, hlocate, Except.map] using hanswer
      exact .reads rfl rfl rfl hlocate

variable {turn : HostTurn} {halt : Halt DeviceFault}

/-- A copy succeeds where its range is located, and otherwise fails with that fault and changes nothing. -/
theorem Move.located (h : Move turn) {address : Address} {length : Nat}
    (hrange : turn.call.range? = some (address, length)) :
    (∃ a reply, turn.before.locate address length = .ok a ∧ turn.reply = .ok reply) ∨
      ∃ halt, turn.before.locate address length = .error halt ∧ turn.reply = .error halt ∧
        turn.after = turn.before := by
  cases h with
  | writes hcall hreply hlocate =>
    rw [hcall] at hrange
    cases hrange
    exact Or.inl ⟨_, _, hlocate, hreply⟩
  | reads hcall hreply hsame hlocate =>
    rw [hcall] at hrange
    cases hrange
    exact Or.inl ⟨_, _, hlocate, hreply⟩
  | misses hself hreply hsame hlocate =>
    cases hrange.symm.trans hself
    exact Or.inr ⟨_, hlocate, hreply, hsame⟩
  | allocates hcall => simp [hcall, HostCall.range?] at hrange
  | refuses hcall => simp [hcall, HostCall.range?] at hrange
  | frees hcall => simp [hcall, HostCall.range?] at hrange
  | unknown hcall => simp [hcall, HostCall.range?] at hrange

/-- Only an allocation or a range that is not located breaks a call off. -/
theorem Move.crashed (h : Move turn) {reason : String} (hcrash : turn.reply = .error (.crash reason)) :
    (∃ size, turn.call = .allocate size ∧ turn.before.allocate size = .error (.crash reason)) ∨
      ∃ address length, turn.call.range? = some (address, length) ∧
        turn.before.locate address length = .error (.crash reason) := by
  cases h with
  | refuses hcall hreply hsame hop =>
    cases hreply.symm.trans hcrash
    exact Or.inl ⟨_, hcall, hop⟩
  | misses hrange hreply hsame hlocate =>
    cases hreply.symm.trans hcrash
    exact Or.inr ⟨_, _, hrange, hlocate⟩
  | allocates hcall hreply => cases hreply.symm.trans hcrash
  | frees hcall hreply => cases hreply.symm.trans hcrash
  | unknown hcall hreply => cases hreply.symm.trans hcrash
  | writes hcall hreply => cases hreply.symm.trans hcrash
  | reads hcall hreply => cases hreply.symm.trans hcrash

/-- A call that fails changes nothing. -/
theorem Move.same (h : Move turn) (herror : turn.reply = .error halt) : turn.after = turn.before := by
  cases h with
  | allocates hcall hreply => cases hreply.symm.trans herror
  | frees hcall hreply => cases hreply.symm.trans herror
  | writes hcall hreply => cases hreply.symm.trans herror
  | refuses hcall hreply hsame => exact hsame
  | unknown hcall hreply hsame => exact hsame
  | reads hcall hreply hsame => exact hsame
  | misses hrange hreply hsame => exact hsame

end HostDevice
end MemoryPlan
