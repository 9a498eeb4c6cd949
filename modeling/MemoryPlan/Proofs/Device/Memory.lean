import Mathlib.Data.List.Basic
import MemoryPlan.Kernel
/-!
# Memory

Device memory as a function from addresses to bytes, and places in it. What a program does to a device is
stated about this function: a read of a place yields its bytes, and a write replaces them and leaves every
byte outside as it was.
-/

namespace MemoryPlan

/-- The byte at every address. -/
abbrev Memory := Nat → UInt8

namespace Memory

/-- The bytes at an address. -/
def bytes (m : Memory) (address length : Nat) : Bytes :=
  (List.range length).map fun i => m (address + i)

/-- The memory with bytes written at an address. -/
def write (m : Memory) (address : Nat) (data : Bytes) : Memory := fun x =>
  if address ≤ x ∧ x < address + data.length then data.getD (x - address) 0 else m x

@[simp] theorem length_bytes (m : Memory) (address length : Nat) :
    (m.bytes address length).length = length := by
  simp [bytes]

/-- Memories that agree on a range have the same bytes there. -/
theorem bytes_congr {m n : Memory} {address length : Nat}
    (h : ∀ x, address ≤ x → x < address + length → m x = n x) :
    m.bytes address length = n.bytes address length := by
  apply List.map_congr_left
  intro i hi
  have hlt : i < length := List.mem_range.mp hi
  exact h (address + i) (by omega) (by omega)

/-- Equal bytes at an address are equal one by one. -/
theorem eq_of_bytes_eq {m n : Memory} {address length x : Nat}
    (h : m.bytes address length = n.bytes address length) (hle : address ≤ x)
    (hlt : x < address + length) : m x = n x := by
  have hi : x - address < length := by omega
  have hget := congrArg (fun data : Bytes => data[x - address]?) h
  simp only [bytes, List.getElem?_map, List.getElem?_range hi, Option.map_some, Option.some.injEq] at hget
  rw [show address + (x - address) = x by omega] at hget
  exact hget

/-- A write leaves all that lies outside of its range. -/
theorem write_outside {m : Memory} {address x : Nat} {data : Bytes}
    (h : x < address ∨ address + data.length ≤ x) : m.write address data x = m x := by
  unfold write
  rw [if_neg]
  omega

/-- Where two memories agree, they agree behind the same write. -/
theorem write_congr {m n : Memory} (address : Nat) (data : Bytes) {x : Nat} (h : m x = n x) :
    m.write address data x = n.write address data x := by
  unfold write
  rw [h]

@[simp] theorem write_nil (m : Memory) (address : Nat) : m.write address [] = m := by
  funext x
  apply write_outside
  simp only [List.length_nil]
  omega

/-- What was written is read back. -/
theorem bytes_write (m : Memory) (address : Nat) (data : Bytes) :
    (m.write address data).bytes address data.length = data := by
  apply List.ext_getElem
  · simp
  · intro i _ hi
    have hin : address ≤ address + i ∧ address + i < address + data.length := by omega
    simp only [bytes, write, List.getElem_map, List.getElem_range]
    rw [if_pos hin, show address + i - address = i by omega]
    exact (List.getElem_eq_getD 0).symm

end Memory

namespace TensorPlace

/-- The address of the first byte. -/
def start (place : TensorPlace) : Nat := place.address

/-- The first address behind the place. -/
def stop (place : TensorPlace) : Nat := place.start + place.size

/-- The place has the bytes at that address. -/
def Has (place : TensorPlace) (x : Nat) : Prop := place.start ≤ x ∧ x < place.stop

/-- The place has all bytes of a range. -/
def Covers (place : TensorPlace) (address length : Nat) : Prop :=
  place.start ≤ address ∧ address + length ≤ place.stop

/-- Two places have no byte in common. -/
def Apart (a b : TensorPlace) : Prop := ∀ x, a.Has x → ¬b.Has x

/-- The bytes of a place. -/
def bytes (place : TensorPlace) (m : Memory) : Bytes := m.bytes place.start place.size

variable {a b c : TensorPlace}

@[simp] theorem length_bytes (place : TensorPlace) (m : Memory) : (place.bytes m).length = place.size := by
  simp [bytes]

theorem Apart.symm (h : Apart a b) : Apart b a := fun x hb ha => h x ha hb

/-- Memories that agree on a place have the same bytes there. -/
theorem bytes_congr {m n : Memory} (h : ∀ x, a.Has x → m x = n x) : a.bytes m = a.bytes n :=
  Memory.bytes_congr fun x hle hlt => h x ⟨hle, hlt⟩

/-- Memories with the same bytes at a place agree on it. -/
theorem eq_of_bytes_eq {m n : Memory} (h : a.bytes m = a.bytes n) {x : Nat} (hx : a.Has x) :
    m x = n x :=
  Memory.eq_of_bytes_eq h hx.1 hx.2

/-- A place that covers another one has its bytes. -/
theorem Covers.has (h : b.Covers a.start a.size) {x : Nat} (hx : a.Has x) : b.Has x :=
  ⟨Nat.le_trans h.1 hx.1, Nat.lt_of_lt_of_le hx.2 h.2⟩

/-- A range lies in one of the places that have bytes. -/
def Granted (places : List TensorPlace) (address length : Nat) : Prop :=
  ∃ p ∈ places, 0 < p.size ∧ p.Covers address length

/-- Every byte of some places lies in other ones. -/
def Held (places outer : List TensorPlace) : Prop :=
  ∀ p ∈ places, 0 < p.size → ∃ q ∈ outer, q.Covers p.start p.size

/-- Every byte of a held place is a byte of an outer one. -/
theorem Held.has {places outer : List TensorPlace} (h : Held places outer) (ha : a ∈ places) {x : Nat}
    (hx : a.Has x) : ∃ q ∈ outer, q.Has x := by
  have hpos : 0 < a.size := by
    have hlt : a.start < a.start + a.size := Nat.lt_of_le_of_lt hx.1 hx.2
    omega
  obtain ⟨q, hq, hcovers⟩ := h a ha hpos
  exact ⟨q, hq, hcovers.has hx⟩

/-- Access that is granted is granted as well where the places are held by others. -/
theorem Granted.mono {places outer : List TensorPlace} {address length : Nat}
    (h : Granted places address length) (hheld : Held places outer) : Granted outer address length := by
  obtain ⟨p, hp, hpos, hcovers⟩ := h
  obtain ⟨q, hq, hinside⟩ := hheld p hp hpos
  unfold Covers stop at hcovers hinside
  refine ⟨q, hq, by omega, ?_, ?_⟩
  · omega
  · unfold stop
    omega

/-- The bytes of a granted range are equal in memories that agree on the places. -/
theorem Granted.bytes_congr {places : List TensorPlace} {address length : Nat}
    (h : Granted places address length) {m n : Memory} (hagree : ∀ p ∈ places, ∀ x, p.Has x → m x = n x) :
    m.bytes address length = n.bytes address length := by
  obtain ⟨p, hp, -, hcovers⟩ := h
  apply Memory.bytes_congr
  intro x hle hlt
  exact hagree p hp x ⟨Nat.le_trans hcovers.1 hle, Nat.lt_of_lt_of_le hlt hcovers.2⟩

/-- A write of a granted range changes nothing outside the places. -/
theorem Granted.write_outside {places : List TensorPlace} {address x : Nat} {data : Bytes}
    (h : Granted places address data.length) {m : Memory} (hx : ∀ p ∈ places, ¬p.Has x) :
    m.write address data x = m x := by
  obtain ⟨p, hp, -, hcovers⟩ := h
  have hout := hx p hp
  apply Memory.write_outside
  unfold Has stop at hout
  unfold Covers stop at hcovers
  omega

/-- A place that has bytes and is held may be accessed as a whole. -/
theorem Held.granted {p : TensorPlace} {outer : List TensorPlace} (h : Held [p] outer) (hpos : 0 < p.size) :
    Granted outer p.start p.size := by
  obtain ⟨q, hq, hcovers⟩ := h p (List.mem_singleton_self _) hpos
  refine ⟨q, hq, ?_, hcovers⟩
  unfold Covers stop at hcovers
  omega

theorem Held.of_subset {places outer : List TensorPlace} (h : ∀ p ∈ places, p ∈ outer) : Held places outer :=
  fun p hp _ => ⟨p, h p hp, Nat.le_refl _, Nat.le_refl _⟩

end TensorPlace
end MemoryPlan
