import MemoryPlan.Kernel
/-!
# Sample kernels

Small kernels on bytes, for trying networks out: some compute, some show where they run, and some fail in
each of the ways in which a kernel can fail. Sums and products are those of bytes.
-/

namespace MemoryPlan

/-- The sample kernels. -/
inductive SampleKernel where
  /-- The sum of two inputs, byte by byte. -/
  | add
  /-- Twice the input, byte by byte. -/
  | double
  /-- The input. -/
  | copy
  /-- A mixture of all inputs, for each output another one. -/
  | mix
  /-- Adds one to each byte of its input, in place. -/
  | bump
  /-- Fills every output with the number of the region. -/
  | slot
  /-- Fills every output with the number of the device. -/
  | device
  /-- Does nothing. -/
  | none
  /-- Fails. -/
  | fail
  /-- Fails like a request without an input. -/
  | missing
  /-- Reads beyond its input. -/
  | overread
  /-- Is broken off. -/
  | panic
  deriving DecidableEq, Repr

namespace SampleKernel

/-- The name in messages. -/
def name : SampleKernel → String
  | add => "add"
  | double => "double"
  | copy => "copy"
  | mix => "mix"
  | bump => "bump"
  | slot => "slot"
  | device => "device"
  | none => "none"
  | fail => "fail"
  | missing => "missing"
  | overread => "overread"
  | panic => "panic"

/-- Every sample kernel. -/
def all : List SampleKernel :=
  [add, double, copy, mix, bump, slot, device, none, fail, missing, overread, panic]

/-- The error of a kernel in its own words. -/
def failure {α : Type} (words : String) : Program α :=
  Program.fail (.executionFailed (.stated words))

/-- The error of a kernel with too few inputs or outputs. -/
def tooFew {α : Type} (kernel : SampleKernel) (needed : Nat × Nat) (inputs outputs : List TensorPlace) :
    Program α :=
  failure <| s!"kernel {kernel.name} needs {needed.1} inputs and {needed.2} outputs, " ++
    s!"got {inputs.length} and {outputs.length}"

/-- Reads a whole tensor. -/
def fetchAll (place : TensorPlace) : Program Bytes := Program.fetch place.address place.size

/-- Writes the same byte everywhere. -/
def fill (value : UInt8) (place : TensorPlace) : Program Unit :=
  Program.store place.address (List.replicate place.size value)

/-- Performs a program for each item. -/
def forEach {α : Type} (act : α → Program Unit) : List α → Program Unit
  | [] => .done ()
  | a :: rest => do
    act a
    forEach act rest

/-- Reads several tensors. -/
def fetchEach : List TensorPlace → Program (List Bytes)
  | [] => .done []
  | place :: rest => do
    let data ← fetchAll place
    let more ← fetchEach rest
    return data :: more

/-- The byte at position `k` of output `j`: each input in turn, three times what came before plus its
byte at that position, inputs being repeated to any length. -/
def mixedByte (inputs : List (Array UInt8)) (j k : Nat) : UInt8 :=
  inputs.foldl (fun value data => value * 3 + data.getD (k % data.size) 0) (UInt8.ofNat j)

/-- The program of a sample kernel. -/
def kernel : SampleKernel → Kernel
  | add, _, inputs, outputs =>
    match inputs, outputs with
    | a :: b :: _, out :: _ => do
      let left ← fetchAll a
      let right ← fetchAll b
      Program.store out.address (List.zipWith (· + ·) left right)
    | _, _ => tooFew add (2, 1) inputs outputs
  | double, _, inputs, outputs =>
    match inputs, outputs with
    | a :: _, out :: _ => do
      let data ← fetchAll a
      Program.store out.address (data.map (· * 2))
    | _, _ => tooFew double (1, 1) inputs outputs
  | copy, _, inputs, outputs =>
    match inputs, outputs with
    | a :: _, out :: _ => do
      let data ← fetchAll a
      Program.store out.address data
    | _, _ => tooFew copy (1, 1) inputs outputs
  | mix, _, inputs, outputs => do
    let all ← fetchEach inputs
    let filled := (all.filter (!·.isEmpty)).map List.toArray
    forEach
      (fun (out, j) =>
        Program.store out.address ((List.range out.size).map (mixedByte filled j)))
      outputs.zipIdx
  | bump, _, inputs, outputs =>
    match inputs with
    | a :: _ => do
      let data ← fetchAll a
      let bumped := data.map (· + 1)
      Program.store a.address bumped
      match outputs with
      | out :: _ => Program.store out.address (bumped.take out.size)
      | [] => .done ()
    | [] => tooFew bump (1, 0) inputs outputs
  | slot, context, _, outputs => forEach (fill (UInt8.ofNat context.slot)) outputs
  | device, context, _, outputs => forEach (fill (UInt8.ofInt context.ordinal)) outputs
  | none, _, _, _ => .done ()
  | fail, _, _, _ => failure "kernel failed on purpose"
  | missing, _, _, _ => Program.fail (.missingInput "from kernel")
  | overread, _, inputs, outputs =>
    match inputs with
    | a :: _ => do
      let _ ← Program.fetch a.address (a.size + 1000000)
      .done ()
    | [] => tooFew overread (1, 0) inputs outputs
  | panic, _, _, _ => .stop (.crash "kernel panicked")

end SampleKernel
end MemoryPlan
