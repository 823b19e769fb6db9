import AutoSre.Lib.Python

/-! # Chaos state and control payloads

`ChaosState` of `chaos.py` over exact rationals, with the decisions it makes for the
data plane, and the Pydantic models of the control plane.  A validated payload
carries its bounds, so a handler never sees a value outside them.
-/

namespace AutoSre.Chaos

open AutoSre.Lib.Python

/-! ## Memory blocks -/

/-- A `bytearray` by its bytes. -/
abbrev Bytearray := List UInt8

/-- The block `_run_memory` holds: zeros, with one byte of every page touched. -/
def touchedBlock (sizeBytes : ℕ) : Bytearray :=
  (List.range sizeBytes).map fun i => if i % 4096 = 0 then 1 else 0

@[simp] theorem length_touchedBlock (sizeBytes : ℕ) : (touchedBlock sizeBytes).length = sizeBytes := by
  simp [touchedBlock]

/-! ## The state -/

structure ChaosState where
  latencyEnabled : Bool := false
  latencySeconds : ℚ := 0
  errorEnabled : Bool := false
  errorRate : ℚ := 0
  errorAccumulator : ℚ := 0
  cpuRunning : Bool := false
  memoryBytes : ℕ := 0
  memoryBlocks : List Bytearray := []
deriving DecidableEq

namespace ChaosState

def isActive (s : ChaosState) : Bool :=
  s.latencyEnabled || s.errorEnabled || s.cpuRunning || decide (0 < s.memoryBytes)

/-- `should_inject_error`: the decision and the state with the accumulator moved on. -/
def shouldInjectError (s : ChaosState) : Bool × ChaosState :=
  -- disabled or at rate zero, the accumulator is not touched
  if s.errorEnabled ∧ 0 < s.errorRate then
    let accumulator := s.errorAccumulator + s.errorRate
    if 1 ≤ accumulator then (true, { s with errorAccumulator := accumulator - 1 })
    else (false, { s with errorAccumulator := accumulator })
  else (false, s)

structure Snapshot where
  active : Bool
  latencyEnabled : Bool
  latencySeconds : ℚ
  errorsEnabled : Bool
  errorsRatePercent : ℚ
  cpuRunning : Bool
  memoryAllocatedMb : ℚ
  memoryBlocks : ℕ
deriving DecidableEq

def snapshot (s : ChaosState) : Snapshot where
  active := s.isActive
  latencyEnabled := s.latencyEnabled
  latencySeconds := round s.latencySeconds 3
  errorsEnabled := s.errorEnabled
  errorsRatePercent := round (s.errorRate * 100) 2
  cpuRunning := s.cpuRunning
  memoryAllocatedMb := round (s.memoryBytes / 1024 / 1024) 2
  memoryBlocks := s.memoryBlocks.length

theorem shouldInjectError_eq (s : ChaosState) :
    s.shouldInjectError.2 = { s with errorAccumulator := s.shouldInjectError.2.errorAccumulator } := by
  simp only [shouldInjectError]
  split
  · split <;> rfl
  · rfl

end ChaosState

/-! ## Safety bounds -/

def latencyMaxSeconds : ℚ := 10
def cpuMaxSeconds : ℚ := 30
def memoryMaxMb : ℚ := 256
def memoryHoldMaxSeconds : ℚ := 60

def memoryMaxBytes : ℕ := (int (memoryMaxMb * 1024 * 1024)).toNat

/-! ## Control payloads

The fields of a JSON body as far as they are there; `malformed` is a body with an
unknown field (`extra="forbid"`) or a value of the wrong type. -/

structure LatencyBody where
  enable : Option Bool := none
  delaySeconds : Option ℚ := none
  malformed : Bool := false

structure LatencyConfig where
  enable : Bool
  delaySeconds : ℚ
  delay_bounds : 0 ≤ delaySeconds ∧ delaySeconds ≤ latencyMaxSeconds

structure ErrorBody where
  enable : Option Bool := none
  ratePercent : Option ℚ := none
  malformed : Bool := false

structure ErrorConfig where
  enable : Bool
  ratePercent : ℚ
  rate_bounds : 0 ≤ ratePercent ∧ ratePercent ≤ 100

structure CPUBody where
  durationSeconds : Option ℚ := none
  malformed : Bool := false

structure CPUConfig where
  durationSeconds : ℚ
  duration_bounds : 0 < durationSeconds ∧ durationSeconds ≤ cpuMaxSeconds

structure MemoryBody where
  sizeMb : Option ℚ := none
  holdSeconds : Option ℚ := none
  malformed : Bool := false

structure MemoryConfig where
  sizeMb : ℚ
  holdSeconds : ℚ
  size_bounds : 0 < sizeMb ∧ sizeMb ≤ memoryMaxMb
  hold_bounds : 0 < holdSeconds ∧ holdSeconds ≤ memoryHoldMaxSeconds

def LatencyBody.validate (body : LatencyBody) : Option LatencyConfig :=
  match body.enable with
  | none => none -- a required field
  | some enable =>
    let delay := body.delaySeconds.getD 1
    if bounds : 0 ≤ delay ∧ delay ≤ latencyMaxSeconds then
      if body.malformed then none else some ⟨enable, delay, bounds⟩
    else none

def ErrorBody.validate (body : ErrorBody) : Option ErrorConfig :=
  match body.enable with
  | none => none -- a required field
  | some enable =>
    let rate := body.ratePercent.getD 50
    if bounds : 0 ≤ rate ∧ rate ≤ 100 then
      if body.malformed then none else some ⟨enable, rate, bounds⟩
    else none

def CPUBody.validate (body : CPUBody) : Option CPUConfig :=
  let duration := body.durationSeconds.getD 5
  if bounds : 0 < duration ∧ duration ≤ cpuMaxSeconds then
    if body.malformed then none else some ⟨duration, bounds⟩
  else none

def MemoryBody.validate (body : MemoryBody) : Option MemoryConfig :=
  let size := body.sizeMb.getD 64
  let hold := body.holdSeconds.getD 10
  if sizeBounds : 0 < size ∧ size ≤ memoryMaxMb then
    if holdBounds : 0 < hold ∧ hold ≤ memoryHoldMaxSeconds then
      if body.malformed then none else some ⟨size, hold, sizeBounds, holdBounds⟩
    else none
  else none

def MemoryConfig.sizeBytes (config : MemoryConfig) : ℕ := (int (config.sizeMb * 1024 * 1024)).toNat

end AutoSre.Chaos
