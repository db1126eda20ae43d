import Ldc1614.Driver.Records

/-! # What an acquisition gathers

The scratch data of a job, as a function of its stage and the reply: only the successful reads of an
acquisition add to it, each the word it is for. -/

namespace Ldc1614

open Cmd Interaction

/-- The data an acquisition gathers until it is published. -/
structure Gathered where
  msb : U16
  statusBefore : DeviceStatus
  statusAfter : DeviceStatus
  samples : Vector ChannelSample 4
  completed : ChannelMask
  /-- The completed channels as the progress shows them. -/
  shown : ChannelMask

namespace Gathered

/-- What a word read at a stage adds. -/
def add (g : Gathered) : Stage → U16 → Gathered
  | .statusBefore, word => { g with statusBefore := decodeDeviceStatus word }
  | .dataMsb _, word => { g with msb := word }
  | .dataLsb index, word =>
      { g with
        samples := store g.samples index (decodeChannelSample g.msb word)
        completed := ⟨g.completed.bits ||| indexBit index⟩
        shown := ⟨g.completed.bits ||| indexBit index⟩ }
  | .statusAfter, word => { g with statusAfter := decodeDeviceStatus word }
  | _, _ => g

end Gathered

namespace Driver

variable {d : Driver} {stage : Stage} {reply : Reply}

/-- What the active job has gathered. -/
def gathered (d : Driver) : Gathered where
  msb := d.scratchMsb
  statusBefore := d.scratchStatusBefore
  statusAfter := d.scratchStatusAfter
  samples := d.scratchSamples
  completed := d.scratchCompleted
  shown := d.progress.completedChannels

/-- A failed write leaves the scratch data alone. -/
theorem writeFault_gathered (trust : AppliedConfigState) (phase : JobPhase) (reg : U8)
    (channel : Channel) (status : Status) :
    (d.writeFault trust phase reg channel status).gathered = d.gathered := by
  unfold writeFault
  dsimp only
  split <;> rfl

/-- So does every failed transfer. -/
theorem failedAt_gathered (status : Status) : (d.failedAt stage status).gathered = d.gathered := by
  cases stage with
  | reset => exact writeFault_gathered ..
  | profile applyStep => exact writeFault_gathered ..
  | _ => rfl

/-- A transfer that passed adds its word. -/
theorem passedAt_gathered (word : U16) :
    (d.passedAt stage word).gathered = d.gathered.add stage word := by
  cases stage with
  | identity index =>
      simp only [passedAt]
      split <;> rfl
  | profile applyStep =>
      simp only [passedAt]
      split <;> rfl
  | _ => rfl

/-- **What a transfer gathers**: its word, if it succeeded. -/
theorem settled_gathered (d : Driver) (stage : Stage) (reply : Reply) :
    (d.settled stage reply).gathered =
      if reply.status.isOk then d.gathered.add stage reply.word else d.gathered := by
  unfold settled
  dsimp only
  by_cases hok : reply.status.isOk = true
  · rw [if_neg (by simp [hok]), if_pos hok, passedAt_gathered]
    rfl
  · rw [if_pos (by simp [hok]), if_neg hok, failedAt_gathered]
    rfl

end Driver

end Ldc1614
