import Ldc1614.Driver.Evaluate
import Ldc1614.Interaction.Clock

/-! # Deadlines and budgets

What one `poll` spends. Owner time is a natural number of milliseconds that reaches the driver
modulo `2 ^ 64`. Past the deadline `poll` is silent and ends the job; before it, the callbacks of one
`poll` share one timeout, and all of them together fit into the time and the transfers that are
left. -/

namespace Ldc1614

open Interaction

namespace Driver

variable {d d' : Driver} {stage : Stage} {nowMs : U64} {timeoutMs : U32} {budget : ℕ}
  {events : List Event} {out : Driver × Status}

/-! ### The callbacks of one poll -/

/-- A budget of transfers is not exceeded, and every one of them has the same timeout. -/
theorem drive_events (h : d.Running stage) (hvalid : d.config.Valid)
    (hy : (drive nowMs timeoutMs budget d).Yields events out) :
    events.length ≤ budget ∧ (0 < budget → 0 < events.length) ∧
      ∀ event ∈ events, event.1.timeoutMs = some timeoutMs := by
  induction budget generalizing d stage events with
  | zero =>
      obtain ⟨rfl, -⟩ := hy
      exact ⟨Nat.zero_le _, fun h => absurd h (Nat.lt_irrefl 0), by simp⟩
  | succ budget ih =>
      simp only [drive, h.here, Program.yields_call] at hy
      obtain ⟨reply, rest, rfl, hy⟩ := hy
      have hrest : rest.length ≤ budget ∧ ∀ event ∈ rest, event.1.timeoutMs = some timeoutMs := by
        cases hv : d.verdict stage reply with
        | none =>
            rw [resume_of_none hv] at hy
            obtain ⟨next, hnext⟩ := h.settled hvalid hv
            have hih := ih hnext (by rw [settled_config]; exact hvalid) hy
            exact ⟨hih.1, hih.2.2⟩
        | some verdict =>
            rw [resume_of_some hv] at hy
            obtain ⟨rfl, -⟩ := hy
            exact ⟨Nat.zero_le _, by simp⟩
      refine ⟨by simpa using hrest.1, fun _ => by simp, fun event hevent => ?_⟩
      rcases List.mem_cons.mp hevent with rfl | hevent
      · exact timeoutMs_request ..
      · exact hrest.2 event hevent

/-! ### The shared timeout -/

/-- The timeout is the fair share of the time left, capped; the narrowing loses nothing. -/
theorem transferTimeoutMs_toNat (d : Driver) (nowMs : U64) (remaining : U8) :
    (d.transferTimeoutMs nowMs remaining).toNat =
      min ((d.progress.deadlineMs - nowMs).toNat / remaining.toNat) d.config.i2cTimeoutMs.toNat := by
  have hcap : (d.config.i2cTimeoutMs.setWidth 64).toNat = d.config.i2cTimeoutMs.toNat := by
    rw [BitVec.toNat_setWidth]
    exact Nat.mod_eq_of_lt (lt_of_lt_of_le d.config.i2cTimeoutMs.isLt (by decide))
  have hwidth : (remaining.setWidth 64).toNat = remaining.toNat := by
    rw [BitVec.toNat_setWidth]
    exact Nat.mod_eq_of_lt (lt_of_lt_of_le remaining.isLt (by decide))
  have hshare : ((d.progress.deadlineMs - nowMs) / remaining.setWidth 64).toNat =
      (d.progress.deadlineMs - nowMs).toNat / remaining.toNat := by
    rw [BitVec.toNat_udiv, hwidth]
  unfold transferTimeoutMs
  dsimp only
  rw [← hshare, ← hcap, BitVec.toNat_setWidth]
  have hlt := d.config.i2cTimeoutMs.isLt
  split
  · next h =>
      have hnat := BitVec.lt_def.mp h
      rw [min_eq_left hnat.le]
      exact Nat.mod_eq_of_lt (by omega)
  · next h =>
      rw [min_eq_right (BitVec.le_def.mp (BitVec.not_lt.mp h))]
      exact Nat.mod_eq_of_lt (by omega)

/-- Owner time is compared with the deadline as if it did not wrap. -/
theorem dueOrPast_ofNat {T D : ℕ} (hlate : T < D + 2 ^ 63) (hearly : D < T + 2 ^ 63) :
    dueOrPast (BitVec.ofNat 64 T) (BitVec.ofNat 64 D) = decide (D ≤ T) := by
  have hclock := Clock.sub_lt_half (w := 64) (by decide) hearly hlate
  have hhalf : (1 <<< 63 : U64).toNat = 2 ^ (64 - 1) := rfl
  simp only [dueOrPast, BitVec.lt_def, hhalf, hclock]

end Driver

/-! ### The contract of poll -/

open Driver

/-- An active job of a reachable driver with true deadline `D`, looked at at true time `T`. Both are
unbounded milliseconds, less than half the range of the clock apart. -/
structure Due (d : Driver) (T D : ℕ) : Prop where
  reachable : Reachable d
  active : d.progress.active = true
  deadline : d.progress.deadlineMs = BitVec.ofNat 64 D
  late : T < D + 2 ^ 63
  early : D < T + 2 ^ 63

/-- The number of transfers one `poll` may make. -/
def allowance (d : Driver) (maxTransfers : U8) (timeLeft : ℕ) : ℕ :=
  min (min maxTransfers.toNat
    (d.progress.maximumTransfers.toNat - d.progress.completedTransfers.toNat)) timeLeft

namespace Due

variable {d : Driver} {T D : ℕ} {maxTransfers : U8}

/-- The wrapped comparison decides the true one. -/
theorem dueOrPast_eq (h : Due d T D) :
    dueOrPast (BitVec.ofNat 64 T) d.progress.deadlineMs = decide (D ≤ T) := by
  rw [h.deadline]
  exact dueOrPast_ofNat h.late h.early

/-- The wrapped difference is the time left. -/
theorem timeLeft (h : Due d T D) (hlt : T < D) :
    (d.progress.deadlineMs - BitVec.ofNat 64 T).toNat = D - T := by
  rw [h.deadline]
  have := h.early
  exact Clock.toNat_sub_of_le hlt.le (by omega)

/-- The budget is the allowance, although it is computed in eight bits. -/
theorem transferBudget_toNat (h : Due d T D) (hlt : T < D) :
    (d.transferBudget (BitVec.ofNat 64 T) maxTransfers).toNat =
      allowance d maxTransfers (D - T) := by
  obtain ⟨stage, hrun⟩ := h.reachable.wellFormed.running h.active
  rw [hrun.transferBudget_toNat, h.timeLeft hlt, allowance]

/-- Before the deadline a nonzero budget stays nonzero. -/
theorem transferBudget_ne_zero (h : Due d T D) (hlt : T < D) (hmax : maxTransfers ≠ 0) :
    d.transferBudget (BitVec.ofNat 64 T) maxTransfers ≠ 0 := by
  obtain ⟨stage, hrun⟩ := h.reachable.wellFormed.running h.active
  refine hrun.transferBudget_ne_zero ?_ hmax
  rw [h.dueOrPast_eq, decide_eq_false (by omega)]

/-- Past the deadline `poll` only ends the job. -/
theorem poll_expired (h : Due d T D) (hge : D ≤ T) :
    ∃ d' result, d.poll (BitVec.ofNat 64 T) maxTransfers = .done (d', deadlineExpired) ∧
      d'.progress.active = false ∧ d'.queue = d.queue ++ [result] ∧
      result.outcome = .timedOut ∧ result.operationId = d.progress.operationId := by
  obtain ⟨stage, hrun⟩ := h.reachable.wellFormed.running h.active
  have hdue := h.dueOrPast_eq
  rw [decide_eq_true hge] at hdue
  let e := d.recordInterruption deadlineExpired
  have hframe : e.frame = d.frame := recordInterruption_frame _
  have hcount : e.resultCount = d.resultCount := (congrArg resultCount hframe :)
  have hqueue : e.queue = d.queue := (congrArg queue hframe :)
  refine ⟨(e.finishJob .timedOut deadlineExpired (BitVec.ofNat 64 T)).1,
    e.terminalResult .timedOut deadlineExpired (BitVec.ofNat 64 T), ?_, rfl, ?_, rfl, ?_⟩
  · rw [poll_of_due h.active hdue]
    rfl
  · rw [finishJob_queue _ _ (hcount ▸ hrun.slot), hqueue]
  · exact (congrArg (JobProgress.operationId ∘ progress) hframe :)

/-- Without a budget `poll` changes nothing. -/
theorem poll_zero (h : Due d T D) (hlt : T < D) :
    d.poll (BitVec.ofNat 64 T) 0 = .done (d, pollInProgress) := by
  have hdue := h.dueOrPast_eq
  rw [decide_eq_false (by omega)] at hdue
  exact Driver.poll_zero h.active hdue

/-- The timeout of the transfers of one `poll` before the deadline. -/
def share (d : Driver) (T : ℕ) (maxTransfers : U8) : U32 :=
  d.transferTimeoutMs (BitVec.ofNat 64 T) (d.transferBudget (BitVec.ofNat 64 T) maxTransfers)

/-- The timeout of a transfer is its share of the time left, within the configured one. -/
theorem share_toNat (h : Due d T D) (hlt : T < D) :
    (share d T maxTransfers).toNat =
      min ((D - T) / allowance d maxTransfers (D - T)) d.config.i2cTimeoutMs.toNat := by
  rw [share, transferTimeoutMs_toNat, h.timeLeft hlt, h.transferBudget_toNat hlt]

/-- Before the deadline `poll` makes at least one callback and at most its allowance, all with the
fair share as timeout. -/
theorem poll_events (h : Due d T D) (hlt : T < D) (hmax : maxTransfers ≠ 0) {events : List Event}
    {out : Driver × Status} (hy : (d.poll (BitVec.ofNat 64 T) maxTransfers).Yields events out) :
    1 ≤ events.length ∧ events.length ≤ allowance d maxTransfers (D - T) ∧
      ∀ event ∈ events, event.1.timeoutMs = some (share d T maxTransfers) := by
  obtain ⟨stage, hrun⟩ := h.reachable.wellFormed.running h.active
  have hvalid := h.reachable.wellFormed.validProfile hrun.bound
  rw [poll_eq_drive hrun hvalid (by rw [h.dueOrPast_eq, decide_eq_false (by omega)]) hmax] at hy
  obtain ⟨hle, hpos, hall⟩ := drive_events hrun hvalid hy
  rw [h.transferBudget_toNat hlt] at hle hpos
  have hbudget := h.transferBudget_ne_zero hlt hmax
  refine ⟨hpos (Nat.pos_of_ne_zero fun hzero => hbudget (BitVec.eq_of_toNat_eq ?_)), hle, hall⟩
  rw [h.transferBudget_toNat hlt, hzero]
  rfl

/-- The fair share is a usable timeout, and the allowance of such timeouts ends by the deadline. -/
theorem share_bounds (h : Due d T D) (hlt : T < D) (hmax : maxTransfers ≠ 0) :
    1 ≤ (share d T maxTransfers).toNat ∧
      (share d T maxTransfers).toNat ≤ d.config.i2cTimeoutMs.toNat ∧
      allowance d maxTransfers (D - T) * (share d T maxTransfers).toNat ≤ D - T := by
  obtain ⟨stage, hrun⟩ := h.reachable.wellFormed.running h.active
  have hcap : 0 < d.config.i2cTimeoutMs.toNat := Nat.pos_of_ne_zero fun hzero =>
    (h.reachable.wellFormed.validProfile hrun.bound).timeout (BitVec.eq_of_toNat_eq hzero)
  have hpos : 0 < allowance d maxTransfers (D - T) := by
    rw [← h.transferBudget_toNat hlt]
    exact Nat.pos_of_ne_zero fun hzero =>
      h.transferBudget_ne_zero hlt hmax (BitVec.eq_of_toNat_eq hzero)
  have hle : allowance d maxTransfers (D - T) ≤ D - T := min_le_right _ _
  rw [h.share_toNat hlt]
  refine ⟨le_min (Nat.div_pos hle hpos) hcap, min_le_right _ _, ?_⟩
  calc allowance d maxTransfers (D - T) *
        min ((D - T) / allowance d maxTransfers (D - T)) d.config.i2cTimeoutMs.toNat
      ≤ allowance d maxTransfers (D - T) * ((D - T) / allowance d maxTransfers (D - T)) :=
        Nat.mul_le_mul_left _ (min_le_left _ _)
    _ ≤ D - T := Nat.mul_div_le _ _

end Due

/-- **Deadline and budget of one poll.** At or past the deadline `poll` makes no callback and ends
the job timed out. Before it, a budget of zero changes nothing; any other budget leads to at least
one callback and to no more than the budget, the transfers and the milliseconds left, all with one
timeout between one millisecond and the configured cap, and all over by the deadline. Whatever the
transport does, `poll` returns; its divisor is not zero, and its narrowing casts are exact. -/
theorem poll_within_deadline {d : Driver} {T D : ℕ} (h : Due d T D) (maxTransfers : U8) :
    (D ≤ T → ∃ d' result, d.poll (BitVec.ofNat 64 T) maxTransfers = .done (d', deadlineExpired) ∧
      d'.progress.active = false ∧ d'.queue = d.queue ++ [result] ∧
      result.outcome = .timedOut ∧ result.operationId = d.progress.operationId) ∧
    (T < D → maxTransfers = 0 →
      d.poll (BitVec.ofNat 64 T) maxTransfers = .done (d, pollInProgress)) ∧
    (T < D → maxTransfers ≠ 0 → (d.poll (BitVec.ofNat 64 T) maxTransfers).Safe ∧
      ∃ t : U32, 1 ≤ t.toNat ∧ t.toNat ≤ d.config.i2cTimeoutMs.toNat ∧
        ∀ events out, (d.poll (BitVec.ofNat 64 T) maxTransfers).Yields events out →
          1 ≤ events.length ∧ events.length ≤ allowance d maxTransfers (D - T) ∧
          (∀ event ∈ events, event.1.timeoutMs = some t) ∧ T + events.length * t.toNat ≤ D) ∧
    (T < D → maxTransfers ≠ 0 →
      (d.progress.maximumTransfers - d.progress.completedTransfers).toNat =
        d.progress.maximumTransfers.toNat - d.progress.completedTransfers.toNat ∧
      (d.transferBudget (BitVec.ofNat 64 T) maxTransfers).toNat =
        allowance d maxTransfers (D - T) ∧
      d.transferBudget (BitVec.ofNat 64 T) maxTransfers ≠ 0 ∧
      (d.transferTimeoutMs (BitVec.ofNat 64 T)
          (d.transferBudget (BitVec.ofNat 64 T) maxTransfers)).toNat =
        min ((D - T) / allowance d maxTransfers (D - T)) d.config.i2cTimeoutMs.toNat) := by
  refine ⟨h.poll_expired, fun hlt hmax => hmax ▸ h.poll_zero hlt, fun hlt hmax => ?_,
    fun hlt hmax => ?_⟩
  · obtain ⟨hone, hcap, hsum⟩ := h.share_bounds hlt hmax
    refine ⟨h.reachable.wellFormed.poll_safe _ _, Due.share d T maxTransfers, hone, hcap,
      fun events out hy => ?_⟩
    obtain ⟨hpos, hle, hall⟩ := h.poll_events hlt hmax hy
    refine ⟨hpos, hle, hall, ?_⟩
    -- the callbacks share the time left: their number times the timeout stays within it
    have hmul := Nat.mul_le_mul_right (Due.share d T maxTransfers).toNat hle
    omega
  · obtain ⟨stage, hrun⟩ := h.reachable.wellFormed.running h.active
    exact ⟨hrun.transfersLeft.1, h.transferBudget_toNat hlt, h.transferBudget_ne_zero hlt hmax,
      h.share_toNat hlt⟩

/-- A bench job whose deadline lies behind the wrap of the clock. -/
def benchWrapped : Driver :=
  ((Driver.initial.bind benchProfile).1.startInitialize 7 (BitVec.ofNat 64 (2 ^ 64 + 5))).1

/-- The deadline of the bench lies behind the wrap of its clock. -/
theorem benchWrapped_due : Due benchWrapped (2 ^ 64 - 5) (2 ^ 64 + 5) where
  reachable := by
    have hrun : runFromStart [(.bind benchProfile, []),
        (.startInitialize 7 (BitVec.ofNat 64 (2 ^ 64 + 5)), [])] = some benchWrapped := by
      decide +kernel
    exact reachable_of_runFromStart hrun
  active := by decide +kernel
  deadline := by decide +kernel
  late := by decide
  early := by decide

/-- Ten milliseconds before a deadline behind the wrap, a budget of three is spent within them. -/
theorem poll_within_deadline_wrapped :
    (benchWrapped.poll (BitVec.ofNat 64 (2 ^ 64 - 5)) 3).Safe ∧ ∃ t : U32, 1 ≤ t.toNat ∧
      ∀ events out, (benchWrapped.poll (BitVec.ofNat 64 (2 ^ 64 - 5)) 3).Yields events out →
        1 ≤ events.length ∧ events.length ≤ 3 ∧ events.length * t.toNat ≤ 10 := by
  obtain ⟨hsafe, t, hone, -, hspend⟩ :=
    (poll_within_deadline benchWrapped_due 3).2.2.1 (by decide) (by decide)
  have hthree : allowance benchWrapped 3 (2 ^ 64 + 5 - (2 ^ 64 - 5)) = 3 := by decide +kernel
  refine ⟨hsafe, t, hone, fun events out hy => ?_⟩
  obtain ⟨hpos, hle, -, hend⟩ := hspend events out hy
  rw [hthree] at hle
  exact ⟨hpos, hle, by omega⟩

end Ldc1614
