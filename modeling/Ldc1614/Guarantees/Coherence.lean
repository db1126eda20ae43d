import Ldc1614.Device.Timeline
import Ldc1614.Guarantees.Classification

/-! # Coherence of an acquisition

An acquisition reads a device that converts at any time, in up to ten transfers spread over any
number of polls. Each sample nevertheless holds one whole conversion, because reading the MSB word
latches the LSB word and nothing but the job's own transfers reaches the device in between; and the
two STATUS words say exactly which conversions arrived before and behind it. -/

namespace Ldc1614

open Cmd Interaction Driver

/-! ### The words on the ticks -/

/-- The transfer a mark carries, with the reply. -/
def Mark.carried : Mark → Option (Option Transfer × Reply)
  | .bus _ (request, reply) => if request.observes then none else some (request.transfer, reply)
  | .ret _ _ => none

/-- The transfers on a timeline are those of the run. -/
theorem carried_timeline (ts : List DriverTransition) :
    (timeline ts).filterMap Mark.carried = carried (exchange ts) := by
  rw [← timeline_events]
  induction timeline ts with
  | nil => rfl
  | cons mark labels ih =>
      rw [List.filterMap_cons, List.flatMap_cons, carried_append, ← ih]
      cases mark with
      | ret => rfl
      | bus call event =>
          obtain ⟨request, reply⟩ := event
          cases h : request.observes <;> simp [Mark.carried, Mark.events, carried, h]

namespace Tick

/-- The transfer a tick carries, with the reply. -/
def carried (tick : Tick) : Option (Option Transfer × Reply) := tick.mark.bind Mark.carried

/-- The transfer a tick carries, with the word it returned. -/
def word (tick : Tick) : Option (Option Transfer × U16) :=
  tick.carried.map fun e => (e.1, e.2.word)

/-- Everything the driver was told is well: the transfers of these ticks succeeded. -/
def Succeeded (ticks : List Tick) : Prop :=
  ∀ tick ∈ ticks, ∀ e ∈ tick.carried, e.2.status.isOk = true

end Tick

section Ticks

variable {address : U8} {c : Fin 4} {tick : Tick} {dev dev' : FakeLdc1614Device} {reg : U8}
  {value : U16}

/-- A write that took effect was carried. -/
theorem word_of_stored (h : tick.stored address = some (reg, value)) :
    ∃ word, tick.word = some (some (.write reg value), word) := by
  cases tick with
  | ret => exact nomatch h
  | conversion => exact nomatch h
  | exchange call event forced =>
      obtain ⟨request, reply⟩ := event
      unfold Tick.stored at h
      split at h
      · next heq =>
          cases heq
          split at h
          · obtain ⟨rfl, rfl⟩ := Prod.mk.inj (Option.some.inj h)
            exact ⟨_, rfl⟩
          · exact nomatch h
      · exact nomatch h

/-- A completed read was carried. -/
theorem word_of_completed (h : tick.completed address = some reg) :
    ∃ word, tick.word = some (some (.read reg), word) := by
  cases tick with
  | ret => exact nomatch h
  | conversion => exact nomatch h
  | exchange call event forced =>
      obtain ⟨request, reply⟩ := event
      unfold Tick.completed at h
      split at h
      · next heq =>
          cases heq
          split at h
          · obtain rfl := Option.some.inj h
            exact ⟨_, rfl⟩
          · exact nomatch h
      · exact nomatch h

/-- A transfer that may consume a channel. -/
def Transfer.MayConsume (c : Fin 4) (transfer : Transfer) : Prop :=
  transfer.isWrite = true ∨ transfer = .read regStatus ∨
    transfer = .read (regDataMsb (channelAt c).raw)

/-- Reading an LSB word consumes nothing. -/
theorem lsb_consumes_nothing (c ch : Fin 4) :
    ¬ (Transfer.read (regDataLsb (channelAt ch).raw)).MayConsume c := by
  have hlayout : regDataLsb (channelAt ch).raw ≠ regStatus ∧
      regDataLsb (channelAt ch).raw ≠ regDataMsb (channelAt c).raw := by
    revert c ch
    decide
  rintro (h | h | h)
  · exact nomatch h
  · exact hlayout.1 (Transfer.read.inj h)
  · exact hlayout.2 (Transfer.read.inj h)

/-- Reading an MSB word consumes its channel only. -/
theorem msb_consumes_own {c ch : Fin 4}
    (h : (Transfer.read (regDataMsb (channelAt ch).raw)).MayConsume c) : ch = c := by
  rcases h with h | h | h
  · exact nomatch h
  · exact absurd (Transfer.read.inj h).symm (regStatus_ne_regDataMsb ch)
  · exact regDataMsb_inj.mp (Transfer.read.inj h)

/-- Only a transfer consumes a channel. -/
theorem word_of_consumes (h : Consumes address c tick) :
    ∃ transfer word, tick.word = some (some transfer, word) ∧ transfer.MayConsume c := by
  rcases h with ⟨reg, value, hstored, -⟩ | hread | hread
  · obtain ⟨word, hword⟩ := word_of_stored hstored
    exact ⟨_, word, hword, Or.inl rfl⟩
  · obtain ⟨word, hword⟩ := word_of_completed hread
    exact ⟨_, word, hword, Or.inr (Or.inl rfl)⟩
  · obtain ⟨word, hword⟩ := word_of_completed hread
    exact ⟨_, word, hword, Or.inr (Or.inr rfl)⟩

/-- Ticks whose transfers leave a channel alone. -/
theorem not_consumes {ticks : List Tick} {words : List (Option Transfer × U16)}
    (hwords : ticks.filterMap Tick.word = words)
    (halone : ∀ e ∈ words, ∀ transfer, e.1 = some transfer → ¬ transfer.MayConsume c) :
    ∀ tick ∈ ticks, ¬ Consumes address c tick := by
  intro tick htick hconsumes
  obtain ⟨transfer, word, hword, hmay⟩ := word_of_consumes hconsumes
  refine halone (some transfer, word) ?_ transfer rfl hmay
  rw [← hwords]
  exact List.mem_filterMap.mpr ⟨tick, htick, hword⟩

/-- The exchange behind a word. -/
theorem exchange_of_word {call : Call} {request : Request} {reply : Reply}
    {forced : Option ForcedFailure} {transfer : Option Transfer}
    (h : (Tick.exchange call (request, reply) forced).word = some (transfer, value)) :
    (Tick.exchange call (request, reply) forced).carried = some (transfer, reply) ∧
      request.transfer = transfer ∧ reply.word = value := by
  cases hobserves : request.observes with
  | true => simp [Tick.word, Tick.carried, Tick.mark, Mark.carried, hobserves] at h
  | false =>
      simp only [Tick.word, Tick.carried, Tick.mark, Mark.carried, hobserves, Option.bind_some,
        Bool.false_eq_true, if_false, Option.map_some, Option.some.injEq, Prod.mk.injEq] at h ⊢
      exact ⟨⟨h.1, trivial⟩, h⟩

/-- A successful read is completed: the device was addressed, and returned the word. -/
theorem DeviceTick.completes (h : DeviceTick dev tick dev')
    (hword : tick.word = some (some (.read reg), value))
    (hok : ∀ e ∈ tick.carried, e.2.status.isOk = true) :
    tick.completed dev.acceptedAddress = some reg ∧ value = (dev.readValue reg).2 ∧
      dev' = (dev.readValue reg).1.applyReadSideEffects reg := by
  cases h with
  | ret => cases hword
  | conversion => cases hword
  | @exchange call request reply forced _ hserve =>
      obtain ⟨hcarried, htransfer, rfl⟩ := exchange_of_word hword
      replace hok : reply.status.isOk = true := hok _ hcarried
      unfold Request.transfer at htransfer
      split at htransfer
      · cases htransfer
      · next callback target reg' length timeoutMs user =>
          obtain rfl := Transfer.read.inj (Option.some.inj htransfer)
          unfold FakeLdc1614Device.serve FakeLdc1614Device.writeRead at hserve
          dsimp only at hserve
          split at hserve
          · obtain ⟨-, rfl⟩ := Prod.mk.inj hserve
            exact Bool.noConfusion hok
          · next hlength =>
              split at hserve
              · obtain ⟨-, rfl⟩ := Prod.mk.inj hserve
                exact Bool.noConfusion hok
              · next haddress =>
                  cases forced with
                  | some failure =>
                      obtain ⟨-, rfl⟩ := Prod.mk.inj hserve
                      exact absurd (failure.failed.symm.trans hok) Bool.noConfusion
                  | none =>
                      obtain ⟨rfl, rfl⟩ := Prod.mk.inj hserve
                      rw [not_not] at hlength haddress
                      exact ⟨by simp [Tick.completed, hlength, haddress], word_bytes _, rfl⟩
      · cases htransfer

/-- A tick without a transfer leaves the latched words alone. -/
theorem DeviceTick.shadows (h : DeviceTick dev tick dev') (hword : tick.word = none) :
    dev'.shadowLsb = dev.shadowLsb ∧ dev'.shadowValid = dev.shadowValid := by
  cases h with
  | ret => exact ⟨rfl, rfl⟩
  | conversion conversion =>
      obtain ⟨-, -, hlsb, hvalid⟩ := dev.injectConversion_frame conversion
      exact ⟨hlsb, hvalid⟩
  | @exchange call request reply forced _ hserve =>
      cases request with
      | i2cWrite => exact nomatch hword
      | i2cWriteRead => exact nomatch hword
      | intbAsserted =>
          obtain ⟨rfl, rfl⟩ := Prod.mk.inj hserve
          exact ⟨rfl, rfl⟩

end Ticks

/-! ### Reading a channel -/

/-- The ticks read the channel: the words are those it held at the read, and nothing behind the read
consumes the channel. -/
def HeldAt (address : U8) (c : Fin 4) (past ticks : List Tick) (msb lsb : U16) : Prop :=
  ∃ before read behind, ticks = before ++ read :: behind ∧
    read.completed address = some (regDataMsb (channelAt c).raw) ∧
    HoldsWords address c (past ++ before) msb lsb ∧ ∀ tick ∈ behind, ¬ Consumes address c tick

section Channel

variable {address : U8} {c : Fin 4} {past ticks : List Tick} {dev dev' : FakeLdc1614Device}

/-- The evidence along the life of the device. -/
theorem DeviceLife.evidenced (h : DeviceLife dev ticks dev') (he : Evidenced address past dev) :
    Evidenced address (past ++ ticks) dev' :=
  Path.history (fun past dev => Evidenced address past dev) past he
    (fun _ _ _ _ he hstep => he.step hstep) h

/-- Without transfers the latched words stay. -/
theorem DeviceLife.shadows (h : DeviceLife dev ticks dev') (hquiet : ∀ tick ∈ ticks, tick.word = none) :
    dev'.shadowLsb = dev.shadowLsb ∧ dev'.shadowValid = dev.shadowValid := by
  refine (Path.restrict h hquiet).invariant
    (I := fun m => m.shadowLsb = dev.shadowLsb ∧ m.shadowValid = dev.shadowValid) ⟨rfl, rfl⟩ ?_
  intro m tick m' hm hstep
  obtain ⟨hlsb, hvalid⟩ := hstep.1.shadows hstep.2
  exact ⟨hlsb.trans hm.1, hvalid.trans hm.2⟩

/-- A read of an MSB word returns the live one, and latches the LSB word beside it. -/
theorem readValue_msb (dev : FakeLdc1614Device) (c : Fin 4) :
    dev.readValue (regDataMsb (channelAt c).raw) =
      ({ dev with
        shadowMsb := Function.update dev.shadowMsb c (dev.liveMsb c)
        shadowLsb := Function.update dev.shadowLsb c (dev.liveLsb c)
        shadowValid := Function.update dev.shadowValid c true }, dev.liveMsb c) := by
  rw [FakeLdc1614Device.readValue, if_neg (regStatus_ne_regDataMsb c).symm,
    dataMsbChannel_eq_some.mpr rfl]

/-- A read of an LSB word returns the latched one. -/
theorem readValue_lsb (dev : FakeLdc1614Device) (c : Fin 4) :
    dev.readValue (regDataLsb (channelAt c).raw) =
      (dev, if dev.shadowValid c then dev.shadowLsb c else 0) := by
  have hlayout : regDataLsb (channelAt c).raw ≠ regStatus ∧
      FakeLdc1614Device.dataMsbChannel (regDataLsb (channelAt c).raw) = none ∧
      FakeLdc1614Device.dataLsbChannel (regDataLsb (channelAt c).raw) = some c := by
    revert c
    decide
  obtain ⟨hstatus, hmsb, hlsb⟩ := hlayout
  rw [FakeLdc1614Device.readValue, if_neg hstatus, hmsb]
  dsimp only
  rw [hlsb]

/-- What a completed read clears are not the latched words. -/
theorem applyReadSideEffects_shadows (dev : FakeLdc1614Device) (reg : U8) :
    (dev.applyReadSideEffects reg).shadowLsb = dev.shadowLsb ∧
      (dev.applyReadSideEffects reg).shadowValid = dev.shadowValid := by
  unfold FakeLdc1614Device.applyReadSideEffects
  split
  · exact ⟨rfl, rfl⟩
  · split
    · exact ⟨rfl, rfl⟩
    · dsimp only
      split <;> exact ⟨rfl, rfl⟩

/-- Ticks behind that leave the channel alone do not matter. -/
theorem HeldAt.append {msb lsb : U16} (h : HeldAt address c past ticks msb lsb) {more : List Tick}
    (hkept : ∀ tick ∈ more, ¬ Consumes address c tick) :
    HeldAt address c past (ticks ++ more) msb lsb := by
  obtain ⟨before, read, behind, rfl, hread, hwords, hbehind⟩ := h
  refine ⟨before, read, behind ++ more, by simp, hread, hwords, fun tick htick => ?_⟩
  rcases List.mem_append.mp htick with htick | htick
  · exact hbehind tick htick
  · exact hkept tick htick

/-- **The two words of a channel are of one conversion**, whatever converts between the reads. -/
theorem heldAt_of_words (hlife : DeviceLife dev ticks dev') (he : Evidenced address past dev)
    {msb lsb : U16} (hok : Tick.Succeeded ticks)
    (hwords : ticks.filterMap Tick.word =
      [(some (.read (regDataMsb (channelAt c).raw)), msb),
        (some (.read (regDataLsb (channelAt c).raw)), lsb)]) :
    HeldAt address c past ticks msb lsb := by
  obtain ⟨before, read, rest, rfl, hbefore, hread, hrest⟩ := List.filterMap_eq_cons_iff.mp hwords
  obtain ⟨mid, readLsb, behind, rfl, hmid, hreadLsb, hbehind⟩ := List.filterMap_eq_cons_iff.mp hrest
  obtain ⟨m, m', hfront, hstep, hback⟩ := Path.around hlife
  obtain ⟨n, n', hbetween, hstepLsb, -⟩ := Path.around hback
  have hm : Evidenced address (past ++ before) m := DeviceLife.evidenced hfront he
  obtain ⟨hcompleted, hmsb, hm'⟩ := hstep.completes hread (hok read (by simp))
  obtain ⟨-, hlsb, -⟩ := hstepLsb.completes hreadLsb (hok readLsb (by simp))
  rw [readValue_msb] at hmsb
  -- the LSB word is the one latched with the MSB word
  have hlatched : n.shadowLsb c = m.liveLsb c ∧ n.shadowValid c = true := by
    obtain ⟨hkeptLsb, hkeptValid⟩ := DeviceLife.shadows hbetween hmid
    obtain ⟨heffectLsb, heffectValid⟩ :=
      applyReadSideEffects_shadows (m.readValue (regDataMsb (channelAt c).raw)).1
        (regDataMsb (channelAt c).raw)
    rw [hkeptLsb, hkeptValid, hm', heffectLsb, heffectValid, readValue_msb]
    exact ⟨Function.update_self _ _ _, Function.update_self _ _ _⟩
  rw [readValue_lsb] at hlsb
  dsimp only at hlsb
  rw [hlatched.2, if_pos rfl, hlatched.1] at hlsb
  refine ⟨before, read, mid ++ readLsb :: behind, by simp, ?_, ?_, ?_⟩
  · rw [← hm.accepts]
    exact hcompleted
  · rw [hmsb, hlsb]
    exact hm.words c
  · refine not_consumes hrest fun e he transfer htransfer => ?_
    obtain rfl := List.mem_singleton.mp he
    obtain rfl := Option.some.inj htransfer
    exact lsb_consumes_nothing c c

/-- **Each channel of the readout holds one conversion.** -/
theorem heldAt_of_channels {w : AcquiredWords} {channels : List (Fin 4)}
    (hlife : DeviceLife dev ticks dev') (he : Evidenced address past dev)
    (hok : Tick.Succeeded ticks) (hnodup : channels.Nodup)
    (hwords : ticks.filterMap Tick.word = channels.flatMap fun index =>
      [(some (.read (regDataMsb (channelAt index).raw)), w.msb index),
        (some (.read (regDataLsb (channelAt index).raw)), w.lsb index)]) :
    ∀ c ∈ channels, HeldAt address c past ticks (w.msb c) (w.lsb c) := by
  induction channels generalizing past ticks dev with
  | nil => simp
  | cons index channels ih =>
      rw [List.flatMap_cons] at hwords
      obtain ⟨first, rest, rfl, hfirst, hrest⟩ := List.filterMap_eq_append_iff.mp hwords
      obtain ⟨m, hfront, hback⟩ := Path.split hlife
      obtain ⟨hfresh, hnodup⟩ := List.nodup_cons.mp hnodup
      have hokFirst : Tick.Succeeded first := fun tick h => hok tick (List.mem_append_left _ h)
      have hokRest : Tick.Succeeded rest := fun tick h => hok tick (List.mem_append_right _ h)
      intro c hc
      rcases List.mem_cons.mp hc with rfl | hc
      · refine (heldAt_of_words hfront he hokFirst hfirst).append ?_
        -- the channels behind are others
        refine not_consumes hrest fun e hmem transfer htransfer => ?_
        obtain ⟨other, hother, hmem⟩ := List.mem_flatMap.mp hmem
        rcases List.mem_pair.mp hmem with rfl | rfl
        · obtain rfl := Option.some.inj htransfer
          exact fun hmay => hfresh (msb_consumes_own hmay ▸ hother)
        · obtain rfl := Option.some.inj htransfer
          exact lsb_consumes_nothing c other
      · obtain ⟨before, read, behind, rfl, hread, hheld, hkept⟩ :=
          ih hback (DeviceLife.evidenced hfront he) hokRest hnodup hrest c hc
        exact ⟨first ++ before, read, behind, by simp, hread, by simpa using hheld, hkept⟩

end Channel

/-! ### The readout of a job -/

/-- The part of the device's life in which a job reads it, from its opening to its closing STATUS
read. No transfer but the job's own falls into it, and none between the start call and it. -/
structure Readout (address : U8) {ts : List DriverTransition} (job : JobLife ts)
    (ticks : List Tick) where
  before : List Tick
  opening : Tick
  data : List Tick
  closing : Tick
  after : List Tick
  whole : ticks = before ++ opening :: (data ++ closing :: after)
  opens : opening.completed address = some regStatus
  closes : closing.completed address = some regStatus
  own : (opening :: (data ++ [closing])).filterMap Tick.carried =
    carried (exchange (job.mid ++ [job.last]))
  idle : ∃ marks, before.filterMap Tick.mark = timeline (job.past ++ [job.start]) ++ marks ∧
    ∀ mark ∈ marks, mark.carried = none

section Readout

variable {address : U8} {ts : List DriverTransition} {u : Driver} {job : JobLife ts}
  {mask : ChannelMask} {operationId deadlineMs : U64} {ticks : List Tick} {w : AcquiredWords}

/-- The transfers of a job that succeeded have succeeded. -/
theorem succeeded_of_success (h : DriverRun Driver.initial ts u) (job : JobLife ts)
    (hsuccess : job.result.outcome = .success) :
    ∀ e ∈ carried (exchange (job.mid ++ [job.last])), e.2.status.isOk = true := by
  obtain ⟨hbefore, hstart, -⟩ := job.around h
  have hw := run_wellFormed wellFormed_initial hbefore
  have hall := (gathering_rule job.start.after).life h job
    (gathering_of_admitted hw hstart job.admitted)
  rw [carried_of_life h job]
  intro e he
  obtain ⟨made, hmade, rfl⟩ := List.mem_map.mp he
  exact (hall.success.mp hsuccess).2 made hmade

/-- The words of a job's transfers are those its callbacks returned. -/
theorem reads_of_life (h : DriverRun Driver.initial ts u) (job : JobLife ts)
    (hreads : (jobTransfers (job.mid ++ [job.last])).map (fun e => (some e.1, e.2.word)) =
      w.reads mask) :
    (carried (exchange (job.mid ++ [job.last]))).map (fun e => (e.1, e.2.word)) =
      w.reads mask := by
  rw [carried_of_life h job, List.map_map]
  exact hreads

/-- The transfers on the ticks of a timeline. -/
theorem carried_of_marks {part : List Tick} {calls : List DriverTransition}
    (h : part.filterMap Tick.mark = timeline calls) :
    part.filterMap Tick.carried = carried (exchange calls) := by
  rw [← carried_timeline, ← h, List.filterMap_filterMap]
  rfl

/-- The STATUS word tells which channels are unread, and whose errors it reports. -/
theorem status_shows {dev dev' : FakeLdc1614Device} {tick : Tick} {past : List Tick}
    {value : U16} (he : Evidenced address past dev) (h : DeviceTick dev tick dev')
    (hword : tick.word = some (some (.read regStatus), value))
    (hok : ∀ e ∈ tick.carried, e.2.status.isOk = true) :
    tick.completed address = some regStatus ∧
      (∀ c, unreadIn value c = true ↔ Unread address c past) ∧
      ∀ c i, 8 ≤ i → i < 14 → statusBlames value c (1#16 <<< i) = true →
        StatusError address c i past := by
  obtain ⟨hcompleted, hvalue, -⟩ := h.completes hword hok
  have hstatus : (dev.readValue regStatus).2 = dev.statusValue := by
    rw [FakeLdc1614Device.readValue, if_pos rfl]
  rw [hstatus] at hvalue
  subst hvalue
  refine ⟨he.accepts ▸ hcompleted, fun c => ?_, fun c i => he.records.blames⟩
  rw [unreadIn_statusValue he.records.errors, he.unread c]

/-- The timeline around a job. -/
theorem timeline_of_job (job : JobLife ts) :
    timeline ts = timeline (job.past ++ [job.start]) ++
      (timeline (job.mid ++ [job.last]) ++ timeline job.later) := by
  have hcalls : ts = (job.past ++ [job.start]) ++ ((job.mid ++ [job.last]) ++ job.later) := by
    rw [List.append_assoc, List.append_assoc]
    exact job.calls
  refine (congrArg timeline hcalls).trans ?_
  simp only [timeline, List.flatMap_append]

/-- **Every successful acquisition has its readout.** -/
theorem exists_readout {dev : FakeLdc1614Device} (h : DriverRun Driver.initial ts u)
    (hsuccess : job.result.outcome = .success)
    (hreads : (carried (exchange (job.mid ++ [job.last]))).map (fun e => (e.1, e.2.word)) =
      w.reads mask)
    (hlife : DeviceLife (.constructed address) ticks dev)
    (hmarks : ticks.filterMap Tick.mark = timeline ts) :
    ∃ readout : Readout address job ticks,
      (∀ c, unreadIn w.before c = true ↔ Unread address c readout.before) ∧
      (∀ c i, 8 ≤ i → i < 14 → statusBlames w.before c (1#16 <<< i) = true →
        StatusError address c i readout.before) ∧
      (∀ c ∈ maskChannels mask,
        HeldAt address c (readout.before ++ [readout.opening]) readout.data (w.msb c) (w.lsb c)) ∧
      ∀ c, unreadIn w.after c = true ↔
        Unread address c (readout.before ++ readout.opening :: readout.data) := by
  -- the life is cut where the job begins and where it ends
  rw [timeline_of_job job] at hmarks
  obtain ⟨early, rest, rfl, hearly, hrest⟩ := List.filterMap_eq_append_iff.mp hmarks
  obtain ⟨own, late, rfl, hown, hlate⟩ := List.filterMap_eq_append_iff.mp hrest
  have hcarried := carried_of_marks hown
  -- its words are those of the job, in order
  have hwords : own.filterMap Tick.word = w.reads mask := by
    rw [← hreads, ← hcarried, List.map_filterMap]
    rfl
  have hok : Tick.Succeeded own := by
    intro tick htick e he
    refine succeeded_of_success h job hsuccess e ?_
    rw [← hcarried]
    exact List.mem_filterMap.mpr ⟨tick, htick, he⟩
  -- the first and the last of them cut it at the two STATUS reads
  rw [AcquiredWords.reads, List.cons_append] at hwords
  obtain ⟨idle, opening, tail, rfl, hidle, hopening, htail⟩ := List.filterMap_eq_cons_iff.mp hwords
  obtain ⟨data, rest, rfl, hdata, hrest⟩ := List.filterMap_eq_append_iff.mp htail
  obtain ⟨quiet, closing, behind, rfl, hquiet, hclosing, hbehind⟩ :=
    List.filterMap_eq_cons_iff.mp hrest
  have hwhole : early ++ ((idle ++ opening :: (data ++ (quiet ++ closing :: behind))) ++ late) =
      (early ++ idle) ++ opening :: ((data ++ quiet) ++ closing :: (behind ++ late)) := by
    simp
  rw [hwhole] at hlife
  obtain ⟨m, m', hfront, hopen, hback⟩ := Path.around hlife
  obtain ⟨n, n', hreadout, hclose, -⟩ := Path.around hback
  obtain ⟨k, hchannels, -⟩ := Path.split hreadout
  -- the evidence of the device is carried from its construction to both of them
  have hm := DeviceLife.evidenced hfront (evidenced_constructed address)
  rw [List.nil_append] at hm
  have hm' := hm.step hopen
  have hn := DeviceLife.evidenced hreadout hm'
  obtain ⟨hopens, hfresh, hblames⟩ := status_shows hm hopen hopening (hok opening (by simp))
  obtain ⟨hcloses, hlost, -⟩ := status_shows hn hclose hclosing (hok closing (by simp))
  have hheld := heldAt_of_channels hchannels hm'
    (fun tick htick => hok tick (by simp [htick])) ((List.nodup_finRange 4).filter _) hdata
  have hnone {part : List Tick} (h : ∀ tick ∈ part, tick.word = none) :
      part.filterMap Tick.carried = [] :=
    List.filterMap_eq_nil_iff.mpr fun tick htick => Option.map_eq_none_iff.mp (h tick htick)
  refine ⟨⟨early ++ idle, opening, data ++ quiet, closing, behind ++ late, hwhole, hopens, hcloses,
    ?_, idle.filterMap Tick.mark, ?_, ?_⟩, hfresh, hblames, fun c hc => ?_, fun c => ?_⟩
  · have hlast : behind.filterMap Tick.carried = [] :=
      hnone (List.filterMap_eq_nil_iff.mp hbehind)
    have hparts : idle ++ opening :: (data ++ (quiet ++ closing :: behind)) =
        idle ++ (opening :: ((data ++ quiet) ++ [closing]) ++ behind) := by
      simp
    rw [← hcarried, hparts, List.filterMap_append, List.filterMap_append, hnone hidle, hlast,
      List.nil_append, List.append_nil]
  · rw [List.filterMap_append, hearly]
  · intro mark hmark
    obtain ⟨tick, htick, hmark⟩ := List.mem_filterMap.mp hmark
    have hcarries : tick.carried = none := Option.map_eq_none_iff.mp (hidle tick htick)
    rwa [Tick.carried, hmark] at hcarries
  · exact (hheld c hc).append (not_consumes (List.filterMap_eq_nil_iff.mpr hquiet) (by simp))
  · have hparts : early ++ idle ++ [opening] ++ (data ++ quiet) =
        early ++ idle ++ opening :: (data ++ quiet) := by
      simp
    rw [hparts] at hlost
    exact hlost c

/-- **Acquisition is coherent under every interleaving with conversions.** Take any run, any life of
the device under it with conversions of any channels between any two transfers, and an acquisition
that succeeds. The sample of each requested channel holds the code of one conversion, the last one
before the channel's MSB read; it is FRESH exactly if the channel had converted before the opening
STATUS read and was not consumed since; and it is DATA_LOST exactly if the channel converted again
between its MSB read and the closing STATUS read. -/
theorem acquisition_coherent (ts : List DriverTransition) (u : Driver) (job : JobLife ts)
    (mask : ChannelMask) (operationId deadlineMs : U64) (address : U8) (ticks : List Tick)
    (dev : FakeLdc1614Device) (h : DriverRun Driver.initial ts u)
    (hcall : job.start.call = .startAcquire mask operationId deadlineMs)
    (hsuccess : job.result.outcome = .success)
    (hlife : DeviceLife (.constructed address) ticks dev)
    (hmarks : ticks.filterMap Tick.mark = timeline ts) :
    job.result.hasSampleBatch = true ∧
    ∃ readout : Readout address job ticks, ∀ c ∈ maskChannels mask,
      let sample := job.result.sampleBatch.channel.get c
      (hasSampleQuality sample.quality .fresh = true ↔ Unread address c readout.before) ∧
      (hasSampleQuality sample.quality .stale = true ↔ ¬ Unread address c readout.before) ∧
      ∃ before read behind, readout.data = before ++ read :: behind ∧
        read.completed address = some (regDataMsb (channelAt c).raw) ∧
        HoldsCode address c (readout.before ++ readout.opening :: before)
          sample.rawCount28.toNat ∧
        (hasSampleQuality sample.quality .dataLost = true ↔ ∃ tick ∈ behind, Converts c tick) := by
  obtain ⟨w, hreads, hbatch, hpublishes⟩ := publishes_of_success h job hcall hsuccess
  obtain ⟨readout, hfresh, -, hheld, hlost⟩ :=
    exists_readout h hsuccess (reads_of_life h job hreads) hlife hmarks
  refine ⟨hbatch, readout, fun c hc => ?_⟩
  dsimp only
  -- the sample is a function of the words that the job has read
  rw [hpublishes.quality c hc, hpublishes.quality c hc, hpublishes.quality c hc,
    (hpublishes.raw c hc).2.2]
  refine ⟨hfresh c, ?_, ?_⟩
  · rw [AcquiredWords.flags, Bool.not_eq_true', ← hfresh c, Bool.not_eq_true]
  · obtain ⟨before, read, behind, hdata, hread, hwords, hkept⟩ := hheld c hc
    refine ⟨before, read, behind, hdata, hread, by simpa [AcquiredWords.code] using hwords.code,
      (hlost c).trans ?_⟩
    -- a conversion behind the MSB read is the one that the closing STATUS word reports
    have hparts : readout.before ++ readout.opening :: readout.data =
        (readout.before ++ readout.opening :: before) ++ read :: behind := by
      rw [hdata]
      simp
    rw [hparts]
    refine since_behind (Or.inr (Or.inr hread)) (fun hconverts => ?_) hkept
    obtain ⟨conversion, rfl, -⟩ := hconverts
    cases hread

/-! ### Whose faults a sample reports -/

/-- The STATUS error bits behind a flag. -/
def SampleQualityFlag.statusErrors : SampleQualityFlag → List ℕ
  | .underRange => [13]
  | .overRange => [12]
  | .watchdog => [11]
  | .amplitudeSuspect => [10, 9]
  | .zeroCount => [8]
  | _ => []

end Readout

/-- An acquisition of channel 0 in two polls, with these upper bytes of its first two words. -/
def benchReadout (opening msb : U8) : List (Call × List Reply) :=
  [(.bind benchProfile, []), (.startInitialize 7 1000, []),
    (.poll 10 15, replied 0x54 0x49 :: replied 0x30 0x55 :: List.replicate 13 (replied 0 0)),
    (.wake, [replied 0 0]), (.startAcquire ⟨0x01⟩ 8 1000, []),
    (.poll 20 2, [replied opening 0x08, replied msb 0x23]),
    (.poll 30 2, [replied 0x45 0x67, replied 0x00 0x08])]

/-- Channel 0 converts before the acquisition, and again between the two reads of its words. -/
def benchTicks (opening msb : U8) (conversion : Conversion) : List Tick :=
  let ticks := (timeline (runOf (benchReadout opening msb)).1).map Mark.tick
  ticks.take 21 ++ .conversion conversion ::
    ((ticks.drop 21).take 3 ++ .conversion { ch := 0, raw28 := 0x89ABCDE } :: ticks.drop 24)

/-- A conversion without errors. -/
def benchConversion : Conversion := { ch := 0, raw28 := 0x1234567 }

/-- The job of the bench with its result, and the device beside it. -/
theorem exists_benchReadout {opening msb : U8} {conversion : Conversion} {sample : ChannelSample}
    (hlives : livesAt (runOf (benchReadout opening msb)).1 4 1 = true)
    (hcall : (runOf (benchReadout opening msb)).1[4]?.map (fun t => t.call) =
      some (.startAcquire ⟨0x01⟩ 8 1000))
    (hresult : (runOf (benchReadout opening msb)).1[6]?.bind (fun t =>
      (account t).finished.map fun result =>
        (result.outcome, result.sampleBatch.channel.get 0)) = some (.success, sample))
    (hfollow : ((FakeLdc1614Device.constructed 0x2A).follow
      (benchTicks opening msb conversion)).isSome = true) :
    ∃ job : JobLife (runOf (benchReadout opening msb)).1, ∃ dev,
      job.start.call = .startAcquire ⟨0x01⟩ 8 1000 ∧ job.result.outcome = .success ∧
      job.result.sampleBatch.channel.get 0 = sample ∧
      DeviceLife (.constructed 0x2A) (benchTicks opening msb conversion) dev := by
  obtain ⟨dev, hfollow⟩ := Option.isSome_iff_exists.mp hfollow
  obtain ⟨job, hstart, hlast, -⟩ := exists_job hlives
  rw [hstart, Option.map_some] at hcall
  rw [hlast, Option.bind_some, job.finished, Option.map_some, Option.some_inj, Prod.mk.injEq]
    at hresult
  exact ⟨job, dev, Option.some.inj hcall, hresult.1, hresult.2, deviceLife_of_follow hfollow⟩

/-- The sample holds the first of the two conversions, fresh, and reports the second as lost. -/
theorem acquisition_coherent_overrun : ∃ job : JobLife (runOf (benchReadout 0x00 0x01)).1,
    ∃ readout : Readout 0x2A job (benchTicks 0x00 0x01 benchConversion),
      Unread 0x2A 0 readout.before ∧
      ∃ before read behind, readout.data = before ++ read :: behind ∧
        HoldsCode 0x2A 0 (readout.before ++ readout.opening :: before) 0x1234567 ∧
        ∃ tick ∈ behind, Converts 0 tick := by
  obtain ⟨job, dev, hcall, hsuccess, hresult, hlife⟩ :=
    @exists_benchReadout 0x00 0x01 benchConversion
      ⟨0x1234567, 0x0123, 0x4567, sampleQualityFlag .fresh ||| sampleQualityFlag .dataLost⟩
      (by decide +kernel) (by decide +kernel) (by decide +kernel) (by decide +kernel)
  have hmarks : (benchTicks 0x00 0x01 benchConversion).filterMap Tick.mark =
      timeline (runOf (benchReadout 0x00 0x01)).1 := by decide +kernel
  obtain ⟨-, readout, hsample⟩ := acquisition_coherent _ _ job ⟨0x01⟩ 8 1000 0x2A _ dev
    (run_runOf _) hcall hsuccess hlife hmarks
  obtain ⟨hfresh, -, before, read, behind, hdata, -, hcode, hlost⟩ :=
    hsample 0 (show (0 : Fin 4) ∈ maskChannels ⟨0x01⟩ by decide)
  rw [hresult] at hfresh hcode hlost
  exact ⟨job, readout, hfresh.mp rfl, before, read, behind, hdata, hcode, hlost.mp rfl⟩

end Ldc1614
