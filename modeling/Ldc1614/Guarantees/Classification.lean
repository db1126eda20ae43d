import Ldc1614.Driver.Batch
import Ldc1614.Guarantees.TransferPlan

/-! # The classification of a batch

A successful acquisition publishes a function of the words its own transfers returned: the scratch
data of a job is what its script gathers from them, whatever was polled, called or acquired
before. -/

namespace Ldc1614

open Cmd Interaction Driver

/-! ### Gathering a script -/

/-- What these stages gather from these words. -/
def gather (g : Gathered) (stages : List Stage) (words : List U16) : Gathered :=
  (stages.zip words).foldl (fun g e => g.add e.1 e.2) g

theorem zip_concat {α β : Type} {l : List α} {x : α} (ys : List β) (y : β)
    (h : l[ys.length]? = some x) : l.zip (ys ++ [y]) = l.zip ys ++ [(x, y)] := by
  induction ys generalizing l with
  | nil =>
      cases l with
      | nil => cases h
      | cons a rest =>
          obtain rfl : a = x := Option.some.inj h
          rw [List.nil_append, List.zip_cons_cons, List.zip_nil_right, List.zip_nil_right,
            List.nil_append]
  | cons b ys ih =>
      cases l with
      | nil => cases h
      | cons a rest =>
          rw [List.cons_append, List.zip_cons_cons, List.zip_cons_cons, ih h, List.cons_append]

/-- One word more. -/
theorem gather_concat {g : Gathered} {stages : List Stage} {stage : Stage} (words : List U16)
    (word : U16) (h : stages[words.length]? = some stage) :
    gather g stages (words ++ [word]) = (gather g stages words).add stage word := by
  rw [gather, zip_concat words word h, List.foldl_append]
  rfl

section Reads

variable (w : AcquiredWords) (mask : ChannelMask)

/-- The two words of each channel. -/
def AcquiredWords.data (channels : List (Fin 4)) : List U16 :=
  channels.flatMap fun index => [w.msb index, w.lsb index]

/-- The words of an acquisition, in order. -/
def AcquiredWords.words : List U16 :=
  w.before :: w.data (maskChannels mask) ++ [w.after]

/-- The reads of an acquisition with their words: STATUS, the two words of each selected channel,
STATUS. -/
def AcquiredWords.reads : List (Option Transfer × U16) :=
  (some (.read regStatus), w.before) ::
    (maskChannels mask).flatMap (fun index =>
      [(some (.read (regDataMsb (channelAt index).raw)), w.msb index),
        (some (.read (regDataLsb (channelAt index).raw)), w.lsb index)]) ++
    [(some (.read regStatus), w.after)]

variable {w mask}

/-- What the reads of these channels gather. -/
theorem gather_data (g : Gathered) (channels : List (Fin 4)) (stages : List Stage)
    (words : List U16) : ∃ g' : Gathered, gather g
        (channels.flatMap (fun index => [.dataMsb index, .dataLsb index]) ++ stages)
        (w.data channels ++ words) = gather g' stages words ∧
      g'.statusBefore = g.statusBefore ∧
      (∀ index ∈ channels,
        g'.samples.get index = decodeChannelSample (w.msb index) (w.lsb index)) ∧
      ∀ index ∉ channels, g'.samples.get index = g.samples.get index := by
  induction channels generalizing g with
  | nil => exact ⟨g, rfl, rfl, fun _ h => (by cases h), fun _ _ => rfl⟩
  | cons channel rest ih =>
      obtain ⟨g', hgather, hbefore, hread, hkept⟩ :=
        ih ((g.add (.dataMsb channel) (w.msb channel)).add (.dataLsb channel) (w.lsb channel))
      have hstored (index : Fin 4) : ((g.add (.dataMsb channel) (w.msb channel)).add
          (.dataLsb channel) (w.lsb channel)).samples.get index = if channel = index then
            decodeChannelSample (w.msb channel) (w.lsb channel) else g.samples.get index :=
        get_store ..
      refine ⟨g', hgather, hbefore, fun index hindex => ?_, fun index hindex => ?_⟩
      · by_cases hrest : index ∈ rest
        · exact hread index hrest
        · obtain rfl := (List.mem_cons.mp hindex).resolve_right hrest
          rw [hkept index hrest, hstored, if_pos rfl]
      · rw [List.mem_cons, not_or] at hindex
        rw [hkept index hindex.2, hstored, if_neg (Ne.symm hindex.1)]

/-- What a whole acquisition gathers. -/
theorem gather_acquisition (w : AcquiredWords) (mask : ChannelMask) (g : Gathered) :
    let gathered := gather g (acquisition mask) (w.words mask)
    gathered.statusBefore = decodeDeviceStatus w.before ∧
      gathered.statusAfter = decodeDeviceStatus w.after ∧
      ∀ index ∈ maskChannels mask,
        gathered.samples.get index = decodeChannelSample (w.msb index) (w.lsb index) := by
  obtain ⟨g', hgather, hbefore, hsamples, -⟩ :=
    gather_data (w := w) (g.add .statusBefore w.before) (maskChannels mask) [.statusAfter] [w.after]
  have hwhole : gather g (acquisition mask) (w.words mask) = g'.add .statusAfter w.after := hgather
  dsimp only
  rw [hwhole]
  exact ⟨hbefore, rfl, hsamples⟩

/-- Two words for each of some distinct channels. -/
theorem exists_data {channels : List (Fin 4)} (hnodup : channels.Nodup) {words : List U16}
    (h : words.length = 2 * channels.length) (before after : U16) :
    ∃ w : AcquiredWords, w.before = before ∧ w.after = after ∧ words = w.data channels := by
  induction channels generalizing words with
  | nil =>
      rw [List.eq_nil_of_length_eq_zero h]
      exact ⟨⟨before, after, fun _ => 0, fun _ => 0⟩, rfl, rfl, rfl⟩
  | cons channel rest ih =>
      obtain ⟨hnew, hrest⟩ := List.nodup_cons.mp hnodup
      rw [List.length_cons] at h
      obtain ⟨msb, tail, rfl⟩ : ∃ msb tail, words = msb :: tail :=
        List.exists_cons_of_length_pos (by omega)
      obtain ⟨lsb, later, rfl⟩ : ∃ lsb later, tail = lsb :: later :=
        List.exists_cons_of_length_pos (by rw [List.length_cons] at h; omega)
      have hlater : later.length = 2 * rest.length := by
        rw [List.length_cons, List.length_cons] at h
        omega
      obtain ⟨w, hbefore, hafter, hdata⟩ := ih hrest hlater
      refine ⟨⟨before, after, Function.update w.msb channel msb,
        Function.update w.lsb channel lsb⟩, rfl, rfl, ?_⟩
      have hkept : AcquiredWords.data ⟨before, after, Function.update w.msb channel msb,
          Function.update w.lsb channel lsb⟩ rest = w.data rest := by
        refine List.flatMap_congr fun index hindex => ?_
        have hne : index ≠ channel := fun h => hnew (h ▸ hindex)
        dsimp only
        rw [Function.update_of_ne hne, Function.update_of_ne hne]
      have hcons (w : AcquiredWords) : w.data (channel :: rest) =
          w.msb channel :: w.lsb channel :: w.data rest := rfl
      rw [hcons, hkept, hdata]
      dsimp only
      rw [Function.update_self, Function.update_self]

/-- The words of an acquisition, from their number. -/
theorem exists_words {words : List U16} (h : words.length = (acquisition mask).length) :
    ∃ w : AcquiredWords, words = w.words mask := by
  have hlength : words.length = 2 * (maskChannels mask).length + 2 := by
    rw [h, acquisition, List.length_append, List.length_cons, List.length_flatMap]
    simp
    omega
  have hnodup : (maskChannels mask).Nodup := (List.nodup_finRange 4).filter _
  obtain ⟨before, tail, rfl⟩ : ∃ before tail, words = before :: tail :=
    List.exists_cons_of_length_pos (by omega)
  rw [List.length_cons] at hlength
  obtain ⟨data, after, rfl⟩ : ∃ data after, tail = data ++ [after] :=
    ⟨tail.dropLast, tail.getLast (List.ne_nil_of_length_pos (by omega)),
      (List.dropLast_append_getLast _).symm⟩
  rw [List.length_append, List.length_singleton] at hlength
  have hdata : data.length = 2 * (maskChannels mask).length := by omega
  obtain ⟨w, rfl, rfl, rfl⟩ := exists_data hnodup hdata before after
  exact ⟨w, rfl⟩

end Reads

/-! ### A job gathers its script -/

/-- The active job follows its script since the state `entry` and has gathered its words. -/
structure Gathering (entry : Driver) (past : List (Transfer × Reply)) (d : Driver) : Prop
    extends Following entry past d where
  ticket : d.progress.ticket = entry.progress.ticket
  gathered : d.gathered = gather entry.gathered entry.script (past.map fun e => e.2.word)

/-- The job followed its script, and a success publishes what it gathered. -/
structure GatheredAll (entry : Driver) (transfers : List (Transfer × Reply))
    (result : OperationResult) (d : Driver) : Prop extends Followed entry transfers result d where
  published : result.outcome = .success → ∃ e : Driver, e.config = entry.config ∧
    e.progress.ticket = entry.progress.ticket ∧
    e.gathered = gather entry.gathered entry.script (transfers.map fun e => e.2.word) ∧
    result = e.terminalResult .success result.status result.completedUptimeMs

section Rule

variable {entry d : Driver} {past : List (Transfer × Reply)} {stage : Stage} {reply : Reply}

/-- A successful transfer adds its word. -/
theorem Gathering.gathered_snoc (hp : Gathering entry past d) (hrun : d.Running stage)
    (hok : reply.status.isOk = true) : (d.settled stage reply).gathered =
      gather entry.gathered entry.script
        ((past ++ [(stage.transfer d.config, reply)]).map fun e => e.2.word) := by
  have hscripted := hrun.scripted
  rw [hp.script, hp.counted] at hscripted
  rw [settled_gathered, if_pos hok, hp.gathered, List.map_append, List.map_singleton,
    gather_concat _ _ (by rw [List.length_map]; exact hscripted)]

/-- **Gathering the script is a rule of jobs.** -/
theorem gathering_rule (entry : Driver) : JobRule (Gathering entry) (GatheredAll entry) where
  goesOn hp _ hrun hv :=
    { hp.settled hrun hv with
      ticket := (settled_ticket _ _ _).trans hp.ticket
      gathered := hp.gathered_snoc hrun (isOk_of_verdict hv) }
  ends _ hp hw hrun hending :=
    { hp.concluded hrun (hw.validProfile hrun.bound) hending with
      published := fun houtcome => by
        refine ⟨_, settled_config.trans hp.config, (settled_ticket _ _ _).trans hp.ticket,
          hp.gathered_snoc hrun ?_, ?_⟩
        · cases hending with
          | failed => cases houtcome
          | mismatched => cases houtcome
          | replayed hok => exact hok
          | acquired hok => exact hok
        · obtain rfl : _ = TerminalOutcome.success := houtcome
          rfl }
  interrupted _ hp hrun hfailed :=
    { hp.interrupted hrun hfailed with
      published := fun houtcome => absurd houtcome hfailed }
  delivered hhead hp :=
    { (following_rule entry).delivered hhead hp.toFollowing with
      ticket := hp.ticket
      gathered := hp.gathered }

/-- An admitted job has gathered nothing. -/
theorem gathering_of_admitted {t : DriverTransition} (hw : t.before.WellFormed)
    (hv : t.Valid Call.exec) (hadmitted : (account t).admitted ≠ none) :
    Gathering t.after [] t.after :=
  { (following_of_admitted hw hv hadmitted).2 with
    ticket := rfl
    gathered := by rw [gather, List.map_nil, List.zip_nil_right, List.foldl_nil] }

/-- The channels of an acquisition are channels of the device. -/
theorem Driver.Running.configured (hrun : d.Running stage) (hvalid : d.config.Valid)
    (hkind : d.progress.kind = .acquire) :
    ∀ index ∈ maskChannels d.progress.requestedChannels,
      index ∈ channelIndices d.configuredChannelCount := fun _ hindex =>
  mem_channelIndices_of_submask (hrun.requested hkind).2 hvalid.implemented hvalid.variant hindex

end Rule

/-! ### The batch of a job -/

/-- The words of a job's transfers, as its acquisition reads them. -/
theorem reads_of_made {config : Config} {mask : ChannelMask} {w : AcquiredWords}
    {transfers : List (Transfer × Reply)}
    (hmade : transfers.map Prod.fst = (acquisition mask).map (Stage.transfer config))
    (hwords : (transfers.map fun e => e.2.word) = w.words mask) :
    transfers.map (fun e => (some e.1, e.2.word)) = w.reads mask := by
  have hzip : transfers.map (fun e => (some e.1, e.2.word)) =
      ((transfers.map Prod.fst).map some).zip (transfers.map fun e => e.2.word) := by
    rw [List.map_map, List.zip_map', Function.comp_def]
  rw [hzip, hmade, hwords]
  have hdata (channels : List (Fin 4)) (stages : List Stage) (words : List U16) :
      ((channels.flatMap (fun index => [Stage.dataMsb index, .dataLsb index]) ++ stages).map
          fun stage => some (stage.transfer config)).zip (w.data channels ++ words) =
        channels.flatMap (fun index =>
          [(some (.read (regDataMsb (channelAt index).raw)), w.msb index),
            (some (.read (regDataLsb (channelAt index).raw)), w.lsb index)]) ++
        (stages.map fun stage => some (stage.transfer config)).zip words := by
    induction channels with
    | nil => rfl
    | cons channel rest ih =>
        rw [List.flatMap_cons, List.flatMap_cons, List.append_assoc, List.append_assoc, ← ih]
        rfl
  rw [List.map_map]
  exact congrArg (List.cons _) (hdata (maskChannels mask) [.statusAfter] [w.after])

/-- What a successful acquisition has read, and the batch it publishes. -/
theorem publishes_of_success {ts : List DriverTransition} {u : Driver} {mask : ChannelMask}
    {operationId deadlineMs : U64} (h : DriverRun Driver.initial ts u) (job : JobLife ts)
    (hcall : job.start.call = .startAcquire mask operationId deadlineMs)
    (hsuccess : job.result.outcome = .success) : ∃ w : AcquiredWords,
      (jobTransfers (job.mid ++ [job.last])).map (fun e => (some e.1, e.2.word)) = w.reads mask ∧
      job.result.hasSampleBatch = true ∧ Publishes w mask job.result.sampleBatch := by
  obtain ⟨hbefore, hstart, -⟩ := job.around h
  have hw := run_wellFormed wellFormed_initial hbefore
  have hstarted : job.start.after.WellFormed :=
    run_wellFormed hw (Path.single ⟨rfl, hstart, rfl⟩)
  obtain ⟨hkind, hmask, -⟩ := acquire_of_start hw hstart job.admitted hcall
  have hscript : job.start.after.script = acquisition mask := by
    rw [Driver.script, Ldc1614.script, if_pos hkind, hmask]
  have hall := (gathering_rule job.start.after).life h job
    (gathering_of_admitted hw hstart job.admitted)
  obtain ⟨e, hconfig, hticket, hgathered, hresult⟩ := hall.published hsuccess
  have hmade := hall.made
  rw [(hall.success.mp hsuccess).1, List.take_length, hscript] at hmade
  have hlength : ((jobTransfers (job.mid ++ [job.last])).map fun e => e.2.word).length =
      (acquisition mask).length := by
    rw [List.length_map, ← hscript]
    exact (hall.success.mp hsuccess).1
  obtain ⟨w, hwords⟩ := exists_words hlength
  have hgather := gather_acquisition w mask job.start.after.gathered
  rw [← hwords, ← hscript, ← hgathered] at hgather
  obtain ⟨hstatusBefore, hstatusAfter, hsamples⟩ := hgather
  -- the state that published has the kind and the channels of the admission
  have hkind' : e.progress.kind = .acquire :=
    (congrArg JobProgress.kind hticket :).trans hkind
  have hmask' : e.progress.requestedChannels = mask :=
    (congrArg JobProgress.requestedChannels hticket :).trans hmask
  have hsucceeded : (e.progress.kind == .acquire && TerminalOutcome.success == .success) = true := by
    rw [hkind']
    rfl
  have hactive : job.start.after.progress.active = true :=
    (following_of_admitted hw hstart job.admitted).1
  obtain ⟨stage, hrun⟩ := hstarted.running hactive
  have hconfigured := hrun.configured (hstarted.validProfile hrun.bound) hkind
  rw [hmask] at hconfigured
  have hbatch := buildAcquisition_publishes (d := e) (w := w) job.result.completedUptimeMs
    hstatusBefore hstatusAfter (by rw [hmask']; exact hsamples) (by
      rw [hmask', configuredChannelCount, hconfig]
      exact hconfigured)
  rw [hmask'] at hbatch
  refine ⟨w, reads_of_made hmade hwords, ?_, ?_⟩
  · rw [hresult]
    exact hsucceeded
  · rw [hresult]
    show Publishes w mask (if e.progress.kind == .acquire && TerminalOutcome.success == .success then
      e.buildAcquisition job.result.completedUptimeMs else {})
    rw [if_pos hsucceeded]
    exact hbatch

/-- **The batch is a function of the job's own words.** In every run, an acquisition that succeeds
has read STATUS, the two words of each requested channel and STATUS, and its batch is the one these
words classify to. -/
theorem batch_classification (ts : List DriverTransition) (u : Driver) (job : JobLife ts)
    (mask : ChannelMask) (operationId deadlineMs : U64) (h : DriverRun Driver.initial ts u)
    (hcall : job.start.call = .startAcquire mask operationId deadlineMs)
    (hsuccess : job.result.outcome = .success) : ∃ w : AcquiredWords,
      (carried (exchange (job.mid ++ [job.last]))).map (fun c => (c.1, c.2.word)) = w.reads mask ∧
      job.result.hasSampleBatch = true ∧ Publishes w mask job.result.sampleBatch := by
  obtain ⟨w, hreads, hbatch⟩ := publishes_of_success h job hcall hsuccess
  refine ⟨w, ?_, hbatch⟩
  rw [carried_of_life h job, List.map_map]
  exact hreads

/-- An acquisition of channel 0, in two polls, with an amplitude error in its MSB word. -/
def benchBatch : List (Call × List Reply) :=
  [(.bind benchProfile, []), (.startInitialize 7 1000, []),
    (.poll 10 15, replied 0x54 0x49 :: replied 0x30 0x55 :: List.replicate 13 (replied 0 0)),
    (.wake, [replied 0 0]), (.startAcquire ⟨0x01⟩ 8 1000, []),
    (.poll 20 2, [replied 0x00 0x48, replied 0x12 0x34]),
    (.poll 30 2, [replied 0x56 0x78, replied 0x00 0x00])]

/-- The bench batch holds the one sample its four words classify to. -/
theorem batch_classification_bench : ∃ job : JobLife (runOf benchBatch).1, ∃ w : AcquiredWords,
    w.reads ⟨0x01⟩ = [(some (.read regStatus), 0x0048), (some (.read 0x00), 0x1234),
      (some (.read 0x01), 0x5678), (some (.read regStatus), 0x0000)] ∧
    Publishes w ⟨0x01⟩ job.result.sampleBatch := by
  have hcall : (runOf benchBatch).1[4]?.map (fun t => t.call) =
      some (.startAcquire ⟨0x01⟩ 8 1000) := by decide +kernel
  have houtcome : (runOf benchBatch).1[6]?.bind (fun t =>
      (account t).finished.map OperationResult.outcome) = some .success := by decide +kernel
  have hreads : (carried (exchange (((runOf benchBatch).1.drop 5).take 2))).map
      (fun c => (c.1, c.2.word)) = [(some (.read regStatus), 0x0048), (some (.read 0x00), 0x1234),
        (some (.read 0x01), 0x5678), (some (.read regStatus), 0x0000)] := by decide +kernel
  obtain ⟨job, hstart, hlast, hcalls⟩ :=
    exists_job (show livesAt (runOf benchBatch).1 4 1 = true by decide +kernel)
  rw [hstart, Option.map_some] at hcall
  rw [hlast, Option.bind_some, job.finished, Option.map_some] at houtcome
  obtain ⟨w, hw, -, hbatch⟩ := batch_classification _ _ job ⟨0x01⟩ 8 1000 (run_runOf _)
    (Option.some.inj hcall) (Option.some.inj houtcome)
  rw [hcalls, hreads] at hw
  exact ⟨job, w, hw.symm, hbatch⟩

end Ldc1614
