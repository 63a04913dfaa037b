import Krm.Departments.Webhook
import Krm.Lib.Runs
import Krm.Shards.Durations

/-! # Time-based fair share of a migrated shard

A shard that is taken over gives its usage DB to its NodePool, and the NodePool gives it back to the shard. -/

open Krm.Lib
open Krm.Lib.Quantity (total)
open Krm.Departments (quoted)

namespace Krm.Shards

/-! ## What a shard says -/

structure UsageParams (τ : Type) where
  halfLifePeriod : Option Duration
  windowSize : Option String
  windowType : Option String
  tumblingWindowStartTime : Option τ
  cronString : String
  fetchInterval : Option Duration
  stalenessPeriod : Option Duration
  waitTimeout : Option Duration
  extraParams : Labels
deriving DecidableEq

structure UsageDBConfig (τ : Type) where
  clientType : String
  connectionString : String
  connectionStringEnvVar : String
  usageParams : Option (UsageParams τ)
deriving DecidableEq

structure UsageSpec (κ τ : Type) where
  kValue : Option κ
  usageDBConfig : Option (UsageDBConfig τ)

/-! ## What a NodePool says -/

structure FairShareWindow (τ : Type) where
  size : Option String
  type : Option String
  tumblingStartTime : Option τ
  cronString : Option String
deriving DecidableEq

structure FairShareSampling where
  fetchInterval : Option String
  stalenessPeriod : Option String
  waitTimeout : Option String
deriving DecidableEq

structure TimeBasedFairShare (ω τ : Type) where
  enabled : Option Bool
  historicalUsageWeight : Option ω
  connectionString : Option String
  halfLifePeriod : Option String
  window : Option (FairShareWindow τ)
  sampling : Option FairShareSampling
  extraParams : Labels
deriving DecidableEq

/-- The libraries: the text of minutes, what `str2duration` reads, weights, and window types. -/
structure Conversions (κ ω : Type) where
  minutes : Duration → String
  parseDuration : String → Option Duration
  unreadable : String → String
  weight : κ → ω
  isValidWindowType : String → Bool

variable {κ ω τ : Type}

/-! ## From the shard to the NodePool -/

def kaiDefaultUsageQueries : Labels :=
  [("gpuAllocationMetric", "kai_queue_allocated_gpus"), ("cpuAllocationMetric", "kai_queue_allocated_cpu_cores"),
    ("memoryAllocationMetric", "kai_queue_allocated_memory_bytes"),
    ("gpuCapacityMetric", "sum(kube_node_status_capacity\x7bresource=\"nvidia_com_gpu\"\x7d)"),
    ("cpuCapacityMetric", "sum(kube_node_status_capacity\x7bresource=\"cpu\"\x7d)"),
    ("memoryCapacityMetric", "sum(kube_node_status_capacity\x7bresource=\"memory\"\x7d)")].foldl
    (fun params query => params.insert query.1 query.2) ∅

def withKAIDefaultUsageQueries (extraParams : Labels) : Labels := extraParams ∪ kaiDefaultUsageQueries

/-- An empty text is one that is not set. -/
def setText (text : String) : Option String := if text ≠ "" then some text else none

def goDuration (duration : Option Duration) : Option String := duration.map durationString

/-- A window of which nothing is set is left out. -/
def FairShareWindow.orNone (window : FairShareWindow τ) : Option (FairShareWindow τ) :=
  if window.size.isNone && window.type.isNone && window.tumblingStartTime.isNone && window.cronString.isNone then none
  else some window

def FairShareSampling.orNone (sampling : FairShareSampling) : Option FairShareSampling :=
  if sampling.fetchInterval.isNone && sampling.stalenessPeriod.isNone && sampling.waitTimeout.isNone then none
  else some sampling

def windowSizeFromShard (conv : Conversions κ ω) (shardName : String) : Option String → Except String (Option String)
  | none => .ok none
  | some windowSize =>
    match conv.parseDuration windowSize with
    | none => .error ("SchedulingShard " ++ shardName ++ " has usage window size " ++ quoted windowSize ++
        ", which cannot be read as a duration: " ++ conv.unreadable windowSize)
    | some size => .ok (some (nodePoolDuration conv.minutes size))

/-- A `kValue` without a usage DB is dropped. -/
def timeBasedFairShareFromShard (conv : Conversions κ ω) (shardName : String) (spec : UsageSpec κ τ) :
    Except String (Option (TimeBasedFairShare ω τ)) :=
  match spec.usageDBConfig with
  | none => .ok none
  | some usageDB =>
    let weight := spec.kValue.map conv.weight
    let connectionString := setText usageDB.connectionString
    match usageDB.usageParams with
    | none => .ok (some ⟨some true, weight, connectionString, none, none, none, withKAIDefaultUsageQueries ∅⟩)
    | some params => do
      let size ← windowSizeFromShard conv shardName params.windowSize
      let window : FairShareWindow τ :=
        ⟨size, params.windowType, params.tumblingWindowStartTime, setText params.cronString⟩
      let sampling : FairShareSampling :=
        ⟨goDuration params.fetchInterval, goDuration params.stalenessPeriod, goDuration params.waitTimeout⟩
      return some ⟨some true, weight, connectionString, params.halfLifePeriod.map (nodePoolDuration conv.minutes),
        window.orNone, sampling.orNone, withKAIDefaultUsageQueries params.extraParams⟩

/-! ## From the NodePool to the shard -/

theorem inRange_zero : -2 ^ 63 ≤ (0 : Int) ∧ (0 : Int) < 2 ^ 63 := by decide

theorem inRange_week : -2 ^ 63 ≤ ((7 * day : Nat) : Int) ∧ ((7 * day : Nat) : Int) < 2 ^ 63 := by decide

def defaultTimeBasedFairShareDecayHalfLife : Duration := ⟨0, inRange_zero⟩
def defaultTimeBasedFairShareWindowDuration : Duration := ⟨(7 * day : Nat), inRange_week⟩
def defaultTimeBasedFairShareWindowType : String := "sliding"

def parseOptionalDurationParam (conv : Conversions κ ω) (value : Option String) : Option Duration :=
  value.bind conv.parseDuration

def parseDurationParam (conv : Conversions κ ω) (value : Option String) (fallback : Duration) : Duration :=
  (parseOptionalDurationParam conv value).getD fallback

def parseMonitoringDurationParam (conv : Conversions κ ω) (value : Option String) (fallback : Duration) : String :=
  (value.filter fun text => (conv.parseDuration text).isSome).getD (durationString fallback)

def setDefaultExtraParam (params : Labels) (key value : String) : Labels :=
  if params.value key = "" then params.insert key value else params

/-- The queries of a NodePool, for what it does not say. -/
def capacityMetrics (metricsNamespace nodePoolName : String) : List (String × String) :=
  let perNodePool (resource : String) : String :=
    "resources_per_nodepool\x7bresource=\"" ++ resource ++ "\", nodepool=\"" ++ nodePoolName ++ "\"\x7d"
  [("gpuAllocationMetric", metricsNamespace ++ "_queue_allocated_gpus"),
    ("cpuAllocationMetric", metricsNamespace ++ "_queue_allocated_cpu_cores"),
    ("memoryAllocationMetric", metricsNamespace ++ "_queue_allocated_memory_bytes"),
    ("gpuCapacityMetric", perNodePool "nvidia_com_gpu"), ("cpuCapacityMetric", perNodePool "cpu"),
    ("memoryCapacityMetric", perNodePool "memory")]

def overrideCapacityMetricsIfNeeded (metricsNamespace nodePoolName : String) (extraParams : Labels) : Labels :=
  (capacityMetrics metricsNamespace nodePoolName).foldl
    (fun params metric => setDefaultExtraParam params metric.1 metric.2) extraParams

def timeBasedFairShare (config : Option (TimeBasedFairShare ω τ)) : Option (TimeBasedFairShare ω τ) :=
  config.filter fun tbfs => tbfs.enabled.getD false

def usageParamsFor (conv : Conversions κ ω) (metricsNamespace nodePoolName : String) (tbfs : TimeBasedFairShare ω τ) :
    UsageParams τ where
  halfLifePeriod := some (parseDurationParam conv tbfs.halfLifePeriod defaultTimeBasedFairShareDecayHalfLife)
  windowSize := some (parseMonitoringDurationParam conv (tbfs.window.bind FairShareWindow.size)
    defaultTimeBasedFairShareWindowDuration)
  windowType := some (((tbfs.window.bind FairShareWindow.type).filter conv.isValidWindowType).getD
    defaultTimeBasedFairShareWindowType)
  tumblingWindowStartTime := tbfs.window.bind FairShareWindow.tumblingStartTime
  cronString := (tbfs.window.bind FairShareWindow.cronString).getD ""
  fetchInterval := parseOptionalDurationParam conv (tbfs.sampling.bind FairShareSampling.fetchInterval)
  stalenessPeriod := parseOptionalDurationParam conv (tbfs.sampling.bind FairShareSampling.stalenessPeriod)
  waitTimeout := parseOptionalDurationParam conv (tbfs.sampling.bind FairShareSampling.waitTimeout)
  extraParams := overrideCapacityMetricsIfNeeded metricsNamespace nodePoolName tbfs.extraParams

/-- The usage DB of the NodePool's shard, by its fair share. -/
def getTimeBasedFairShareFields (conv : Conversions κ ω) (metricsNamespace nodePoolName : String)
    (config : Option (TimeBasedFairShare ω τ)) : Option (UsageDBConfig τ) :=
  (timeBasedFairShare config).map fun tbfs =>
    ⟨"prometheus", tbfs.connectionString.getD "", "", some (usageParamsFor conv metricsNamespace nodePoolName tbfs)⟩

/-! ## Extra params -/

theorem setDefaultExtraParam_keeps {params : Labels} {k v : String} (h : params.lookup k = some v) (hv : v ≠ "")
    (key value : String) : (setDefaultExtraParam params key value).lookup k = some v := by
  unfold setDefaultExtraParam
  split_ifs with hempty
  · have hne : k ≠ key := by
      rintro rfl
      rw [Labels.value, h] at hempty
      exact hv hempty
    rw [Finmap.lookup_insert_of_ne _ hne]
    exact h
  · exact h

theorem overrideCapacityMetrics_keeps {params : Labels} {k v : String} (h : params.lookup k = some v) (hv : v ≠ "")
    (metricsNamespace nodePoolName : String) :
    (overrideCapacityMetricsIfNeeded metricsNamespace nodePoolName params).lookup k = some v := by
  unfold overrideCapacityMetricsIfNeeded
  induction capacityMetrics metricsNamespace nodePoolName generalizing params with
  | nil => exact h
  | cons metric metrics ih => exact ih (setDefaultExtraParam_keeps h hv metric.1 metric.2)

theorem withKAIDefaultUsageQueries_keeps {params : Labels} {k v : String} (h : params.lookup k = some v) :
    (withKAIDefaultUsageQueries params).lookup k = some v := by
  have hmem : k ∈ params := Finmap.mem_of_lookup_eq_some h
  rw [withKAIDefaultUsageQueries, Finmap.lookup_union_left hmem]
  exact h

/-! ## What comes back -/

theorem FairShareWindow.bind_orNone (window : FairShareWindow τ) :
    window.orNone.bind size = window.size ∧ window.orNone.bind type = window.type ∧
      window.orNone.bind tumblingStartTime = window.tumblingStartTime ∧
      window.orNone.bind cronString = window.cronString := by
  unfold orNone
  split_ifs with hzero
  · simp only [Bool.and_eq_true, Option.isNone_iff_eq_none] at hzero
    obtain ⟨⟨⟨hsize, htype⟩, hstart⟩, hcron⟩ := hzero
    rw [hsize, htype, hstart, hcron]
    exact ⟨rfl, rfl, rfl, rfl⟩
  · exact ⟨rfl, rfl, rfl, rfl⟩

theorem FairShareSampling.bind_orNone (sampling : FairShareSampling) :
    sampling.orNone.bind fetchInterval = sampling.fetchInterval ∧
      sampling.orNone.bind stalenessPeriod = sampling.stalenessPeriod ∧
      sampling.orNone.bind waitTimeout = sampling.waitTimeout := by
  unfold orNone
  split_ifs with hzero
  · simp only [Bool.and_eq_true, Option.isNone_iff_eq_none] at hzero
    obtain ⟨⟨hfetch, hstaleness⟩, hwait⟩ := hzero
    rw [hfetch, hstaleness, hwait]
    exact ⟨rfl, rfl, rfl⟩
  · exact ⟨rfl, rfl, rfl⟩

theorem setText_getD (text : String) : (setText text).getD "" = text := by
  unfold setText
  split_ifs with hempty
  · rfl
  · exact (not_not.1 hempty).symm

section

variable {conv : Conversions κ ω}

theorem goDuration_back (hsums : ExactSums conv.parseDuration) {duration : Option Duration}
    (h : ∀ d ∈ duration, d.Regular) : parseOptionalDurationParam conv (goDuration duration) = duration := by
  cases duration with
  | none => rfl
  | some d => exact hsums.durationString (h d rfl)

theorem windowSizeFromShard_ok {shardName : String} {windowSize size : Option String}
    (h : windowSizeFromShard conv shardName windowSize = .ok size) :
    (windowSize = none ∧ size = none) ∨ ∃ text d, windowSize = some text ∧ conv.parseDuration text = some d ∧
      size = some (nodePoolDuration conv.minutes d) := by
  unfold windowSizeFromShard at h
  split at h
  · cases h
    exact .inl ⟨rfl, rfl⟩
  · rename_i text
    split at h
    · cases h
    · rename_i d hd
      cases h
      exact .inr ⟨text, d, rfl, hd, rfl⟩

theorem parseMonitoringDurationParam_of_some {text : String} {d : Duration} (h : conv.parseDuration text = some d)
    (fallback : Duration) : parseMonitoringDurationParam conv (some text) fallback = text := by
  simp [parseMonitoringDurationParam, Option.filter_some, h]

end

/-! ## Migration and back -/

/-- Positive multiples of thirty seconds, a Prometheus window size, a valid window type, no empty params. -/
structure UsageParams.Regular (conv : Conversions κ ω) (params : UsageParams τ) : Prop where
  halfLifePeriod : ∀ d ∈ params.halfLifePeriod, d.Regular
  windowSize : ∀ text ∈ params.windowSize, ∃ n, prometheusDuration text = some n ∧ 0 < n ∧ 30 * second ∣ n
  windowType : ∀ t ∈ params.windowType, conv.isValidWindowType t = true
  fetchInterval : ∀ d ∈ params.fetchInterval, d.Regular
  stalenessPeriod : ∀ d ∈ params.stalenessPeriod, d.Regular
  waitTimeout : ∀ d ∈ params.waitTimeout, d.Regular
  extraParams : ∀ k v, params.extraParams.lookup k = some v → v ≠ ""

/-- Every param that was set has the same value again. -/
structure UsageParams.KeptIn (conv : Conversions κ ω) (before after : UsageParams τ) : Prop where
  halfLifePeriod : ∀ d ∈ before.halfLifePeriod, after.halfLifePeriod = some d
  windowSize : ∀ text ∈ before.windowSize, ∃ text' ∈ after.windowSize,
    conv.parseDuration text' = conv.parseDuration text
  windowType : ∀ t ∈ before.windowType, after.windowType = some t
  tumblingWindowStartTime : ∀ start ∈ before.tumblingWindowStartTime, after.tumblingWindowStartTime = some start
  cronString : before.cronString ≠ "" → after.cronString = before.cronString
  fetchInterval : ∀ d ∈ before.fetchInterval, after.fetchInterval = some d
  stalenessPeriod : ∀ d ∈ before.stalenessPeriod, after.stalenessPeriod = some d
  waitTimeout : ∀ d ∈ before.waitTimeout, after.waitTimeout = some d
  extraParams : ∀ k v, before.extraParams.lookup k = some v → after.extraParams.lookup k = some v

/-- The window size that was set is a whole number of minutes. -/
def UsageParams.WholeMinutes (params : UsageParams τ) : Prop :=
  ∀ text ∈ params.windowSize, ∀ n, prometheusDuration text = some n → minute ∣ n

theorem UsageParams.Regular.size {conv : Conversions κ ω} (hsums : ExactSums conv.parseDuration) {params : UsageParams τ}
    (h : params.Regular conv) {text : String} {d : Duration} (htext : params.windowSize = some text)
    (hd : conv.parseDuration text = some d) : d.Regular ∧ prometheusDuration text = some d.ns.natAbs := by
  obtain ⟨n, hn, hpos, hdvd⟩ := h.windowSize text htext
  have hns := hsums.prometheus hn hpos hd
  refine ⟨⟨by omega, ?_⟩, ?_⟩
  · rw [hns]
    exact Int.natCast_dvd_natCast.2 hdvd
  · rw [hn, hns, Int.natAbs_natCast]

section

variable {conv : Conversions κ ω}

/-- What a fair share takes from the params of a shard. -/
structure TimeBasedFairShare.TakenFrom (conv : Conversions κ ω) (params : UsageParams τ) (size : Option String)
    (tbfs : TimeBasedFairShare ω τ) : Prop where
  halfLifePeriod : tbfs.halfLifePeriod = params.halfLifePeriod.map (nodePoolDuration conv.minutes)
  window : tbfs.window = FairShareWindow.orNone
    ⟨size, params.windowType, params.tumblingWindowStartTime, setText params.cronString⟩
  sampling : tbfs.sampling = FairShareSampling.orNone
    ⟨goDuration params.fetchInterval, goDuration params.stalenessPeriod, goDuration params.waitTimeout⟩
  extraParams : tbfs.extraParams = withKAIDefaultUsageQueries params.extraParams

theorem timeBasedFairShareFromShard_ok {shardName : String} {spec : UsageSpec κ τ} {usageDB : UsageDBConfig τ}
    (hdb : spec.usageDBConfig = some usageDB) {config : Option (TimeBasedFairShare ω τ)}
    (h : timeBasedFairShareFromShard conv shardName spec = .ok config) :
    ∃ tbfs, config = some tbfs ∧ tbfs.enabled = some true ∧ tbfs.connectionString = setText usageDB.connectionString ∧
      match usageDB.usageParams with
      | none => tbfs.window = none
      | some params => ∃ size, windowSizeFromShard conv shardName params.windowSize = .ok size ∧
          tbfs.TakenFrom conv params size := by
  unfold timeBasedFairShareFromShard at h
  rw [hdb] at h
  dsimp only at h
  cases hparams : usageDB.usageParams with
  | none =>
    rw [hparams] at h
    cases h
    exact ⟨_, rfl, rfl, rfl, rfl⟩
  | some params =>
    rw [hparams] at h
    obtain ⟨size, hsize, h⟩ := bind_ok h
    cases h
    exact ⟨_, rfl, rfl, rfl, size, hsize, rfl, rfl, rfl, rfl⟩

variable (conv) in
theorem default_window_prometheus :
    (prometheusDuration (parseMonitoringDurationParam conv none defaultTimeBasedFairShareWindowDuration)).isSome = true := by
  have hweek : (prometheusDuration (durationString defaultTimeBasedFairShareWindowDuration)).isSome = true := by decide
  exact hweek

variable (hsums : ExactSums conv.parseDuration) (hexact : ExactMinutes conv.minutes)
include hsums hexact

theorem halfLifePeriod_back {halfLife : Option Duration} (h : ∀ d ∈ halfLife, d.Regular) {d : Duration}
    (hd : halfLife = some d) (fallback : Duration) :
    parseDurationParam conv (halfLife.map (nodePoolDuration conv.minutes)) fallback = d := by
  have hparse := hsums.nodePoolDuration hexact (h d hd)
  rw [hd, Option.map_some, parseDurationParam, parseOptionalDurationParam, Option.bind_some, hparse, Option.getD_some]

theorem windowSize_back {params : UsageParams τ} (h : params.Regular conv) {shardName : String} {size : Option String}
    (hsize : windowSizeFromShard conv shardName params.windowSize = .ok size) :
    (∀ text ∈ params.windowSize, conv.parseDuration (parseMonitoringDurationParam conv size
      defaultTimeBasedFairShareWindowDuration) = conv.parseDuration text) ∧
    ((prometheusDuration (parseMonitoringDurationParam conv size defaultTimeBasedFairShareWindowDuration)).isSome ↔
      params.WholeMinutes) := by
  rcases windowSizeFromShard_ok hsize with ⟨hnone, rfl⟩ | ⟨text, d, htext, hd, rfl⟩
  · refine ⟨fun text htext => ?_, iff_of_true (default_window_prometheus conv) fun text htext => ?_⟩
    · rw [hnone] at htext
      cases htext
    · rw [hnone] at htext
      cases htext
  · obtain ⟨hregular, hprometheus⟩ := h.size hsums htext hd
    have hparse := hsums.nodePoolDuration hexact hregular
    rw [parseMonitoringDurationParam_of_some hparse, prometheusDuration_nodePoolDuration hexact hregular]
    refine ⟨fun text' htext' => ?_, fun hdvd text' htext' n hn => ?_, fun hwhole => hwhole text htext _ hprometheus⟩
    · cases htext.symm.trans htext'
      exact hparse.trans hd.symm
    · cases htext.symm.trans htext'
      cases hprometheus.symm.trans hn
      exact hdvd

theorem usageParamsFor_back {before : UsageParams τ} (h : before.Regular conv) {shardName : String} {size : Option String}
    (hsize : windowSizeFromShard conv shardName before.windowSize = .ok size) {tbfs : TimeBasedFairShare ω τ}
    (htaken : tbfs.TakenFrom conv before size) (metricsNamespace nodePoolName : String) :
    before.KeptIn conv (usageParamsFor conv metricsNamespace nodePoolName tbfs) ∧
      ((∃ text ∈ (usageParamsFor conv metricsNamespace nodePoolName tbfs).windowSize, (prometheusDuration text).isSome) ↔
        before.WholeMinutes) := by
  obtain ⟨hwindow, htype, hstart, hcron⟩ := FairShareWindow.bind_orNone
    (⟨size, before.windowType, before.tumblingWindowStartTime, setText before.cronString⟩ : FairShareWindow τ)
  obtain ⟨hfetch, hstaleness, hwait⟩ := FairShareSampling.bind_orNone
    ⟨goDuration before.fetchInterval, goDuration before.stalenessPeriod, goDuration before.waitTimeout⟩
  rw [← htaken.window] at hwindow htype hstart hcron
  rw [← htaken.sampling] at hfetch hstaleness hwait
  dsimp only at hwindow htype hstart hcron hfetch hstaleness hwait
  obtain ⟨hvalue, hprometheus⟩ := windowSize_back hsums hexact h hsize
  refine ⟨⟨fun d hd => ?_, fun text htext => ?_, fun t ht => ?_, fun start hstart' => ?_, fun _ => ?_, fun d hd => ?_,
    fun d hd => ?_, fun d hd => ?_, fun k v hv => ?_⟩, ?_⟩
  · rw [usageParamsFor, htaken.halfLifePeriod]
    exact congrArg some (halfLifePeriod_back hsums hexact h.halfLifePeriod hd _)
  · refine ⟨_, rfl, ?_⟩
    rw [hwindow]
    exact hvalue text htext
  · have hvalid := h.windowType t ht
    rw [Option.mem_def] at ht
    simp only [usageParamsFor, htype, ht, Option.filter_some, hvalid, if_true, Option.getD_some]
  · exact hstart.trans hstart'
  · simp only [usageParamsFor, hcron, setText_getD]
  · simp only [usageParamsFor, hfetch]
    exact (goDuration_back hsums h.fetchInterval).trans hd
  · simp only [usageParamsFor, hstaleness]
    exact (goDuration_back hsums h.stalenessPeriod).trans hd
  · simp only [usageParamsFor, hwait]
    exact (goDuration_back hsums h.waitTimeout).trans hd
  · simp only [usageParamsFor, htaken.extraParams]
    exact overrideCapacityMetrics_keeps (withKAIDefaultUsageQueries_keeps hv) (h.extraParams k v hv) _ _
  · rw [← hprometheus, ← hwindow]
    constructor
    · rintro ⟨text, htext, hvalid⟩
      cases htext
      exact hvalid
    · exact fun hvalid => ⟨_, rfl, hvalid⟩

/-- All comes back; the window size as a Prometheus duration only for whole minutes. -/
theorem fair_share_survives_migration_iff {shardName : String} {spec : UsageSpec κ τ} {usageDB : UsageDBConfig τ}
    (hdb : spec.usageDBConfig = some usageDB) (hregular : ∀ params ∈ usageDB.usageParams, params.Regular conv)
    {config : Option (TimeBasedFairShare ω τ)} (haccepted : timeBasedFairShareFromShard conv shardName spec = .ok config)
    (metricsNamespace nodePoolName : String) :
    ∃ after params, getTimeBasedFairShareFields conv metricsNamespace nodePoolName config = some after ∧
      after.usageParams = some params ∧
      (usageDB.connectionString ≠ "" → after.connectionString = usageDB.connectionString) ∧
      (∀ before ∈ usageDB.usageParams, before.KeptIn conv params) ∧
      ((∃ text ∈ params.windowSize, (prometheusDuration text).isSome) ↔
        ∀ before ∈ usageDB.usageParams, before.WholeMinutes) := by
  obtain ⟨tbfs, rfl, henabled, hconnection, hparts⟩ := timeBasedFairShareFromShard_ok hdb haccepted
  have hfields : getTimeBasedFairShareFields conv metricsNamespace nodePoolName (some tbfs) = some
      ⟨"prometheus", tbfs.connectionString.getD "", "", some (usageParamsFor conv metricsNamespace nodePoolName tbfs)⟩ := by
    simp [getTimeBasedFairShareFields, timeBasedFairShare, Option.filter_some, henabled]
  refine ⟨_, _, hfields, rfl, fun _ => by rw [hconnection, setText_getD], ?_⟩
  cases hparams : usageDB.usageParams with
  | none =>
    rw [hparams] at hparts
    have hvalid : ∃ text ∈ (usageParamsFor conv metricsNamespace nodePoolName tbfs).windowSize,
        (prometheusDuration text).isSome := by
      refine ⟨_, rfl, ?_⟩
      rw [hparts, Option.bind_none]
      exact default_window_prometheus conv
    refine ⟨fun before hbefore => ?_, iff_of_true hvalid fun before hbefore => ?_⟩
    · cases hbefore
    · cases hbefore
  | some before =>
    rw [hparams] at hparts
    obtain ⟨size, hsize, hparts⟩ := hparts
    obtain ⟨hkept, hvalid⟩ := usageParamsFor_back hsums hexact (hregular before hparams) hsize hparts metricsNamespace nodePoolName
    refine ⟨fun before' hbefore' => ?_, hvalid.trans ⟨fun hwhole before' hbefore' => ?_, fun h => h before rfl⟩⟩
    · cases hbefore'
      exact hkept
    · cases hbefore'
      exact hwhole

end

namespace Migrated

def exact : Conversions Unit Unit where
  minutes d := halfMinutesText (d.ns.toNat / (30 * second))
  parseDuration text := (total durationUnits (quantities text.toList)).bind Duration.ofNat
  unreadable := id
  weight := id
  isValidWindowType windowType := windowType ∈ ["tumbling", "sliding", "cron"]

theorem inRange_halfLife : -2 ^ 63 ≤ ((90 * minute : Nat) : Int) ∧ ((90 * minute : Nat) : Int) < 2 ^ 63 := by decide

theorem inRange_interval : -2 ^ 63 ≤ ((90 * second : Nat) : Int) ∧ ((90 * second : Nat) : Int) < 2 ^ 63 := by decide

/-- A usage DB with a window of the given size. -/
def params (windowSize : String) : UsageParams Nat where
  halfLifePeriod := some ⟨(90 * minute : Nat), inRange_halfLife⟩
  windowSize := some windowSize
  windowType := some "tumbling"
  tumblingWindowStartTime := some 0
  cronString := ""
  fetchInterval := some ⟨(90 * second : Nat), inRange_interval⟩
  stalenessPeriod := none
  waitTimeout := none
  extraParams := (∅ : Labels).insert "gpuCapacityMetric" "my_gpu_capacity"

def usageDB (windowSize : String) : UsageDBConfig Nat := ⟨"prometheus", "http://prometheus:9090", "", some (params windowSize)⟩

/-- The NodePool's fair share, whose window has the given size. -/
def fairShare (size : String) : TimeBasedFairShare Unit Nat where
  enabled := some true
  historicalUsageWeight := none
  connectionString := some "http://prometheus:9090"
  halfLifePeriod := some "90m"
  window := some ⟨some size, some "tumbling", some 0, none⟩
  sampling := some ⟨some "1m30s", none, none⟩
  extraParams := withKAIDefaultUsageQueries ((∅ : Labels).insert "gpuCapacityMetric" "my_gpu_capacity")

theorem exact_minutes : ExactMinutes exact.minutes := fun _ _ => rfl

theorem exact_sums : ExactSums exact.parseDuration := fun _ _ _ => rfl

theorem params_regular {windowSize : String} {n : Nat} (hn : prometheusDuration windowSize = some n) (hpos : 0 < n)
    (hdvd : 30 * second ∣ n) : (params windowSize).Regular exact where
  halfLifePeriod := by
    rintro d hd
    cases hd
    exact ⟨by decide, by decide⟩
  windowSize := by
    rintro text htext
    cases htext
    exact ⟨n, hn, hpos, hdvd⟩
  windowType := by
    rintro t ht
    cases ht
    decide
  fetchInterval := by
    rintro d hd
    cases hd
    exact ⟨by decide, by decide⟩
  stalenessPeriod := by
    rintro d hd
    cases hd
  waitTimeout := by
    rintro d hd
    cases hd
  extraParams := by
    intro k v hv
    have hkey : k = "gpuCapacityMetric" := by
      by_contra hne
      rw [params, Finmap.lookup_insert_of_ne _ hne, Finmap.lookup_empty] at hv
      cases hv
    subst hkey
    rw [params, Finmap.lookup_insert] at hv
    cases hv
    decide

end Migrated

open Migrated in
theorem week_window_survives : ∃ after after', getTimeBasedFairShareFields exact "kai" "team-a" (some (fairShare "7d")) = some after ∧
    after.usageParams = some after' ∧ after.connectionString = "http://prometheus:9090" ∧ (params "1w").KeptIn exact after' ∧
    ∃ text ∈ after'.windowSize, (prometheusDuration text).isSome := by
  -- A window of a week comes back as seven days.
  have haccepted : timeBasedFairShareFromShard exact "team-a" ⟨none, some (usageDB "1w")⟩ = .ok (some (fairShare "7d")) := by
    decide +kernel
  have hregular : ∀ params' ∈ (usageDB "1w").usageParams, params'.Regular exact := by
    rintro params' hparams
    cases hparams
    have hn : prometheusDuration "1w" = some (7 * day) := by decide
    exact params_regular hn (by decide) (by decide)
  obtain ⟨after, after', hafter, hparams, hconnection, hkept, hvalid⟩ :=
    fair_share_survives_migration_iff exact_sums exact_minutes rfl hregular haccepted "kai" "team-a"
  refine ⟨after, after', hafter, hparams, hconnection (by decide), hkept _ rfl, hvalid.2 ?_⟩
  rintro params' hparams text htext n hn
  cases hparams
  cases htext
  cases hn
  decide

open Migrated in
theorem half_minute_window_not_prometheus :
    ExactSums exact.parseDuration ∧ ExactMinutes exact.minutes ∧ (params "90s").Regular exact ∧
    timeBasedFairShareFromShard exact "team-a" ⟨none, some (usageDB "90s")⟩ = .ok (some (fairShare "1.5m")) ∧
    ((getTimeBasedFairShareFields exact "kai" "team-a" (some (fairShare "1.5m"))).bind UsageDBConfig.usageParams).bind
      UsageParams.windowSize = some "1.5m" ∧
    prometheusDuration "1.5m" = none := by
  -- A window of ninety seconds comes back as one and a half minutes, which Prometheus does not take.
  have hn : prometheusDuration "90s" = some (90 * second) := by decide
  exact ⟨exact_sums, exact_minutes, params_regular hn (by decide) (by decide), by decide +kernel, by decide +kernel, by decide⟩

end Krm.Shards
