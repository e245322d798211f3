import SelfWriter.Protobuf.UpdateSettings
import SelfWriter.Recorder.Acquisition

/-!
# The periods of the recorder

`RecorderProcessor::new` (`workmodes/processing/recorder_processor.rs`) derives
the write periods and the preheat times from the settings; `to_real_period`
(`workmodes/common.rs`) converts them to the clock in use.

A tick of the operating system is one millisecond.
-/

namespace SelfWriter.Recorder

open SelfWriter.Lib.Word32
open SelfWriter.Settings (AppSettings WriteConfig CalibrationDate minMt
  defaultSettings)
open SelfWriter.Protobuf

def toRealPeriod (periodTicks sysclk : UInt32) : UInt32 :=
  (periodTicks.toUInt64 * sysclk.toUInt64 /
    Config.freertosConfigFreq.toUInt64).toUInt32

def preheatTimeMs (sysclk mt : UInt32) : UInt32 :=
  toRealPeriod
    (cmpMax (mt * Config.preheatMultiplier + Config.genColdStartupTimeMs)
      (Config.minimumAdaptationInterval + Config.genColdStartupTimeMs))
    sysclk

/-- `u32` products wrap, as in a release build. -/
def chCfg (sysclk : UInt32) (ws : AppSettings) : FChCfg where
  pPreheatTimeMs := preheatTimeMs sysclk ws.pMesureTimeMs
  tPreheatTimeMs := preheatTimeMs sysclk ws.tMesureTimeMs
  pWritePeriodMs :=
    toRealPeriod (ws.writeConfig.baseIntervalMs * ws.writeConfig.pWriteDevider)
      sysclk
  tWritePeriodMs :=
    toRealPeriod (ws.writeConfig.baseIntervalMs * ws.writeConfig.tWriteDevider)
      sysclk
  pEn := ws.pEnabled
  tEn := ws.tEnabled
  tcpuEn := ws.tcpuEnabled
  vbatEn := ws.vBatEnabled

/-! ## The clock -/

/-- At the frequency that the operating system is configured for, a period
stays as it is. -/
theorem toRealPeriod_freertosConfigFreq (periodTicks : UInt32) :
    toRealPeriod periodTicks Config.freertosConfigFreq = periodTicks := by
  have small := periodTicks.toNat_lt
  apply UInt32.toNat.inj
  have frequency : Config.freertosConfigFreq.toUInt64.toNat = 3000000 := by decide
  have noOverflow :
      periodTicks.toNat * 3000000 % 2 ^ 64 = periodTicks.toNat * 3000000 :=
    Nat.mod_eq_of_lt (by omega)
  rw [toRealPeriod, UInt64.toNat_toUInt32, UInt64.toNat_div, UInt64.toNat_mul,
    UInt32.toNat_toUInt64, frequency, noOverflow, Nat.mul_div_cancel _ (by decide)]
  exact Nat.mod_eq_of_lt small

/-- A product of two words is exact when it fits, and only then. -/
theorem toNat_mul_eq_iff (x y : UInt32) :
    (x * y).toNat = x.toNat * y.toNat ↔ x.toNat * y.toNat < 4294967296 := by
  rw [UInt32.toNat_mul]
  constructor
  · intro exact'
    rw [← exact']
    exact Nat.mod_lt _ (by decide)
  · exact Nat.mod_eq_of_lt

/-! ## What requests can configure -/

/-- The write configurations that pass the checks. -/
structure CheckedWriteConfig (config : WriteConfig) : Prop where
  baseInterval : minMt ≤ config.baseIntervalMs
  pWriteDevider : 0 < config.pWriteDevider
  tWriteDevider : 0 < config.tWriteDevider

private theorem pos_of_verifyDevider {text : String} {devider : UInt32}
    (verified : verifyDevider text (some devider) = .ok ()) : 0 < devider := by
  rw [verifyDevider] at verified
  split at verified
  · cases verified
  · rename_i nonzero
    exact UInt32.pos_iff_ne_zero.mpr nonzero

private theorem minMt_le_of_verifyBaseInterval {baseIntervalMs : UInt32}
    (verified : verifyBaseInterval (some baseIntervalMs) = .ok ()) :
    minMt ≤ baseIntervalMs := by
  rw [verifyBaseInterval] at verified
  split at verified
  · cases verified
  · rename_i enough
    exact UInt32.not_lt.mp enough

theorem CheckedWriteConfig.stored {config : WriteConfig}
    (checked : CheckedWriteConfig config) {request : Messages.WriteConfig}
    (verified : verifyWriteConfig (some request) = .ok ()) :
    CheckedWriteConfig (overWriteConfig request config) := by
  obtain ⟨base, deviders⟩ := check_seq verified
  obtain ⟨pDevider, tDevider⟩ := check_seq deviders
  obtain ⟨baseIntervalMs, pWriteDevider, tWriteDevider⟩ := request
  constructor
  · cases baseIntervalMs with
    | none => exact checked.baseInterval
    | some baseIntervalMs => exact minMt_le_of_verifyBaseInterval base
  · cases pWriteDevider with
    | none => exact checked.pWriteDevider
    | some devider => exact pos_of_verifyDevider pDevider
  · cases tWriteDevider with
    | none => exact checked.tWriteDevider
    | some devider => exact pos_of_verifyDevider tDevider

/-- Every configuration that requests lead to has passed the checks. -/
theorem checkedWriteConfig_of_configured {build : CalibrationDate}
    {ws : AppSettings} (configured : Configured build ws) :
    CheckedWriteConfig ws.writeConfig := by
  have initially : CheckedWriteConfig
      { baseIntervalMs := 20, pWriteDevider := 1, tWriteDevider := 1 } :=
    ⟨by decide, by decide, by decide⟩
  refine configured.invariant (I := fun ws => CheckedWriteConfig ws.writeConfig)
    initially ?_
  intro w ws invalid verified checked
  have configVerified := verified.writeConfig
  rw [requested]
  cases request : w.setWriteConfig with
  | none => exact checked
  | some config =>
      rw [request] at configVerified
      exact checked.stored configVerified

/-! ## The periods -/

/-- The recorder's write periods are the products of the settings, and not
zero. -/
structure ExactPeriods (ws : AppSettings) (cfg : FChCfg) : Prop where
  pExact : cfg.pWritePeriodMs.toNat =
    ws.writeConfig.baseIntervalMs.toNat * ws.writeConfig.pWriteDevider.toNat
  tExact : cfg.tWritePeriodMs.toNat =
    ws.writeConfig.baseIntervalMs.toNat * ws.writeConfig.tWriteDevider.toNat
  pPositive : 0 < cfg.pWritePeriodMs
  tPositive : 0 < cfg.tWritePeriodMs

/-- In milliseconds, both products fit in 32 bits. -/
structure ProductsFit (config : WriteConfig) : Prop where
  p : config.baseIntervalMs.toNat * config.pWriteDevider.toNat < 4294967296
  t : config.baseIntervalMs.toNat * config.tWriteDevider.toNat < 4294967296

private theorem pos_of_product {period base devider : UInt32}
    (product : period.toNat = base.toNat * devider.toNat)
    (baseInterval : minMt ≤ base) (positive : 0 < devider) : 0 < period := by
  have base' : 20 ≤ base.toNat := UInt32.le_iff_toNat_le.mp baseInterval
  have devider' : 0 < devider.toNat := UInt32.lt_iff_toNat_lt.mp positive
  apply UInt32.lt_iff_toNat_lt.mpr
  rw [product]
  exact Nat.mul_pos (by omega) devider'

/-- For all settings that accepted requests lead to, the recorder's write
periods are the configured ones, and positive, exactly when the products fit. -/
theorem exact_periods_iff_products_fit {build : CalibrationDate}
    {ws : AppSettings} (configured : Configured build ws) :
    ExactPeriods ws (chCfg Config.freertosConfigFreq ws) ↔
      ProductsFit ws.writeConfig := by
  have checked := checkedWriteConfig_of_configured configured
  have p := toNat_mul_eq_iff ws.writeConfig.baseIntervalMs
    ws.writeConfig.pWriteDevider
  have t := toNat_mul_eq_iff ws.writeConfig.baseIntervalMs
    ws.writeConfig.tWriteDevider
  have pPeriod : (chCfg Config.freertosConfigFreq ws).pWritePeriodMs =
      ws.writeConfig.baseIntervalMs * ws.writeConfig.pWriteDevider :=
    toRealPeriod_freertosConfigFreq _
  have tPeriod : (chCfg Config.freertosConfigFreq ws).tWritePeriodMs =
      ws.writeConfig.baseIntervalMs * ws.writeConfig.tWriteDevider :=
    toRealPeriod_freertosConfigFreq _
  constructor
  · rintro ⟨pExact, tExact, _, _⟩
    rw [pPeriod] at pExact
    rw [tPeriod] at tExact
    exact ⟨p.mp pExact, t.mp tExact⟩
  · rintro ⟨pFits, tFits⟩
    have pExact := p.mpr pFits
    have tExact := t.mpr tFits
    rw [← pPeriod] at pExact
    rw [← tPeriod] at tExact
    exact ⟨pExact, tExact,
      pos_of_product pExact checked.baseInterval checked.pWriteDevider,
      pos_of_product tExact checked.baseInterval checked.tWriteDevider⟩

theorem exact_periods_iff_products_fit_default :
    ExactPeriods (defaultSettings sampleBuild)
        (chCfg Config.freertosConfigFreq (defaultSettings sampleBuild)) ↔
      ProductsFit (defaultSettings sampleBuild).writeConfig :=
  exact_periods_iff_products_fit .default

/-- Asks for a pressure write every 65536 times 65536 milliseconds. -/
def overflowRequest : Messages.WriteSettingsReq :=
  { Messages.emptyRequest with
    setWriteConfig := some
      { baseIntervalMs := some 65536
        pWriteDevider := some 65536
        tWriteDevider := none } }

def freshWorld : Settings.World where
  settings := some (defaultSettings sampleBuild, Settings.initialSession)
  cq := []
  timeouts := []

/-- The request is accepted, and the recorder divides by zero. -/
theorem write_period_overflows :
    ∃ after ws ts,
      updateSettings sampleBuild overflowRequest freshWorld = .ok true after ∧
      after.settings = some (ws, ts) ∧ Configured sampleBuild ws ∧
      (chCfg Config.freertosConfigFreq ws).pWritePeriodMs = 0 ∧
      ¬ ExactPeriods ws (chCfg Config.freertosConfigFreq ws) := by
  obtain ⟨after, accepted⟩ :
      ∃ after,
        updateSettings sampleBuild overflowRequest freshWorld = .ok true after :=
    ⟨_, rfl⟩
  obtain ⟨ws, ts, settings, _, stored, _⟩ := updateSettings_ok accepted
  cases settings
  refine ⟨after, _, _, accepted, stored,
    .update .default rfl accepted stored, ?_, ?_⟩
  · decide
  · intro exactPeriods
    exact absurd exactPeriods.pPositive (by decide)

end SelfWriter.Recorder
