import SelfWriter.Protobuf.UpdateSettings

/-!
# Reading back what was written

A host that reads the settings, changes some and writes them back relies on the
two mappings to agree: the response that is built from the settings
(`protobuf/messages.rs`, `fill_settings`) and the stores of `update_settings`.
-/

namespace SelfWriter.Protobuf

open SelfWriter.Lib SelfWriter.Settings
open SelfWriter.Protobuf.Messages (PCoefficients T5Coefficients
  WriteSettingsReq SettingsResponse)

/-! ## What a host expects -/

/-- The value of a field of an optional part of a request, or the old one. -/
def asked {Part α : Type} (part : Option Part) (field : Part → Option α)
    (old : α) : Option α :=
  some ((part.bind field).getD old)

def expectedPCoefficients (request : Option PCoefficients) (old : P16Coeffs) :
    PCoefficients where
  fp0 := asked request (·.fp0) old.fp0
  ft0 := asked request (·.ft0) old.ft0
  a0 := asked request (·.a0) (old.a.get (aIndex 0))
  a1 := asked request (·.a1) (old.a.get (aIndex 1))
  a2 := asked request (·.a2) (old.a.get (aIndex 2))
  a3 := asked request (·.a3) (old.a.get (aIndex 3))
  a4 := asked request (·.a4) (old.a.get (aIndex 4))
  a5 := asked request (·.a5) (old.a.get (aIndex 5))
  a6 := asked request (·.a6) (old.a.get (aIndex 6))
  a7 := asked request (·.a7) (old.a.get (aIndex 7))
  a8 := asked request (·.a8) (old.a.get (aIndex 8))
  a9 := asked request (·.a9) (old.a.get (aIndex 9))
  a10 := asked request (·.a10) (old.a.get (aIndex 10))
  a11 := asked request (·.a11) (old.a.get (aIndex 11))
  a12 := asked request (·.a12) (old.a.get (aIndex 12))
  a13 := asked request (·.a13) (old.a.get (aIndex 13))
  a14 := asked request (·.a14) (old.a.get (aIndex 14))
  a15 := asked request (·.a15) (old.a.get (aIndex 15))

def expectedTCoefficients (request : Option T5Coefficients) (old : T5Coeffs) :
    T5Coefficients where
  t0 := asked request (·.t0) old.t0
  f0 := asked request (·.f0) old.f0
  c1 := asked request (·.c1) (old.c.get (cIndex 0))
  c2 := asked request (·.c2) (old.c.get (cIndex 1))
  c3 := asked request (·.c3) (old.c.get (cIndex 2))
  c4 := asked request (·.c4) (old.c.get (cIndex 3))
  c5 := asked request (·.c5) (old.c.get (cIndex 4))

def expectedWorkRange (request : Option Messages.WorkRange) (old : WorkRange) :
    Messages.WorkRange where
  minimum := asked request (·.minimum) old.minimum
  maximum := asked request (·.maximum) old.maximum
  absoluteMaximum := asked request (·.absoluteMaximum) old.absoluteMaximum

def expectedCalibrationDate (request : Option Messages.CalibrationDate)
    (old : CalibrationDate) : Messages.CalibrationDate where
  day := asked request (·.day) old.day
  month := asked request (·.month) old.month
  year := asked request (·.year) old.year

def expectedWriteConfig (request : Option Messages.WriteConfig)
    (old : WriteConfig) : Messages.WriteConfig where
  baseIntervalMs := asked request (·.baseIntervalMs) old.baseIntervalMs
  pWriteDevider := asked request (·.pWriteDevider) old.pWriteDevider
  tWriteDevider := asked request (·.tWriteDevider) old.tWriteDevider

/-- The response in which every field has the value that the request set for
the field of that name, or the old value. -/
def expectedResponse (w : WriteSettingsReq) (ws : AppSettings)
    (ts : NonStoreSettings) : SettingsResponse where
  serial := w.setSerial.getD ws.serial
  pMesureTimeMs := w.setPMesureTimeMs.getD ws.pMesureTimeMs
  tMesureTimeMs := w.setTMesureTimeMs.getD ws.tMesureTimeMs
  fref := w.setFref.getD ws.fref
  pEnabled := w.setPEnabled.getD ws.pEnabled
  tEnabled := w.setTEnabled.getD ws.tEnabled
  tcpuEnabled := w.setTcpuEnabled.getD ws.tcpuEnabled
  vBatEnable := w.setVBatEnable.getD ws.vBatEnabled
  pCoefficients := expectedPCoefficients w.setPCoefficients ws.pCoefficients
  tCoefficients := expectedTCoefficients w.setTCoefficients ws.tCoefficients
  pWorkRange := expectedWorkRange w.setPWorkRange ws.pWorkRange
  tWorkRange := expectedWorkRange w.setTWorkRange ws.tWorkRange
  tcpuWorkRange := expectedWorkRange w.setTcpuWorkRange ws.tcpuWorkRange
  batWorkRange := expectedWorkRange w.setBatWorkRange ws.vbatWorkRange
  calibrationDate :=
    expectedCalibrationDate w.setCalibrationDate ws.calibrationDate
  pZeroCorrection := w.setPZeroCorrection.getD ws.pZeroCorrection
  tZeroCorrection := w.setTZeroCorrection.getD ws.tZeroCorrection
  writeConfig := expectedWriteConfig w.setWriteConfig ws.writeConfig
  startDelay := w.setStartDelay.getD ws.startDelay
  pressureMeassureUnits :=
    w.setPressureMeassureUnits.getD ws.pressureMeassureUnits.toI32
  password := w.setPassword.getD (responseOf ws ts).password

/-- The request that writes every field of a response to the field of that
name. -/
def requestOf (response : SettingsResponse) : WriteSettingsReq where
  setSerial := some response.serial
  setPMesureTimeMs := some response.pMesureTimeMs
  setTMesureTimeMs := some response.tMesureTimeMs
  setFref := some response.fref
  setPEnabled := some response.pEnabled
  setTEnabled := some response.tEnabled
  setTcpuEnabled := some response.tcpuEnabled
  setVBatEnable := some response.vBatEnable
  setPCoefficients := some response.pCoefficients
  setTCoefficients := some response.tCoefficients
  setPWorkRange := some response.pWorkRange
  setTWorkRange := some response.tWorkRange
  setTcpuWorkRange := some response.tcpuWorkRange
  setBatWorkRange := some response.batWorkRange
  setCalibrationDate := some response.calibrationDate
  setPZeroCorrection := some response.pZeroCorrection
  setTZeroCorrection := some response.tZeroCorrection
  setWriteConfig := some response.writeConfig
  setStartDelay := some response.startDelay
  setPressureMeassureUnits := some response.pressureMeassureUnits
  setPassword := some response.password

/-! ## When they get it -/

/-- After the request, the coefficients `Fp0` and `Ft0` are to be the same. -/
def SameFp0Ft0 (request : Option PCoefficients) (old : P16Coeffs) : Prop :=
  asked request (·.fp0) old.fp0 = asked request (·.ft0) old.ft0

/-- A password that the session keeps whole: no zero byte, and not over ten
bytes.  The one longer text that reads back ends with a replacement character
that the cut falls into. -/
def KeptPassword (text : Utf8.Text) : Prop :=
  0 ∉ text.bytes ∧
    (text.bytes.length ≤ passwordSize ∨
      ∃ front, text.bytes = front ++ Utf8.replacement ∧
        front.length < passwordSize)

private theorem pCoefficients_read_back (request : Option PCoefficients)
    (old : P16Coeffs) :
    PCoefficients.from (overOld overPCoefficients request old) =
        expectedPCoefficients request old ↔
      SameFp0Ft0 request old := by
  constructor
  · intro same
    cases request with
    | none => exact (congrArg PCoefficients.ft0 same)
    | some coefficients => exact (congrArg PCoefficients.ft0 same)
  · intro same
    cases request with
    | none =>
        exact PCoefficients.ext same.symm same rfl rfl rfl rfl rfl rfl rfl rfl
          rfl rfl rfl rfl rfl rfl rfl rfl
    | some coefficients =>
        exact PCoefficients.ext same.symm same rfl rfl rfl rfl rfl rfl rfl rfl
          rfl rfl rfl rfl rfl rfl rfl rfl

private theorem tCoefficients_read_back (request : Option T5Coefficients)
    (old : T5Coeffs) :
    T5Coefficients.from (overOld overTCoefficients request old) =
      expectedTCoefficients request old := by
  cases request <;> rfl

private theorem workRange_read_back (request : Option Messages.WorkRange)
    (old : WorkRange) :
    Messages.WorkRange.from (overOld overWorkRange request old) =
      expectedWorkRange request old := by
  cases request <;> rfl

private theorem calibrationDate_read_back (request : Option Messages.CalibrationDate)
    (old : CalibrationDate) :
    Messages.CalibrationDate.from (overOld overCalibrationDate request old) =
      expectedCalibrationDate request old := by
  cases request <;> rfl

private theorem writeConfig_read_back (request : Option Messages.WriteConfig)
    (old : WriteConfig) :
    Messages.WriteConfig.from (overOld overWriteConfig request old) =
      expectedWriteConfig request old := by
  cases request <;> rfl

/-- A verified code reads back as it was set. -/
theorem pressureMeassureUnits_read_back {request : Option Int32}
    (verified : verifyPressureMeassureUnits request = .ok ())
    (old : PressureMeassureUnits) :
    ((request.bind PressureMeassureUnits.fromI32).getD old).toI32 =
      request.getD old.toI32 := by
  cases request with
  | none => rfl
  | some code =>
      cases known : PressureMeassureUnits.fromI32 code with
      | none => simp [verifyPressureMeassureUnits, known] at verified
      | some unit =>
          rw [Option.bind_some, known]
          exact PressureMeassureUnits.toI32_of_fromI32 known

/-! ### The session password -/

def nonZero (byte : UInt8) : Bool := !(byte == 0)

private theorem take_strlenn (bytes : List UInt8) :
    bytes.take (strlenn bytes bytes.length) = bytes.takeWhile nonZero := by
  have negated : (fun byte => !(nonZero byte)) = (fun byte : UInt8 => byte == 0) := by
    funext byte
    exact Bool.not_not _
  rw [strlenn, List.take_length, ← List.findIdx_eq_getD_findIdx?,
    List.takeWhile_eq_take_findIdx_not, negated]

theorem paddedPassword_toList (text : Utf8.Text) :
    (paddedPassword text).toList =
      text.bytes.take passwordSize ++
        List.replicate (passwordSize - text.bytes.length) 0 := by
  apply List.ext_getElem
  · simp only [Vector.length_toList, List.length_append, List.length_take,
      List.length_replicate, passwordSize]
    omega
  · intro index bound _
    rw [Vector.length_toList] at bound
    simp only [Vector.getElem_toList, paddedPassword, Vector.getElem_ofFn]
    rcases Nat.lt_or_ge index text.bytes.length with inside | behind
    · rw [List.getD_eq_getElem?_getD, List.getElem?_eq_getElem inside,
        Option.getD_some, List.getElem_append_left (by
          rw [List.length_take, passwordSize]
          omega), List.getElem_take]
    · rw [List.getD_eq_getElem?_getD, List.getElem?_eq_none behind,
        Option.getD_none, List.getElem_append_right (by
          rw [List.length_take]
          omega), List.getElem_replicate]

private theorem zero_not_mem_takeWhile (bytes : List UInt8) :
    0 ∉ bytes.takeWhile nonZero := by
  intro member
  have positive := List.all_eq_true.mp List.all_takeWhile 0 member
  exact absurd positive (by decide)

/-- The session keeps the text before its first zero byte. -/
theorem takeWhile_paddedPassword {text : Utf8.Text} (absent : 0 ∉ text.bytes) :
    (paddedPassword text).toList.takeWhile nonZero =
      text.bytes.take passwordSize := by
  have kept : ∀ byte ∈ text.bytes.take passwordSize, nonZero byte = true := by
    intro byte member
    have nonzero : byte ≠ 0 := by
      rintro rfl
      exact absent (List.mem_of_mem_take member)
    simpa only [nonZero, Bool.not_eq_true', beq_eq_false_iff_ne] using nonzero
  have padding : ∀ count,
      (List.replicate count (0 : UInt8)).takeWhile nonZero = [] := by
    intro count
    cases count <;> rfl
  rw [paddedPassword_toList, List.takeWhile_append_of_pos kept, padding,
    List.append_nil]

private theorem password_read_back (text : Utf8.Text) (ts : NonStoreSettings)
    (ws : AppSettings) :
    (responseOf ws (storePassword (some text) ts)).password = text ↔
      KeptPassword text := by
  have reported :
      (responseOf ws (storePassword (some text) ts)).password.bytes =
        Utf8.lossy ((paddedPassword text).toList.takeWhile nonZero) := by
    rw [← take_strlenn, Vector.length_toList]
    rfl
  rw [Utf8.Text.ext_iff, reported, KeptPassword,
    ← Utf8.lossy_take_eq_iff text.isUtf8]
  constructor
  · intro same
    have absent : 0 ∉ text.bytes := by
      rw [← same]
      exact Utf8.zero_not_mem_lossyFrom _ _ (zero_not_mem_takeWhile _)
    rw [takeWhile_paddedPassword absent] at same
    exact ⟨absent, same⟩
  · rintro ⟨absent, same⟩
    rw [takeWhile_paddedPassword absent]
    exact same

/-! ## The whole response -/

private theorem response_eq_expected_iff {build : CalibrationDate} {invalid : Bool}
    {w : WriteSettingsReq} (verified : verifyFields build invalid w = .ok ())
    (ws : AppSettings) (ts : NonStoreSettings) :
    responseOf (requested w ws) (storePassword w.setPassword ts) =
        expectedResponse w ws ts ↔
      SameFp0Ft0 w.setPCoefficients ws.pCoefficients ∧
        ∀ text, w.setPassword = some text → KeptPassword text := by
  have passwords :
      (responseOf (requested w ws) (storePassword w.setPassword ts)).password =
          w.setPassword.getD (responseOf ws ts).password ↔
        ∀ text, w.setPassword = some text → KeptPassword text := by
    cases setPassword : w.setPassword with
    | none => exact ⟨fun _ _ given => (by cases given), fun _ => rfl⟩
    | some text =>
        rw [Option.getD_some, password_read_back]
        constructor
        · intro kept _ given
          cases given
          exact kept
        · exact fun all => all text rfl
  rw [← pCoefficients_read_back, ← passwords]
  constructor
  · intro same
    exact ⟨congrArg SettingsResponse.pCoefficients same,
      congrArg SettingsResponse.password same⟩
  · rintro ⟨coefficients, password⟩
    apply SettingsResponse.ext
    case pCoefficients => exact coefficients
    case password => exact password
    case tCoefficients => exact tCoefficients_read_back _ _
    case pWorkRange => exact workRange_read_back _ _
    case tWorkRange => exact workRange_read_back _ _
    case tcpuWorkRange => exact workRange_read_back _ _
    case batWorkRange => exact workRange_read_back _ _
    case calibrationDate => exact calibrationDate_read_back _ _
    case writeConfig => exact writeConfig_read_back _ _
    case pressureMeassureUnits =>
      exact pressureMeassureUnits_read_back
        (verified_of_verifyFields verified).pressureMeassureUnits _
    all_goals rfl

/-- Writing back everything that was read exchanges `Fp0` and `Ft0`. -/
theorem requested_requestOf (ws : AppSettings) (ts : NonStoreSettings) :
    requested (requestOf (responseOf ws ts)) ws =
      { ws with
        pCoefficients :=
          { ws.pCoefficients with
            fp0 := ws.pCoefficients.ft0
            ft0 := ws.pCoefficients.fp0 } } := by
  have pVector : overPCoefficients (.from ws.pCoefficients) ws.pCoefficients =
      { ws.pCoefficients with
        fp0 := ws.pCoefficients.ft0
        ft0 := ws.pCoefficients.fp0 } := by
    apply P16Coeffs.ext
    · rfl
    · rfl
    · apply Vector.ext
      intro place bound
      rcases place with _ | _ | _ | _ | _ | _ | _ | _ | _ | _ | _ | _ | _ | _ |
        _ | _ | place
      all_goals first | rfl | omega
  have tVector : overTCoefficients (.from ws.tCoefficients) ws.tCoefficients =
      ws.tCoefficients := by
    apply T5Coeffs.ext
    · rfl
    · rfl
    · apply Vector.ext
      intro place bound
      rcases place with _ | _ | _ | _ | _ | place
      all_goals first | rfl | omega
  have units := PressureMeassureUnits.fromI32_toI32 ws.pressureMeassureUnits
  simp only [requested, requestOf, responseOf, overOld, Option.elim_some,
    Option.getD_some, Option.bind_some, pVector, tVector, units]
  rfl

private theorem requested_requestOf_iff (ws : AppSettings) (ts : NonStoreSettings) :
    requested (requestOf (responseOf ws ts)) ws = ws ↔
      ws.pCoefficients.fp0 = ws.pCoefficients.ft0 := by
  rw [requested_requestOf]
  constructor
  · intro same
    exact (congrArg (fun settings => settings.pCoefficients.ft0) same)
  · intro same
    have swapped :
        { ws.pCoefficients with
          fp0 := ws.pCoefficients.ft0
          ft0 := ws.pCoefficients.fp0 } = ws.pCoefficients :=
      P16Coeffs.ext same.symm same rfl
    rw [swapped]

private theorem fillSettings_ok {world after : World} {response : SettingsResponse}
    (answered : fillSettings world = .ok response after) :
    ∃ ws ts, world.settings = some (ws, ts) ∧
      after.settings = some (ws, ts) ∧ response = responseOf ws ts := by
  obtain ⟨ws, ts, _, settings, action, unchanged, _⟩ :=
    settingsAction_ok answered
  cases action
  exact ⟨ws, ts, settings, unchanged, rfl⟩

/-- A host reads back what it set, and the old values otherwise, exactly when
the request leaves the coefficients `Fp0` and `Ft0` equal and the session keeps
its password whole.  Writing back all that was read restores the settings
exactly when the two coefficients are equal. -/
theorem settings_read_back_and_write_back (build : CalibrationDate)
    (ws : AppSettings) (ts : NonStoreSettings) {world : World}
    (settings : world.settings = some (ws, ts)) :
    (∀ w needWrite after response final,
      updateSettings build w world = .ok needWrite after →
      fillSettings after = .ok response final →
        (response = expectedResponse w ws ts ↔
          SameFp0Ft0 w.setPCoefficients ws.pCoefficients ∧
            ∀ text, w.setPassword = some text → KeptPassword text)) ∧
    (∀ response between needWrite after,
      fillSettings world = .ok response between →
      updateSettings build (requestOf response) between = .ok needWrite after →
        ((∃ session, after.settings = some (ws, session)) ↔
          ws.pCoefficients.fp0 = ws.pCoefficients.ft0)) := by
  constructor
  · intro w needWrite after response final accepted answered
    obtain ⟨ws', ts', settings', verified, stored, _⟩ :=
      updateSettings_ok accepted
    rw [settings] at settings'
    cases settings'
    obtain ⟨_, _, current, _, rfl⟩ := fillSettings_ok answered
    rw [stored] at current
    cases current
    exact response_eq_expected_iff verified ws ts
  · intro response between needWrite after answered accepted
    obtain ⟨ws', ts', settings', unchanged, rfl⟩ := fillSettings_ok answered
    rw [settings] at settings'
    cases settings'
    obtain ⟨_, _, current, _, stored, _⟩ := updateSettings_ok accepted
    rw [unchanged] at current
    cases current
    rw [stored, ← requested_requestOf_iff ws ts]
    constructor
    · rintro ⟨session, same⟩
      injection same with pair
      exact congrArg Prod.fst pair
    · intro same
      exact ⟨_, by rw [same]⟩

/-! ## A session that sets `Fp0` -/

/-- Sets `Fp0` to 1.0. -/
def fp0Request : WriteSettingsReq :=
  { Messages.emptyRequest with
    setPCoefficients := some {
        fp0 := some ⟨0x3F800000⟩
        ft0 := none
        a0 := none
        a1 := none
        a2 := none
        a3 := none
        a4 := none
        a5 := none
        a6 := none
        a7 := none
        a8 := none
        a9 := none
        a10 := none
        a11 := none
        a12 := none
        a13 := none
        a14 := none
        a15 := none } }

theorem settings_read_back_and_write_back_fp0Request :
    ∃ after response final between again last,
      updateSettings sampleBuild fp0Request unlockedWorld = .ok true after ∧
      fillSettings after = .ok response final ∧
      (response = expectedResponse fp0Request (defaultSettings sampleBuild)
          { currentPassword := (defaultSettings sampleBuild).password } ↔
        SameFp0Ft0 fp0Request.setPCoefficients
            (defaultSettings sampleBuild).pCoefficients ∧
          ∀ text, fp0Request.setPassword = some text → KeptPassword text) ∧
      fillSettings unlockedWorld = .ok again between ∧
      updateSettings sampleBuild (requestOf again) between = .ok true last ∧
      ((∃ session,
          last.settings = some (defaultSettings sampleBuild, session)) ↔
        (defaultSettings sampleBuild).pCoefficients.fp0 =
          (defaultSettings sampleBuild).pCoefficients.ft0) := by
  have unlocked : unlockedWorld.settings = some (defaultSettings sampleBuild,
      { currentPassword := (defaultSettings sampleBuild).password }) := rfl
  have both := settings_read_back_and_write_back sampleBuild
    (defaultSettings sampleBuild)
    { currentPassword := (defaultSettings sampleBuild).password } unlocked
  exact ⟨_, _, _, _, _, _, rfl, rfl, both.1 _ _ _ _ _ rfl rfl, rfl, rfl,
    both.2 _ _ _ _ rfl rfl⟩

/-- The value that was set for `fp0` is reported as `ft0`. -/
theorem fp0_read_back_as_ft0 :
    ∃ after response final,
      updateSettings sampleBuild fp0Request unlockedWorld = .ok true after ∧
      fillSettings after = .ok response final ∧
      response.pCoefficients.fp0 = some .zero ∧
      response.pCoefficients.ft0 = some ⟨0x3F800000⟩ ∧
      response ≠ expectedResponse fp0Request (defaultSettings sampleBuild)
        { currentPassword := (defaultSettings sampleBuild).password } := by
  refine ⟨_, _, _, rfl, rfl, rfl, rfl, ?_⟩
  intro same
  have fp0 := congrArg (fun response => response.pCoefficients.fp0) same
  exact absurd fp0 (by decide)

end SelfWriter.Protobuf
