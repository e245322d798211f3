import SelfWriter.Protobuf.ProcessRequest

/-!
# What a request changes is saved

The sub-commands that change the settings answer whether there is something to
save, and the request handler asks for it.  The reset of the monitoring flags
answers too, and its answer is dropped.
-/

namespace SelfWriter.Protobuf

open SelfWriter.Lib SelfWriter.Lib.Hoare SelfWriter.Settings
open SelfWriter.Protobuf.Messages (PCoefficients T5Coefficients
  WriteSettingsReq SettingsResponse)

/-! ## Nothing to write, nothing changed -/

/-- A part of the storing of a request that marks what it changes. -/
def Marks (store : Stored → Stored) : Prop :=
  ∀ stored, (store stored).2 = false → store stored = stored

theorem Marks.refl : Marks (fun stored => stored) :=
  fun _ _ => rfl

theorem Marks.next {first second : Stored → Stored} (marks : Marks second)
    (before : Marks first) : Marks (fun stored => second (first stored)) := by
  intro stored unmarked
  have same : second (first stored) = first stored := marks _ unmarked
  have firstUnmarked : (first stored).2 = false := by
    rw [← same]
    exact unmarked
  exact same.trans (before stored firstUnmarked)

private theorem marks_storeCoeff {α : Type} (field : Lens AppSettings α)
    (value : Option α) : Marks (storeCoeff field value) := by
  intro stored unmarked
  cases value with
  | none => rfl
  | some v => cases unmarked

private theorem marks_storeMesureSettings (w : WriteSettingsReq) :
    Marks (storeMesureSettings w) := by
  change Marks (fun stored => storeMesureSettings w stored)
  simp only [storeMesureSettings]
  repeat apply (marks_storeCoeff _ _).next
  exact .refl

private theorem marks_storeEnables (w : WriteSettingsReq) : Marks (storeEnables w) := by
  change Marks (fun stored => storeEnables w stored)
  simp only [storeEnables]
  repeat apply (marks_storeCoeff _ _).next
  exact .refl

theorem marks_storePCoefficients (request : Option PCoefficients) :
    Marks (storePCoefficients request) := by
  cases request with
  | none => exact .refl
  | some coefficients =>
      change Marks (fun stored => storePCoefficients (some coefficients) stored)
      simp only [storePCoefficients]
      repeat apply (marks_storeCoeff _ _).next
      exact .refl

theorem marks_storeTCoefficients (request : Option T5Coefficients) :
    Marks (storeTCoefficients request) := by
  cases request with
  | none => exact .refl
  | some coefficients =>
      change Marks (fun stored => storeTCoefficients (some coefficients) stored)
      simp only [storeTCoefficients]
      repeat apply (marks_storeCoeff _ _).next
      exact .refl

private theorem marks_storeWorkRange (field : Lens AppSettings WorkRange)
    (request : Option Messages.WorkRange) :
    Marks (storeWorkRange field request) := by
  cases request with
  | none => exact .refl
  | some range =>
      change Marks (fun stored => storeWorkRange field (some range) stored)
      simp only [storeWorkRange]
      repeat apply (marks_storeCoeff _ _).next
      exact .refl

private theorem marks_storeCalibrationDate (request : Option Messages.CalibrationDate) :
    Marks (storeCalibrationDate request) := by
  cases request with
  | none => exact .refl
  | some date =>
      change Marks (fun stored => storeCalibrationDate (some date) stored)
      simp only [storeCalibrationDate]
      repeat apply (marks_storeCoeff _ _).next
      exact .refl

private theorem marks_storeWriteConfig (request : Option Messages.WriteConfig) :
    Marks (storeWriteConfig request) := by
  cases request with
  | none => exact .refl
  | some config =>
      change Marks (fun stored => storeWriteConfig (some config) stored)
      simp only [storeWriteConfig]
      repeat apply (marks_storeCoeff _ _).next
      exact .refl

private theorem marks_storeConfiguration (w : WriteSettingsReq) :
    Marks (storeConfiguration w) := by
  change Marks (fun stored => storeConfiguration w stored)
  simp only [storeConfiguration, storePWorkRange, storeTWorkRange,
    storeTcpuWorkRange, storeBatWorkRange]
  apply (marks_storeCoeff _ _).next
  apply (marks_storeWriteConfig _).next
  repeat apply (marks_storeCoeff _ _).next
  apply (marks_storeCalibrationDate _).next
  repeat apply (marks_storeWorkRange _ _).next
  apply (marks_storeTCoefficients _).next
  apply (marks_storePCoefficients _).next
  exact marks_storeEnables w

private theorem storePressureMeassureUnits_unmarked {request : Option Int32}
    {stored : Stored} {ws : AppSettings}
    (unmarked : storePressureMeassureUnits request stored = some (ws, false)) :
    stored = (ws, false) := by
  cases request with
  | none => exact Option.some.inj unmarked
  | some code =>
      cases unit : PressureMeassureUnits.fromI32 code with
      | none => simp [storePressureMeassureUnits, unit] at unmarked
      | some found => simp [storePressureMeassureUnits, unit] at unmarked

/-- A request that leaves nothing to write has changed nothing. -/
theorem storeRequest_unmarked {w : WriteSettingsReq} {work after : Work}
    (stores : storeRequest w work = .ok false after) : after.ws = work.ws := by
  have marks : Marks (fun stored => storeConfiguration w (storeMesureSettings w stored)) :=
    (marks_storeConfiguration w).next (marks_storeMesureSettings w)
  rw [storeRequest] at stores
  cases units : storePressureMeassureUnits w.setPressureMeassureUnits
      (storeConfiguration w (storeMesureSettings w (work.ws, false))) with
  | none => simp [units] at stores
  | some result =>
      obtain ⟨ws, needWrite⟩ := result
      simp only [units, EStateM.Result.ok.injEq] at stores
      obtain ⟨rfl, rfl⟩ := stores
      have last := storePressureMeassureUnits_unmarked units
      have same := marks (work.ws, false) (congrArg Prod.snd last)
      exact congrArg Prod.fst (last.symm.trans same)

/-! ## Sub-commands that report what they change -/

private theorem settingsAction_triple {T R : Type} {action : SettingsAction T R}
    {before : Option AppSettings} {Q : R → Option AppSettings → Prop}
    {F : Option AppSettings → Prop} (refused : F before)
    (runs : ∀ ws, before = some ws →
      Triple (fun work => work.ws = ws) action
        (fun result after => Q result (some after.ws))
        (fun _ after => F (some after.ws))) :
    Triple (fun world => world.appSettings = before) (settingsAction action)
      (fun result after => Q result after.appSettings)
      (fun _ after => F after.appSettings) := by
  intro world same
  rw [settingsAction]
  by_cases timeout : world.timeouts.headD false = true
  · rw [if_pos timeout]
    rw [← same] at refused
    exact refused
  · rw [if_neg timeout]
    cases settings : world.settings with
    | none =>
        have absent : before = none := by
          rw [← same, World.appSettings, settings]
          rfl
        rw [absent] at refused
        exact refused
    | some pair =>
        obtain ⟨ws, ts⟩ := pair
        have present : before = some ws := by
          rw [← same, World.appSettings, settings]
          rfl
        have reached := runs ws present { ws := ws, ts := ts, cq := world.cq } rfl
        dsimp only
        cases outcome : action { ws := ws, ts := ts, cq := world.cq } with
        | ok result after =>
            rw [outcome] at reached
            exact reached
        | error error after =>
            rw [outcome] at reached
            exact reached

/-- The answer says whether there is something to save: after `false`, or after
an error, the settings are the old ones.  The monitoring flags are left alone. -/
def Reports {T : Type} (command : SettingsM T Bool) : Prop :=
  ∀ before, Triple (fun world => world.appSettings = before) command
    (fun needSave after =>
      after.appSettings.map AppSettings.monitoring =
          before.map AppSettings.monitoring ∧
        (needSave = false → after.appSettings = before))
    (fun _ after => after.appSettings = before)

private theorem reports_changePassword (cmd : ChangePassword) :
    Reports (changePassword cmd) := by
  intro before
  apply settingsAction_triple (F := fun settings => settings = before) rfl
    (Q := fun needSave settings =>
      settings.map AppSettings.monitoring = before.map AppSettings.monitoring ∧
        (needSave = false → settings = before))
  rintro ws rfl work rfl
  rw [changePasswordAction]
  by_cases invalid : work.ws.password ≠ work.ts.currentPassword
  · rw [if_pos invalid]
  · rw [if_neg invalid]
    by_cases same : work.ts.currentPassword = paddedPassword cmd.newPassword
    · rw [if_pos same]
      exact ⟨rfl, fun _ => rfl⟩
    · rw [if_neg same]
      exact ⟨rfl, fun unmarked => by cases unmarked⟩

theorem verifyPressureMeassureUnits_known {request : Option Int32}
    (verified : verifyPressureMeassureUnits request = .ok ()) (stored : Stored) :
    storePressureMeassureUnits request stored ≠ none := by
  cases request with
  | none => simp [storePressureMeassureUnits]
  | some code =>
      cases unit : PressureMeassureUnits.fromI32 code with
      | none => simp [verifyPressureMeassureUnits, unit] at verified
      | some found => simp [storePressureMeassureUnits, unit]

private theorem settingsAction_reads {T R : Type} (read : Work → R)
    (before : Option AppSettings) :
    Triple (fun world => world.appSettings = before)
      (settingsAction (do
        let work ← get
        pure (read work)) : SettingsM T R)
      (fun _ after => after.appSettings = before)
      (fun _ after => after.appSettings = before) := by
  refine settingsAction_triple (Q := fun _ settings => settings = before)
    (F := fun settings => settings = before) rfl ?_
  rintro ws rfl work rfl
  rfl

private theorem fillSettings_triple (before : Option AppSettings) :
    Triple (fun world => world.appSettings = before) fillSettings
      (fun _ after => after.appSettings = before)
      (fun _ after => after.appSettings = before) :=
  settingsAction_reads (fun work => responseOf work.ws work.ts) before

private theorem verifyParameters_triple (build : CalibrationDate) (w : WriteSettingsReq)
    (before : Option AppSettings) :
    Triple (fun world => world.appSettings = before) (verifyParameters build w)
      (fun _ after => after.appSettings = before ∧
        verifyPressureMeassureUnits w.setPressureMeassureUnits = .ok ())
      (fun _ after => after.appSettings = before) := by
  apply (settingsAction_reads
    (fun work => decide (work.ws.password ≠ work.ts.currentPassword)) before).bind
  intro passwordInvalid
  cases verdict : verifyFields build passwordInvalid w with
  | error error => exact .raise (fun _ same => same)
  | ok _ =>
      have verified := verified_of_verifyFields verdict
      exact .answer (fun _ same => ⟨same, verified.pressureMeassureUnits⟩)

/-- After the verification the storing cannot fail. -/
theorem reports_updateSettings (build : CalibrationDate) (w : WriteSettingsReq) :
    Reports (updateSettings build w) := by
  intro before
  apply (verifyParameters_triple build w before).bind
  intro _ world start
  obtain ⟨same, verified⟩ := start
  refine settingsAction_triple (F := fun settings => settings = before)
    (Q := fun needSave settings =>
      settings.map AppSettings.monitoring = before.map AppSettings.monitoring ∧
        (needSave = false → settings = before)) rfl ?_ world same
  rintro ws rfl work rfl
  cases outcome : storeRequest w work with
  | ok needWrite after =>
      obtain ⟨settings, _, _⟩ := storeRequest_ok outcome
      refine ⟨?_, ?_⟩
      · rw [settings]
        rfl
      · rintro rfl
        rw [storeRequest_unmarked outcome]
  | error error after =>
      rw [storeRequest] at outcome
      cases units : storePressureMeassureUnits w.setPressureMeassureUnits
          (storeConfiguration w (storeMesureSettings w (work.ws, false))) with
      | none => exact absurd units (verifyPressureMeassureUnits_known verified _)
      | some result => simp [units] at outcome

/-! ## A request so far -/

/-- The settings are the old ones, or their save was asked for. -/
def Scheduled (initial : Option AppSettings) (session : Session) : Prop :=
  session.world.appSettings = initial ∨
    ∃ call ∈ session.calls, call.realyWrite = true ∧
      call.settings = session.world.appSettings

/-- Before the flags are reset: no settings seen so far differ from the old
ones in the monitoring flags. -/
structure Tracked (initial : Option AppSettings) (session : Session) : Prop where
  monitoring : session.world.appSettings.map AppSettings.monitoring =
    initial.map AppSettings.monitoring
  calls : ∀ call ∈ session.calls,
    call.settings.map AppSettings.monitoring =
      initial.map AppSettings.monitoring
  scheduled : Scheduled initial session

theorem Scheduled.world {initial : Option AppSettings} {session : Session}
    (scheduled : Scheduled initial session) {world : World}
    (same : world.appSettings = session.world.appSettings) :
    Scheduled initial { session with world := world } := by
  rw [Scheduled, ← same] at scheduled
  exact scheduled

theorem Tracked.world {initial : Option AppSettings} {session : Session}
    (tracked : Tracked initial session) {world : World}
    (same : world.appSettings = session.world.appSettings) :
    Tracked initial { session with world := world } := by
  refine ⟨?_, tracked.calls, tracked.scheduled.world same⟩
  rw [← tracked.monitoring, ← same]

section Environment

variable {OutputReq OutputResponse : Type}
variable (env : Environment OutputReq OutputResponse)

/-- A change that is reported is scheduled. -/
theorem Tracked.performed {initial : Option AppSettings} {session : Session}
    (tracked : Tracked initial session) {T : Type} {command : SettingsM T Bool}
    (reports : Reports command) :
    Tracked initial (performAndSave env command session).2 := by
  have outcome := reports session.world.appSettings session.world rfl
  rw [performAndSave]
  cases performs : command session.world with
  | error error world =>
      rw [performs] at outcome
      exact tracked.world outcome
  | ok needSave world =>
      rw [performs] at outcome
      obtain ⟨monitoring, reported⟩ := outcome
      have sameMonitoring := monitoring.trans tracked.monitoring
      refine ⟨sameMonitoring, ?_, ?_⟩
      · intro call member
        rcases List.mem_append.mp member with earlier | last
        · exact tracked.calls call earlier
        · rw [List.mem_singleton.mp last]
          exact sameMonitoring
      · cases needSave with
        | true =>
            right
            exact ⟨_, List.mem_append_right _ (List.mem_singleton_self _), rfl,
              rfl⟩
        | false =>
            have same := reported rfl
            rcases tracked.scheduled with unchanged | ⟨call, member, written, settings⟩
            · left
              exact same.trans unchanged
            · right
              exact ⟨call, List.mem_append_left _ member, written,
                settings.trans same.symm⟩

theorem Tracked.writeSettings {initial : Option AppSettings}
    {session : Session} (tracked : Tracked initial session)
    (request : Option WriteSettingsReq) (resp : Response OutputResponse) :
    Tracked initial (writeSettings env request (resp, session)).2 := by
  cases request with
  | none => exact tracked
  | some w =>
      have kept := tracked.performed env (reports_updateSettings env.build w)
      rcases performs : performAndSave env (updateSettings env.build w) session
        with ⟨stored, middle⟩
      rw [performs] at kept
      have read := fillSettings_triple middle.world.appSettings middle.world rfl
      simp only [Protobuf.writeSettings, performs]
      cases answer : fillSettings middle.world with
      | ok settings world =>
          rw [answer] at read
          exact kept.world read
      | error error world =>
          rw [answer] at read
          exact kept.world read

private theorem fillInfo_appSettings (world : World) :
    (fillInfo env world).2.2.appSettings = world.appSettings := by
  have read := settingsAction_reads (T := Unit)
    (fun work => work.ws.monitoring) _ world rfl
  simp only [fillInfo]
  cases answer : (settingsAction (do
      let work ← get
      pure work.ws.monitoring) : SettingsM Unit Monitoring) world with
  | ok monitoring after =>
      rw [answer] at read
      exact read
  | error error after =>
      rw [answer] at read
      exact read

theorem Tracked.getInfo {initial : Option AppSettings} {session : Session}
    (tracked : Tracked initial session) (request : Option Unit)
    (resp : Response OutputResponse) :
    Tracked initial (getInfo env request (resp, session)).2 := by
  cases request with
  | none => exact tracked
  | some _ => exact tracked.world (fillInfo_appSettings env session.world)

theorem Tracked.passwordCommand {initial : Option AppSettings}
    {session : Session} (tracked : Tracked initial session)
    (request : Option ChangePassword) (resp : Response OutputResponse) :
    Tracked initial (passwordCommand env request (resp, session)).2 := by
  cases request with
  | none => exact tracked
  | some cmd => exact tracked.performed env (reports_changePassword cmd)

/-! ## Sub-commands that go well -/

def WriteSettingsSucceeds (request : Option WriteSettingsReq)
    (session after : Session) : Prop :=
  match request with
  | none => after = session
  | some w => ∃ stored settings world,
      performAndSave env (updateSettings env.build w) session = (true, stored) ∧
        fillSettings stored.world = .ok settings world ∧
        after = { stored with world := world }

def GetInfoSucceeds (request : Option Unit) (session after : Session) : Prop :=
  match request with
  | none => after = session
  | some () => ∃ info world,
      fillInfo env session.world = (info, none, world) ∧
        after = { session with world := world }

def PasswordSucceeds (request : Option ChangePassword)
    (session after : Session) : Prop :=
  match request with
  | none => after = session
  | some cmd => performAndSave env (changePassword cmd) session = (true, after)

@[simp]
theorem Response.failed_globalStatus (resp : Response OutputResponse) :
    resp.failed.globalStatus = .errorsInSubcommands :=
  rfl

theorem writeSettings_ok_iff {request : Option WriteSettingsReq}
    {session after : Session} {resp : Response OutputResponse} :
    (∃ answer, writeSettings env request (resp, session) = (some answer, after) ∧
        answer.globalStatus = .ok) ↔
      resp.globalStatus = .ok ∧
        WriteSettingsSucceeds env request session after := by
  cases request with
  | none =>
      constructor
      · rintro ⟨answer, writes, ok⟩
        cases writes
        exact ⟨ok, rfl⟩
      · rintro ⟨ok, rfl⟩
        exact ⟨resp, rfl, ok⟩
  | some w =>
      rcases performs : performAndSave env (updateSettings env.build w) session
        with ⟨stored, middle⟩
      cases answer : fillSettings middle.world with
      | error error world =>
          simp [writeSettings, WriteSettingsSucceeds, performs, answer]
      | ok settings world =>
          cases stored with
          | false => simp [writeSettings, WriteSettingsSucceeds, performs, answer]
          | true =>
              simp [writeSettings, WriteSettingsSucceeds, performs, answer,
                and_comm, eq_comm]

theorem getInfo_ok_iff {request : Option Unit} {session after : Session}
    {resp : Response OutputResponse} :
    (∃ answer, getInfo env request (resp, session) = (answer, after) ∧
        answer.globalStatus = .ok) ↔
      resp.globalStatus = .ok ∧ GetInfoSucceeds env request session after := by
  cases request with
  | none => simp [getInfo, GetInfoSucceeds, and_comm, eq_comm]
  | some _ =>
      rcases fills : fillInfo env session.world with ⟨info, error, world⟩
      cases error with
      | none => simp [getInfo, GetInfoSucceeds, fills, and_comm, eq_comm]
      | some error => simp [getInfo, GetInfoSucceeds, fills]

theorem passwordCommand_ok_iff {request : Option ChangePassword}
    {session after : Session} {resp : Response OutputResponse} :
    (∃ answer, passwordCommand env request (resp, session) = (answer, after) ∧
        answer.globalStatus = .ok) ↔
      resp.globalStatus = .ok ∧ PasswordSucceeds env request session after := by
  cases request with
  | none => simp [passwordCommand, PasswordSucceeds, and_comm, eq_comm]
  | some cmd =>
      rcases performs : performAndSave env (changePassword cmd) session
        with ⟨changed, middle⟩
      cases changed with
      | false => simp [passwordCommand, PasswordSucceeds, performs]
      | true => simp [passwordCommand, PasswordSucceeds, performs, and_comm]

/-! ## The reset of the flags -/

theorem Monitoring.isSet_eq_false {monitoring : Monitoring}
    (clear : monitoring.isSet = false) : monitoring = .default := by
  obtain ⟨ovarpress, ovarheat, cpuOvarheat, overPower⟩ := monitoring
  simp only [Monitoring.isSet, Bool.or_eq_false_iff] at clear
  obtain ⟨⟨⟨rfl, rfl⟩, rfl⟩, rfl⟩ := clear
  rfl

private theorem resetMonitoringFlags_ok {world after : World} {needStore : Bool}
    (resets : resetMonitoringFlags world = .ok needStore after) :
    ∃ ws, world.appSettings = some ws ∧ needStore = ws.monitoring.isSet ∧
      after.appSettings = some { ws with monitoring := .default } := by
  obtain ⟨ws, ts, work, settings, action, final, _⟩ := settingsAction_ok resets
  cases action
  refine ⟨ws, ?_, rfl, ?_⟩
  · rw [World.appSettings, settings]
    rfl
  · rw [World.appSettings, final]
    rfl

private theorem resetMonitoringFlags_error {world after : World}
    {error : SettingActionError UInt32}
    (fails : resetMonitoringFlags world = .error error after) :
    after.appSettings = world.appSettings := by
  have outcome : Triple (fun start => start.appSettings = world.appSettings)
      resetMonitoringFlags (fun _ _ => True)
      (fun _ after => after.appSettings = world.appSettings) :=
    settingsAction_triple (Q := fun _ _ => True)
      (F := fun settings => settings = world.appSettings) rfl
      (fun _ _ _ _ => trivial)
  have outcome := outcome world rfl
  rw [fails] at outcome
  exact outcome

theorem clearMemory_ok_iff {request : Option Bool}
    {resp : Response OutputResponse} :
    (clearMemory env request resp).globalStatus = .ok ↔
      resp.globalStatus = .ok ∧
        (request = some true → env.flashErease = none) := by
  cases erase : env.flashErease with
  | none => simp [clearMemory, erase]
  | some error =>
      by_cases asked : request = some true
      · simp [clearMemory, erase, asked]
      · simp [clearMemory, erase, asked]

theorem getOutputValues_ok_iff {request : Option OutputReq}
    {resp : Response OutputResponse} :
    (getOutputValues env request resp).globalStatus = .ok ↔
      resp.globalStatus = .ok ∧
        ∀ get, request = some get → (env.fillOutput get).2 = none := by
  cases request with
  | none => simp [getOutputValues]
  | some get =>
      cases fills : (env.fillOutput get).2 with
      | none => simp [getOutputValues, fills]
      | some error => simp [getOutputValues, fills]

/-- A flash command that resets the flags reports a failed erasing only. -/
theorem flashCommand_reset {command : FlashCommand} {session : Session}
    (resp : Response OutputResponse) {needStore : Bool} {world : World}
    (asked : command.resetMonitoring = some ())
    (resets : resetMonitoringFlags session.world = .ok needStore world) :
    ∃ answer, flashCommand env (some command) (resp, session) =
        (answer, { session with world := world }) ∧
      (answer.globalStatus = .ok ↔ resp.globalStatus = .ok ∧
        (command.clearMemory = some true → env.flashErease = none)) := by
  simp only [flashCommand, resetMonitoring, asked, resets]
  exact ⟨_, rfl, clearMemory_ok_iff env⟩

/-- The flash command leaves the settings alone, but for a reset of set flags. -/
theorem flashCommand_scheduled {initial : Option AppSettings}
    {session : Session} (scheduled : Scheduled initial session)
    (request : Option FlashCommand) (resp : Response OutputResponse) :
    Scheduled initial (flashCommand env request (resp, session)).2 ∨
      ∃ command world, request = some command ∧
        command.resetMonitoring = some () ∧
        resetMonitoringFlags session.world = .ok true world := by
  cases request with
  | none => exact .inl scheduled
  | some command =>
      cases asked : command.resetMonitoring with
      | none =>
          left
          simp only [flashCommand, resetMonitoring, asked]
          exact scheduled
      | some _ =>
          cases resets : resetMonitoringFlags session.world with
          | error error world =>
              left
              simp only [flashCommand, resetMonitoring, asked, resets]
              exact scheduled.world (resetMonitoringFlags_error resets)
          | ok needStore world =>
              cases needStore with
              | true => exact .inr ⟨command, world, rfl, asked, rfl⟩
              | false =>
                  left
                  obtain ⟨ws, settings, clear, final⟩ :=
                    resetMonitoringFlags_ok resets
                  have same : world.appSettings = session.world.appSettings := by
                    rw [final, settings, ← Monitoring.isSet_eq_false clear.symm]
                  simp only [flashCommand, resetMonitoring, asked, resets]
                  exact scheduled.world same

/-- The flags are reset and one was set, after every sub-command before the
reset has gone well and before others that go well too. -/
structure ResetUnsaved (req : Request OutputReq) (resp : Response OutputResponse)
    (world : World) : Prop where
  accepted : (req.isForThis env && req.isSupported env) = true
  status : resp.globalStatus = .ok
  reset : ∃ written informed changed after,
    WriteSettingsSucceeds env req.writeSettings
        { world := world, calls := [] } written ∧
      GetInfoSucceeds env req.getInfo written informed ∧
      PasswordSucceeds env req.changePassword informed changed ∧
      resetMonitoringFlags changed.world = .ok true after
  command : ∃ command, req.flashCommand = some command ∧
    command.resetMonitoring = some () ∧
    (command.clearMemory = some true → env.flashErease = none)
  output : ∀ get, req.getOutputValues = some get →
    (env.fillOutput get).2 = none

/-- If the request leaves other settings behind, their save was asked for during
the request, or the response says that something failed. -/
def ChangesScheduled (req : Request OutputReq) (resp : Response OutputResponse)
    (world : World) : Prop :=
  let (answer, after) :=
    processRequiest env req resp { world := world, calls := [] }
  after.world.appSettings ≠ world.appSettings →
    (∃ call ∈ after.calls, call.realyWrite = true ∧
      call.settings = after.world.appSettings) ∨
    ∃ response, answer = some response ∧ response.globalStatus ≠ .ok

theorem processRequiest_refused {req : Request OutputReq}
    {resp : Response OutputResponse} {session : Session}
    (refused : (req.isForThis env && req.isSupported env) = false) :
    processRequiest env req resp session =
      (some { resp with globalStatus := .protocolError }, session) := by
  have condition : (!req.isForThis env || !req.isSupported env) = true := by
    rw [← Bool.not_and, refused]
    rfl
  rw [processRequiest, if_pos condition]

theorem processRequiest_unread {req : Request OutputReq}
    {resp : Response OutputResponse} {session written : Session}
    (accepted : (req.isForThis env && req.isSupported env) = true)
    (writes : writeSettings env req.writeSettings (resp, session) =
      (none, written)) :
    processRequiest env req resp session = (none, written) := by
  have condition : ¬ (!req.isForThis env || !req.isSupported env) = true := by
    rw [← Bool.not_and, accepted]
    decide
  rw [processRequiest, if_neg condition, writes]

theorem processRequiest_written {req : Request OutputReq}
    {resp answer : Response OutputResponse} {session written : Session}
    (accepted : (req.isForThis env && req.isSupported env) = true)
    (writes : writeSettings env req.writeSettings (resp, session) =
      (some answer, written)) :
    processRequiest env req resp session =
      (some (getOutputValues env req.getOutputValues
          (flashCommand env req.flashCommand
            (passwordCommand env req.changePassword
              (getInfo env req.getInfo (answer, written)))).1),
        (flashCommand env req.flashCommand
          (passwordCommand env req.changePassword
            (getInfo env req.getInfo (answer, written)))).2) := by
  have condition : ¬ (!req.isForThis env || !req.isSupported env) = true := by
    rw [← Bool.not_and, accepted]
    decide
  rw [processRequiest, if_neg condition, writes]

/-- What the request has seen of the settings up to the reset. -/
theorem tracked_before_reset (req : Request OutputReq) {world : World}
    {resp answer : Response OutputResponse} {written : Session}
    (writes : writeSettings env req.writeSettings
      (resp, { world := world, calls := [] }) = (some answer, written)) :
    Tracked world.appSettings
      (passwordCommand env req.changePassword
        (getInfo env req.getInfo (answer, written))).2 := by
  have start : Tracked world.appSettings { world := world, calls := [] } :=
    ⟨rfl, fun _ member => absurd member List.not_mem_nil, .inl rfl⟩
  have tracked := start.writeSettings env req.writeSettings resp
  rw [writes] at tracked
  have informed := tracked.getInfo env req.getInfo answer
  exact informed.passwordCommand env req.changePassword _

private theorem not_scheduled_of_resetUnsaved {req : Request OutputReq}
    {resp : Response OutputResponse} {world : World}
    (unsaved : ResetUnsaved env req resp world) :
    ¬ ChangesScheduled env req resp world := by
  obtain ⟨accepted, status, reset, command, output⟩ := unsaved
  obtain ⟨written, informed, changed, after, first, second, third, resets⟩ := reset
  obtain ⟨command, flash, asked, erases⟩ := command
  obtain ⟨resp₁, writes, ok₁⟩ := (writeSettings_ok_iff env).mpr ⟨status, first⟩
  obtain ⟨resp₂, informs, ok₂⟩ := (getInfo_ok_iff env).mpr ⟨ok₁, second⟩
  obtain ⟨resp₃, changes, ok₃⟩ := (passwordCommand_ok_iff env).mpr ⟨ok₂, third⟩
  obtain ⟨resp₄, flashes, ok₄⟩ := flashCommand_reset env _ asked resets
  have tracked := tracked_before_reset env req writes
  rw [informs, changes] at tracked
  obtain ⟨ws, settings, isSet, final⟩ := resetMonitoringFlags_ok resets
  have differ : some ws.monitoring ≠ some Monitoring.default := by
    intro same
    rw [Option.some.inj same] at isSet
    cases isSet
  have old : world.appSettings.map AppSettings.monitoring = some ws.monitoring := by
    rw [← tracked.monitoring, settings]
    rfl
  have ok : (getOutputValues env req.getOutputValues resp₄).globalStatus = .ok :=
    (getOutputValues_ok_iff env).mpr ⟨ok₄.mpr ⟨ok₃, erases⟩, output⟩
  have processes := processRequiest_written env accepted writes
  rw [informs, changes, flash, flashes] at processes
  intro scheduled
  rw [ChangesScheduled, processes] at scheduled
  have changedSettings : after.appSettings ≠ world.appSettings := by
    intro same
    rw [← same, final] at old
    exact differ old.symm
  rcases scheduled changedSettings with ⟨call, member, _, saved⟩ | ⟨response, same, failed⟩
  · have seen := tracked.calls call member
    rw [saved, final, old] at seen
    exact differ seen.symm
  · cases same
    exact failed ok

private theorem scheduled_of_not_resetUnsaved {req : Request OutputReq}
    {resp : Response OutputResponse} {world : World}
    (saved : ¬ ResetUnsaved env req resp world) :
    ChangesScheduled env req resp world := by
  rw [ChangesScheduled]
  cases accepted : req.isForThis env && req.isSupported env with
  | false =>
      rw [processRequiest_refused env accepted]
      intro changed
      exact absurd rfl changed
  | true =>
      rcases writes : writeSettings env req.writeSettings
        (resp, { world := world, calls := [] }) with ⟨answer, written⟩
      cases answer with
      | none =>
          have start : Tracked world.appSettings { world := world, calls := [] } :=
            ⟨rfl, fun _ member => absurd member List.not_mem_nil, .inl rfl⟩
          have tracked := start.writeSettings env req.writeSettings resp
          rw [writes] at tracked
          rw [processRequiest_unread env accepted writes]
          intro changed
          rcases tracked.scheduled with unchanged | call
          · exact absurd unchanged changed
          · exact .inl call
      | some resp₁ =>
          have tracked := tracked_before_reset env req writes
          rw [processRequiest_written env accepted writes]
          rcases informs : getInfo env req.getInfo (resp₁, written)
            with ⟨resp₂, informed⟩
          rw [informs] at tracked
          rcases changes : passwordCommand env req.changePassword (resp₂, informed)
            with ⟨resp₃, changed⟩
          rw [changes] at tracked
          intro differ
          rcases flashCommand_scheduled env tracked.scheduled req.flashCommand resp₃
            with unchanged | ⟨command, after, flash, asked, resets⟩
          · rcases unchanged with unchanged | call
            · exact absurd unchanged differ
            · exact .inl call
          · right
            refine ⟨_, rfl, fun ok => saved ?_⟩
            obtain ⟨resp₄, flashes, ok₄⟩ := flashCommand_reset env resp₃ asked
              resets
            rw [flash, flashes] at ok
            obtain ⟨flashOk, output⟩ := (getOutputValues_ok_iff env).mp ok
            obtain ⟨ok₃, erases⟩ := ok₄.mp flashOk
            obtain ⟨ok₂, third⟩ := (passwordCommand_ok_iff env).mp ⟨_, changes, ok₃⟩
            obtain ⟨ok₁, second⟩ := (getInfo_ok_iff env).mp ⟨_, informs, ok₂⟩
            obtain ⟨status, first⟩ := (writeSettings_ok_iff env).mp ⟨_, writes, ok₁⟩
            exact ⟨accepted, status,
              ⟨written, informed, changed, after, first, second, third, resets⟩,
              ⟨command, flash, asked, erases⟩, output⟩

/-- What a request changes is scheduled for saving, unless it resets monitoring
flags that were set and nothing of it fails. -/
theorem changes_scheduled_iff (req : Request OutputReq)
    (resp : Response OutputResponse) (world : World) :
    ChangesScheduled env req resp world ↔ ¬ ResetUnsaved env req resp world :=
  ⟨fun scheduled unsaved => not_scheduled_of_resetUnsaved env unsaved scheduled,
    scheduled_of_not_resetUnsaved env⟩

end Environment

/-! ## A reset that is not saved -/

/-- Nothing fails. -/
def quietEnvironment : Environment Unit Unit where
  protocol :=
    { pressureSelfWriterId := 1
      idDiscover := 2
      protocolVersion := 1 }
  build := sampleBuild
  swVersion := 1
  outputStorage := some (false, false)
  fillOutput := fun _ => ((), none)
  createTimer := fun _ => none
  flashErease := none
  isEraseInProgress := false
  flashPageSize := 4096

def resetRequest : Request Unit where
  id := 1
  deviceId := 1
  protocolVersion := 1
  writeSettings := none
  getInfo := none
  changePassword := none
  flashCommand :=
    some
      { resetMonitoring := some ()
        clearMemory := none }
  getOutputValues := none

def newResponse : Response Unit :=
  .new quietEnvironment.protocol resetRequest.id 0

/-- The defaults, after an overpressure was met. -/
def overpressWorld : World where
  settings :=
    some
      ({ defaultSettings sampleBuild with
          monitoring := { Monitoring.default with ovarpress := true } },
        initialSession)
  cq := []
  timeouts := []

/-- The flag is gone from the settings, no save was asked for, and the response
is fine: the flag is back after a restart. -/
theorem reset_of_monitoring_not_scheduled :
    ¬ ChangesScheduled quietEnvironment resetRequest newResponse
      overpressWorld := by
  apply not_scheduled_of_resetUnsaved
  refine ⟨rfl, rfl, ?_, ?_, ?_⟩
  · exact ⟨_, _, _, _, rfl, rfl, rfl, rfl⟩
  · exact ⟨_, rfl, rfl, fun asked => by cases asked⟩
  · intro get asked
    cases asked

end SelfWriter.Protobuf
