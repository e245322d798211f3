import SelfWriter.Protobuf.AllOrNothing
import SelfWriter.Protobuf.Output

/-!
# One response for each request

`protobuf_server` (`threads/protobuf_server.rs`) writes what `process_requiest`
makes of a request, and nothing when that returns early.  A response is written
until the host has taken all of it, and it can always be encoded.
-/

namespace SelfWriter.Protobuf

open SelfWriter.Lib SelfWriter.Lib.Hoare SelfWriter.Settings
open SelfWriter.Protobuf.Messages (WriteSettingsReq)

/-! ## The server -/

/-- The environment in which the measured values are behind these locks. -/
def Environment.withStorage (env : Environment OutputReq OutputResponse)
    (asF32 : Binary64 → Binary32)
    (lock : OutputGroup → Except FreeRtosError OutputStorage) :
    Environment OutputReq OutputResponse :=
  { env with fillOutput := Protobuf.fillOutput asF32 lock }

section Environment

variable {OutputReq OutputResponse : Type}
variable (env : Environment OutputReq OutputResponse)

/-- One round of `protobuf_server` behind the reception: the responses that are
written, and the session after. -/
def respond (ticks : UInt64) (req : Request OutputReq) (session : Session) :
    List (Response OutputResponse) × Session :=
  match processRequiest env req (.new env.protocol req.id ticks) session with
  | (some response, session) => ([response], session)
  | (none, session) => ([], session)

/-! ## The shape of a response -/

/-- The id, and which sections are present. -/
structure Shape where
  id : UInt32
  getSettings : Bool
  info : Bool
  passwordChanged : Bool
  flashStatus : Bool
  output : Bool
  deriving DecidableEq, Repr

def Response.shape (resp : Response OutputResponse) : Shape where
  id := resp.id
  getSettings := resp.getSettings.isSome
  info := resp.info.isSome
  passwordChanged := resp.passwordChanged.isSome
  flashStatus := resp.flashStatus.isSome
  output := resp.output.isSome

/-- A section for every sub-request. -/
def Request.shape (req : Request OutputReq) : Shape where
  id := req.id
  getSettings := req.writeSettings.isSome
  info := req.getInfo.isSome
  passwordChanged := req.changePassword.isSome
  flashStatus := req.flashCommand.isSome
  output := req.getOutputValues.isSome

@[simp]
theorem Response.failed_shape (resp : Response OutputResponse) :
    resp.failed.shape = resp.shape :=
  rfl

private theorem writeSettings_shape {request : Option WriteSettingsReq}
    {resp answer : Response OutputResponse} {session after : Session}
    (writes : writeSettings env request (resp, session) = (some answer, after)) :
    answer.shape =
      { resp.shape with
        getSettings := resp.shape.getSettings || request.isSome } := by
  cases request with
  | none =>
      cases writes
      rw [Option.isSome_none, Bool.or_false]
  | some w =>
      rcases performs : performAndSave env (updateSettings env.build w) session
        with ⟨stored, middle⟩
      cases answers : fillSettings middle.world with
      | error error world => simp [writeSettings, performs, answers] at writes
      | ok settings world =>
          simp only [writeSettings, performs, answers, Prod.mk.injEq,
            Option.some.injEq] at writes
          rw [← writes.1, Option.isSome_some, Bool.or_true]
          cases stored <;> rfl

private theorem getInfo_shape (request : Option Unit)
    (progress : Progress OutputResponse) :
    (getInfo env request progress).1.shape =
      { progress.1.shape with
        info := progress.1.shape.info || request.isSome } := by
  obtain ⟨resp, session⟩ := progress
  cases request with
  | none =>
      rw [Option.isSome_none, Bool.or_false]
      rfl
  | some _ =>
      rw [Option.isSome_some, Bool.or_true]
      rcases fills : fillInfo env session.world with ⟨info, error, world⟩
      simp only [getInfo, fills]
      cases error <;> rfl

private theorem passwordCommand_shape (request : Option ChangePassword)
    (progress : Progress OutputResponse) :
    (passwordCommand env request progress).1.shape =
      { progress.1.shape with
        passwordChanged :=
          progress.1.shape.passwordChanged || request.isSome } := by
  obtain ⟨resp, session⟩ := progress
  cases request with
  | none =>
      rw [Option.isSome_none, Bool.or_false]
      rfl
  | some cmd =>
      rw [Option.isSome_some, Bool.or_true]
      rcases performs : performAndSave env (changePassword cmd) session
        with ⟨changed, middle⟩
      simp only [passwordCommand, performs]
      cases changed <;> rfl

private theorem resetMonitoring_shape (request : Option Unit)
    (progress : Progress OutputResponse) :
    (resetMonitoring request progress).1.1.shape = progress.1.shape := by
  obtain ⟨resp, session⟩ := progress
  cases request with
  | none => rfl
  | some _ =>
      cases resets : resetMonitoringFlags session.world with
      | ok needStore world => simp only [resetMonitoring, resets]
      | error error world => simp [resetMonitoring, resets]

private theorem clearMemory_shape (request : Option Bool)
    (resp : Response OutputResponse) :
    (clearMemory env request resp).shape = resp.shape := by
  rw [clearMemory]
  split <;> rfl

private theorem flashCommand_shape (request : Option FlashCommand)
    (progress : Progress OutputResponse) :
    (flashCommand env request progress).1.shape =
      { progress.1.shape with
        flashStatus := progress.1.shape.flashStatus || request.isSome } := by
  cases request with
  | none =>
      rw [Option.isSome_none, Bool.or_false]
      rfl
  | some command =>
      have reset := resetMonitoring_shape command.resetMonitoring progress
      rcases resets : resetMonitoring command.resetMonitoring progress
        with ⟨⟨resp, session⟩, failed⟩
      rw [resets] at reset
      have cleared := clearMemory_shape env command.clearMemory resp
      rw [Option.isSome_some, Bool.or_true, ← reset, ← cleared]
      simp only [flashCommand, resets]
      rfl

private theorem getOutputValues_shape (request : Option OutputReq)
    (resp : Response OutputResponse) :
    (getOutputValues env request resp).shape =
      { resp.shape with output := resp.shape.output || request.isSome } := by
  cases request with
  | none =>
      rw [Option.isSome_none, Bool.or_false]
      rfl
  | some get =>
      rw [Option.isSome_some, Bool.or_true]
      cases fills : (env.fillOutput get).2 with
      | none =>
          simp only [getOutputValues, fills]
          rfl
      | some error =>
          simp only [getOutputValues, fills]
          rfl

theorem processRequiest_shape {req : Request OutputReq}
    {resp answer : Response OutputResponse} {session after : Session}
    (accepted : (req.isForThis env && req.isSupported env) = true)
    (processes : processRequiest env req resp session = (some answer, after)) :
    answer.shape =
      { id := resp.shape.id
        getSettings := resp.shape.getSettings || req.writeSettings.isSome
        info := resp.shape.info || req.getInfo.isSome
        passwordChanged :=
          resp.shape.passwordChanged || req.changePassword.isSome
        flashStatus := resp.shape.flashStatus || req.flashCommand.isSome
        output := resp.shape.output || req.getOutputValues.isSome } := by
  rcases writes : writeSettings env req.writeSettings (resp, session)
    with ⟨written, middle⟩
  cases written with
  | none =>
      rw [processRequiest_unread env accepted writes] at processes
      cases processes
  | some written =>
      rw [processRequiest_written env accepted writes] at processes
      cases processes
      rw [getOutputValues_shape, flashCommand_shape, passwordCommand_shape,
        getInfo_shape, writeSettings_shape env writes]

/-! ## What is asked for and goes well -/

def FlashSucceeds (request : Option FlashCommand) (session after : Session) :
    Prop :=
  match request with
  | none => after = session
  | some command =>
      (match command.resetMonitoring with
        | none => after = session
        | some () => ∃ needStore world,
            resetMonitoringFlags session.world = .ok needStore world ∧
              after = { session with world := world }) ∧
        (command.clearMemory = some true → env.flashErease = none)

private theorem flashCommand_ok_iff {request : Option FlashCommand}
    {session after : Session} {resp : Response OutputResponse} :
    (∃ answer, flashCommand env request (resp, session) = (answer, after) ∧
        answer.globalStatus = .ok) ↔
      resp.globalStatus = .ok ∧ FlashSucceeds env request session after := by
  cases request with
  | none => simp [flashCommand, FlashSucceeds, and_comm, eq_comm]
  | some command =>
      cases asked : command.resetMonitoring with
      | none =>
          simp [flashCommand, resetMonitoring, asked, FlashSucceeds,
            clearMemory_ok_iff]
          tauto
      | some _ =>
          cases resets : resetMonitoringFlags session.world with
          | error error world =>
              simp [flashCommand, resetMonitoring, asked, resets,
                FlashSucceeds, clearMemory_ok_iff]
          | ok needStore world =>
              simp [flashCommand, resetMonitoring, asked, resets,
                FlashSucceeds, clearMemory_ok_iff]
              tauto

/-- Every sub-command that the request carries succeeds, one after the other. -/
def AllSucceed (req : Request OutputReq) (session : Session) : Prop :=
  ∃ written informed changed after,
    WriteSettingsSucceeds env req.writeSettings session written ∧
      GetInfoSucceeds env req.getInfo written informed ∧
      PasswordSucceeds env req.changePassword informed changed ∧
      FlashSucceeds env req.flashCommand changed after ∧
      ∀ get, req.getOutputValues = some get → (env.fillOutput get).2 = none

private theorem processRequiest_ok_iff {req : Request OutputReq}
    {resp answer : Response OutputResponse} {session after : Session}
    (accepted : (req.isForThis env && req.isSupported env) = true)
    (processes : processRequiest env req resp session = (some answer, after)) :
    answer.globalStatus = .ok ↔
      resp.globalStatus = .ok ∧ AllSucceed env req session := by
  rcases writes : writeSettings env req.writeSettings (resp, session)
    with ⟨resp₁, written⟩
  cases resp₁ with
  | none =>
      rw [processRequiest_unread env accepted writes] at processes
      cases processes
  | some resp₁ =>
      rw [processRequiest_written env accepted writes] at processes
      rcases informs : getInfo env req.getInfo (resp₁, written)
        with ⟨resp₂, informed⟩
      rcases changes : passwordCommand env req.changePassword (resp₂, informed)
        with ⟨resp₃, changed⟩
      rcases flashes : flashCommand env req.flashCommand (resp₃, changed)
        with ⟨resp₄, final⟩
      rw [informs, changes, flashes] at processes
      obtain ⟨rfl, rfl⟩ := Prod.mk.inj processes |>.imp_left Option.some.inj
      rw [getOutputValues_ok_iff]
      constructor
      · rintro ⟨ok₄, output⟩
        obtain ⟨ok₃, fourth⟩ := (flashCommand_ok_iff env).mp ⟨_, flashes, ok₄⟩
        obtain ⟨ok₂, third⟩ := (passwordCommand_ok_iff env).mp ⟨_, changes, ok₃⟩
        obtain ⟨ok₁, second⟩ := (getInfo_ok_iff env).mp ⟨_, informs, ok₂⟩
        obtain ⟨ok, first⟩ := (writeSettings_ok_iff env).mp ⟨_, writes, ok₁⟩
        exact ⟨ok, _, _, _, _, first, second, third, fourth, output⟩
      · rintro ⟨ok, written', informed', changed', after', first, second, third,
          fourth, output⟩
        obtain ⟨_, writes', ok₁⟩ := (writeSettings_ok_iff env).mpr ⟨ok, first⟩
        rw [writes] at writes'
        cases writes'
        obtain ⟨_, informs', ok₂⟩ := (getInfo_ok_iff env).mpr ⟨ok₁, second⟩
        rw [informs] at informs'
        cases informs'
        obtain ⟨_, changes', ok₃⟩ := (passwordCommand_ok_iff env).mpr ⟨ok₂, third⟩
        rw [changes] at changes'
        cases changes'
        obtain ⟨_, flashes', ok₄⟩ := (flashCommand_ok_iff env).mpr ⟨ok₃, fourth⟩
        rw [flashes] at flashes'
        cases flashes'
        exact ⟨ok₄, output⟩

/-! ## Reading the settings back -/

/-- How often `update_settings` tries to take the lock of the settings. -/
def updateAttempts (build : CalibrationDate) (w : WriteSettingsReq)
    (world : World) : Nat :=
  if world.timeouts.headD false then 1
  else
    match world.settings with
    | none => 1
    | some (ws, ts) =>
        match verifyFields build (decide (ws.password ≠ ts.currentPassword)) w with
        | .ok _ => 2
        | .error _ => 1

private theorem settingsAction_attempt {T R : Type} (action : SettingsAction T R)
    (world : World) :
    Triple (fun start => start = world) (settingsAction action)
      (fun _ after => after.timeouts = world.timeouts.tail ∧
        after.settings.isSome = world.settings.isSome)
      (fun _ after => after.timeouts = world.timeouts.tail ∧
        after.settings.isSome = world.settings.isSome) := by
  intro start same
  subst same
  cases timesOut : start.timeouts.headD false with
  | true =>
      rw [settingsAction_timesOut action timesOut]
      exact ⟨rfl, rfl⟩
  | false =>
      cases settings : start.settings with
      | none =>
          rw [settingsAction_uninitialised action timesOut settings]
          exact ⟨rfl, congrArg Option.isSome settings⟩
      | some pair =>
          obtain ⟨ws, ts⟩ := pair
          rw [settingsAction_locked action timesOut settings]
          cases outcome : action { ws := ws, ts := ts, cq := start.cq } with
          | ok result after => exact ⟨rfl, rfl⟩
          | error error after => exact ⟨rfl, rfl⟩

/-- The settings can be read under the lock. -/
def Readable (world : World) : Prop :=
  world.settings.isSome = true ∧ world.timeouts.headD false = false

private theorem fillSettings_of_readable {world : World} (readable : Readable world) :
    ∃ settings after, fillSettings world = .ok settings after := by
  obtain ⟨initialised, inTime⟩ := readable
  obtain ⟨⟨ws, ts⟩, settings⟩ := Option.isSome_iff_exists.mp initialised
  rw [fillSettings, settingsAction_locked _ inTime settings]
  exact ⟨_, _, rfl⟩

private theorem fillSettings_of_not_readable {world : World}
    (unreadable : ¬ Readable world) :
    ∃ error after, fillSettings world = .error error after := by
  cases timesOut : world.timeouts.headD false with
  | true => exact ⟨_, _, settingsAction_timesOut _ timesOut⟩
  | false =>
      cases settings : world.settings with
      | none => exact ⟨_, _, settingsAction_uninitialised _ timesOut settings⟩
      | some pair =>
          exact absurd ⟨congrArg Option.isSome settings, timesOut⟩ unreadable

/-- A world with the next attempt used up. -/
def World.attempted (world : World) : World :=
  { world with timeouts := world.timeouts.tail }

private theorem verifyParameters_attempt (build : CalibrationDate)
    (w : WriteSettingsReq) (world : World) :
    Triple (fun start => start = world) (verifyParameters build w)
      (fun _ after =>
        after = World.attempted world ∧ updateAttempts build w world = 2)
      (fun _ after =>
        after = World.attempted world ∧ updateAttempts build w world = 1) := by
  intro start same
  subst same
  cases timesOut : start.timeouts.headD false with
  | true =>
      rw [verifyParameters,
        bind_of_error _ (settingsAction_timesOut _ timesOut), updateAttempts,
        if_pos timesOut]
      exact ⟨rfl, rfl⟩
  | false =>
      rw [updateAttempts, if_neg (Bool.eq_false_iff.mp timesOut)]
      cases settings : start.settings with
      | none =>
          rw [verifyParameters,
            bind_of_error _ (settingsAction_uninitialised _ timesOut settings)]
          exact ⟨rfl, rfl⟩
      | some pair =>
          obtain ⟨ws, ts⟩ := pair
          rw [verifyParameters,
            bind_of_ok _ (settingsAction_read _ timesOut settings)]
          dsimp only
          cases verifyFields build (decide (ws.password ≠ ts.currentPassword)) w with
          | ok _ => exact ⟨rfl, rfl⟩
          | error error => exact ⟨rfl, rfl⟩

/-- An update tries once when it does not get to the storing, else twice. -/
theorem updateSettings_attempts (build : CalibrationDate) (w : WriteSettingsReq)
    (world : World) :
    Triple (fun start => start = world) (updateSettings build w)
      (fun _ after =>
        after.timeouts = world.timeouts.drop (updateAttempts build w world) ∧
        after.settings.isSome = world.settings.isSome)
      (fun _ after =>
        after.timeouts = world.timeouts.drop (updateAttempts build w world) ∧
        after.settings.isSome = world.settings.isSome) := by
  have verified : Triple (fun start => start = world) (verifyParameters build w)
      (fun _ after =>
        after = World.attempted world ∧ updateAttempts build w world = 2)
      (fun _ after =>
        after.timeouts = world.timeouts.drop (updateAttempts build w world) ∧
        after.settings.isSome = world.settings.isSome) := by
    apply (verifyParameters_attempt build w world).weaken
      (fun _ same => same) (fun _ _ holds => holds)
    rintro _ _ ⟨rfl, once⟩
    rw [once, List.drop_one]
    exact ⟨rfl, rfl⟩
  apply verified.bind
  rintro _ _ ⟨rfl, twice⟩
  have stored := settingsAction_attempt (storeRequest w) (World.attempted world)
    _ rfl
  rw [twice]
  rw [show world.timeouts.drop 2 = (World.attempted world).timeouts.tail by
    rw [World.attempted, ← List.drop_one, ← List.drop_one, List.drop_drop]]
  exact stored

/-- The settings are initialised, and the attempt to read them after the update
does not time out. -/
def ReadsBack (w : WriteSettingsReq) (world : World) : Prop :=
  world.settings.isSome = true ∧
    (world.timeouts.drop (updateAttempts env.build w world)).headD false = false

private theorem performAndSave_readable_iff (w : WriteSettingsReq) (session : Session) :
    Readable (performAndSave env (updateSettings env.build w) session).2.world ↔
      ReadsBack env w session.world := by
  have attempts := updateSettings_attempts env.build w session.world
    session.world rfl
  rw [performAndSave]
  cases outcome : updateSettings env.build w session.world with
  | ok needSave world =>
      rw [outcome] at attempts
      rw [ReadsBack, ← attempts.1, ← attempts.2]
      rfl
  | error error world =>
      rw [outcome] at attempts
      rw [ReadsBack, ← attempts.1, ← attempts.2]
      rfl

private theorem writeSettings_answers_iff (request : Option WriteSettingsReq)
    (resp : Response OutputResponse) (session : Session) :
    (∃ answer after,
        writeSettings env request (resp, session) = (some answer, after)) ↔
      ∀ w, request = some w → ReadsBack env w session.world := by
  cases request with
  | none => simp [writeSettings]
  | some w =>
      simp only [Option.some.injEq, forall_eq', ← performAndSave_readable_iff]
      rcases performs : performAndSave env (updateSettings env.build w) session
        with ⟨stored, middle⟩
      by_cases readable : Readable middle.world
      · obtain ⟨settings, world, fills⟩ := fillSettings_of_readable readable
        simp [writeSettings, performs, fills, readable]
      · obtain ⟨error, world, fails⟩ := fillSettings_of_not_readable readable
        simp [writeSettings, performs, fails, readable]

/-! ## The responses -/

/-- Exactly one response, with the id of the request.  It refuses a request for
another device or version, which changes nothing; otherwise it has a section for
every sub-request, and says whether all of them have succeeded. -/
def AnsweredTruthfully (ticks : UInt64) (req : Request OutputReq)
    (session : Session) : Prop :=
  ∃ response, (respond env ticks req session).1 = [response] ∧
    response.id = req.id ∧
    if (req.isForThis env && req.isSupported env) = true then
      response.shape = req.shape ∧
        (response.globalStatus = .ok ↔ AllSucceed env req session)
    else
      response.globalStatus = .protocolError ∧
        (respond env ticks req session).2 = session

private theorem answeredTruthfully_iff (ticks : UInt64) (req : Request OutputReq)
    (session : Session) :
    AnsweredTruthfully env ticks req session ↔
      ((req.isForThis env && req.isSupported env) = true →
        ∀ w, req.writeSettings = some w → ReadsBack env w session.world) := by
  rw [AnsweredTruthfully]
  cases accepted : req.isForThis env && req.isSupported env with
  | false =>
      have refused : processRequiest env req (.new env.protocol req.id ticks)
          session =
            (some { Response.new env.protocol req.id ticks with
              globalStatus := .protocolError }, session) :=
        processRequiest_refused env accepted
      refine iff_of_true
        ⟨{ Response.new env.protocol req.id ticks with
            globalStatus := .protocolError }, ?_, rfl, ?_⟩
        (fun impossible => (by cases impossible))
      · rw [respond, refused]
      · rw [if_neg Bool.false_ne_true, respond, refused]
        exact ⟨rfl, rfl⟩
  | true =>
      rw [← writeSettings_answers_iff env req.writeSettings
        (.new env.protocol req.id ticks) session]
      simp only [if_true, true_imp_iff]
      constructor
      · rintro ⟨response, written, _⟩
        rcases writes : writeSettings env req.writeSettings
          (.new env.protocol req.id ticks, session) with ⟨answer, after⟩
        cases answer with
        | none =>
            rw [respond, processRequiest_unread env accepted writes] at written
            cases written
        | some answer => exact ⟨answer, after, rfl⟩
      · rintro ⟨answer, after, writes⟩
        obtain ⟨response, final, processes⟩ :
            ∃ response final, processRequiest env req
              (.new env.protocol req.id ticks) session =
                (some response, final) :=
          ⟨_, _, processRequiest_written env accepted writes⟩
        have shape := processRequiest_shape env accepted processes
        have status := processRequiest_ok_iff env accepted processes
        refine ⟨response, ?_, congrArg Shape.id shape, shape, ?_⟩
        · rw [respond, processes]
        · exact status.trans (and_iff_right rfl)

end Environment

/-- A request is answered as it should be unless it is for this device, carries
settings to write, and the settings cannot be read back after that.  The
measured values that are asked for are there when every lock has been taken. -/
theorem answered_truthfully_iff_reads_back
    (env : Environment OutputReq OutputResponse) (asF32 : Binary64 → Binary32)
    (lock : OutputGroup → Except FreeRtosError OutputStorage) (ticks : UInt64)
    (req : Request OutputReq) (session : Session) :
    (AnsweredTruthfully (env.withStorage asF32 lock) ticks req session ↔
      ((req.isForThis env && req.isSupported env) = true →
        ∀ w, req.writeSettings = some w → ReadsBack env w session.world)) ∧
    ∀ get, (((env.withStorage asF32 lock).fillOutput get).2 = none ↔
      ∀ group, get.asks group = true →
        ∃ storage, lock group = .ok storage) :=
  ⟨answeredTruthfully_iff (env.withStorage asF32 lock) ticks req session,
    fillOutput_error_iff asF32 lock⟩

/-! ## No response -/

/-- Nothing fails, and nothing is measured. -/
def quietServer : Environment OutputReq OutputResponse :=
  { quietEnvironment with
    fillOutput :=
      fillOutput (fun _ => .zero) (fun _ => .error .mutexTimeout) }

/-- Sets the start delay, which needs no password. -/
def delayRequest : Request OutputReq where
  id := 7
  deviceId := 1
  protocolVersion := 1
  writeSettings := some { Messages.emptyRequest with setStartDelay := some 5 }
  getInfo := none
  changePassword := none
  flashCommand := none
  getOutputValues := none

/-- The third attempt to take the lock times out. -/
def busySession : Session where
  world :=
    { settings := some (defaultSettings sampleBuild, initialSession)
      cq := []
      timeouts := [false, false, true] }
  calls := []

/-- The start delay is changed and its save asked for, and nothing is
answered. -/
theorem delayed_without_response :
    (respond quietServer 0 delayRequest busySession).1 = [] ∧
      ((respond quietServer 0 delayRequest busySession).2.world.appSettings.map
        AppSettings.startDelay) = some 5 ∧
      ¬ AnsweredTruthfully quietServer 0 delayRequest busySession := by
  have silent : (respond quietServer 0 delayRequest busySession).1 = [] := by
    rfl
  refine ⟨silent, rfl, ?_⟩
  rintro ⟨response, written, _⟩
  rw [silent] at written
  cases written

end SelfWriter.Protobuf
