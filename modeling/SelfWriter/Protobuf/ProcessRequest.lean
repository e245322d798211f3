import SelfWriter.Protobuf.UpdateSettings

/-!
# Processing a request

`process_requiest` (`protobuf/process_requiest.rs`) with the sub-commands that
read or change the settings: `update_settings`, `fill_info`
(`protobuf/device_info.rs`), `change_password` (`protobuf/change_password.rs`)
and `reset_monitoring_flags` (`protobuf/monitoring_over_conditions.rs`).

The constants of the protocol come from the generated messages.  What the other
sub-commands answer, and whether a save timer can be created, is up to the
environment.
-/

namespace SelfWriter.Protobuf

open SelfWriter.Lib SelfWriter.Settings
open SelfWriter.Protobuf.Messages (WriteSettingsReq SettingsResponse)

/-! ## Messages -/

/-- Constants of the generated `Info`. -/
structure ProtocolInfo where
  pressureSelfWriterId : UInt32
  idDiscover : UInt32
  protocolVersion : UInt32

inductive Status where
  | ok
  | errorsInSubcommands
  | protocolError
  deriving DecidableEq, Repr

inductive FlashState where
  | ok
  | resetMonitoringFailed
  | ereasing
  deriving DecidableEq, Repr

structure ChangePassword where
  newPassword : Utf8.Text

structure FlashCommand where
  resetMonitoring : Option Unit
  clearMemory : Option Bool

structure Request (OutputReq : Type) where
  id : UInt32
  deviceId : UInt32
  protocolVersion : UInt32
  writeSettings : Option WriteSettingsReq
  getInfo : Option Unit
  changePassword : Option ChangePassword
  flashCommand : Option FlashCommand
  getOutputValues : Option OutputReq

structure InfoResponse where
  hwVersion : UInt32
  swVersion : UInt32
  pressureChannelFailed : Bool
  temperatureChannelFailed : Bool
  overpressDetected : Bool
  overheatDetected : Bool
  overheatCpuDetected : Bool
  overVbatDetected : Bool

structure FlashStatus where
  flashPageSize : UInt32
  status : FlashState

structure Response (OutputResponse : Type) where
  id : UInt32
  deviceId : UInt32
  protocolVersion : UInt32
  timestamp : UInt64
  globalStatus : Status
  getSettings : Option SettingsResponse
  info : Option InfoResponse
  passwordChanged : Option Bool
  flashStatus : Option FlashStatus
  output : Option OutputResponse

/-- `new_response`; `ticks` is the tick counter of the kernel. -/
def Response.new {OutputResponse : Type} (protocol : ProtocolInfo) (id : UInt32)
    (ticks : UInt64) : Response OutputResponse where
  id := id
  deviceId := protocol.pressureSelfWriterId
  protocolVersion := protocol.protocolVersion
  timestamp := ticks
  globalStatus := .ok
  getSettings := none
  info := none
  passwordChanged := none
  flashStatus := none
  output := none

/-! ## The environment -/

/-- `outputStorage` says which channels have no frequency, or that the storage
could not be locked.  `createTimer` is the outcome of the save requests of this
request, in their order. -/
structure Environment (OutputReq OutputResponse : Type) where
  protocol : ProtocolInfo
  build : CalibrationDate
  swVersion : UInt32
  outputStorage : Option (Bool × Bool)
  fillOutput : OutputReq → OutputResponse × Option FreeRtosError
  createTimer : Nat → Option FreeRtosError
  flashErease : Option FreeRtosError
  isEraseInProgress : Bool
  flashPageSize : UInt32

/-- A call of `start_writing_settings`, and the settings at that time. -/
structure SaveCall where
  realyWrite : Bool
  settings : Option AppSettings

structure Session where
  world : World
  calls : List SaveCall

section Environment

variable {OutputReq OutputResponse : Type}
variable (env : Environment OutputReq OutputResponse)

def startWritingSettings (realyWrite : Bool) (session : Session) :
    Option FreeRtosError × Session :=
  (if realyWrite then env.createTimer session.calls.length else none,
    { session with
      calls := session.calls ++
        [{ realyWrite := realyWrite
           settings := session.world.appSettings }] })

def Response.failed (resp : Response OutputResponse) : Response OutputResponse :=
  { resp with globalStatus := .errorsInSubcommands }

/-! ## Sub-commands -/

def hwVersion : UInt32 := 1

/-- The flags stay clear when the settings cannot be read; an error of either
lock is reported. -/
def fillInfo (world : World) : InfoResponse × Option FreeRtosError × World :=
  let (pressureFailed, temperatureFailed) := env.outputStorage.getD (false, false)
  let info (monitoring : Monitoring) : InfoResponse :=
    { hwVersion := hwVersion
      swVersion := env.swVersion
      pressureChannelFailed := pressureFailed
      temperatureChannelFailed := temperatureFailed
      overpressDetected := monitoring.ovarpress
      overheatDetected := monitoring.ovarheat
      overheatCpuDetected := monitoring.cpuOvarheat
      overVbatDetected := monitoring.overPower }
  let outputError :=
    match env.outputStorage with
    | some _ => none
    | none => some .mutexTimeout
  match (settingsAction (do
      let work ← get
      pure work.ws.monitoring) : SettingsM Unit Monitoring) world with
  | .ok monitoring after => (info monitoring, outputError, after)
  | .error _ after =>
      (info .default, some .mutexTimeout, after)

def changePasswordAction (pass : Password) : SettingsAction String Bool :=
  fun work =>
    if work.ws.password ≠ work.ts.currentPassword then
      .error "Invalid password" work
    else if work.ts.currentPassword = pass then
      .ok false work
    else
      .ok true { work with
        ws := { work.ws with password := pass }
        ts := { work.ts with currentPassword := pass } }

def changePassword (cmd : ChangePassword) : SettingsM String Bool :=
  settingsAction (changePasswordAction (paddedPassword cmd.newPassword))

/-- The answer says whether a flag was set. -/
def resetMonitoringFlags : SettingsM UInt32 Bool :=
  settingsAction (fun work =>
    .ok work.ws.monitoring.isSet
      { work with ws := { work.ws with monitoring := .default } })

/-! ## The request -/

/-- A response so far, and the session. -/
abbrev Progress (OutputResponse : Type) := Response OutputResponse × Session

/-- A sub-command that says whether there is something to save; the outcome is
whether it and its save request went well. -/
def performAndSave {T : Type} (command : SettingsM T Bool) (session : Session) :
    Bool × Session :=
  match command session.world with
  | .ok needSave world =>
      let (error, session) :=
        startWritingSettings env needSave { session with world := world }
      (error.isNone, session)
  | .error _ world => (false, { session with world := world })

/-- `none` is the early return when the settings cannot be read back. -/
def writeSettings (request : Option WriteSettingsReq)
    (progress : Progress OutputResponse) :
    Option (Response OutputResponse) × Session :=
  let (resp, session) := progress
  match request with
  | none => (some resp, session)
  | some w =>
      let (stored, session) :=
        performAndSave env (updateSettings env.build w) session
      let resp := if stored then resp else resp.failed
      match fillSettings session.world with
      | .ok settings world =>
          (some { resp with getSettings := some settings },
            { session with world := world })
      | .error _ world => (none, { session with world := world })

def getInfo (request : Option Unit) (progress : Progress OutputResponse) :
    Progress OutputResponse :=
  let (resp, session) := progress
  match request with
  | none => progress
  | some () =>
      let (info, error, world) := fillInfo env session.world
      let resp := if error.isSome then resp.failed else resp
      ({ resp with info := some info }, { session with world := world })

def passwordCommand (request : Option ChangePassword)
    (progress : Progress OutputResponse) : Progress OutputResponse :=
  let (resp, session) := progress
  match request with
  | none => progress
  | some cmd =>
      let (changed, session) := performAndSave env (changePassword cmd) session
      let resp := if changed then resp else resp.failed
      ({ resp with passwordChanged := some changed }, session)

/-- Whether the reset failed, when it was asked for. -/
def resetMonitoring (request : Option Unit) (progress : Progress OutputResponse) :
    Progress OutputResponse × Option Bool :=
  let (resp, session) := progress
  match request with
  | none => (progress, none)
  | some () =>
      match resetMonitoringFlags session.world with
      | .ok _ world => ((resp, { session with world := world }), some false)
      | .error _ world =>
          ((resp.failed, { session with world := world }), some true)

def clearMemory (request : Option Bool) (resp : Response OutputResponse) :
    Response OutputResponse :=
  if request = some true ∧ env.flashErease.isSome then resp.failed else resp

def fillFlashState (resetMonitoringFailed : Option Bool) : FlashStatus where
  flashPageSize := env.flashPageSize
  status :=
    if resetMonitoringFailed = some true then .resetMonitoringFailed
    else if env.isEraseInProgress then .ereasing
    else .ok

def flashCommand (request : Option FlashCommand)
    (progress : Progress OutputResponse) : Progress OutputResponse :=
  match request with
  | none => progress
  | some command =>
      let ((resp, session), resetMonitoringFailed) :=
        resetMonitoring command.resetMonitoring progress
      let resp := clearMemory env command.clearMemory resp
      ({ resp with
          flashStatus := some (fillFlashState env resetMonitoringFailed) },
        session)

def getOutputValues (request : Option OutputReq)
    (resp : Response OutputResponse) : Response OutputResponse :=
  match request with
  | none => resp
  | some get =>
      let (out, error) := env.fillOutput get
      let resp := if error.isSome then resp.failed else resp
      { resp with output := some out }

def Request.isForThis (req : Request OutputReq) : Bool :=
  req.deviceId = env.protocol.pressureSelfWriterId ||
    req.deviceId = env.protocol.idDiscover

def Request.isSupported (req : Request OutputReq) : Bool :=
  req.protocolVersion = env.protocol.protocolVersion || req.protocolVersion = 0

def processRequiest (req : Request OutputReq) (resp : Response OutputResponse)
    (session : Session) : Option (Response OutputResponse) × Session :=
  if !req.isForThis env || !req.isSupported env then
    (some { resp with globalStatus := .protocolError }, session)
  else
    match writeSettings env req.writeSettings (resp, session) with
    | (none, session) => (none, session)
    | (some resp, session) =>
        let progress := getInfo env req.getInfo (resp, session)
        let progress := passwordCommand env req.changePassword progress
        let (resp, session) := flashCommand env req.flashCommand progress
        (some (getOutputValues env req.getOutputValues resp), session)

end Environment

end SelfWriter.Protobuf
