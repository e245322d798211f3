import Mathlib.Data.List.GetD
import SelfWriter.Lib.Machine
import SelfWriter.Protobuf.ReadBack
import SelfWriter.Protobuf.Server

/-!
# The password protects the settings

Some settings may only be changed in a session whose password is the stored one.
A session starts with ten zeros for its password (`init`, `settings/mod.rs`), and
`update_settings` sets it to whatever a request carries;
`verify_parameters` (`protobuf/process_settings.rs`) and `change_password`
(`protobuf/change_password.rs`) refuse what the session may not do.
-/

namespace SelfWriter.Protobuf

open SelfWriter.Lib SelfWriter.Lib.Hoare SelfWriter.Settings
open SelfWriter.Protobuf.Messages (PCoefficients T5Coefficients
  WriteSettingsReq)

/-! ## Two ways of padding -/

/-- The first bytes of a password, padded with zeros. -/
def firstBytes (text : Utf8.Text) : List UInt8 :=
  (text.bytes ++ List.replicate passwordSize 0).take passwordSize

/-- `copy_nonoverlapping` to the beginning of a password. -/
def copyNonoverlapping (source : List UInt8) (dest : Password) (count : Nat) :
    Password :=
  Vector.ofFn (fun index =>
    if index.val < count then source.getD index 0 else dest[index])

/-- `fill` with zeros from a place on. -/
def fillZeros (dest : Password) (start : Nat) : Password :=
  Vector.ofFn (fun index =>
    if index.val < start then dest[index] else 0)

/-- `update_settings` copies over the old password and clears what is behind. -/
def copyThenFill (text : Utf8.Text) (old : Password) : Password :=
  let newlen := min text.bytes.length passwordSize
  fillZeros (copyNonoverlapping text.bytes old newlen) newlen

/-- `change_password` copies over zeros. -/
def copyOverZeros (text : Utf8.Text) : Password :=
  copyNonoverlapping text.bytes (Vector.replicate 10 0)
    (min text.bytes.length passwordSize)

theorem copyThenFill_eq (text : Utf8.Text) (old : Password) :
    copyThenFill text old = paddedPassword text := by
  apply Vector.ext
  intro place bound
  simp only [copyThenFill, fillZeros, copyNonoverlapping, paddedPassword,
    Vector.getElem_ofFn, Fin.getElem_fin]
  by_cases inside : place < text.bytes.length
  · have copied : place < min text.bytes.length passwordSize := by
      rw [passwordSize]
      omega
    rw [if_pos copied, if_pos copied]
  · have filled : ¬ place < min text.bytes.length passwordSize := by
      rw [passwordSize]
      omega
    rw [if_neg filled, List.getD_eq_default _ _ (Nat.le_of_not_lt inside)]

theorem copyOverZeros_eq (text : Utf8.Text) :
    copyOverZeros text = paddedPassword text := by
  apply Vector.ext
  intro place bound
  simp only [copyOverZeros, copyNonoverlapping, paddedPassword,
    Vector.getElem_ofFn, Fin.getElem_fin]
  by_cases inside : place < text.bytes.length
  · have copied : place < min text.bytes.length passwordSize := by
      rw [passwordSize]
      omega
    rw [if_pos copied]
  · have kept : ¬ place < min text.bytes.length passwordSize := by
      rw [passwordSize]
      omega
    rw [if_neg kept, List.getD_eq_default _ _ (Nat.le_of_not_lt inside),
      Vector.getElem_replicate]

private theorem paddedPassword_firstBytes (text : Utf8.Text) :
    (paddedPassword text).toList = firstBytes text := by
  have padding : min (passwordSize - text.bytes.length) passwordSize =
      passwordSize - text.bytes.length := by
    omega
  rw [paddedPassword_toList, firstBytes, List.take_append, List.take_replicate,
    padding]

/-! ## What is protected -/

/-- The protected settings and the password are the same. -/
structure Protected (before after : AppSettings) : Prop where
  serial : after.serial = before.serial
  fref : after.fref = before.fref
  pCoefficients : after.pCoefficients = before.pCoefficients
  tCoefficients : after.tCoefficients = before.tCoefficients
  pWorkRange : after.pWorkRange = before.pWorkRange
  tWorkRange : after.tWorkRange = before.tWorkRange
  tcpuWorkRange : after.tcpuWorkRange = before.tcpuWorkRange
  vbatWorkRange : after.vbatWorkRange = before.vbatWorkRange
  password : after.password = before.password

theorem Protected.trans {first second third : AppSettings}
    (before : Protected first second) (after : Protected second third) :
    Protected first third where
  serial := after.serial.trans before.serial
  fref := after.fref.trans before.fref
  pCoefficients := after.pCoefficients.trans before.pCoefficients
  tCoefficients := after.tCoefficients.trans before.tCoefficients
  pWorkRange := after.pWorkRange.trans before.pWorkRange
  tWorkRange := after.tWorkRange.trans before.tWorkRange
  tcpuWorkRange := after.tcpuWorkRange.trans before.tcpuWorkRange
  vbatWorkRange := after.vbatWorkRange.trans before.vbatWorkRange
  password := after.password.trans before.password

/-! A part that carries no value leaves what is stored. -/

private theorem overPCoefficients_without {request : Option PCoefficients}
    (without : request.any hasPCoefficient = false) (ws : AppSettings) :
    overOld overPCoefficients request ws.pCoefficients = ws.pCoefficients := by
  have same := marks_storePCoefficients request (ws, false)
    (by rw [storePCoefficients_snd, without]; rfl)
  have stored := storePCoefficients_fst request (ws, false)
  rw [same] at stored
  exact (congrArg AppSettings.pCoefficients stored).symm

private theorem overTCoefficients_without {request : Option T5Coefficients}
    (without : request.any hasTCoefficient = false) (ws : AppSettings) :
    overOld overTCoefficients request ws.tCoefficients = ws.tCoefficients := by
  have same := marks_storeTCoefficients request (ws, false)
    (by rw [storeTCoefficients_snd, without]; rfl)
  have stored := storeTCoefficients_fst request (ws, false)
  rw [same] at stored
  exact (congrArg AppSettings.tCoefficients stored).symm

private theorem overWorkRange_without {request : Option Messages.WorkRange}
    (without : request.any hasBound = false) (old : WorkRange) :
    overOld overWorkRange request old = old := by
  cases request with
  | none => rfl
  | some range =>
      obtain ⟨minimum, maximum, absoluteMaximum⟩ := range
      cases minimum <;> cases maximum <;> cases absoluteMaximum <;>
        first | rfl | cases without

/-! ## What the verification refuses -/

private theorem verifySerial_denied {setSerial : Option UInt32}
    (verified : verifySerial true setSerial = .ok ()) : setSerial = none := by
  cases setSerial with
  | none => rfl
  | some serial => cases verified

private theorem verifyFref_denied {setFref : Option UInt32}
    (verified : verifyFref true setFref = .ok ()) : setFref = none := by
  cases setFref with
  | none => rfl
  | some fref => cases verified

private theorem verifyPCoefficients_denied {request : Option PCoefficients}
    (verified : verifyPCoefficients true request = .ok ()) :
    request.any hasPCoefficient = false := by
  cases request with
  | none => rfl
  | some coefficients =>
      cases carried : hasPCoefficient coefficients with
      | false => exact carried
      | true =>
          rw [verifyPCoefficients, if_pos carried] at verified
          cases verified

private theorem verifyTCoefficients_denied {request : Option T5Coefficients}
    (verified : verifyTCoefficients true request = .ok ()) :
    request.any hasTCoefficient = false := by
  cases request with
  | none => rfl
  | some coefficients =>
      cases carried : hasTCoefficient coefficients with
      | false => exact carried
      | true =>
          rw [verifyTCoefficients, if_pos carried] at verified
          cases verified

private theorem verifyWorkRange_denied {denied invalid : String}
    {request : Option Messages.WorkRange}
    (verified : verifyWorkRange true denied invalid request = .ok ()) :
    request.any hasBound = false := by
  cases request with
  | none => rfl
  | some range =>
      cases carried : hasBound range with
      | false => exact carried
      | true =>
          rw [verifyWorkRange, if_pos carried] at verified
          cases verified

/-- Whatever the request carries, with a wrong session password its protected
values are refused. -/
theorem requested_protected {build : CalibrationDate} {w : WriteSettingsReq}
    (verified : Verified build true w) (ws : AppSettings) :
    Protected ws (requested w ws) where
  serial := by
    rw [requested, verifySerial_denied verified.serial]
    rfl
  fref := by
    rw [requested, verifyFref_denied verified.fref]
    rfl
  pCoefficients :=
    overPCoefficients_without
      (verifyPCoefficients_denied verified.pCoefficients) ws
  tCoefficients :=
    overTCoefficients_without
      (verifyTCoefficients_denied verified.tCoefficients) ws
  pWorkRange :=
    overWorkRange_without (verifyWorkRange_denied verified.pWorkRange) _
  tWorkRange :=
    overWorkRange_without (verifyWorkRange_denied verified.tWorkRange) _
  tcpuWorkRange :=
    overWorkRange_without (verifyWorkRange_denied verified.tcpuWorkRange) _
  vbatWorkRange :=
    overWorkRange_without (verifyWorkRange_denied verified.batWorkRange) _
  password := rfl

/-! ## Sessions -/

/-- `init`: the settings are loaded, and the session is a new one. -/
def boot (ws : AppSettings) : World where
  settings := some (ws, initialSession)
  cq := []
  timeouts := []

inductive SessionLabel (OutputReq OutputResponse : Type) where
  /-- Which of its attempts to take the lock time out is up to the others. -/
  | request (env : Environment OutputReq OutputResponse) (ticks : UInt64)
      (req : Request OutputReq) (timeouts : List Bool)
  /-- The sensor task sets monitoring flags, and takes commands. -/
  | sensor (monitoring : Monitoring) (cq : List Command)

section Sessions

variable {OutputReq OutputResponse : Type}

def sessionStep (world : World) : SessionLabel OutputReq OutputResponse → World
  | .request env ticks req timeouts =>
      (respond env ticks req
        { world := { world with timeouts := timeouts }, calls := [] }).2.world
  | .sensor monitoring cq =>
      { world with
        settings := world.settings.map (fun (ws, ts) =>
          ({ ws with monitoring := monitoring }, ts))
        cq := cq }

def sessions (ws : AppSettings) :
    Machine World (SessionLabel OutputReq OutputResponse) where
  start := boot ws
  step world label := some (sessionStep world label)

/-- The request is accepted, and carries the stored password. -/
def Unlocks (world : World) : SessionLabel OutputReq OutputResponse → Prop
  | .request env _ req timeouts =>
      (req.isForThis env && req.isSupported env) = true ∧
        ∃ w text needWrite after ws ts, req.writeSettings = some w ∧
          w.setPassword = some text ∧
          updateSettings env.build w { world with timeouts := timeouts } =
            .ok needWrite after ∧
          world.settings = some (ws, ts) ∧
          firstBytes text = ws.password.toList
  | .sensor _ _ => False

/-! ## A locked session -/

/-- The session has another password than the stored one, and nothing that is
protected differs from the first settings. -/
def Locked (first : AppSettings) (world : World) : Prop :=
  ∃ ws ts, world.settings = some (ws, ts) ∧
    ts.currentPassword ≠ ws.password ∧ Protected first ws

theorem Locked.same {first : AppSettings} {world after : World}
    (locked : Locked first world) (same : after.settings = world.settings) :
    Locked first after := by
  rw [Locked, same]
  exact locked

theorem Locked.updateSettings {first : AppSettings} {world after : World}
    {build : CalibrationDate} {w : WriteSettingsReq} {needWrite : Bool}
    (locked : Locked first world)
    (accepted : updateSettings build w world = .ok needWrite after)
    (guarded : ∀ text ws ts, w.setPassword = some text →
      world.settings = some (ws, ts) → firstBytes text ≠ ws.password.toList) :
    Locked first after := by
  obtain ⟨ws, ts, settings, wrong, kept⟩ := locked
  obtain ⟨ws', ts', settings', verified, stored, _⟩ := updateSettings_ok accepted
  rw [settings] at settings'
  cases settings'
  rw [decide_eq_true (Ne.symm wrong)] at verified
  have still := requested_protected (verified_of_verifyFields verified) ws
  refine ⟨_, _, stored, ?_, kept.trans still⟩
  rw [still.password]
  cases password : w.setPassword with
  | none => exact wrong
  | some text =>
      intro same
      apply guarded text ws ts password settings
      rw [← same, ← paddedPassword_firstBytes]
      rfl

private theorem changePassword_locked {first : AppSettings} {world : World}
    (locked : Locked first world) (cmd : ChangePassword) :
    ∃ error after, changePassword cmd world = .error error after ∧
      after.settings = world.settings := by
  obtain ⟨ws, ts, settings, wrong, _⟩ := locked
  have refused : ∀ cq, changePasswordAction (paddedPassword cmd.newPassword)
      { ws := ws, ts := ts, cq := cq } =
        .error "Invalid password" { ws := ws, ts := ts, cq := cq } := by
    intro cq
    rw [changePasswordAction, if_pos (Ne.symm wrong)]
  cases timesOut : world.timeouts.headD false with
  | true => exact ⟨_, _, settingsAction_timesOut _ timesOut, rfl⟩
  | false =>
      rw [changePassword, settingsAction_locked _ timesOut settings, refused]
      exact ⟨_, _, rfl, settings.symm⟩

theorem Locked.resetMonitoring {first : AppSettings} {world after : World}
    {needStore : Bool} (locked : Locked first world)
    (resets : resetMonitoringFlags world = .ok needStore after) :
    Locked first after := by
  obtain ⟨ws, ts, settings, wrong, kept⟩ := locked
  obtain ⟨ws', ts', work, settings', action, final, _⟩ := settingsAction_ok resets
  rw [settings] at settings'
  cases settings'
  cases action
  exact ⟨_, _, final, wrong, kept.trans ⟨rfl, rfl, rfl, rfl, rfl, rfl, rfl, rfl, rfl⟩⟩

private theorem resetMonitoringFlags_unchanged {world after : World}
    {error : SettingActionError UInt32}
    (fails : resetMonitoringFlags world = .error error after) :
    after.settings = world.settings := by
  rcases settingsAction_error fails with ⟨same, _⟩ | ⟨_, _, _, _, _, action, _⟩
  · exact same
  · cases action

variable (env : Environment OutputReq OutputResponse)

private theorem fillInfo_settings (world : World) :
    (fillInfo env world).2.2.settings = world.settings := by
  have unchanged := settingsAction_unchanged (T := Unit)
    (fun work => work.ws.monitoring) world world (.refl world)
  rw [fillInfo]
  cases outcome : (settingsAction (do
      let work ← get
      pure work.ws.monitoring) : SettingsM Unit Monitoring) world with
  | ok monitoring after =>
      rw [outcome] at unchanged
      exact unchanged.settings
  | error error after =>
      rw [outcome] at unchanged
      exact unchanged.settings

theorem Locked.writeSettings {first : AppSettings} {session : Session}
    (locked : Locked first session.world) (resp : Response OutputResponse)
    (request : Option WriteSettingsReq)
    (guarded : ∀ w text needWrite after ws ts, request = some w →
      w.setPassword = some text →
      Protobuf.updateSettings env.build w session.world =
        .ok needWrite after →
      session.world.settings = some (ws, ts) →
      firstBytes text ≠ ws.password.toList) :
    Locked first (writeSettings env request (resp, session)).2.world := by
  cases request with
  | none => exact locked
  | some w =>
      have stored : Locked first
          (performAndSave env (Protobuf.updateSettings env.build w)
            session).2.world := by
        rw [performAndSave]
        cases outcome : Protobuf.updateSettings env.build w session.world with
        | ok needWrite after =>
            exact locked.updateSettings outcome
              (fun text ws ts carried settings =>
                guarded w text needWrite after ws ts rfl carried outcome settings)
        | error error after =>
            exact locked.same (updateSettings_error outcome).settings
      rcases performs : performAndSave env
        (Protobuf.updateSettings env.build w) session with ⟨went, middle⟩
      rw [performs] at stored
      have unchanged := fillSettings_unchanged middle.world middle.world
        (.refl middle.world)
      cases fills : fillSettings middle.world with
      | ok settings after =>
          rw [fills] at unchanged
          simp only [Protobuf.writeSettings, performs, fills]
          exact stored.same unchanged.settings
      | error error after =>
          rw [fills] at unchanged
          simp only [Protobuf.writeSettings, performs, fills]
          exact stored.same unchanged.settings

theorem Locked.getInfo {first : AppSettings}
    {progress : Progress OutputResponse}
    (locked : Locked first progress.2.world) (request : Option Unit) :
    Locked first (getInfo env request progress).2.world := by
  cases request with
  | none => exact locked
  | some _ => exact locked.same (fillInfo_settings env progress.2.world)

theorem Locked.passwordCommand {first : AppSettings}
    {progress : Progress OutputResponse}
    (locked : Locked first progress.2.world)
    (request : Option ChangePassword) :
    Locked first (passwordCommand env request progress).2.world := by
  cases request with
  | none => exact locked
  | some cmd =>
      obtain ⟨error, after, refused, same⟩ := changePassword_locked locked cmd
      have performs : performAndSave env (changePassword cmd) progress.2 =
          (false, { progress.2 with world := after }) := by
        rw [performAndSave, refused]
      simp only [Protobuf.passwordCommand, performs]
      exact locked.same same

theorem Locked.flashCommand {first : AppSettings}
    {progress : Progress OutputResponse}
    (locked : Locked first progress.2.world)
    (request : Option FlashCommand) :
    Locked first (flashCommand env request progress).2.world := by
  cases request with
  | none => exact locked
  | some command =>
      cases asked : command.resetMonitoring with
      | none =>
          simp only [Protobuf.flashCommand, Protobuf.resetMonitoring, asked]
          exact locked
      | some _ =>
          cases resets : resetMonitoringFlags progress.2.world with
          | ok needStore after =>
              simp only [Protobuf.flashCommand, Protobuf.resetMonitoring, asked,
                resets]
              exact locked.resetMonitoring resets
          | error error after =>
              simp only [Protobuf.flashCommand, Protobuf.resetMonitoring, asked,
                resets]
              exact locked.same (resetMonitoringFlags_unchanged resets)

/-- A request that does not unlock the session leaves it locked, whatever else
it asks for. -/
theorem Locked.processRequiest {first : AppSettings} {world : World}
    (locked : Locked first world)
    (env : Environment OutputReq OutputResponse) (ticks : UInt64)
    (req : Request OutputReq) (timeouts : List Bool)
    (guarded : ¬ Unlocks world (.request env ticks req timeouts)) :
    Locked first
      (Protobuf.processRequiest env req (.new env.protocol req.id ticks)
        { world := { world with timeouts := timeouts }
          calls := [] }).2.world := by
  have start : Locked first { world with timeouts := timeouts } :=
    locked.same rfl
  cases accepted : req.isForThis env && req.isSupported env with
  | false =>
      rw [processRequiest_refused env accepted]
      exact start
  | true =>
      have written : Locked first
          (Protobuf.writeSettings env req.writeSettings
            (.new env.protocol req.id ticks,
              { world := { world with timeouts := timeouts }
                calls := [] })).2.world :=
        Locked.writeSettings env start (.new env.protocol req.id ticks)
          req.writeSettings
          (fun w text needWrite after ws ts asks carried stores settings
              same =>
            guarded ⟨accepted, w, text, needWrite, after, ws, ts, asks,
              carried, stores, settings, same⟩)
      rcases writes : Protobuf.writeSettings env req.writeSettings
        (.new env.protocol req.id ticks,
          { world := { world with timeouts := timeouts }, calls := [] })
        with ⟨answer, middle⟩
      rw [writes] at written
      cases answer with
      | none =>
          rw [processRequiest_unread env accepted writes]
          exact written
      | some answer =>
          rw [processRequiest_written env accepted writes]
          have informed : Locked first
              (Protobuf.getInfo env req.getInfo (answer, middle)).2.world :=
            Locked.getInfo env written req.getInfo
          exact (informed.passwordCommand env req.changePassword).flashCommand
            env req.flashCommand

theorem Locked.step {first : AppSettings} {world : World}
    (locked : Locked first world)
    {label : SessionLabel OutputReq OutputResponse}
    (guarded : ¬ Unlocks world label) :
    Locked first (sessionStep world label) := by
  cases label with
  | sensor monitoring cq =>
      obtain ⟨ws, ts, settings, wrong, kept⟩ := locked
      refine ⟨{ ws with monitoring := monitoring }, ts, ?_, wrong,
        kept.trans ⟨rfl, rfl, rfl, rfl, rfl, rfl, rfl, rfl, rfl⟩⟩
      rw [sessionStep, settings]
      rfl
  | request env ticks req timeouts =>
      have kept := locked.processRequiest env ticks req timeouts guarded
      rw [sessionStep, respond]
      rcases processes : Protobuf.processRequiest env req (.new env.protocol req.id ticks)
        { world := { world with timeouts := timeouts }, calls := [] }
        with ⟨answer, after⟩
      rw [processes] at kept
      cases answer <;> exact kept

theorem boot_locked {ws : AppSettings}
    (password : ws.password ≠ Vector.replicate 10 0) : Locked ws (boot ws) :=
  ⟨ws, initialSession, rfl, Ne.symm password,
    rfl, rfl, rfl, rfl, rfl, rfl, rfl, rfl, rfl⟩

end Sessions

/-! ## A changed password -/

/-- The session may change what is protected. -/
def Unlocked (world : World) : Prop :=
  ∃ ws ts, world.settings = some (ws, ts) ∧ ts.currentPassword = ws.password

private theorem changePassword_ok {cmd : ChangePassword} {world after : World}
    {changed : Bool}
    (changes : changePassword cmd world = .ok changed after) :
    ∃ ws ts, after.settings = some (ws, ts) ∧
      ws.password = paddedPassword cmd.newPassword := by
  obtain ⟨ws, ts, work, _, action, final, _⟩ := settingsAction_ok changes
  refine ⟨work.ws, work.ts, final, ?_⟩
  rw [changePasswordAction] at action
  split at action
  · cases action
  · rename_i valid
    split at action
    · rename_i same
      cases action
      exact (not_not.mp valid).trans same
    · cases action
      rfl

private theorem unlocked_iff {build : CalibrationDate} {w : WriteSettingsReq}
    {world after : World} {needWrite : Bool} {text : Utf8.Text}
    {ws : AppSettings} {ts : NonStoreSettings}
    (accepted : updateSettings build w world = .ok needWrite after)
    (carried : w.setPassword = some text)
    (settings : world.settings = some (ws, ts)) :
    Unlocked after ↔ firstBytes text = ws.password.toList := by
  obtain ⟨ws', ts', settings', _, stored, _⟩ := updateSettings_ok accepted
  rw [settings] at settings'
  cases settings'
  rw [carried] at stored
  rw [← paddedPassword_firstBytes, Vector.toList_inj]
  constructor
  · rintro ⟨_, _, settings'', same⟩
    rw [stored] at settings''
    cases settings''
    exact same
  · intro same
    exact ⟨_, _, stored, same⟩

/-- With a stored password, nothing that is protected changes before an accepted
request has carried that password.  After a change of the password, a request
unlocks a session exactly when it carries the new one. -/
theorem password_protects (OutputReq OutputResponse : Type) :
    (∀ first : AppSettings, first.password ≠ Vector.replicate 10 0 →
      ∀ world,
        (sessions first : Machine World
          (SessionLabel OutputReq OutputResponse)).Reaches
            (fun world label => ¬ Unlocks world label) world →
        ∃ ws ts, world.settings = some (ws, ts) ∧ Protected first ws) ∧
    (∀ cmd world changed after ws ts,
      changePassword cmd world = .ok changed after →
      after.settings = some (ws, ts) →
      ∀ build w text later ws' ts' needWrite final,
        later.settings = some (ws', ts') → ws'.password = ws.password →
        w.setPassword = some text →
        updateSettings build w later = .ok needWrite final →
        (Unlocked final ↔ firstBytes text = firstBytes cmd.newPassword)) := by
  constructor
  · intro first password world reaches
    have locked : Locked first world := by
      apply reaches.invariant (I := Locked first) (boot_locked password)
      intro state label after locked guarded steps
      cases steps
      exact locked.step guarded
    obtain ⟨ws, ts, settings, _, kept⟩ := locked
    exact ⟨ws, ts, settings, kept⟩
  · intro cmd world changed after ws ts changes settings build w text later ws'
      ts' needWrite final settings' same carried accepted
    obtain ⟨ws'', ts'', settings'', stored⟩ := changePassword_ok changes
    rw [settings] at settings''
    cases settings''
    rw [unlocked_iff accepted carried settings', same, stored,
      paddedPassword_firstBytes]

/-! ## A wrong password -/

/-- Sets the serial number, with no password. -/
def forgedRequest : Request Unit :=
  { resetRequest with
    writeSettings :=
      some
        { Messages.emptyRequest with
          setSerial := some 5
          setPassword := some (Utf8.fromUtf8Lossy []) }
    flashCommand := none }

/-- `ab` -/
def shortPassword : Utf8.Text :=
  Utf8.fromUtf8Lossy [0x61, 0x62]

/-- The settings after the password has been changed to it, and the session of
a host that has given it. -/
def changedSettings : AppSettings :=
  { defaultSettings sampleBuild with password := paddedPassword shortPassword }

def changedWorld : World where
  settings :=
    some (changedSettings, { currentPassword := paddedPassword shortPassword })
  cq := []
  timeouts := []

theorem password_protects_default :
    (∃ world, (sessions (defaultSettings sampleBuild) :
        Machine World (SessionLabel Unit Unit)).Reaches
          (fun world label => ¬ Unlocks world label) world ∧
      world = sessionStep (boot (defaultSettings sampleBuild))
        (.request quietEnvironment 0 forgedRequest []) ∧
      ∃ ws ts, world.settings = some (ws, ts) ∧
        Protected (defaultSettings sampleBuild) ws) ∧
    changePassword { newPassword := shortPassword } unlockedWorld =
      .ok true changedWorld ∧
    updateSettings sampleBuild
        { Messages.emptyRequest with setPassword := some shortPassword }
        (boot changedSettings) = .ok false changedWorld ∧
    (Unlocked changedWorld ↔
      firstBytes shortPassword = firstBytes shortPassword) := by
  have changes : changePassword { newPassword := shortPassword } unlockedWorld =
      .ok true changedWorld := by
    rfl
  have accepted : updateSettings sampleBuild
      { Messages.emptyRequest with setPassword := some shortPassword }
      (boot changedSettings) = .ok false changedWorld := by
    rfl
  refine ⟨?_, changes, accepted, ?_⟩
  · have guarded : ¬ Unlocks (boot (defaultSettings sampleBuild))
        (.request quietEnvironment 0 forgedRequest []) := by
      rintro ⟨_, w, text, _, _, ws, ts, asks, carried, _, settings, same⟩
      cases asks
      cases carried
      cases settings
      exact absurd same (by decide)
    have reaches : (sessions (defaultSettings sampleBuild)).Reaches
        (fun world label => ¬ Unlocks world label)
        (sessionStep (boot (defaultSettings sampleBuild))
          (.request quietEnvironment 0 forgedRequest [])) :=
      .step _ .start guarded rfl
    exact ⟨_, reaches, rfl,
      (password_protects Unit Unit).1 _ (by decide) _ reaches⟩
  · exact (password_protects Unit Unit).2 _ _ _ _ _ _ changes rfl sampleBuild _
      shortPassword (boot changedSettings) changedSettings initialSession _ _ rfl
      rfl rfl accepted

end SelfWriter.Protobuf
