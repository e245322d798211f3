import SelfWriter.Lib.Simulation
import SelfWriter.Protobuf.PasswordProtection
import SelfWriter.Protobuf.Serial

/-!
# The device at the serial port

`protobuf_server` with the bytes on both sides: requests are decoded from whatever
arrives (`serveOne`), and each response is encoded (`protobuf/encode_md_message.rs`)
and written by `write_responce` until the port has taken all of it.

The bytes of the host, their pieces, the outcomes of `serial.write` and the other
tasks are up to the environment.  What is left of all that is a session of the
requests that were decoded, and a stream of the responses to them.
-/

namespace SelfWriter.Protobuf

open SelfWriter.Lib SelfWriter.Settings SelfWriter.Protobuf.Messages

/-- `encode_md_message` of a response with this encoding. -/
def encodeMdMessage (magick : UInt8) (body : List UInt8) : List UInt8 :=
  magick :: (Varint.encode body.length ++ body)

/-- One round of `write_responce`: the bytes that `serial.write` takes, and the rest of
`buf`.  After an error the same `buf` is written again. -/
def writeResponceRound (buf : List UInt8) : Option Nat → List UInt8 × List UInt8
  | some len => (buf.take len, buf.drop len)
  | none => ([], buf)

theorem writeResponceRound_append (buf : List UInt8) (answer : Option Nat) :
    (writeResponceRound buf answer).1 ++ (writeResponceRound buf answer).2 = buf := by
  cases answer with
  | some len => exact List.take_append_drop len buf
  | none => rfl

structure Device where
  world : World
  port : SerialPort
  /-- `buf` of `write_responce`, empty elsewhere. -/
  writing : List UInt8

/-- The device, and the bytes it has sent. -/
structure Serving where
  device : Device
  sent : List UInt8

inductive DeviceLabel (OutputReq OutputResponse : Type) where
  | arrive (bytes : List UInt8)
  /-- A round of `protobuf_server` up to the response. -/
  | serve (sizes : Nat → Nat) (env : Environment OutputReq OutputResponse)
      (ticks : UInt64) (timeouts : List Bool)
  | write (answer : Option Nat)
  | sensor (monitoring : Monitoring) (cq : List Command)

/-- The generated messages, on both sides of the port. -/
structure Codec (OutputReq OutputResponse : Type) where
  magick : UInt8
  encodeRequest : Request OutputReq → List UInt8
  decodeRequest : List UInt8 → Option (Request OutputReq)
  encodeResponse : Response OutputResponse → List UInt8
  decodeResponse : List UInt8 → Option (Response OutputResponse)

section Device

variable {OutputReq OutputResponse : Type} (codec : Codec OutputReq OutputResponse)

namespace Codec

/-- A response as it is written. -/
def frame (response : Response OutputResponse) : List UInt8 :=
  encodeMdMessage codec.magick (codec.encodeResponse response)

def frames (responses : List (Response OutputResponse)) : List UInt8 :=
  (responses.map codec.frame).flatten

end Codec

/-- The session that a request begins with. -/
def beginSession (world : World) (timeouts : List Bool) : Session where
  world := { world with timeouts := timeouts }
  calls := []

namespace Device

variable (device : Device)

def arrive (bytes : List UInt8) : Device :=
  { device with
    port := { device.port with pending := device.port.pending ++ bytes } }

/-- The request is processed, and its response is what has to be written. -/
def answer (port : SerialPort) (env : Environment OutputReq OutputResponse)
    (ticks : UInt64) (timeouts : List Bool) (request : Request OutputReq) : Device :=
  let (responses, session) :=
    respond env ticks request (beginSession device.world timeouts)
  { world := session.world
    port := port
    writing := codec.frames responses }

/-- `none` where the server waits for bytes, or still writes. -/
def serve (sizes : Nat → Nat) (env : Environment OutputReq OutputResponse)
    (ticks : UInt64) (timeouts : List Bool) : Option Device :=
  if device.writing = [] then
    match serveOne codec.magick codec.decodeRequest sizes device.port with
    | some (.request request, port) =>
        some (device.answer codec port env ticks timeouts request)
    | some (.error _, port) => some { device with port := port }
    | none => none
  else
    none

/-- The bytes that are sent, and the device after; `none` where there is nothing to
write. -/
def write (outcome : Option Nat) : Option (List UInt8 × Device) :=
  if device.writing = [] then
    none
  else
    let (taken, left) := writeResponceRound device.writing outcome
    some (taken, { device with writing := left })

end Device

def Serving.step (serving : Serving) :
    DeviceLabel OutputReq OutputResponse → Option Serving
  | .arrive bytes => some { serving with device := serving.device.arrive bytes }
  | .serve sizes env ticks timeouts =>
      (serving.device.serve codec sizes env ticks timeouts).map
        (fun device => { serving with device := device })
  | .write outcome =>
      (serving.device.write outcome).map
        (fun (taken, device) => { device := device, sent := serving.sent ++ taken })
  | .sensor monitoring cq =>
      some { serving with
        device := { serving.device with
          world := sessionStep serving.device.world
            (.sensor monitoring cq : SessionLabel OutputReq OutputResponse) } }

def Device.boot (ws : AppSettings) : Device where
  world := Protobuf.boot ws
  port := { pending := [], calls := 0 }
  writing := []

def serialDevice (ws : AppSettings) :
    Machine Serving (DeviceLabel OutputReq OutputResponse) where
  start := { device := .boot ws, sent := [] }
  step := Serving.step codec

/-! ## The session behind it -/

/-- A request, and the responses that were given. -/
abbrev Exchange (OutputReq OutputResponse : Type) :=
  Request OutputReq × List (Response OutputResponse)

/-- The settings, and what was asked and answered so far. -/
structure Answered (OutputReq OutputResponse : Type) where
  world : World
  exchanges : List (Exchange OutputReq OutputResponse)

namespace Answered

variable (answered : Answered OutputReq OutputResponse)

def responses : List (Response OutputResponse) :=
  answered.exchanges.flatMap Prod.snd

def step (label : SessionLabel OutputReq OutputResponse) :
    Answered OutputReq OutputResponse where
  world := sessionStep answered.world label
  exchanges :=
    match label with
    | .request env ticks req timeouts =>
        answered.exchanges ++
          [(req, (respond env ticks req (beginSession answered.world timeouts)).1)]
    | .sensor _ _ => answered.exchanges

end Answered

/-- The requests are processed by direct calls, and there is no port. -/
def directCalls (ws : AppSettings) :
    Machine (Answered OutputReq OutputResponse) (SessionLabel OutputReq OutputResponse) where
  start := { world := Protobuf.boot ws, exchanges := [] }
  step answered label := some (answered.step label)

/-- Every request has one response at most, and that has its id. -/
def Answered.Matched (answered : Answered OutputReq OutputResponse) : Prop :=
  ∀ exchange ∈ answered.exchanges,
    exchange.2.length ≤ 1 ∧ ∀ response ∈ exchange.2, response.id = exchange.1.id

section Matched

variable (env : Environment OutputReq OutputResponse) (ticks : UInt64)
variable (req : Request OutputReq) (session : Session)

theorem length_respond_le : (respond env ticks req session).1.length ≤ 1 := by
  rw [respond]
  split
  · exact Nat.le_refl _
  · exact Nat.zero_le _

private theorem id_of_respond {response : Response OutputResponse}
    (member : response ∈ (respond env ticks req session).1) : response.id = req.id := by
  rcases processes : processRequiest env req (.new env.protocol req.id ticks) session
    with ⟨answer, after⟩
  rw [respond, processes] at member
  cases answer with
  | none => cases member
  | some answer =>
      rw [List.mem_singleton] at member
      subst member
      cases accepted : req.isForThis env && req.isSupported env with
      | false =>
          rw [processRequiest_refused env accepted] at processes
          cases processes
          rfl
      | true => exact congrArg Shape.id (processRequiest_shape env accepted processes)

end Matched

theorem Answered.Matched.step {answered : Answered OutputReq OutputResponse}
    (matched : answered.Matched) (label : SessionLabel OutputReq OutputResponse) :
    (answered.step label).Matched := by
  cases label with
  | sensor monitoring cq => exact matched
  | request env ticks req timeouts =>
      intro exchange member
      rcases List.mem_append.1 member with earlier | last
      · exact matched exchange earlier
      · rw [List.mem_singleton] at last
        subst last
        exact
          ⟨length_respond_le env ticks req _, fun response => id_of_respond env ticks req _⟩

theorem directCalls_matched {ws : AppSettings}
    {permitted : Answered OutputReq OutputResponse →
      SessionLabel OutputReq OutputResponse → Prop}
    {answered : Answered OutputReq OutputResponse}
    (reaches : (directCalls ws).Reaches permitted answered) : answered.Matched := by
  apply reaches.invariant (I := Answered.Matched)
  · intro exchange member
    cases member
  · intro before label after matched _ steps
    cases steps
    exact matched.step label

/-! ## What arrives is a session -/

/-- What a step of the device is in the session. -/
def DeviceLabel.call (device : Device) :
    DeviceLabel OutputReq OutputResponse → Option (SessionLabel OutputReq OutputResponse)
  | .arrive _ => none
  | .serve sizes env ticks timeouts =>
      match serveOne codec.magick codec.decodeRequest sizes device.port with
      | some (.request request, _) => some (.request env ticks request timeouts)
      | _ => none
  | .write _ => none
  | .sensor monitoring cq => some (.sensor monitoring cq)

/-- What is still to be written belongs to the responses given so far. -/
structure Behind (serving : Serving) (answered : Answered OutputReq OutputResponse) :
    Prop where
  world : answered.world = serving.device.world
  stream : serving.sent ++ serving.device.writing = codec.frames answered.responses

section Simulates

variable {codec} {serving after : Serving} {answered : Answered OutputReq OutputResponse}

private theorem frames_append (first second : List (Response OutputResponse)) :
    codec.frames (first ++ second) = codec.frames first ++ codec.frames second := by
  rw [Codec.frames, List.map_append, List.flatten_append]
  rfl

private theorem responses_request (env : Environment OutputReq OutputResponse) (ticks : UInt64)
    (req : Request OutputReq) (timeouts : List Bool) :
    (answered.step (.request env ticks req timeouts)).responses =
      answered.responses ++
        (respond env ticks req (beginSession answered.world timeouts)).1 := by
  simp only [Answered.responses, Answered.step, List.flatMap_append,
    List.flatMap_cons, List.flatMap_nil, List.append_nil]

theorem Behind.write (behind : Behind codec serving answered) {outcome : Option Nat}
    {taken : List UInt8} {device : Device}
    (writes : serving.device.write outcome = some (taken, device)) :
    Behind codec { device := device, sent := serving.sent ++ taken } answered := by
  rw [Device.write] at writes
  split at writes
  · cases writes
  · cases writes
    refine { world := behind.world, stream := ?_ }
    have whole := writeResponceRound_append serving.device.writing outcome
    rw [List.append_assoc]
    exact (congrArg (serving.sent ++ ·) whole).trans behind.stream

theorem Behind.answer (behind : Behind codec serving answered)
    (idle : serving.device.writing = []) (port : SerialPort)
    (env : Environment OutputReq OutputResponse) (ticks : UInt64) (timeouts : List Bool)
    (req : Request OutputReq) :
    Behind codec
      { serving with device := serving.device.answer codec port env ticks timeouts req }
      (answered.step (.request env ticks req timeouts)) := by
  have stream := behind.stream
  rw [idle, List.append_nil] at stream
  constructor
  · rw [Answered.step, behind.world]
    rfl
  · rw [responses_request, frames_append, ← stream, behind.world]
    rfl

end Simulates

/-- The session is one of the requests that were decoded, step by step. -/
theorem serialDevice_tracks (ws : AppSettings) :
    (serialDevice codec ws).Tracks (directCalls ws)
      (fun serving label => label.call codec serving.device) (Behind codec) where
  start := { world := rfl, stream := rfl }
  silent := by
    intro serving after answered label behind steps noCall
    cases label with
    | arrive bytes =>
        cases steps
        exact { world := behind.world, stream := behind.stream }
    | write outcome =>
        obtain ⟨⟨taken, device⟩, writes, same⟩ := Option.map_eq_some_iff.1 steps
        subst same
        exact behind.write writes
    | sensor monitoring cq => cases noCall
    | serve sizes env ticks timeouts =>
        obtain ⟨device, serves, same⟩ := Option.map_eq_some_iff.1 steps
        subst same
        rw [Device.serve] at serves
        split at serves
        · split at serves
          · rename_i request port decoded
            rw [DeviceLabel.call, decoded] at noCall
            cases noCall
          · cases serves
            exact { world := behind.world, stream := behind.stream }
          · cases serves
        · cases serves
  step := by
    intro serving after answered label call behind steps isCall
    cases label with
    | arrive bytes => cases isCall
    | write outcome => cases isCall
    | sensor monitoring cq =>
        cases steps
        cases isCall
        refine ⟨_, rfl, ?_⟩
        exact
          { world := by rw [Answered.step, behind.world]
            stream := behind.stream }
    | serve sizes env ticks timeouts =>
        obtain ⟨device, serves, same⟩ := Option.map_eq_some_iff.1 steps
        subst same
        rw [DeviceLabel.call] at isCall
        rw [Device.serve] at serves
        split at serves
        · rename_i idle
          split at serves
          · rename_i request port decoded
            cases serves
            rw [decoded] at isCall
            cases isCall
            exact ⟨_, rfl, behind.answer idle port env ticks timeouts request⟩
          · rename_i decoded
            rw [decoded] at isCall
            cases isCall
          · cases serves
        · cases serves

theorem serialDevice_simulation (ws : AppSettings)
    (permitted : World → SessionLabel OutputReq OutputResponse → Prop) :
    (serialDevice codec ws).Simulation
      (fun serving label => ∀ call, label.call codec serving.device = some call →
        permitted serving.device.world call)
      (directCalls ws) (fun answered call => permitted answered.world call)
      (Behind codec) :=
  (serialDevice_tracks codec ws).simulation (fun behind may isCall => by
    rw [behind.world]
    exact may _ isCall)

/-- The request of a call. -/
def SessionLabel.asked :
    SessionLabel OutputReq OutputResponse → Option (Request OutputReq)
  | .request _ _ req _ => some req
  | .sensor _ _ => none

/-- Every call of a session is one exchange. -/
theorem directCalls_exchanges {ws : AppSettings}
    (session : List (SessionLabel OutputReq OutputResponse)) :
    ∀ {before answered : Answered OutputReq OutputResponse},
      (directCalls ws).run before session = some answered →
        answered.exchanges.map Prod.fst =
          before.exchanges.map Prod.fst ++ session.filterMap SessionLabel.asked := by
  induction session with
  | nil =>
      intro before answered runs
      cases runs
      exact (List.append_nil _).symm
  | cons label session inductionHypothesis =>
      intro before answered runs
      change (directCalls ws).run (before.step label) session = some answered at runs
      rw [inductionHypothesis runs]
      cases label with
      | sensor monitoring cq => rfl
      | request env ticks req timeouts =>
          rw [Answered.step, List.map_append, List.append_assoc]
          rfl

/-- What the device decodes in a run: the calls of a session. -/
def Codec.session (ws : AppSettings)
    (labels : List (DeviceLabel OutputReq OutputResponse)) :
    List (SessionLabel OutputReq OutputResponse) :=
  (serialDevice codec ws).calls (fun serving label => label.call codec serving.device)
    (serialDevice codec ws).start labels

/-- Whatever bytes arrive, in whatever pieces, and however the port takes the
responses: the settings are those of the session of the requests that were decoded, and
what was sent, with what is still in the writer, are the responses of that session,
each once and in order, with at most one to a request and under its id. -/
theorem served_in_order {ws : AppSettings}
    {labels : List (DeviceLabel OutputReq OutputResponse)} {serving : Serving}
    (runs : (serialDevice codec ws).run (serialDevice codec ws).start labels =
      some serving) :
    ∃ answered : Answered OutputReq OutputResponse,
      (directCalls ws).run (directCalls ws).start (codec.session ws labels) =
        some answered ∧
      answered.exchanges.map Prod.fst =
        (codec.session ws labels).filterMap SessionLabel.asked ∧
      answered.world = serving.device.world ∧
      serving.sent ++ serving.device.writing = codec.frames answered.responses ∧
      answered.Matched := by
  have tracks := serialDevice_tracks codec ws
  obtain ⟨answered, session, behind⟩ := tracks.run labels tracks.start runs
  exact ⟨answered, session, directCalls_exchanges _ session, behind.world, behind.stream,
    directCalls_matched (Machine.Reaches.run _ .start session)⟩

/-- No request that the device decodes is accepted with the stored password. -/
def NeverUnlocks (serving : Serving) (label : DeviceLabel OutputReq OutputResponse) :
    Prop :=
  ∀ call, label.call codec serving.device = some call →
    ¬ Unlocks serving.device.world call

/-- The password protects the device against all bytes, not only against requests:
as long as no request that it decodes is accepted with the stored password, nothing
that is protected changes. -/
theorem password_protects_port {ws : AppSettings}
    (password : ws.password ≠ Vector.replicate 10 0) {serving : Serving}
    (reaches : (serialDevice codec ws).Reaches (NeverUnlocks codec) serving) :
    ∃ stored session, serving.device.world.settings = some (stored, session) ∧
      Protected ws stored := by
  have simulation := serialDevice_simulation codec ws (fun world call => ¬ Unlocks world call)
  obtain ⟨answered, reached, behind⟩ := simulation.reaches reaches
  have locked : Locked ws answered.world := by
    apply reached.invariant (I := fun answered => Locked ws answered.world)
      (boot_locked password)
    intro before label after locked guarded steps
    cases steps
    exact locked.step guarded
  obtain ⟨stored, session, settings, _, kept⟩ := locked
  rw [behind.world] at settings
  exact ⟨stored, session, settings, kept⟩

end Device

/-! ## One request -/

/-- Asks for nothing but a response. -/
def pingRequest : Request Unit :=
  { resetRequest with flashCommand := none }

/-- Three fields of one byte. -/
def sampleBody (id deviceId protocolVersion : UInt32) : List UInt8 :=
  [8, id.toUInt8, 16, deviceId.toUInt8, 24, protocolVersion.toUInt8]

def sampleCodec : Codec Unit Unit where
  magick := 9
  encodeRequest := fun req => sampleBody req.id req.deviceId req.protocolVersion
  decodeRequest := fun bytes =>
    match bytes with
    | [8, id, 16, deviceId, 24, protocolVersion] =>
        some { pingRequest with
          id := id.toUInt32
          deviceId := deviceId.toUInt32
          protocolVersion := protocolVersion.toUInt32 }
    | _ => none
  encodeResponse := fun resp => sampleBody resp.id resp.deviceId resp.protocolVersion
  decodeResponse := fun bytes =>
    match bytes with
    | [8, id, 16, deviceId, 24, protocolVersion] =>
        some { newResponse with
          id := id.toUInt32
          deviceId := deviceId.toUInt32
          protocolVersion := protocolVersion.toUInt32 }
    | _ => none

/-- The response is taken in two pieces, with an error between. -/
def pingLabels : List (DeviceLabel Unit Unit) :=
  [.arrive [9, 6, 8, 1, 16, 1, 24, 1], .serve (fun _ => 64) quietEnvironment 0 [],
    .write (some 3), .write none, .write (some 5)]

def pingServed : Serving where
  device :=
    { world := boot changedSettings
      port := { pending := [], calls := 3 }
      writing := [] }
  sent := [9, 6, 8, 1, 16, 1, 24, 1]

theorem served_in_order_ping :
    ∃ answered : Answered Unit Unit,
      answered.exchanges.map Prod.fst =
        (sampleCodec.session changedSettings pingLabels).filterMap SessionLabel.asked ∧
      answered.world = pingServed.device.world ∧
      pingServed.sent ++ pingServed.device.writing =
        sampleCodec.frames answered.responses ∧
      answered.Matched := by
  have runs : (serialDevice sampleCodec changedSettings).run
      (serialDevice sampleCodec changedSettings).start pingLabels = some pingServed := rfl
  obtain ⟨answered, _, served⟩ := served_in_order sampleCodec runs
  exact ⟨answered, served⟩

theorem password_protects_port_ping :
    ∃ stored session, pingServed.device.world.settings = some (stored, session) ∧
      Protected changedSettings stored := by
  let Reaches := (serialDevice sampleCodec changedSettings).Reaches (NeverUnlocks sampleCodec)
  have arrived : Reaches _ :=
    .step (.arrive [9, 6, 8, 1, 16, 1, 24, 1]) .start (fun _ asks => by cases asks) rfl
  have served : Reaches _ :=
    .step (.serve (fun _ => 64) quietEnvironment 0 []) arrived
      (fun _ asks => by
        cases asks
        rintro ⟨_, _, _, _, _, _, _, carried, _⟩
        cases carried) rfl
  have begun : Reaches _ := .step (.write (some 3)) served (fun _ asks => by cases asks) rfl
  have again : Reaches _ := .step (.write none) begun (fun _ asks => by cases asks) rfl
  have written : Reaches pingServed :=
    .step (.write (some 5)) again (fun _ asks => by cases asks) rfl
  exact password_protects_port sampleCodec (by decide) written

end SelfWriter.Protobuf
