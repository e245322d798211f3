import SelfWriter.Protobuf.Reception
import SelfWriter.Protobuf.SerialDevice

/-!
# The host library and the device

`process_request_common` of `test/lib_usb_self_writer.py` against `protobuf_server`.
The library writes a request, reads what has come after its timeout, at most 4096
bytes, and parses all of it as one response.

Where every body is returned whole by its read, and the device is through with a
request when the timeout is over, a conversation is a sequence of direct calls of
`process_requiest`, each made once.
-/

namespace SelfWriter.Protobuf

open SelfWriter.Lib SelfWriter.Settings

/-! ## The host library -/

inductive HostError where
  /-- There is no byte where one is read. -/
  | indexError
  | invalidMagick
  | tooManyBytes
  | messageTooLong (msgLen : Nat)
  | parseError
  deriving DecidableEq, Repr

/-- A varint of at most so many bytes, and what is behind it. -/
def decodeVarint : Nat → List UInt8 → Except HostError (Nat × List UInt8)
  | 0, _ => .error .tooManyBytes
  | _ + 1, [] => .error .indexError
  | more + 1, byte :: rest =>
      if byte < 0x80 then .ok (byte.toNat, rest)
      else
        (decodeVarint more rest).map
          (fun (high, rest) => (byte.toNat - 128 + 128 * high, rest))

/-- `_DecodeVarint32` -/
def decodeVarint32 (buffer : List UInt8) : Except HostError (Nat × List UInt8) :=
  (decodeVarint 10 buffer).map (fun (value, rest) => (value % 2 ^ 32, rest))

inductive Host (OutputReq : Type) where
  | idle
  /-- In `serial.read`. -/
  | waiting (request : Request OutputReq)

/-- What the library has made of a request. -/
abbrev Result (OutputReq OutputResponse : Type) :=
  Request OutputReq × Except HostError (Response OutputResponse)

/-- Both sides; the device has sent bytes that the host has not read. -/
structure Conversation (OutputReq OutputResponse : Type) where
  host : Host OutputReq
  results : List (Result OutputReq OutputResponse)
  serving : Serving

inductive Turn (OutputReq OutputResponse : Type) where
  | send (request : Request OutputReq)
  | device (label : DeviceLabel OutputReq OutputResponse)
  | read

section Library

variable {OutputReq OutputResponse : Type} (codec : Codec OutputReq OutputResponse)

/-- What `process_request_common` writes. -/
def Codec.requestBytes (request : Request OutputReq) : List UInt8 :=
  let body := codec.encodeRequest request
  codec.magick :: (Varint.encode body.length ++ body)

/-- What `process_request_common` makes of `msg`. -/
def Codec.receive (msg : List UInt8) : Except HostError (Response OutputResponse) :=
  match msg with
  | [] => .error .indexError
  | magick :: msgNoMagick =>
      if magick ≠ codec.magick then .error .invalidMagick
      else
        match decodeVarint32 msgNoMagick with
        | .error error => .error error
        | .ok (msgLen, body) =>
            if 1500 < msgLen then .error (.messageTooLong msgLen)
            else
              match codec.decodeResponse body with
              | some response => .ok response
              | none => .error .parseError

def Conversation.step (state : Conversation OutputReq OutputResponse) :
    Turn OutputReq OutputResponse → Option (Conversation OutputReq OutputResponse)
  | .send request =>
      match state.host with
      | .idle =>
          some { state with
            host := .waiting request
            serving := { state.serving with
              device := state.serving.device.arrive (codec.requestBytes request) } }
      | .waiting _ => none
  | .device (.arrive _) => none
  | .device label =>
      (state.serving.step codec label).map (fun serving => { state with serving := serving })
  | .read =>
      match state.host with
      | .idle => none
      | .waiting request =>
          some
            { host := .idle
              results :=
                state.results ++ [(request, codec.receive (state.serving.sent.take 4096))]
              serving := { state.serving with sent := state.serving.sent.drop 4096 } }

def conversation (ws : AppSettings) :
    Machine (Conversation OutputReq OutputResponse) (Turn OutputReq OutputResponse) where
  start := { host := .idle, results := [], serving := { device := .boot ws, sent := [] } }
  step := Conversation.step codec

/-! ## What goes well -/

/-- The request is decoded as it was encoded, and `decode_msg_size` takes its length. -/
structure Codec.Sendable (request : Request OutputReq) : Prop where
  bounds : 1 ≤ (codec.encodeRequest request).length ∧
    (codec.encodeRequest request).length ≤ 1500
  decodes : codec.decodeRequest (codec.encodeRequest request) = some request

/-- The read for the body of the request, when the magick byte is read by the given
call, returns all of it. -/
def Codec.WholeBody (request : Request OutputReq) (calls : Nat) (sizes : Nat → Nat) : Prop :=
  let length := (codec.encodeRequest request).length
  length ≤ max 1 (sizes (calls + 1 + (Varint.encode length).length))

/-- Bodies come whole, both sides agree on the messages, and the host reads when the
device is through with the request and no more than 4096 bytes are there. -/
def Smooth (state : Conversation OutputReq OutputResponse) :
    Turn OutputReq OutputResponse → Prop
  | .send request => codec.Sendable request
  | .device (.serve sizes env ticks timeouts) =>
      ∀ request, state.host = .waiting request →
        codec.WholeBody request state.serving.device.port.calls sizes ∧
          ∀ response ∈ (respond env ticks request
              (beginSession state.serving.device.world timeouts)).1,
            codec.decodeResponse (codec.encodeResponse response) = some response
  | .device _ => True
  | .read =>
      state.serving.device.port.pending = [] ∧ state.serving.device.writing = [] ∧
        state.serving.sent.length ≤ 4096

/-- What the library makes of the answer to a direct call. -/
def Codec.outcome (responses : List (Response OutputResponse)) :
    Except HostError (Response OutputResponse) :=
  match responses with
  | [] => .error .indexError
  | response :: _ =>
      let msgLen := (codec.encodeResponse response).length
      if 1500 < msgLen then .error (.messageTooLong msgLen) else .ok response

def Codec.result (exchange : Exchange OutputReq OutputResponse) :
    Result OutputReq OutputResponse :=
  (exchange.1, codec.outcome exchange.2)

/-! ## One message -/

private theorem decodeVarint_append {field : List UInt8} (isVarint : Varint.IsVarint field)
    (rest : List UInt8) :
    ∀ {more value : Nat}, field.length ≤ more → Varint.decode field = some value →
      decodeVarint more (field ++ rest) = .ok (value, rest) := by
  induction field with
  | nil => exact absurd isVarint id
  | cons byte field inductionHypothesis =>
      intro more value fits decodes
      cases more with
      | zero => exact absurd fits (Nat.not_succ_le_zero _)
      | succ more =>
          by_cases last : byte < 0x80
          · obtain rfl := isVarint.of_last last
            rw [Varint.decode, if_pos last] at decodes
            cases decodes
            rw [List.cons_append, decodeVarint, if_pos last, List.nil_append]
          · rw [Varint.decode, if_neg last] at decodes
            obtain ⟨high, decodesRest, same⟩ := Option.map_eq_some_iff.1 decodes
            subst same
            rw [List.cons_append, decodeVarint, if_neg last,
              inductionHypothesis (isVarint.of_more last) (Nat.le_of_succ_le_succ fits)
                decodesRest]
            rfl

private theorem decodeVarint32_encode {value : Nat} (small : value < 2 ^ 32)
    (rest : List UInt8) :
    decodeVarint32 (Varint.encode value ++ rest) = .ok (value, rest) := by
  have length : (Varint.encode value).length ≤ 10 :=
    Varint.length_encode_le (Nat.lt_trans small (by decide))
  rw [decodeVarint32, decodeVarint_append (Varint.isVarint_encode value) rest length
    (Varint.decode_encode value)]
  change Except.ok (value % 2 ^ 32, rest) = _
  rw [Nat.mod_eq_of_lt small]

/-- The responses are parsed as they were encoded. -/
def Codec.Parses (responses : List (Response OutputResponse)) : Prop :=
  ∀ response ∈ responses,
    codec.decodeResponse (codec.encodeResponse response) = some response

/-- All that one request has brought is parsed as its response. -/
theorem receive_frames {responses : List (Response OutputResponse)}
    (single : responses.length ≤ 1) (parses : codec.Parses responses)
    (fits : (codec.frames responses).length ≤ 4096) :
    codec.receive (codec.frames responses) = codec.outcome responses := by
  match responses with
  | [] => rfl
  | [response] =>
      have parsed := parses response List.mem_cons_self
      have small : (codec.encodeResponse response).length < 2 ^ 32 := by
        simp only [Codec.frames, Codec.frame, encodeMdMessage, List.map_cons,
          List.map_nil, List.flatten_cons, List.flatten_nil, List.append_nil,
          List.length_cons, List.length_append] at fits
        omega
      have decodes := decodeVarint32_encode small (codec.encodeResponse response)
      have bytes : codec.frames [response] =
          codec.magick :: (Varint.encode (codec.encodeResponse response).length ++
            codec.encodeResponse response) := List.append_nil _
      rw [bytes, Codec.receive]
      simp only [ne_eq, not_true_eq_false, if_false, decodes, parsed]
      rfl
  | _ :: _ :: _ =>
      rw [List.length_cons, List.length_cons] at single
      omega

/-- A sendable request is a frame for the receiver. -/
def Codec.Sendable.toFrame {request : Request OutputReq}
    (sendable : codec.Sendable request) : Frame codec.decodeRequest where
  lengthField := Varint.encode (codec.encodeRequest request).length
  body := codec.encodeRequest request
  request := request
  isVarint := Varint.isVarint_encode _
  lengthDecodes := Varint.decode_encode _
  lengthBounds := sendable.bounds
  bodyDecodes := sendable.decodes

private theorem serveOne_request {request : Request OutputReq} (sendable : codec.Sendable request)
    {calls : Nat} {sizes : Nat → Nat} (whole : codec.WholeBody request calls sizes) :
    ∃ later, serveOne codec.magick codec.decodeRequest sizes
        { pending := codec.requestBytes request, calls := calls } =
      some (.request request, { pending := [], calls := later }) := by
  have bounds := sendable.bounds
  have short : sendable.toFrame.lengthField.length ≤ 4 :=
    Varint.length_encode_le (by omega)
  have returned : sendable.toFrame.body.length ≤
      max 1 (sizes (sendable.toFrame.bodyCall calls)) := whole
  have serves := serveOne_of_whole codec.magick sizes short returned []
  rw [List.append_nil] at serves
  exact ⟨_, serves⟩

/-- Without a byte the server waits. -/
theorem serveOne_nil (sizes : Nat → Nat) {port : SerialPort} (empty : port.pending = []) :
    serveOne codec.magick codec.decodeRequest sizes port = none := by
  simp [serveOne, reciveMdHeader, readByte, read, empty]

private theorem serve_of_empty {device : Device} (empty : device.port.pending = [])
    (sizes : Nat → Nat) (env : Environment OutputReq OutputResponse) (ticks : UInt64)
    (timeouts : List Bool) : device.serve codec sizes env ticks timeouts = none := by
  rw [Device.serve]
  split
  · rw [serveOne_nil codec sizes empty]
  · rfl

/-! ## A conversation is a sequence of direct calls -/

/-- How far an exchange is, against the direct calls. -/
inductive Stage (state : Conversation OutputReq OutputResponse)
    (answered : Answered OutputReq OutputResponse) : Prop where
  | idle (host : state.host = .idle)
      (read : state.serving.device.port.pending = [])
      (written : state.serving.device.writing = [])
      (received : state.serving.sent = [])
      (results : state.results = answered.exchanges.map codec.result)
  | asked (request : Request OutputReq) (sendable : codec.Sendable request)
      (host : state.host = .waiting request)
      (arrived : state.serving.device.port.pending = codec.requestBytes request)
      (written : state.serving.device.writing = [])
      (unanswered : state.serving.sent = [])
      (results : state.results = answered.exchanges.map codec.result)
  | answered (request : Request OutputReq) (responses : List (Response OutputResponse))
      (earlier : List (Exchange OutputReq OutputResponse))
      (single : responses.length ≤ 1) (parses : codec.Parses responses)
      (host : state.host = .waiting request)
      (read : state.serving.device.port.pending = [])
      (stream : state.serving.sent ++ state.serving.device.writing = codec.frames responses)
      (exchanges : answered.exchanges = earlier ++ [(request, responses)])
      (results : state.results = earlier.map codec.result)

/-- The settings are the same, and the exchange is at some stage. -/
structure Follows (state : Conversation OutputReq OutputResponse)
    (answered : Answered OutputReq OutputResponse) : Prop where
  world : answered.world = state.serving.device.world
  stage : Stage codec state answered

section Steps

variable {codec}
variable {state after : Conversation OutputReq OutputResponse}
variable {answered : Answered OutputReq OutputResponse}

theorem Follows.send (follows : Follows codec state answered)
    {request : Request OutputReq} (sendable : codec.Sendable request)
    (steps : state.step codec (.send request) = some after) :
    Follows codec after answered := by
  rw [Conversation.step] at steps
  cases follows.stage with
  | idle host read written received results =>
      rw [host] at steps
      cases steps
      refine
        { world := follows.world
          stage := .asked request sendable rfl ?_ written received results }
      change state.serving.device.port.pending ++ codec.requestBytes request = _
      rw [read, List.nil_append]
  | asked _ _ host =>
      rw [host] at steps
      cases steps
  | answered _ _ _ _ _ host =>
      rw [host] at steps
      cases steps

theorem Follows.read (follows : Follows codec state answered)
    (smooth : Smooth codec state .read)
    (steps : state.step codec .read = some after) : Follows codec after answered := by
  obtain ⟨through, silent, fits⟩ := smooth
  rw [Conversation.step] at steps
  cases follows.stage with
  | idle host =>
      rw [host] at steps
      cases steps
  | asked request _ _ arrived =>
      rw [through] at arrived
      cases arrived
  | answered request responses earlier single parses host read stream exchanges results =>
      rw [host] at steps
      cases steps
      rw [silent, List.append_nil] at stream
      have received : codec.receive (state.serving.sent.take 4096) =
          codec.outcome responses := by
        rw [List.take_of_length_le fits, stream]
        exact receive_frames codec single parses (by rw [← stream]; exact fits)
      refine
        { world := follows.world
          stage := .idle rfl read silent (List.drop_of_length_le fits) ?_ }
      change state.results ++ [(request, _)] = _
      rw [received, exchanges, results, List.map_append]
      rfl

theorem Follows.write (follows : Follows codec state answered) {outcome : Option Nat}
    (steps : state.step codec (.device (.write outcome)) = some after) :
    Follows codec after answered := by
  obtain ⟨serving, serves, rfl⟩ := Option.map_eq_some_iff.1 steps
  obtain ⟨⟨taken, device⟩, writes, rfl⟩ := Option.map_eq_some_iff.1 serves
  rw [Device.write] at writes
  split at writes
  · cases writes
  · rename_i busy
    cases writes
    cases follows.stage with
    | idle _ _ written => exact absurd written busy
    | asked _ _ _ _ written => exact absurd written busy
    | answered request responses earlier single parses host read stream exchanges results =>
        have whole := writeResponceRound_append state.serving.device.writing outcome
        refine
          { world := follows.world
            stage := .answered request responses earlier single parses host read ?_ exchanges
              results }
        change (state.serving.sent ++ _) ++ _ = _
        rw [List.append_assoc]
        exact (congrArg (state.serving.sent ++ ·) whole).trans stream

theorem Stage.sensor {world : World} {serving : Serving}
    (stage : Stage codec state answered)
    (same : serving = { state.serving with
      device := { state.serving.device with world := world } })
    (monitoring : Monitoring) (cq : List Command) :
    Stage codec { state with serving := serving } (answered.step (.sensor monitoring cq)) := by
  subst same
  cases stage with
  | idle host read written received results =>
      exact .idle host read written received results
  | asked request sendable host arrived written unanswered results =>
      exact .asked request sendable host arrived written unanswered results
  | answered request responses earlier single parses host read stream exchanges results =>
      exact .answered request responses earlier single parses host read stream exchanges results

theorem Follows.serve (follows : Follows codec state answered) {sizes : Nat → Nat}
    {env : Environment OutputReq OutputResponse} {ticks : UInt64} {timeouts : List Bool}
    (smooth : Smooth codec state (.device (.serve sizes env ticks timeouts)))
    (steps : state.step codec (.device (.serve sizes env ticks timeouts)) = some after) :
    ∃ call, Follows codec after (answered.step call) := by
  obtain ⟨serving, moves, rfl⟩ := Option.map_eq_some_iff.1 steps
  obtain ⟨device, serves, rfl⟩ := Option.map_eq_some_iff.1 moves
  cases follows.stage with
  | idle _ read =>
      rw [serve_of_empty codec read] at serves
      cases serves
  | answered _ _ _ _ _ _ read =>
      rw [serve_of_empty codec read] at serves
      cases serves
  | asked request sendable host arrived written unanswered results =>
      obtain ⟨whole, parses⟩ := smooth request host
      obtain ⟨later, decoded⟩ := serveOne_request codec sendable whole
      have port : state.serving.device.port =
          { pending := codec.requestBytes request
            calls := state.serving.device.port.calls } := by
        rw [← arrived]
      rw [Device.serve, if_pos written, port, decoded] at serves
      cases serves
      refine ⟨.request env ticks request timeouts, ?_⟩
      constructor
      · rw [Answered.step, follows.world]
        rfl
      · refine .answered request _ answered.exchanges (length_respond_le env ticks request _)
          parses host rfl ?_ ?_ results
        · change state.serving.sent ++ _ = _
          rw [unanswered]
          rfl
        · rw [Answered.step, follows.world]

end Steps

theorem conversation_simulation (ws : AppSettings) :
    (conversation codec ws).Simulation (Smooth codec) (directCalls ws) (fun _ _ => True)
      (Follows codec) where
  start := { world := rfl, stage := .idle rfl rfl rfl rfl rfl }
  step := by
    intro state after answered label follows smooth steps
    cases label with
    | send request => exact .inl (follows.send smooth steps)
    | read => exact .inl (follows.read smooth steps)
    | device label =>
        cases label with
        | arrive bytes => cases steps
        | write outcome => exact .inl (follows.write steps)
        | serve sizes env ticks timeouts =>
            obtain ⟨call, next⟩ := follows.serve smooth steps
            exact .inr ⟨call, _, trivial, rfl, next⟩
        | sensor monitoring cq =>
            cases steps
            refine .inr ⟨.sensor monitoring cq, _, trivial, rfl, ?_⟩
            exact
              { world := by rw [Answered.step, follows.world]
                stage := follows.stage.sensor rfl monitoring cq }

/-- The library gives no response that has another id than its request. -/
theorem Stage.ids {state : Conversation OutputReq OutputResponse}
    {answered : Answered OutputReq OutputResponse} (stage : Stage codec state answered)
    (matched : answered.Matched) {request : Request OutputReq}
    {response : Response OutputResponse} (member : (request, .ok response) ∈ state.results) :
    response.id = request.id := by
  have fromExchange : ∃ exchange ∈ answered.exchanges,
      codec.result exchange = (request, .ok response) := by
    cases stage with
    | idle _ _ _ _ results => exact List.mem_map.1 (by rw [← results]; exact member)
    | asked _ _ _ _ _ _ results => exact List.mem_map.1 (by rw [← results]; exact member)
    | answered _ _ earlier _ _ _ _ _ exchanges results =>
        rw [results] at member
        obtain ⟨exchange, made, same⟩ := List.mem_map.1 member
        exact ⟨exchange, by rw [exchanges]; exact List.mem_append_left _ made, same⟩
  obtain ⟨⟨asked, responses⟩, made, same⟩ := fromExchange
  obtain ⟨rfl, outcome⟩ := Prod.mk.inj same
  cases responses with
  | nil => cases outcome
  | cons first _ =>
      rw [Codec.outcome] at outcome
      split at outcome
      · cases outcome
      · cases outcome
        exact (matched _ made).2 _ List.mem_cons_self

/-- Between two exchanges the library has, for each request it has sent, what it makes
of one direct call of `process_requiest`, in this order and on the settings that the
device has; at no time has it taken a response for that to another request. -/
theorem conversation_is_direct {ws : AppSettings}
    {state : Conversation OutputReq OutputResponse}
    (reaches : (conversation codec ws).Reaches (Smooth codec) state) :
    (state.host = .idle →
      ∃ answered : Answered OutputReq OutputResponse, (directCalls ws).Reachable answered ∧
        answered.world = state.serving.device.world ∧
        state.results = answered.exchanges.map codec.result) ∧
    ∀ request response, (request, .ok response) ∈ state.results →
      response.id = request.id := by
  obtain ⟨answered, reached, follows⟩ := (conversation_simulation codec ws).reaches reaches
  constructor
  · intro idle
    cases follows.stage with
    | idle _ _ _ _ results => exact ⟨answered, reached, follows.world, results⟩
    | asked _ _ waits =>
        rw [idle] at waits
        cases waits
    | answered _ _ _ _ _ waits =>
        rw [idle] at waits
        cases waits
  · intro request response member
    exact follows.stage.ids codec (directCalls_matched reached) member

end Library

/-- The ping is answered, and the host has read the answer. -/
def pingAnswered : Conversation Unit Unit where
  host := .idle
  results := [(pingRequest, .ok newResponse)]
  serving := { pingServed with sent := [] }

theorem conversation_is_direct_ping :
    (pingAnswered.host = .idle →
      ∃ answered : Answered Unit Unit, (directCalls changedSettings).Reachable answered ∧
        answered.world = pingAnswered.serving.device.world ∧
        pingAnswered.results = answered.exchanges.map sampleCodec.result) ∧
    ∀ request response, (request, .ok response) ∈ pingAnswered.results →
      response.id = request.id := by
  let Reaches := (conversation sampleCodec changedSettings).Reaches (Smooth sampleCodec)
  have sent : Reaches _ :=
    .step (.send pingRequest) .start { bounds := by decide, decodes := rfl } rfl
  have served : Reaches _ :=
    .step (.device (.serve (fun _ => 64) quietEnvironment 0 [])) sent
      (fun _ waits => by
        cases waits
        refine ⟨(by decide : (6 : Nat) ≤ 64), fun response member => ?_⟩
        rw [List.mem_singleton.1 member]
        rfl) rfl
  have begun : Reaches _ := .step (.device (.write (some 3))) served trivial rfl
  have again : Reaches _ := .step (.device (.write none)) begun trivial rfl
  have written : Reaches _ := .step (.device (.write (some 5))) again trivial rfl
  have answered : Reaches pingAnswered := .step .read written ⟨rfl, rfl, by decide⟩ rfl
  exact conversation_is_direct sampleCodec answered

end SelfWriter.Protobuf
