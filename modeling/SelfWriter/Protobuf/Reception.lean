import SelfWriter.Protobuf.Serial
import Mathlib.Data.List.Basic

/-!
# Which runs of the serial layer deliver every request

The header is read byte by byte, the body by one call of `SerialStream::read`.
That call answers with whatever `SerialPort::read` had, and the rest of the
body stays in the port as the next header.
-/

namespace SelfWriter.Protobuf

open SelfWriter.Lib

variable {Request : Type}

/-- A well-formed frame: the length field is one varint that gives the length
of the body, from 1 to 1500, and the body is the encoding of a request. -/
structure Frame (decode : List UInt8 → Option Request) where
  lengthField : List UInt8
  body : List UInt8
  request : Request
  isVarint : Varint.IsVarint lengthField
  lengthDecodes : Varint.decode lengthField = some body.length
  lengthBounds : 1 ≤ body.length ∧ body.length ≤ 1500
  bodyDecodes : decode body = some request

namespace Frame

variable {decode : List UInt8 → Option Request}

def bytes (magick : UInt8) (frame : Frame decode) : List UInt8 :=
  magick :: (frame.lengthField ++ frame.body)

def stream (magick : UInt8) (frames : List (Frame decode)) : List UInt8 :=
  (frames.map (bytes magick)).flatten

/-- What the server does when every frame arrives as it was sent. -/
def requests (frames : List (Frame decode)) : List (Received Request) :=
  frames.map (fun frame => .request frame.request)

private theorem stream_cons (magick : UInt8) (frame : Frame decode)
    (frames : List (Frame decode)) :
    stream magick (frame :: frames) =
      magick :: (frame.lengthField ++ (frame.body ++ stream magick frames)) := by
  simp only [stream, bytes, List.map_cons, List.flatten_cons, List.cons_append,
    List.append_assoc]

/-- Number of the call that reads the body, when the magick byte is read by
the given one. -/
def bodyCall (frame : Frame decode) (calls : Nat) : Nat :=
  calls + 1 + frame.lengthField.length

/-- How many bytes of the body its call returns. -/
def bodyRead (sizes : Nat → Nat) (frame : Frame decode) (calls : Nat) : Nat :=
  min (max 1 (sizes (frame.bodyCall calls))) frame.body.length

/-- The buffer that is decoded as the body: the bytes the call did not return
are still zero. -/
def bufferRead (sizes : Nat → Nat) (frame : Frame decode) (calls : Nat) :
    List UInt8 :=
  frame.body.take (frame.bodyRead sizes calls) ++
    List.replicate (frame.body.length - frame.bodyRead sizes calls) 0

end Frame

section Conditions

variable (magick : UInt8) {decode : List UInt8 → Option Request}
variable (sizes : Nat → Nat)

/-- Every call made for a body returns the whole body, and no length field is
padded beyond four bytes. -/
def WholeBodies : Nat → List (Frame decode) → Prop
  | _, [] => True
  | calls, frame :: frames =>
      frame.lengthField.length ≤ 4 ∧
      frame.body.length ≤ max 1 (sizes (frame.bodyCall calls)) ∧
      WholeBodies (frame.bodyCall calls + 1) frames

/-- The first body that is not returned whole goes unnoticed for one round: the
zero-padded buffer happens to decode to the same request, and what is left of
the body happens to begin with the magick byte. -/
def ShortReadUnnoticed : Nat → List (Frame decode) → Prop
  | _, [] => False
  | calls, frame :: frames =>
      frame.lengthField.length ≤ 4 ∧
      ((max 1 (sizes (frame.bodyCall calls)) < frame.body.length ∧
          decode (frame.bufferRead sizes calls) = some frame.request ∧
          (frame.body.drop (frame.bodyRead sizes calls)).head? = some magick) ∨
        (frame.body.length ≤ max 1 (sizes (frame.bodyCall calls)) ∧
          ShortReadUnnoticed (frame.bodyCall calls + 1) frames))

end Conditions

/-! ## Reading the header -/

section Header

variable (sizes : Nat → Nat)

private theorem readByte_cons (byte : UInt8) (rest : List UInt8) (calls : Nat) :
    readByte sizes { pending := byte :: rest, calls := calls } =
      some (byte, { pending := rest, calls := calls + 1 }) := by
  have count :
      returned sizes { pending := byte :: rest, calls := calls } 1 = 1 := by
    simp only [returned, List.length_cons]
    omega
  simp [readByte, read, count]

/-- The size is read up to its last byte, or up to the capacity. -/
theorem readMsgSize_append {field : List UInt8}
    (isVarint : Varint.IsVarint field) (rest : List UInt8) (capacity : Nat) :
    ∀ calls,
      readMsgSize sizes capacity { pending := field ++ rest, calls := calls } =
        some (field.take capacity,
          { pending := field.drop capacity ++ rest,
            calls := calls + min capacity field.length }) := by
  induction capacity generalizing field with
  | zero =>
      intro calls
      simp [readMsgSize]
  | succ capacity inductionHypothesis =>
      intro calls
      cases field with
      | nil => exact absurd isVarint id
      | cons byte field =>
          have first := readByte_cons sizes byte (field ++ rest) calls
          by_cases last : byte < 0x80
          · obtain rfl := isVarint.of_last last
            rw [readMsgSize]
            simp [List.nil_append] at first
            simp [first, last]
          · have others :=
              inductionHypothesis (isVarint.of_more last) (calls + 1)
            have callsMade :
                calls + min (capacity + 1) (field.length + 1) =
                  calls + 1 + min capacity field.length := by
              omega
            rw [readMsgSize, List.length_cons, callsMade]
            simp [first, last, others]

private theorem decodeMsgSize_of_short {field : List UInt8}
    (isVarint : Varint.IsVarint field) (short : field.length ≤ 4)
    {length : Nat} (decodes : Varint.decode field = some length)
    (bounds : 1 ≤ length ∧ length ≤ 1500) (rest : List UInt8) (calls : Nat) :
    decodeMsgSize sizes { pending := field ++ rest, calls := calls } =
      some (.ok length,
        { pending := rest, calls := calls + field.length }) := by
  have accepted : ¬ (length = 0 ∨ length > 1500) := by omega
  have bytesRead := readMsgSize_append sizes isVarint rest 4 calls
  rw [List.take_of_length_le short, List.drop_of_length_le short,
    Nat.min_eq_right short, List.nil_append] at bytesRead
  simp [decodeMsgSize, bytesRead, decodes, accepted]

private theorem decodeMsgSize_of_long {field : List UInt8}
    (isVarint : Varint.IsVarint field) (long : 4 < field.length)
    (rest : List UInt8) (calls : Nat) :
    decodeMsgSize sizes { pending := field ++ rest, calls := calls } =
      some (.error .invalidVarint,
        { pending := field.drop 4 ++ rest, calls := calls + 4 }) := by
  have bytesRead := readMsgSize_append sizes isVarint rest 4 calls
  rw [Nat.min_eq_left (Nat.le_of_lt long)] at bytesRead
  have cutShort := Varint.decode_take_of_lt isVarint 4 long
  simp [decodeMsgSize, bytesRead, cutShort]

end Header

/-! ## One round on a well-formed frame -/

section Round

variable (magick : UInt8) {decode : List UInt8 → Option Request}
variable (sizes : Nat → Nat)

/-- What the server makes of a body buffer. -/
def receivedOf (decode : List UInt8 → Option Request) (buffer : List UInt8) :
    Received Request :=
  match decode buffer with
  | some request => .request request
  | none => .error .invalidBody

private theorem readAll_body (frame : Frame decode) (rest : List UInt8) (calls : Nat) :
    readAll sizes frame.body.length
        { pending := frame.body ++ rest, calls := frame.bodyCall calls } =
      some (frame.bufferRead sizes calls,
        { pending := frame.body.drop (frame.bodyRead sizes calls) ++ rest,
          calls := frame.bodyCall calls + 1 }) := by
  have nonempty : frame.body ++ rest ≠ [] := by
    intro empty
    have lengths := congrArg List.length empty
    have positive := frame.lengthBounds.1
    simp only [List.length_append, List.length_nil] at lengths
    omega
  have count :
      returned sizes
          { pending := frame.body ++ rest, calls := frame.bodyCall calls }
          frame.body.length =
        frame.bodyRead sizes calls := by
    simp only [returned, Frame.bodyRead, List.length_append]
    omega
  have bounded : frame.bodyRead sizes calls ≤ frame.body.length :=
    Nat.min_le_right _ _
  simp only [readAll, read, if_neg nonempty, List.length_replicate, count,
    List.take_append_of_le_length bounded, List.drop_append_of_le_length bounded,
    List.drop_replicate, Frame.bufferRead]

/-- A round on a frame with a short length field decodes the buffer its one
body read filled, and leaves the rest of the body in the port. -/
theorem serveOne_of_short (frame : Frame decode)
    (short : frame.lengthField.length ≤ 4) (rest : List UInt8) (calls : Nat) :
    serveOne magick decode sizes
        { pending := magick ::
            (frame.lengthField ++ (frame.body ++ rest)), calls := calls } =
      some (receivedOf decode (frame.bufferRead sizes calls),
        { pending := frame.body.drop (frame.bodyRead sizes calls) ++ rest,
          calls := frame.bodyCall calls + 1 }) := by
  have magickRead := readByte_cons sizes magick
    (frame.lengthField ++ (frame.body ++ rest)) calls
  have sizeRead := decodeMsgSize_of_short sizes frame.isVarint short
    frame.lengthDecodes frame.lengthBounds (frame.body ++ rest) (calls + 1)
  have bodyRead := readAll_body sizes frame rest calls
  rw [Frame.bodyCall] at bodyRead
  rw [receivedOf, Frame.bodyCall]
  cases decoded : decode (frame.bufferRead sizes calls) with
  | none =>
      simp [serveOne, reciveMdHeader, reciveMessageBody, magickRead, sizeRead, bodyRead, decoded]
  | some request =>
      simp [serveOne, reciveMdHeader, reciveMessageBody, magickRead, sizeRead, bodyRead, decoded]

private theorem serveOne_of_long (frame : Frame decode)
    (long : 4 < frame.lengthField.length) (rest : List UInt8) (calls : Nat) :
    serveOne magick decode sizes
        { pending := magick ::
            (frame.lengthField ++ (frame.body ++ rest)), calls := calls } =
      some (.error .invalidVarint,
        { pending := frame.lengthField.drop 4 ++ (frame.body ++ rest),
          calls := calls + 1 + 4 }) := by
  have magickRead := readByte_cons sizes magick
    (frame.lengthField ++ (frame.body ++ rest)) calls
  have sizeRead := decodeMsgSize_of_long sizes frame.isVarint long
    (frame.body ++ rest) (calls + 1)
  simp [serveOne, reciveMdHeader, magickRead, sizeRead]

private theorem serveOne_of_other {byte : UInt8} (other : byte ≠ magick)
    (rest : List UInt8) (calls : Nat) :
    serveOne magick decode sizes { pending := byte :: rest, calls := calls } =
      some (.error (.invalidMagick byte),
        { pending := rest, calls := calls + 1 }) := by
  have byteRead := readByte_cons sizes byte rest calls
  simp [serveOne, reciveMdHeader, byteRead, other]

private theorem bodyRead_of_whole {frame : Frame decode} {calls : Nat}
    (whole : frame.body.length ≤ max 1 (sizes (frame.bodyCall calls))) :
    frame.bodyRead sizes calls = frame.body.length :=
  Nat.min_eq_right whole

private theorem bodyRead_of_short {frame : Frame decode} {calls : Nat}
    (cut : max 1 (sizes (frame.bodyCall calls)) < frame.body.length) :
    frame.bodyRead sizes calls < frame.body.length := by
  rw [Frame.bodyRead, Nat.min_eq_left (Nat.le_of_lt cut)]
  exact cut

/-- A body that is returned whole is decoded as it was sent. -/
theorem serveOne_of_whole {frame : Frame decode} {calls : Nat}
    (short : frame.lengthField.length ≤ 4)
    (whole : frame.body.length ≤ max 1 (sizes (frame.bodyCall calls)))
    (rest : List UInt8) :
    serveOne magick decode sizes
        { pending := magick ::
            (frame.lengthField ++ (frame.body ++ rest)), calls := calls } =
      some (.request frame.request,
        { pending := rest, calls := frame.bodyCall calls + 1 }) := by
  have buffer : frame.bufferRead sizes calls = frame.body := by
    rw [Frame.bufferRead, bodyRead_of_whole sizes whole, List.take_length,
      Nat.sub_self, List.replicate_zero, List.append_nil]
  rw [serveOne_of_short magick sizes frame short, buffer,
    bodyRead_of_whole sizes whole, List.drop_length, List.nil_append,
    receivedOf, frame.bodyDecodes]

end Round

/-! ## Whole streams -/

section Streams

variable (magick : UInt8) {decode : List UInt8 → Option Request}
variable (sizes : Nat → Nat)

private theorem serveRounds_of_wholeBodies (frames : List (Frame decode)) :
    ∀ calls rounds,
      WholeBodies sizes calls frames →
      (Frame.stream magick frames).length ≤ rounds →
        serveRounds magick decode sizes rounds
            { pending := Frame.stream magick frames, calls := calls } =
          Frame.requests frames := by
  induction frames with
  | nil =>
      intro calls rounds _ _
      cases rounds with
      | zero => rfl
      | succ rounds => rfl
  | cons frame frames inductionHypothesis =>
      rintro calls rounds ⟨short, whole, others⟩ enough
      rw [Frame.stream_cons] at enough ⊢
      simp only [List.length_cons, List.length_append] at enough
      cases rounds with
      | zero => omega
      | succ rounds =>
          rw [serveRounds, serveOne_of_whole magick sizes short whole]
          exact congrArg _ (inductionHypothesis _ rounds others (by omega))

/-- A short body read is noticed in the same round or in the next one. -/
theorem shortReadUnnoticed_of_requests {frame : Frame decode}
    {rest : List UInt8} {calls rounds : Nat} {later : List Request}
    (cut : max 1 (sizes (frame.bodyCall calls)) < frame.body.length)
    (decoded : receivedOf decode (frame.bufferRead sizes calls) =
      .request frame.request)
    (served : serveRounds magick decode sizes (rounds + 1)
        { pending := frame.body.drop (frame.bodyRead sizes calls) ++ rest,
          calls := frame.bodyCall calls + 1 } =
      later.map Received.request) :
    decode (frame.bufferRead sizes calls) = some frame.request ∧
      (frame.body.drop (frame.bodyRead sizes calls)).head? = some magick := by
  constructor
  · rw [receivedOf] at decoded
    cases result : decode (frame.bufferRead sizes calls) with
    | none => simp [result] at decoded
    | some request =>
        rw [result] at decoded
        injection decoded with equality
        rw [equality]
  · have left := bodyRead_of_short sizes cut
    cases remaining : frame.body.drop (frame.bodyRead sizes calls) with
    | nil =>
        have lengths := congrArg List.length remaining
        rw [List.length_drop, List.length_nil] at lengths
        omega
    | cons byte remaining' =>
        by_cases same : byte = magick
        · rw [same]
          rfl
        · rw [remaining, List.cons_append, serveRounds,
            serveOne_of_other magick sizes same] at served
          cases later with
          | nil => cases served
          | cons request later => cases served

private theorem wholeBodies_of_serveRounds (frames : List (Frame decode)) :
    ∀ calls rounds,
      (Frame.stream magick frames).length ≤ rounds →
      serveRounds magick decode sizes rounds
          { pending := Frame.stream magick frames, calls := calls } =
        Frame.requests frames →
      WholeBodies sizes calls frames ∨
        ShortReadUnnoticed magick sizes calls frames := by
  induction frames with
  | nil =>
      intro calls rounds _ _
      exact Or.inl trivial
  | cons frame frames inductionHypothesis =>
      intro calls rounds enough served
      rw [Frame.stream_cons] at enough served
      simp only [List.length_cons, List.length_append] at enough
      have positive := frame.lengthBounds.1
      obtain ⟨rounds, rfl⟩ : ∃ fewer, rounds = fewer + 1 + 1 :=
        ⟨rounds - 2, by omega⟩
      rw [serveRounds] at served
      rcases Nat.lt_or_ge 4 frame.lengthField.length with long | short
      · rw [serveOne_of_long magick sizes frame long] at served
        cases served
      · rcases Nat.lt_or_ge (max 1 (sizes (frame.bodyCall calls)))
          frame.body.length with cut | whole
        · have later : Frame.requests frames =
              (frames.map Frame.request).map Received.request := by
            rw [List.map_map]
            rfl
          rw [serveOne_of_short magick sizes frame short] at served
          injection served with decoded others
          have unnoticed := shortReadUnnoticed_of_requests magick sizes cut
            decoded (others.trans later)
          exact Or.inr ⟨short, Or.inl ⟨cut, unnoticed⟩⟩
        · rw [serveOne_of_whole magick sizes short whole] at served
          injection served with _ others
          rcases inductionHypothesis _ (rounds + 1) (by omega) others with
            rest | unnoticed
          · exact Or.inl ⟨short, whole, rest⟩
          · exact Or.inr ⟨short, Or.inr ⟨whole, unnoticed⟩⟩

/-- The requests of a stream of well-formed frames are delivered, in order and
without an error, when every body is returned whole by the one call made for
it.  Conversely they are delivered only then, or when the first body that is
not returned whole goes unnoticed. -/
theorem requests_delivered_of_whole_bodies (frames : List (Frame decode)) :
    (WholeBodies sizes 0 frames →
      protobufServer magick decode sizes (Frame.stream magick frames) =
        Frame.requests frames) ∧
    (protobufServer magick decode sizes (Frame.stream magick frames) =
        Frame.requests frames →
      WholeBodies sizes 0 frames ∨
        ShortReadUnnoticed magick sizes 0 frames) := by
  constructor
  · intro whole
    exact serveRounds_of_wholeBodies magick sizes frames 0 _ whole
      (Nat.le_refl _)
  · intro delivered
    exact wholeBodies_of_serveRounds magick sizes frames 0 _ (Nat.le_refl _)
      delivered

end Streams

/-! ## A body returned in two pieces -/

/-- A message of varint fields whose keys and values take one byte each; the
field number zero is refused. -/
def varintFields : List UInt8 → Option (List (UInt8 × UInt8))
  | [] => some []
  | [_] => none
  | key :: value :: rest =>
      if key < 8 then none
      else (varintFields rest).map (fun fields => (key, value) :: fields)

def sampleFrame : Frame varintFields where
  lengthField := [4]
  body := [8, 5, 16, 7]
  request := [(8, 5), (16, 7)]
  isVarint := by simp [Varint.IsVarint]
  lengthDecodes := by decide
  lengthBounds := by decide
  bodyDecodes := by decide

/-- When two bytes of the body arrive before the other two, the request is
lost and the rest of its body is read as two messages. -/
theorem request_lost_by_short_read :
    protobufServer 9 varintFields (fun _ => 2) (Frame.stream 9 [sampleFrame]) =
      [.error .invalidBody, .error (.invalidMagick 16),
        .error (.invalidMagick 7)] ∧
    protobufServer 9 varintFields (fun _ => 2) (Frame.stream 9 [sampleFrame]) ≠
      Frame.requests [sampleFrame] := by
  decide

end SelfWriter.Protobuf
