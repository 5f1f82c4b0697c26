import Mathlib.Data.Countable.Basic
import Mathlib.Logic.Equiv.List
import Mathlib.Data.List.DropRight
import LoongClaw.Foundation.Machine

namespace LoongClaw.Protocol

open Foundation

/-!
# Transports of frames

A channel hands frames over as they are.  The line transport writes each frame
as one line of text and reads lines, of which it skips the empty ones.  Texts
are characters; the encoding of frames is that of a library, of which only the
laws below are used.  Payloads are values of any type.
-/

def protocolVersion : UInt32 := 1

structure InboundFrame (Value : Type) where
  method : String
  id : Option String
  payload : Value
  version : UInt32
  deriving DecidableEq

structure OutboundFrame (Value : Type) where
  method : String
  id : Option String
  payload : Value
  version : UInt32

/-- The frame as its receiver sees it. -/
def OutboundFrame.inbound {Value : Type} (frame : OutboundFrame Value) : InboundFrame Value where
  method := frame.method
  id := frame.id
  payload := frame.payload
  version := frame.version

inductive TransportError where
  | closed
  | failure (detail : String)
  | protocol (detail : String)
  deriving DecidableEq

inductive TransportBuildError where
  | invalidCapacity (capacity : Nat)

/-! ## Channels -/

/-- One direction of a linked pair: the frames in transit, and whether the two
ends are still there. -/
structure ChannelTransport (Value : Type) where
  capacity : Nat
  queue : List (InboundFrame Value)
  (senderOpen receiverAlive : Bool)

namespace ChannelTransport

variable {Value : Type}

def linked (capacity : Nat) : Except TransportBuildError (ChannelTransport Value) :=
  if capacity = 0 then .error (.invalidCapacity capacity)
  else .ok { capacity := capacity, queue := [], senderOpen := true, receiverAlive := true }

/-- `none` while the sender waits for room. -/
def send (frame : OutboundFrame Value) (channel : ChannelTransport Value) :
    Option (Except TransportError Unit × ChannelTransport Value) :=
  if channel.senderOpen = false \/ channel.receiverAlive = false then
    some (.error .closed, channel)
  else if channel.capacity <= channel.queue.length then none
  else some (.ok (), { channel with queue := channel.queue ++ [frame.inbound] })

/-- `none` while the receiver waits for a frame. -/
def recv (channel : ChannelTransport Value) :
    Option (Except TransportError (Option (InboundFrame Value)) × ChannelTransport Value) :=
  match channel.queue with
  | frame :: rest => some (.ok (some frame), { channel with queue := rest })
  | [] => if channel.senderOpen then none else some (.ok none, channel)

def close (channel : ChannelTransport Value) : ChannelTransport Value :=
  { channel with senderOpen := false }

/-- The results of calls of `recv`, one after another. -/
def recvMany : Nat -> ChannelTransport Value ->
    Option (List (Except TransportError (Option (InboundFrame Value))))
  | 0, _ => some []
  | count + 1, channel => do
    let (received, rest) <- channel.recv
    let later <- recvMany count rest
    return received :: later

/-- What the receiver gets when the frames are sent and then received. -/
def exchange (frames : List (OutboundFrame Value)) (channel : ChannelTransport Value) :
    Option (List (Except TransportError (Option (InboundFrame Value)))) := do
  let sent <- frames.foldlM (fun channel frame => (channel.send frame).map Prod.snd) channel
  sent.recvMany frames.length

variable {frames : List (OutboundFrame Value)}

/-- Sending up to the capacity queues the frames in order. -/
theorem send_all :
    ∀ channel : ChannelTransport Value, channel.senderOpen = true -> channel.receiverAlive = true ->
      channel.queue.length + frames.length <= channel.capacity ->
      frames.foldlM (fun channel frame => (channel.send frame).map Prod.snd) channel =
        some { channel with queue := channel.queue ++ frames.map OutboundFrame.inbound } := by
  induction frames with
  | nil =>
    intro channel _ _ _
    simp
  | cons frame frames ih =>
    intro channel opened alive room
    have roomHere : ¬ channel.capacity <= channel.queue.length := by
      rw [List.length_cons] at room
      omega
    have sent : (channel.send frame).map Prod.snd =
        some { channel with queue := channel.queue ++ [frame.inbound] } := by
      simp [send, opened, alive, roomHere]
    have roomThere : (channel.queue ++ [frame.inbound]).length + frames.length <=
        channel.capacity := by
      rw [List.length_append, List.length_singleton]
      rw [List.length_cons] at room
      omega
    have later := ih { channel with queue := channel.queue ++ [frame.inbound] }
      opened alive roomThere
    rw [List.foldlM_cons, sent, Option.bind_eq_bind, Option.bind_some, later]
    simp

theorem recvMany_queue {frames : List (InboundFrame Value)} :
    ∀ channel : ChannelTransport Value, channel.queue = frames ->
      channel.recvMany frames.length = some (frames.map fun frame => .ok (some frame)) := by
  induction frames with
  | nil =>
    intro channel _
    rfl
  | cons frame frames ih =>
    intro channel queued
    have received : channel.recv = some (.ok (some frame), { channel with queue := frames }) := by
      simp [recv, queued]
    have later := ih { channel with queue := frames } rfl
    simp [recvMany, received, later]

/-- A channel hands over every frame, whatever its version. -/
theorem exchange_linked {capacity : Nat} {channel : ChannelTransport Value}
    (built : linked capacity = .ok channel)
    (room : frames.length <= capacity) :
    channel.exchange frames = some (frames.map fun frame => .ok (some frame.inbound)) := by
  unfold linked at built
  split at built
  · cases built
  cases built
  unfold exchange
  rw [send_all _ rfl rfl (by simpa using room), Option.bind_eq_bind, Option.bind_some]
  have received := recvMany_queue
    { capacity := capacity, queue := frames.map OutboundFrame.inbound,
      senderOpen := true, receiverAlive := true } rfl
  simpa [Function.comp_def] using received

end ChannelTransport

open ChannelTransport

/-! ## Lines -/

/-- The library that writes and reads frames as text. -/
structure FrameCodec (Value : Type) where
  encode : OutboundFrame Value -> List Char
  decode : List Char -> Except String (InboundFrame Value)
  decode_encode : ∀ frame, decode (encode frame) = .ok frame.inbound
  oneLine : ∀ frame, '\n' ∉ encode frame
  closing : ∀ frame, (encode frame).getLast? = some '}'

/-- A writer: what it has written, and whether it was closed. -/
structure JsonLineWriter where
  written : List Char
  closed : Bool

def JsonLineWriter.new : JsonLineWriter where
  written := []
  closed := false

namespace JsonLineTransport

variable {Value : Type} (codec : FrameCodec Value)

def send (frame : OutboundFrame Value) (writer : JsonLineWriter) :
    Except TransportError Unit × JsonLineWriter :=
  if writer.closed then (.error .closed, writer)
  else (.ok (), { writer with written := writer.written ++ (codec.encode frame ++ ['\n']) })

def close (writer : JsonLineWriter) : JsonLineWriter :=
  { writer with closed := true }

/-- The text up to and with the first newline, and the rest. -/
def readLine (unread : List Char) : List Char × List Char :=
  match unread.dropWhile (· ≠ '\n') with
  | [] => (unread, [])
  | newline :: rest => (unread.takeWhile (· ≠ '\n') ++ [newline], rest)

theorem readLine_append (unread : List Char) :
    (readLine unread).1 ++ (readLine unread).2 = unread := by
  have whole := List.takeWhile_append_dropWhile (p := (· ≠ '\n')) (l := unread)
  unfold readLine
  split
  case h_1 => exact List.append_nil unread
  case h_2 newline rest found =>
    rw [found] at whole
    rw [List.append_assoc]
    exact whole

variable {unread : List Char}

theorem readLine_ne_nil (nonempty : unread ≠ []) : (readLine unread).1 ≠ [] := by
  unfold readLine
  split
  case h_1 => exact nonempty
  case h_2 newline rest found => simp

theorem readLine_rest_lt (nonempty : unread ≠ []) : (readLine unread).2.length < unread.length := by
  have whole := congrArg List.length (readLine_append unread)
  have line := List.length_pos_iff.mpr (readLine_ne_nil nonempty)
  rw [List.length_append] at whole
  omega

def isLineEnd (c : Char) : Bool :=
  c == '\n' || c == '\r'

def trimLineEnd (line : List Char) : List Char :=
  line.rdropWhile isLineEnd

/-- What `recv` makes of a frame that was decoded. -/
def accept (frame : InboundFrame Value) : Except TransportError (Option (InboundFrame Value)) :=
  if protocolVersion < frame.version then
    .error (.protocol ("unsupported frame version " ++ toString frame.version ++
      " (max supported: " ++ toString protocolVersion ++ ")"))
  else .ok (some frame)

/-- Read lines up to the first that is not empty. -/
def recv (unread : List Char) : Except TransportError (Option (InboundFrame Value)) × List Char :=
  if unread = [] then (.ok none, [])
  else
    let line := trimLineEnd (readLine unread).1
    let rest := (readLine unread).2
    if line = [] then recv rest
    else
      match codec.decode line with
      | .error error => (.error (.failure ("failed to decode inbound frame: " ++ error)), rest)
      | .ok frame => (accept frame, rest)
termination_by unread.length
decreasing_by exact readLine_rest_lt ‹unread ≠ []›

/-- The results of calls of `recv`, one after another. -/
def recvMany : Nat -> List Char -> List (Except TransportError (Option (InboundFrame Value)))
  | 0, _ => []
  | count + 1, unread => (recv codec unread).1 :: recvMany count (recv codec unread).2

/-- What one end writes for the frames. -/
def sendAll (frames : List (OutboundFrame Value)) : JsonLineWriter :=
  frames.foldl (fun writer frame => (send codec frame writer).2) .new

/-- What the receiver gets when the frames are sent and then received. -/
def exchange (frames : List (OutboundFrame Value)) :
    List (Except TransportError (Option (InboundFrame Value))) :=
  recvMany codec frames.length (sendAll codec frames).written

/-! ## One line -/

theorem readLine_line {text : List Char} (oneLine : '\n' ∉ text) (rest : List Char) :
    readLine (text ++ '\n' :: rest) = (text ++ ['\n'], rest) := by
  have inside : ∀ c, c ∈ text -> decide (c ≠ '\n') = true := by
    intro c listed
    simp only [decide_eq_true_eq]
    rintro rfl
    exact oneLine listed
  have after : (text ++ '\n' :: rest).dropWhile (· ≠ '\n') = '\n' :: rest := by
    rw [List.dropWhile_append_of_pos inside]
    simp
  have before : (text ++ '\n' :: rest).takeWhile (· ≠ '\n') = text := by
    rw [List.takeWhile_append_of_pos inside]
    simp
  unfold readLine
  rw [after]
  simp only [before]

theorem trimLineEnd_newline {text : List Char} :
    trimLineEnd (text ++ ['\n']) = trimLineEnd text := by
  exact List.rdropWhile_concat_pos _ _ _ rfl

variable (returns : Nat) (frames : List (OutboundFrame Value))

theorem trimLineEnd_returns : trimLineEnd (List.replicate returns '\r') = [] := by
  unfold trimLineEnd
  rw [List.rdropWhile_eq_nil_iff]
  intro c listed
  rw [List.eq_of_mem_replicate listed]
  rfl

theorem trimLineEnd_closing {text : List Char} (closing : text.getLast? = some '}') :
    trimLineEnd text = text := by
  rcases List.getLast?_eq_some_iff.mp closing with ⟨front, rfl⟩
  exact List.rdropWhile_concat_neg _ _ _ (by decide)

/-! ## Reading a stream -/

theorem accept_eq_ok_iff {frame : InboundFrame Value} :
    accept frame = .ok (some frame) ↔ frame.version <= protocolVersion := by
  unfold accept
  split
  case isTrue newer => simp [UInt32.not_le.mpr newer]
  case isFalse known => simp [UInt32.not_lt.mp known]

theorem recv_end : recv codec (List.replicate returns '\r') = (.ok none, []) := by
  rw [recv]
  split
  · rfl
  have line : readLine (List.replicate returns '\r') = (List.replicate returns '\r', []) := by
    have passed : (List.replicate returns '\r').dropWhile (· ≠ '\n') = [] := by
      rw [List.dropWhile_eq_nil_iff]
      intro c listed
      rw [List.eq_of_mem_replicate listed]
      rfl
    unfold readLine
    rw [passed]
  simp only [line, trimLineEnd_returns, if_true]
  rw [recv]
  simp

variable {rest : List Char}

theorem recv_blank :
    recv codec (List.replicate returns '\r' ++ '\n' :: rest) = recv codec rest := by
  have oneLine : '\n' ∉ List.replicate returns '\r' := by
    intro listed
    exact absurd (List.eq_of_mem_replicate listed) (by decide)
  conv_lhs => rw [recv]
  rw [if_neg (by simp)]
  simp only [readLine_line oneLine, trimLineEnd_newline, trimLineEnd_returns, if_true]

theorem recv_frame {frame : OutboundFrame Value} :
    recv codec (codec.encode frame ++ '\n' :: rest) = (accept frame.inbound, rest) := by
  have closing := codec.closing frame
  have nonempty : codec.encode frame ≠ [] := by
    intro empty
    rw [empty] at closing
    cases closing
  rw [recv, if_neg (by simp)]
  simp only [readLine_line (codec.oneLine frame), trimLineEnd_newline,
    trimLineEnd_closing closing, if_neg nonempty, codec.decode_encode]

/-- A line of a stream: a frame, or a line that is empty but for carriage
returns. -/
inductive StreamLine (Value : Type) where
  | blank (returns : Nat)
  | frame (sent : OutboundFrame Value)

def StreamLine.text : StreamLine Value -> List Char
  | .blank returns => List.replicate returns '\r' ++ ['\n']
  | .frame sent => codec.encode sent ++ ['\n']

def StreamLine.sent? : StreamLine Value -> Option (OutboundFrame Value)
  | .blank _ => none
  | .frame sent => some sent

variable (lines : List (StreamLine Value))

/-- The frames of a stream. -/
def framesOf : List (OutboundFrame Value) :=
  lines.filterMap StreamLine.sent?

/-- The text of a stream; a last line may lack its newline. -/
def streamText (returns : Nat) : List Char :=
  lines.flatMap (StreamLine.text codec) ++ List.replicate returns '\r'

theorem recvMany_end {extra : Nat} : recvMany codec extra (List.replicate returns '\r') =
      List.replicate extra (.ok none) := by
  induction extra generalizing returns with
  | zero => rfl
  | succ extra ih =>
    rw [recvMany, recv_end, List.replicate_succ]
    exact congrArg _ (ih 0)

/-- The first call skips the blank lines before a frame. -/
theorem recvMany_blank {count : Nat} :
    recvMany codec count (List.replicate returns '\r' ++ '\n' :: rest) =
      recvMany codec count rest := by
  cases count with
  | zero => rfl
  | succ count => rw [recvMany, recvMany, recv_blank]

/-- The receiver gets the frames of the stream in order, each as its version
allows, and then the end of the stream. -/
theorem recvMany_streamText (returns extra : Nat) :
    recvMany codec ((framesOf lines).length + extra) (streamText codec lines returns) =
      (framesOf lines).map (fun frame => accept frame.inbound) ++
        List.replicate extra (.ok none) := by
  induction lines with
  | nil => simpa [framesOf, streamText] using recvMany_end codec returns
  | cons line lines ih =>
    cases line with
    | blank skipped =>
      have text : streamText codec (.blank skipped :: lines) returns =
          List.replicate skipped '\r' ++ '\n' :: streamText codec lines returns := by
        simp [streamText, StreamLine.text]
      rw [text, recvMany_blank]
      exact ih
    | frame sent =>
      have text : streamText codec (.frame sent :: lines) returns =
          codec.encode sent ++ '\n' :: streamText codec lines returns := by
        simp [streamText, StreamLine.text]
      have frames : framesOf (.frame sent :: lines) = sent :: framesOf lines := by
        simp [framesOf, StreamLine.sent?]
      rw [text, frames, List.length_cons, Nat.add_right_comm, recvMany, recv_frame, ih,
        List.map_cons, List.cons_append]

/-- One end writes the stream of its frames without blank lines. -/
theorem sendAll_written :
    (sendAll codec frames).written = streamText codec (frames.map .frame) 0 := by
  have appended : ∀ writer : JsonLineWriter, writer.closed = false ->
      (frames.foldl (fun writer frame => (send codec frame writer).2) writer).written =
        writer.written ++ streamText codec (frames.map .frame) 0 := by
    induction frames with
    | nil =>
      intro writer _
      simp [streamText]
    | cons frame frames ih =>
      intro writer opened
      have sent : (send codec frame writer).2 =
          { writer with written := writer.written ++ (codec.encode frame ++ ['\n']) } := by
        simp [send, opened]
      have later := ih
        { writer with written := writer.written ++ (codec.encode frame ++ ['\n']) } opened
      rw [List.foldl_cons, sent, later]
      simp [streamText, StreamLine.text]
  exact appended .new rfl

theorem framesOf_map_frame : framesOf (frames.map .frame) = frames := by
  simp [framesOf, List.filterMap_map, Function.comp_def, StreamLine.sent?]

theorem exchange_eq : exchange codec frames = frames.map fun frame => accept frame.inbound := by
  have received := recvMany_streamText codec (frames.map .frame) 0 0
  rw [framesOf_map_frame] at received
  rw [exchange, sendAll_written]
  simpa using received

theorem map_accept_eq_iff : (frames.map fun frame => accept frame.inbound) =
        (frames.map fun frame => .ok (some frame.inbound)) ↔
      ∀ frame, frame ∈ frames -> frame.version <= protocolVersion := by
  rw [List.map_inj_left]
  exact forall₂_congr fun frame _ => accept_eq_ok_iff

end JsonLineTransport

open JsonLineTransport

/-! ## Both transports -/

/-- A codec exists wherever the payloads can be numbered. -/
theorem nonempty_frameCodec {Value : Type} [Countable Value] : Nonempty (FrameCodec Value) := by
  classical
  have charCountable : Countable Char :=
    Function.Injective.countable (f := Char.toNat) fun _ _ same => Char.toNat_inj.mp same
  have stringCountable : Countable String :=
    Function.Injective.countable (f := String.toList) fun _ _ same =>
      String.toList_injective same
  have versionCountable : Countable UInt32 :=
    Function.Injective.countable (f := UInt32.toNat) fun _ _ same => UInt32.toNat_inj.mp same
  have frameCountable : Countable (OutboundFrame Value) := by
    apply Function.Injective.countable (f := fun frame : OutboundFrame Value =>
        (frame.method, frame.id, frame.payload, frame.version))
    rintro ⟨method, id, payload, version⟩ ⟨method', id', payload', version'⟩ same
    simpa using same
  rcases frameCountable.exists_injective_nat with ⟨number, injective⟩
  let encode : OutboundFrame Value -> List Char :=
    fun frame => List.replicate (number frame) '\x7b' ++ ['\x7d']
  have encode_injective : Function.Injective encode := by
    intro one other same
    apply injective
    have lengths := congrArg List.length same
    simpa [encode] using lengths
  refine ⟨{ encode := encode
            decode := fun text =>
              if read : ∃ frame, encode frame = text then .ok read.choose.inbound
              else .error "expected value"
            decode_encode := ?_
            oneLine := ?_
            closing := ?_ }⟩
  · intro frame
    have read : ∃ other, encode other = encode frame := ⟨frame, rfl⟩
    rw [dif_pos read, encode_injective read.choose_spec]
  · intro frame listed
    rcases List.mem_append.mp listed with brace | brace
    · exact absurd (List.eq_of_mem_replicate brace) (by decide)
    · exact absurd (List.mem_singleton.mp brace) (by decide)
  · intro frame
    simp [encode]

/-- The receiver of a stream of frames, with blank lines anywhere between them,
gets the frames that were sent and then the end of the stream exactly when no
frame has a newer version; and exactly then a channel hands over the same. -/
theorem transports_agree_iff {Value : Type} (codec : FrameCodec Value) :
    (∀ (lines : List (StreamLine Value)) (returns extra : Nat),
      recvMany codec ((framesOf lines).length + extra) (streamText codec lines returns) =
          (framesOf lines).map (fun frame => .ok (some frame.inbound)) ++
            List.replicate extra (.ok none) ↔
        ∀ frame, frame ∈ framesOf lines -> frame.version <= protocolVersion) /\
    (∀ frames : List (OutboundFrame Value), (sendAll codec frames).written =
        streamText codec (frames.map .frame) 0) /\
    (∀ (capacity : Nat) (channel : ChannelTransport Value) (frames : List (OutboundFrame Value)),
      linked capacity = .ok channel -> frames.length <= capacity ->
        (channel.exchange frames = some (exchange codec frames) ↔
          ∀ frame, frame ∈ frames -> frame.version <= protocolVersion)) := by
  refine ⟨?_, sendAll_written codec, ?_⟩
  · intro lines returns extra
    rw [recvMany_streamText, List.append_left_inj]
    exact map_accept_eq_iff _
  · intro capacity channel frames built room
    rw [exchange_linked built room, exchange_eq, Option.some_inj, eq_comm]
    exact map_accept_eq_iff frames

/-- A frame of the next version. -/
def newerFrame : OutboundFrame Unit where
  method := "tools/list"
  id := some "1"
  payload := ()
  version := 2

/-- The channel hands the newer frame over, the line transport refuses it. -/
theorem newer_frame_divides_transports : Nonempty (FrameCodec Unit) /\
      ∀ codec : FrameCodec Unit, exchange codec [newerFrame] =
          [.error (.protocol "unsupported frame version 2 (max supported: 1)")] /\
        (∃ channel, linked 1 = .ok channel /\
          channel.exchange [newerFrame] = some [.ok (some newerFrame.inbound)]) := by
  refine ⟨nonempty_frameCodec, ?_⟩
  intro codec
  refine ⟨?_, _, rfl, rfl⟩
  rw [exchange_eq]
  decide

end LoongClaw.Protocol
