import BelleSip.Channel.Message
import BelleSip.Sip.Message

/-
This file proves when the Content-Length header of a message tells the size of the body that follows it.
-/

namespace BelleSip

/-- A body handler announces a size; the content that it supplies may end before that size. -/
structure SizedHandler extends BodyHandler where
  expectedSize : Nat
  within : content.length ≤ expectedSize

namespace SizedHandler

/-- This is `belle_sip_body_handler_send_chunk`, which limits the room to what is expected. -/
def sendChunk (handler : SizedHandler) (transfered room : Nat) : List Byte × Nat × Progress :=
  handler.toBodyHandler.sendChunk transfered (min room (handler.expectedSize - transfered))

/-- The loops of `_send_message` over a body; the room depends on what is already transfered. -/
def supply (handler : SizedHandler) (room : Nat → Nat) : Nat → Nat → List Byte
  | 0, _ => []
  | fuel + 1, transfered =>
      let (chunk, transfered, progress) := handler.sendChunk transfered (room transfered)
      match progress with
      | .continues => chunk ++ supply handler room fuel transfered
      | .stop => chunk

/-- The loops supply all the content when they always offer room. -/
theorem supply_eq (handler : SizedHandler) (room : Nat → Nat)
    (roomy : ∀ transfered < handler.content.length, 0 < room transfered) (fuel transfered : Nat)
    (inside : transfered ≤ handler.content.length) (enough : handler.content.length - transfered < fuel) :
    handler.supply room fuel transfered = handler.content.drop transfered := by
  induction fuel generalizing transfered with
  | zero => omega
  | succ fuel ih =>
      have within := handler.within
      rw [supply]
      simp only [sendChunk, BodyHandler.sendChunk]
      have joined := handler.chunkAt_append transfered
        (min (room transfered) (handler.expectedSize - transfered))
      have bounded := handler.piece_le transfered
        (min (room transfered) (handler.expectedSize - transfered))
      rw [← handler.chunkAt_length] at bounded
      by_cases ended : transfered + (handler.chunkAt transfered
          (min (room transfered) (handler.expectedSize - transfered))).length = handler.getSize
      · rw [ended, show handler.content.drop handler.getSize = [] by simp [BodyHandler.getSize],
          List.append_nil] at joined
        simp only [ended, if_true]
        exact joined
      · have open_end : transfered < handler.content.length := by
          apply Nat.lt_of_le_of_ne inside
          intro whole
          apply ended
          unfold BodyHandler.getSize
          omega
        have positive := handler.piece_pos transfered
          (min (room transfered) (handler.expectedSize - transfered)) open_end (by
            have offered := roomy transfered open_end
            omega)
        rw [← handler.chunkAt_length] at positive
        simp only [ended, if_false]
        rw [ih _ (by omega) (by omega)]
        exact joined

end SizedHandler

/-- A message that is handed to a channel.

The function `headerSize` gives the size of the marshalled header section from its Content-Length
headers. -/
structure OutgoingMessage where
  contentLengths : List UInt32 := []
  body : Option SizedHandler := none
  headerSize : List UInt32 → Nat

/-- The users of channels, the first one with the name of its transport. -/
inductive Path where
  | sip (transport : String)
  | http
deriving DecidableEq, Repr

/-- The transport keeps no message boundaries. -/
def Path.stream : Path → Bool
  | .sip transport => strcasecmp transport "TCP" || strcasecmp transport "TLS"
  | .http => true

/-- What a channel emits for a message: the texts of its Content-Length headers, which are written with
`%i`, and the bytes of its body. -/
structure EmittedMessage where
  contentLengths : List Int
  body : List Byte

def printed (value : UInt32) : Int := value.toInt32.toInt

namespace OutgoingMessage

/-- This is `belle_sip_message_get_body_size`. -/
def getBodySize (message : OutgoingMessage) : Nat :=
  match message.body with
  | none => 0
  | some handler => handler.expectedSize

/-- This is `fix_request` of the HTTP provider. -/
def fixRequest (message : OutgoingMessage) : OutgoingMessage :=
  let size := UInt32.ofNat message.getBodySize
  if 0 < size ∧ message.contentLengths = [] then { message with contentLengths := [size] } else message

/-- This is the part of `channel_on_sending` of the SIP provider on the Content-Length. -/
def channelOnSending (transport : String) (message : OutgoingMessage) : OutgoingMessage :=
  if message.contentLengths = [] ∧ strcasecmp "udp" transport = false then
    { message with contentLengths := [0] }
  else message

/-- This is `belle_sip_header_content_length_set_content_length` on the first header. -/
def setContentLength (message : OutgoingMessage) (value : UInt32) : OutgoingMessage :=
  { message with contentLengths := value :: message.contentLengths.tail }

/-- This is `check_content_length`; where it fixes the header it writes the value read from it. -/
def checkContentLength (message : OutgoingMessage) (bodyLen : Nat) : OutgoingMessage :=
  match message.contentLengths with
  | [] => if bodyLen ≠ 0 then { message with contentLengths := [UInt32.ofNat bodyLen] } else message
  | value :: _ =>
      if bodyLen ≠ 0 ∧ value ≠ UInt32.ofNat bodyLen then message.setContentLength value else message

/-- The provider and the channel complete the header section of a message. -/
def prepare (path : Path) (message : OutgoingMessage) : OutgoingMessage :=
  let noticed := match path with
    | .sip transport => message.channelOnSending transport
    | .http => message.fixRequest
  noticed.checkContentLength message.getBodySize

/-- The body bytes of `_send_message`, which puts a small body behind the header section and sends a
large one in chunks. -/
def bodyBytes (handler : SizedHandler) (len : Nat) : List Byte :=
  if handler.expectedSize ≤ maxChunk - len then
    handler.supply (fun transfered => maxChunk - len - transfered) (handler.content.length + 1) 0
  else handler.supply (fun _ => maxChunk) (handler.content.length + 1) 0

/-- What `_send_message` hands to the transport; nothing when the header section does not fit and when
a body of unknown size aborts the process. -/
def emit (path : Path) (message : OutgoingMessage) : Option EmittedMessage :=
  let prepared := message.prepare path
  let len := message.headerSize prepared.contentLengths
  if maxChunk ≤ len then none
  else
    match message.body with
    | none => some ⟨prepared.contentLengths.map printed, []⟩
    | some handler =>
        if handler.expectedSize = 0 then none
        else some ⟨prepared.contentLengths.map printed, bodyBytes handler len⟩

/-- The number of body bytes that the handler of a message supplies. -/
def supplied (message : OutgoingMessage) : Nat :=
  match message.body with
  | none => 0
  | some handler => handler.content.length

/-- The announced size of the body, written as a header, is the number of bytes supplied. -/
def Announced (message : OutgoingMessage) : Prop :=
  printed (UInt32.ofNat message.getBodySize) = message.supplied

/-- The Content-Length headers that the application gives are right, and where it gives none the code
adds the right one. -/
def Measured (message : OutgoingMessage) (path : Path) : Prop :=
  match message.contentLengths, path with
  | [], .sip transport =>
      if strcasecmp "udp" transport then message.Announced else message.supplied = 0
  | [], .http => message.Announced
  | given, _ => ∀ value ∈ given, printed value = message.supplied

end OutgoingMessage

/-- The Content-Length tells the size of the body, and a stream never carries a body without it. -/
structure EmittedMessage.Consistent (emission : EmittedMessage) (path : Path) : Prop where
  told : ∀ value ∈ emission.contentLengths, value = emission.body.length
  present : path.stream → emission.body ≠ [] → emission.contentLengths ≠ []

namespace OutgoingMessage

theorem bodyBytes_eq (handler : SizedHandler) {len : Nat} (short : len < maxChunk) :
    bodyBytes handler len = handler.content := by
  have within := handler.within
  unfold bodyBytes
  split
  · next fits =>
      rw [handler.supply_eq _ _ _ _ (Nat.zero_le _) (by omega), List.drop_zero]
      intro transfered inside
      omega
  · rw [handler.supply_eq _ _ _ _ (Nat.zero_le _) (by omega), List.drop_zero]
    intro transfered inside
    decide

/-- An emission has the prepared headers and the supplied content, and a body has a size. -/
theorem emit_spec {path : Path} {message : OutgoingMessage} {emission : EmittedMessage}
    (emitted : message.emit path = some emission) :
    emission.contentLengths = (message.prepare path).contentLengths.map printed ∧
      emission.body.length = message.supplied ∧
        (message.getBodySize = 0 → message.supplied = 0) := by
  have short : ¬maxChunk ≤ message.headerSize (message.prepare path).contentLengths := by
    intro long
    rw [emit, if_pos long] at emitted
    cases emitted
  rw [emit, if_neg short] at emitted
  unfold supplied getBodySize
  cases bodyEq : message.body with
  | none =>
      rw [bodyEq] at emitted
      cases emitted
      exact ⟨rfl, rfl, fun _ => rfl⟩
  | some handler =>
      rw [bodyEq] at emitted
      dsimp only at emitted
      by_cases unsized : handler.expectedSize = 0
      · rw [if_pos unsized] at emitted
        cases emitted
      · rw [if_neg unsized] at emitted
        cases emitted
        refine ⟨rfl, ?_, fun zero => absurd zero unsized⟩
        rw [bodyBytes_eq handler (Nat.not_le.mp short)]

/-- Headers that the application gives reach the wire as they are. -/
theorem prepare_given {path : Path} {message : OutgoingMessage} {value : UInt32} {rest : List UInt32}
    (given : message.contentLengths = value :: rest) :
    (message.prepare path).contentLengths = value :: rest := by
  have noticed : (match path with
      | .sip transport => message.channelOnSending transport
      | .http => message.fixRequest) = message := by
    cases path <;> simp [channelOnSending, fixRequest, given]
  unfold prepare
  rw [noticed, checkContentLength, given]
  dsimp only
  split <;> simp [setContentLength, given]

theorem prepare_datagram {transport : String} {message : OutgoingMessage}
    (none : message.contentLengths = []) (datagram : strcasecmp "udp" transport = true) :
    (message.prepare (.sip transport)).contentLengths =
      if message.getBodySize = 0 then [] else [UInt32.ofNat message.getBodySize] := by
  unfold prepare
  simp only [channelOnSending, none, datagram, Bool.true_eq_false, and_false, if_false, checkContentLength]
  by_cases unsized : message.getBodySize = 0
  · simp [unsized, none]
  · simp [unsized]

theorem prepare_sip {transport : String} {message : OutgoingMessage}
    (none : message.contentLengths = []) (other : strcasecmp "udp" transport = false) :
    (message.prepare (.sip transport)).contentLengths = [0] := by
  unfold prepare
  simp only [channelOnSending, none, other, and_self, if_true, checkContentLength]
  split <;> rfl

theorem prepare_http {message : OutgoingMessage} (none : message.contentLengths = []) :
    (message.prepare .http).contentLengths =
      if message.getBodySize = 0 then [] else [UInt32.ofNat message.getBodySize] := by
  unfold prepare
  dsimp only [fixRequest]
  by_cases unsized : message.getBodySize = 0
  · simp [unsized, none, checkContentLength]
  · by_cases truncated : 0 < UInt32.ofNat message.getBodySize
    · simp [none, truncated, checkContentLength, unsized]
    · simp [none, truncated, checkContentLength, unsized]

/-- A header that the code adds is right exactly when the announced size is. -/
theorem consistent_added {path : Path} {message : OutgoingMessage} {emission : EmittedMessage}
    (emitted : message.emit path = some emission)
    (added : (message.prepare path).contentLengths =
      if message.getBodySize = 0 then [] else [UInt32.ofNat message.getBodySize]) :
    emission.Consistent path ↔ message.Announced := by
  obtain ⟨lengths, size, unsized⟩ := emit_spec emitted
  rw [added] at lengths
  by_cases zero : message.getBodySize = 0
  · rw [if_pos zero] at lengths
    have nothing : emission.body = [] := List.eq_nil_of_length_eq_zero (size.trans (unsized zero))
    have announced : message.Announced := by
      rw [Announced, zero, unsized zero]
      rfl
    exact iff_of_true ⟨by simp [lengths], by simp [nothing]⟩ announced
  · rw [if_neg zero] at lengths
    constructor
    · intro consistent
      have told := consistent.told _ (by rw [lengths]; exact List.mem_cons_self)
      rw [size] at told
      exact told
    · intro announced
      refine ⟨?_, by simp [lengths]⟩
      intro value among
      rw [lengths] at among
      rw [List.mem_singleton.mp among, size]
      exact announced

/-- The Content-Length of an emitted message is consistent exactly when the headers given by the
application are right, or when it gives none and the code adds the right one. -/
theorem emit_consistent_iff (path : Path) (message : OutgoingMessage) (emission : EmittedMessage)
    (emitted : message.emit path = some emission) :
    emission.Consistent path ↔ message.Measured path := by
  obtain ⟨lengths, size, _⟩ := emit_spec emitted
  unfold Measured
  cases given : message.contentLengths with
  | cons value rest =>
      rw [prepare_given given] at lengths
      dsimp only
      constructor
      · intro consistent written among
        rw [← size]
        apply consistent.told
        rw [lengths]
        exact List.mem_map_of_mem among
      · intro right
        refine ⟨?_, by simp [lengths]⟩
        rw [lengths]
        intro text among
        obtain ⟨written, listed, rfl⟩ := List.mem_map.mp among
        rw [size]
        exact right written listed
  | nil =>
      cases path with
      | http => exact consistent_added emitted (prepare_http given)
      | sip transport =>
          dsimp only
          cases datagram : strcasecmp "udp" transport with
          | true => exact consistent_added emitted (prepare_datagram given datagram)
          | false =>
              rw [prepare_sip given datagram] at lengths
              rw [if_neg (by decide)]
              have zero : printed 0 = 0 := by decide
              constructor
              · intro consistent
                have told := consistent.told _ (by rw [lengths]; exact List.mem_cons_self)
                rw [size, zero] at told
                exact_mod_cast told.symm
              · intro nothing
                refine ⟨?_, by simp [lengths]⟩
                intro value among
                rw [lengths] at among
                rw [List.mem_singleton.mp among, size, nothing]
                exact zero

/-- A message with the body `hello` and without Content-Length. -/
def helloMessage : OutgoingMessage where
  body := some { BodyHandler.memory [104, 101, 108, 108, 111] with expectedSize := 5, within := by decide }
  headerSize _ := 400

theorem emit_consistent_iff_hello :
    EmittedMessage.Consistent ⟨[5], [104, 101, 108, 108, 111]⟩ (.sip "UDP") ↔ helloMessage.Measured (.sip "UDP") :=
  emit_consistent_iff (.sip "UDP") helloMessage _ rfl

/-- Over TCP the provider announces no body, and the check of the channel does not mend it. -/
theorem emit_hello_inconsistent :
    helloMessage.emit (.sip "TCP") = some ⟨[0], [104, 101, 108, 108, 111]⟩ ∧
      ¬EmittedMessage.Consistent ⟨[0], [104, 101, 108, 108, 111]⟩ (.sip "TCP") := by
  refine ⟨rfl, ?_⟩
  intro consistent
  exact absurd (consistent.told 0 List.mem_cons_self) (by decide)

end OutgoingMessage

end BelleSip
