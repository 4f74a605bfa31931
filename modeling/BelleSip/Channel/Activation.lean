import BelleSip.Channel.Sending

/-
This file states what one activation of `_send_message` does to the pending frames of a message.
-/

namespace BelleSip

open Foundation.FrameQueue

namespace Channel

/-- The frame that the last would-block has left. -/
def blockedFrames (channel : Channel) : List (List Byte) :=
  match channel.ewouldblockBuffer with
  | none => []
  | some buffer => [buffer.drop channel.ewouldblockOffset]

/-- The frames that the code will send after the blocked frame. -/
def plannedFrames (channel : Channel) (message : Message) : List (List Byte) :=
  match channel.outState, message.body with
  | .idle, _ => []
  | .sendingHeaders, _ => message.frames
  | .sendingBody, none => []
  | .sendingBody, some handler => handler.chunksFrom channel.transferedSize

/-- The frames that the code will send for the current message. -/
def pendingFrames (channel : Channel) (message : Message) : List (List Byte) :=
  channel.blockedFrames ++ channel.plannedFrames message

/-- The number of calls of `on_sending` that are still to come. -/
def plannedSendings (channel : Channel) : Nat :=
  if channel.outState = .sendingHeaders then 1 else 0

/-- The current message of a channel can be resumed. -/
structure InFlight (channel : Channel) (message : Message) : Prop where
  current : channel.curOutMessage = some message
  sendable : message.sendable
  busy : channel.outState ≠ .idle
  inside : ∀ buffer, channel.ewouldblockBuffer = some buffer → channel.ewouldblockOffset < buffer.length
  reset : channel.ewouldblockBuffer = none → channel.ewouldblockOffset = 0
  body : channel.outState = .sendingBody → ∃ handler, message.body = some handler ∧
    message.chunked = true ∧ channel.transferedSize ≤ handler.getSize

variable (transport : Nat → SendResult)

/-- The ways in which `flush` can end. -/
inductive Flush (channel : Channel) : Channel × SendOutcome → Prop where
  | sent (pieces : List (List Byte))
      (served : Served (takes transport) channel.sends channel.blockedFrames
        (channel.sends + pieces.length) [] pieces.flatten) :
      Flush channel
        ({ channel.taking pieces with ewouldblockBuffer := none, ewouldblockOffset := 0 }, .sent)
  | wouldBlock (pieces : List (List Byte)) (buffer : List Byte) (left : Nat)
      (kept : channel.ewouldblockBuffer = some buffer) (inside : left < buffer.length)
      (answer : transport (channel.sends + pieces.length) = .wouldBlock)
      (served : Served (takes transport) channel.sends channel.blockedFrames
        (channel.sends + pieces.length) [buffer.drop left] pieces.flatten) :
      Flush channel
        ({ (channel.taking pieces).refused with ewouldblockOffset := left }, .wouldBlock left)
  | failed (after : Channel) (failure : Failure transport channel after) :
      Flush channel (after, .failed)

theorem flush_flush (channel : Channel)
    (inside : ∀ buffer, channel.ewouldblockBuffer = some buffer → channel.ewouldblockOffset < buffer.length)
    (reset : channel.ewouldblockBuffer = none → channel.ewouldblockOffset = 0) :
    Flush transport channel (channel.flush transport) := by
  unfold flush
  cases kept : channel.ewouldblockBuffer with
  | none =>
      have nothing : { channel.taking [] with ewouldblockBuffer := none, ewouldblockOffset := 0 } =
          channel := by
        rw [taking_nil, ← reset kept, ← kept]
      have ended : Flush transport channel _ := Flush.sent []
        (by rw [blockedFrames, kept]; exact .refl _ _)
      rw [nothing] at ended
      exact ended
  | some buffer =>
      have loop := sendFrom_loop transport (buffer.length + 1) channel buffer channel.ewouldblockOffset
        (inside buffer kept) (by omega)
      have frame : channel.blockedFrames = [buffer.drop channel.ewouldblockOffset] := by
        rw [blockedFrames, kept]
      simp only
      generalize sendFrom transport (buffer.length + 1) channel buffer channel.ewouldblockOffset = result
        at loop
      cases loop with
      | sent pieces served =>
          have freed : (channel.taking pieces).freeEwouldblockBuffer =
              { channel.taking pieces with ewouldblockBuffer := none, ewouldblockOffset := 0 } := by
            simp [freeEwouldblockBuffer, taking, kept]
          simp only [freed]
          exact .sent pieces (by rw [frame]; exact served)
      | wouldBlock pieces left within answer served =>
          exact .wouldBlock pieces buffer left kept within answer (by rw [frame]; exact served)
      | closed pieces answer => exact .failed _ (.inl ⟨_, answer⟩)
      | error pieces answer => exact .failed _ (.inr ⟨⟨_, answer⟩, fun ready => setState_error _ ready⟩)

/-- The ways in which sending the header section of a message can end. -/
inductive Headers (channel : Channel) (message : Message) : Channel × SendOutcome → Prop where
  | sent (outState : OutputStreamState) (calls transfered : Nat) (effects : List Effect)
      (served : Served (takes transport) channel.sends [message.firstFrame] (channel.sends + calls) []
        message.firstFrame)
      (work : Work effects message.firstFrame 1)
      (disciplined : .stop ∉ (progressOf effects).dropLast)
      (moved : outState = if message.chunked then .sendingBody else channel.outState)
      (begun : message.chunked = true → transfered = 0 ∧ progressOf effects = []) :
      Headers channel message
        ({ channel.worked transfered calls effects with outState := outState }, .sent)
  | wouldBlock (outState : OutputStreamState) (calls transfered offset : Nat) (effects : List Effect)
      (bytes rest : List Byte) (some_left : rest ≠ [])
      (answer : transport (channel.sends + calls) = .wouldBlock)
      (served : Served (takes transport) channel.sends [message.firstFrame] (channel.sends + calls) [rest]
        bytes)
      (work : Work effects bytes 1)
      (moved : outState = if message.chunked then .sendingBody else channel.outState)
      (begun : message.chunked = true → transfered = 0 ∧ progressOf effects = []) :
      Headers channel message
        ({ (channel.worked transfered calls effects).refused with
            outState := outState, ewouldblockBuffer := some rest }, .wouldBlock offset)
  | failed (after : Channel) (failure : Failure transport channel after) :
      Headers channel message (after, .failed)

/-- The first frame of a message is transmitted after `on_sending` and the reads of the body. -/
theorem Headers.transmit {transport : Nat → SendResult} {channel : Channel} {message : Message}
    (transfered : Nat) (read : List Effect) (outState : OutputStreamState)
    (unblocked : channel.ewouldblockBuffer = none)
    (work : Work read [] 1) (disciplined : .stop ∉ (progressOf read).dropLast)
    (moved : outState = if message.chunked then .sendingBody else channel.outState)
    (begun : message.chunked = true → transfered = 0 ∧ progressOf read = []) :
    Headers transport channel message
      (Channel.transmit transport { channel.worked transfered 0 read with outState := outState }
        message.firstFrame) := by
  have transmission := transmit_transmission transport
    { channel.worked transfered 0 read with outState := outState } message.firstFrame
    message.firstFrame_ne unblocked
  generalize Channel.transmit transport _ message.firstFrame = result at transmission
  cases transmission with
  | sent pieces served =>
      have taken : pieces.flatten = message.firstFrame := by simpa using served.flatten_eq
      have ended : Headers transport channel message _ :=
          Headers.sent outState pieces.length transfered (read ++ pieces.map .accepted)
          (by rw [taken] at served; exact served)
        (by simpa [taken] using work.append (Work.pieces pieces)) (by simpa using disciplined) moved
        (by simpa using begun)
      have same : Channel.taking { channel.worked transfered 0 read with outState := outState } pieces =
          { channel.worked transfered pieces.length (read ++ pieces.map .accepted) with
            outState := outState } := by
        simp [worked, taking]
      rw [same]
      exact ended
  | wouldBlock pieces rest offset some_left answer served =>
      have ended : Headers transport channel message _ :=
          Headers.wouldBlock outState pieces.length transfered offset (read ++ pieces.map .accepted) pieces.flatten rest
        some_left answer served (by simpa using work.append (Work.pieces pieces)) moved
        (by simpa using begun)
      have same : { (Channel.taking { channel.worked transfered 0 read with outState := outState }
            pieces).refused with ewouldblockBuffer := some rest } =
          { (channel.worked transfered pieces.length (read ++ pieces.map .accepted)).refused with
            outState := outState, ewouldblockBuffer := some rest } := by
        simp [worked, taking, refused]
      rw [same]
      exact ended
  | failed after failure => exact .failed after failure

theorem sendHeaders_headers (channel : Channel) (message : Message) (sendable : message.sendable)
    (unblocked : channel.ewouldblockBuffer = none) :
    Headers transport channel message (channel.sendHeaders transport message) := by
  have announced : Work [.onSending message] [] 1 := ⟨rfl, rfl, by simp [Effect.releases], rfl⟩
  rw [sendHeaders]
  simp only [if_neg (Nat.not_le.mpr sendable.1)]
  cases bodyEq : message.body with
  | none =>
      have single : message.chunked = false := by simp [Message.chunked, bodyEq]
      have whole : message.firstFrame = message.headers := by
        simp [Message.firstFrame, Message.wire, Message.bodyBytes, bodyEq, single]
      have ended : Headers transport channel message _ :=
          Headers.transmit channel.transferedSize [.onSending message] channel.outState unblocked announced
          (by simp [progressOf, Effect.progress])
        (by simp [single]) (by simp [single])
      rw [whole] at ended
      exact ended
  | some handler =>
      have known : handler.getSize ≠ 0 := by
        simpa [BodyHandler.getSize] using sendable.2 handler bodyEq
      simp only [if_neg known]
      split
      next fits =>
        have single : message.chunked = false := by
          simp [Message.chunked, bodyEq]
          omega
        obtain ⟨effects, early, same, work, progress, unstopped⟩ := appendBody_spec handler handler.getSize
          { channel.emit (.onSending message) with transferedSize := 0 } message.headers
          (by simp only; omega) (by have := sendable.1; simp only; omega) (Nat.sub_le _ _)
        have whole : message.firstFrame = message.headers ++ handler.content.drop 0 := by
          simp [Message.firstFrame, Message.wire, Message.bodyBytes, bodyEq, single]
        have ended : Headers transport channel message _ :=
            Headers.transmit handler.getSize ([.onSending message] ++ effects) channel.outState unblocked
          (by simpa using announced.append work) (by
            rw [progressOf_append, progress]
            simpa [progressOf, Effect.progress] using unstopped)
          (by simp [single]) (by simp [single])
        rw [whole] at ended
        simp only [same]
        have begun : { channel.worked handler.getSize 0 ([.onSending message] ++ effects) with
            outState := channel.outState } =
              Channel.worked { channel.emit (.onSending message) with transferedSize := 0 }
                handler.getSize 0 effects := by
          simp [worked, emit]
        rw [begun] at ended
        exact ended
      next long =>
        have chunked : message.chunked = true := by
          simp [Message.chunked, bodyEq]
          omega
        have whole : message.firstFrame = message.headers := by simp [Message.firstFrame, chunked]
        have ended : Headers transport channel message _ :=
            Headers.transmit 0 [.onSending message] .sendingBody unblocked announced
            (by simp [progressOf, Effect.progress])
          (by simp [chunked]) (by simp [progressOf, Effect.progress])
        rw [whole] at ended
        exact ended

/-- The ways in which the planned frames of a message can be sent. -/
inductive Rest (channel : Channel) (message : Message) : Channel × SendOutcome → Prop where
  | sent (outState : OutputStreamState) (calls transfered : Nat) (effects : List Effect)
      (bytes : List Byte)
      (served : Served (takes transport) channel.sends (channel.plannedFrames message)
        (channel.sends + calls) [] bytes)
      (work : Work effects bytes channel.plannedSendings)
      (disciplined : .stop ∉ (progressOf effects).dropLast)
      (stopped : channel.outState = .sendingBody → progressOf effects ≠ []) :
      Rest channel message ({ channel.worked transfered calls effects with outState := outState }, .sent)
  | single (calls transfered offset : Nat) (effects : List Effect) (bytes rest : List Byte)
      (headers : channel.outState = .sendingHeaders) (single : message.chunked = false)
      (some_left : rest ≠ []) (answer : transport (channel.sends + calls) = .wouldBlock)
      (served : Served (takes transport) channel.sends (channel.plannedFrames message)
        (channel.sends + calls) [rest] bytes)
      (work : Work effects bytes 1) :
      Rest channel message
        ({ (channel.worked transfered calls effects).refused with ewouldblockBuffer := some rest },
          .wouldBlock offset)
  | body (handler : BodyHandler) (calls transfered offset : Nat) (effects : List Effect)
      (bytes rest : List Byte) (bodyEq : message.body = some handler) (chunked : message.chunked = true)
      (inside : transfered ≤ handler.getSize) (some_left : rest ≠ [])
      (answer : transport (channel.sends + calls) = .wouldBlock)
      (served : Served (takes transport) channel.sends (channel.plannedFrames message)
        (channel.sends + calls) (rest :: handler.chunksFrom transfered) bytes)
      (work : Work effects bytes channel.plannedSendings)
      (disciplined : .stop ∉ (progressOf effects).dropLast)
      (stopped : .stop ∈ progressOf effects ↔ transfered = handler.getSize) :
      Rest channel message
        ({ (channel.worked transfered calls effects).refused with
            outState := .sendingBody, ewouldblockBuffer := some rest }, .wouldBlock offset)
  | failed (after : Channel) (failure : Failure transport channel after) :
      Rest channel message (after, .failed)

theorem stop_last {early : List Progress} {last : Progress} (unstopped : .stop ∉ early) :
    .stop ∈ early ++ [last] ↔ last = .stop := by
  simp [unstopped, eq_comm]

/-- The body of a message is resumed at the position of its handler. -/
theorem sendRest_body (channel : Channel) (message : Message) (handler : BodyHandler)
    (bodyEq : message.body = some handler) (chunked : message.chunked = true)
    (sending : channel.outState = .sendingBody) (unblocked : channel.ewouldblockBuffer = none)
    (inside : channel.transferedSize ≤ handler.getSize) :
    Rest transport channel message (channel.sendBody transport handler (handler.getSize + 1)) := by
  have planned : channel.plannedFrames message = handler.chunksFrom channel.transferedSize := by
    simp [plannedFrames, sending, bodyEq]
  have silent : channel.plannedSendings = 0 := by simp [plannedSendings, sending]
  have body := sendBody_body transport (handler.getSize + 1) channel handler unblocked inside (by omega)
  generalize sendBody transport handler (handler.getSize + 1) channel = result at body
  cases body with
  | sent calls effects bytes early served work progress unstopped =>
      exact .sent channel.outState calls handler.getSize effects bytes (by rw [planned]; exact served)
        (by rw [silent]; exact work) (by simpa [progress] using unstopped) (by simp [progress])
  | wouldBlock calls effects bytes rest transfered offset early last some_left inside answer served work
      progress unstopped stopped =>
      have ended : Rest transport channel message _ := Rest.body handler
        calls transfered offset effects bytes rest bodyEq chunked inside some_left answer
        (by rw [planned]; exact served) (by rw [silent]; exact work)
        (by simpa [progress] using unstopped) (by rw [progress, stop_last unstopped, stopped])
      rw [← sending] at ended
      exact ended
  | failed after failure => exact .failed after failure

/-- A body sent after the header section continues the activation. -/
theorem Rest.afterHeaders {transport : Nat → SendResult} {channel : Channel} {message : Message}
    {calls : Nat} {effects : List Effect} {result : Channel × SendOutcome}
    (headers : channel.outState = .sendingHeaders) (chunked : message.chunked = true)
    (served : Served (takes transport) channel.sends [message.firstFrame] (channel.sends + calls) []
      message.firstFrame)
    (work : Work effects message.firstFrame 1) (silent : progressOf effects = [])
    (rest : Rest transport { channel.worked 0 calls effects with outState := .sendingBody } message result) :
    Rest transport channel message result := by
  obtain ⟨handler, bodyEq, _, later⟩ := message.chunked_body chunked
  have planned : Channel.plannedFrames { channel.worked 0 calls effects with outState := .sendingBody }
      message = message.laterFrames := by
    simp [plannedFrames, bodyEq, later, worked]
  have first : Served (takes transport) channel.sends (channel.plannedFrames message)
      (channel.sends + calls) message.laterFrames message.firstFrame := by
    simpa [plannedFrames, headers, Message.frames] using served.append message.laterFrames
  have once : channel.plannedSendings = 1 := by simp [plannedSendings, headers]
  have moved (more : Nat) :
      Channel.sends { channel.worked 0 calls effects with outState := .sendingBody } + more =
        channel.sends + (calls + more) := Nat.add_assoc _ _ _
  have none_planned :
      Channel.plannedSendings { channel.worked 0 calls effects with outState := .sendingBody } = 0 := rfl
  cases rest with
  | sent outState more transfered after bytes continued ended disciplined _ =>
      rw [planned, moved] at continued
      rw [none_planned] at ended
      have whole : Rest transport channel message _ :=
          Rest.sent outState (calls + more) transfered (effects ++ after) _ (first.trans continued)
        (by rw [once]; exact work.append ended) (by simpa [silent] using disciplined) (by simp [headers])
      simpa [worked, Nat.add_assoc] using whole
  | single _ _ _ _ _ _ headers => exact absurd headers (by simp)
  | body handler' more transfered offset after bytes rest bodyEq' _ inside some_left answer continued ended
      disciplined stopped =>
      rw [planned, moved] at continued
      rw [moved] at answer
      rw [none_planned] at ended
      have whole : Rest transport channel message _ :=
          Rest.body handler' (calls + more) transfered offset (effects ++ after) _ rest bodyEq' chunked inside some_left
        answer (first.trans continued) (by rw [once]; exact work.append ended)
        (by simpa [silent] using disciplined) (by simpa [silent] using stopped)
      simpa [worked, refused, Nat.add_assoc] using whole
  | failed after failure => exact .failed after failure

theorem sendRest_rest (channel : Channel) (message : Message) (inFlight : InFlight channel message)
    (unblocked : channel.ewouldblockBuffer = none) :
    Rest transport channel message (channel.sendRest transport message) := by
  rw [sendRest]
  cases stage : channel.outState with
  | idle => exact absurd stage inFlight.busy
  | sendingBody =>
      obtain ⟨handler, bodyEq, chunked, inside⟩ := inFlight.body stage
      simp only [bodyEq, stage, reduceCtorEq, ↓reduceIte]
      exact sendRest_body transport channel message handler bodyEq chunked stage unblocked inside
  | sendingHeaders =>
      have planned : channel.plannedFrames message = message.firstFrame :: message.laterFrames := by
        simp [plannedFrames, stage, Message.frames]
      have once : channel.plannedSendings = 1 := by simp [plannedSendings, stage]
      have headers := sendHeaders_headers transport channel message inFlight.sendable unblocked
      simp only [↓reduceIte]
      generalize channel.sendHeaders transport message = result at headers
      cases headers with
      | sent outState calls transfered effects served work disciplined moved begun =>
          cases chunked : message.chunked with
          | false =>
              have moved : outState = .sendingHeaders := by simpa [chunked, stage] using moved
              have ended : Rest transport channel message _ :=
                  Rest.sent outState calls transfered effects message.firstFrame
                (by rw [planned, message.laterFrames_single chunked]; exact served)
                (by rw [once]; exact work) disciplined (by simp [stage])
              cases message.body with
              | none => exact ended
              | some handler => simpa [moved] using ended
          | true =>
              obtain ⟨rfl, silent⟩ := begun chunked
              obtain rfl : outState = .sendingBody := by simpa [chunked] using moved
              obtain ⟨handler, bodyEq, _, _⟩ := message.chunked_body chunked
              simp only [bodyEq, ↓reduceIte]
              exact Rest.afterHeaders stage chunked served work silent
                (sendRest_body transport _ message handler bodyEq chunked rfl unblocked (Nat.zero_le _))
      | wouldBlock outState calls transfered offset effects bytes rest some_left answer served work moved
          begun =>
          have blocked : Rest transport channel message
              ({ (channel.worked transfered calls effects).refused with
                  outState := outState, ewouldblockBuffer := some rest }, .wouldBlock offset) := by
            cases chunked : message.chunked with
            | false =>
                obtain rfl : outState = channel.outState := by simpa [chunked] using moved
                exact .single calls transfered offset effects bytes rest stage chunked some_left answer
                  (by rw [planned, message.laterFrames_single chunked]; exact served) work
            | true =>
                obtain ⟨rfl, silent⟩ := begun chunked
                obtain rfl : outState = .sendingBody := by simpa [chunked] using moved
                obtain ⟨handler, bodyEq, long, later⟩ := message.chunked_body chunked
                exact .body handler calls 0 offset effects bytes rest bodyEq chunked (Nat.zero_le _)
                  some_left answer (by
                    rw [planned, ← later]
                    exact served.append message.laterFrames)
                  (by rw [once]; exact work) (by simp [silent]) (by simp [silent]; omega)
          cases message.body <;> exact blocked
      | failed after failure =>
          cases message.body <;> exact .failed after failure

/-- The ways in which `_send_message` can leave the channel. -/
inductive Activation (channel : Channel) (message : Message) : Channel → Prop where
  | released (calls transfered : Nat) (effects : List Effect) (bytes : List Byte)
      (served : Served (takes transport) channel.sends (channel.pendingFrames message)
        (channel.sends + calls) [] bytes)
      (work : Work effects bytes channel.plannedSendings)
      (disciplined : .stop ∉ (progressOf effects).dropLast)
      (stopped : channel.outState = .sendingBody → progressOf effects ≠ []) :
      Activation channel message
        (Channel.emit
          { channel.worked transfered calls effects with
            outState := .idle, curOutMessage := none
            ewouldblockBuffer := none, ewouldblockOffset := 0 } (.released message))
  | flushing (pieces : List (List Byte)) (buffer : List Byte) (left : Nat)
      (kept : channel.ewouldblockBuffer = some buffer) (inside : left < buffer.length)
      (answer : transport (channel.sends + pieces.length) = .wouldBlock)
      (served : Served (takes transport) channel.sends (channel.pendingFrames message)
        (channel.sends + pieces.length) (buffer.drop left :: channel.plannedFrames message)
        pieces.flatten) :
      Activation channel message { (channel.taking pieces).refused with ewouldblockOffset := left }
  | single (calls transfered : Nat) (effects : List Effect) (bytes rest : List Byte)
      (headers : channel.outState = .sendingHeaders) (single : message.chunked = false)
      (some_left : rest ≠ []) (answer : transport (channel.sends + calls) = .wouldBlock)
      (served : Served (takes transport) channel.sends (channel.pendingFrames message)
        (channel.sends + calls) [rest] bytes)
      (work : Work effects bytes 1) :
      Activation channel message
        { (channel.worked transfered calls effects).refused with
          ewouldblockBuffer := some rest, ewouldblockOffset := 0 }
  | body (handler : BodyHandler) (calls transfered : Nat) (effects : List Effect)
      (bytes rest : List Byte) (bodyEq : message.body = some handler) (chunked : message.chunked = true)
      (inside : transfered ≤ handler.getSize) (some_left : rest ≠ [])
      (answer : transport (channel.sends + calls) = .wouldBlock)
      (served : Served (takes transport) channel.sends (channel.pendingFrames message)
        (channel.sends + calls) (rest :: handler.chunksFrom transfered) bytes)
      (work : Work effects bytes channel.plannedSendings)
      (disciplined : .stop ∉ (progressOf effects).dropLast)
      (stopped : .stop ∈ progressOf effects ↔ transfered = handler.getSize) :
      Activation channel message
        { (channel.worked transfered calls effects).refused with
          outState := .sendingBody
          ewouldblockBuffer := some rest, ewouldblockOffset := 0 }
  | failed (after : Channel) (failure : Failure transport channel after) :
      Activation channel message (after.done message)

theorem _sendMessage_activation (channel : Channel) (message : Message) (inFlight : InFlight channel message) :
    Activation transport channel message (channel._sendMessage transport) := by
  have flushed := flush_flush transport channel inFlight.inside inFlight.reset
  rw [_sendMessage, inFlight.current]
  simp only
  generalize channel.flush transport = result at flushed
  cases flushed with
  | wouldBlock pieces buffer left kept inside answer served =>
      exact .flushing pieces buffer left kept inside answer (served.append (channel.plannedFrames message))
  | failed after failure => exact .failed after failure
  | sent pieces served =>
      obtain ⟨cleared, clearedEq⟩ : ∃ cleared, cleared =
        { channel.taking pieces with ewouldblockBuffer := none, ewouldblockOffset := 0 } := ⟨_, rfl⟩
      have ready : InFlight cleared message := by
        subst clearedEq
        exact ⟨inFlight.current, inFlight.sendable, inFlight.busy, by simp, by simp, inFlight.body⟩
      have rest := sendRest_rest transport cleared message ready (by rw [clearedEq])
      have first : Served (takes transport) channel.sends (channel.pendingFrames message) cleared.sends
          (cleared.plannedFrames message) pieces.flatten := by
        subst clearedEq
        exact served.append (channel.plannedFrames message)
      have moved (calls : Nat) : cleared.sends + calls = channel.sends + (pieces.length + calls) := by
        subst clearedEq
        exact Nat.add_assoc _ _ _
      have joined {effects : List Effect} {bytes : List Byte} {sendings : Nat}
          (work : Work effects bytes sendings) :
          Work (pieces.map .accepted ++ effects) (pieces.flatten ++ bytes) sendings := by
        simpa using (Work.pieces pieces).append work
      have planned : cleared.plannedSendings = channel.plannedSendings := by rw [clearedEq]; rfl
      have staged : cleared.outState = channel.outState := by rw [clearedEq]; rfl
      change Activation transport channel message (conclude message (Channel.sendRest transport
        { channel.taking pieces with ewouldblockBuffer := none, ewouldblockOffset := 0 } message))
      rw [← clearedEq]
      generalize cleared.sendRest transport message = result at rest
      cases rest with
      | sent outState calls transfered effects bytes served work disciplined stopped =>
          rw [moved] at served
          rw [planned] at work
          have ended : Activation transport channel message _ :=
              Activation.released (pieces.length + calls) transfered (pieces.map .accepted ++ effects) _
            (first.trans served) (joined work) (by simpa using disciplined)
            (by simpa [staged] using stopped)
          subst clearedEq
          simpa [conclude, done, freeEwouldblockBuffer, worked, taking, emit, Nat.add_assoc] using ended
      | single calls transfered offset effects bytes rest headers single some_left answer served work =>
          rw [moved] at served answer
          have ended : Activation transport channel message _ :=
              Activation.single (pieces.length + calls) transfered (pieces.map .accepted ++ effects) _ rest
            (by rw [← staged, headers]) single some_left answer (first.trans served) (joined work)
          subst clearedEq
          simpa [conclude, worked, taking, refused, Nat.add_assoc] using ended
      | body handler calls transfered offset effects bytes rest bodyEq chunked inside some_left answer served
          work disciplined stopped =>
          rw [moved] at served answer
          rw [planned] at work
          have ended : Activation transport channel message _ :=
              Activation.body handler (pieces.length + calls) transfered (pieces.map .accepted ++ effects) _ rest
            bodyEq chunked inside some_left answer (first.trans served) (joined work)
            (by simpa using disciplined) (by simpa using stopped)
          subst clearedEq
          simpa [conclude, worked, taking, refused, Nat.add_assoc] using ended
      | failed after failure =>
          refine .failed after ?_
          subst clearedEq
          exact failure

end Channel

end BelleSip
