import BelleSip.Channel.ChunckedBody

/-
This file proves what is delivered of messages with chunked bodies, however their bytes are cut.
-/

namespace BelleSip

open Foundation

/-- The headers of a message with a chunked body have been read. -/
structure InputStream.AwaitsChunks {Message : Type} (message : Message) (acquired : InputStream Message) : Prop where
  scannable : acquired.Scannable
  state : acquired.state = .bodyAquisition
  holds : acquired.msg = some message
  chunked : acquired.chunckedMode = true
  waits : acquired.chunkSize = -1
  body : acquired.body = []

namespace ChunckedBody

open InputStream Closing

variable {Message : Type} {parser : MessageParser Message} {message : Message}

/-- What `check_body` prepares for a chunked body. -/
theorem checkBody_chunked {stream : InputStream Message} (plain : stream.chunckedMode = false) (msg : Message)
    (chunked : (stream.checkBody parser msg).1.chunckedMode = true) :
    (stream.checkBody parser msg).1.chunkSize = -1 ∧ (stream.checkBody parser msg).1.body = [] := by
  have impossible : ¬stream.chunckedMode = true := by
    rw [plain]
    exact Bool.false_ne_true
  unfold checkBody at chunked ⊢
  dsimp only at chunked ⊢
  split
  next sip =>
      rw [if_pos sip] at chunked
      exact absurd chunked impossible
  next noSip =>
      rw [if_neg noSip] at chunked
      split
      next typed =>
          rw [if_pos typed] at chunked
          split
          next => exact ⟨rfl, rfl⟩
          next whole =>
              rw [if_neg whole] at chunked
              exact absurd chunked impossible
      next untyped =>
          rw [if_neg untyped] at chunked
          exact absurd chunked impossible

theorem acquireMessage_chunked {stream : InputStream Message} (plain : stream.chunckedMode = false) :
    Checked.OnReturn (stream.acquireMessage parser) fun result => result.2 = .body →
      result.1.incomingMessages = stream.incomingMessages ∧
        (result.1.chunckedMode = true →
          result.1.state = .bodyAquisition ∧ result.1.chunkSize = -1 ∧ result.1.body = []) := by
  rw [acquireMessage, Checked.onReturn_bind]
  cases stream.scan stream.readPtr with
  | error fault => exact Checked.onReturn_error
  | ok text =>
      rw [Checked.onReturn_ok]
      split
      · exact Checked.onReturn_pure.mpr fun impossible => by cases impossible
      · dsimp only
        generalize parser.parseRaw _ = result
        obtain ⟨parsedMessage, size⟩ := result
        cases parsedMessage with
        | none => exact Checked.onReturn_pure.mpr fun impossible => by cases impossible
        | some msg =>
            simp only
            split
            · simp only [acquireParsed]
              split
              · refine Checked.onReturn_pure.mpr fun _ => ⟨checkBody_incomingMessages msg, fun chunked => ?_⟩
                exact ⟨rfl, checkBody_chunked (by exact plain) msg chunked⟩
              · rw [Checked.onReturn_bind]
                refine (messageReady_extends _).mono fun ready _ => ?_
                exact Checked.onReturn_pure.mpr fun impossible => by cases impossible
            · exact Checked.onReturn_pure.mpr fun impossible => by cases impossible

theorem acquireMessage_awaitsChunks {stream acquired : InputStream Message} (scannable : stream.Scannable)
    (acquires : stream.state = .messageAquisition) (plain : stream.chunckedMode = false)
    (parsed : stream.acquireMessage parser = .ok (acquired, .body)) (holds : acquired.msg = some message)
    (chunked : acquired.chunckedMode = true) :
    acquired.AwaitsChunks message ∧ acquired.incomingMessages = stream.incomingMessages := by
  have kept : Checked.Returns (stream.acquireMessage parser) Acquired := acquireMessage_returns scannable acquires
  obtain ⟨result, isResult, known⟩ := kept
  rw [parsed] at isResult
  cases isResult
  rw [Acquired, if_pos rfl] at known
  obtain ⟨incomingMessages, prepared⟩ := (acquireMessage_chunked plain).elim parsed rfl
  obtain ⟨state, waits, body⟩ := prepared chunked
  exact ⟨⟨known.1, state, holds, chunked, waits, body⟩, incomingMessages⟩

/-- The body is still acquired: what has been received and not read is next at a position of its text. -/
structure Pending (message : Message) (prior : List (Message × List UInt8)) (chunks : List Chunk) (ending : Ending)
    (tail : List UInt8) (closing : Closing Message) : Prop where
  live : closing.ended = false
  running : closing.reading.parsing ≠ some true
  incomingMessages : closing.reading.stream.incomingMessages = prior
  stands : ∃ position taken, Takes message ending tail position closing.reading.stream ∧
    text chunks ending = taken ++ position.text ending ∧ closing.received = taken ++ closing.reading.stream.unread ∧
      closing.reading.stream.body ++ position.content = content chunks ∧
        (closing.reading.parsing = none → position.Rests ending closing.reading.stream)

/-- The text of the body has just been read. After the zero chunk the message has been delivered with its data, and what
stands behind the text is left. After a line that is no size the message has been given up, and the line is left. -/
structure Concluded (message : Message) (prior : List (Message × List UInt8)) (chunks : List Chunk) (ending : Ending)
    (closing : Closing Message) : Prop where
  state : closing.reading.stream.state = .waitingMessageStart
  gone : closing.reading.stream.msg = none
  whole : (text chunks ending).length ≤ closing.received.length
  outcome : match ending with
    | .last _ _ => closing.reading.stream.incomingMessages = prior ++ [(message, content chunks)] ∧
        closing.reading.stream.unread = closing.received.drop (text chunks ending).length
    | .improper _ _ => closing.reading.stream.incomingMessages = prior ∧
        closing.reading.stream.unread = closing.received.drop (chunksText chunks).length

section

variable {prior : List (Message × List UInt8)} {chunks : List Chunk} {ending : Ending} {tail : List UInt8}
  {closing : Closing Message}

/-- What the loop over the body makes of a position. -/
theorem outcome_cases {position : Position} {stream : InputStream Message} {result : InputStream Message × Bool}
    {taken : List UInt8} (outcome : Outcome message ending position stream result)
    (prior_ : stream.incomingMessages = prior) (split : text chunks ending = taken ++ position.text ending)
    (body : stream.body ++ position.content = content chunks)
    (comes : stream.unread <+: position.text ending ++ tail) (live : closing.ended = false)
    (received : closing.received = taken ++ stream.unread) :
    let after : Closing Message := { closing with
      reading := { stream := result.1, parsing := if result.2 then some false else none } }
    Pending message prior chunks ending tail after ∨ Concluded message prior chunks ending after := by
  cases outcome with
  | more advances inBounds state holds chunked stands rests =>
      obtain ⟨more, unread, text⟩ := advances.read
      refine .inl ⟨live, (Option.some_ne_none true).symm, advances.incomingMessages.trans prior_, _, taken ++ more,
        ⟨inBounds, state, holds, chunked, stands, advances.comes comes⟩, ?_, ?_, advances.content.trans body,
        fun _ => rests⟩
      · rw [split, text, List.append_assoc]
      · rw [received, unread, List.append_assoc]
  | last line zero ends inBounds state gone incomingMessages whole left =>
      subst ends
      refine .inr ⟨state, gone, ?_, ?_, ?_⟩
      · rw [split, received, List.length_append, List.length_append]
        exact Nat.add_le_add_left whole _
      · rw [incomingMessages, prior_, body]
      · rw [left, split, received, List.length_append, ← List.drop_drop, List.drop_left]
  | rejected line improper ends inBounds state gone incomingMessages whole left =>
      subst ends
      have enough := position.text_le (.improper line improper)
      refine .inr ⟨state, gone, ?_, incomingMessages.trans prior_, ?_⟩
      · rw [split, received, List.length_append, List.length_append]
        exact Nat.add_le_add_left whole _
      · have length := congrArg List.length split
        have parts : (text chunks (.improper line improper)).length =
            (chunksText chunks).length + (Ending.improper line improper).text.length := by
          rw [text, List.length_append]
        rw [List.length_append] at length
        have start : (chunksText chunks).length = taken.length +
            ((position.text (.improper line improper)).length - (Ending.improper line improper).text.length) := by
          omega
        rw [left, start, received, ← List.drop_drop, List.drop_left]

/-- A round of the parser while a chunked body is acquired. -/
theorem parseRound_chunked {stream : InputStream Message} (state : stream.state = .bodyAquisition)
    (chunked : stream.chunckedMode = true) (endOfStream : Bool) :
    stream.parseRound parser endOfStream = acquireChunckedBody (stream.writePtr - stream.readPtr + 2) stream := by
  simp [parseRound, state, endRound, acquireBody, chunked]

theorem takes_outcome {position : Position} {stream : InputStream Message}
    (takes : Takes message ending tail position stream) (scannable : stream.Scannable)
    (fits : ending.Fits stream.unread.length (position.text ending).length) :
    Checked.Returns (acquireChunckedBody (stream.writePtr - stream.readPtr + 2) stream)
      (Outcome message ending position stream) := by
  apply acquireChunckedBody_outcome _ takes scannable fits
  rw [unread_length]
  split <;> omega

/-- Where no more of the text has been read than has been received. -/
theorem fits_position {position : Position} {taken unread : List UInt8}
    (split : text chunks ending = taken ++ position.text ending) (received : closing.received = taken ++ unread)
    (fits : ending.Fits closing.received.length (text chunks ending).length) :
    ending.Fits unread.length (position.text ending).length := by
  cases ending with
  | last line zero =>
      rw [split, received, List.length_append, List.length_append] at fits
      rcases fits with short | whole
      · exact .inl (by omega)
      · exact .inr (by omega)
  | improper line improper => exact fits

/-- Where the parser does not run, the text has not been received as a whole. -/
theorem Pending.short (pending : Pending message prior chunks ending tail closing)
    (stops : closing.reading.parsing = none) : closing.received.length < (text chunks ending).length := by
  obtain ⟨position, taken, -, split, received, -, rests⟩ := pending.stands
  have waits := rests stops
  rw [split, received, List.length_append, List.length_append]
  apply Nat.add_lt_add_left
  cases position with
  | line ahead chunks =>
      have waits : _ < (separator ahead).length + (Position.nextLine ending chunks).bytes.length + 2 := waits
      rw [Position.text_line]
      simp only [List.length_append]
      have two : lineEnd.length = 2 := rfl
      omega
  | data left chunks =>
      have waits : closing.reading.stream.unread = [] := waits
      rw [waits, Position.text]
      simp only [List.length_append]
      have two : lineEnd.length = 2 := rfl
      show 0 < _
      omega

/-- The position depends on the sizes of the stream only. -/
theorem at_of_sizes {position : Position} {before after : InputStream Message}
    (size : after.chunkSize = before.chunkSize) (readSize : after.chunkReadSize = before.chunkReadSize)
    (stands : position.At before) : position.At after := by
  cases position with
  | line ahead chunks => exact size.trans stands
  | data left chunks =>
      obtain ⟨nonempty, reads, rest⟩ := stands
      exact ⟨nonempty, size.trans_ne reads, by rw [size, readSize, rest]⟩

variable (chunks ending tail) in
/-- The text comes next in any pieces, and the stream does not end before its end. -/
def Arrives (state : Checked (Closing Message)) (event : ReadEvent) : Prop :=
  match state, event with
  | .ok closing, .processReadData (.available bytes) => closing.reading.parsing = none →
      closing.received ++ bytes <+: text chunks ending ++ tail ∧
        (closing.received.length < (text chunks ending).length → bytes ≠ [])
  | _, _ => True

variable (chunks ending) in
/-- The buffer is not full when the channel is read, and the parser runs on no text of which only the end of the final
line end is missing. -/
def Handles (state : Checked (Closing Message)) (event : ReadEvent) : Prop :=
  match state, event with
  | .ok closing, .processReadData _ => closing.reading.parsing = none →
      closing.received.length < (text chunks ending).length → 1 < closing.reading.stream.buffLength
  | .ok closing, .parseRound => closing.reading.parsing ≠ none →
      ending.Fits closing.received.length (text chunks ending).length
  | .error _, _ => True

instance (state : Checked (Closing Message)) (event : ReadEvent) : Decidable (Arrives chunks ending tail state event) :=
  match state, event with
  | .ok _, .processReadData (.available _) => inferInstanceAs (Decidable (_ → _ ∧ _))
  | .ok _, .processReadData .error => inferInstanceAs (Decidable True)
  | .ok _, .parseRound => inferInstanceAs (Decidable True)
  | .error _, _ => inferInstanceAs (Decidable True)

instance (state : Checked (Closing Message)) (event : ReadEvent) : Decidable (Handles chunks ending state event) :=
  match state, event with
  | .ok _, .processReadData _ => inferInstanceAs (Decidable (_ → _ → _))
  | .ok _, .parseRound => inferInstanceAs (Decidable (_ → _))
  | .error _, _ => inferInstanceAs (Decidable True)

theorem Pending.connected (pending : Pending message prior chunks ending tail closing) : ¬closing.Disconnected := by
  intro disconnected
  exact absurd (pending.live.symm.trans disconnected.1) Bool.false_ne_true

/-- A connected channel whose parser does not run receives bytes. -/
theorem step_available (connected : ¬closing.Disconnected) (rests : closing.reading.parsing = none)
    (bytes : List UInt8) :
    step parser (.ok closing) (.processReadData (.available bytes)) =
      closing.reading.processReadData (.available bytes) >>= fun reading => pure {
        reading := reading
        received := closing.received ++ bytes.take (closing.reading.stream.buffLength - 1).toNat
        ended := (bytes.take (closing.reading.stream.buffLength - 1).toNat).isEmpty } := by
  obtain ⟨⟨stream, parsing⟩, received, ended⟩ := closing
  cases rests
  exact if_neg connected

theorem step_failed (connected : ¬closing.Disconnected) (rests : closing.reading.parsing = none) :
    step parser (.ok closing) (.processReadData .error) =
      closing.reading.processReadData .error >>= fun reading => pure { closing with reading := reading } := by
  obtain ⟨⟨stream, parsing⟩, received, ended⟩ := closing
  cases rests
  exact if_neg connected

/-- While the parser runs nothing is received. -/
theorem step_busy (connected : ¬closing.Disconnected) {endOfStream : Bool}
    (runs : closing.reading.parsing = some endOfStream) (result : RecvResult) :
    step parser (.ok closing) (.processReadData result) = .ok closing := by
  obtain ⟨⟨stream, parsing⟩, received, ended⟩ := closing
  cases runs
  cases result with
  | available bytes => exact if_neg connected
  | error => exact if_neg connected

theorem step_round (connected : ¬closing.Disconnected) :
    step parser (.ok closing) .parseRound =
      Reading.step parser (.ok closing.reading) .parseRound >>= fun reading =>
        pure { closing with reading := reading } := by
  obtain ⟨⟨stream, parsing⟩, received, ended⟩ := closing
  exact if_neg connected

theorem round_rests {reading : Reading Message} (rests : reading.parsing = none) :
    Reading.step parser (.ok reading) .parseRound = .ok reading := by
  obtain ⟨stream, parsing⟩ := reading
  cases rests
  rfl

theorem round_runs {reading : Reading Message} {endOfStream : Bool} (runs : reading.parsing = some endOfStream) :
    Reading.step parser (.ok reading) .parseRound =
      if reading.stream.readPtr < reading.stream.writePtr then
        reading.stream.parseRound parser endOfStream >>= fun result =>
          pure { stream := result.1, parsing := if result.2 then some endOfStream else none }
      else .ok { reading with parsing := none } := by
  obtain ⟨stream, parsing⟩ := reading
  cases runs
  rfl

/-- More bytes of the text are received. -/
theorem Pending.read (pending : Pending message prior chunks ending tail closing)
    (rests : closing.reading.parsing = none) {bytes : List UInt8}
    (arrives : Arrives chunks ending tail (.ok closing) (.processReadData (.available bytes)))
    (handles : Handles chunks ending (.ok closing) (.processReadData (.available bytes))) :
    Checked.Returns (step parser (.ok closing) (.processReadData (.available bytes)))
      (Pending message prior chunks ending tail) := by
  have short := pending.short rests
  obtain ⟨comes, more⟩ := arrives rests
  have room := handles rests short
  obtain ⟨position, before, takes, split, received, body, -⟩ := pending.stands
  have length : closing.reading.stream.buffLength = networkBufferSize - closing.reading.stream.writePtr := rfl
  have nonempty := List.length_pos_iff.mpr (more short)
  have fits := List.length_take_le (closing.reading.stream.buffLength - 1).toNat bytes
  have filled : 0 < (bytes.take (closing.reading.stream.buffLength - 1).toNat).length := by
    rw [List.length_take]
    omega
  have cut : closing.received ++ bytes.take (closing.reading.stream.buffLength - 1).toNat <+:
      text chunks ending ++ tail :=
    ((List.prefix_append_right_inj closing.received).mpr (List.take_prefix _ bytes)).trans comes
  have open_ : ¬closing.reading.stream.buffLength - 1 < 0 := by omega
  rw [step_available pending.connected rests, Reading.processReadData]
  dsimp only
  rw [if_neg open_]
  generalize bytes.take (closing.reading.stream.buffLength - 1).toNat = arrived at fits filled cut ⊢
  rw [if_pos filled, Checked.ok_bind, Checked.returns_pure]
  have unread := written_unread takes.inBounds.ordered arrived 0
  have next : closing.reading.stream.unread ++ arrived <+: position.text ending ++ tail := by
    rw [received, split, List.append_assoc, List.append_assoc] at cut
    exact (List.prefix_append_right_inj before).mp cut
  have inBounds : InBounds { closing.reading.stream with
      buff := Function.update (fun position =>
        if closing.reading.stream.writePtr ≤ position ∧
            position < closing.reading.stream.writePtr + arrived.length then
          arrived.getD (position - closing.reading.stream.writePtr) 0
        else closing.reading.stream.buff position) (closing.reading.stream.writePtr + arrived.length) 0
      writePtr := closing.reading.stream.writePtr + arrived.length
      readSize := 0 } := by
    have ordered := takes.inBounds.ordered
    constructor
    · simp only
      omega
    · simp only
      omega
    · intro _
      simp
  have waits : arrived.isEmpty = false := by
    rw [List.isEmpty_eq_false_iff]
    exact List.length_pos_iff.mp filled
  refine ⟨waits, show some false ≠ some true by decide, pending.incomingMessages, position, before,
    ⟨inBounds, takes.state, takes.holds, takes.chunked, ?_, ?_⟩, split, ?_, body,
    fun stops => absurd stops (Option.some_ne_none _)⟩
  · exact at_of_sizes rfl rfl takes.stands
  · rw [unread]
    exact next
  · show closing.received ++ arrived = _
    rw [unread, received, List.append_assoc]

/-- The running parser makes a round. -/
theorem Pending.parse (pending : Pending message prior chunks ending tail closing)
    (handles : Handles chunks ending (.ok closing) .parseRound) :
    Checked.Returns (step parser (.ok closing) .parseRound) fun after =>
      Pending message prior chunks ending tail after ∨ Concluded message prior chunks ending after := by
  obtain ⟨position, before, takes, split, received, body, rests⟩ := pending.stands
  rw [step_round pending.connected, Checked.returns_bind]
  cases runs : closing.reading.parsing with
  | none =>
      rw [round_rests runs, Checked.returns_ok, Checked.returns_pure]
      exact .inl pending
  | some endOfStream =>
      have early : endOfStream = false := by
        have running := pending.running
        rw [runs] at running
        cases endOfStream with
        | false => rfl
        | true => exact absurd rfl running
      have fits := fits_position split received (handles (by rw [runs]; exact Option.some_ne_none _))
      subst early
      rw [round_runs runs]
      split
      next some =>
          have scannable : closing.reading.stream.Scannable :=
            ⟨takes.inBounds.ordered, takes.inBounds.inside, takes.inBounds.terminated some⟩
          rw [parseRound_chunked takes.state takes.chunked, Checked.returns_bind]
          refine (takes_outcome takes scannable fits).mono ?_
          rintro ⟨stream, goesOn⟩ outcome
          rw [Checked.returns_pure, Checked.returns_pure]
          exact outcome_cases outcome pending.incomingMessages split body takes.comes pending.live received
      next none =>
          have empty : closing.reading.stream.unread = [] := unread_eq_nil_iff.mpr (Nat.le_of_not_lt none)
          rw [Checked.returns_ok, Checked.returns_pure]
          refine .inl ⟨pending.live, (Option.some_ne_none true).symm, pending.incomingMessages, position, before,
              { takes with }, split, received,
            body, fun _ => ?_⟩
          cases position with
          | line ahead chunks =>
              show closing.reading.stream.unread.length < _
              rw [empty]
              exact Nat.succ_pos _
          | data left chunks => exact empty

theorem Pending.stepped (pending : Pending message prior chunks ending tail closing) (event : ReadEvent)
    (arrives : Arrives chunks ending tail (.ok closing) event) (handles : Handles chunks ending (.ok closing) event) :
    Checked.Returns (step parser (.ok closing) event) fun after =>
      Pending message prior chunks ending tail after ∨ Concluded message prior chunks ending after := by
  cases event with
  | parseRound => exact pending.parse handles
  | processReadData result =>
      cases runs : closing.reading.parsing with
      | some endOfStream =>
          rw [step_busy pending.connected runs, Checked.returns_ok]
          exact .inl pending
      | none =>
          cases result with
          | available bytes => exact (pending.read runs arrives handles).mono fun _ still => .inl still
          | error =>
              have room := handles runs (pending.short runs)
              have open_ : ¬closing.reading.stream.buffLength - 1 < 0 := by omega
              rw [step_failed pending.connected runs, Reading.processReadData, if_neg open_, Checked.ok_bind,
                Checked.returns_pure]
              exact .inl pending

variable (parser message prior chunks ending) in
/-- Nothing is delivered of the body until its text has been read, and its text is read when it has been received. -/
def Course (begun : Checked (Closing Message)) (events : List ReadEvent) : Prop :=
  Checked.Returns (Machine.run (step parser) begun events) (fun closing =>
      closing.reading.stream.incomingMessages = prior ∧ closing.reading.stream.msg = some message ∧
        (closing.reading.parsing = none → closing.received.length < (text chunks ending).length)) ∨
    ∃ first rest, events = first ++ rest ∧
      Checked.Returns (Machine.run (step parser) begun first) (Concluded message prior chunks ending) ∧
        ∀ front back, first = front ++ back → back ≠ [] →
          Checked.Returns (Machine.run (step parser) begun front) fun closing =>
            closing.reading.stream.incomingMessages = prior

theorem Concluded.course (concluded : Concluded message prior chunks ending closing) (events : List ReadEvent) :
    Course parser message prior chunks ending (.ok closing) events := by
  refine .inr ⟨[], events, rfl, Checked.returns_ok.mpr concluded, ?_⟩
  intro front back whole more
  exact absurd (List.append_eq_nil_iff.mp whole.symm).2 more

theorem Pending.course (pending : Pending message prior chunks ending tail closing) {events : List ReadEvent}
    (arrives : Machine.Along (step parser) (Arrives chunks ending tail) (.ok closing) events)
    (handles : Machine.Along (step parser) (Handles chunks ending) (.ok closing) events) :
    Course parser message prior chunks ending (.ok closing) events := by
  induction events generalizing closing with
  | nil =>
      obtain ⟨position, taken, takes, -⟩ := pending.stands
      exact .inl (Checked.returns_ok.mpr ⟨pending.incomingMessages, takes.holds, pending.short⟩)
  | cons event rest ih =>
      obtain ⟨after, stepped, outcome⟩ := pending.stepped event arrives.1 handles.1
      rw [Machine.along_cons, stepped] at arrives handles
      have continued : Course parser message prior chunks ending (.ok after) rest :=
        outcome.elim (fun still => ih still arrives.2 handles.2) fun concluded => concluded.course rest
      rcases continued with returns | ⟨first, later, whole, concluded, before⟩
      · left
        rw [Machine.run_cons, stepped]
        exact returns
      · refine .inr ⟨event :: first, later, by rw [whole, List.cons_append], ?_, ?_⟩
        · rw [Machine.run_cons, stepped]
          exact concluded
        · intro front back split more
          cases front with
          | nil => exact Checked.returns_ok.mpr pending.incomingMessages
          | cons other front =>
              obtain ⟨same, others⟩ := List.cons_eq_cons.mp split
              subst same
              rw [Machine.run_cons, stepped]
              exact before front back others more

end

/-- The channel after the headers of a message with a chunked body. -/
theorem start_course {acquired : InputStream Message} (awaits : acquired.AwaitsChunks message) {chunks : List Chunk}
    {ending : Ending} {tail : List UInt8} (comes : acquired.unread <+: text chunks ending ++ tail)
    (fits : ending.Fits acquired.unread.length (text chunks ending).length) {events : List ReadEvent}
    (arrives : Machine.Along (step parser) (Arrives chunks ending tail) (start acquired) events)
    (handles : Machine.Along (step parser) (Handles chunks ending) (start acquired) events) :
    Course parser message acquired.incomingMessages chunks ending (start acquired) events := by
  have takes : Takes message ending tail (.line false chunks) acquired :=
    ⟨awaits.scannable.inBounds, awaits.state, awaits.holds, awaits.chunked, awaits.waits, comes⟩
  obtain ⟨result, acquires, outcome⟩ := takes_outcome takes awaits.scannable fits
  have begun : start acquired = .ok {
      reading := { stream := result.1, parsing := if result.2 then some false else none }
      received := acquired.unread } := by
    simp only [start, acquireBody, awaits.chunked, if_true, acquires, Checked.ok_bind]
    rfl
  let first : Closing Message := { reading := { stream := acquired }, received := acquired.unread }
  have body : acquired.body ++ (Position.line false chunks).content = content chunks := by
    rw [awaits.body]
    rfl
  have cases_ := @outcome_cases _ _ _ _ _ tail first _ _ _ [] outcome rfl rfl body comes rfl rfl
  rw [begun] at arrives handles ⊢
  rcases cases_ with pending | concluded
  · exact pending.course arrives handles
  · exact concluded.course events

theorem wholeText_bare (text : CString) (message : Unit) (parsed : (some (), some text.length) = (some message, none)) :
    (none : Option Int) = none ∧ true = false :=
  absurd (congrArg Prod.snd parsed) (Option.some_ne_none _)

/-- A parser for messages with chunked bodies. -/
def chunkedParser : MessageParser Unit where
  startsMessage _ := false
  parseRaw text := (some (), some text.length)
  isSip _ := false
  contentLength _ := none
  hasContentType _ := true
  isChunked _ := true
  empty := rfl
  parsed_le := wholeText_le
  bare := wholeText_bare

/-- A stream with the end of some headers and the first bytes of the body. -/
def headersAnd (bytes : List UInt8) : InputStream Unit where
  state := .messageAquisition
  buff position := ([13, 10, 13, 10] ++ bytes).getD position 0
  writePtr := 4 + bytes.length

def behindHeaders (bytes : List UInt8) : InputStream Unit :=
  { headersAnd bytes with
    state := .bodyAquisition
    readPtr := 4
    readSize := 4
    msg := some ()
    chunckedMode := true
    contentLength := 0
    chunkSize := -1 }

/-- The line with one digit. -/
def digitLine (digit : UInt8) (hexadecimal : (hexDigit digit).isSome = true) : SizeLine where
  digits := [digit]
  extension := []
  nonempty := List.cons_ne_nil _ _
  hexadecimal _ among := List.mem_singleton.mp among ▸ hexadecimal
  separated := .inl rfl
  unbroken := rfl
  unterminated := List.not_mem_nil

/-- The zero chunk. -/
def zeroChunk : Ending := .last (digitLine 48 (by decide)) (by decide)

/-- A chunk of two bytes. -/
def pairChunk : Chunk where
  line := digitLine 50 (by decide)
  data := [97, 98]
  size := by decide
  nonempty := List.cons_ne_nil _ _
  fits := by decide

/-- The pieces in which a body comes behind its first bytes. -/
def pieces : List ReadEvent :=
  [.processReadData (.available [10, 97]), .parseRound, .processReadData (.available [98, 13, 10, 48]), .parseRound,
    .processReadData (.available [13, 10, 13, 10, 120]), .parseRound]

theorem headersAnd_scannable : (headersAnd [50, 13]).Scannable where
  ordered := by decide
  inside := by decide
  terminated := rfl

/-- What is known of the channel before the first event. -/
theorem Course.begun {prior : List (Message × List UInt8)} {chunks : List Chunk} {ending : Ending}
    {closing : Closing Message} {state : Checked (Closing Message)}
    (course : Course parser message prior chunks ending state []) (same : state = .ok closing) :
    (closing.reading.stream.incomingMessages = prior ∧
      (closing.reading.parsing = none → closing.received.length < (text chunks ending).length)) ∨
    Concluded message prior chunks ending closing := by
  rcases course with ⟨found, isFound, known, -, short⟩ | ⟨first, rest, whole, ⟨found, isFound, concluded⟩, -⟩
  · cases isFound.symm.trans same
    exact .inl ⟨known, short⟩
  · obtain ⟨rfl, rfl⟩ := List.append_eq_nil_iff.mp whole.symm
    cases isFound.symm.trans same
    exact .inr concluded

/-- The line `zz`, which has no number. -/
def numberless : Ending := .improper ⟨[122, 122], List.cons_ne_nil _ _, rfl, by decide⟩ (by decide)

/-- The line `0zz`, of which only the first letter is a digit. -/
def trailing : Ending := .improper ⟨[48, 122, 122], List.cons_ne_nil _ _, rfl, by decide⟩ (by decide)

/-- The line `-0`, whose number has a sign. -/
def signed : Ending := .improper ⟨[45, 48], List.cons_ne_nil _ _, rfl, by decide⟩ (by decide)

/-- The line `ffffffff`, whose number is `-1` as an `int`. -/
def oversized : Ending :=
  .improper ⟨[102, 102, 102, 102, 102, 102, 102, 102], List.cons_ne_nil _ _, rfl, by decide⟩ (by decide)

end ChunckedBody

end BelleSip
