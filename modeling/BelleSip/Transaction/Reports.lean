import BelleSip.Transaction.Callbacks

/-
This file proves in which order a client transaction reports the responses that it gets.
-/

namespace BelleSip

open Foundation
open Foundation.Checked (OnReturn)
open Foundation.Reentrance (Frame Config Input Program)

namespace Callbacks

/-- The response may be reported before the other one: it is provisional, or both accept an INVITE. -/
def Precedes (kind : Kind) (first second : Response) : Prop :=
  first.statusCode < 200 ∨
    (kind = .ict ∧ first.statusCode < 300 ∧ 200 ≤ second.statusCode ∧ second.statusCode < 300)

/-- What a client transaction in the state can have reported. -/
def Admits (kind : Kind) (told : List Response) : TransactionState → Prop
  | .init | .trying | .calling => told = []
  | .proceeding => ∀ resp ∈ told, resp.statusCode < 200
  | .accepted => kind = .ict ∧ ∀ resp ∈ told, resp.statusCode < 300
  | .completed => ∀ resp ∈ told, resp.statusCode < 200 ∨ kind = .nict ∨ 300 ≤ resp.statusCode
  | .confirmed => False
  | .terminated => True

/-- The responses that a client transaction in the state has reported are in order. -/
structure Reports (kind : Kind) (told : List Response) (state : TransactionState) : Prop where
  ordered : told.Pairwise (Precedes kind)
  admitted : Admits kind told state

/-- The work that reports the last response to the listeners. -/
def report : Frame Task := .task (.invokeListeners .processResponseEvent)

/-- The responses that the work on the stack is still to report. -/
def awaited (t : Transaction) (stack : List (Frame Task)) : List Response :=
  (stack.filter fun frame => frame = report).flatMap fun _ => t.lastResponse.toList

/-- The response that a step reports. -/
def reported (config : Config Transaction Task) : Input Call Event → List Response
  | .tick => if config.stack.head? = some report then config.state.lastResponse.toList else []
  | _ => []

/-- Work that sends the request. -/
def isSend : Frame Task → Bool
  | .task (.send _ _) => true
  | _ => false

/-- Work that reports no response, and does not begin with an event. -/
def Wordless : Frame Task → Prop
  | .task (.invokeListeners callback) => callback ≠ .processResponseEvent
  | .task (.begin _) => False
  | _ => True

theorem Wordless.ne_report {frame : Frame Task} (silent : Wordless frame) : frame ≠ report := by
  rintro rfl
  exact silent rfl

/-- Work that neither reports a response nor sends the request. -/
def Idle (frame : Frame Task) : Prop := Wordless frame ∧ isSend frame = false

theorem awaited_append (t : Transaction) (first second : List (Frame Task)) :
    awaited t (first ++ second) = awaited t first ++ awaited t second := by
  simp [awaited]

theorem awaited_silent {t : Transaction} {frames : List (Frame Task)} (silent : ∀ frame ∈ frames, Wordless frame) :
    awaited t frames = [] := by
  have none : (frames.filter fun frame => frame = report) = [] := by
    apply List.filter_eq_nil_iff.mpr
    intro frame among
    simpa using (silent frame among).ne_report
  rw [awaited, none, List.flatMap_nil]

theorem awaited_congr {t after : Transaction} (last : after.lastResponse = t.lastResponse)
    (stack : List (Frame Task)) : awaited after stack = awaited t stack := by
  rw [awaited, awaited, last]

theorem Reports.none (kind : Kind) {state : TransactionState} (fresh : state ∈ [.init, .trying, .calling]) :
    Reports kind [] state := by
  refine ⟨List.Pairwise.nil, ?_⟩
  simp only [List.mem_cons, List.not_mem_nil, or_false] at fresh
  rcases fresh with rfl | rfl | rfl <;> rfl

section Order

variable {kind : Kind}

/-- A response leads from one state to another, in which it may have been reported. -/
inductive Hears (kind : Kind) (resp : Response) : TransactionState → TransactionState → Prop where
  | provisional {before : TransactionState} (early : before ∈ [.trying, .calling, .proceeding])
      (below : resp.statusCode < 200) : Hears kind resp before .proceeding
  | accepts {before : TransactionState} (invite : kind = .ict) (early : before ∈ [.calling, .proceeding, .accepted])
      (final : 200 ≤ resp.statusCode) (success : resp.statusCode < 300) : Hears kind resp before .accepted
  | completes {before : TransactionState} (early : before ∈ [.trying, .calling, .proceeding])
      (final : 200 ≤ resp.statusCode) (closes : kind = .nict ∨ 300 ≤ resp.statusCode) :
      Hears kind resp before .completed

/-- A transaction that has ended hears no response. -/
theorem Hears.not_ended {resp : Response} {before next : TransactionState} (hears : Hears kind resp before next) :
    before ∉ [.completed, .terminated] := by
  cases hears with
  | provisional early _ => grind
  | accepts _ early _ _ => grind
  | completes early _ _ => grind

/-- Before a final response only provisional ones have been reported. -/
theorem Reports.provisional {told : List Response} {before : TransactionState} (reports : Reports kind told before)
    (early : before ∈ [.trying, .calling, .proceeding]) : ∀ resp ∈ told, resp.statusCode < 200 := by
  have admitted := reports.admitted
  simp only [List.mem_cons, List.not_mem_nil, or_false] at early
  rcases early with rfl | rfl | rfl
  · rw [show told = [] from admitted]
    exact List.forall_mem_nil _
  · rw [show told = [] from admitted]
    exact List.forall_mem_nil _
  · exact admitted

/-- One more response is reported, if each one before may precede it. -/
theorem Reports.append {told : List Response} {resp : Response} {before next : TransactionState}
    (reports : Reports kind told before) (precede : ∀ first ∈ told, Precedes kind first resp)
    (admitted : Admits kind (told ++ [resp]) next) : Reports kind (told ++ [resp]) next :=
  ⟨List.pairwise_append.mpr ⟨reports.ordered, List.pairwise_singleton _ _, by simpa using precede⟩, admitted⟩

theorem Hears.reports {resp : Response} {before next : TransactionState} (hears : Hears kind resp before next)
    {told heard : List Response} (reports : Reports kind told before) (some_ : heard = [] ∨ heard = [resp]) :
    Reports kind (told ++ heard) next := by
  cases hears with
  | provisional early below =>
      have all := reports.provisional early
      rcases some_ with rfl | rfl
      · rw [List.append_nil]
        exact ⟨reports.ordered, all⟩
      · exact reports.append (fun first among => .inl (all first among))
          (List.forall_mem_append.mpr ⟨all, List.forall_mem_singleton.mpr below⟩)
  | accepts invite early final success =>
      have all : ∀ first ∈ told, first.statusCode < 300 := by
        intro first among
        simp only [List.mem_cons, List.not_mem_nil, or_false] at early
        rcases early with rfl | rfl | rfl
        · exact (reports.provisional (by simp) first among).trans (by decide)
        · exact (reports.provisional (by simp) first among).trans (by decide)
        · exact reports.admitted.2 first among
      rcases some_ with rfl | rfl
      · rw [List.append_nil]
        exact ⟨reports.ordered, invite, all⟩
      · exact reports.append (fun first among => .inr ⟨invite, all first among, final, success⟩)
          ⟨invite, List.forall_mem_append.mpr ⟨all, List.forall_mem_singleton.mpr success⟩⟩
  | completes early final closes =>
      have all := reports.provisional early
      have below : ∀ first ∈ told, first.statusCode < 200 ∨ kind = .nict ∨ 300 ≤ first.statusCode :=
        fun first among => .inl (all first among)
      rcases some_ with rfl | rfl
      · rw [List.append_nil]
        exact ⟨reports.ordered, below⟩
      · exact reports.append (fun first among => .inl (all first among))
          (List.forall_mem_append.mpr ⟨below, List.forall_mem_singleton.mpr (.inr closes)⟩)

end Order

namespace Transaction

/-- The fields that decide what is reported are the same. -/
structure Same (t after : Transaction) : Prop where
  kind : after.kind = t.kind
  request : after.request = t.request
  lastResponse : after.lastResponse = t.lastResponse
  state : after.state = t.state

/-- No ACK is queued, and none is forgotten. -/
def SameAck (t after : Transaction) : Prop := .ack ∈ after.queued ↔ .ack ∈ t.queued

/-- A step of a client transaction that reports nothing. -/
structure Steady (t after : Transaction) : Prop where
  kind : after.kind = t.kind
  request : after.request = t.request
  lastResponse : after.lastResponse = t.lastResponse
  state : after.state = t.state ∨ after.state = .terminated
  acks : t.SameAck after

/-- A part of the work reports nothing, and leaves no work that does. -/
def Steadies (t : Transaction) (part : Part) : Prop :=
  OnReturn part fun (after, frames) => t.Steady after ∧ ∀ frame ∈ frames, Idle frame

variable {t after : Transaction} {kind : Kind}

theorem queueMessage_same (message : Message) : OnReturn (t.queueMessage message) t.Same := by
  unfold queueMessage record
  refine Checked.onReturn_bind.mpr (Checked.onReturn_deref.mpr fun channel _ => ?_)
  rw [Checked.onReturn_pure]
  split <;> exact ⟨rfl, rfl, rfl, rfl⟩

theorem queueMessage_queued (message : Message) :
    OnReturn (t.queueMessage message) fun after => after.queued = t.queued ++ [message] := by
  unfold queueMessage record
  refine Checked.onReturn_bind.mpr (Checked.onReturn_deref.mpr fun channel _ => ?_)
  rw [Checked.onReturn_pure]
  split <;> rfl

/-- What is queued in place of an ACK is none. -/
theorem queueMessage_sameAck {message : Message} (other : message ≠ .ack) :
    OnReturn (t.queueMessage message) t.SameAck := by
  refine (queueMessage_queued message).mono fun after queued => ?_
  rw [SameAck, queued, List.mem_append, List.mem_singleton]
  exact or_iff_left other.symm

namespace Steady

theorem refl (t : Transaction) : t.Steady t := ⟨rfl, rfl, rfl, .inl rfl, Iff.rfl⟩

/-- The other fields may change. -/
theorem same (steady : t.Steady after) {other : Transaction} (same : after.Same other)
    (acks : after.SameAck other) : t.Steady other where
  kind := same.kind.trans steady.kind
  request := same.request.trans steady.request
  lastResponse := same.lastResponse.trans steady.lastResponse
  state := by
    rw [same.state]
    exact steady.state
  acks := acks.trans steady.acks

theorem queueMessage (steady : t.Steady after) {message : Message} (other : message ≠ .ack) :
    OnReturn (after.queueMessage message) t.Steady :=
  ((queueMessage_same message).and (queueMessage_sameAck other)).mono fun _ queued =>
    steady.same queued.1 queued.2

theorem queueLastResponse (steady : t.Steady after) : OnReturn after.queueLastResponse t.Steady := by
  unfold Transaction.queueLastResponse
  exact Checked.onReturn_bind.mpr (Checked.onReturn_deref.mpr fun resp _ => steady.queueMessage (nofun))

theorem startTimer (steady : t.Steady after) (timer : Timer) : t.Steady (after.startTimer timer) :=
  steady.same ⟨rfl, rfl, rfl, rfl⟩ Iff.rfl

/-- A part that does no more. -/
theorem rest (steady : t.Steady after) : t.Steadies (.ok (after, [])) := ⟨steady, List.forall_mem_nil _⟩

theorem queues {queued : Checked Transaction} (steady : OnReturn queued t.Steady) :
    t.Steadies (do let t ← queued; return (t, [])) :=
  Checked.onReturn_bind.mpr (steady.mono fun _ steady => steady.rest)

/-- A part whose frames are followed by more idle work. -/
theorem followed {part : Part} {more : List (Frame Task)} (steadies : t.Steadies part)
    (idle : ∀ frame ∈ more, Idle frame) :
    t.Steadies (do let (t, frames) ← part; return (t, frames ++ more)) := by
  apply Checked.onReturn_bind.mpr
  apply steadies.mono
  intro (after, frames) ⟨steady, before⟩
  exact ⟨steady, List.forall_mem_append.mpr ⟨before, idle⟩⟩

end Steady

theorem dropped_outside {before after : Dialog} : ∀ frame ∈ dropped before after, frame = .outside := by
  unfold dropped
  split <;> simp

theorem dropped_idle {before after : Dialog} : ∀ frame ∈ dropped before after, Idle frame := by
  intro frame among
  rw [dropped_outside frame among]
  exact ⟨trivial, rfl⟩

namespace Steady

theorem updateDialog (steady : t.Steady after) (asUas : Bool) : t.Steadies (after.updateDialog asUas) := by
  unfold Transaction.updateDialog
  split
  · exact steady.rest
  · next dialog _ =>
      apply Checked.onReturn_bind.mpr
      cases dialog.update 0 after.request after.lastResponse (after.state = .terminated) asUas with
      | error fault => trivial
      | ok result => exact ⟨steady.same ⟨rfl, rfl, rfl, rfl⟩ Iff.rfl, dropped_idle⟩

theorem terminate (steady : t.Steady after) : t.Steadies after.terminate := by
  unfold Transaction.terminate
  split
  · exact steady.rest
  · have ended : t.Steady { after with state := .terminated } :=
      ⟨steady.kind, steady.request, steady.lastResponse, .inr rfl, steady.acks⟩
    apply followed
    · unfold informDialog
      split
      · exact ended.updateDialog _
      · exact ended.rest
    · simp [Idle, Wordless, isSend]

theorem notifyTimeout (steady : t.Steady after) (suspect : Bool) : t.Steadies (after.notifyTimeout suspect) := by
  unfold Transaction.notifyTimeout
  split
  · exact ⟨steady.same ⟨rfl, rfl, rfl, rfl⟩ Iff.rfl, List.forall_mem_nil _⟩
  · exact ⟨steady, by simp [Idle, Wordless, isSend]⟩

theorem invoke (steady : t.Steady after) (callback : Callback) (listeners : List Listener) :
    t.Steadies (after.invoke callback listeners) := by
  unfold Transaction.invoke Transaction.record
  split
  · exact steady.rest
  · refine ⟨?_, by simp [Idle, Wordless, isSend]⟩
    split
    · exact steady.same ⟨rfl, rfl, rfl, rfl⟩ Iff.rfl
    · exact steady

theorem setTransactionTerminated (steady : t.Steady after) : t.Steadies after.setTransactionTerminated :=
  ⟨steady.same ⟨rfl, rfl, rfl, rfl⟩ Iff.rfl, by simp [Idle, Wordless, isSend]⟩

theorem finishCompleted (steady : t.Steady after) : t.Steadies after.finishCompleted := by
  unfold Transaction.finishCompleted
  refine Checked.onReturn_bind.mpr (Checked.onReturn_deref.mpr fun channel _ => ?_)
  split
  · exact ⟨steady, by simp [Idle, Wordless, isSend]⟩
  · exact (steady.startTimer .k).rest

theorem onTimer (steady : t.Steady after) (timer : Timer) (suspect : Bool) :
    t.Steadies (after.onTimer timer suspect) := by
  have again : t.Steadies after.retransmit := queues (steady.queueMessage (nofun))
  have idle : ∀ timer : Timer, ∀ frame ∈ [Frame.task (Task.stopSource timer)], Idle frame := by
    simp [Idle, Wordless, isSend]
  have terminating : t.Steadies (.ok (after, [.task .terminate])) := ⟨steady, by simp [Idle, Wordless, isSend]⟩
  have last : t.Steadies (do let t ← after.queueLastResponse; return (t, [])) := queues steady.queueLastResponse
  unfold Transaction.onTimer stop
  split
  · split
    · exact again
    · exact steady.rest
  · refine followed ?_ (idle _)
    split
    · exact steady.notifyTimeout suspect
    · exact steady.rest
  · refine followed ?_ (idle _)
    split
    · exact terminating
    · exact steady.rest
  · refine followed ?_ (idle _)
    split
    · exact terminating
    · exact steady.rest
  · split
    · exact again
    · exact followed steady.rest (idle _)
  · refine followed ?_ (idle _)
    split
    · exact steady.notifyTimeout suspect
    · exact steady.rest
  · split
    · exact last
    · exact followed steady.rest (idle _)
  · refine followed ?_ (idle _)
    split
    · exact terminating
    · exact steady.rest
  all_goals exact followed terminating (idle _)

end Steady

/-- A step of a client transaction that may send the request. -/
structure Sends (t after : Transaction) : Prop where
  kind : after.kind = t.kind
  request : after.request = t.request
  lastResponse : after.lastResponse = t.lastResponse
  state : after.state = t.state ∨ after.state ∈ [.terminated, .trying, .calling]
  acks : t.SameAck after

/-- A part of the work that may send the request, and leave the work to send it. -/
def Launches (t : Transaction) (part : Part) : Prop :=
  OnReturn part fun (after, frames) => t.Sends after ∧ ∀ frame ∈ frames, Wordless frame

theorem Steady.sends (steady : t.Steady after) : t.Sends after where
  kind := steady.kind
  request := steady.request
  lastResponse := steady.lastResponse
  state := steady.state.imp_right fun terminated => by simp [terminated]
  acks := steady.acks

theorem Sends.queueRequest (sends : t.Sends after) :
    t.Launches (do let t ← after.queueMessage .request; return (t, [])) := by
  have queued := (@queueMessage_same after .request).and (queueMessage_sameAck (nofun))
  refine Checked.onReturn_bind.mpr (queued.mono fun last kept => ?_)
  obtain ⟨same, acks⟩ := kept
  refine ⟨⟨same.kind.trans sends.kind, same.request.trans sends.request,
    same.lastResponse.trans sends.lastResponse, ?_, acks.trans sends.acks⟩, List.forall_mem_nil _⟩
  rw [same.state]
  exact sends.state

theorem sendRequest_launches (t : Transaction) : t.Launches t.sendRequest := by
  unfold sendRequest
  split
  · unfold ictSendRequest
    refine Checked.onReturn_bind.mpr (Checked.onReturn_deref.mpr fun channel _ => Sends.queueRequest ?_)
    split <;> exact ⟨rfl, rfl, rfl, .inr (by simp [startTimer]), Iff.rfl⟩
  · unfold nictSendRequest
    refine Checked.onReturn_bind.mpr (Checked.onReturn_deref.mpr fun channel _ => Sends.queueRequest ?_)
    split <;> exact ⟨rfl, rfl, rfl, .inr (by simp [startTimer]), Iff.rfl⟩
  · exact ⟨(Steady.refl t).sends, List.forall_mem_nil _⟩

theorem send_launches (outlet : Outlet) (channel : Server.PeerChannel) : t.Launches (t.send outlet channel) := by
  unfold send
  split
  · refine (sendRequest_launches _).mono ?_
    intro (after, frames) ⟨sends, silent⟩
    exact ⟨⟨sends.kind, sends.request, sends.lastResponse, sends.state, sends.acks⟩, silent⟩
  all_goals exact ⟨⟨rfl, rfl, rfl, .inl rfl, Iff.rfl⟩, by simp [Wordless]⟩

theorem sendRequestTo_cases (outlet : Outlet) (channel : Server.PeerChannel) (busy : Bool) :
    t.Steadies (t.sendRequestTo outlet channel busy) ∨
      (t.state = .init ∧ t.Launches (t.sendRequestTo outlet channel busy)) := by
  unfold sendRequestTo
  split
  · exact .inl (Steady.refl t).rest
  · next ready =>
      rw [not_or, not_not] at ready
      split
      · exact .inl (Steady.refl t).rest
      · refine .inr ⟨ready.1, Checked.onReturn_bind.mpr (((Steady.refl t).updateDialog false).mono ?_)⟩
        intro (after, frames) ⟨steady, idle⟩
        exact ⟨steady.sends,
          List.forall_mem_append.mpr ⟨fun frame among => (idle frame among).1, List.forall_mem_singleton.mpr trivial⟩⟩

/-- What the application can call: only the request that is not sent yet is sent. -/
theorem enter_cases (client : t.kind.isClient = true) (call : Call) :
    t.Steadies (t.enter call) ∨ (t.state = .init ∧ t.Launches (t.enter call)) := by
  have still : t.Steadies (.ok (t, [])) := (Steady.refl t).rest
  cases call with
  | terminate => exact .inl ⟨Steady.refl t, by simp [Idle, Wordless, isSend]⟩
  | sendRequest outlet channel busy =>
      have entered : t.enter (.sendRequest outlet channel busy) = t.sendRequestTo outlet channel busy :=
        if_pos client
      rw [entered]
      exact sendRequestTo_cases outlet channel busy
  | sendResponse resp channel =>
      have entered : t.enter (.sendResponse resp channel) = .ok (t, []) := if_pos client
      rw [entered]
      exact .inl still
  | channelReady =>
      have entered : t.enter .channelReady =
          if t.kind.isClient ∧ t.channel.isSome then t.onChannelReady else .ok (t, []) := rfl
      rw [entered]
      unfold onChannelReady
      split
      · split
        · next init => exact .inr ⟨init, sendRequest_launches t⟩
        · exact .inl still
      · exact .inl still
  | channelEnded =>
      have entered : t.enter .channelEnded =
          if t.kind.isClient ∧ t.channel.isSome then t.onChannelEnded else .ok (t, []) := rfl
      rw [entered]
      unfold onChannelEnded
      split
      · refine .inl ⟨Steady.refl t, List.forall_mem_append.mpr ⟨?_, by simp [Idle, Wordless, isSend]⟩⟩
        split
        · simp [Idle, Wordless, isSend]
        · exact List.forall_mem_nil _
      · exact .inl still
  | setDialog dialog => exact .inl ⟨⟨rfl, rfl, rfl, .inl rfl, Iff.rfl⟩, List.forall_mem_nil _⟩
  | setListeners listeners => exact .inl ⟨⟨rfl, rfl, rfl, .inl rfl, Iff.rfl⟩, List.forall_mem_nil _⟩

/-- What a response does to a client transaction that it concerns. -/
structure Receives (resp : Response) (t after : Transaction) (frames : List (Frame Task)) : Prop where
  kind : after.kind = t.kind
  request : after.request = t.request
  hears : Hears t.kind resp t.state after.state
  acks : .ack ∈ after.queued → .ack ∈ t.queued ∨
    (t.kind = .ict ∧ after.state = .completed ∧ 300 ≤ resp.statusCode)
  heard : awaited after frames = [] ∨ awaited after frames = [resp]
  unsent : ∀ frame ∈ frames, isSend frame = false
  unbegun : ∀ event, .task (.begin event) ∉ frames

/-- A response that rejects comes again to an INVITE transaction, which queues its ACK again. -/
structure Repeats (resp : Response) (t after : Transaction) : Prop where
  ict : t.kind = .ict
  completed : t.state = .completed
  rejects : 300 ≤ resp.statusCode
  same : t.Same after
  acks : .ack ∈ after.queued

/-- What `belle_sip_client_transaction_notify_response` does. -/
structure Notifies (resp : Response) (t after : Transaction) (frames : List (Frame Task)) : Prop where
  kind : after.kind = t.kind
  request : after.request = t.request
  state : after.state = t.state
  queued : after.queued = t.queued
  heard : awaited after frames = [] ∨ awaited after frames = [resp]
  unsent : ∀ frame ∈ frames, isSend frame = false
  unbegun : ∀ event, .task (.begin event) ∉ frames

theorem createDialog_only : ∃ dialog, t.createDialog.1 = { t with dialog := dialog } := by
  unfold createDialog
  split
  · exact ⟨t.dialog, rfl⟩
  · exact ⟨_, rfl⟩

theorem chooseDialog_only (resp : Response) (found : Option Dialog) :
    OnReturn (t.chooseDialog resp found) fun result => ∃ dialog, result.1 = { t with dialog := dialog } := by
  have same : ∃ dialog, t = { t with dialog := dialog } := ⟨t.dialog, rfl⟩
  unfold chooseDialog
  split
  · next dialog _ =>
      split
      · apply Checked.onReturn_bind.mpr
        cases dialog.matchMessage resp.toHeaders false with
        | error fault => trivial
        | ok matches' =>
            cases matches' with
            | true => exact same
            | false =>
                cases found with
                | none => exact createDialog_only
                | some other => exact same
      · exact same
  · split
    · exact createDialog_only
    · exact same

/-- A response that is notified only changes the dialog, and it is reported unless the dialog knows it. -/
theorem notifyResponse_cases (resp : Response) (found : Option Dialog) :
    OnReturn (t.notifyResponse resp found) fun (after, frames) =>
      (∃ dialog, after = { t with dialog := dialog, lastResponse := some resp }) ∧
      ∃ drops : List (Frame Task), (∀ frame ∈ drops, frame = .outside) ∧
        (frames = drops ∨ ∃ inDialog, frames = drops ++ after.reportResponse inDialog) := by
  unfold notifyResponse
  refine Checked.onReturn_bind.mpr ((chooseDialog_only resp found).mono ?_)
  rintro ⟨_, chosen⟩ ⟨first, rfl⟩
  cases chosen with
  | none => exact ⟨⟨first, rfl⟩, [], List.forall_mem_nil _, .inr ⟨false, rfl⟩⟩
  | some chosen =>
      obtain ⟨dialog, own⟩ := chosen
      apply Checked.onReturn_bind.mpr
      cases dialog.update 0 t.request (some resp) (t.state = .terminated) false with
      | error fault => trivial
      | ok result =>
          obtain ⟨later, retransmission⟩ := result
          cases own
          all_goals
            cases retransmission with
            | true => exact ⟨⟨_, rfl⟩, _, dropped_outside, .inl rfl⟩
            | false => exact ⟨⟨_, rfl⟩, _, dropped_outside, .inr ⟨true, rfl⟩⟩

variable {found : Option Dialog} {resp : Response}

theorem reportResponse_awaited (last : t.lastResponse = some resp) (inDialog : Bool) :
    awaited t (t.reportResponse inDialog) = [resp] := by
  unfold reportResponse
  split <;> simp [awaited, report, last]

theorem reportResponse_unsent (t : Transaction) (inDialog : Bool) : ∀ frame ∈ t.reportResponse inDialog,
    isSend frame = false ∧ ∀ event, frame ≠ .task (.begin event) := by
  unfold reportResponse
  split <;> simp [isSend]

theorem notifyResponse_notifies (resp : Response) (found : Option Dialog) :
    OnReturn (t.notifyResponse resp found) fun (after, frames) => Notifies resp t after frames := by
  apply (notifyResponse_cases resp found).mono
  rintro ⟨_, frames⟩ ⟨⟨dialog, rfl⟩, drops, outside, cases⟩
  have silent (other : Transaction) : awaited other drops = [] :=
    awaited_silent fun frame among => by rw [outside frame among]; trivial
  have idle : ∀ frame ∈ drops, isSend frame = false ∧ ∀ event, frame ≠ .task (.begin event) := by
    intro frame among
    rw [outside frame among]
    simp [isSend]
  rcases cases with rfl | ⟨inDialog, rfl⟩
  · exact ⟨rfl, rfl, rfl, rfl, .inl (silent _), fun frame among => (idle frame among).1,
      fun event among => (idle _ among).2 event rfl⟩
  · have all (other : Transaction) := List.forall_mem_append.mpr ⟨idle, other.reportResponse_unsent inDialog⟩
    refine ⟨rfl, rfl, rfl, rfl, .inr ?_, fun frame among => (all _ frame among).1,
      fun event among => (all _ _ among).2 event rfl⟩
    rw [awaited_append, silent, List.nil_append]
    exact reportResponse_awaited rfl inDialog

/-- A response that is notified in the next state. -/
theorem receives_of_notifies {moved : Transaction} {more : List (Frame Task)} (sameKind : moved.kind = t.kind)
    (sameRequest : moved.request = t.request) (hears : Hears t.kind resp t.state moved.state)
    (acks : .ack ∈ moved.queued → .ack ∈ t.queued ∨
      (t.kind = .ict ∧ moved.state = .completed ∧ 300 ≤ resp.statusCode)) (idle : ∀ frame ∈ more, Idle frame) :
    OnReturn (do let (t, frames) ← moved.notifyResponse resp found; return (t, frames ++ more))
      fun (after, frames) => Receives resp t after frames := by
  refine Checked.onReturn_bind.mpr ((notifyResponse_notifies resp found).mono ?_)
  intro (after, frames) notifies
  have silent : awaited after more = [] := awaited_silent fun frame among => (idle frame among).1
  exact {
    kind := notifies.kind.trans sameKind
    request := notifies.request.trans sameRequest
    hears := by
      rw [notifies.state]
      exact hears
    acks := by
      rw [notifies.state, notifies.queued]
      exact acks
    heard := by
      rw [awaited_append, silent, List.append_nil]
      exact notifies.heard
    unsent := List.forall_mem_append.mpr ⟨notifies.unsent, fun frame among => (idle frame among).2⟩
    unbegun := by
      intro event among
      rcases List.mem_append.mp among with among | among
      · exact notifies.unbegun event among
      · exact (idle _ among).1 }

/-- A response that is notified last. -/
theorem receives_of_notifies_last {moved : Transaction} (sameKind : moved.kind = t.kind)
    (sameRequest : moved.request = t.request) (hears : Hears t.kind resp t.state moved.state)
    (queued : moved.queued = t.queued) :
    OnReturn (moved.notifyResponse resp found) fun (after, frames) => Receives resp t after frames := by
  refine (notifyResponse_notifies resp found).mono ?_
  intro (after, frames) notifies
  refine ⟨notifies.kind.trans sameKind, notifies.request.trans sameRequest, ?_, fun acked => .inl ?_, notifies.heard,
    notifies.unsent, notifies.unbegun⟩
  · rw [notifies.state]
    exact hears
  · rwa [notifies.queued, queued] at acked

theorem ictProceed_receives (ict : t.kind = .ict) (early : t.state ∈ [.calling, .proceeding]) :
    OnReturn ({ t with state := .proceeding }.ictProceed resp found) fun (after, frames) =>
      Receives resp t after frames := by
  have among : t.state ∈ [.trying, .calling, .proceeding] := List.mem_cons_of_mem _ early
  have unaccepted : t.state ∈ [.calling, .proceeding, .accepted] := by
    simp only [List.mem_cons, List.not_mem_nil, or_false] at early ⊢
    tauto
  unfold ictProceed
  split
  · next rejected =>
      refine Checked.onReturn_bind.mpr ((queueMessage_same .ack).mono fun moved same => ?_)
      have kind : moved.kind = t.kind := same.kind
      have request : moved.request = t.request := same.request
      have state : moved.state = .completed := same.state
      apply receives_of_notifies kind request
      · rw [state]
        exact .completes among (Nat.le_trans (by decide) rejected) (.inr rejected)
      · exact fun _ => .inr ⟨ict, state, rejected⟩
      · exact List.forall_mem_singleton.mpr ⟨trivial, rfl⟩
  · next success =>
      split
      · next final =>
          apply receives_of_notifies_last
          · rfl
          · rfl
          · exact .accepts ict unaccepted final (Nat.lt_of_not_le success)
          · rfl
      · next below =>
          have provisional : Hears t.kind resp t.state .proceeding := .provisional among (Nat.lt_of_not_le below)
          split
          · apply receives_of_notifies_last
            · rfl
            · rfl
            · exact provisional
            · rfl
          · exact ⟨rfl, rfl, provisional, .inl, .inl rfl, List.forall_mem_nil _, fun _ among => List.not_mem_nil among⟩

theorem ictOnResponse_cases (ict : t.kind = .ict) :
    t.Steadies (t.ictOnResponse resp found) ∨
      OnReturn (t.ictOnResponse resp found) (fun (after, frames) => Receives resp t after frames) ∨
      OnReturn (t.ictOnResponse resp found) fun (after, frames) => Repeats resp t after ∧ frames = [] := by
  have still : t.Steadies (.ok (t, [])) := (Steady.refl t).rest
  unfold ictOnResponse
  split
  · next calling => exact .inr (.inl (ictProceed_receives ict (by simp [calling])))
  · next proceeding =>
      have same : { t with state := .proceeding } = t := by rw [← proceeding]
      have receives : OnReturn ({ t with state := .proceeding }.ictProceed resp found) fun (after, frames) =>
          Receives resp t after frames := ictProceed_receives ict (by simp [proceeding])
      rw [same] at receives
      exact .inr (.inl receives)
  · next accepted =>
      split
      · next success =>
          refine .inr (.inl (receives_of_notifies_last rfl rfl ?_ rfl))
          rw [accepted]
          exact .accepts ict (by simp) success.1 success.2
      · exact .inl still
  · next completed =>
      split
      · next again =>
          have queued := (queueMessage_same (t := t) .ack).and (queueMessage_queued .ack)
          refine .inr (.inr (Checked.onReturn_bind.mpr (queued.mono fun moved ⟨same, queued⟩ => ?_)))
          exact ⟨⟨ict, completed, again.1, same, by simp [queued]⟩, rfl⟩
      · exact .inl still
  · exact .inl still

theorem nictSetCompleted_receives (nict : t.kind = .nict) (early : t.state ∈ [.trying, .proceeding])
    (final : 200 ≤ resp.statusCode) :
    OnReturn (t.nictSetCompleted resp found) fun (after, frames) => Receives resp t after frames := by
  unfold nictSetCompleted
  split
  · trivial
  · apply receives_of_notifies
    · rfl
    · rfl
    · refine .completes ?_ final (.inl nict)
      simp only [List.mem_cons, List.not_mem_nil, or_false] at early ⊢
      tauto
    · exact .inl
    · exact List.forall_mem_singleton.mpr ⟨trivial, rfl⟩

theorem nictOnResponse_cases (nict : t.kind = .nict) :
    t.Steadies (t.nictOnResponse resp found) ∨
      OnReturn (t.nictOnResponse resp found) fun (after, frames) => Receives resp t after frames := by
  have still : t.Steadies (.ok (t, [])) := (Steady.refl t).rest
  unfold nictOnResponse
  split
  · next trying =>
      split
      · next below =>
          refine .inr (receives_of_notifies_last rfl rfl ?_ rfl)
          exact .provisional (by simp [trying]) below
      · next final => exact .inr (nictSetCompleted_receives nict (by simp [trying]) (Nat.le_of_not_lt final))
  · next proceeding =>
      split
      · next final => exact .inr (nictSetCompleted_receives nict (by simp [proceeding]) final)
      · exact .inl still
  · exact .inl still

/-- A response is ignored by a client transaction, concerns it, or rejects its request again. -/
theorem onResponse_cases (resp : Response) (found : Option Dialog) :
    t.Steadies (t.onResponse resp found) ∨
      OnReturn (t.onResponse resp found) (fun (after, frames) => Receives resp t after frames) ∨
      OnReturn (t.onResponse resp found) fun (after, frames) => Repeats resp t after ∧ frames = [] := by
  unfold onResponse
  split
  · next ict => exact ictOnResponse_cases ict
  · next nict => exact (nictOnResponse_cases nict).imp_right .inl
  · exact .inl (Steady.refl t).rest

/-- What a task does to a client transaction. -/
theorem perform_cases (client : t.kind.isClient = true) (task : Task) :
    t.Steadies (t.perform task) ∨
      ((t.state = .init ∨ isSend (.task task) = true) ∧ t.Launches (t.perform task)) ∨
      (task = .invokeListeners .processResponseEvent ∧
        OnReturn (t.perform task) fun (after, frames) => after = t ∧ ∀ frame ∈ frames, Idle frame) ∨
      ∃ resp found, task = .begin (.response resp found) ∧
        (OnReturn (t.perform task) (fun (after, frames) => Receives resp t after frames) ∨
          OnReturn (t.perform task) fun (after, frames) => Repeats resp t after ∧ frames = []) := by
  have still : t.Steadies (.ok (t, [])) := (Steady.refl t).rest
  cases task with
  | enter call =>
      rcases enter_cases client call with steadies | launches
      · exact .inl steadies
      · exact .inr (.inl ⟨.inl launches.1, launches.2⟩)
  | begin event =>
      cases event with
      | timer timer suspect =>
          have begun : t.perform (.begin (.timer timer suspect)) =
              if timer ∈ t.sources then t.onTimer timer suspect else .ok (t, []) := rfl
          rw [begun]
          split
          · exact .inl ((Steady.refl t).onTimer timer suspect)
          · exact .inl still
      | response resp found =>
          have begun : t.perform (.begin (.response resp found)) =
              if t.kind.isClient ∧ 0 < t.known then t.onResponse resp found else .ok (t, []) := rfl
          rw [begun]
          split
          · rcases onResponse_cases resp found with steadies | arrives
            · exact .inl steadies
            · exact .inr (.inr (.inr ⟨resp, found, rfl, arrives⟩))
          · exact .inl still
      | request req =>
          have begun : t.perform (.begin (.request req)) =
              if !t.kind.isClient ∧ 0 < t.known then t.onRequest req else .ok (t, []) := rfl
          rw [begun, client, if_neg (by simp)]
          exact .inl still
  | terminate => exact .inl (Steady.refl t).terminate
  | onTerminate => exact .inl ⟨(Steady.refl t).same ⟨rfl, rfl, rfl, rfl⟩ Iff.rfl, List.forall_mem_nil _⟩
  | setTransactionTerminated => exact .inl (Steady.refl t).setTransactionTerminated
  | removeTransaction => exact .inl ⟨(Steady.refl t).same ⟨rfl, rfl, rfl, rfl⟩ Iff.rfl, List.forall_mem_nil _⟩
  | invokeListeners callback =>
      by_cases response : callback = .processResponseEvent
      · exact .inr (.inr (.inl ⟨by rw [response], rfl, by simp [Idle, Wordless, isSend]⟩))
      · exact .inl ⟨Steady.refl t, by simp [Idle, Wordless, isSend]⟩
  | invoke callback listeners => exact .inl ((Steady.refl t).invoke callback listeners)
  | send outlet channel => exact .inr (.inl ⟨.inr rfl, send_launches outlet channel⟩)
  | startTimerD => exact .inl ((Steady.refl t).startTimer .d).rest
  | finishCompleted => exact .inl (Steady.refl t).finishCompleted
  | reportTimeout =>
      refine .inl ⟨Steady.refl t, ?_⟩
      split
      · exact List.forall_mem_singleton.mpr (by simp [Idle, Wordless, isSend])
      · exact List.forall_mem_nil _
  | stopSource timer => exact .inl ⟨(Steady.refl t).same ⟨rfl, rfl, rfl, rfl⟩ Iff.rfl, List.forall_mem_nil _⟩

end Transaction

/-- What a client transaction has done so far: the responses that have come to it, and those that it has reported. -/
structure Log where
  received : List Response := []
  told : List Response := []
deriving DecidableEq, Repr

def Log.note (log : Log) (arrived heard : List Response) : Log where
  received := log.received ++ arrived
  told := log.told ++ heard

/-- A step that begins with a response. -/
def arriving (config : Config Transaction Task) : Input Call Event → List Response
  | .tick =>
      match config.stack.head? with
      | some (.task (.begin (.response resp _))) => [resp]
      | _ => []
  | _ => []

/-- The states before the first response, and the last one. -/
def unheardStates : List TransactionState := [.init, .trying, .calling, .terminated]

/-- The invariant of a client transaction of a kind for a request, and of what it has done: `heard` holds of the
responses that have arrived. -/
structure Tracks (kind : Kind) (request : Request) (heard : Response → Prop) (log : Log) (t : Transaction)
    (stack : List (Frame Task)) : Prop where
  client : kind.isClient = true
  kind : t.kind = kind
  request : t.request = request
  reports : Reports t.kind (log.told ++ awaited t stack) t.state
  unsent : (∃ frame ∈ stack, isSend frame = true) →
    log.told ++ awaited t stack = [] ∧ .ack ∉ t.queued ∧ t.state ∈ unheardStates
  alone : ∀ event, .task (.begin event) ∈ stack → stack = [.task (.begin event)]
  arrived : ∀ resp ∈ log.told ++ awaited t stack, heard resp
  begun : ∀ resp found, .task (.begin (.response resp found)) ∈ stack → heard resp
  received : ∀ resp ∈ log.received, heard resp
  rejected : .ack ∈ t.queued → t.kind = .ict ∧ t.state ∈ [.completed, .terminated] ∧
    (∃ resp ∈ log.received, 300 ≤ resp.statusCode) ∧
      ∀ resp ∈ log.told ++ awaited t stack, resp.statusCode < 200 ∨ 300 ≤ resp.statusCode

namespace Tracks

variable {kind : Kind} {request : Request} {heard : Response → Prop} {log : Log} {t : Transaction}
  {rest : List (Frame Task)} {task : Task}

/-- More responses may arrive. -/
theorem mono {stack : List (Frame Task)} (tracks : Tracks kind request heard log t stack) {more : Response → Prop}
    (implies : ∀ resp, heard resp → more resp) : Tracks kind request more log t stack :=
  { tracks with
    arrived := fun resp among => implies resp (tracks.arrived resp among)
    begun := fun resp found among => implies resp (tracks.begun resp found among)
    received := fun resp among => implies resp (tracks.received resp among) }

/-- No event is left behind the first task. -/
theorem unbegun (tracks : Tracks kind request heard log t (.task task :: rest)) :
    ∀ event, .task (.begin event) ∉ rest := by
  intro event among
  have only := tracks.alone event (List.mem_cons_of_mem _ among)
  have same := (List.cons.inj only).2
  rw [same] at among
  exact List.not_mem_nil among

theorem nothing {kind : Kind} {before state : TransactionState} (reports : Reports kind [] before)
    (moves : state = before ∨ state ∈ [.terminated, .trying, .calling]) : Reports kind [] state := by
  rcases moves with same | among
  · rw [same]
    exact reports
  · simp only [List.mem_cons, List.not_mem_nil, or_false] at among
    rcases among with rfl | rfl | rfl
    · exact ⟨List.Pairwise.nil, trivial⟩
    · exact Reports.none _ (by simp)
    · exact Reports.none _ (by simp)

/-- What is due is reported or still to be reported. -/
theorem due :
    log.told ++ awaited t [.task task] ++ awaited t rest = log.told ++ awaited t (.task task :: rest) := by
  rw [List.append_assoc, ← awaited_append, List.singleton_append]

/-- What a completed INVITE transaction has reported. -/
theorem completed {stack : List (Frame Task)} (tracks : Tracks kind request heard log t stack) (ict : t.kind = .ict)
    (completed : t.state = .completed) :
    ∀ resp ∈ log.told ++ awaited t stack, resp.statusCode < 200 ∨ 300 ≤ resp.statusCode := by
  have admitted := tracks.reports.admitted
  rw [completed] at admitted
  intro resp among
  rcases admitted resp among with below | nict | rejects
  · exact .inl below
  · exact absurd (ict.symm.trans nict) (by decide)
  · exact .inr rejects

@[simp] theorem note_nothing (log : Log) : log.note [] [] = log := by
  simp [Log.note]

/-- Responses that may arrive have arrived, and nothing else is done. -/
theorem notes {stack : List (Frame Task)} (tracks : Tracks kind request heard log t stack) {arrived : List Response}
    (genuine : ∀ resp ∈ arrived, heard resp) : Tracks kind request heard (log.note arrived []) t stack := by
  have told : (log.note arrived []).told = log.told := List.append_nil log.told
  refine { tracks with reports := ?_, unsent := ?_, arrived := ?_, received := ?_, rejected := ?_ }
  · rw [told]
    exact tracks.reports
  · rw [told]
    exact tracks.unsent
  · rw [told]
    exact tracks.arrived
  · exact List.forall_mem_append.mpr ⟨tracks.received, genuine⟩
  · intro acked
    obtain ⟨ict, ended, ⟨other, among, rejects⟩, all⟩ := tracks.rejected acked
    rw [told]
    exact ⟨ict, ended, ⟨other, List.mem_append_left _ among, rejects⟩, all⟩

section
variable {after : Transaction} {frames : List (Frame Task)} {arrived : List Response}

/-- A step that is steady, or reports the last response. -/
theorem steady (tracks : Tracks kind request heard log t (.task task :: rest)) (steady : t.Steady after)
    (idle : ∀ frame ∈ frames, Idle frame) (genuine : ∀ resp ∈ arrived, heard resp) :
    Tracks kind request heard (log.note arrived (awaited t [.task task])) after (frames ++ rest) := by
  have silent : awaited after (frames ++ rest) = awaited t rest := by
    rw [awaited_append, awaited_silent fun frame among => (idle frame among).1, List.nil_append,
      awaited_congr steady.lastResponse]
  have unbegun : ∀ event, .task (.begin event) ∉ frames ++ rest := by
    intro event among
    rcases List.mem_append.mp among with among | among
    · exact (idle _ among).1
    · exact tracks.unbegun event among
  have same : (log.note arrived (awaited t [.task task])).told ++ awaited after (frames ++ rest) =
      log.told ++ awaited t (.task task :: rest) := by
    rw [silent]
    exact due
  exact {
    client := tracks.client
    kind := steady.kind.trans tracks.kind
    request := steady.request.trans tracks.request
    reports := by
      rw [same, steady.kind]
      refine ⟨tracks.reports.ordered, ?_⟩
      rcases steady.state with same | terminated
      · rw [same]
        exact tracks.reports.admitted
      · rw [terminated]
        exact trivial
    unsent := by
      rintro ⟨frame, among, send⟩
      rw [same]
      have before : frame ∈ Frame.task task :: rest := by
        rcases List.mem_append.mp among with among | among
        · exact absurd send (by simp [(idle frame among).2])
        · exact List.mem_cons_of_mem _ among
      obtain ⟨none_, unacked, early⟩ := tracks.unsent ⟨frame, before, send⟩
      refine ⟨none_, mt steady.acks.mp unacked, ?_⟩
      rcases steady.state with same | terminated
      · rw [same]
        exact early
      · rw [terminated]
        decide
    alone := fun event among => absurd among (unbegun event)
    arrived := by
      rw [same]
      exact tracks.arrived
    begun := fun resp found among => absurd among (unbegun _)
    received := List.forall_mem_append.mpr ⟨tracks.received, genuine⟩
    rejected := by
      intro acked
      rw [same, steady.kind]
      obtain ⟨ict, ended, ⟨resp, among, rejects⟩, all⟩ := tracks.rejected (steady.acks.mp acked)
      refine ⟨ict, ?_, ⟨resp, List.mem_append_left _ among, rejects⟩, all⟩
      rcases steady.state with same | terminated
      · rw [same]
        exact ended
      · rw [terminated]
        decide }

/-- A step that sends the request: nothing has been reported. -/
theorem launched (tracks : Tracks kind request heard log t (.task task :: rest))
    (first : t.state = .init ∨ isSend (.task task) = true) (sends : t.Sends after)
    (silent : ∀ frame ∈ frames, Wordless frame) (genuine : ∀ resp ∈ arrived, heard resp) :
    Tracks kind request heard (log.note arrived (awaited t [.task task])) after (frames ++ rest) := by
  have nothing_ : log.told ++ awaited t (.task task :: rest) = [] ∧ .ack ∉ t.queued ∧ t.state ∈ unheardStates := by
    rcases first with init | send
    · have admitted := tracks.reports.admitted
      rw [init] at admitted
      refine ⟨admitted, fun acked => ?_, ?_⟩
      · have ended := (tracks.rejected acked).2.1
        rw [init] at ended
        exact absurd ended (by decide)
      · rw [init]
        decide
    · exact tracks.unsent ⟨_, List.mem_cons_self, send⟩
  obtain ⟨none_, unacked, early⟩ := nothing_
  have unheard : after.state ∈ unheardStates := by
    rcases sends.state with same | among
    · rw [same]
      exact early
    · simp only [unheardStates, List.mem_cons, List.not_mem_nil, or_false] at among ⊢
      tauto
  have still : (log.note arrived (awaited t [.task task])).told ++ awaited after (frames ++ rest) = [] := by
    rw [awaited_append, awaited_silent silent, List.nil_append, awaited_congr sends.lastResponse]
    exact due.trans none_
  have unbegun : ∀ event, .task (.begin event) ∉ frames ++ rest := by
    intro event among
    rcases List.mem_append.mp among with among | among
    · exact silent _ among
    · exact tracks.unbegun event among
  have reports := tracks.reports
  rw [none_] at reports
  exact {
    client := tracks.client
    kind := sends.kind.trans tracks.kind
    request := sends.request.trans tracks.request
    reports := by
      rw [still, sends.kind]
      exact nothing reports sends.state
    unsent := fun _ => ⟨still, mt sends.acks.mp unacked, unheard⟩
    alone := fun event among => absurd among (unbegun event)
    arrived := by
      rw [still]
      exact List.forall_mem_nil _
    begun := fun resp found among => absurd among (unbegun _)
    received := List.forall_mem_append.mpr ⟨tracks.received, genuine⟩
    rejected := fun acked => absurd acked (mt sends.acks.mp unacked) }

end

section
variable {resp : Response} {found : Option Dialog} {after : Transaction} {frames : List (Frame Task)}

/-- The response that a step begins with is the only work. -/
theorem begins (tracks : Tracks kind request heard log t (.task (.begin (.response resp found)) :: rest)) :
    rest = [] ∧ Tracks kind request heard (log.note [resp] []) t [.task (.begin (.response resp found))] := by
  have only := tracks.alone _ List.mem_cons_self
  obtain rfl : rest = [] := (List.cons.inj only).2
  exact ⟨rfl, tracks.notes (List.forall_mem_singleton.mpr (tracks.begun resp found List.mem_cons_self))⟩

/-- A step that receives a response. -/
theorem receives (tracks : Tracks kind request heard log t [.task (.begin (.response resp found))])
    (latest : resp ∈ log.received) (receives : Transaction.Receives resp t after frames) :
    Tracks kind request heard log after frames := by
  have none_ : awaited t [.task (.begin (.response resp found))] = [] := rfl
  have reports := tracks.reports
  have arrived := tracks.arrived
  rw [none_, List.append_nil] at reports arrived
  have unacked : .ack ∉ t.queued := fun acked => receives.hears.not_ended (tracks.rejected acked).2.1
  have now := receives.hears.reports reports receives.heard
  exact {
    client := tracks.client
    kind := receives.kind.trans tracks.kind
    request := receives.request.trans tracks.request
    reports := by
      rw [receives.kind]
      exact now
    unsent := by
      rintro ⟨frame, among, send⟩
      exact absurd send (by simp [receives.unsent frame among])
    alone := fun event among => absurd among (receives.unbegun event)
    arrived := by
      refine List.forall_mem_append.mpr ⟨arrived, ?_⟩
      have this := tracks.begun resp found List.mem_cons_self
      rcases receives.heard with none_ | one
      · rw [none_]
        exact List.forall_mem_nil _
      · rw [one]
        exact List.forall_mem_singleton.mpr this
    begun := fun resp found among => absurd among (receives.unbegun _)
    received := tracks.received
    rejected := by
      intro acked
      obtain ⟨ict, completed, rejects⟩ := (receives.acks acked).resolve_left unacked
      refine ⟨receives.kind.trans ict, by simp [completed], ⟨resp, latest, rejects⟩, ?_⟩
      have admitted := now.admitted
      rw [completed] at admitted
      intro resp among
      rcases admitted resp among with below | nict | rejects
      · exact .inl below
      · rw [ict] at nict
        cases nict
      · exact .inr rejects }

/-- A step that queues the ACK again. -/
theorem repeats (tracks : Tracks kind request heard log t [.task (.begin (.response resp found))])
    (latest : resp ∈ log.received) (repeats : Transaction.Repeats resp t after) :
    Tracks kind request heard log after [] := by
  have none_ : awaited t [.task (.begin (.response resp found))] = [] := rfl
  have none_after : awaited after [] = [] := rfl
  have all := tracks.completed repeats.ict repeats.completed
  have reports := tracks.reports
  have arrived := tracks.arrived
  rw [none_] at all reports arrived
  exact {
    client := tracks.client
    kind := repeats.same.kind.trans tracks.kind
    request := repeats.same.request.trans tracks.request
    reports := by
      rw [none_after, repeats.same.kind, repeats.same.state]
      exact reports
    unsent := fun ⟨_, among, _⟩ => absurd among List.not_mem_nil
    alone := fun _ among => absurd among List.not_mem_nil
    arrived := by
      rw [none_after]
      exact arrived
    begun := fun _ _ among => absurd among List.not_mem_nil
    received := tracks.received
    rejected := by
      intro acked
      rw [none_after, repeats.same.kind, repeats.same.state, repeats.completed]
      exact ⟨repeats.ict, List.mem_cons_self, ⟨resp, latest, repeats.rejects⟩, all⟩ }

end

theorem tick (tracks : Tracks kind request heard log t (.task task :: rest)) :
    Tracks kind request heard (log.note (arriving ⟨t, .task task :: rest⟩ .tick) (awaited t [.task task]))
      (program.tick ⟨t, .task task :: rest⟩).state (program.tick ⟨t, .task task :: rest⟩).stack := by
  have cases_ := Transaction.perform_cases (tracks.kind ▸ tracks.client) task
  have genuine : ∀ resp ∈ arriving ⟨t, .task task :: rest⟩ .tick, heard resp := by
    intro resp among
    simp only [arriving, List.head?_cons] at among
    split at among
    next other found same =>
      obtain rfl := List.mem_singleton.mp among
      exact tracks.begun resp found (by rw [Option.some.inj same]; exact List.mem_cons_self)
    next => exact absurd among List.not_mem_nil
  cases ended : t.perform task with
  | error fault =>
      have stopped : program.perform task t = .error fault := ended
      have other : awaited t [.task task] = [] := by
        have ne : Frame.task task ≠ report := by
          intro same
          cases same
          cases ended
        simp [awaited, ne]
      rw [Program.tick_error stopped, other]
      exact tracks.notes genuine
  | ok result =>
      obtain ⟨after, frames⟩ := result
      have done : program.perform task t = .ok (after, frames) := ended
      rw [Program.tick_ok done]
      rw [ended] at cases_
      rcases cases_ with ⟨steady_, idle⟩ | ⟨first, sends, silent⟩ | ⟨rfl, rfl, idle⟩ | ⟨resp, found, rfl, arrives⟩
      · exact tracks.steady steady_ idle genuine
      · exact tracks.launched first sends silent genuine
      · exact tracks.steady (Transaction.Steady.refl after) idle genuine
      · obtain ⟨rfl, begun⟩ := tracks.begins
        have latest : resp ∈ (log.note [resp] []).received := List.mem_append_right _ (List.mem_singleton.mpr rfl)
        rw [List.append_nil]
        rcases arrives with receives | ⟨repeats, rfl⟩
        · exact begun.receives latest receives
        · exact begun.repeats latest repeats

/-- An ACK that is queued stays so. -/
theorem tick_acks (tracks : Tracks kind request heard log t (.task task :: rest)) (acked : .ack ∈ t.queued) :
    .ack ∈ (program.tick ⟨t, .task task :: rest⟩).state.queued := by
  cases ended : t.perform task with
  | error fault =>
      have stopped : program.perform task t = .error fault := ended
      rw [Program.tick_error stopped]
      exact acked
  | ok result =>
      obtain ⟨after, frames⟩ := result
      have done : program.perform task t = .ok (after, frames) := ended
      have cases_ := Transaction.perform_cases (tracks.kind ▸ tracks.client) task
      rw [Program.tick_ok done]
      rw [ended] at cases_
      rcases cases_ with ⟨steady_, _⟩ | ⟨_, sends, _⟩ | ⟨_, rfl, _⟩ | ⟨resp, found, rfl, receives | ⟨repeats, _⟩⟩
      · exact steady_.acks.mpr acked
      · exact sends.acks.mpr acked
      · exact acked
      · exact absurd (tracks.rejected acked).2.1 receives.hears.not_ended
      · exact repeats.acks

/-- Every step keeps the ACK. -/
theorem step_acks {config : Config Transaction Task} (tracks : Tracks kind request heard log config.state config.stack)
    (input : Input Call Event) (acked : .ack ∈ config.state.queued) :
    .ack ∈ (program.step config input).state.queued := by
  obtain ⟨t, stack⟩ := config
  cases input with
  | tick =>
      match stack, tracks with
      | [], _ => exact acked
      | .outside :: _, _ => exact acked
      | .task task :: rest, tracks => exact tracks.tick_acks acked
  | back => match stack with | [] | .task _ :: _ | .outside :: _ => exact acked
  | call call => match stack with | [] | .task _ :: _ | .outside :: _ => exact acked
  | event event => match stack with | [] | .task _ :: _ | .outside :: _ => exact acked

/-- Every step keeps the invariant, with what it does, when the response that it begins with has arrived. -/
theorem step {config : Config Transaction Task} (tracks : Tracks kind request heard log config.state config.stack)
    {input : Input Call Event} (arrives : ∀ resp found, input = .event (.response resp found) → heard resp) :
    Tracks kind request heard (log.note (arriving config input) (reported config input))
      (program.step config input).state (program.step config input).stack := by
  obtain ⟨t, stack⟩ := config
  have still : Tracks kind request heard (log.note [] []) t stack := by
    rw [note_nothing]
    exact tracks
  cases input with
  | tick =>
      match stack, tracks, still with
      | [], _, still => exact still
      | .outside :: _, _, still => exact still
      | .task task :: rest, tracks, _ =>
          have same : reported ⟨t, .task task :: rest⟩ .tick = awaited t [.task task] := by
            simp only [reported, List.head?_cons, Option.some.injEq]
            split
            · next due => simp [awaited, due]
            · next other => simp [awaited, other]
          rw [same]
          exact tracks.tick
  | back =>
      match stack, still with
      | [], still => exact still
      | .task _ :: _, still => exact still
      | .outside :: rest, still =>
          exact { still with
            unsent := by
              rintro ⟨frame, among, send⟩
              exact still.unsent ⟨frame, List.mem_cons_of_mem _ among, send⟩
            alone := by
              intro event among
              have only := still.alone event (List.mem_cons_of_mem _ among)
              exact absurd (List.cons.inj only).1 (by simp)
            begun := fun resp found among => still.begun resp found (List.mem_cons_of_mem _ among) }
  | call call =>
      have entering (unbegun : ∀ event, .task (.begin event) ∉ stack) :
          Tracks kind request heard (log.note [] []) t (.task (.enter call) :: stack) := by
        have none_ : ∀ event, .task (.begin event) ∉ Frame.task (.enter call) :: stack := by
          intro event among
          rcases List.mem_cons.mp among with same | among
          · cases same
          · exact unbegun event among
        exact { still with
          unsent := by
            rintro ⟨frame, among, send⟩
            rcases List.mem_cons.mp among with rfl | among
            · cases send
            · exact still.unsent ⟨frame, among, send⟩
          alone := fun event among => absurd among (none_ event)
          begun := fun resp found among => absurd among (none_ _) }
      match stack, entering, still with
      | [], entering, _ => exact entering fun _ => List.not_mem_nil
      | .task _ :: _, _, still => exact still
      | .outside :: _, entering, still =>
          apply entering
          intro event among
          exact absurd (List.cons.inj (still.alone event among)).1 (by simp)
  | event event =>
      match stack, still with
      | .task _ :: _, still => exact still
      | .outside :: _, still => exact still
      | [], still =>
          exact { still with
            unsent := by
              rintro ⟨frame, among, send⟩
              rw [List.mem_singleton.mp among] at send
              cases send
            alone := by
              intro other among
              rw [List.mem_singleton.mp among]
              rfl
            begun := by
              intro resp found among
              cases List.mem_singleton.mp among
              exact arrives resp found rfl }

/-- A transaction that is new has done nothing. -/
theorem new (kind : Kind) (client : kind.isClient = true) (request : Request) (heard : Response → Prop) :
    Tracks kind request heard {} { kind := kind, request := request } [] where
  client := client
  kind := rfl
  request := rfl
  reports := Reports.none kind (by simp)
  unsent := fun ⟨_, among, _⟩ => absurd among List.not_mem_nil
  alone := fun _ => nofun
  arrived := fun _ => nofun
  begun := fun _ _ => nofun
  received := fun _ => nofun
  rejected := nofun

end Tracks

end Callbacks

end BelleSip
