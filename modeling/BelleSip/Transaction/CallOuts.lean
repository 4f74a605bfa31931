import BelleSip.Transaction.Aftermath

/-
This file follows the calls to outside code that have not returned yet, and proves what the functions of a transaction
have still to do after each of them.
-/

namespace BelleSip

open Foundation
open Foundation.Checked (OnReturn)
open Foundation.Reentrance (Frame Config Program)

namespace Callbacks

/-- A call to outside code that has not returned. -/
structure Site where
  /-- The call or the event that the transaction is working on. -/
  activity : Option Task
  /-- The part of the work that has called outside code. -/
  part : Task
  /-- The height of the stack below the call. -/
  depth : Nat
deriving DecidableEq, Repr

/-- What an observer of a run knows of the transaction: its current activity and the calls that have not returned. -/
structure Watch where
  activity : Option Task := none
  sites : List Site := []
deriving DecidableEq, Repr

/-- An activity begins with the call of a function or with an event. -/
def Watch.during (watch : Watch) (part : Task) : Option Task :=
  match part with
  | .enter _ | .begin _ => some part
  | _ => watch.activity

/-- A call to outside code is new if the stack is higher than at the last one. -/
def Watch.note (watch : Watch) (part : Task) (stack : List (Frame Task)) : Watch :=
  match stack with
  | .outside :: rest =>
      if watch.sites.head?.all fun site => site.depth < rest.length then
        { activity := watch.during part
          sites := { activity := watch.during part, part := part, depth := rest.length } :: watch.sites }
      else { watch with activity := watch.during part }
  | _ => { watch with activity := watch.during part }

def Watch.step (watch : Watch) (before after : Config Transaction Task) :
    Reentrance.Input Call Event → Watch
  | .tick =>
      match before.stack with
      | .task part :: _ => watch.note part after.stack
      | _ => watch
  | .back =>
      match before.stack, watch.sites with
      | .outside :: _, site :: sites => { activity := site.activity, sites := sites }
      | _, _ => watch
  | _ => watch

/-- A transaction with its observer. -/
structure Watched where
  config : Config Transaction Task
  watch : Watch := {}
deriving DecidableEq, Repr

def Watched.step (watched : Watched) (input : Reentrance.Input Call Event) : Watched :=
  let config := program.step watched.config input
  { config := config, watch := watched.watch.step watched.config config input }

namespace Transaction

/-- After the listeners of this response, timer D is started, or timer K. -/
def armsTimer (t : Transaction) (resp : Response) : Bool :=
  match t.kind with
  | .ict => 300 ≤ resp.statusCode
  | .nict => 200 ≤ resp.statusCode && !t.channel.all (·.reliable)
  | _ => false

/-- When this call to outside code returns, no listener is called and no timer is started. -/
def finished (t : Transaction) (site : Site) : Bool :=
  (match site.part with
    | .invoke callback listeners =>
        (listeners.tail = [] || callback = .processTransactionTerminated) &&
          (callback ≠ .processIoError || !t.timedOut || t.listening .processTimeout = [])
    -- the listeners of a deleted dialog are told before the response is reported
    | .begin _ => t.listening .processResponseEvent = []
    -- they are told before the request is sent
    | .enter (.sendRequest _ _ _) => false
    | _ => true) &&
  match site.activity with
  | some (.begin (.response resp _)) => !t.armsTimer resp
  | _ => true

end Transaction

/-- A transaction is not terminated inside a call to outside code after which it has still a listener to call or the
timer D or K to start, nor with timers armed when it leaves queued transactions. Once it has terminated, the end of its
channel finds no timeout to report, and no listener is added for which calls are left. -/
def Permitted (t : Transaction) (task : Task) (sites : List Site) : Prop :=
  match task with
  | .terminate =>
      t.state ≠ .terminated → (∀ site ∈ sites, t.finished site = true) ∧ (t.leavesQueue = true → t.sources = [])
  | .enter .channelEnded => t.state = .terminated → t.timedOut = false ∨ t.listening .processTimeout = []
  | .enter (.setListeners listeners) =>
      t.state = .terminated → ∀ site ∈ sites, { t with listeners := listeners }.finished site = true
  | _ => True

instance (t : Transaction) (task : Task) (sites : List Site) : Decidable (Permitted t task sites) :=
  match task with
  | .terminate =>
      inferInstanceAs (Decidable (t.state ≠ .terminated →
        (∀ site ∈ sites, t.finished site = true) ∧ (t.leavesQueue = true → t.sources = [])))
  | .enter .channelEnded =>
      inferInstanceAs (Decidable (t.state = .terminated → t.timedOut = false ∨ t.listening .processTimeout = []))
  | .enter (.setListeners listeners) =>
      inferInstanceAs (Decidable (t.state = .terminated →
        ∀ site ∈ sites, { t with listeners := listeners }.finished site = true))
  | .enter .terminate | .enter (.sendRequest _ _ _) | .enter (.sendResponse _ _) | .enter .channelReady
  | .enter (.setDialog _) | .begin _ | .onTerminate | .setTransactionTerminated | .removeTransaction
  | .invokeListeners _ | .invoke _ _ | .send _ _ | .startTimerD | .finishCompleted | .reportTimeout
  | .stopSource _ => isTrue trivial

/-- The permission for each part of the work of a run. -/
def Watched.Permits (watched : Watched) : Reentrance.Input Call Event → Prop
  | .tick =>
      match watched.config.stack with
      | .task task :: _ => Permitted watched.config.state task watched.watch.sites
      | _ => True
  | _ => True

instance (watched : Watched) (input : Reentrance.Input Call Event) : Decidable (watched.Permits input) :=
  match input, watched with
  | .tick, ⟨⟨t, .task task :: _⟩, watch⟩ => inferInstanceAs (Decidable (Permitted t task watch.sites))
  | .tick, ⟨⟨_, []⟩, _⟩ => inferInstanceAs (Decidable True)
  | .tick, ⟨⟨_, .outside :: _⟩, _⟩ => inferInstanceAs (Decidable True)
  | .back, _ => inferInstanceAs (Decidable True)
  | .call _, _ => inferInstanceAs (Decidable True)
  | .event _, _ => inferInstanceAs (Decidable True)

/-- The callback of a timer ends with the removal of its source. -/
inductive Stops : List (Frame Task) → Prop where
  | nothing : Stops []
  | stop (timer : Timer) : Stops [.task (.stopSource timer)]

/-- What follows the report of a response. -/
inductive Finishes (kind : Kind) (activity : Option Task) : List (Frame Task) → Prop where
  | nothing : Finishes kind activity []
  | timerD (resp : Response) (found : Option Dialog) (handled : activity = some (.begin (.response resp found)))
      (invite : kind = .ict) (rejected : 300 ≤ resp.statusCode) : Finishes kind activity [.task .startTimerD]
  | completed (resp : Response) (found : Option Dialog) (handled : activity = some (.begin (.response resp found)))
      (other : kind = .nict) (final : 200 ≤ resp.statusCode) : Finishes kind activity [.task .finishCompleted]

/-- Outside code may be called once. -/
inductive Asks : List (Frame Task) → Prop where
  | nobody : Asks []
  | outside : Asks [.outside]

/-- What follows the listeners of a callback. -/
inductive Continues (kind : Kind) (activity : Option Task) : Callback → List (Frame Task) → Prop where
  | timeout {stops : List (Frame Task)} (stopping : Stops stops) :
      Continues kind activity .processTimeout (.task .terminate :: stops)
  | ioError : Continues kind activity .processIoError [.task .reportTimeout, .task .terminate]
  | request : Continues kind activity .processRequestEvent []
  | response {asked finish : List (Frame Task)} (asks : Asks asked) (finishes : Finishes kind activity finish) :
      Continues kind activity .processResponseEvent (asked ++ finish)
  | terminated {stops : List (Frame Task)} (stopping : Stops stops) :
      Continues kind activity .processTransactionTerminated (.task .removeTransaction :: stops)

/-- The work of one activity that is still to be done. -/
inductive Segment (kind : Kind) (activity : Option Task) : List (Frame Task) → Prop where
  | enter (call : Call) : Segment kind activity [.task (.enter call)]
  | begin (event : Event) : Segment kind activity [.task (.begin event)]
  | stopping {stops : List (Frame Task)} (stopping : Stops stops) : Segment kind activity stops
  | terminate {stops : List (Frame Task)} (stopping : Stops stops) :
      Segment kind activity (.task .terminate :: stops)
  | onTerminate {stops : List (Frame Task)} (stopping : Stops stops) :
      Segment kind activity (.task .onTerminate :: .task .setTransactionTerminated :: stops)
  | setTransactionTerminated {stops : List (Frame Task)} (stopping : Stops stops) :
      Segment kind activity (.task .setTransactionTerminated :: stops)
  | removeTransaction {stops : List (Frame Task)} (stopping : Stops stops) :
      Segment kind activity (.task .removeTransaction :: stops)
  | invokeListeners {callback : Callback} {rest : List (Frame Task)}
      (continues : Continues kind activity callback rest) :
      Segment kind activity (.task (.invokeListeners callback) :: rest)
  | invoke {callback : Callback} (listeners : List Listener) {rest : List (Frame Task)}
      (continues : Continues kind activity callback rest) :
      Segment kind activity (.task (.invoke callback listeners) :: rest)
  | reportTimeout : Segment kind activity [.task .reportTimeout, .task .terminate]
  | finishing {finish : List (Frame Task)} (finishes : Finishes kind activity finish) : Segment kind activity finish
  | send (outlet : Outlet) (channel : Server.PeerChannel) : Segment kind activity [.task (.send outlet channel)]

/-- The work of one activity that is still to be done when a call to outside code returns. -/
inductive Left (kind : Kind) (activity : Option Task) : Task → List (Frame Task) → Prop where
  | invoke {callback : Callback} (listener : Listener) (listeners : List Listener) {rest : List (Frame Task)}
      (continues : Continues kind activity callback rest) :
      Left kind activity (.invoke callback (listener :: listeners)) (.task (.invoke callback listeners) :: rest)
  | asked {finish : List (Frame Task)} (finishes : Finishes kind activity finish) :
      Left kind activity (.invoke .processResponseEvent []) finish
  | dropped (event : Event) {rest : List (Frame Task)}
      (continues : Continues kind activity .processResponseEvent rest) :
      Left kind activity (.begin event) (.task (.invokeListeners .processResponseEvent) :: rest)
  | repeated (event : Event) {finish : List (Frame Task)} (finishes : Finishes kind activity finish) :
      Left kind activity (.begin event) finish
  | queued (outlet : Outlet) (channel : Server.PeerChannel) (busy : Bool) :
      Left kind activity (.enter (.sendRequest outlet channel busy)) [.task (.send outlet channel)]
  | answered (resp : Response) (channel : Option Server.PeerChannel) :
      Left kind activity (.enter (.sendResponse resp channel)) []
  | connecting (outlet : Outlet) (channel : Server.PeerChannel) : Left kind activity (.send outlet channel) []
  | dropping {stops : List (Frame Task)} (stopping : Stops stops) :
      Left kind activity .terminate (.task .onTerminate :: .task .setTransactionTerminated :: stops)

variable {activity : Option Task} {kind : Kind} {t : Transaction}

theorem Left.segment {part : Task} {rest : List (Frame Task)} (left : Left kind activity part rest) :
    Segment kind activity rest := by
  cases left with
  | invoke listener listeners continues => exact .invoke listeners continues
  | asked finishes => exact .finishing finishes
  | dropped event continues => exact .invokeListeners continues
  | repeated event finishes => exact .finishing finishes
  | queued outlet channel busy => exact .send outlet channel
  | answered resp channel => exact .stopping .nothing
  | connecting outlet channel => exact .stopping .nothing
  | dropping stopping => exact .onTerminate stopping

theorem Stops.harmless {stops : List (Frame Task)} (stopping : Stops stops) :
    ∀ frame ∈ stops, t.Harmless frame := by
  cases stopping with
  | nothing => exact List.forall_mem_nil _
  | stop timer => exact List.forall_mem_singleton.mpr trivial

theorem Finishes.harmless {finish : List (Frame Task)} (finishes : Finishes t.kind activity finish)
    (unarmed : ∀ resp found, activity = some (.begin (.response resp found)) → t.armsTimer resp = false) :
    ∀ frame ∈ finish, t.Harmless frame := by
  cases finishes with
  | nothing => exact List.forall_mem_nil _
  | timerD resp found handled invite rejected =>
      have quiet := unarmed resp found handled
      simp only [Transaction.armsTimer, invite, decide_eq_false_iff_not] at quiet
      exact absurd rejected quiet
  | completed resp found handled other final =>
      have quiet := unarmed resp found handled
      simp only [Transaction.armsTimer, other, final, decide_true, Bool.true_and, Bool.not_eq_false'] at quiet
      exact List.forall_mem_singleton.mpr ⟨other, quiet⟩

theorem Continues.harmless {callback : Callback} {rest : List (Frame Task)}
    (continues : Continues t.kind activity callback rest)
    (unreported : callback = .processIoError → t.timedOut = false ∨ t.listening .processTimeout = [])
    (unarmed : ∀ resp found, activity = some (.begin (.response resp found)) → t.armsTimer resp = false) :
    ∀ frame ∈ rest, t.Harmless frame := by
  cases continues with
  | timeout stopping => exact List.forall_mem_cons.mpr ⟨trivial, stopping.harmless⟩
  | ioError => exact List.forall_mem_cons.mpr ⟨unreported rfl, List.forall_mem_singleton.mpr trivial⟩
  | request => exact List.forall_mem_nil _
  | response asks finishes =>
      refine List.forall_mem_append.mpr ⟨?_, finishes.harmless unarmed⟩
      cases asks with
      | nobody => exact List.forall_mem_nil _
      | outside => exact List.forall_mem_singleton.mpr trivial
  | terminated stopping => exact List.forall_mem_cons.mpr ⟨trivial, stopping.harmless⟩

/-- What is left after a finished call to outside code does nothing for a transaction that has terminated. -/
theorem Left.harmless {site : Site} {rest : List (Frame Task)} (left : Left t.kind site.activity site.part rest)
    (finished : t.finished site = true) :
    ∀ frame ∈ rest, t.Harmless frame := by
  obtain ⟨activity, part, depth⟩ := site
  obtain ⟨told, timers⟩ := Bool.and_eq_true_iff.mp finished
  have unarmed : ∀ resp found, activity = some (.begin (.response resp found)) → t.armsTimer resp = false := by
    rintro resp found rfl
    simpa using timers
  cases left with
  | invoke listener listeners continues =>
      simp only [List.tail_cons, Bool.and_eq_true, Bool.or_eq_true, decide_eq_true_eq, Bool.not_eq_true'] at told
      refine List.forall_mem_cons.mpr ⟨told.1.imp_left of_decide_eq_true, continues.harmless (fun failed => ?_) unarmed⟩
      rcases told.2 with (other | inTime) | unheard
      · exact absurd failed other
      · exact Or.inl inTime
      · exact Or.inr unheard
  | asked finishes => exact finishes.harmless unarmed
  | dropped event continues =>
      have unheard : t.listening .processResponseEvent = [] := by simpa using told
      exact List.forall_mem_cons.mpr ⟨unheard, continues.harmless nofun unarmed⟩
  | repeated event finishes => exact finishes.harmless unarmed
  | queued outlet channel busy => exact absurd told Bool.false_ne_true
  | answered resp channel => exact List.forall_mem_nil _
  | connecting outlet channel => exact List.forall_mem_nil _
  | dropping stopping =>
      exact List.forall_mem_cons.mpr ⟨trivial, List.forall_mem_cons.mpr ⟨trivial, stopping.harmless⟩⟩

/-- After a part of the work, outside code is called, or there is more work of the activity. -/
def Next (kind : Kind) (activity : Option Task) (part : Task) (work : List (Frame Task)) : Prop :=
  (∃ rest, work = .outside :: rest ∧ Left kind activity part rest) ∨
    (work.head? ≠ some .outside ∧ Segment kind activity work)

theorem Finishes.head {finish : List (Frame Task)} (finishes : Finishes kind activity finish) :
    finish.head? ≠ some .outside := by
  cases finishes <;> simp

theorem Segment.head {work : List (Frame Task)} (segment : Segment kind activity work) :
    work.head? ≠ some .outside := by
  cases segment with
  | stopping stopping => cases stopping <;> simp
  | finishing finishes => exact finishes.head
  | _ => simp

theorem Segment.next {part : Task} {work : List (Frame Task)} (segment : Segment kind activity work) :
    Next kind activity part work := Or.inr ⟨segment.head, segment⟩

/-- Nothing more is to be done. -/
theorem next_nil {part : Task} : Next kind activity part [] :=
  (Segment.stopping .nothing).next

/-- What is to be done when a response has been looked at. -/
inductive Notifying : List (Frame Task) → Prop where
  | repeated {asked : List (Frame Task)} (asks : Asks asked) : Notifying asked
  | reported {asked more : List (Frame Task)} (asks : Asks asked) (later : Asks more) :
      Notifying (asked ++ .task (.invokeListeners .processResponseEvent) :: more)

theorem Notifying.next {event : Event} {reported finish : List (Frame Task)} (reports : Notifying reported)
    (finishes : Finishes kind activity finish) :
    Next kind activity (.begin event) (reported ++ finish) := by
  cases reports with
  | repeated asks =>
      cases asks with
      | nobody => exact (Segment.finishing finishes).next
      | outside => exact Or.inl ⟨finish, rfl, .repeated event finishes⟩
  | @reported asked more asks later =>
      have continues : Continues kind activity .processResponseEvent (more ++ finish) := .response later finishes
      cases asks with
      | nobody => exact (Segment.invokeListeners continues).next
      | outside => exact Or.inl ⟨_, rfl, .dropped event continues⟩

namespace Transaction

/-- A part of the work keeps the class of the transaction, and leaves work of this shape. -/
def Shapes (t : Transaction) (shape : List (Frame Task) → Prop) (part : Part) : Prop :=
  OnReturn part fun (after, frames) => after.kind = t.kind ∧ shape frames

variable {t : Transaction}

theorem queueMessage_kind (message : Message) (t : Transaction) :
    OnReturn (t.queueMessage message) fun after => after.kind = t.kind := by
  unfold queueMessage record
  apply Checked.onReturn_bind.mpr
  apply Checked.onReturn_deref.mpr
  intro channel _
  apply Checked.onReturn_pure.mpr
  split <;> rfl

theorem queueLastResponse_kind (t : Transaction) :
    OnReturn t.queueLastResponse fun after => after.kind = t.kind := by
  unfold queueLastResponse
  apply Checked.onReturn_bind.mpr
  apply Checked.onReturn_deref.mpr
  intro resp _
  exact queueMessage_kind _ t

theorem dropped_asks (before after : Dialog) : Asks (dropped before after) := by
  unfold dropped
  split
  · exact .nobody
  · exact .outside

theorem updateDialog_shapes (asUas : Bool) (t : Transaction) : t.Shapes Asks (t.updateDialog asUas) := by
  unfold updateDialog
  split
  · exact ⟨rfl, .nobody⟩
  · next dialog _ =>
      apply Checked.onReturn_bind.mpr
      cases dialog.update 0 t.request t.lastResponse (t.state = .terminated) asUas with
      | error fault => trivial
      | ok result => exact ⟨rfl, dropped_asks _ _⟩

variable {activity : Option Task} {part : Task}

theorem terminate_shapes (t : Transaction) {kind : Kind} {stops : List (Frame Task)} (stopping : Stops stops) :
    t.Shapes (fun frames => Next kind activity .terminate (frames ++ stops)) t.terminate := by
  unfold terminate
  split
  · exact ⟨rfl, (Segment.stopping stopping).next⟩
  · have informed : t.Shapes Asks { t with state := .terminated }.informDialog := by
      unfold informDialog
      split
      · exact updateDialog_shapes _ _
      · exact ⟨rfl, .nobody⟩
    apply Checked.onReturn_bind.mpr
    apply informed.mono
    rintro ⟨after, frames⟩ ⟨kind, asks⟩
    refine ⟨kind, ?_⟩
    cases asks with
    | nobody => exact (Segment.onTerminate stopping).next
    | outside => exact Or.inl ⟨_, rfl, .dropping stopping⟩

theorem chooseDialog_kind (resp : Response) (found : Option Dialog) (t : Transaction) :
    OnReturn (t.chooseDialog resp found) fun (after, _) => after.kind = t.kind := by
  have created : t.createDialog.1.kind = t.kind := by
    unfold createDialog
    split <;> rfl
  unfold chooseDialog
  split
  · next dialog _ =>
      split
      · apply Checked.onReturn_bind.mpr
        cases dialog.matchMessage resp.toHeaders false with
        | error fault => trivial
        | ok matched =>
            apply Checked.onReturn_ok.mpr
            cases matched with
            | true => exact Checked.onReturn_pure.mpr rfl
            | false =>
                cases found with
                | some other => exact Checked.onReturn_pure.mpr rfl
                | none => exact Checked.onReturn_pure.mpr created
      · exact Checked.onReturn_pure.mpr rfl
  · split
    · exact Checked.onReturn_pure.mpr created
    · exact Checked.onReturn_pure.mpr rfl

theorem notifyResponse_shapes (resp : Response) (found : Option Dialog) (t : Transaction) :
    t.Shapes Notifying (t.notifyResponse resp found) := by
  have reports : ∀ (after : Transaction) (inDialog : Bool) {asked : List (Frame Task)}, Asks asked →
      Notifying (asked ++ after.reportResponse inDialog) := by
    intro after inDialog asked asks
    unfold reportResponse
    apply Notifying.reported asks
    split
    · exact .outside
    · exact .nobody
  unfold notifyResponse
  apply Checked.onReturn_bind.mpr
  apply (chooseDialog_kind resp found _).mono
  rintro ⟨after, chosen⟩ kind
  dsimp only
  split
  · exact Checked.onReturn_pure.mpr ⟨kind, reports after false .nobody⟩
  · next dialog own =>
      apply Checked.onReturn_bind.mpr
      cases dialog.update 0 after.request (some resp) (after.state = .terminated) false with
      | error fault => trivial
      | ok result =>
          apply Checked.onReturn_ok.mpr
          have same : (if own then { after with dialog := some result.1 } else after).kind = t.kind := by
            split
            · exact kind
            · exact kind
          split
          · exact Checked.onReturn_pure.mpr ⟨same, .repeated (dropped_asks _ _)⟩
          · exact Checked.onReturn_pure.mpr ⟨same, reports _ true (dropped_asks _ _)⟩

/-- The work that a response leaves. -/
theorem notifyResponse_finishes {before : Transaction} (sameKind : t.kind = before.kind) {resp : Response}
    {found : Option Dialog} {event : Event} {finish : List (Frame Task)}
    (finishes : Finishes before.kind activity finish) :
    before.Shapes (Next before.kind activity (.begin event)) do
      let (t, frames) ← t.notifyResponse resp found
      return (t, frames ++ finish) := by
  apply Checked.onReturn_bind.mpr
  apply (notifyResponse_shapes resp found t).mono
  rintro ⟨after, frames⟩ ⟨kind, reports⟩
  exact Checked.onReturn_pure.mpr ⟨kind.trans sameKind, reports.next finishes⟩

theorem notifyResponse_next {before : Transaction} (sameKind : t.kind = before.kind) {resp : Response}
    {found : Option Dialog} {event : Event} :
    before.Shapes (Next before.kind activity (.begin event)) (t.notifyResponse resp found) := by
  apply (notifyResponse_shapes resp found t).mono
  rintro ⟨after, frames⟩ ⟨kind, reports⟩
  have next : Next before.kind activity (.begin event) (frames ++ []) := reports.next .nothing
  rw [List.append_nil] at next
  exact ⟨kind.trans sameKind, next⟩

theorem onResponse_next (resp : Response) (found : Option Dialog) (t : Transaction) :
    t.Shapes (Next t.kind (some (.begin (.response resp found))) (.begin (.response resp found)))
      (t.onResponse resp found) := by
  have proceeds : ∀ calling : Transaction, calling.kind = t.kind → t.kind = .ict →
      t.Shapes (Next t.kind (some (.begin (.response resp found))) (.begin (.response resp found)))
        (calling.ictProceed resp found) := by
    intro calling sameKind invite
    unfold ictProceed
    split
    · next rejected =>
        apply Checked.onReturn_bind.mpr
        apply (queueMessage_kind .ack _).mono
        intro acknowledged kind
        exact notifyResponse_finishes (kind.trans sameKind) (.timerD resp found rfl invite rejected)
    · split
      · apply notifyResponse_next
        exact sameKind
      · split
        · exact notifyResponse_next sameKind
        · exact ⟨sameKind, next_nil⟩
  have completes : ∀ trying : Transaction, trying.kind = t.kind → t.kind = .nict → 200 ≤ resp.statusCode →
      t.Shapes (Next t.kind (some (.begin (.response resp found))) (.begin (.response resp found)))
        (trying.nictSetCompleted resp found) := by
    intro trying sameKind other final
    unfold nictSetCompleted
    split
    · trivial
    · apply notifyResponse_finishes _ (.completed resp found rfl other final)
      exact sameKind
  unfold onResponse
  split
  · next invite =>
      unfold ictOnResponse
      split
      · exact proceeds _ rfl invite
      · exact proceeds _ rfl invite
      · split
        · exact notifyResponse_next rfl
        · exact ⟨rfl, next_nil⟩
      · split
        · apply Checked.onReturn_bind.mpr
          apply (queueMessage_kind .ack t).mono
          intro after kind
          exact Checked.onReturn_pure.mpr ⟨kind, next_nil⟩
        · exact ⟨rfl, next_nil⟩
      · exact ⟨rfl, next_nil⟩
  · next other =>
      unfold nictOnResponse
      split
      · split
        · exact notifyResponse_next rfl
        · next final => exact completes t rfl other (Nat.le_of_not_lt final)
      · split
        · next final => exact completes t rfl other final
        · exact ⟨rfl, next_nil⟩
      · exact ⟨rfl, next_nil⟩
  · exact ⟨rfl, next_nil⟩

/-- A callback of a timer is followed by the removal of the source. -/
theorem stop_next (timer : Timer) {work : Part}
    (shapes : t.Shapes (fun frames => Segment t.kind activity (frames ++ [.task (.stopSource timer)])) work) :
    t.Shapes (Next t.kind activity part) (stop timer work) := by
  unfold stop
  apply Checked.onReturn_bind.mpr
  apply shapes.mono
  rintro ⟨after, frames⟩ ⟨kind, segment⟩
  exact Checked.onReturn_pure.mpr ⟨kind, segment.next⟩

theorem notifyTimeout_shapes (timer : Timer) (suspect : Bool) (t : Transaction) :
    t.Shapes (fun frames => Segment t.kind activity (frames ++ [.task (.stopSource timer)]))
      (t.notifyTimeout suspect) := by
  unfold notifyTimeout
  split
  · exact ⟨rfl, .stopping (.stop timer)⟩
  · exact ⟨rfl, .invokeListeners (.timeout (.stop timer))⟩

theorem retransmit_next (t : Transaction) :
    t.Shapes (Next t.kind activity part) t.retransmit := by
  unfold retransmit
  apply Checked.onReturn_bind.mpr
  apply (queueMessage_kind .request t).mono
  intro after kind
  exact Checked.onReturn_pure.mpr ⟨kind, next_nil⟩

theorem onTimer_next (timer : Timer) (suspect : Bool) (t : Transaction) :
    t.Shapes (Next t.kind activity part) (t.onTimer timer suspect) := by
  have ends : ∀ (timer : Timer) (due : Prop) [Decidable due], t.Shapes (Next t.kind activity part)
      (stop timer (if due then return (t, [.task .terminate]) else return (t, []))) := by
    intro timer due _
    apply stop_next
    split
    · exact ⟨rfl, .terminate (.stop timer)⟩
    · exact ⟨rfl, .stopping (.stop timer)⟩
  have reports : ∀ (timer : Timer) (due : Prop) [Decidable due], t.Shapes (Next t.kind activity part)
      (stop timer (if due then t.notifyTimeout suspect else return (t, []))) := by
    intro timer due _
    apply stop_next
    split
    · exact notifyTimeout_shapes timer suspect t
    · exact ⟨rfl, .stopping (.stop timer)⟩
  have always : ∀ timer : Timer, t.Shapes (Next t.kind activity part)
      (stop timer (return (t, [.task .terminate]))) := fun timer => stop_next timer ⟨rfl, .terminate (.stop timer)⟩
  have ended : ∀ timer : Timer, t.Shapes (Next t.kind activity part) (stop timer (return (t, []))) :=
    fun timer => stop_next timer ⟨rfl, .stopping (.stop timer)⟩
  unfold onTimer
  split
  · split
    · exact retransmit_next t
    · exact ⟨rfl, next_nil⟩
  · exact reports .b _
  · exact ends .d _
  · exact ends .m _
  · split
    · exact retransmit_next t
    · exact ended .e
  · exact reports .f _
  · split
    · apply Checked.onReturn_bind.mpr
      apply (queueLastResponse_kind t).mono
      intro after kind
      exact Checked.onReturn_pure.mpr ⟨kind, next_nil⟩
    · exact ended .g
  · exact ends .h _
  · exact always .k
  · exact always .i
  · exact always .l
  · exact always .j

theorem onRequest_next (req : Request) (t : Transaction) :
    t.Shapes (Next t.kind activity part) (t.onRequest req) := by
  have acknowledged : OnReturn t.processAck fun result =>
      result.1.kind = t.kind ∧ Next t.kind activity part result.2.1 := by
    unfold processAck
    split
    · apply Checked.onReturn_bind.mpr
      apply Checked.onReturn_deref.mpr
      intro channel _
      have same : (t.stopTimer .g).kind = t.kind := by
        unfold stopTimer
        split <;> rfl
      dsimp only
      split
      · exact Checked.onReturn_pure.mpr ⟨same, (Segment.terminate .nothing).next⟩
      · exact Checked.onReturn_pure.mpr ⟨same, next_nil⟩
    · exact ⟨rfl, next_nil⟩
    · exact ⟨rfl, next_nil⟩
  have reported : ∀ after : Transaction, after.kind = t.kind →
      t.Shapes (Next t.kind activity part) (after.reportAck req) := by
    intro after same
    unfold reportAck
    split
    · exact ⟨same, next_nil⟩
    · next dialog _ =>
        apply Checked.onReturn_bind.mpr
        cases dialog.handleAck req with
        | error fault => trivial
        | ok result =>
            refine Checked.onReturn_pure.mpr ⟨same, ?_⟩
            split
            · exact (Segment.invokeListeners .request).next
            · exact next_nil
  unfold onRequest
  split
  · split
    · apply Checked.onReturn_bind.mpr
      apply acknowledged.mono
      rintro ⟨after, frames, reports⟩ ⟨same, next⟩
      dsimp only
      split
      · exact reported after same
      · exact Checked.onReturn_pure.mpr ⟨same, next⟩
    · exact ⟨rfl, next_nil⟩
  · split
    · exact ⟨rfl, (Segment.invokeListeners .request).next⟩
    · unfold onRequestRetransmission
      split
      · apply Checked.onReturn_bind.mpr
        apply (queueLastResponse_kind t).mono
        intro after kind
        exact Checked.onReturn_pure.mpr ⟨kind, next_nil⟩
      · apply Checked.onReturn_bind.mpr
        apply (queueLastResponse_kind t).mono
        intro after kind
        exact Checked.onReturn_pure.mpr ⟨kind, next_nil⟩
      · exact ⟨rfl, next_nil⟩

theorem begin_next (event : Event) (t : Transaction) :
    t.Shapes (Next t.kind (some (.begin event)) (.begin event)) (t.begin event) := by
  unfold «begin»
  split
  · split
    · exact onTimer_next _ _ t
    · exact ⟨rfl, next_nil⟩
  · split
    · exact onResponse_next _ _ t
    · exact ⟨rfl, next_nil⟩
  · split
    · exact onRequest_next _ t
    · exact ⟨rfl, next_nil⟩

theorem sendRequest_next (t : Transaction) :
    t.Shapes (Next t.kind activity part) t.sendRequest := by
  have queued : ∀ starting : Transaction, starting.kind = t.kind →
      OnReturn (starting.queueMessage .request) fun after => after.kind = t.kind := by
    intro starting same
    exact (queueMessage_kind .request starting).mono fun after kind => kind.trans same
  unfold sendRequest
  split
  · apply Checked.onReturn_bind.mpr
    apply Checked.onReturn_deref.mpr
    intro channel _
    apply Checked.onReturn_bind.mpr
    refine (queued _ ?_).mono fun after kind => Checked.onReturn_pure.mpr ⟨kind, next_nil⟩
    split <;> rfl
  · apply Checked.onReturn_bind.mpr
    apply Checked.onReturn_deref.mpr
    intro channel _
    apply Checked.onReturn_bind.mpr
    refine (queued _ ?_).mono fun after kind => Checked.onReturn_pure.mpr ⟨kind, next_nil⟩
    split <;> rfl
  · exact ⟨rfl, next_nil⟩

theorem send_next (outlet : Outlet) (channel : Server.PeerChannel) (t : Transaction) :
    t.Shapes (Next t.kind activity (.send outlet channel)) (t.send outlet channel) := by
  unfold send
  cases outlet with
  | ready => exact sendRequest_next _
  | connecting => exact ⟨rfl, Or.inl ⟨[], rfl, .connecting _ channel⟩⟩
  | badUris => exact ⟨rfl, (Segment.terminate .nothing).next⟩
  | noChannel => exact ⟨rfl, (Segment.terminate .nothing).next⟩

theorem complete_shapes {resp : Response} {channel : Option Server.PeerChannel} (t : Transaction)
    {sending : Transaction} (same : sending.kind = t.kind) :
    t.Shapes (Next t.kind activity (.enter (.sendResponse resp channel))) (sending.sendOnChannel resp) := by
  have sent : ∀ answer, OnReturn (sending.sendNewResponse answer) fun result => result.1.kind = t.kind := by
    intro answer
    have queued : ∀ starting : Transaction, starting.kind = t.kind →
        OnReturn (starting.queueMessage (.response answer)) fun after => after.kind = t.kind := by
      intro starting same
      exact (queueMessage_kind _ starting).mono fun after kind => kind.trans same
    unfold sendNewResponse
    split
    · unfold istSendNewResponse
      split
      · apply Checked.onReturn_bind.mpr
        apply (queued sending same).mono
        intro after kind
        split
        · exact Checked.onReturn_pure.mpr kind
        · split
          · apply Checked.onReturn_bind.mpr
            apply Checked.onReturn_deref.mpr
            intro channel _
            refine Checked.onReturn_pure.mpr ?_
            dsimp only
            split
            · exact kind
            · exact kind
          · exact Checked.onReturn_pure.mpr kind
      · exact same
      · exact same
    · have proceeds : OnReturn (sending.nistProceed answer) fun result => result.1.kind = t.kind := by
        unfold nistProceed
        apply Checked.onReturn_bind.mpr
        refine (queued _ ?_).mono fun after kind => Checked.onReturn_pure.mpr kind
        split
        · exact same
        · exact same
      unfold nistSendNewResponse
      split
      · split
        · apply Checked.onReturn_bind.mpr
          refine (queued _ ?_).mono fun after kind => Checked.onReturn_pure.mpr kind
          exact same
        · exact proceeds
      · exact proceeds
      · exact same
      · exact same
    · exact same
  unfold sendOnChannel
  apply Checked.onReturn_bind.mpr
  cases sending.complete resp with
  | error fault => trivial
  | ok answer =>
      apply Checked.onReturn_ok.mpr
      apply Checked.onReturn_bind.mpr
      apply (sent answer).mono
      rintro ⟨after, ret⟩ kind
      have updated : (if ret = 0 then { after with lastResponse := some answer } else after).kind = t.kind := by
        split
        · exact kind
        · exact kind
      apply (updateDialog_shapes true _).mono
      rintro ⟨last, frames⟩ ⟨still, asks⟩
      refine ⟨still.trans updated, ?_⟩
      cases asks with
      | nobody => exact next_nil
      | outside => exact Or.inl ⟨[], rfl, .answered resp channel⟩

theorem enter_next (call : Call) (t : Transaction) :
    t.Shapes (Next t.kind (some (.enter call)) (.enter call)) (t.enter call) := by
  unfold enter
  split
  · exact ⟨rfl, (Segment.terminate .nothing).next⟩
  · next outlet channel busy =>
      split
      · unfold sendRequestTo
        split
        · exact ⟨rfl, next_nil⟩
        · split
          · exact ⟨rfl, next_nil⟩
          · apply Checked.onReturn_bind.mpr
            apply (updateDialog_shapes false t).mono
            rintro ⟨after, frames⟩ ⟨kind, asks⟩
            refine Checked.onReturn_pure.mpr ⟨kind, ?_⟩
            cases asks with
            | nobody => exact (Segment.send outlet channel).next
            | outside => exact Or.inl ⟨_, rfl, .queued outlet channel busy⟩
      · exact ⟨rfl, next_nil⟩
  · next resp channel =>
      split
      · exact ⟨rfl, next_nil⟩
      · unfold sendResponse
        split
        · exact complete_shapes t rfl
        · exact ⟨rfl, next_nil⟩
        · apply complete_shapes
          rfl
  · split
    · unfold onChannelReady
      split
      · exact sendRequest_next t
      · exact ⟨rfl, next_nil⟩
    · exact ⟨rfl, next_nil⟩
  · split
    · refine Checked.onReturn_pure.mpr ⟨rfl, ?_⟩
      split
      · exact (Segment.invokeListeners .ioError).next
      · exact Segment.reportTimeout.next
    · exact ⟨rfl, next_nil⟩
  · exact ⟨rfl, next_nil⟩
  · exact ⟨rfl, next_nil⟩

theorem finishCompleted_next (t : Transaction) :
    t.Shapes (Next t.kind activity part) t.finishCompleted := by
  unfold finishCompleted
  apply Checked.onReturn_bind.mpr
  apply Checked.onReturn_deref.mpr
  intro channel _
  split
  · exact Checked.onReturn_pure.mpr ⟨rfl, (Segment.terminate .nothing).next⟩
  · exact Checked.onReturn_pure.mpr ⟨rfl, next_nil⟩

theorem invoke_next {callback : Callback} (listeners : List Listener) {rest : List (Frame Task)}
    (continues : Continues t.kind activity callback rest) :
    t.Shapes (fun frames => Next t.kind activity (.invoke callback listeners) (frames ++ rest))
      (t.invoke callback listeners) := by
  unfold invoke
  cases listeners with
  | nil =>
      refine ⟨rfl, ?_⟩
      cases continues with
      | timeout stopping => exact (Segment.terminate stopping).next
      | ioError => exact Segment.reportTimeout.next
      | request => exact next_nil
      | response asks finishes =>
          cases asks with
          | nobody => exact (Segment.finishing finishes).next
          | outside => exact Or.inl ⟨_, rfl, .asked finishes⟩
      | terminated stopping => exact (Segment.removeTransaction stopping).next
  | cons listener later =>
      refine ⟨?_, Or.inl ⟨_, rfl, .invoke listener later continues⟩⟩
      unfold record
      split <;> rfl

/-- A part of the work leaves the rest of its activity, or has called outside code. -/
theorem perform_next {watch : Watch} {rest : List (Frame Task)}
    (segment : Segment t.kind watch.activity (.task part :: rest)) :
    t.Shapes (fun frames => Next t.kind (watch.during part) part (frames ++ rest)) (t.perform part) := by
  have alone : ∀ {activity : Option Task} {work : Part}, t.Shapes (Next t.kind activity part) work →
      t.Shapes (fun frames => Next t.kind activity part (frames ++ [])) work := by
    intro activity work shapes
    apply shapes.mono
    rintro ⟨after, frames⟩ ⟨kind, next⟩
    refine ⟨kind, ?_⟩
    change Next t.kind activity part (frames ++ [])
    rw [List.append_nil]
    exact next
  cases segment with
  | enter call => exact alone (enter_next call t)
  | «begin» event => exact alone (begin_next event t)
  | stopping stopping =>
      cases stopping with
      | stop timer => exact ⟨rfl, next_nil⟩
  | terminate stopping => exact terminate_shapes t stopping
  | onTerminate stopping => exact ⟨rfl, (Segment.setTransactionTerminated stopping).next⟩
  | setTransactionTerminated stopping => exact ⟨rfl, (Segment.invoke _ (.terminated stopping)).next⟩
  | removeTransaction stopping => exact ⟨rfl, (Segment.stopping stopping).next⟩
  | invokeListeners continues => exact ⟨rfl, (Segment.invoke _ continues).next⟩
  | invoke listeners continues => exact invoke_next listeners continues
  | reportTimeout =>
      refine ⟨rfl, ?_⟩
      split
      · exact (Segment.invokeListeners (.timeout .nothing)).next
      · exact (Segment.terminate .nothing).next
  | finishing finishes =>
      cases finishes with
      | timerD => exact ⟨rfl, next_nil⟩
      | completed => exact alone (finishCompleted_next t)
  | send outlet channel => exact alone (send_next outlet channel t)

end Transaction

/-- Below the current work, each call to outside code has what is left of its activity. -/
inductive Below (kind : Kind) : List Site → List (Frame Task) → Prop where
  | nil : Below kind [] []
  | cons {site : Site} {sites : List Site} {rest below : List (Frame Task)}
      (left : Left kind site.activity site.part rest) (depth : site.depth = (rest ++ below).length)
      (lower : Below kind sites below) : Below kind (site :: sites) (.outside :: (rest ++ below))

/-- The stack of a transaction that is observed. -/
def Layout (kind : Kind) (watch : Watch) (stack : List (Frame Task)) : Prop :=
  ∃ top below, stack = top ++ below ∧ Segment kind watch.activity top ∧ Below kind watch.sites below

theorem Below.harmless {t : Transaction} {sites : List Site} {below : List (Frame Task)}
    (lower : Below t.kind sites below) (finished : ∀ site ∈ sites, t.finished site = true) :
    ∀ frame ∈ below, t.Harmless frame := by
  induction lower with
  | nil => exact List.forall_mem_nil _
  | cons left depth lower ih =>
      obtain ⟨own, others⟩ := List.forall_mem_cons.mp finished
      exact List.forall_mem_cons.mpr ⟨trivial, List.forall_mem_append.mpr ⟨left.harmless own, ih others⟩⟩

variable {rest : List (Frame Task)} {watch : Watch} {kind : Kind} {part : Task}

/-- The work in front of the stack belongs to the current activity. -/
theorem Layout.split (layout : Layout kind watch (.task part :: rest)) : ∃ top below, rest = top ++ below ∧
      Segment kind watch.activity (.task part :: top) ∧ Below kind watch.sites below := by
  obtain ⟨activity, sites⟩ := watch
  obtain ⟨top, below, whole, segment, lower⟩ := layout
  cases top with
  | nil =>
      rw [List.nil_append] at whole
      subst whole
      change Below kind sites (.task part :: rest) at lower
      cases lower
  | cons frame top =>
      obtain ⟨rfl, rfl⟩ := List.cons.inj whole
      exact ⟨top, below, rfl, segment, lower⟩

theorem Layout.outside (layout : Layout kind watch (.outside :: rest)) : Below kind watch.sites (.outside :: rest) := by
  obtain ⟨top, below, whole, segment, lower⟩ := layout
  cases top with
  | nil =>
      rw [whole]
      exact lower
  | cons frame top =>
      obtain ⟨rfl, rfl⟩ := List.cons.inj whole
      exact absurd rfl segment.head

theorem Layout.none (layout : Layout kind watch []) : watch.sites = [] := by
  obtain ⟨activity, sites⟩ := watch
  obtain ⟨top, below, whole, _, lower⟩ := layout
  obtain ⟨rfl, rfl⟩ := List.append_eq_nil_iff.mp whole.symm
  change Below kind sites [] at lower
  cases lower
  rfl

/-- What the observer notes fits the stack. -/
theorem note_layout {work below : List (Frame Task)} (next : Next kind (watch.during part) part work)
    (lower : Below kind watch.sites below) :
    Layout kind (watch.note part (work ++ below)) (work ++ below) := by
  rcases next with ⟨rest, rfl, left⟩ | ⟨quiet, segment⟩
  · have higher : watch.sites.head?.all (fun site => site.depth < (rest ++ below).length) = true := by
      generalize watch.sites = sites at lower
      cases lower with
      | nil => rfl
      | cons older depth lower =>
          simp only [List.head?_cons, Option.all_some, depth, decide_eq_true_eq, List.length_append, List.length_cons]
          omega
    refine ⟨[], .outside :: (rest ++ below), rfl, .stopping .nothing, ?_⟩
    simp only [Watch.note, List.cons_append, higher, ↓reduceIte]
    exact .cons left rfl lower
  · refine ⟨work, below, rfl, ?_⟩
    have same : watch.note part (work ++ below) = { watch with activity := watch.during part } := by
      cases work with
      | cons frame work =>
          cases frame with
          | outside => exact absurd rfl quiet
          | task task => rfl
      | nil =>
          obtain ⟨activity, sites⟩ := watch
          cases lower with
          | nil => rfl
          | cons left depth lower =>
              simp only [Watch.note, List.nil_append, List.head?_cons, Option.all_some, depth, lt_self_iff_false,
                decide_false, Bool.false_eq_true, ↓reduceIte]
    rw [same]
    exact ⟨segment, lower⟩

/-- A part of the work that has stopped with a fault is still to be done. -/
theorem Segment.stopped (segment : Segment kind watch.activity (.task part :: rest)) :
    Segment kind (watch.during part) (.task part :: rest) := by
  cases part with
  | enter call =>
      cases segment with
      | enter => exact .enter call
      | stopping stopping => cases stopping
      | finishing finishes => cases finishes
  | «begin» event =>
      cases segment with
      | «begin» => exact .begin event
      | stopping stopping => cases stopping
      | finishing finishes => cases finishes
  | _ => exact segment

/-- Whatever happens, the observer knows the calls on the stack. -/
theorem Layout.step {watched : Watched} (layout : Layout watched.config.state.kind watched.watch watched.config.stack)
    (input : Reentrance.Input Call Event) :
    Layout (watched.step input).config.state.kind (watched.step input).watch (watched.step input).config.stack := by
  obtain ⟨⟨t, stack⟩, watch⟩ := watched
  dsimp only at layout
  cases input with
  | tick =>
      match stack, layout with
      | [], layout => exact layout
      | .outside :: _, layout => exact layout
      | .task part :: rest, layout =>
          obtain ⟨top, below, rfl, segment, lower⟩ := layout.split
          change Layout (program.tick ⟨t, .task part :: (top ++ below)⟩).state.kind
            (watch.note part (program.tick ⟨t, .task part :: (top ++ below)⟩).stack)
            (program.tick ⟨t, .task part :: (top ++ below)⟩).stack
          have shapes := Transaction.perform_next segment
          cases done : t.perform part with
          | error fault =>
              rw [Program.tick_error done]
              exact ⟨.task part :: top, below, rfl, segment.stopped, lower⟩
          | ok result =>
              obtain ⟨after, frames⟩ := result
              obtain ⟨same, next⟩ := shapes.elim done
              rw [Program.tick_ok done, ← List.append_assoc]
              change Layout after.kind _ _
              rw [same]
              exact note_layout next lower
  | back =>
      match stack, layout with
      | [], layout => exact layout
      | .task _ :: _, layout => exact layout
      | .outside :: rest, layout =>
          have lower := layout.outside
          obtain ⟨activity, sites⟩ := watch
          cases lower with
          | @cons site sites rest below left depth lower => exact ⟨rest, below, rfl, left.segment, lower⟩
  | call call =>
      match stack, layout with
      | [], layout => exact ⟨_, [], rfl, .enter call, layout.none ▸ .nil⟩
      | .task _ :: _, layout => exact layout
      | .outside :: _, layout => exact ⟨[_], _, rfl, .enter call, layout.outside⟩
  | event event =>
      match stack, layout with
      | [], layout => exact ⟨_, [], rfl, .begin event, layout.none ▸ .nil⟩
      | .task _ :: _, layout => exact layout
      | .outside :: _, layout => exact layout

/-- What the observer permits leaves only harmless work when the transaction terminates. -/
theorem Permitted.guard {t : Transaction} (permitted : Permitted t part watch.sites)
    (layout : Layout t.kind watch (.task part :: rest)) :
    Guard t part rest := by
  obtain ⟨top, below, rfl, segment, lower⟩ := layout.split
  unfold Guard
  split
  · intro live
    obtain ⟨finished, leaves⟩ := permitted live
    refine ⟨List.forall_mem_append.mpr ⟨?_, lower.harmless finished⟩, leaves⟩
    cases segment with
    | terminate stopping => exact stopping.harmless
    | stopping stopping => cases stopping
    | finishing finishes => cases finishes
  · exact permitted
  · next listeners =>
      intro terminated
      cases segment with
      | enter => exact Below.harmless (t := { t with listeners := listeners }) lower (permitted terminated)
      | stopping stopping => cases stopping
      | finishing finishes => cases finishes
  · trivial

end Callbacks

end BelleSip
