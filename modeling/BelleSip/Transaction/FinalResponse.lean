import BelleSip.Transaction.ServerRuns

/-
This file proves that a server transaction queues one final response, and that what it queues comes from its
application.
-/

namespace BelleSip

open Foundation
open Foundation.Checked (OnReturn)

namespace Server.Transaction

variable {config : TimerConfig} {lps : List ListeningPoint} {resp : Response} {t after : Transaction}

/-- All the final responses on the channel are one and the same, and before it there is none. -/
structure Decided (t : Transaction) : Prop where
  opened : t.Open → (∀ entry ∈ t.queued, entry.2.statusCode < 200) ∧
    ∀ resp, t.lastResponse = some resp → resp.statusCode < 200
  completed : t.state = .completed → ∀ entry ∈ t.queued, 200 ≤ entry.2.statusCode → t.lastResponse = some entry.2
  single : ∀ first ∈ t.queued, ∀ second ∈ t.queued, 200 ≤ first.2.statusCode → 200 ≤ second.2.statusCode →
    first.2 = second.2

/-- A response is queued again only while its transaction is `PROCEEDING` or `COMPLETED`. -/
structure Replays (t after : Transaction) : Prop extends Keeps t after where
  active : after.queued ≠ t.queued → t.state = .proceeding ∨ t.state = .completed

theorem Replays.of_queued (keeps : Keeps t after) (same : after.queued = t.queued) : Replays t after :=
  { keeps with active := fun other => absurd same other }

theorem queueLast_replays (active : t.state = .proceeding ∨ t.state = .completed) :
    OnReturn (t.queueMessage t.lastResponse) (Replays t) :=
  (queueMessage_keeps t).mono fun _ keeps => { keeps with active := fun _ => active }

theorem onRequest_replays (config : TimerConfig) (method : String) (t : Transaction) :
    OnReturn (t.onRequest config method) (Replays t) := by
  have still : Replays t t := .of_queued (Keeps.refl t) rfl
  unfold onRequest
  split
  · split
    · next ist =>
        unfold processAck
        split
        · refine Checked.onReturn_bind.mpr (Checked.onReturn_deref.mpr fun channel _ => ?_)
          split
          · exact .of_queued
              { Keeps.refl t with state := .inr (.inl rfl) } rfl
          · exact .of_queued { Keeps.refl t with state := .inr (.inr ⟨ist, rfl⟩) } rfl
        · exact still
    · exact still
  · split
    · exact still
    · unfold onRequestRetransmission
      split
      · next proceeding => exact queueLast_replays (.inl proceeding)
      · next completed => exact queueLast_replays (.inr completed)
      · exact still

theorem terminate_replays (t : Transaction) : Replays t t.terminate := by
  refine .of_queued (keeps_terminate t) ?_
  unfold terminate
  split <;> rfl

theorem handle_replays (config : TimerConfig) {event : Event} (passive : Passive event) (t : Transaction) :
    OnReturn (t.handle config event) (Replays t) := by
  have still : Replays t t := .of_queued (Keeps.refl t) rfl
  cases event with
  | response lps resp => exact absurd rfl (passive lps resp)
  | request method => exact onRequest_replays config method t
  | timerG =>
      rw [handle]
      cases t.timerG with
      | none => exact still
      | some interval =>
          rw [Option.elim_some, onTimerG]
          split
          · next completed =>
              rw [Checked.onReturn_bind]
              exact (queueLast_replays (.inr completed)).mono fun after replays => { replays with }
          · exact { still with }
  | timerH =>
      rw [handle]
      cases t.timerH with
      | none => exact still
      | some _ =>
          rw [Option.elim_some, onTimerH]
          split
          · exact terminate_replays t
          · exact { still with }
  | timerI =>
      rw [handle]
      cases t.timerI with
      | none => exact still
      | some _ => exact terminate_replays t
  | timerL =>
      rw [handle]
      cases t.timerL with
      | none => exact still
      | some _ => exact terminate_replays t
  | timerJ =>
      rw [handle]
      cases t.timerJ with
      | none => exact still
      | some _ => exact terminate_replays t
  | terminate => exact terminate_replays t
  | dialog present => exact { still with }

namespace Decided

/-- What is queued again changes nothing. -/
theorem replays (decided : t.Decided) (replays : Replays t after) : after.Decided := by
  have fewer : after.Open → t.Open := by
    intro opened
    rcases replays.state with same | terminated | ⟨_, confirmed⟩
    · rw [Open, same] at opened
      exact opened
    · simp [Open, terminated] at opened
    · simp [Open, confirmed] at opened
  -- a final response that is queued again is the one that has been queued
  have again : ∀ entry ∈ after.queued, entry ∈ t.queued ∨ (t.lastResponse = some entry.2 ∧
      (t.state = .proceeding ∨ t.state = .completed)) := by
    intro entry among
    rcases replays.queued with same | ⟨channel, resp, last, grown⟩
    · rw [same] at among
      exact .inl among
    · have active := replays.active (by simp [grown])
      rw [grown] at among
      rcases List.mem_append.mp among with before | one
      · exact .inl before
      · rw [List.mem_singleton.mp one]
        exact .inr ⟨last, active⟩
  have final : ∀ resp, t.lastResponse = some resp → 200 ≤ resp.statusCode →
      (t.state = .proceeding ∨ t.state = .completed) → t.state = .completed := by
    intro resp last final active
    rcases active with proceeding | completed
    · exact absurd final (Nat.not_le_of_lt ((decided.opened (.inr proceeding)).2 resp last))
    · exact completed
  exact {
    opened := by
      intro opened
      obtain ⟨all, last⟩ := decided.opened (fewer opened)
      refine ⟨?_, by rw [replays.lastResponse]; exact last⟩
      intro entry among
      rcases again entry among with before | ⟨stored, _⟩
      · exact all entry before
      · exact last entry.2 stored
    completed := by
      intro completed entry among isFinal
      have before : t.state = .completed := by
        rcases replays.state with same | terminated | ⟨_, confirmed⟩
        · exact same.symm.trans completed
        · exact absurd (terminated.symm.trans completed) (by decide)
        · exact absurd (confirmed.symm.trans completed) (by decide)
      rw [replays.lastResponse]
      rcases again entry among with old | ⟨stored, _⟩
      · exact decided.completed before entry old isFinal
      · exact stored
    single := by
      intro first firstAmong second secondAmong firstFinal secondFinal
      rcases again first firstAmong with old | ⟨stored, active⟩
      · rcases again second secondAmong with oldToo | ⟨storedToo, active⟩
        · exact decided.single first old second oldToo firstFinal secondFinal
        · have completed := final second.2 storedToo secondFinal active
          have last := decided.completed completed first old firstFinal
          exact Option.some.inj (last.symm.trans storedToo)
      · have completed := final first.2 stored firstFinal active
        rcases again second secondAmong with oldToo | ⟨storedToo, _⟩
        · have last := decided.completed completed second oldToo secondFinal
          exact Option.some.inj (stored.symm.trans last)
        · exact Option.some.inj (stored.symm.trans storedToo) }

/-- The state in which a new response is queued. -/
theorem next_open (kind : Kind) {filled : Response} :
    kind.next filled = .trying ∨ kind.next filled = .proceeding ↔ filled.statusCode < 200 := by
  cases kind <;> grind [Kind.next]

theorem answers (decided : t.Decided) (answers : Answers lps resp t after) : after.Decided := by
  cases answers with
  | unsent first => exact ⟨decided.opened, decided.completed, decided.single⟩
  | @sent channel filled queued opened queues =>
      obtain ⟨all, _⟩ := decided.opened opened
      have state : queued.state = t.kind.next filled := queues.state
      have grown : queued.queued = t.queued ++ [(channel, filled)] := queues.queued
      have final : ∀ entry ∈ queued.queued, 200 ≤ entry.2.statusCode → entry.2 = filled := by
        intro entry among isFinal
        rw [grown] at among
        rcases List.mem_append.mp among with before | one
        · exact absurd (all entry before) (Nat.not_lt_of_le isFinal)
        · rw [List.mem_singleton.mp one]
      exact {
        opened := by
          intro stillOpen
          have next : queued.state = .trying ∨ queued.state = .proceeding := stillOpen
          rw [state, next_open] at next
          constructor
          · intro entry among
            have member : entry ∈ t.queued ++ [(channel, filled)] := grown ▸ among
            rcases List.mem_append.mp member with before | one
            · exact all entry before
            · rw [List.mem_singleton.mp one]
              exact next
          · intro resp last
            rw [← Option.some.inj last]
            exact next
        completed := by
          intro _ entry among isFinal
          have same := final entry among isFinal
          show some filled = some entry.2
          rw [same]
        single := by
          intro first firstAmong second secondAmong firstFinal secondFinal
          exact (final first firstAmong firstFinal).trans (final second secondAmong secondFinal).symm }
  | stored closed strays reached =>
      refine ⟨fun opened => absurd opened closed, ?_, decided.single⟩
      intro completed
      have before : t.state = .completed := completed
      rcases strays with ⟨_, accepted, _⟩ | ⟨_, terminated⟩
      · exact absurd (before.symm.trans accepted) (by decide)
      · exact absurd (before.symm.trans terminated) (by decide)
  | refused closed => exact ⟨decided.opened, decided.completed, decided.single⟩

/-- Every event keeps it decided. -/
theorem handle (decided : t.Decided) (sound : t.Sound) (config : TimerConfig) (event : Event) :
    OnReturn (t.handle config event) Decided := by
  rcases response_or_passive event with ⟨lps, resp, rfl⟩ | passive
  · exact (sound.sendResponse config lps resp).mono fun _ answers => decided.answers answers
  · exact (handle_replays config passive t).mono fun _ replays => decided.replays replays

end Decided

/-- A response that the transaction has completed keeps the Via and CSeq headers. -/
structure Echo (resp filled : Response) : Prop where
  vias : filled.vias = resp.vias
  cseq : filled.cseq = resp.cseq

theorem complete_echo {filled : Response} (completed : t.complete resp = .ok filled) : Echo resp filled := by
  unfold complete at completed
  split at completed
  · cases completed
    exact ⟨rfl, rfl⟩
  · cases header : resp.toHeader with
    | none =>
        rw [header] at completed
        cases completed
    | some to_ =>
        rw [header, Checked.deref_some, Checked.ok_bind] at completed
        cases completed
        constructor <;> grind [fillForDialog]

/-- All that the transaction has queued, or would queue again, has the property. -/
structure Only (property : Response → Prop) (t : Transaction) : Prop where
  queued : ∀ entry ∈ t.queued, property entry.2
  last : ∀ resp, t.lastResponse = some resp → property resp

namespace Only

variable {property : Response → Prop}

theorem replays (only : t.Only property) (keeps : Keeps t after) : after.Only property where
  queued := by
    rcases keeps.queued with same | ⟨channel, resp, last, grown⟩
    · rw [same]
      exact only.queued
    · rw [grown]
      exact List.forall_mem_append.mpr ⟨only.queued, List.forall_mem_singleton.mpr (only.last resp last)⟩
  last := by
    rw [keeps.lastResponse]
    exact only.last

theorem queueResponse (only : t.Only property) {filled : Response} (holds : property filled) :
    OnReturn (t.queueResponse filled) (Only property) := by
  unfold Transaction.queueResponse Transaction.queueMessage
  refine Checked.onReturn_bind.mpr (Checked.onReturn_bind.mpr (Checked.onReturn_deref.mpr fun channel _ => ?_))
  rw [Checked.deref_some, Checked.ok_bind]
  exact ⟨List.forall_mem_append.mpr ⟨only.queued, List.forall_mem_singleton.mpr holds⟩, only.last⟩

theorem istSendNewResponse (only : t.Only property) (config : TimerConfig) {filled : Response}
    (holds : property filled) :
    OnReturn (t.istSendNewResponse config filled) fun result => result.1.Only property := by
  unfold Transaction.istSendNewResponse
  split
  · refine Checked.onReturn_bind.mpr ((only.queueResponse holds).mono fun after only => ?_)
    split
    · exact ⟨only.queued, only.last⟩
    · split
      · exact Checked.onReturn_bind.mpr (Checked.onReturn_deref.mpr fun channel _ => ⟨only.queued, only.last⟩)
      · exact only
  · exact only
  · exact only

theorem nistProceed (only : t.Only property) (config : TimerConfig) {filled : Response} (holds : property filled) :
    OnReturn (t.nistProceed config filled) fun result => result.1.Only property := by
  have queues : ∀ after : Transaction, after.Only property →
      OnReturn (do let t ← after.queueResponse filled; .ok (t, (0 : Int))) fun result => result.1.Only property :=
    fun after only => Checked.onReturn_bind.mpr ((only.queueResponse holds).mono fun _ only => only)
  unfold Transaction.nistProceed
  dsimp only
  split
  · unfold nistSetCompleted
    refine Checked.onReturn_bind.mpr (Checked.onReturn_bind.mpr (Checked.onReturn_deref.mpr fun channel _ => ?_))
    exact queues _ ⟨only.queued, only.last⟩
  · exact queues t only

theorem nistSendNewResponse (only : t.Only property) (config : TimerConfig) {filled : Response}
    (holds : property filled) :
    OnReturn (t.nistSendNewResponse config filled) fun result => result.1.Only property := by
  unfold Transaction.nistSendNewResponse
  split
  · split
    · have moved : Only property { t with state := .proceeding } := ⟨only.queued, only.last⟩
      exact Checked.onReturn_bind.mpr ((moved.queueResponse holds).mono fun _ only => only)
    · exact only.nistProceed config holds
  · exact only.nistProceed config holds
  · exact only
  · exact only

theorem sendOnChannel (only : t.Only property) (config : TimerConfig)
    (holds : ∀ filled, Echo resp filled → property filled) :
    OnReturn (t.sendOnChannel config resp) (Only property) := by
  unfold Transaction.sendOnChannel
  apply Checked.onReturn_bind.mpr
  cases completed : t.complete resp with
  | error fault => trivial
  | ok filled =>
      have true_ : property filled := holds filled (complete_echo completed)
      have sent : OnReturn (t.sendNewResponse config filled) fun result => result.1.Only property := by
        unfold sendNewResponse
        split
        · exact only.istSendNewResponse config true_
        · exact only.nistSendNewResponse config true_
      refine Checked.onReturn_bind.mpr (sent.mono fun result only => ?_)
      rw [Checked.onReturn_ok]
      split
      · refine ⟨only.queued, fun resp last => ?_⟩
        rw [← Option.some.inj last]
        exact true_
      · exact only

theorem sendResponse (only : t.Only property) (config : TimerConfig) (lps : List ListeningPoint)
    (holds : ∀ filled, Echo resp filled → property filled) :
    OnReturn (t.sendResponse config lps resp) (Only property) := by
  unfold Transaction.sendResponse
  split
  · exact only.sendOnChannel config holds
  · refine Checked.onReturn_bind.mpr (Checked.onReturn_deref.mpr fun hop _ => ?_)
    split
    · exact ⟨only.queued, only.last⟩
    · next channel _ =>
        have connected : Only property { t with channel := some channel } := ⟨only.queued, only.last⟩
        exact connected.sendOnChannel config holds

/-- Every event keeps the property of all responses, if the response that is sent has it. -/
theorem handle (only : t.Only property) (config : TimerConfig) {event : Event}
    (holds : ∀ lps resp, event = .response lps resp → ∀ filled, Echo resp filled → property filled) :
    OnReturn (t.handle config event) (Only property) := by
  rcases response_or_passive event with ⟨lps, resp, rfl⟩ | passive
  · exact only.sendResponse config lps (holds lps resp rfl)
  · exact (handle_keeps config passive t).mono fun _ keeps => only.replays keeps

end Only

/-- What every event leaves as it is. -/
theorem handle_kind (sound : t.Sound) (config : TimerConfig) (event : Event) :
    OnReturn (t.handle config event) fun after => after.kind = t.kind := by
  rcases response_or_passive event with ⟨lps, resp, rfl⟩ | passive
  · refine (sound.sendResponse config lps resp).mono fun after answers => ?_
    cases answers with
    | unsent first => rfl
    | sent opened queues => exact queues.kind
    | stored closed strays reached => rfl
    | refused closed => rfl
  · exact (handle_keeps config passive t).mono fun _ keeps => keeps.kind

/-- What every event adds to the queue stays there. -/
theorem handle_grows (sound : t.Sound) (config : TimerConfig) (event : Event) :
    OnReturn (t.handle config event) fun after => t.queued <+: after.queued := by
  rcases response_or_passive event with ⟨lps, resp, rfl⟩ | passive
  · refine (sound.sendResponse config lps resp).mono fun after answers => ?_
    cases answers with
    | unsent first => exact List.prefix_rfl
    | sent opened queues => exact ⟨_, queues.queued.symm⟩
    | stored closed strays reached => exact List.prefix_rfl
    | refused closed => exact List.prefix_rfl
  · refine (handle_keeps config passive t).mono fun _ keeps => ?_
    rcases keeps.queued with same | ⟨channel, resp, _, grown⟩
    · exact ⟨[], by simp [same]⟩
    · exact ⟨_, grown.symm⟩

/-- A transaction becomes `CONFIRMED` by an ACK only, and it is one of an INVITE. -/
theorem handle_confirmed (sound : t.Sound) (config : TimerConfig) (event : Event) :
    OnReturn (t.handle config event) fun after => after.state = .confirmed →
      t.state = .confirmed ∨ (t.kind = .ist ∧ event = .request "ACK") := by
  have unconfirmed (kind : Kind) (filled : Response) : kind.next filled ≠ .confirmed := by
    cases kind <;> grind [Kind.next]
  have ended : t.terminate.state = .confirmed → t.state = .confirmed := by
    unfold terminate
    split
    · exact id
    · intro terminated
      cases terminated
  have last : OnReturn (t.queueMessage t.lastResponse) fun after => after.state = t.state := by
    unfold queueMessage
    refine Checked.onReturn_bind.mpr (Checked.onReturn_deref.mpr fun channel _ => ?_)
    exact Checked.onReturn_bind.mpr (Checked.onReturn_deref.mpr fun message _ => rfl)
  cases event with
  | response lps resp =>
      refine (sound.sendResponse config lps resp).mono fun after answers => ?_
      cases answers with
      | unsent first => exact .inl
      | @sent channel filled queued opened queues =>
          intro confirmed
          have state : queued.state = t.kind.next filled := queues.state
          exact absurd (state.symm.trans confirmed) (unconfirmed _ _)
      | stored closed strays reached => exact .inl
      | refused closed => exact .inl
  | request method =>
      by_cases ack : method = "ACK"
      · subst ack
        cases kind : t.kind with
        | ist => exact (onRequest_keeps config "ACK" t).mono fun _ _ _ => .inr ⟨rfl, rfl⟩
        | nist =>
            have idle : t.handle config (.request "ACK") = .ok t := by
              simp only [handle, onRequest, kind]
              rfl
            rw [idle]
            exact fun confirmed => .inl confirmed
      · rw [handle, onRequest, if_neg ack]
        split
        · exact .inl
        · unfold onRequestRetransmission
          split
          · exact last.mono fun _ same confirmed => .inl (same.symm.trans confirmed)
          · exact last.mono fun _ same confirmed => .inl (same.symm.trans confirmed)
          · exact .inl
  | timerG =>
      rw [handle]
      cases t.timerG with
      | none => exact .inl
      | some interval =>
          rw [Option.elim_some, onTimerG]
          split
          · rw [Checked.onReturn_bind]
            exact last.mono fun _ same confirmed => .inl (same.symm.trans confirmed)
          · exact .inl
  | timerH =>
      rw [handle]
      cases t.timerH with
      | none => exact .inl
      | some _ =>
          rw [Option.elim_some, onTimerH]
          split
          · exact fun confirmed => .inl (ended confirmed)
          · exact .inl
  | timerI =>
      rw [handle]
      cases t.timerI with
      | none => exact .inl
      | some _ => exact fun confirmed => .inl (ended confirmed)
  | timerL =>
      rw [handle]
      cases t.timerL with
      | none => exact .inl
      | some _ => exact fun confirmed => .inl (ended confirmed)
  | timerJ =>
      rw [handle]
      cases t.timerJ with
      | none => exact .inl
      | some _ => exact fun confirmed => .inl (ended confirmed)
  | terminate => exact fun confirmed => .inl (ended confirmed)
  | dialog present => exact .inl

/-- A new transaction of either kind: an INVITE transaction has sent a first response. -/
theorem new_cases {property : Transaction → Prop} (kind : Kind) (config : TimerConfig) (lps : List ListeningPoint)
    (req : Request) (toTag : String)
    (ist : OnReturn ({ kind := .ist, request := req, toTag := toTag, state := .proceeding : Transaction }.handle config
      (.response lps (Response.createFromRequest req 100))) property)
    (nist : property { kind := .nist, request := req, toTag := toTag, state := .trying }) :
    OnReturn (new kind config lps req toTag) property := by
  cases kind with
  | ist => exact ist
  | nist => exact nist

theorem new_decided (kind : Kind) (config : TimerConfig) (lps : List ListeningPoint) (req : Request) (toTag : String) :
    OnReturn (new kind config lps req toTag) Decided := by
  have empty : ∀ t : Transaction, t.queued = [] → t.lastResponse = none → t.Decided := by
    intro t none_ last
    constructor <;> simp [none_, last]
  apply new_cases
  · exact (empty _ rfl rfl).handle (ist_made req toTag) config _
  · exact empty _ rfl rfl

theorem new_only {property : Response → Prop} (kind : Kind) (config : TimerConfig) (lps : List ListeningPoint)
    (req : Request) (toTag : String) (holds : ∀ filled, filled.vias = req.vias → filled.cseq = req.cseq →
      property filled) : OnReturn (new kind config lps req toTag) (Only property) := by
  have empty : ∀ t : Transaction, t.queued = [] → t.lastResponse = none → t.Only property := by
    intro t none_ last
    constructor <;> simp [none_, last]
  apply new_cases
  · apply (empty _ rfl rfl).handle
    intro lps' resp same filled echo
    cases same
    exact holds filled echo.vias echo.cseq
  · exact empty _ rfl rfl

theorem new_kind (kind : Kind) (config : TimerConfig) (lps : List ListeningPoint) (req : Request) (toTag : String) :
    OnReturn (new kind config lps req toTag) fun t => t.kind = kind := by
  cases kind with
  | ist => exact handle_kind (ist_made req toTag) config (.response lps (Response.createFromRequest req 100))
  | nist => rfl

theorem new_unconfirmed (kind : Kind) (config : TimerConfig) (lps : List ListeningPoint) (req : Request)
    (toTag : String) : OnReturn (new kind config lps req toTag) fun t => t.state ≠ .confirmed := by
  apply new_cases
  · refine (handle_confirmed (ist_made req toTag) config _).mono fun t only confirmed => ?_
    rcases only confirmed with before | ⟨_, ack⟩
    · cases before
    · cases ack
  · nofun

end Server.Transaction

end BelleSip
