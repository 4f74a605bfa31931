import BelleSip.Transaction.Server

/-
This file proves which response a server transaction remembers, and when it can answer.
-/

namespace BelleSip

open Foundation

namespace Server

/-- The states that a transaction of the kind can be in. -/
def Kind.states : Kind → List TransactionState
  | .ist => [.proceeding, .accepted, .completed, .confirmed, .terminated]
  | .nist => [.trying, .proceeding, .completed, .terminated]

/-- The final responses of which one is sent: all of them, but for an INVITE only those that are no 2xx. -/
def Kind.closes : Kind → Response → Bool
  | .ist, resp => 300 ≤ resp.statusCode
  | .nist, resp => 200 ≤ resp.statusCode

/-- The state after a new response. -/
def Kind.next : Kind → Response → TransactionState
  | .ist, resp =>
      if 200 ≤ resp.statusCode ∧ resp.statusCode < 300 then .accepted
      else if 300 ≤ resp.statusCode then .completed
      else .proceeding
  | .nist, resp => if 200 ≤ resp.statusCode then .completed else .proceeding

namespace Transaction

variable {config : TimerConfig} {lps : List ListeningPoint} {resp : Response} {channel : PeerChannel}
  {t after : Transaction}

/-- New responses are sent. -/
def Open (t : Transaction) : Prop := t.state = .trying ∨ t.state = .proceeding

instance Open.decidable (t : Transaction) : Decidable t.Open := inferInstanceAs (Decidable (_ ∨ _))

/-- The response is accepted although nothing is queued for it. -/
def Strays (t : Transaction) (resp : Response) : Prop :=
  (t.kind = .ist ∧ t.state = .accepted ∧ 200 ≤ resp.statusCode ∧ resp.statusCode < 300) ∨
    (t.kind = .nist ∧ t.state = .terminated)

instance Strays.decidable (t : Transaction) (resp : Response) : Decidable (t.Strays resp) :=
  inferInstanceAs (Decidable (_ ∨ _))

/-- The invariant of a server transaction. -/
structure Sound (t : Transaction) : Prop where
  state : t.state ∈ t.kind.states
  channel : t.lastResponse ≠ none → t.channel ≠ none
  answered : t.state = .completed ∨ t.state = .accepted ∨ (t.state = .proceeding ∧ t.kind = .nist) →
    t.lastResponse ≠ none
  once : (t.sent.filter t.kind.closes).length ≤ 1
  opened : t.Open → t.sent.filter t.kind.closes = []

/-- A new response is queued on the channel. -/
structure Queues (resp : Response) (channel : PeerChannel) (t after : Transaction) : Prop where
  kind : after.kind = t.kind
  state : after.state = t.kind.next resp
  outlet : after.channel = t.channel
  lastResponse : after.lastResponse = t.lastResponse
  queued : after.queued = t.queued ++ [(channel, resp)]
  sent : after.sent = t.sent ++ [resp]

theorem queueMessage_ok (open_ : t.channel = some channel) (message : Response) :
    t.queueMessage (some message) = .ok { t with queued := t.queued ++ [(channel, message)] } := by
  rw [queueMessage, open_]
  rfl

theorem queueResponse_ok (open_ : t.channel = some channel) (resp : Response) :
    t.queueResponse resp =
      .ok { t with queued := t.queued ++ [(channel, resp)], sent := t.sent ++ [resp] } := by
  rw [queueResponse, queueMessage_ok open_]
  rfl

theorem istSendNewResponse_open (ist : t.kind = .ist) (proceeding : t.state = .proceeding)
    (open_ : t.channel = some channel) (resp : Response) :
    Checked.Returns (t.istSendNewResponse config resp) fun result => result.2 = 0 ∧ Queues resp channel t result.1 := by
  rw [istSendNewResponse, proceeding]
  simp only [queueResponse_ok open_, Checked.ok_bind]
  split
  next success =>
      refine Checked.returns_ok.mpr ⟨rfl, ?_⟩
      exact {
        kind := rfl
        state := by simp [Kind.next, ist, success]
        outlet := rfl
        lastResponse := rfl
        queued := rfl
        sent := rfl }
  next noSuccess =>
      split
      next failure =>
          simp only [open_, Checked.deref_some, Checked.ok_bind]
          refine Checked.returns_ok.mpr ⟨rfl, ?_⟩
          exact {
            kind := rfl
            state := by simp [Kind.next, ist, noSuccess, failure]
            outlet := open_.symm
            lastResponse := rfl
            queued := rfl
            sent := rfl }
      next provisional =>
          refine Checked.returns_ok.mpr ⟨rfl, ?_⟩
          exact {
            kind := rfl
            state := by simp [Kind.next, ist, noSuccess, provisional, proceeding]
            outlet := rfl
            lastResponse := rfl
            queued := rfl
            sent := rfl }

theorem nistProceed_open (nist : t.kind = .nist) (proceeding : 200 ≤ resp.statusCode ∨ t.state = .proceeding)
    (open_ : t.channel = some channel) :
    Checked.Returns (t.nistProceed config resp) fun result => result.2 = 0 ∧ Queues resp channel t result.1 := by
  rw [nistProceed]
  by_cases final : 200 ≤ resp.statusCode
  · simp only [if_pos final, nistSetCompleted, open_, Checked.deref_some, Checked.ok_bind]
    rw [queueResponse_ok rfl]
    refine Checked.returns_ok.mpr ⟨rfl, ?_⟩
    exact {
      kind := rfl
      state := by simp [Kind.next, nist, final]
      outlet := open_.symm
      lastResponse := rfl
      queued := rfl
      sent := rfl }
  · simp only [if_neg final, Checked.ok_bind, queueResponse_ok open_]
    refine Checked.returns_ok.mpr ⟨rfl, ?_⟩
    exact {
      kind := rfl
      state := by simp [Kind.next, nist, final, proceeding.resolve_left final]
      outlet := rfl
      lastResponse := rfl
      queued := rfl
      sent := rfl }

/-- While new responses are sent, one is queued on the channel. -/
theorem Sound.sendNewResponse_open (sound : t.Sound) (config : TimerConfig) (opened : t.Open)
    (open_ : t.channel = some channel) (resp : Response) :
    Checked.Returns (t.sendNewResponse config resp) fun result => result.2 = 0 ∧ Queues resp channel t result.1 := by
  rw [sendNewResponse]
  cases kind : t.kind with
  | ist =>
      have proceeding : t.state = .proceeding := by
        refine opened.resolve_left fun trying => ?_
        have among := sound.state
        rw [kind, trying] at among
        exact absurd among (by decide)
      exact istSendNewResponse_open kind proceeding open_ resp
  | nist =>
      dsimp only
      rw [nistSendNewResponse]
      rcases opened with trying | proceeding
      · rw [trying]
        dsimp only
        split
        next provisional =>
            have still : Transaction.channel { t with state := .proceeding } = some channel := open_
            rw [queueResponse_ok still]
            refine Checked.returns_ok.mpr ⟨rfl, ?_⟩
            exact {
              kind := rfl
              state := by simp [Kind.next, kind, Nat.not_le.mpr provisional]
              outlet := rfl
              lastResponse := rfl
              queued := rfl
              sent := rfl }
        next final => exact nistProceed_open kind (.inl (Nat.le_of_not_lt final)) open_
      · rw [proceeding]
        exact nistProceed_open kind (.inr proceeding) open_

/-- When new responses are not sent any more, one is dropped. -/
theorem Sound.sendNewResponse_closed (sound : t.Sound) (closed : ¬t.Open) (resp : Response) :
    t.sendNewResponse config resp = .ok (t, if t.Strays resp then 0 else -1) := by
  have among := sound.state
  rw [sendNewResponse]
  cases kind : t.kind <;> cases state : t.state <;>
    simp [Open, state, kind, Kind.states, istSendNewResponse, nistSendNewResponse, Strays] at closed among ⊢

/-- One of the listening points has a channel to the hop that the response returns to. -/
def Reaches (lps : List ListeningPoint) (resp : Response) : Prop :=
  ∃ hop, resp.getReturnHop = some hop ∧ getChannel lps hop ≠ none

/-- What a response does to a transaction. -/
inductive Answers (lps : List ListeningPoint) (resp : Response) (t : Transaction) : Transaction → Prop where
  | unsent (first : t.lastResponse = none) (lost : ¬Reaches lps resp) : Answers lps resp t { t with channel := none }
  | sent {channel : PeerChannel} {filled : Response} {after : Transaction} (opened : t.Open)
      (queues : Queues filled channel { t with channel := some channel } after)
      (reached : t.lastResponse ≠ none ∨ Reaches lps resp) :
      Answers lps resp t { after with lastResponse := some filled }
  | stored {channel : PeerChannel} {filled : Response} (closed : ¬t.Open) (strays : t.Strays resp)
      (reached : t.lastResponse ≠ none ∨ Reaches lps resp) :
      Answers lps resp t { t with channel := some channel, lastResponse := some filled }
  | refused {channel : PeerChannel} (closed : ¬t.Open) : Answers lps resp t { t with channel := some channel }

theorem withChannel_eq (open_ : t.channel = some channel) : { t with channel := some channel } = t := by
  rw [← open_]

/-- The state of a transaction with another channel. -/
theorem Sound.withChannel (sound : t.Sound) (channel : PeerChannel) : Sound { t with channel := some channel } where
  state := sound.state
  channel := fun _ => Option.some_ne_none channel
  answered := sound.answered
  once := sound.once
  opened := sound.opened

theorem complete_statusCode {filled : Response} (completed : t.complete resp = .ok filled) :
    filled.statusCode = resp.statusCode := by
  unfold complete at completed
  split at completed
  · cases completed
    rfl
  · cases header : resp.toHeader with
    | none =>
        rw [header] at completed
        cases completed
    | some to_ =>
        rw [header, Checked.deref_some, Checked.ok_bind] at completed
        cases completed
        grind [fillForDialog]

theorem strays_complete {filled : Response} {other : Option PeerChannel}
    (completed : complete resp { t with channel := other } = .ok filled) (strays : t.Strays filled) :
    t.Strays resp := by
  rw [Strays, complete_statusCode completed] at strays
  exact strays

theorem Sound.sendOnChannel (sound : t.Sound) (config : TimerConfig) (channel : PeerChannel)
    (reached : t.lastResponse ≠ none ∨ Reaches lps resp) :
    Checked.OnReturn (sendOnChannel config resp { t with channel := some channel }) (Answers lps resp t) := by
  rw [Transaction.sendOnChannel, Checked.onReturn_bind]
  cases completed : complete resp { t with channel := some channel } with
  | error fault => exact Checked.onReturn_error
  | ok filled =>
      rw [Checked.onReturn_ok]
      by_cases opened : t.Open
      · obtain ⟨⟨after, ret⟩, isSent, zero, queues⟩ :=
          (sound.withChannel channel).sendNewResponse_open config opened rfl filled
        dsimp only at zero queues
        rw [isSent, Checked.ok_bind]
        dsimp only
        rw [if_pos zero]
        exact .sent opened queues reached
      · rw [(sound.withChannel channel).sendNewResponse_closed opened, Checked.ok_bind]
        dsimp only
        by_cases strays : t.Strays filled
        · have again : Strays { t with channel := some channel } filled := strays
          rw [if_pos again]
          exact .stored opened (strays_complete completed strays) reached
        · have again : ¬Strays { t with channel := some channel } filled := strays
          rw [if_neg again]
          exact .refused opened

/-- What `belle_sip_server_transaction_send_response` does to a transaction. -/
theorem Sound.sendResponse (sound : t.Sound) (config : TimerConfig) (lps : List ListeningPoint) (resp : Response) :
    Checked.OnReturn (t.sendResponse config lps resp) (Answers lps resp t) := by
  unfold Transaction.sendResponse
  split
  next last first =>
      have some_ : t.lastResponse ≠ none := by
        rw [first]
        exact Option.some_ne_none last
      obtain ⟨channel, open_⟩ := Option.ne_none_iff_exists'.mp (sound.channel some_)
      have sent : Checked.OnReturn _ (Answers lps resp t) := sound.sendOnChannel config channel (.inl some_)
      rw [withChannel_eq open_] at sent
      exact sent
  next first =>
      rw [Checked.onReturn_bind, Checked.onReturn_deref]
      intro hop found
      split
      next absent =>
          refine .unsent first ?_
          rintro ⟨other, same, there⟩
          obtain rfl := Option.some.inj (found.symm.trans same)
          exact there absent
      next channel reached =>
          have there : getChannel lps hop ≠ none := by
            rw [reached]
            exact Option.some_ne_none channel
          exact sound.sendOnChannel config channel (.inr ⟨hop, found, there⟩)

/-- What the other events do to a transaction. -/
structure Keeps (t after : Transaction) : Prop where
  kind : after.kind = t.kind
  channel : after.channel = t.channel
  lastResponse : after.lastResponse = t.lastResponse
  sent : after.sent = t.sent
  state : after.state = t.state ∨ after.state = .terminated ∨ (t.kind = .ist ∧ after.state = .confirmed)
  queued : after.queued = t.queued ∨ ∃ channel resp, t.lastResponse = some resp ∧
    after.queued = t.queued ++ [(channel, resp)]

theorem Keeps.refl (t : Transaction) : Keeps t t where
  kind := rfl
  channel := rfl
  lastResponse := rfl
  sent := rfl
  state := .inl rfl
  queued := .inl rfl

theorem keeps_terminate (t : Transaction) : Keeps t t.terminate := by
  rw [terminate]
  split
  · exact Keeps.refl t
  · exact { Keeps.refl t with state := .inr (.inl rfl) }

theorem queueMessage_keeps (t : Transaction) : Checked.OnReturn (t.queueMessage t.lastResponse) (Keeps t) := by
  rw [queueMessage, Checked.onReturn_bind, Checked.onReturn_deref]
  intro channel _
  rw [Checked.onReturn_bind, Checked.onReturn_deref]
  intro resp last
  exact { Keeps.refl t with queued := .inr ⟨channel, resp, last, rfl⟩ }

theorem onRequest_keeps (config : TimerConfig) (method : String) (t : Transaction) :
    Checked.OnReturn (t.onRequest config method) (Keeps t) := by
  unfold onRequest
  split
  · cases kind : t.kind with
    | nist => exact Keeps.refl t
    | ist =>
        dsimp only
        unfold processAck
        split
        · rw [Checked.onReturn_bind, Checked.onReturn_deref]
          intro channel _
          have confirmed : Keeps t { t with timerG := none, state := .confirmed } :=
            { Keeps.refl t with state := .inr (.inr ⟨kind, rfl⟩) }
          rw [Checked.onReturn_ok]
          split
          · have gone := keeps_terminate { t with timerG := none, state := .confirmed }
            exact { gone with state := .inr (.inl (by simp [terminate])) }
          · exact { confirmed with }
        · exact Keeps.refl t
  · split
    · exact Keeps.refl t
    · unfold onRequestRetransmission
      split
      · exact queueMessage_keeps t
      · exact queueMessage_keeps t
      · exact Keeps.refl t

/-- An event that is no response of the application. -/
def Passive (event : Event) : Prop := ∀ lps resp, event ≠ .response lps resp

theorem response_or_passive (event : Event) : (∃ lps resp, event = .response lps resp) ∨ Passive event := by
  cases event with
  | response lps resp => exact .inl ⟨lps, resp, rfl⟩
  | _ =>
      right
      intro lps resp same
      cases same

theorem handle_keeps (config : TimerConfig) {event : Event} (passive : Passive event) (t : Transaction) :
    Checked.OnReturn (t.handle config event) (Keeps t) := by
  cases event with
  | response lps resp => exact absurd rfl (passive lps resp)
  | request method => exact onRequest_keeps config method t
  | timerG =>
      rw [handle]
      cases t.timerG with
      | none => exact Keeps.refl t
      | some interval =>
          rw [Option.elim_some, onTimerG]
          split
          · rw [Checked.onReturn_bind]
            refine (queueMessage_keeps t).mono fun after keeps => ?_
            exact { keeps with }
          · exact { Keeps.refl t with }
  | timerH =>
      rw [handle]
      cases t.timerH with
      | none => exact Keeps.refl t
      | some _ =>
          rw [Option.elim_some, onTimerH]
          split
          · exact keeps_terminate t
          · exact { Keeps.refl t with }
  | timerI =>
      rw [handle]
      cases t.timerI with
      | none => exact Keeps.refl t
      | some _ => exact keeps_terminate t
  | timerL =>
      rw [handle]
      cases t.timerL with
      | none => exact Keeps.refl t
      | some _ => exact keeps_terminate t
  | timerJ =>
      rw [handle]
      cases t.timerJ with
      | none => exact Keeps.refl t
      | some _ => exact keeps_terminate t
  | terminate => exact keeps_terminate t
  | dialog present => exact { Keeps.refl t with }

theorem Sound.keeps (sound : t.Sound) (keeps : Keeps t after) : after.Sound := by
  have states : after.state = t.state ∨ after.state = .terminated ∨ after.state = .confirmed :=
    keeps.state.imp_right fun ended => ended.imp_right And.right
  exact {
    state := by
      rw [keeps.kind]
      rcases keeps.state with same | gone | ⟨ist, confirmed⟩
      · rw [same]
        exact sound.state
      · rw [gone]
        cases t.kind <;> decide
      · rw [ist, confirmed]
        decide
    channel := by
      rw [keeps.lastResponse, keeps.channel]
      exact sound.channel
    answered := by
      rw [keeps.lastResponse, keeps.kind]
      intro active
      rcases states with same | other | other
      · rw [same] at active
        exact sound.answered active
      all_goals simp [other] at active
    once := by
      rw [keeps.sent, keeps.kind]
      exact sound.once
    opened := by
      rw [Open, keeps.sent, keeps.kind]
      intro active
      rcases states with same | other | other
      · rw [same] at active
        exact sound.opened active
      all_goals simp [other] at active }

theorem next_mem (kind : Kind) (resp : Response) : kind.next resp ∈ kind.states := by
  cases kind <;> grind [Kind.next, Kind.states]

/-- A response that closes the transaction ends its openness. -/
theorem next_open {kind : Kind} {resp : Response} (opened : kind.next resp = .trying ∨ kind.next resp = .proceeding) :
    kind.closes resp = false := by
  cases kind <;> grind [Kind.next, Kind.closes]

theorem Sound.answers (sound : t.Sound) (answers : Answers lps resp t after) : after.Sound := by
  cases answers with
  | unsent first => exact { sound with channel := fun some_ => absurd first some_ }
  | @sent channel filled queued opened queues =>
      have filtered : (queued.sent.filter queued.kind.closes) = if t.kind.closes filled then [filled] else [] := by
        have closes : queued.kind.closes = t.kind.closes := by rw [queues.kind]
        have sent : queued.sent = t.sent ++ [filled] := queues.sent
        rw [sent, closes, List.filter_append, sound.opened opened, List.nil_append, List.filter_singleton]
        cases t.kind.closes filled <;> rfl
      exact {
        state := by
          have state : queued.state = t.kind.next filled := queues.state
          have kind : queued.kind = t.kind := queues.kind
          show queued.state ∈ queued.kind.states
          rw [state, kind]
          exact next_mem t.kind filled
        channel := by
          intro _
          have outlet : queued.channel = some channel := queues.outlet
          show queued.channel ≠ none
          rw [outlet]
          exact Option.some_ne_none channel
        answered := fun _ => Option.some_ne_none filled
        once := by
          show (queued.sent.filter queued.kind.closes).length ≤ 1
          rw [filtered]
          split <;> simp
        opened := by
          intro stillOpen
          have state : queued.state = t.kind.next filled := queues.state
          have next : queued.state = .trying ∨ queued.state = .proceeding := stillOpen
          rw [state] at next
          show queued.sent.filter queued.kind.closes = []
          rw [filtered, next_open next]
          rfl }
  | stored closed strays reached =>
      exact { sound with
        channel := fun _ => Option.some_ne_none _
        answered := fun _ => Option.some_ne_none _ }
  | refused closed => exact { sound with channel := fun _ => Option.some_ne_none _ }

/-- Every event keeps the invariant. -/
theorem Sound.handle (sound : t.Sound) (config : TimerConfig) (event : Event) :
    Checked.OnReturn (t.handle config event) Sound := by
  rcases response_or_passive event with ⟨lps, resp, rfl⟩ | passive
  · exact (sound.sendResponse config lps resp).mono fun _ answers => sound.answers answers
  · exact (handle_keeps config passive t).mono fun _ keeps => sound.keeps keeps

theorem step_sound (config : TimerConfig) {state : Checked Transaction} (event : Event)
    (sound : Checked.OnReturn state Sound) : Checked.OnReturn (step config state event) Sound :=
  Checked.onReturn_bind.mpr (sound.mono fun _ sound => sound.handle config event)

/-- An INVITE transaction before `belle_sip_ist_new` sends a first response. -/
theorem ist_made (req : Request) (toTag : String) :
    Sound { kind := .ist, request := req, toTag := toTag, state := .proceeding } where
  state := List.mem_cons_self
  channel := fun some_ => absurd rfl some_
  answered := by simp
  once := Nat.zero_le 1
  opened := fun _ => rfl

theorem new_sound (kind : Kind) (config : TimerConfig) (lps : List ListeningPoint) (req : Request) (toTag : String) :
    Checked.OnReturn (new kind config lps req toTag) Sound := by
  cases kind with
  | ist =>
      have made := ist_made req toTag
      exact (made.sendResponse config lps _).mono fun _ answers => made.answers answers
  | nist =>
      exact {
        state := List.mem_cons_self
        channel := fun some_ => absurd rfl some_
        answered := by simp
        once := Nat.zero_le 1
        opened := fun _ => rfl }

/-- The transaction remembers the response that was last queued on its channel, and has sent one final response. -/
structure Consistent (t : Transaction) : Prop where
  last : t.lastResponse = t.queued.getLast?.map Prod.snd
  once : (t.sent.filter t.kind.closes).length ≤ 1

/-- A request that is neither an ACK nor a CANCEL is a retransmission. -/
def Retransmits : Event → Prop
  | .request method => method ≠ "ACK" ∧ method ≠ "CANCEL"
  | _ => False

/-- An event leaves the response that was last queued remembered: nothing else replaces it, and only it is queued
again, for each retransmission of the request in the states `PROCEEDING` and `COMPLETED`. -/
structure Remembers (event : Event) (before after : Transaction) : Prop where
  consistent : after.Consistent
  unqueued : after.queued = before.queued → after.lastResponse = before.lastResponse
  replayed : Passive event → ∀ entry ∈ after.queued.drop before.queued.length, before.lastResponse = some entry.2
  repeated : Retransmits event → before.state ∈ [.proceeding, .completed] →
    ∃ channel resp, before.lastResponse = some resp ∧ after.queued = before.queued ++ [(channel, resp)]

/-- An event meets the condition: no 2xx response is passed to an accepted INVITE transaction, and no response that
finds a channel to a terminated non-INVITE transaction. -/
def Accepts (t : Transaction) : Event → Prop
  | .response lps resp =>
      t.Strays resp → t.lastResponse = none ∧ ∀ hop ∈ resp.getReturnHop, getChannel lps hop = none
  | _ => True

instance Accepts.decidable (t : Transaction) : ∀ event, Decidable (t.Accepts event)
  | .response _ _ => inferInstanceAs (Decidable (_ → _))
  | .request _ | .timerG | .timerH | .timerI | .timerL | .timerJ | .terminate | .dialog _ =>
      inferInstanceAs (Decidable True)

/-- A retransmission of the request is answered with the last response. -/
theorem handle_repeats (config : TimerConfig) {event : Event} (retransmits : Retransmits event)
    (early : t.state ∈ [.proceeding, .completed]) :
    Checked.OnReturn (t.handle config event) fun after =>
      ∃ channel resp, t.lastResponse = some resp ∧ after.queued = t.queued ++ [(channel, resp)] := by
  cases event with
  | request method =>
      have handled : t.handle config (.request method) = t.queueMessage t.lastResponse := by
        simp only [List.mem_cons, List.not_mem_nil, or_false] at early
        rw [Transaction.handle, onRequest, if_neg retransmits.1, if_neg retransmits.2, onRequestRetransmission]
        rcases early with state | state <;> rw [state]
      rw [handled, queueMessage, Checked.onReturn_bind, Checked.onReturn_deref]
      intro channel _
      rw [Checked.onReturn_bind, Checked.onReturn_deref]
      intro resp last
      exact ⟨channel, resp, last, rfl⟩
  | response | timerG | timerH | timerI | timerL | timerJ | terminate | dialog => exact retransmits.elim

theorem Keeps.remembers {event : Event} (keeps : Keeps t after) (sound : t.Sound)
    (last : t.lastResponse = t.queued.getLast?.map Prod.snd)
    (repeated : Retransmits event → t.state ∈ [.proceeding, .completed] →
      ∃ channel resp, t.lastResponse = some resp ∧ after.queued = t.queued ++ [(channel, resp)]) :
    Remembers event t after where
  repeated := repeated
  consistent := {
    last := by
      rw [keeps.lastResponse]
      rcases keeps.queued with same | ⟨channel, resp, isLast, queued⟩
      · rw [same]
        exact last
      · rw [queued, isLast, List.getLast?_concat]
        rfl
    once := (sound.keeps keeps).once }
  unqueued := fun _ => keeps.lastResponse
  replayed := by
    intro _ entry among
    rcases keeps.queued with same | ⟨channel, resp, isLast, queued⟩
    · rw [same, List.drop_length] at among
      cases among
    · rw [queued, List.drop_left, List.mem_singleton] at among
      rw [among, isLast]

theorem Answers.remembers (answers : Answers lps resp t after) (sound : t.Sound)
    (last : t.lastResponse = t.queued.getLast?.map Prod.snd) (accepts : t.Accepts (.response lps resp)) :
    Remembers (.response lps resp) t after := by
  have once := (sound.answers answers).once
  cases answers with
  | unsent first =>
      exact {
        consistent := { last := last, once := once }
        unqueued := fun _ => rfl
        replayed := fun passive => absurd rfl (passive lps resp)
        repeated := False.elim }
  | @sent channel filled queued opened queues =>
      have more : queued.queued = t.queued ++ [(channel, filled)] := queues.queued
      exact {
        consistent := {
          last := by
            show some filled = queued.queued.getLast?.map Prod.snd
            rw [more, List.getLast?_concat]
            rfl
          once := once }
        unqueued := by
          intro same
          have impossible : t.queued ++ [(channel, filled)] = t.queued := more.symm.trans same
          simp at impossible
        replayed := fun passive => absurd rfl (passive lps resp)
        repeated := False.elim }
  | stored closed strays reached =>
      obtain ⟨first, none_⟩ := accepts strays
      rcases reached with some_ | ⟨hop, found, there⟩
      · exact absurd first some_
      · exact absurd (none_ hop found) there
  | refused closed =>
      exact {
        consistent := { last := last, once := once }
        unqueued := fun _ => rfl
        replayed := fun passive => absurd rfl (passive lps resp)
        repeated := False.elim }

/-- One event that meets the condition. -/
theorem Sound.remembers (sound : t.Sound) (last : t.lastResponse = t.queued.getLast?.map Prod.snd)
    (config : TimerConfig) {event : Event} (accepts : t.Accepts event) :
    Checked.OnReturn (t.handle config event) (Remembers event t) := by
  rcases response_or_passive event with ⟨lps, resp, rfl⟩ | passive
  · exact (sound.sendResponse config lps resp).mono fun _ answers => answers.remembers sound last accepts
  · cases handled : t.handle config event with
    | error fault => trivial
    | ok after =>
        refine ((handle_keeps config passive t).elim handled).remembers sound last ?_
        exact fun retransmits early => (handle_repeats config retransmits early).elim handled

/-- The events of a run, at the state before each of them. -/
def Accepting (state : Checked Transaction) (event : Event) : Prop := Checked.OnReturn state fun t => t.Accepts event

instance Accepting.decidable : ∀ (state : Checked Transaction) (event : Event), Decidable (Accepting state event)
  | .ok t, event => Accepts.decidable t event
  | .error _, _ => inferInstanceAs (Decidable True)

def Remembering (config : TimerConfig) (state : Checked Transaction) (event : Event) : Prop :=
  Checked.OnReturn state fun t => Checked.OnReturn (t.handle config event) (Remembers event t)

theorem new_consistent (kind : Kind) (config : TimerConfig) (lps : List ListeningPoint) (req : Request)
    (toTag : String) : Checked.OnReturn (new kind config lps req toTag) fun t => t.Sound ∧ t.Consistent := by
  cases kind with
  | ist =>
      have made := ist_made req toTag
      refine (made.sendResponse config lps _).mono fun after answers => ⟨made.answers answers, ?_⟩
      refine (answers.remembers made rfl fun strays => ?_).consistent
      rcases strays with ⟨_, impossible, _⟩ | ⟨impossible, _⟩ <;> cases impossible
  | nist => exact ⟨new_sound .nist config lps req toTag, { last := rfl, once := Nat.zero_le 1 }⟩

/-- In every run whose responses meet the condition, the transaction remembers the response that was last queued, at
every step and at the end. -/
theorem run_remembering (kind : Kind) (config : TimerConfig) (lps : List ListeningPoint) (req : Request)
    (toTag : String) {events : List Event}
    (accepting : Machine.Along (step config) Accepting (new kind config lps req toTag) events) :
    Machine.Along (step config) (Remembering config) (new kind config lps req toTag) events ∧
      Checked.OnReturn (Machine.run (step config) (new kind config lps req toTag) events) Consistent := by
  have remembers : ∀ (state : Checked Transaction) (event : Event),
      Checked.OnReturn state (fun t => t.Sound ∧ t.Consistent) → Accepting state event →
      Remembering config state event := by
    intro state event kept accepts
    cases state with
    | error fault => trivial
    | ok t => exact kept.1.remembers kept.2.last config accepts
  have preserved : ∀ (state : Checked Transaction) (event : Event),
      Checked.OnReturn state (fun t => t.Sound ∧ t.Consistent) → Accepting state event →
      Checked.OnReturn (step config state event) fun t => t.Sound ∧ t.Consistent := by
    intro state event kept accepts
    cases state with
    | error fault => trivial
    | ok t =>
        have remembered := kept.1.remembers kept.2.last config accepts
        have sound := kept.1.handle config event
        rw [step, Checked.ok_bind]
        cases handled : t.handle config event with
        | error fault => trivial
        | ok after =>
            exact ⟨sound.elim handled, (remembered.elim handled).consistent⟩
  have start := new_consistent kind config lps req toTag
  exact ⟨accepting.entails preserved remembers start,
    (Machine.run_invariant preserved start accepting).mono fun _ kept => kept.2⟩

/-- An INVITE over UDP, and a listening point with a channel to its sender. -/
def udpInvite : Request := { method := "INVITE", vias := [{ host := "192.0.2.1", port := 5060 }], toHeader := some {} }

def udpPoint : ListeningPoint := { transport := "UDP", getChannel := fun _ => some ⟨1, false⟩ }

def busyHere : Response := Response.createFromRequest udpInvite 486

/-- A call that rings and is refused, with a retransmission of the request before and after. -/
theorem run_remembering_busy :
    Machine.Along (step {}) (Remembering {}) (new .ist {} [udpPoint] udpInvite "tag")
        [.response [udpPoint] (Response.createFromRequest udpInvite 180), .request "INVITE",
          .response [udpPoint] busyHere, .request "INVITE", .timerG, .request "ACK", .timerI] ∧
      Checked.OnReturn (Machine.run (step {}) (new .ist {} [udpPoint] udpInvite "tag")
        [.response [udpPoint] (Response.createFromRequest udpInvite 180), .request "INVITE",
          .response [udpPoint] busyHere, .request "INVITE", .timerG, .request "ACK", .timerI]) Consistent :=
  run_remembering .ist {} [udpPoint] udpInvite "tag" (by decide)

/-- A second 2xx response replaces the one that was queued. -/
theorem not_consistent_accepted :
    ¬Checked.OnReturn (Machine.run (step {}) (new .ist {} [udpPoint] udpInvite "tag")
      [.response [udpPoint] (Response.createFromRequest udpInvite 200),
        .response [udpPoint] (Response.createFromRequest udpInvite 202)]) Consistent := by
  intro consistent
  have last := Consistent.last consistent
  revert last
  decide

/-- A later response can be sent: it is queued and remembered when there is a channel for it. -/
def Able (config : TimerConfig) (t : Transaction) : Prop :=
  ∀ lps resp hop channel, resp.toHeader ≠ none → resp.getReturnHop = some hop → getChannel lps hop = some channel →
    Checked.Returns (t.sendResponse config lps resp) fun after =>
      ∃ filled, after.lastResponse = some filled ∧ after.queued = t.queued ++ [(channel, filled)]

/-- In a state in which responses are sent but none could be, a later one can be sent; and an event that is no response
reads no null channel or response. -/
def Serving (config : TimerConfig) (state : Checked Transaction) (event : Event) : Prop :=
  Checked.OnReturn state fun t =>
    (t.Open → t.lastResponse = none → t.Able config) ∧
      (Passive event → Checked.Returns (t.handle config event) fun _ => True)

/-- No request is retransmitted to an INVITE transaction whose first response could not be sent. -/
def Sendable (state : Checked Transaction) (event : Event) : Prop :=
  Checked.OnReturn state fun t =>
    Retransmits event → t.kind = .ist → t.state = .proceeding → t.lastResponse ≠ none

/-- A response that finds a channel. -/
def Reached : Event → Prop
  | .response lps resp => Reaches lps resp
  | _ => False

/-- While responses are sent, the transaction remembers one exactly when one of the events has found a channel. -/
structure Heard (events : List Event) (t : Transaction) : Prop where
  sound : t.Sound
  found : t.lastResponse ≠ none → ∃ event ∈ events, Reached event
  kept : t.Open → (∃ event ∈ events, Reached event) → t.lastResponse ≠ none

theorem Heard.handle {events : List Event} (heard : Heard events t) (config : TimerConfig) (event : Event) :
    Checked.OnReturn (t.handle config event) (Heard (events ++ [event])) := by
  have earlier : t.lastResponse ≠ none → ∃ other ∈ events ++ [event], Reached other := by
    intro some_
    obtain ⟨other, among, reached⟩ := heard.found some_
    exact ⟨other, List.mem_append_left _ among, reached⟩
  have before (unreached : ¬Reached event) : (∃ other ∈ events ++ [event], Reached other) →
      ∃ other ∈ events, Reached other := by
    rintro ⟨other, among, reached⟩
    rcases List.mem_append.mp among with old | new
    · exact ⟨other, old, reached⟩
    · exact absurd (List.mem_singleton.mp new ▸ reached) unreached
  rcases response_or_passive event with ⟨lps, resp, rfl⟩ | passive
  · have now (reached : t.lastResponse ≠ none ∨ Reaches lps resp) :
        ∃ other ∈ events ++ [.response lps resp], Reached other :=
      reached.elim earlier fun reaches => ⟨_, List.mem_append_right _ (List.mem_singleton.mpr rfl), reaches⟩
    have sounds := heard.sound.handle config (.response lps resp)
    refine (Checked.OnReturn.and sounds (heard.sound.sendResponse config lps resp)).mono ?_
    intro after ⟨sound, answers⟩
    cases answers with
    | unsent first lost => exact ⟨sound, earlier, fun opened reached => heard.kept opened (before lost reached)⟩
    | @sent channel filled queued opened queues reached =>
        exact ⟨sound, fun _ => now reached, fun _ _ => Option.some_ne_none filled⟩
    | stored closed strays reached => exact ⟨sound, fun _ => now reached, fun opened => absurd opened closed⟩
    | refused closed => exact ⟨sound, earlier, fun opened => absurd opened closed⟩
  · have unreached : ¬Reached event := by
      cases event with
      | response lps resp => exact absurd rfl (passive lps resp)
      | request | timerG | timerH | timerI | timerL | timerJ | terminate | dialog => exact id
    refine (handle_keeps config passive t).mono fun after keeps => ⟨heard.sound.keeps keeps, ?_, ?_⟩
    · rw [keeps.lastResponse]
      exact earlier
    · intro opened reached
      rw [keeps.lastResponse]
      refine heard.kept ?_ (before unreached reached)
      unfold Open at opened ⊢
      rcases keeps.state with same | ended | ⟨-, confirmed⟩
      · rwa [same] at opened
      · simp [ended] at opened
      · simp [confirmed] at opened

theorem run_heard (config : TimerConfig) {state : Checked Transaction} {earlier : List Event}
    (heard : Checked.OnReturn state (Heard earlier)) (events : List Event) :
    Checked.OnReturn (Machine.run (step config) state events) (Heard (earlier ++ events)) := by
  induction events generalizing state earlier with
  | nil =>
      rw [List.append_nil]
      exact heard
  | cons event rest ih =>
      have next : Checked.OnReturn (step config state event) (Heard (earlier ++ [event])) :=
        Checked.onReturn_bind.mpr (heard.mono fun _ heard => heard.handle config event)
      have later := ih next
      rw [List.append_assoc] at later
      exact later

/-- An INVITE transaction in `PROCEEDING` has no response to repeat exactly when no response has found a channel, its
own 100 Trying included. -/
theorem run_unanswered_iff (config : TimerConfig) (lps : List ListeningPoint) (req : Request) (toTag : String)
    (events : List Event) :
    Checked.OnReturn (Machine.run (step config) (new .ist config lps req toTag) events) fun t =>
      t.state = .proceeding → (t.lastResponse = none ↔
        ∀ event ∈ .response lps (Response.createFromRequest req 100) :: events, ¬Reached event) := by
  have silent : ¬∃ event ∈ [], Reached event := by simp
  have made : Heard [] { kind := .ist, request := req, toTag := toTag, state := .proceeding } :=
    ⟨ist_made req toTag, absurd rfl, fun _ reached => absurd reached silent⟩
  have begun := made.handle config (.response lps (Response.createFromRequest req 100))
  refine (run_heard config begun events).mono fun t heard proceeding => ⟨fun none_ event among reached => ?_, ?_⟩
  · exact heard.kept (.inr proceeding) ⟨event, among, reached⟩ none_
  · intro lost
    by_contra some_
    obtain ⟨event, among, reached⟩ := heard.found some_
    exact lost event among reached

theorem Sound.able (sound : t.Sound) (config : TimerConfig) (opened : t.Open) (first : t.lastResponse = none) :
    t.Able config := by
  intro lps resp hop channel header found reached
  unfold Transaction.sendResponse
  split
  next last some_ => exact absurd first (by simp [some_])
  next =>
      rw [found, Checked.deref_some, Checked.ok_bind, reached]
      dsimp only
      obtain ⟨filled, completed⟩ : ∃ filled, complete resp { t with channel := some channel } = .ok filled := by
        obtain ⟨to_, isTo⟩ := Option.ne_none_iff_exists'.mp header
        unfold complete
        split
        · exact ⟨resp, rfl⟩
        · rw [isTo]
          exact ⟨_, rfl⟩
      obtain ⟨⟨after, ret⟩, isSent, zero, queues⟩ :=
        (sound.withChannel channel).sendNewResponse_open config opened rfl filled
      dsimp only at zero queues
      rw [Transaction.sendOnChannel, completed, Checked.ok_bind, isSent, Checked.ok_bind]
      dsimp only
      rw [if_pos zero]
      exact Checked.returns_ok.mpr ⟨filled, rfl, queues.queued⟩

theorem queueMessage_returns (sound : t.Sound) (answered : t.lastResponse ≠ none) :
    Checked.Returns (t.queueMessage t.lastResponse) fun _ => True := by
  obtain ⟨resp, last⟩ := Option.ne_none_iff_exists'.mp answered
  obtain ⟨channel, open_⟩ := Option.ne_none_iff_exists'.mp (sound.channel answered)
  rw [last, queueMessage_ok open_]
  exact Checked.returns_ok.mpr trivial

theorem queueMessage_returns_iff (sound : t.Sound) :
    (Checked.Returns (t.queueMessage t.lastResponse) fun _ => True) ↔ t.lastResponse ≠ none := by
  constructor
  · intro returns absent
    rw [queueMessage, absent, Checked.returns_bind] at returns
    obtain ⟨channel, _, later⟩ := returns
    rw [Checked.returns_bind, Checked.returns_deref] at later
    obtain ⟨message, impossible, _⟩ := later
    cases impossible
  · exact queueMessage_returns sound

theorem Sound.processAck_returns (sound : t.Sound) (config : TimerConfig) :
    Checked.Returns (t.processAck config) fun _ => True := by
  unfold processAck
  split
  next completed =>
      obtain ⟨channel, open_⟩ := Option.ne_none_iff_exists'.mp (sound.channel (sound.answered (.inl completed)))
      rw [open_, Checked.deref_some, Checked.ok_bind]
      exact Checked.returns_ok.mpr trivial
  next => exact Checked.returns_ok.mpr trivial

theorem Sound.onTimerG_returns (sound : t.Sound) (config : TimerConfig) (interval : Nat) :
    Checked.Returns (t.onTimerG config interval) fun _ => True := by
  unfold onTimerG
  split
  next completed =>
      rw [Checked.returns_bind]
      refine (queueMessage_returns sound (sound.answered (.inl completed))).mono fun _ _ => ?_
      exact Checked.returns_ok.mpr trivial
  next => exact Checked.returns_ok.mpr trivial

theorem Sound.onRequestRetransmission_returns_iff (sound : t.Sound) :
    (Checked.Returns t.onRequestRetransmission fun _ => True) ↔
      (t.kind = .ist → t.state = .proceeding → t.lastResponse ≠ none) := by
  unfold onRequestRetransmission
  split
  next proceeding =>
      rw [queueMessage_returns_iff sound]
      constructor
      · exact fun answered _ _ => answered
      · intro served
        cases kind : t.kind with
        | ist => exact served kind proceeding
        | nist => exact sound.answered (.inr (.inr ⟨proceeding, kind⟩))
  next completed =>
      have answered := sound.answered (.inl completed)
      exact iff_of_true (queueMessage_returns sound answered) fun _ _ => answered
  next noProceeding _ =>
      exact iff_of_true (Checked.returns_ok.mpr trivial) fun _ proceeding => absurd proceeding noProceeding

/-- An event that is no response reads no null pointer exactly when it is no retransmission to an INVITE transaction
whose first response could not be sent. -/
theorem Sound.returns_iff (sound : t.Sound) (config : TimerConfig) {event : Event} (passive : Passive event) :
    (Checked.Returns (t.handle config event) fun _ => True) ↔
      (Retransmits event → t.kind = .ist → t.state = .proceeding → t.lastResponse ≠ none) := by
  cases event with
  | response lps resp => exact absurd rfl (passive lps resp)
  | request method =>
      rw [Transaction.handle, onRequest]
      split
      next ack =>
          refine iff_of_true ?_ fun retransmits => absurd ack retransmits.1
          cases t.kind with
          | ist => exact sound.processAck_returns config
          | nist => exact Checked.returns_ok.mpr trivial
      next noAck =>
          split
          next cancel =>
              exact iff_of_true (Checked.returns_ok.mpr trivial) fun retransmits => absurd cancel retransmits.2
          next noCancel =>
              rw [sound.onRequestRetransmission_returns_iff]
              exact ⟨fun served _ => served, fun served => served ⟨noAck, noCancel⟩⟩
  | timerG =>
      refine iff_of_true ?_ False.elim
      rw [Transaction.handle]
      cases t.timerG with
      | none => exact Checked.returns_ok.mpr trivial
      | some interval => exact sound.onTimerG_returns config interval
  | _ => exact iff_of_true (Checked.returns_ok.mpr trivial) False.elim

theorem Sound.serving_iff (sound : t.Sound) (config : TimerConfig) (event : Event) :
    Serving config (.ok t) event ↔ Sendable (.ok t) event := by
  rcases response_or_passive event with ⟨lps, resp, rfl⟩ | passive
  · exact iff_of_true ⟨sound.able config, fun passive => absurd rfl (passive lps resp)⟩ False.elim
  · constructor
    · exact fun serving => (sound.returns_iff config passive).mp (serving.2 passive)
    · exact fun sendable => ⟨sound.able config, fun _ => (sound.returns_iff config passive).mpr sendable⟩

/-- Along every run, the transaction serves retransmissions, ACKs and timers, and can send a response after one that
could not be sent, exactly when no request is retransmitted to an INVITE transaction whose first response could not be
sent. -/
theorem run_serving_iff (kind : Kind) (config : TimerConfig) (lps : List ListeningPoint) (req : Request)
    (toTag : String) (events : List Event) :
    Machine.Along (step config) (Serving config) (new kind config lps req toTag) events ↔
      Machine.Along (step config) Sendable (new kind config lps req toTag) events := by
  have start := new_sound kind config lps req toTag
  have each : ∀ (state : Checked Transaction) (event : Event), Checked.OnReturn state Sound →
      (Serving config state event ↔ Sendable state event) := by
    intro state event sound
    cases state with
    | error fault => exact Iff.rfl
    | ok t => exact Sound.serving_iff sound config event
  constructor
  · intro serving
    exact serving.entails (fun _ event sound _ => step_sound config event sound)
      (fun state event sound serves => (each state event sound).mp serves) start
  · intro sendable
    exact sendable.entails (fun _ event sound _ => step_sound config event sound)
      (fun state event sound meets => (each state event sound).mpr meets) start

/-- A retransmission of an INVITE whose Via asks for a transport that no listening point has. -/
theorem not_serving_invite :
    ¬Machine.Along (step {}) (Serving {}) (new .ist {} [] udpInvite "tag") [.request "INVITE"] := by
  rintro ⟨serving, _⟩
  have passive : Passive (.request "INVITE") := fun lps resp same => by cases same
  obtain ⟨after, handled, _⟩ := And.right serving passive
  cases handled

end Transaction

end Server

end BelleSip
