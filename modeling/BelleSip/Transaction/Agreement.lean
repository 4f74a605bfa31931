import BelleSip.Transaction.Exchange
import BelleSip.Transaction.FinalResponse
import BelleSip.Transaction.Separation

/-
This file proves what the two sides of an exchange agree on, whatever the network loses, repeats, and reorders.
-/

namespace BelleSip

open Foundation
open Foundation.Checked (OnReturn)
open Foundation.Reentrance (Config Input)

namespace Exchange

/-- The branch and the method, by which a message finds its transaction. -/
abbrev Key := Option String × String

def Client.key (client : Client) : Key := (client.branchId, client.request.method)

def Peer.key (peer : Peer) : Key := (peer.request.branch, peer.request.method)

/-- A server transaction with the key has queued the response. -/
def Heard (peers : List Peer) (key : Key) (resp : Response) : Prop :=
  ∃ peer ∈ peers, peer.key = key ∧ resp ∈ peer.responses

/-- A request that comes from a client transaction with one of the keys. -/
structure Genuine (keys : List Key) (req : IncomingRequest) : Prop where
  branch : ∃ branch, req.cookieBranch = some branch
  cseq : req.cseq.map (·.method) = some req.method
  key : req.method ≠ "ACK" → (req.branch, req.method) ∈ keys

/-- The invariant of a client transaction, when it can have heard the responses of these peers. -/
structure Client.Sound (peers : List Peer) (client : Client) : Prop where
  tracks : Callbacks.Tracks client.kind client.request (Heard peers client.key) client.log client.config.state
    client.config.stack
  invite : client.kind = .ict → client.request.method = "INVITE"

/-- The invariant of a server transaction. -/
structure Peer.Sound (keys : List Key) (peer : Peer) : Prop where
  sound : peer.work.Sound
  decided : peer.work.Decided
  answers : peer.work.Only (Answers peer)
  kind : peer.work.kind = .ist → peer.request.method = "INVITE"
  branch : peer.request.cookieBranch = some peer.branchId
  cseq : peer.request.cseq.map (·.method) = some peer.request.method
  key : peer.key ∈ keys

/-- The invariant of an exchange between client transactions with these keys. -/
structure State.Sound (keys : List Key) (state : State) : Prop where
  sameKeys : state.clients.map Client.key = keys
  clients : ∀ client ∈ state.clients, client.Sound state.peers
  peers : ∀ peer ∈ state.peers, peer.Sound keys
  given : ∀ req ∈ state.given, Genuine keys req
  confirmed : ∀ peer ∈ state.peers, peer.work.state = .confirmed →
    ∃ client ∈ state.clients, client.key = peer.key ∧ .ack ∈ client.config.state.queued

section Lists

variable {Entry : Type} {entries : List Entry} {change : Entry → Entry} {position : Nat}

/-- An entry of the changed list is an old one, or the changed one. -/
theorem mem_modify {entry : Entry} (among : entry ∈ entries.modify position change) :
    entry ∈ entries ∨ ∃ old ∈ entries[position]?, entry = change old := by
  obtain ⟨place, found⟩ := List.mem_iff_getElem?.mp among
  by_cases same : position = place
  · subst same
    rw [List.getElem?_modify_eq] at found
    obtain ⟨old, there, rfl⟩ := Option.map_eq_some_iff.mp found
    exact .inr ⟨old, there, rfl⟩
  · rw [List.getElem?_modify_ne _ _ same] at found
    exact .inl (List.mem_of_getElem? found)

/-- An old entry, or what it has been changed to, is in the changed list. -/
theorem exists_mem_modify {old : Entry} (among : old ∈ entries) :
    ∃ entry ∈ entries.modify position change, entry = old ∨ (old ∈ entries[position]? ∧ entry = change old) := by
  obtain ⟨place, found⟩ := List.mem_iff_getElem?.mp among
  by_cases same : position = place
  · subst same
    have there : (entries.modify position change)[position]? = some (change old) := by
      rw [List.getElem?_modify_eq, found]
      rfl
    exact ⟨change old, List.mem_of_getElem? there, .inr ⟨found, rfl⟩⟩
  · have there : (entries.modify position change)[place]? = some old := by
      rw [List.getElem?_modify_ne _ _ same]
      exact found
    exact ⟨old, List.mem_of_getElem? there, .inl rfl⟩

theorem map_modify {Value : Type} {field : Entry → Value}
    (same : ∀ old ∈ entries[position]?, field (change old) = field old) :
    (entries.modify position change).map field = entries.map field := by
  apply List.ext_getElem?
  intro place
  rw [List.getElem?_map, List.getElem?_map]
  by_cases here : position = place
  · subst here
    rw [List.getElem?_modify_eq]
    cases found : entries[position]? with
    | none => rfl
    | some old => exact congrArg some (same old found)
  · rw [List.getElem?_modify_ne _ _ here]

end Lists

/-- All the server transactions are still there, and what they have queued. -/
def Grows (before after : List Peer) : Prop :=
  ∀ peer ∈ before, ∃ later ∈ after, later.key = peer.key ∧ peer.responses ⊆ later.responses

theorem Grows.heard {before after : List Peer} (grows : Grows before after) {key : Key} {resp : Response}
    (heard : Heard before key resp) : Heard after key resp := by
  obtain ⟨peer, among, same, queued⟩ := heard
  obtain ⟨later, amongToo, sameToo, more⟩ := grows peer among
  exact ⟨later, amongToo, sameToo.trans same, more queued⟩

theorem Grows.of_subset {before after : List Peer} (subset : before ⊆ after) : Grows before after :=
  fun peer among => ⟨peer, subset among, rfl, fun _ => id⟩

section Client

variable {peers : List Peer} {client : Client}

theorem Client.Sound.mono (sound : client.Sound peers) {more : List Peer} (grows : Grows peers more) :
    client.Sound more where
  tracks := sound.tracks.mono fun _ heard => grows.heard heard
  invite := sound.invite

/-- What a step leaves of a client transaction. -/
structure Client.Follows (client after : Client) : Prop where
  key : after.key = client.key
  acked : .ack ∈ client.config.state.queued → .ack ∈ after.config.state.queued

theorem Client.Sound.step (sound : client.Sound peers) {input : Input Callbacks.Call Callbacks.Event}
    (arrives : ∀ resp found, input = .event (.response resp found) → Heard peers client.key resp) :
    (client.step input).Sound peers ∧ client.Follows (client.step input) := by
  have tracks := sound.tracks.step arrives
  have kind : (client.step input).kind = client.kind := tracks.kind
  have request : (client.step input).request = client.request := tracks.request
  have key : (client.step input).key = client.key := by
    rw [Client.key, Client.key, Client.branchId, Client.branchId, request]
  refine ⟨⟨?_, ?_⟩, key, ?_⟩
  · rw [kind, request, key]
    exact tracks
  · rw [kind, request]
    exact sound.invite
  · exact sound.tracks.step_acks input

end Client

section Server

variable {keys : List Key} {peer : Peer}

theorem Peer.Sound.withWork (sound : peer.Sound keys) {work : Server.Transaction} (sound_ : work.Sound)
    (decided : work.Decided) (answers : work.Only (Answers peer)) (kind : work.kind = peer.work.kind) :
    { peer with work := work }.Sound keys where
  sound := sound_
  decided := decided
  answers := answers
  kind := by
    rw [kind]
    exact sound.kind
  branch := sound.branch
  cseq := sound.cseq
  key := sound.key

theorem Peer.Sound.responds (sound : peer.Sound keys) {resp : Response} (queued : resp ∈ peer.responses) :
    Answers peer resp := by
  obtain ⟨entry, among, rfl⟩ := List.mem_map.mp queued
  exact sound.answers.queued entry among

/-- What an event does to a server transaction. -/
structure Peer.Follows (keys : List Key) (peer : Peer) (event : Server.Event) (work : Server.Transaction) : Prop where
  sound : { peer with work := work }.Sound keys
  responses : peer.responses ⊆ { peer with work := work }.responses
  confirmed : work.state = .confirmed → peer.work.state = .confirmed ∨
    (peer.request.method = "INVITE" ∧ event = .request "ACK")

theorem Peer.Sound.handle (sound : peer.Sound keys) (config : Server.TimerConfig) {event : Server.Event}
    (answers : ∀ lps resp, event = .response lps resp → Answers peer resp) :
    OnReturn (peer.work.handle config event) (peer.Follows keys event) := by
  have echoes : ∀ lps resp, event = .response lps resp → ∀ filled, Server.Transaction.Echo resp filled →
      Answers peer filled := by
    intro lps resp same filled echo
    obtain ⟨vias, cseq⟩ := answers lps resp same
    exact ⟨echo.vias.trans vias, echo.cseq.trans cseq⟩
  cases ended : peer.work.handle config event with
  | error fault => trivial
  | ok work =>
      have kept := (sound.sound.handle config event).elim ended
      have kind := (Server.Transaction.handle_kind sound.sound config event).elim ended
      have decided := (sound.decided.handle sound.sound config event).elim ended
      have only := (sound.answers.handle config echoes).elim ended
      have grows := (Server.Transaction.handle_grows sound.sound config event).elim ended
      have confirmed := (Server.Transaction.handle_confirmed sound.sound config event).elim ended
      refine ⟨sound.withWork kept decided only kind, List.map_subset _ grows.subset, ?_⟩
      exact fun now => (confirmed now).imp_right fun ⟨ist, ack⟩ => ⟨sound.kind ist, ack⟩

end Server

/-- One server transaction is replaced by what it has become. -/
structure Replaces (before after : List Peer) (old new : Peer) : Prop where
  removed : old ∈ before
  added : new ∈ after
  kept : ∀ peer ∈ before, peer = old ∨ peer ∈ after
  origin : ∀ peer ∈ after, peer ∈ before ∨ peer = new

theorem replaces_set {peers : List Peer} {position : Nat} {old : Peer} (found : peers[position]? = some old)
    (new : Peer) : Replaces peers (peers.set position new) old new where
  removed := List.mem_of_getElem? found
  added := List.mem_set (List.getElem?_eq_some_iff.mp found).1 new
  kept := by
    intro peer among
    obtain ⟨place, there⟩ := List.mem_iff_getElem?.mp among
    by_cases same : place = position
    · rw [same, found] at there
      exact .inl (Option.some.inj there).symm
    · refine .inr (List.mem_of_getElem? (i := place) ?_)
      rw [List.getElem?_set_ne (Ne.symm same)]
      exact there
  origin := fun peer among => List.mem_or_eq_of_mem_set among

namespace Replaces

variable {before after : List Peer} {old new : Peer}

/-- Other server transactions stand behind. -/
theorem append (replaces : Replaces before after old new) (others : List Peer) :
    Replaces (before ++ others) (after ++ others) old new where
  removed := List.mem_append_left _ replaces.removed
  added := List.mem_append_left _ replaces.added
  kept := fun peer among => (List.mem_append.mp among).elim
    (fun here => (replaces.kept peer here).imp_right (List.mem_append_left _))
    (fun there => .inr (List.mem_append_right _ there))
  origin := fun peer among => (List.mem_append.mp among).elim
    (fun here => (replaces.origin peer here).imp_left (List.mem_append_left _))
    (fun there => .inl (List.mem_append_right _ there))

/-- Other server transactions stand in front. -/
theorem prepend (replaces : Replaces before after old new) (others : List Peer) :
    Replaces (others ++ before) (others ++ after) old new where
  removed := List.mem_append_right _ replaces.removed
  added := List.mem_append_right _ replaces.added
  kept := fun peer among => (List.mem_append.mp among).elim
    (fun there => .inr (List.mem_append_left _ there))
    (fun here => (replaces.kept peer here).imp_right (List.mem_append_right _))
  origin := fun peer among => (List.mem_append.mp among).elim
    (fun there => .inl (List.mem_append_left _ there))
    (fun here => (replaces.origin peer here).imp_left (List.mem_append_right _))

end Replaces

/-- A server transaction that terminates changes from one list to the other. -/
theorem replaces_erase {live gone : List Peer} {position : Nat} {old : Peer} (found : live[position]? = some old)
    (new : Peer) : Replaces (live ++ gone) (live.eraseIdx position ++ new :: gone) old new where
  removed := List.mem_append_left _ (List.mem_of_getElem? found)
  added := List.mem_append_right _ List.mem_cons_self
  kept := by
    intro peer among
    rcases List.mem_append.mp among with here | there
    · obtain ⟨place, at_⟩ := List.mem_iff_getElem?.mp here
      by_cases same : place = position
      · rw [same, found] at at_
        exact .inl (Option.some.inj at_).symm
      · exact .inr (List.mem_append_left _ (List.mem_eraseIdx_iff_getElem?.mpr ⟨place, same, at_⟩))
    · exact .inr (List.mem_append_right _ (List.mem_cons_of_mem _ there))
  origin := by
    intro peer among
    rcases List.mem_append.mp among with here | there
    · exact .inl (List.mem_append_left _ (List.mem_of_mem_eraseIdx here))
    · rcases List.mem_cons.mp there with same | there
      · exact .inr same
      · exact .inl (List.mem_append_right _ there)

namespace State.Sound

variable {keys : List Key} {state : State}

/-- Other server transactions and other requests. -/
theorem withPeers (sound : state.Sound keys) {after : State} (clients : after.clients = state.clients)
    (given : ∀ req ∈ after.given, Genuine keys req) (grows : Grows state.peers after.peers)
    (peers : ∀ peer ∈ after.peers, peer.Sound keys)
    (confirmed : ∀ peer ∈ after.peers, peer.work.state = .confirmed →
      ∃ client ∈ state.clients, client.key = peer.key ∧ .ack ∈ client.config.state.queued) : after.Sound keys where
  sameKeys := by
    rw [clients]
    exact sound.sameKeys
  clients := by
    rw [clients]
    exact fun client among => (sound.clients client among).mono grows
  peers := peers
  given := given
  confirmed := by
    rw [clients]
    exact confirmed

/-- One client transaction takes a step. -/
theorem withClient (sound : state.Sound keys) (position : Nat) {input : Input Callbacks.Call Callbacks.Event}
    (arrives : ∀ client ∈ state.clients[position]?, ∀ resp found, input = .event (.response resp found) →
      Heard state.peers client.key resp) :
    { state with clients := state.clients.modify position (·.step input) }.Sound keys := by
  have stepped : ∀ client ∈ state.clients[position]?,
      (client.step input).Sound state.peers ∧ client.Follows (client.step input) := by
    intro client found
    have among : client ∈ state.clients := List.mem_of_getElem? found
    exact (sound.clients client among).step (arrives client found)
  exact {
    sameKeys := by
      refine (map_modify ?_).trans sound.sameKeys
      exact fun client found => (stepped client found).2.key
    clients := by
      intro client among
      rcases mem_modify among with old | ⟨old, found, rfl⟩
      · exact sound.clients client old
      · exact (stepped old found).1
    peers := sound.peers
    given := sound.given
    confirmed := by
      intro peer among confirmed
      obtain ⟨client, old, key, acked⟩ := sound.confirmed peer among confirmed
      have kept : ∃ after ∈ state.clients.modify position (·.step input), after = client ∨
          (client ∈ state.clients[position]? ∧ after = client.step input) := exists_mem_modify old
      obtain ⟨after, here, same | ⟨found, rfl⟩⟩ := kept
      · rw [← same] at key acked
        exact ⟨after, here, key, acked⟩
      · have follows := (stepped client found).2
        exact ⟨_, here, follows.key.trans key, follows.acked acked⟩ }

/-- One server transaction has handled an event. -/
theorem replaces (sound : state.Sound keys) {after : State} (clients : after.clients = state.clients)
    (given : after.given = state.given) {old : Peer} {event : Server.Event} {work : Server.Transaction}
    (replaces : Replaces state.peers after.peers old { old with work := work }) (follows : old.Follows keys event work)
    (acks : event = .request "ACK" → old.request.method = "INVITE" →
      ∃ client ∈ state.clients, client.key = old.key ∧ .ack ∈ client.config.state.queued) : after.Sound keys := by
  apply sound.withPeers clients
  · rw [given]
    exact sound.given
  · intro peer among
    rcases replaces.kept peer among with rfl | still
    · exact ⟨_, replaces.added, rfl, follows.responses⟩
    · exact ⟨peer, still, rfl, fun _ => id⟩
  · intro peer among
    rcases replaces.origin peer among with before | rfl
    · exact sound.peers peer before
    · exact follows.sound
  · intro peer among confirmed
    rcases replaces.origin peer among with before | rfl
    · exact sound.confirmed peer before confirmed
    · rcases follows.confirmed confirmed with before | ⟨invite, ack⟩
      · exact sound.confirmed old replaces.removed before
      · exact acks ack invite

theorem handleLive (sound : state.Sound keys) (config : Server.TimerConfig) {position : Nat} {event : Server.Event}
    (answers : ∀ peer ∈ state.live[position]?, ∀ lps resp, event = .response lps resp → Answers peer resp)
    (acks : event = .request "ACK" → ∀ peer ∈ state.live[position]?, peer.request.method = "INVITE" →
      ∃ client ∈ state.clients, client.key = peer.key ∧ .ack ∈ client.config.state.queued) :
    OnReturn (state.handleLive config position event) (Sound keys) := by
  unfold State.handleLive
  split
  · exact sound
  · next old found =>
      have here : old ∈ state.live := List.mem_of_getElem? found
      have among : old ∈ state.peers := List.mem_append_left _ here
      refine Checked.onReturn_bind.mpr (((sound.peers old among).handle config (answers old found)).mono ?_)
      intro work follows
      dsimp only
      split
      · exact sound.replaces rfl rfl (replaces_erase found _) follows fun ack invite => acks ack old found invite
      · exact sound.replaces rfl rfl ((replaces_set found _).append state.gone) follows
          fun ack invite => acks ack old found invite

theorem handleGone (sound : state.Sound keys) (config : Server.TimerConfig) {position : Nat} {event : Server.Event}
    (serves : Serves state.gone position event) : OnReturn (state.handleGone config position event) (Sound keys) := by
  unfold State.handleGone
  split
  · exact sound
  · next old found =>
      have among : old ∈ state.peers := List.mem_append_right _ (List.mem_of_getElem? found)
      have answers : ∀ lps resp, event = .response lps resp → Answers old resp := by
        rintro lps resp rfl
        exact serves old found
      refine Checked.onReturn_bind.mpr (((sound.peers old among).handle config answers).mono ?_)
      intro work follows
      refine sound.replaces rfl rfl ((replaces_set found _).prepend state.live) follows ?_
      rintro rfl
      exact absurd serves id

theorem createServerTransaction (sound : state.Sound keys) (config : Server.TimerConfig) {req : IncomingRequest}
    (genuine : Genuine keys req) (acceptance : Acceptance) :
    OnReturn (state.createServerTransaction config req acceptance) (Sound keys) := by
  unfold State.createServerTransaction
  split
  · exact sound
  · next transactional =>
      obtain ⟨branch, cookie⟩ := genuine.branch
      have made : OnReturn (ServerTransaction.init req) fun transaction =>
          transaction = { request := req, branchId := branch } := by
        unfold ServerTransaction.init
        refine Checked.onReturn_bind.mpr (Checked.onReturn_deref.mpr fun via _ => ?_)
        rw [cookie]
        rfl
      refine Checked.onReturn_bind.mpr (made.mono ?_)
      rintro transaction rfl
      generalize kindIs : (if req.method = "INVITE" then Server.Kind.ist else .nist) = kind
      apply Checked.onReturn_bind.mpr
      cases created : Server.Transaction.new kind config acceptance.lps req.toRequest acceptance.toTag with
      | error fault => trivial
      | ok work =>
          have kinds := (Server.Transaction.new_kind kind config _ _ _).elim created
          have only : work.Only (Answers ⟨⟨req, branch⟩, work⟩) :=
            (Server.Transaction.new_only kind config _ _ _ fun filled vias cseq => ⟨vias, cseq⟩).elim created
          have peer : Peer.Sound keys ⟨⟨req, branch⟩, work⟩ := {
            sound := (Server.Transaction.new_sound kind config _ _ _).elim created
            decided := (Server.Transaction.new_decided kind config _ _ _).elim created
            answers := only
            kind := by
              intro ist
              by_contra other
              rw [if_neg other] at kindIs
              exact absurd (kindIs.trans (kinds.symm.trans ist)) (by decide)
            branch := cookie
            cseq := genuine.cseq
            key := genuine.key transactional }
          rw [Checked.onReturn_ok, Checked.onReturn_pure]
          apply sound.withPeers
          · rfl
          · exact sound.given
          · exact Grows.of_subset (List.subset_cons_self _ _)
          · exact List.forall_mem_cons.mpr ⟨peer, sound.peers⟩
          · refine List.forall_mem_cons.mpr ⟨?_, sound.confirmed⟩
            have unconfirmed := (Server.Transaction.new_unconfirmed kind config _ _ _).elim created
            exact fun confirmed => absurd confirmed unconfirmed

theorem processRequestEvent (sound : state.Sound keys) (config : Server.TimerConfig) {req : IncomingRequest}
    (genuine : Genuine keys req) (acceptance : Option Acceptance) :
    OnReturn (state.processRequestEvent config req acceptance) (Sound keys) := by
  have told : { state with given := req :: state.given }.Sound keys :=
    { sound with given := List.forall_mem_cons.mpr ⟨genuine, sound.given⟩ }
  unfold State.processRequestEvent
  split
  · exact told.createServerTransaction config genuine _
  · exact told

end State.Sound

/-- The keys of client transactions: each branch is one that `belle_sip_client_transaction_init` makes, and no
transaction is one of an ACK. -/
structure Proper (keys : List Key) : Prop where
  branch : ∀ key ∈ keys, ∃ branch, key.1 = some branch ∧ magicCookie.toList.isPrefixOf branch.toList = true
  transactional : ∀ key ∈ keys, key.2 ≠ "ACK"

theorem branch_of_cookieBranch {req : IncomingRequest} {branch : String} (cookie : req.cookieBranch = some branch) :
    req.branch = some branch := (Option.filter_eq_some_iff.mp cookie).1

namespace State.Sound

variable {keys : List Key} {state : State} {client : Client} {ack : Bool} {copy : IncomingRequest}

theorem key_mem (sound : state.Sound keys) (among : client ∈ state.clients) : client.key ∈ keys := by
  rw [← sound.sameKeys]
  exact List.mem_map_of_mem among

/-- A copy of what a client transaction has queued comes from it. -/
theorem genuine (sound : state.Sound keys) (proper : Proper keys) (among : client ∈ state.clients)
    (copies : Copies client ack copy) : Genuine keys copy where
  branch := by
    obtain ⟨branch, same, cookie⟩ := proper.branch client.key (sound.key_mem among)
    refine ⟨branch, Option.filter_eq_some_iff.mpr ⟨copies.branch.trans same, cookie⟩⟩
  cseq := copies.cseq
  key := by
    intro transactional
    have method : copy.method = client.request.method := by
      have same := copies.method
      split at same
      · exact absurd same transactional
      · exact same
    rw [copies.branch, method]
    exact sound.key_mem among

/-- A request of an RFC 3261 stack is looked up by its branch. -/
theorem lookup_eq (digest : List UInt8 → String) {branch : String} (cookie : copy.cookieBranch = some branch)
    (transactions : List ServerTransaction) : findMatchingTransaction digest transactions copy =
      .ok (transactions.findIdx? (transactionMatch branch copy.method), copy) := by
  unfold findMatchingTransaction lookupBranch
  rw [cookie]
  rfl

/-- The server transaction that a request is matched to has its branch. -/
theorem matched_branch {peers : List Peer} {branch method : String} {position : Nat} {peer : Peer}
    (found : (peers.map Peer.toServerTransaction).findIdx? (transactionMatch branch method) = some position)
    (there : peers[position]? = some peer) : branch = peer.branchId := by
  obtain ⟨inside, matches_, _⟩ := List.findIdx?_eq_some_iff_getElem.mp found
  have own : (peers.map Peer.toServerTransaction)[position] = peer.toServerTransaction := by
    apply Option.some.inj
    rw [← List.getElem?_eq_getElem, List.getElem?_map, there]
    rfl
  rw [own, transactionMatch] at matches_
  exact of_decide_eq_true (Bool.and_eq_true_iff.mp matches_).1

/-- Only a client transaction that has queued an ACK sends one. -/
theorem acked (sound : state.Sound keys) (proper : Proper keys) (among : client ∈ state.clients)
    (copies : Copies client ack copy) (isAck : copy.method = "ACK") : .ack ∈ client.config.state.queued := by
  have sent := copies.sent
  have method := copies.method
  cases ack with
  | true => exact sent
  | false => exact absurd (method.symm.trans isAck) (proper.transactional client.key (sound.key_mem among))

theorem dispatchRequest (sound : state.Sound keys) (proper : Proper keys) (config : Server.TimerConfig)
    (digest : List UInt8 → String) (among : client ∈ state.clients) (copies : Copies client ack copy)
    (acceptance : Option Acceptance) : OnReturn (state.dispatchRequest config digest copy acceptance) (Sound keys) := by
  have genuine := sound.genuine proper among copies
  obtain ⟨branch, cookie⟩ := genuine.branch
  unfold State.dispatchRequest
  rw [lookup_eq digest cookie, Checked.ok_bind]
  dsimp only
  split
  · next position found =>
      have acks : Server.Event.request copy.method = .request "ACK" → ∀ peer ∈ state.live[position]?,
          peer.request.method = "INVITE" →
          ∃ client ∈ state.clients, client.key = peer.key ∧ .ack ∈ client.config.state.queued := by
        intro same peer there invite
        have isAck : copy.method = "ACK" := Server.Event.request.inj same
        have acked := sound.acked proper among copies isAck
        refine ⟨client, among, Prod.ext ?_ ?_, acked⟩
        · have own := (sound.peers peer (List.mem_append_left _ (List.mem_of_getElem? there))).branch
          have same : branch = peer.branchId := matched_branch found there
          calc client.branchId = copy.branch := copies.branch.symm
            _ = some branch := branch_of_cookieBranch cookie
            _ = some peer.branchId := congrArg some same
            _ = peer.request.branch := (branch_of_cookieBranch own).symm
        · exact ((sound.clients client among).invite ((sound.clients client among).tracks.rejected acked).1).trans
            invite.symm
      refine Checked.onReturn_bind.mpr ((sound.handleLive config ?_ acks).mono fun after sound => ?_)
      · exact fun _ _ _ _ same => nomatch same
      · split
        · exact sound.processRequestEvent config genuine acceptance
        · exact sound
  · exact sound.processRequestEvent config genuine acceptance

/-- The client transaction that a response is matched to has its branch and its method. -/
theorem findMatching_spec {clients : List Client} {resp : Response} {position : Nat}
    (search : findMatchingClientTransaction clients resp = .ok (some position)) {client : Client}
    (there : clients[position]? = some client) :
    resp.vias.head?.bind (·.branch) = client.branchId ∧ resp.cseq.map (·.method) = some client.request.method := by
  unfold findMatchingClientTransaction at search
  split at search
  · next via cseq topmost present =>
      split at search
      · rw [topmost, present]
        cases branch : via.branch with
        | none =>
            rw [branch] at search
            cases search
        | some text =>
            rw [branch, Checked.deref_some, Checked.ok_bind] at search
            have found := Except.ok.inj search
            obtain ⟨inside, matches_, _⟩ := List.findIdx?_eq_some_iff_getElem.mp found
            have own : clients[position] = client := by
              apply Option.some.inj
              rw [← List.getElem?_eq_getElem, there]
            rw [own, clientTransactionMatch] at matches_
            simp only [Bool.and_eq_true, decide_eq_true_eq] at matches_
            exact ⟨branch.trans matches_.2.1.symm, congrArg some matches_.2.2.symm⟩
      · cases Except.ok.inj search
  · cases Except.ok.inj search

/-- A response that has been queued is given to a transaction that can have heard it. -/
theorem dispatchResponse (sound : state.Sound keys) {peer : Peer} (among : peer ∈ state.peers) {resp : Response}
    (queued : resp ∈ peer.responses) (found : Option Dialog) :
    OnReturn (state.dispatchResponse resp found) (Sound keys) := by
  unfold State.dispatchResponse
  cases search : findMatchingClientTransaction state.clients resp with
  | error fault => trivial
  | ok result =>
      rw [Checked.ok_bind]
      cases result with
      | none => exact { sound with }
      | some position =>
          apply sound.withClient position
          intro client there other found' same
          cases same
          obtain ⟨branch, method⟩ := findMatching_spec search there
          obtain ⟨vias, cseq⟩ := (sound.peers peer among).responds queued
          refine ⟨peer, among, Prod.ext ?_ ?_, queued⟩
          · rw [vias] at branch
            exact branch
          · rw [cseq, (sound.peers peer among).cseq] at method
            exact Option.some.inj method

/-- Every possible event keeps the invariant. -/
theorem step (proper : Proper keys) (config : Server.TimerConfig) (digest : List UInt8 → String)
    (sound : state.Sound keys) {event : Event} (possible : Possible state event) :
    (state.step config digest event).Sound keys := by
  have handled : OnReturn (state.handle config digest event) (Sound keys) := by
    cases event with
    | client position input =>
        apply sound.withClient position
        rintro client there resp found rfl
        exact absurd possible id
    | request position ack copy acceptance =>
        obtain ⟨client, there, copies⟩ := possible
        exact sound.dispatchRequest proper config digest (List.mem_of_getElem? there) copies acceptance
    | accept req acceptance => exact sound.createServerTransaction config (sound.given req possible) acceptance
    | response position copy found =>
        unfold State.handle
        dsimp only
        split
        · next resp present =>
            obtain ⟨peer, there, queued⟩ := Option.bind_eq_some_iff.mp present
            exact sound.dispatchResponse (List.mem_of_getElem? there) (List.mem_of_getElem? queued) found
        · exact sound
    | live position event =>
        apply sound.handleLive config
        · rintro peer there lps resp rfl
          exact possible peer there
        · rintro rfl
          exact absurd possible id
    | gone position event => exact sound.handleGone config possible
  unfold State.step
  cases ended : state.handle config digest event with
  | error fault => exact sound
  | ok after => exact handled.elim ended

end State.Sound

/-- The keys of the client transactions of the run. -/
def keys (requests : List Request) : List Key :=
  requests.map fun request => (request.vias.head?.bind (·.branch), request.method)

theorem start_sound (requests : List Request) : (start requests).Sound (keys requests) where
  sameKeys := by
    rw [start, List.map_map]
    rfl
  clients := by
    intro client among
    obtain ⟨request, _, rfl⟩ := List.mem_map.mp among
    refine ⟨?_, ?_⟩
    · apply Callbacks.Tracks.new
      unfold Client.new
      split <;> rfl
    · unfold Client.new Client.kind Client.request
      split
      · next invite => exact fun _ => invite
      · nofun
  peers := List.forall_mem_nil _
  given := List.forall_mem_nil _
  confirmed := List.forall_mem_nil _

theorem run_agreed (requests : List Request) (proper : Proper (keys requests)) (config : Server.TimerConfig)
    (digest : List UInt8 → String) {events : List Event}
    (possible : Machine.Along (State.step config digest) Possible (start requests) events) :
    (Machine.run (State.step config digest) (start requests) events).Sound (keys requests) :=
  Machine.run_invariant (fun _ _ sound possible => sound.step proper config digest possible) (start_sound requests)
    possible

/-- What a client transaction reports is in order: provisional responses, then one final response, or several 2xx
responses of an INVITE. Each of them comes from a server transaction for the same branch and method, and a final
response is the only one that this server transaction has queued. -/
theorem reports_what_peers_answer (requests : List Request) (proper : Proper (keys requests))
    (config : Server.TimerConfig) (digest : List UInt8 → String) (events : List Event)
    (possible : Machine.Along (State.step config digest) Possible (start requests) events) :
    let state := Machine.run (State.step config digest) (start requests) events
    ∀ client ∈ state.clients, client.log.told.Pairwise (Callbacks.Precedes client.kind) ∧
      ∀ resp ∈ client.log.told, ∃ peer ∈ state.peers, peer.key = client.key ∧ resp ∈ peer.responses ∧
        (200 ≤ resp.statusCode → ∀ other ∈ peer.responses, 200 ≤ other.statusCode → other = resp) := by
  intro state client among
  have sound := run_agreed requests proper config digest possible
  have tracks := (sound.clients client among).tracks
  refine ⟨(List.pairwise_append.mp tracks.reports.ordered).1, ?_⟩
  intro resp told
  obtain ⟨peer, here, key, queued⟩ := tracks.arrived resp (List.mem_append_left _ told)
  refine ⟨peer, here, key, queued, ?_⟩
  intro final other queuedToo finalToo
  obtain ⟨first, firstAmong, rfl⟩ := List.mem_map.mp queued
  obtain ⟨second, secondAmong, rfl⟩ := List.mem_map.mp queuedToo
  exact (sound.peers peer here).decided.single second secondAmong first firstAmong finalToo final

/-- A request with a branch of the library. -/
def sampleRequest (method : String) : Request where
  method := method
  callId := some "call"
  cseq := some ⟨1, method⟩
  fromHeader := some {}
  toHeader := some { uri := some { text := "sip:b@home" } }
  contact := some {}
  maxForwards := true
  vias := [{ host := "192.0.2.1", port := 5060, branch := some "z9hG4bK.1" }]

/-- The copies of the request that arrive. -/
def sampleCopy (method : String) : IncomingRequest :=
  { sampleRequest method with cseq := some ⟨1, method⟩ }

def sampleChannel : Server.PeerChannel := ⟨1, false⟩

def sampleLps : List Server.ListeningPoint := [{ transport := "UDP", getChannel := fun _ => some sampleChannel }]

/-- A client transaction works until it has nothing left to do. -/
def ticks (count : Nat) : List Event := List.replicate count (.client 0 .tick)

/-- A request is sent, and arrives twice; a response is sent, and what is queued then arrives twice. -/
def sampleEvents (method : String) (statusCode queued : Nat) : List Event :=
  .client 0 (.call (.sendRequest .ready sampleChannel false)) :: ticks 3 ++
    [.request 0 false (sampleCopy method) (some ⟨"tag", sampleLps⟩),
      .request 0 false (sampleCopy method) (some ⟨"other", sampleLps⟩),
      .live 0 (.response sampleLps (Response.createFromRequest (sampleRequest method) statusCode)),
      .request 0 false (sampleCopy method) (some ⟨"third", sampleLps⟩)] ++
    .response 0 queued none :: ticks 5 ++ .response 0 queued none :: ticks 5

theorem reports_what_peers_answer_options :
    let config : Server.TimerConfig := {}
    let state := Machine.run (State.step config latinText) (start [sampleRequest "OPTIONS"])
      (sampleEvents "OPTIONS" 200 0)
    state.clients.map (fun client => client.log.told.map (·.statusCode)) = [[200]] ∧
    ∀ client ∈ state.clients, client.log.told.Pairwise (Callbacks.Precedes client.kind) ∧
      ∀ resp ∈ client.log.told, ∃ peer ∈ state.peers, peer.key = client.key ∧ resp ∈ peer.responses ∧
        (200 ≤ resp.statusCode → ∀ other ∈ peer.responses, 200 ≤ other.statusCode → other = resp) :=
  ⟨by decide +kernel,
    reports_what_peers_answer [sampleRequest "OPTIONS"]
      ⟨by simp [keys, sampleRequest, magicCookie], by simp [keys, sampleRequest]⟩ {} latinText
      (sampleEvents "OPTIONS" 200 0) (by decide +kernel)⟩

/-- A server transaction that is `CONFIRMED` is one of an INVITE whose client transactions with its branch have received
a response that rejects, from a server transaction for the same branch and method, and have ended with it: none of them
has reported a 2xx response. -/
theorem confirmed_only_when_rejected (requests : List Request) (proper : Proper (keys requests))
    (apart : (keys requests).Nodup) (config : Server.TimerConfig) (digest : List UInt8 → String) (events : List Event)
    (possible : Machine.Along (State.step config digest) Possible (start requests) events) :
    let state := Machine.run (State.step config digest) (start requests) events
    ∀ peer ∈ state.peers, peer.work.state = .confirmed → ∃ client ∈ state.clients, client.key = peer.key ∧
      ∀ other ∈ state.clients, other.key = peer.key → other.kind = .ict ∧
        other.config.state.state ∈ [.completed, .terminated] ∧
        (∃ resp ∈ other.log.received, 300 ≤ resp.statusCode ∧ ∃ origin ∈ state.peers, origin.key = other.key ∧
          resp ∈ origin.responses) ∧
        ∀ resp ∈ other.log.told, resp.statusCode < 200 ∨ 300 ≤ resp.statusCode := by
  intro state peer among confirmed
  have sound := run_agreed requests proper config digest possible
  obtain ⟨client, here, key, acked⟩ := sound.confirmed peer among confirmed
  refine ⟨client, here, key, ?_⟩
  intro other there keyToo
  have distinct : (state.clients.map Client.key).Nodup := by
    rw [sound.sameKeys]
    exact apart
  obtain rfl : other = client := List.inj_on_of_nodup_map distinct there here (keyToo.trans key.symm)
  have tracks := (sound.clients other there).tracks
  obtain ⟨ict, ended, ⟨resp, received, rejects⟩, rejected⟩ := tracks.rejected acked
  have heard : Heard state.peers other.key resp := tracks.received resp received
  exact ⟨ict, ended, ⟨resp, received, rejects, heard⟩, fun resp told => rejected resp (List.mem_append_left _ told)⟩

/-- An INVITE is rejected, and the ACK arrives. -/
def rejectedEvents : List Event :=
  sampleEvents "INVITE" 486 2 ++ [.request 0 true (sampleCopy "ACK") none]

theorem confirmed_only_when_rejected_invite :
    let config : Server.TimerConfig := {}
    let state := Machine.run (State.step config latinText) (start [sampleRequest "INVITE"]) rejectedEvents
    state.peers.map (·.work.state) = [.confirmed] ∧
    ∀ peer ∈ state.peers, peer.work.state = .confirmed → ∃ client ∈ state.clients, client.key = peer.key ∧
      ∀ other ∈ state.clients, other.key = peer.key → other.kind = .ict ∧
        other.config.state.state ∈ [.completed, .terminated] ∧
        (∃ resp ∈ other.log.received, 300 ≤ resp.statusCode ∧ ∃ origin ∈ state.peers, origin.key = other.key ∧
          resp ∈ origin.responses) ∧
        ∀ resp ∈ other.log.told, resp.statusCode < 200 ∨ 300 ≤ resp.statusCode :=
  ⟨by decide +kernel,
    confirmed_only_when_rejected [sampleRequest "INVITE"]
      ⟨by simp [keys, sampleRequest, magicCookie], by simp [keys, sampleRequest]⟩ (by simp [keys]) {} latinText
      rejectedEvents (by decide +kernel)⟩

end Exchange

end BelleSip
