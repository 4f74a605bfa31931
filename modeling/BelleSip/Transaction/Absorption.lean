import BelleSip.Transaction.Agreement
import Mathlib.Data.List.Perm.Basic

/-
This file proves that a server transaction absorbs the retransmissions of its request.
-/

namespace BelleSip

open Foundation
open Foundation.Checked (OnReturn)

namespace Exchange

/-- A server transaction is created for each request as soon as the listeners are told of it. -/
def Prompt : Event → Prop
  | .request _ _ _ acceptance => acceptance.isSome = true
  | .accept _ _ => False
  | _ => True

instance : (event : Event) → Decidable (Prompt event)
  | .request _ _ _ acceptance => inferInstanceAs (Decidable (acceptance.isSome = true))
  | .accept _ _ => isFalse id
  | .client _ _ | .response _ _ _ | .live _ _ | .gone _ _ => isTrue trivial

/-- Two transactions that a request could be matched to are those of a CANCEL. -/
def Apart (first second : ServerTransaction) : Prop :=
  first.branchId = second.branchId → first.request.method = second.request.method → first.request.method = "CANCEL"

/-- How often the listeners have been told of a request with the key. -/
def State.givenFor (state : State) (key : Key) : Nat := state.given.countP fun req => (req.branch, req.method) = key

/-- How many server transactions there have been for the key. -/
def State.servedFor (state : State) (key : Key) : Nat := state.peers.countP fun peer => peer.key = key

/-- The server transactions that can be found are apart, and the listeners have been told of a request once for each
server transaction. -/
structure State.Single (state : State) : Prop where
  apart : (state.live.map Peer.toServerTransaction).Pairwise Apart
  counted : ∀ key : Key, key.2 ≠ "ACK" → state.givenFor key = state.servedFor key

namespace State.Single

variable {keys : List Key} {state : State}

/-- The server transactions are the same, but for what they have done. -/
theorem same (single : state.Single) {after : State} (given : after.given = state.given)
    (live : (after.live.map Peer.toServerTransaction).Sublist (state.live.map Peer.toServerTransaction))
    (all : (after.peers.map Peer.key).Perm (state.peers.map Peer.key)) : after.Single where
  apart := single.apart.sublist live
  counted := by
    intro key transactional
    have served : ∀ state : State, state.servedFor key =
        (state.peers.map Peer.key).countP fun other => other = key := by
      intro state
      rw [List.countP_map]
      rfl
    rw [State.givenFor, given, served, all.countP_eq, ← served]
    exact single.counted key transactional

/-- An entry is exchanged for one with the same field. -/
theorem map_set {Entry Value : Type} {field : Entry → Value} {entries : List Entry} {position : Nat} {old new : Entry}
    (found : entries[position]? = some old) (same : field new = field old) :
    (entries.set position new).map field = entries.map field := by
  apply List.ext_getElem?
  intro place
  rw [List.getElem?_map, List.getElem?_map]
  by_cases here : position = place
  · subst here
    have inside := (List.getElem?_eq_some_iff.mp found).1
    rw [List.getElem?_set_self inside, found]
    exact congrArg some same
  · rw [List.getElem?_set_ne here]

theorem handleLive (single : state.Single) (config : Server.TimerConfig) (position : Nat) (event : Server.Event) :
    OnReturn (state.handleLive config position event) State.Single := by
  unfold State.handleLive
  split
  · exact single
  · next old found =>
      apply Checked.onReturn_bind.mpr
      cases old.work.handle config event with
      | error fault => trivial
      | ok work =>
          have inside := (List.getElem?_eq_some_iff.mp found).1
          rw [Checked.onReturn_ok]
          dsimp only
          split
          · rw [Checked.onReturn_pure]
            apply single.same
            · rfl
            · exact (List.eraseIdx_sublist _ _).map _
            · have own : state.live[position] = old := (List.getElem?_eq_some_iff.mp found).2
              have erased := (List.getElem_cons_eraseIdx_perm inside).map Peer.key
              rw [own] at erased
              have moved : (state.live.eraseIdx position ++ { old with work := work } :: state.gone).Perm
                  ({ old with work := work } :: (state.live.eraseIdx position ++ state.gone)) := List.perm_middle
              refine (moved.map Peer.key).trans ?_
              rw [State.peers, List.map_append, List.map_cons, List.map_append]
              exact erased.append_right _
          · rw [Checked.onReturn_pure]
            apply single.same
            · rfl
            · have same : (state.live.set position { old with work := work }).map Peer.toServerTransaction =
                  state.live.map Peer.toServerTransaction := map_set found rfl
              simp only [same, List.Sublist.refl]
            · have keys_ : (state.live.set position { old with work := work }).map Peer.key =
                  state.live.map Peer.key := map_set found rfl
              simp only [State.peers, List.map_append, keys_, List.Perm.refl]

theorem handleGone (single : state.Single) (config : Server.TimerConfig) (position : Nat) (event : Server.Event) :
    OnReturn (state.handleGone config position event) State.Single := by
  unfold State.handleGone
  split
  · exact single
  · next old found =>
      apply Checked.onReturn_bind.mpr
      cases old.work.handle config event with
      | error fault => trivial
      | ok work =>
          rw [Checked.onReturn_ok, Checked.onReturn_pure]
          apply single.same
          · rfl
          · exact List.Sublist.refl _
          · have keys_ : (state.gone.set position { old with work := work }).map Peer.key =
                state.gone.map Peer.key := map_set found rfl
            simp only [State.peers, List.map_append, keys_, List.Perm.refl]

/-- A server transaction that no live one hides is created for a request that the listeners are told of. -/
theorem processRequestEvent (single : state.Single) (config : Server.TimerConfig) {req : IncomingRequest}
    (genuine : Genuine keys req) {acceptance : Option Acceptance} (prompt : acceptance.isSome = true)
    (unmatched : ∀ branch, req.cookieBranch = some branch → ∀ transaction ∈ state.live.map Peer.toServerTransaction,
      Apart ⟨req, branch⟩ transaction) :
    OnReturn (state.processRequestEvent config req acceptance) State.Single := by
  obtain ⟨acceptance, rfl⟩ := Option.isSome_iff_exists.mp prompt
  unfold State.processRequestEvent State.createServerTransaction
  dsimp only
  split
  · next isAck =>
      refine ⟨single.apart, ?_⟩
      intro key transactional
      have other : (req.branch, req.method) ≠ key := by
        rintro rfl
        exact transactional isAck
      have counted := single.counted key transactional
      rw [State.givenFor] at counted ⊢
      rw [List.countP_cons_of_neg (by simpa using other)]
      exact counted
  · obtain ⟨branch, cookie⟩ := genuine.branch
    have made : OnReturn (ServerTransaction.init req) fun transaction => transaction = ⟨req, branch⟩ := by
      unfold ServerTransaction.init
      refine Checked.onReturn_bind.mpr (Checked.onReturn_deref.mpr fun via _ => ?_)
      rw [cookie]
      rfl
    refine Checked.onReturn_bind.mpr (made.mono ?_)
    rintro transaction rfl
    apply Checked.onReturn_bind.mpr
    cases Server.Transaction.new (if req.method = "INVITE" then .ist else .nist) config acceptance.lps req.toRequest
        acceptance.toTag with
    | error fault => trivial
    | ok work =>
        refine ⟨List.pairwise_cons.mpr ⟨unmatched branch cookie, single.apart⟩, ?_⟩
        intro key transactional
        have counted := single.counted key transactional
        rw [State.givenFor, State.servedFor] at counted ⊢
        change _ = List.countP _ (⟨⟨req, branch⟩, work⟩ :: state.peers)
        by_cases own : (req.branch, req.method) = key
        · have same : (⟨⟨req, branch⟩, work⟩ : Peer).key = key := own
          rw [List.countP_cons, List.countP_cons, counted]
          simp only [own, same]
        · have other : ¬(⟨⟨req, branch⟩, work⟩ : Peer).key = key := own
          rw [List.countP_cons, List.countP_cons, counted]
          simp only [own, other]

/-- The server transactions that a request could be matched to, when it is matched to none, or is a CANCEL. -/
theorem unmatched {req : IncomingRequest} {branch method : String} {transactions : List ServerTransaction}
    (sameMethod : req.method = method)
    (free : transactions.findIdx? (transactionMatch branch method) = none ∨ method = "CANCEL") :
    ∀ transaction ∈ transactions, Apart ⟨req, branch⟩ transaction := by
  intro transaction among sameBranch methods
  rcases free with none_ | cancel
  · have other := List.findIdx?_eq_none_iff.mp none_ transaction among
    have takes : transactionMatch branch method transaction = true := by
      rw [transactionMatch]
      simp [show branch = transaction.branchId from sameBranch,
        show method = transaction.request.method from sameMethod.symm.trans methods]
    exact absurd (takes.symm.trans other) (by decide)
  · exact sameMethod.trans cancel

theorem dispatchRequest (single : state.Single) (sound : state.Sound keys) (proper : Proper keys)
    (config : Server.TimerConfig) (digest : List UInt8 → String) {client : Client} {ack : Bool}
    {copy : IncomingRequest} (among : client ∈ state.clients) (copies : Copies client ack copy)
    {acceptance : Option Acceptance} (prompt : acceptance.isSome = true) :
    OnReturn (state.dispatchRequest config digest copy acceptance) State.Single := by
  have genuine := sound.genuine proper among copies
  obtain ⟨branch, cookie⟩ := genuine.branch
  have own : ∀ other, copy.cookieBranch = some other → other = branch := by
    intro other same
    exact Option.some.inj (same.symm.trans cookie)
  unfold State.dispatchRequest
  rw [State.Sound.lookup_eq digest cookie, Checked.ok_bind]
  dsimp only
  split
  · apply Checked.onReturn_bind.mpr
    apply (single.handleLive config _ _).mono
    intro after single
    split
    · next cancel =>
        apply single.processRequestEvent config genuine prompt
        intro other same
        obtain rfl := own other same
        exact unmatched rfl (.inr cancel)
    · exact single
  · next none_ =>
      apply single.processRequestEvent config genuine prompt
      intro other same
      obtain rfl := own other same
      exact unmatched rfl (.inl none_)

theorem step (single : state.Single) (sound : state.Sound keys) (proper : Proper keys) (config : Server.TimerConfig)
    (digest : List UInt8 → String) {event : Event} (possible : Possible state event) (prompt : Prompt event) :
    (state.step config digest event).Single := by
  have handled : OnReturn (state.handle config digest event) State.Single := by
    cases event with
    | client position input => exact ⟨single.apart, single.counted⟩
    | request position ack copy acceptance =>
        obtain ⟨client, there, copies⟩ := possible
        exact single.dispatchRequest sound proper config digest (List.mem_of_getElem? there) copies prompt
    | accept req acceptance => exact absurd prompt id
    | response position copy found =>
        unfold State.handle
        dsimp only
        split
        · next resp _ =>
            unfold State.dispatchResponse
            cases findMatchingClientTransaction state.clients resp with
            | error fault => trivial
            | ok result =>
                rw [Checked.ok_bind]
                cases result <;> exact ⟨single.apart, single.counted⟩
        · exact single
    | live position event => exact single.handleLive config position event
    | gone position event => exact single.handleGone config position event
  unfold State.step
  cases ended : state.handle config digest event with
  | error fault => exact single
  | ok after => exact handled.elim ended

end State.Single

/-- When the application creates a server transaction for each request that it is told of, it is told of a request once
for each server transaction that there has been for it, of which at most one has not terminated: the retransmissions of
a request are absorbed while its transaction lives. A CANCEL is passed on each time, and so is what has no transaction,
an ACK. -/
theorem told_once_for_each_transaction (requests : List Request) (proper : Proper (keys requests))
    (config : Server.TimerConfig) (digest : List UInt8 → String) (events : List Event)
    (possible : Machine.Along (State.step config digest) (fun state event => Possible state event ∧ Prompt event)
      (start requests) events) (key : Key) (absorbs : key.2 ≠ "ACK" ∧ key.2 ≠ "CANCEL") :
    let state := Machine.run (State.step config digest) (start requests) events
    state.givenFor key = state.servedFor key ∧ (state.live.filter fun peer => peer.key = key).length ≤ 1 := by
  intro state
  have both : state.Sound (keys requests) ∧ state.Single := by
    let invariant (state : State) : Prop := state.Sound (keys requests) ∧ state.Single
    have preserved : ∀ state event, invariant state → (Possible state event ∧ Prompt event) →
        invariant (state.step config digest event) :=
      fun state event ⟨sound, single⟩ ⟨possible, prompt⟩ =>
        ⟨sound.step proper config digest possible, single.step sound proper config digest possible prompt⟩
    have initial : invariant (start requests) := ⟨start_sound requests, List.Pairwise.nil, fun _ _ => rfl⟩
    exact Machine.run_invariant preserved initial possible
  obtain ⟨sound, single⟩ := both
  refine ⟨single.counted key absorbs.1, ?_⟩
  have apart : (state.live.filter fun peer => peer.key = key).Pairwise fun first second =>
      Apart first.toServerTransaction second.toServerTransaction :=
    (List.pairwise_map.mp single.apart).sublist List.filter_sublist
  have own : ∀ peer ∈ state.live.filter fun peer => peer.key = key,
      peer.key = key ∧ some peer.branchId = key.1 := by
    intro peer among
    obtain ⟨live, same⟩ := List.mem_filter.mp among
    have sameKey : peer.key = key := of_decide_eq_true same
    have branch := (sound.peers peer (List.mem_append_left _ live)).branch
    exact ⟨sameKey, (branch_of_cookieBranch branch).symm.trans (congrArg Prod.fst sameKey)⟩
  generalize (state.live.filter fun peer => peer.key = key) = found at apart own
  match found, apart, own with
  | [], _, _ => exact Nat.zero_le 1
  | [_], _, _ => exact Nat.le_refl 1
  | first :: second :: _, apart, own =>
      obtain ⟨firstKey, firstBranch⟩ := own first (by simp)
      obtain ⟨secondKey, secondBranch⟩ := own second (by simp)
      have methods : first.request.method = second.request.method :=
        congrArg Prod.snd (firstKey.trans secondKey.symm)
      have cancel := (List.pairwise_cons.mp apart).1 second (by simp)
        (Option.some.inj (firstBranch.trans secondBranch.symm)) methods
      exact absurd ((congrArg Prod.snd firstKey).symm.trans cancel) absorbs.2

theorem told_once_for_each_transaction_options :
    let config : Server.TimerConfig := {}
    let state := Machine.run (State.step config latinText) (start [sampleRequest "OPTIONS"])
      (sampleEvents "OPTIONS" 200 0)
    state.servedFor (some "z9hG4bK.1", "OPTIONS") = 1 ∧
    state.givenFor (some "z9hG4bK.1", "OPTIONS") = state.servedFor (some "z9hG4bK.1", "OPTIONS") ∧
      (state.live.filter fun peer => peer.key = (some "z9hG4bK.1", "OPTIONS")).length ≤ 1 :=
  ⟨by decide +kernel,
    told_once_for_each_transaction [sampleRequest "OPTIONS"]
      ⟨by simp [keys, sampleRequest, magicCookie], by simp [keys, sampleRequest]⟩ {} latinText
      (sampleEvents "OPTIONS" 200 0) (by decide +kernel) (some "z9hG4bK.1", "OPTIONS") (by decide)⟩

end Exchange

end BelleSip
