import BelleSip.Transaction.CallOuts

/-
This file proves when a transaction that has terminated is silent: it has no timer, queues nothing, and calls nobody
but to tell that it has terminated.
-/

namespace BelleSip

open Foundation
open Foundation.Checked (OnReturn)
open Foundation.Reentrance (Frame Config Program)

namespace Callbacks

namespace Transaction

variable {kind : Kind} {t : Transaction}

/-- What stays the same while a transaction that has terminated is only read. -/
structure Rests (t after : Transaction) : Prop where
  kind : after.kind = t.kind
  state : after.state = t.state
  sources : after.sources = []
  afterwards : after.afterwards = t.afterwards
  announced : after.announced = t.announced
  known : after.known = t.known

theorem Harmless.same {frame : Frame Task} {after : Transaction} (harmless : t.Harmless frame)
    (sameKind : after.kind = t.kind) (listeners : after.listeners = t.listeners)
    (timedOut : after.timedOut = t.timedOut) (known : t.known = 0 → after.known = 0)
    (channel : t.kind = .nict → after.channel = t.channel) : after.Harmless frame := by
  unfold Harmless listening at harmless ⊢
  rw [sameKind, listeners, timedOut]
  split
  · exact harmless
  · exact harmless
  · exact harmless
  · exact harmless
  · exact ⟨harmless.1, by rw [channel harmless.1]; exact harmless.2⟩
  · exact harmless
  · exact harmless.imp_right known
  · trivial

/-- A part of the work does nothing for a transaction that has terminated, nor does the work that it leaves. -/
def Idles (t : Transaction) (rest : List (Frame Task)) (part : Part) : Prop :=
  OnReturn part fun (after, frames) =>
    t.Rests after ∧ (∀ frame ∈ frames, Plain t.kind frame) ∧ ∀ frame ∈ frames ++ rest, after.Harmless frame

section Terminated

variable {rest : List (Frame Task)}

theorem rests (unarmed : t.sources = []) : t.Rests t := ⟨rfl, rfl, unarmed, rfl, rfl, rfl⟩

theorem idles_with (unarmed : t.sources = []) (harmless : ∀ frame ∈ rest, t.Harmless frame)
    {frames : List (Frame Task)} (plain : ∀ frame ∈ frames, Plain t.kind frame)
    (more : ∀ frame ∈ frames, t.Harmless frame) : t.Idles rest (.ok (t, frames)) :=
  ⟨rests unarmed, plain, List.forall_mem_append.mpr ⟨more, harmless⟩⟩

theorem idles_done (unarmed : t.sources = []) (harmless : ∀ frame ∈ rest, t.Harmless frame) :
    t.Idles rest (.ok (t, [])) :=
  idles_with unarmed harmless (List.forall_mem_nil _) (List.forall_mem_nil _)

theorem dropped_harmless {before after : Dialog} : ∀ frame ∈ dropped before after, t.Harmless frame := by
  unfold dropped
  split
  · exact List.forall_mem_nil _
  · exact List.forall_mem_singleton.mpr trivial

/-- A transaction that rests, with a change of its dialog. -/
theorem Rests.updateDialog {after : Transaction} (rests : t.Rests after) (asUas : Bool)
    (harmless : ∀ frame ∈ rest, after.Harmless frame) : t.Idles rest (after.updateDialog asUas) := by
  unfold Transaction.updateDialog
  split
  · exact ⟨rests, List.forall_mem_nil _, harmless⟩
  · next dialog _ =>
      apply Checked.onReturn_bind.mpr
      cases dialog.update 0 after.request after.lastResponse (after.state = .terminated) asUas with
      | error fault => trivial
      | ok result =>
          refine ⟨⟨rests.kind, rests.state, rests.sources, rests.afterwards, rests.announced, rests.known⟩,
            dropped_plain, List.forall_mem_append.mpr ⟨dropped_harmless, ?_⟩⟩
          exact fun frame among => (harmless frame among).same rfl rfl rfl id fun _ => rfl

/-- The class of a server transaction takes no response any more. -/
theorem sendNewResponse_terminated (terminated : t.state = .terminated) (resp : Response) :
    ∃ ret, t.sendNewResponse resp = .ok (t, ret) := by
  unfold sendNewResponse
  split
  · exact ⟨-1, by simp only [istSendNewResponse, terminated]; rfl⟩
  · exact ⟨0, by simp only [nistSendNewResponse, terminated]; rfl⟩
  · exact ⟨-1, rfl⟩

theorem Rests.sendOnChannel {after : Transaction} (rests : t.Rests after) (terminated : t.state = .terminated)
    (harmless : ∀ frame ∈ rest, after.Harmless frame) (resp : Response) :
    t.Idles rest (after.sendOnChannel resp) := by
  unfold Transaction.sendOnChannel
  apply Checked.onReturn_bind.mpr
  cases after.complete resp with
  | error fault => trivial
  | ok resp =>
      obtain ⟨ret, sent⟩ := sendNewResponse_terminated (rests.state.trans terminated) resp
      change OnReturn (after.sendNewResponse resp >>= _) _
      rw [sent]
      apply Rests.updateDialog
      · split
        · exact ⟨rests.kind, rests.state, rests.sources, rests.afterwards, rests.announced, rests.known⟩
        · exact rests
      · intro frame among
        split
        · exact (harmless frame among).same rfl rfl rfl id fun _ => rfl
        · exact harmless frame among

theorem sendResponse_idles (terminated : t.state = .terminated) (unarmed : t.sources = [])
    (server : t.kind.isClient = false) (harmless : ∀ frame ∈ rest, t.Harmless frame) (resp : Response)
    (channel : Option Server.PeerChannel) : t.Idles rest (t.sendResponse resp channel) := by
  have other : t.kind ≠ .nict := by
    intro nict
    rw [nict] at server
    cases server
  have connected : ∀ channel : Option Server.PeerChannel,
      ∀ frame ∈ rest, { t with channel := channel }.Harmless frame :=
    fun _ frame among => (harmless frame among).same rfl rfl rfl id fun nict => absurd nict other
  unfold Transaction.sendResponse
  split
  · exact (rests unarmed).sendOnChannel terminated harmless resp
  · exact ⟨⟨rfl, rfl, unarmed, rfl, rfl, rfl⟩, List.forall_mem_nil _, connected none⟩
  · next peer _ =>
      have idle : t.Rests { t with channel := some peer } := ⟨rfl, rfl, unarmed, rfl, rfl, rfl⟩
      exact idle.sendOnChannel terminated (connected (some peer)) resp

theorem enter_idles (terminated : t.state = .terminated) (unarmed : t.sources = [])
    (harmless : ∀ frame ∈ rest, t.Harmless frame) (call : Call) (guarded : Guard t (.enter call) rest) :
    t.Idles rest (t.enter call) := by
  have done : t.Idles rest (.ok (t, [])) := idles_done unarmed harmless
  unfold Transaction.enter
  split
  · exact idles_with unarmed harmless (List.forall_mem_singleton.mpr trivial) (List.forall_mem_singleton.mpr trivial)
  · next outlet channel busy =>
      have sent : t.sendRequestTo outlet channel busy = .ok (t, []) := by
        unfold sendRequestTo
        rw [terminated]
        rfl
      split
      · rw [sent]
        exact done
      · exact done
  · next resp channel =>
      split
      · exact done
      · next server => exact sendResponse_idles terminated unarmed (Bool.eq_false_iff.mpr server) harmless resp channel
  · have ready : t.onChannelReady = .ok (t, []) := by
      unfold onChannelReady
      rw [terminated]
      rfl
    split
    · rw [ready]
      exact done
    · exact done
  · have ended : t.onChannelEnded = .ok (t, [.task .reportTimeout, .task .terminate]) := by
      unfold onChannelEnded reportsError
      rw [terminated]
      rfl
    split
    · rw [ended]
      apply idles_with unarmed harmless
      · exact List.forall_mem_cons.mpr ⟨trivial, List.forall_mem_singleton.mpr trivial⟩
      · exact List.forall_mem_cons.mpr ⟨guarded terminated, List.forall_mem_singleton.mpr trivial⟩
    · exact done
  · refine ⟨⟨rfl, rfl, unarmed, rfl, rfl, rfl⟩, List.forall_mem_nil _, ?_⟩
    exact fun frame among => (harmless frame among).same rfl rfl rfl id fun _ => rfl
  · exact ⟨⟨rfl, rfl, unarmed, rfl, rfl, rfl⟩, List.forall_mem_nil _, guarded terminated⟩

theorem begin_idles (terminated : t.state = .terminated) (unarmed : t.sources = [])
    (harmless : ∀ frame ∈ rest, t.Harmless frame) (event : Event) (forgotten : t.kind.isClient ∨ t.known = 0) :
    t.Idles rest (t.begin event) := by
  have done : t.Idles rest (.ok (t, [])) := idles_done unarmed harmless
  unfold Transaction.begin
  split
  · rw [unarmed]
    exact done
  · next resp found =>
      have answered : t.onResponse resp found = .ok (t, []) := by
        unfold onResponse
        split
        · simp only [ictOnResponse, terminated]; rfl
        · simp only [nictOnResponse, terminated]; rfl
        · rfl
      split
      · rw [answered]
        exact done
      · exact done
  · split
    · next server =>
        rcases forgotten with client | unknown
        · rw [client] at server
          exact absurd server.1 (by decide)
        · omega
    · exact done

/-- Harmless work does nothing for a transaction that has terminated. -/
theorem perform_idles (terminated : t.state = .terminated) (unarmed : t.sources = []) {task : Task}
    (plain : Plain t.kind (.task task)) (nothing : t.Harmless (.task task))
    (harmless : ∀ frame ∈ rest, t.Harmless frame) (guarded : Guard t task rest) :
    t.Idles rest (t.perform task) := by
  have done : t.Idles rest (.ok (t, [])) := idles_done unarmed harmless
  cases task with
  | enter call => exact enter_idles terminated unarmed harmless call guarded
  | begin event => exact begin_idles terminated unarmed harmless event nothing
  | terminate =>
      have ended : t.terminate = .ok (t, []) := if_pos terminated
      change t.Idles rest t.terminate
      rw [ended]
      exact done
  | onTerminate => exact plain.elim
  | setTransactionTerminated => exact plain.elim
  | removeTransaction => exact plain.elim
  | invokeListeners callback =>
      change t.Idles rest (.ok (t, [.task (.invoke callback (t.listening callback))]))
      exact idles_with unarmed harmless (List.forall_mem_singleton.mpr plain)
        (List.forall_mem_singleton.mpr (.inl nothing))
  | invoke callback listeners =>
      rcases nothing with rfl | notice
      · exact done
      · exact absurd notice plain
  | send outlet channel => exact nothing.elim
  | startTimerD => exact nothing.elim
  | finishCompleted =>
      change t.Idles rest t.finishCompleted
      unfold finishCompleted
      apply Checked.onReturn_bind.mpr
      apply Checked.onReturn_deref.mpr
      intro channel connected
      have reliable : channel.reliable = true := by
        have all := nothing.2
        rw [connected] at all
        exact all
      rw [reliable]
      exact idles_with unarmed harmless (List.forall_mem_singleton.mpr trivial) (List.forall_mem_singleton.mpr trivial)
  | reportTimeout =>
      change t.Idles rest (.ok (t, if t.timedOut then [.task (.invokeListeners .processTimeout)] else []))
      rcases nothing with inTime | unheard
      · rw [inTime]
        exact done
      · apply idles_with unarmed harmless
        · split
          · exact List.forall_mem_singleton.mpr (by simp [Plain])
          · exact List.forall_mem_nil _
        · split
          · exact List.forall_mem_singleton.mpr unheard
          · exact List.forall_mem_nil _
  | stopSource timer =>
      refine ⟨⟨rfl, rfl, ?_, rfl, rfl, rfl⟩, List.forall_mem_nil _, ?_⟩
      · simp only [unarmed, List.filter_nil]
      · exact fun frame among => (harmless frame among).same rfl rfl rfl id fun _ => rfl

end Terminated

/-- The stages of the end: the timers are stopped, the listeners are told one after the other, and the provider forgets
the transaction. -/
inductive Stage (t : Transaction) : List (Frame Task) → Prop where
  | stopping (rest : List (Frame Task)) (armed : t.sources ⊆ t.timers) (silent : t.afterwards = [])
      (unannounced : t.announced = []) (plain : ∀ frame ∈ rest, Plain t.kind frame) :
      Stage t (.task .onTerminate :: .task .setTransactionTerminated :: rest)
  | stopped (rest : List (Frame Task)) (unarmed : t.sources = []) (silent : t.afterwards = [])
      (unannounced : t.announced = []) (plain : ∀ frame ∈ rest, Plain t.kind frame) :
      Stage t (.task .setTransactionTerminated :: rest)
  | announcing (left all : List Listener) (rest : List (Frame Task)) (unarmed : t.sources = [])
      (announced : t.announced = [all]) (told : t.afterwards ++ notices left = notices all)
      (plain : ∀ frame ∈ rest, Plain t.kind frame) :
      Stage t (.task (.invoke .processTransactionTerminated left) :: .task .removeTransaction :: rest)
  | leaving (all : List Listener) (rest : List (Frame Task)) (unarmed : t.sources = [])
      (announced : t.announced = [all]) (told : t.afterwards = notices all)
      (plain : ∀ frame ∈ rest, Plain t.kind frame) : Stage t (.task .removeTransaction :: rest)
  | ended (all : List Listener) (unarmed : t.sources = []) (announced : t.announced = [all])
      (told : t.afterwards = notices all) (forgotten : t.kind.isClient ∨ t.known = 0) : Stage t []

/-- A transaction that has terminated: the rest of its end is on the stack below the plain work that came later. -/
structure Ending (t : Transaction) (stack : List (Frame Task)) : Prop where
  terminated : t.state = .terminated
  harmless : ∀ frame ∈ stack, t.Harmless frame
  once : t.kind.isClient = false → t.known ≤ 1
  stage : ∃ top bottom, stack = top ++ bottom ∧ (∀ frame ∈ top, Plain t.kind frame) ∧
    (top ≠ [] → t.sources = []) ∧ t.Stage bottom

theorem Stage.single {bottom : List (Frame Task)} (stage : t.Stage bottom) : t.announced.length ≤ 1 := by
  cases stage with
  | stopping rest armed silent unannounced plain => simp [unannounced]
  | stopped rest unarmed silent unannounced plain => simp [unannounced]
  | announcing left all rest unarmed announced told plain => simp [announced]
  | leaving all rest unarmed announced told plain => simp [announced]
  | ended all unarmed announced told forgotten => simp [announced]

theorem Stage.silent {bottom : List (Frame Task)} (stage : t.Stage bottom) :
    t.afterwards <+: t.announced.flatMap notices := by
  cases stage with
  | stopping rest armed silent unannounced plain => simp [silent]
  | stopped rest unarmed silent unannounced plain => simp [silent]
  | announcing left all rest unarmed announced told plain =>
      rw [announced, List.flatMap_singleton, ← told]
      exact List.prefix_append _ _
  | leaving all rest unarmed announced told plain => simp [announced, told]
  | ended all unarmed announced told forgotten => simp [announced, told]

theorem Stage.rests {after : Transaction} {bottom : List (Frame Task)} (stage : t.Stage bottom)
    (rests : t.Rests after) : after.Stage bottom := by
  obtain ⟨kind, _, sources, afterwards, announced, known⟩ := rests
  cases stage with
  | stopping rest armed silent unannounced plain =>
      refine .stopping rest ?_ (afterwards.trans silent) (announced.trans unannounced) (by rw [kind]; exact plain)
      rw [sources]
      exact List.nil_subset _
  | stopped rest unarmed silent unannounced plain =>
      exact .stopped rest sources (afterwards.trans silent) (announced.trans unannounced) (by rw [kind]; exact plain)
  | announcing left all rest unarmed once told plain =>
      exact .announcing left all rest sources (announced.trans once) (by rw [afterwards]; exact told)
        (by rw [kind]; exact plain)
  | leaving all rest unarmed once told plain =>
      exact .leaving all rest sources (announced.trans once) (afterwards.trans told) (by rw [kind]; exact plain)
  | ended all unarmed once told forgotten =>
      exact .ended all sources (announced.trans once) (afterwards.trans told) (by rw [kind, known]; exact forgotten)

/-- Without a final response, a dialog is deleted only by a BYE that ends. -/
theorem deleted_by {dialog : Dialog} {req : Request} {resp : Option Response} {terminated asUas : Bool}
    {waits : AckWait} (outcome : Dialog.Outcome dialog req resp terminated asUas waits .delete)
    (early : ∀ answer, resp = some answer → answer.statusCode < 200) :
    resp = none ∧ req.method = "BYE" ∧ dialog.state = .confirmed ∧ dialog.terminateOnBye = true := by
  generalize asked : Dialog.Verdict.delete = verdict at outcome
  cases outcome with
  | kept => cases asked
  | rejected answer answered failure =>
      have below := early answer answered
      omega
  | accepted => cases asked
  | reaccepted => cases asked
  | repeated => cases asked
  | refused => cases asked
  | hungUp bye ended final confirmed =>
      refine ⟨?_, bye, confirmed, ?_⟩
      · cases resp with
        | none => rfl
        | some answer =>
            have below := early answer rfl
            have above := final answer rfl
            omega
      · by_contra lasting
        rw [if_neg lasting] at asked
        cases asked

/-- Outside code runs during the end of a transaction only when its BYE leaves queued transactions. -/
theorem informDialog_spec (t : Transaction) :
    OnReturn t.informDialog fun (after, frames) =>
      (∃ dialog, after = { t with dialog := dialog }) ∧
        (frames = [] ∨ frames = [.outside] ∧ t.leavesQueue = true) := by
  have same : OnReturn (.ok (t, []) : Part) fun (after, frames) =>
      (∃ dialog, after = { t with dialog := dialog }) ∧
        (frames = [] ∨ frames = [.outside] ∧ t.leavesQueue = true) := ⟨⟨t.dialog, rfl⟩, .inl rfl⟩
  unfold informDialog
  split
  · next unanswered =>
      unfold Transaction.updateDialog
      split
      · exact same
      · next dialog owned =>
          apply Checked.onReturn_bind.mpr
          apply (Dialog.update_spec dialog 0 t.request t.lastResponse _ _).mono
          rintro _ ⟨middle, verdict, updated, rfl⟩
          refine ⟨⟨_, rfl⟩, ?_⟩
          have early : ∀ answer, t.lastResponse = some answer → answer.statusCode < 200 := by
            intro answer answered
            rw [Transaction.unanswered, answered] at unanswered
            exact of_decide_eq_true unanswered
          cases verdict with
          | keep => exact .inl (if_pos updated.queuedCt)
          | retransmission => exact .inl (if_pos updated.queuedCt)
          | delete =>
              obtain ⟨silent, bye, confirmed, ends⟩ := deleted_by updated.outcome early
              by_cases empty : dialog.queuedCt = []
              · exact .inl (if_pos empty.symm)
              · refine .inr ⟨if_neg fun same => empty same.symm, ?_⟩
                simp [leavesQueue, silent, bye, owned, confirmed, ends, empty]
  · exact same

/-- A transaction that terminates begins its end. -/
theorem Alive.terminate (alive : t.Alive t.kind) {rest : List (Frame Task)}
    (plain : ∀ frame ∈ rest, Plain t.kind frame) (guarded : Guard t .terminate rest) :
    OnReturn t.terminate fun (after, frames) => after.Ending (frames ++ rest) := by
  obtain ⟨harmless, unqueued⟩ := guarded alive.live
  have begun : t.terminate = (do
      let (t, frames) ← { t with state := .terminated }.informDialog
      return (t, frames ++ [.task .onTerminate, .task .setTransactionTerminated])) := if_neg alive.live
  rw [begun]
  apply Checked.onReturn_bind.mpr
  apply (informDialog_spec _).mono
  intro (after, frames) ⟨⟨dialog, is⟩, leaves⟩
  subst is
  have calm : ∀ frame ∈ frames,
      Plain t.kind frame ∧ { t with state := .terminated, dialog := dialog }.Harmless frame := by
    rcases leaves with rfl | ⟨rfl, _⟩
    · exact List.forall_mem_nil _
    · exact List.forall_mem_singleton.mpr ⟨trivial, trivial⟩
  refine ⟨rfl, ?_, alive.once, frames, .task .onTerminate :: .task .setTransactionTerminated :: rest, ?_,
    fun frame among => (calm frame among).1, ?_, ?_⟩
  · refine List.forall_mem_append.mpr
      ⟨List.forall_mem_append.mpr ⟨fun frame among => (calm frame among).2, ?_⟩, ?_⟩
    · exact List.forall_mem_cons.mpr ⟨trivial, List.forall_mem_singleton.mpr trivial⟩
    · exact fun frame among => (harmless frame among).same rfl rfl rfl id fun _ => rfl
  · exact List.append_assoc _ _ _
  · intro called
    rcases leaves with none | ⟨_, queue⟩
    · exact absurd none called
    · exact unqueued queue
  · exact .stopping rest alive.armed alive.silent alive.unannounced plain

namespace Ending

variable {rest : List (Frame Task)}

theorem onTerminate (ending : t.Ending (.task .onTerminate :: rest)) (stage : t.Stage (.task .onTerminate :: rest)) :
    t.onTerminate.Ending rest := by
  cases stage with
  | stopping rest armed silent unannounced plain =>
      have unarmed : t.onTerminate.sources = [] := by
        apply List.filter_eq_nil_iff.mpr
        intro timer source
        simp only [decide_eq_true_eq, not_not]
        exact armed source
      refine ⟨ending.terminated, ?_, ending.once, [], _, rfl, List.forall_mem_nil _, fun _ => unarmed,
        .stopped rest unarmed silent unannounced plain⟩
      intro frame among
      exact (ending.harmless frame (List.mem_cons_of_mem _ among)).same rfl rfl rfl id fun _ => rfl

theorem setTransactionTerminated (ending : t.Ending (.task .setTransactionTerminated :: rest))
    (stage : t.Stage (.task .setTransactionTerminated :: rest)) :
    OnReturn t.setTransactionTerminated fun (after, frames) => after.Ending (frames ++ rest) := by
  cases stage with
  | stopped rest unarmed silent unannounced plain =>
      have still : t.onTerminate.sources = [] := by
        change t.sources.filter _ = []
        rw [unarmed]
        rfl
      refine ⟨ending.terminated, ?_, ending.once, [], _, rfl, List.forall_mem_nil _, fun _ => still, ?_⟩
      · refine List.forall_mem_append.mpr
          ⟨List.forall_mem_cons.mpr ⟨.inr rfl, List.forall_mem_singleton.mpr trivial⟩, ?_⟩
        intro frame among
        exact (ending.harmless frame (List.mem_cons_of_mem _ among)).same rfl rfl rfl id fun _ => rfl
      · refine .announcing _ (t.listening .processTransactionTerminated) rest still ?_ ?_ plain
        · change t.announced ++ _ = _
          rw [unannounced]
          rfl
        · change t.afterwards ++ _ = _
          rw [silent]
          rfl

theorem invoke {callback : Callback} {left : List Listener} (ending : t.Ending (.task (.invoke callback left) :: rest))
    (stage : t.Stage (.task (.invoke callback left) :: rest)) :
    OnReturn (t.invoke callback left) fun (after, frames) => after.Ending (frames ++ rest) := by
  have later := (List.forall_mem_cons.mp ending.harmless).2
  cases stage with
  | announcing left all rest unarmed announced told plain =>
      cases left with
      | nil =>
          refine ⟨ending.terminated, later, ending.once, [], _, rfl, List.forall_mem_nil _, fun _ => unarmed, ?_⟩
          exact .leaving all rest unarmed announced ((List.append_nil _).symm.trans told) plain
      | cons listener left =>
          have recorded : t.record (.invoke .processTransactionTerminated listener.id) =
              { t with afterwards := t.afterwards ++ [.invoke .processTransactionTerminated listener.id] } :=
            if_pos ending.terminated
          change OnReturn (.ok (t.record _, _)) _
          rw [recorded]
          refine ⟨ending.terminated, ?_, ending.once, [.outside], _, rfl, List.forall_mem_singleton.mpr trivial,
            fun _ => unarmed, ?_⟩
          · refine List.forall_mem_append.mpr
              ⟨List.forall_mem_cons.mpr ⟨trivial, List.forall_mem_singleton.mpr (.inr rfl)⟩, ?_⟩
            exact fun frame among => (later frame among).same rfl rfl rfl id fun _ => rfl
          · refine .announcing left all rest unarmed announced ?_ plain
            rw [← told]
            exact List.append_assoc _ _ _

theorem removeTransaction (ending : t.Ending (.task .removeTransaction :: rest))
    (stage : t.Stage (.task .removeTransaction :: rest)) : { t with known := t.known - 1 }.Ending rest := by
  cases stage with
  | leaving all rest unarmed announced told plain =>
      refine ⟨ending.terminated, ?_, ?_, rest, [], (List.append_nil _).symm, plain, fun _ => unarmed, ?_⟩
      · intro frame among
        refine (ending.harmless frame (List.mem_cons_of_mem _ among)).same rfl rfl rfl ?_ fun _ => rfl
        exact fun unknown => by rw [unknown]
      · intro server
        have once := ending.once server
        change t.known - 1 ≤ 1
        omega
      · refine .ended all unarmed announced told ?_
        cases client : t.kind.isClient with
        | true => exact .inl rfl
        | false =>
            have once := ending.once client
            exact .inr (show t.known - 1 = 0 by omega)

/-- The first task of the stack is part of the end, or it does nothing. -/
theorem perform {task : Task} (ending : t.Ending (.task task :: rest)) (guarded : Guard t task rest) :
    OnReturn (t.perform task) fun (after, frames) => after.Ending (frames ++ rest) := by
  obtain ⟨top, bottom, split, plain, unarmed, stage⟩ := ending.stage
  cases top with
  | nil =>
      rw [List.nil_append] at split
      subst split
      cases task with
      | onTerminate => exact ending.onTerminate stage
      | setTransactionTerminated => exact ending.setTransactionTerminated stage
      | invoke callback left => exact ending.invoke stage
      | removeTransaction => exact ending.removeTransaction stage
      | _ => cases stage
  | cons frame top =>
      obtain ⟨rfl, rfl⟩ := List.cons.inj split
      have quiet := unarmed (List.cons_ne_nil _ _)
      have idle := perform_idles ending.terminated quiet (plain _ List.mem_cons_self)
        (ending.harmless _ List.mem_cons_self) (fun frame among => ending.harmless frame (List.mem_cons_of_mem _ among))
        guarded
      apply idle.mono
      intro (after, frames) ⟨rests, more, harmless⟩
      refine ⟨rests.state.trans ending.terminated, harmless, ?_, frames ++ top, bottom,
        (List.append_assoc _ _ _).symm, ?_, fun _ => rests.sources, stage.rests rests⟩
      · rw [rests.kind, rests.known]
        exact ending.once
      · rw [rests.kind]
        exact List.forall_mem_append.mpr ⟨more, fun frame among => plain frame (List.mem_cons_of_mem _ among)⟩

end Ending

end Transaction

/-- What holds of the transaction and the stack in every state of a run. -/
structure Invariant (t : Transaction) (stack : List (Frame Task)) : Prop where
  alive : t.state ≠ .terminated → t.Alive t.kind ∧ ∀ frame ∈ stack, Plain t.kind frame
  ending : t.state = .terminated → t.Ending stack

namespace Invariant

variable {t : Transaction} {rest : List (Frame Task)}

theorem ofAlive (alive : t.Alive t.kind) (plain : ∀ frame ∈ rest, Plain t.kind frame) : Invariant t rest :=
  ⟨fun _ => ⟨alive, plain⟩, fun terminated => absurd terminated alive.live⟩

theorem ofEnding (ending : t.Ending rest) : Invariant t rest :=
  ⟨fun live => absurd ending.terminated live, fun _ => ending⟩

theorem perform {task : Task} (holds : Invariant t (.task task :: rest)) (guarded : Guard t task rest) :
    OnReturn (t.perform task) fun (after, frames) => Invariant after (frames ++ rest) := by
  by_cases terminated : t.state = .terminated
  · exact ((holds.ending terminated).perform guarded).mono fun _ => ofEnding
  · obtain ⟨alive, plain⟩ := holds.alive terminated
    obtain ⟨first, later⟩ := List.forall_mem_cons.mp plain
    by_cases ends : task = .terminate
    · subst ends
      exact (alive.terminate later guarded).mono fun _ => ofEnding
    · apply (alive.perform first ends).mono
      intro (after, frames) ⟨still, more⟩
      have same : after.Alive after.kind := by
        rw [still.kind]
        exact still
      apply ofAlive same
      rw [still.kind]
      exact List.forall_mem_append.mpr ⟨more, later⟩

/-- Nothing is armed while outside code runs that the transaction waits for. -/
theorem unarmed (holds : Invariant t (.outside :: rest)) (terminated : t.state = .terminated) : t.sources = [] := by
  obtain ⟨top, bottom, split, _, unarmed, stage⟩ := (holds.ending terminated).stage
  cases top with
  | nil =>
      rw [List.nil_append] at split
      subst split
      cases stage
  | cons frame top => exact unarmed (List.cons_ne_nil _ _)

theorem returned (holds : Invariant t (.outside :: rest)) : Invariant t rest := by
  refine ⟨?_, ?_⟩
  · intro live
    obtain ⟨alive, plain⟩ := holds.alive live
    exact ⟨alive, (List.forall_mem_cons.mp plain).2⟩
  · intro terminated
    have unarmed := holds.unarmed terminated
    have ending := holds.ending terminated
    obtain ⟨top, bottom, split, plain, _, stage⟩ := ending.stage
    refine ⟨terminated, (List.forall_mem_cons.mp ending.harmless).2, ending.once, ?_⟩
    cases top with
    | nil =>
        rw [List.nil_append] at split
        subst split
        cases stage
    | cons frame top =>
        obtain ⟨rfl, rfl⟩ := List.cons.inj split
        exact ⟨top, bottom, rfl, (List.forall_mem_cons.mp plain).2, fun _ => unarmed, stage⟩

/-- A call or an event is put on the stack. -/
theorem pushed (holds : Invariant t rest) (task : Task) (plain : Plain t.kind (.task task))
    (unarmed : t.state = .terminated → t.sources = [])
    (harmless : t.state = .terminated → t.Harmless (.task task)) : Invariant t (.task task :: rest) := by
  refine ⟨?_, ?_⟩
  · intro live
    obtain ⟨alive, all⟩ := holds.alive live
    exact ⟨alive, List.forall_mem_cons.mpr ⟨plain, all⟩⟩
  · intro terminated
    have ending := holds.ending terminated
    obtain ⟨top, bottom, rfl, all, _, stage⟩ := ending.stage
    exact ⟨terminated, List.forall_mem_cons.mpr ⟨harmless terminated, ending.harmless⟩, ending.once,
      .task task :: top, bottom, rfl, List.forall_mem_cons.mpr ⟨plain, all⟩, fun _ => unarmed terminated, stage⟩

/-- A transaction whose end is over, with nothing pending. -/
theorem ended (holds : Invariant t []) (terminated : t.state = .terminated) :
    t.sources = [] ∧ t.Told ∧ ∀ event, t.Harmless (.task (.begin event)) := by
  obtain ⟨top, bottom, split, _, _, stage⟩ := (holds.ending terminated).stage
  obtain ⟨rfl, rfl⟩ := List.append_eq_nil_iff.mp split.symm
  cases stage with
  | ended all unarmed announced told forgotten =>
      refine ⟨unarmed, ⟨congrArg List.length announced, ?_⟩, fun _ => forgotten⟩
      rw [announced, told]
      exact (List.flatMap_singleton notices all).symm

theorem keeps : program.Keeps Guard Invariant where
  done _ _ _ holds guarded := holds.perform guarded
  returned _ _ holds := holds.returned
  called _ call _ holds := holds.pushed (.enter call) trivial holds.unarmed fun _ => trivial
  entered _ call holds :=
    holds.pushed (.enter call) trivial (fun terminated => (holds.ended terminated).1) fun _ => trivial
  began _ event holds :=
    holds.pushed (.begin event) trivial (fun terminated => (holds.ended terminated).1)
      fun terminated => (holds.ended terminated).2.2 event

/-- Outside code finds a transaction that has terminated silent. -/
theorem quiet {config : Config Transaction Task} (holds : Invariant config.state config.stack) : Quiet config := by
  obtain ⟨t, stack⟩ := config
  intro terminated waits
  have unarmed : t.sources = [] := by
    cases stack with
    | nil => exact (holds.ended terminated).1
    | cons frame rest =>
        cases frame with
        | outside => exact holds.unarmed terminated
        | task task => cases waits
  obtain ⟨top, bottom, _, _, _, stage⟩ := (holds.ending terminated).stage
  refine ⟨⟨unarmed, stage.single, stage.silent⟩, ?_⟩
  intro empty
  change stack = [] at empty
  subst empty
  exact (holds.ended terminated).2.1

end Invariant

/-- A new transaction is alive. -/
theorem Transaction.new_alive (kind : Kind) (request : Request) (toTag : String)
    (channel : Option Server.PeerChannel) : OnReturn (new kind request toTag channel) fun t => t.Alive t.kind := by
  cases kind with
  | ict => exact ⟨rfl, nofun, rfl, rfl, List.Subset.refl _, nofun⟩
  | nict => exact ⟨rfl, nofun, rfl, rfl, List.Subset.refl _, nofun⟩
  | nist => exact ⟨rfl, nofun, rfl, rfl, List.Subset.refl _, fun _ => le_rfl⟩
  | ist =>
      have started : Alive .ist { kind := .ist, request := request, toTag := toTag, state := .proceeding } :=
        ⟨rfl, nofun, rfl, rfl, List.Subset.refl _, fun _ => Nat.zero_le 1⟩
      apply Checked.onReturn_bind.mpr
      apply (started.sendResponse (Response.createFromRequest request 100) channel).mono
      intro (t, frames) ⟨alive, _⟩
      exact ⟨rfl, alive.live, alive.silent, alive.unannounced, alive.armed, fun _ => le_rfl⟩

/-- The invariant of a transaction that is observed. -/
structure Observed (watched : Watched) : Prop where
  invariant : Invariant watched.config.state watched.config.stack
  layout : Layout watched.config.state.kind watched.watch watched.config.stack

theorem Observed.step (watched : Watched) (input : Reentrance.Input Call Event) (observed : Observed watched)
    (permitted : watched.Permits input) : Observed (watched.step input) := by
  refine ⟨?_, observed.layout.step input⟩
  apply Invariant.keeps.step watched.config input observed.invariant
  obtain ⟨⟨t, stack⟩, watch⟩ := watched
  cases input with
  | tick =>
      match stack, permitted, observed.layout with
      | [], _, _ => trivial
      | .outside :: _, _, _ => trivial
      | .task part :: rest, permitted, layout => exact Permitted.guard permitted layout
  | back => trivial
  | call call => trivial
  | event event => trivial

/-- The observer changes nothing of the run. -/
theorem Watched.run_config (watched : Watched) (inputs : List (Reentrance.Input Call Event)) :
    (Machine.run Watched.step watched inputs).config = Machine.run program.step watched.config inputs := by
  induction inputs generalizing watched with
  | nil => rfl
  | cons input rest ih => exact ih (watched.step input)

/-- In a run of a transaction of any class, with any calls from inside the callbacks, every state that outside code
finds after the end of the transaction is silent, provided that each step is permitted. -/
theorem terminated_quiet (kind : Kind) (request : Request) (toTag : String) (channel : Option Server.PeerChannel)
    {t : Transaction} (created : Transaction.new kind request toTag channel = .ok t)
    {inputs : List (Reentrance.Input Call Event)}
    (along : Machine.Along Watched.step Watched.Permits { config := ⟨t, []⟩ } inputs) :
    Quiet (Machine.run program.step ⟨t, []⟩ inputs) := by
  have alive : t.Alive t.kind := (Transaction.new_alive kind request toTag channel).elim created
  have initial : Observed { config := ⟨t, []⟩ } :=
    ⟨.ofAlive alive (List.forall_mem_nil _), [], [], rfl, .stopping .nothing, .nil⟩
  have observed := Machine.run_invariant Observed.step initial along
  rw [← Watched.run_config { config := ⟨t, []⟩ } inputs]
  exact observed.invariant.quiet

/-- An OPTIONS is sent and answered, and the listener terminates the transaction when it is told of the response. -/
def terminatedInside (channel : Server.PeerChannel) : List (Reentrance.Input Call Event) :=
  [.call (.setListeners [⟨0, [.processResponseEvent, .processTransactionTerminated]⟩]), .tick,
    .call (.sendRequest .ready channel false), .tick, .tick,
    .event (.response { statusCode := 200 } none), .tick, .tick, .tick,
    .call .terminate, .tick, .tick, .tick, .tick, .tick, .back, .tick, .tick,
    .back, .tick, .tick]

/-- On a reliable channel the transaction is silent afterwards. -/
theorem terminated_quiet_reliable :
    (Machine.run program.step ⟨{ kind := .nict, request := { method := "OPTIONS" } }, []⟩
      (terminatedInside ⟨0, true⟩)).state.state = .terminated ∧
    Quiet (Machine.run program.step ⟨{ kind := .nict, request := { method := "OPTIONS" } }, []⟩
      (terminatedInside ⟨0, true⟩)) :=
  ⟨by decide +kernel, terminated_quiet .nict { method := "OPTIONS" } "" none rfl (by decide +kernel)⟩

/-- On an unreliable one the timer K is started after the end. -/
theorem timerK_late :
    (Machine.run program.step ⟨{ kind := .nict, request := { method := "OPTIONS" } }, []⟩
      (terminatedInside ⟨0, false⟩)).state.sources = [.k] ∧
    ¬ Quiet (Machine.run program.step ⟨{ kind := .nict, request := { method := "OPTIONS" } }, []⟩
      (terminatedInside ⟨0, false⟩)) := by
  have armed : (Machine.run program.step ⟨{ kind := .nict, request := { method := "OPTIONS" } }, []⟩
      (terminatedInside ⟨0, false⟩)).state.sources = [.k] := by decide +kernel
  refine ⟨armed, ?_⟩
  intro quiet
  have unarmed := (quiet (by decide +kernel) (by decide +kernel)).1.unarmed
  rw [armed] at unarmed
  cases unarmed

end Callbacks

end BelleSip
