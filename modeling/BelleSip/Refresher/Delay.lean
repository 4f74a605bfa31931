import BelleSip.Refresher.State

/-
This file proves for which responses the next refresh is sent after a part of the time that they grant.
-/

namespace BelleSip

open Foundation

/-- A registration has a contact. -/
def RefreshRequest.Contacted (request : RefreshRequest) : Prop :=
  request.method = .register → request.contactExpires ≠ none

instance (request : RefreshRequest) : Decidable request.Contacted := inferInstanceAs (Decidable (_ → _))

/-- The expiry that a request asks for; where it says nothing, the refresher keeps its own. -/
def RefreshRequest.asked (request : RefreshRequest) (kept : Int) : Int :=
  match request.expires with
  | some expires => expires
  | none =>
      if request.method = .register ∧ request.contactExpires.getD (-1) ≠ -1 then request.contactExpires.getD (-1)
      else kept

/-- The expiry that a response grants, by its matching contact if it answers a registration, or by its `Expires` header.
It is −1 where the response says nothing. -/
def ResponseExpires.granted (response : ResponseExpires) (method : RefreshMethod) : Int :=
  if method = .register ∧ response.matchingContact.getD (-1) ≠ -1 then response.matchingContact.getD (-1)
  else response.expires.getD (-1)

namespace Refresher

/-- A success is answered by `schedule_timer`. -/
def Rearms (refresher : Refresher) (answer : RefreshAnswer) : Prop :=
  (200 ≤ answer.statusCode ∧ answer.statusCode < 300) ∧ refresher.state = .started ∧
    0 < refresher.request.asked refresher.targetExpires ∧ answer.contactAccurate = true

/-- The timer that was armed last has a positive delay of at most the obtained expiry, and the product is exact. -/
def Timely (after : Refresher) : Prop :=
  ∃ source, after.sources.getLast? = some source ∧ after.timer = some source.id ∧
    source.delay = after.obtainedExpires * 900 ∧ 0 < source.delay ∧ source.delay ≤ 1000 * after.obtainedExpires

/-- The request is a registration with a contact or has an `Expires` header, and the expiry that counts is positive and
at most 2386092: the granted one, or the one that is asked for where nothing is granted. -/
def Grants (refresher : Refresher) (answer : RefreshAnswer) : Prop :=
  refresher.request.Contacted ∧ (refresher.request.method = .register ∨ refresher.request.expires ≠ none) ∧
    if answer.expires.granted refresher.request.method = -1 ∨ answer.expires.granted refresher.request.method = 0 then
      refresher.request.asked refresher.targetExpires ≤ 2386092
    else 0 < answer.expires.granted refresher.request.method ∧
      answer.expires.granted refresher.request.method ≤ 2386092

variable {refresher : Refresher} {answer : RefreshAnswer}

/-- What the expiries of a response make of a refresher whose request can be matched with them. -/
def granting (refresher : Refresher) (response : ResponseExpires) : Refresher :=
  refresher.takeExpires (if refresher.request.method = .register then response.matchingContact else none)
    response.expires

theorem setExpiresFromTrans_contacted (contacted : refresher.request.Contacted) (response : ResponseExpires) :
    refresher.setExpiresFromTrans (some response) = .ok (refresher.granting response) := by
  rw [setExpiresFromTrans, granting]
  by_cases register : refresher.request.method = .register
  · obtain ⟨contact, isContact⟩ := Option.ne_none_iff_exists'.mp (contacted register)
    rw [if_pos register, if_pos register, getMatchingContact, isContact]
    rfl
  · rw [if_neg register, if_neg register]
    rfl

/-- The contact that a registration lacks is read through a null pointer. -/
theorem setExpiresFromTrans_null (without : ¬refresher.request.Contacted) (response : ResponseExpires) :
    refresher.setExpiresFromTrans (some response) = .error .nullPointer := by
  rw [RefreshRequest.Contacted, Classical.not_imp, not_not] at without
  obtain ⟨register, none⟩ := without
  rw [setExpiresFromTrans, if_pos register, getMatchingContact, none]
  rfl

theorem granting_target (refresher : Refresher) (response : ResponseExpires) :
    (refresher.granting response).targetExpires = refresher.request.asked refresher.targetExpires := by
  rw [granting, takeExpires, RefreshRequest.asked]
  cases expires : refresher.request.expires with
  | some value => simp
  | none =>
      by_cases register : refresher.request.method = .register
      · cases contact : refresher.request.contactExpires with
        | none => simp [register]
        | some value => simp [register]
      · simp [register]

theorem granting_state (refresher : Refresher) (response : ResponseExpires) :
    (refresher.granting response).state = refresher.state := by
  rw [granting, takeExpires]
  split <;> rfl

theorem granting_obtained (response : ResponseExpires)
    (positive : 0 < refresher.request.asked refresher.targetExpires) :
    (refresher.granting response).obtainedExpires =
      if refresher.request.method = .register ∨ refresher.request.expires ≠ none then
        if response.granted refresher.request.method = -1 ∨ response.granted refresher.request.method = 0 then
          refresher.request.asked refresher.targetExpires
        else response.granted refresher.request.method
      else -1 := by
  have target := refresher.granting_target response
  rw [granting, takeExpires] at target ⊢
  by_cases supported : refresher.request.method = .register ∨ refresher.request.expires ≠ none
  · rw [if_pos supported] at target ⊢
    rw [if_pos supported]
    dsimp only at target ⊢
    rw [target]
    have obtained :
        (if (if refresher.request.method = .register then response.matchingContact else none).getD (-1) = -1 then
          response.expires.getD (-1)
        else (if refresher.request.method = .register then response.matchingContact else none).getD (-1)) =
          response.granted refresher.request.method := by
      rw [ResponseExpires.granted]
      by_cases register : refresher.request.method = .register
      · rw [if_pos register]
        split_ifs <;> simp_all
      · simp [register]
    rw [obtained]
    simp only [positive, true_and]
  · rw [if_neg supported, if_neg supported]

/-- The delay is exact, positive and in time for the expiries from 1 to 2386092. -/
theorem delay_iff (expires : Int) :
    (expires * 900).bmod UInt32.size = expires * 900 ∧ 0 < expires * 900 ∧ expires * 900 ≤ 1000 * expires ↔
      0 < expires ∧ expires ≤ 2386092 := by
  rw [Int.bmod_def]
  simp only [UInt32.size]
  omega

theorem notify_frame (refresher : Refresher) (code : Nat) :
    (refresher.notify code).sources = refresher.sources ∧ (refresher.notify code).timer = refresher.timer ∧
      (refresher.notify code).obtainedExpires = refresher.obtainedExpires := by
  rw [notify]
  split <;> exact ⟨rfl, rfl, rfl⟩

theorem cancelRetry_frame (refresher : Refresher) :
    refresher.cancelRetry.sources ⊆ refresher.sources ∧
      refresher.cancelRetry.obtainedExpires = refresher.obtainedExpires := by
  rw [cancelRetry]
  split
  · exact ⟨fun _ among => (List.mem_filter.mp among).1, rfl⟩
  · exact ⟨List.Subset.refl _, rfl⟩

/-- The timer that `schedule_timer` arms. -/
theorem timely_scheduleTimer (refresher : Refresher) (code : Nat) :
    (refresher.scheduleTimer.notify code).Timely ↔
      0 < refresher.obtainedExpires ∧ refresher.obtainedExpires ≤ 2386092 := by
  obtain ⟨sources, timer, obtained⟩ := refresher.scheduleTimer.notify_frame code
  have kept : refresher.scheduleTimer.obtainedExpires = refresher.obtainedExpires :=
    (cancelRetry_frame { refresher with timerPurpose := .normalRefresh }).2
  rw [Timely, sources, timer, obtained, kept, ← delay_iff]
  simp only [scheduleTimer, scheduleTimerAt, List.getLast?_concat, Option.some.injEq, exists_eq_left', true_and]
  constructor
  · rintro ⟨exact, positive, bounded⟩
    rw [exact] at positive bounded
    exact ⟨exact, positive, bounded⟩
  · rintro ⟨exact, positive, bounded⟩
    rw [exact]
    exact ⟨rfl, positive, bounded⟩

theorem processResponseEvent_success (success : 200 ≤ answer.statusCode ∧ answer.statusCode < 300)
    (contacted : refresher.request.Contacted) (around : Surroundings) :
    refresher.processResponseEvent answer around =
      .ok (({ refresher with authFailures := 0, numberOfRetry := 0 }.granting answer.expires).processSuccess answer
        around) := by
  have same : RefreshRequest.Contacted { refresher with authFailures := 0, numberOfRetry := 0 }.request := contacted
  rw [processResponseEvent, if_pos success, setExpiresFromTrans_contacted same]
  rfl

/-- The delay of the next refresh is positive and in time if and only if the response grants an expiry in the range. -/
theorem refresh_timely (refresher : Refresher) (answer : RefreshAnswer) (around : Surroundings)
    (rearms : refresher.Rearms answer) :
    Checked.Returns (refresher.processResponseEvent answer around) Timely ↔ refresher.Grants answer := by
  obtain ⟨success, started, positive, accurate⟩ := rearms
  by_cases contacted : refresher.request.Contacted
  · have target := granting_target { refresher with authFailures := 0, numberOfRetry := 0 } answer.expires
    have state := granting_state { refresher with authFailures := 0, numberOfRetry := 0 } answer.expires
    have obtained := @granting_obtained { refresher with authFailures := 0, numberOfRetry := 0 } answer.expires positive
    rw [processResponseEvent_success success contacted, Checked.returns_ok, processSuccess]
    generalize granting { refresher with authFailures := 0, numberOfRetry := 0 } answer.expires = updated
      at target state obtained
    dsimp only at target state obtained ⊢
    have goesOn : ¬updated.targetExpires ≤ 0 := by omega
    rw [if_neg goesOn, if_pos (state.trans started), if_pos accurate, timely_scheduleTimer, obtained, Grants,
      and_iff_right contacted]
    by_cases supported : refresher.request.method = .register ∨ refresher.request.expires ≠ none
    · rw [if_pos supported, and_iff_right supported]
      split
      · exact and_iff_right positive
      · exact Iff.rfl
    · rw [if_neg supported]
      constructor
      · rintro ⟨never, -⟩
        omega
      · rintro ⟨works, -⟩
        exact absurd works supported
  · have without : ¬RefreshRequest.Contacted { refresher with authFailures := 0, numberOfRetry := 0 }.request :=
      contacted
    refine iff_of_false ?_ fun grants => contacted grants.1
    rintro ⟨after, returned, -⟩
    rw [processResponseEvent, if_pos success, setExpiresFromTrans_null without] at returned
    cases returned

/-- A started refresher whose registration, of one contact, asks for an hour. -/
def hourly : Refresher where
  transaction := .completed
  request := { method := .register, expires := some 3600, contactExpires := some (-1) }
  state := .started

theorem refresh_timely_registration :
    Checked.Returns (hourly.processResponseEvent
        { statusCode := 200, expires := { matchingContact := some (-1), expires := some 3600 } }
        { outlet := .ready }) Timely ↔
      hourly.Grants { statusCode := 200, expires := { matchingContact := some (-1), expires := some 3600 } } :=
  refresh_timely _ _ _ ⟨by decide, rfl, by decide, rfl⟩

/-- A registration whose contact is granted a negative expiry, and one that is granted 4000000 seconds. -/
theorem not_refresh_timely :
    ¬Checked.Returns (hourly.processResponseEvent
        { statusCode := 200, expires := { matchingContact := some (-5) } } { outlet := .ready }) Timely ∧
      ¬Checked.Returns (hourly.processResponseEvent
        { statusCode := 200, expires := { matchingContact := some (-1), expires := some 4000000 } }
        { outlet := .ready }) Timely := by
  constructor
  · rintro ⟨after, returned, source, last, -, -, positive, -⟩
    cases returned
    cases last
    exact absurd positive (by decide)
  · rintro ⟨after, returned, source, last, -, -, positive, -⟩
    cases returned
    cases last
    exact absurd positive (by decide)

end Refresher

end BelleSip
