import BelleSip.Dialog.Soundness

/-
This file proves that the searches among sound dialogs read no null tag.
-/

namespace BelleSip

open Foundation

namespace Dialog

/-- The result of a comparison with the headers of a response. -/
def answeredBy (dialog : Dialog) (message : Headers) : Bool :=
  match message.callId, message.fromHeader, message.toHeader with
  | some callId, some fromHeader, some toHeader =>
      dialog.callId = some callId && dialog.localTag = fromHeader.tag && dialog.remoteTag.isSome &&
        dialog.remoteTag = toHeader.tag
  | _, _, _ => false

/-- The comparison with the headers of a response reads no null tag. -/
def comparable (dialog : Dialog) (message : Headers) : Bool :=
  match message.callId, message.fromHeader, message.toHeader with
  | some callId, some fromHeader, some toHeader =>
      dialog.callId ≠ some callId ||
        (fromHeader.tag.isSome && (dialog.localTag ≠ fromHeader.tag || dialog.remoteTag.isNone || toHeader.tag.isSome))
  | _, _, _ => true

theorem Sound.matchTags {dialog : Dialog} (sound : dialog.Sound) (seen : dialog.visible = true)
    {callId : String} {localTag remoteTag : Option String}
    (tags : dialog.callId = some callId → localTag.isSome ∧
      (dialog.localTag = localTag → dialog.remoteTag.isSome → remoteTag.isSome)) :
    Checked.Safe (dialog.matchTags (some callId) localTag remoteTag) fun found =>
      found = (dialog.callId = some callId && dialog.localTag = localTag && dialog.remoteTag.isSome &&
        dialog.remoteTag = remoteTag) := by
  obtain ⟨own, -, -, ownLocal, -⟩ := complete_iff.mp (sound.complete seen)
  obtain ⟨own, hasOwn⟩ := Option.isSome_iff_exists.mp own
  obtain ⟨ownLocal, hasLocal⟩ := Option.isSome_iff_exists.mp ownLocal
  have established : dialog.state ≠ .null := by
    intro new
    simp [Dialog.visible, new] at seen
  unfold Dialog.matchTags
  rw [if_neg established]
  rw [hasOwn, hasLocal] at tags ⊢
  apply Checked.safe_bind.mpr
  apply Checked.safe_sameText.mpr
  by_cases same : own = callId
  · subst same
    obtain ⟨hasLocalTag, hasRemoteTag⟩ := tags rfl
    obtain ⟨localTag, rfl⟩ := Option.isSome_iff_exists.mp hasLocalTag
    simp only [decide_true, Bool.not_true, Bool.false_eq_true, if_false]
    apply Checked.safe_bind.mpr
    apply Checked.safe_sameText.mpr
    by_cases alike : ownLocal = localTag
    · subst alike
      cases hasRemote : dialog.remoteTag with
      | none => simp
      | some ownRemote =>
          obtain ⟨remoteTag, rfl⟩ := Option.isSome_iff_exists.mp (hasRemoteTag rfl (by simp [hasRemote]))
          simp only [decide_true, Bool.not_true, Bool.false_eq_true, if_false, Option.isNone_some]
          apply Checked.safe_sameText.mpr
          simp
    · simp [alike]
  · simp [same]

/-- The comparison of a client dialog with a response. -/
theorem Sound.matchMessage {dialog : Dialog} (sound : dialog.Sound) (seen : dialog.visible = true)
    {message : Headers} (comparable : dialog.comparable message = true) :
    Checked.Safe (dialog.matchMessage message false) fun found => found = dialog.answeredBy message := by
  unfold Dialog.matchMessage answeredBy
  unfold Dialog.comparable at comparable
  cases hasCallId : message.callId with
  | none => rfl
  | some callId =>
      cases hasFrom : message.fromHeader with
      | none => rfl
      | some fromHeader =>
          cases hasTo : message.toHeader with
          | none => rfl
          | some toHeader =>
              simp only [hasCallId, hasFrom, hasTo, Bool.or_eq_true, Bool.and_eq_true, decide_eq_true_eq,
                ne_eq] at comparable
              apply sound.matchTags seen
              intro same
              obtain ⟨hasLocal, others⟩ := comparable.resolve_left (fun other => other same)
              refine ⟨hasLocal, fun alike hasRemote => ?_⟩
              rcases others with (other | noRemote) | hasTag
              · exact absurd alike other
              · rw [Option.isNone_iff_eq_none] at noRemote
                simp [noRemote] at hasRemote
              · exact hasTag

end Dialog

variable {callId localTag remoteTag : String} {dialogs : List Dialog} {dialog : Dialog}

theorem mem_searchOrder {id : DialogId} :
    (dialog, id) ∈ searchOrder dialogs ↔ dialogs[id]? = some dialog := by
  simp [searchOrder, List.mk_mem_zipIdx_iff_getElem?]

/-- The dialog has the tags of the search and the provider sees it. -/
def Dialog.sought (callId localTag remoteTag : String) (dialog : Dialog) : Bool :=
  dialog.visible && dialog.callId = some callId && dialog.localTag = some localTag &&
    dialog.remoteTag = some remoteTag

/-- What the search by tags returns. -/
def Finds (callId localTag remoteTag : String) (entries : List (Dialog × DialogId))
    (found : Option DialogId) : Option DialogId → Prop
  | some id => found = some id ∨
      ∃ dialog, (dialog, id) ∈ entries ∧ dialog.sought callId localTag remoteTag = true
  | none => found = none ∧ ∀ dialog id, (dialog, id) ∈ entries → dialog.sought callId localTag remoteTag = false

theorem Finds.skip {rest : List (Dialog × DialogId)} {found result : Option DialogId}
    (finds : Finds callId localTag remoteTag rest found result)
    (other : dialog.sought callId localTag remoteTag = false) (id : DialogId) :
    Finds callId localTag remoteTag ((dialog, id) :: rest) found result := by
  cases result with
  | some result =>
      rcases finds with already | ⟨match_, among, sought⟩
      · exact Or.inl already
      · exact Or.inr ⟨match_, List.mem_cons_of_mem _ among, sought⟩
  | none =>
      refine ⟨finds.1, ?_⟩
      intro entry place among
      rcases List.mem_cons.mp among with same | among
      · cases same
        exact other
      · exact finds.2 entry place among

theorem Finds.take {rest : List (Dialog × DialogId)} {id : DialogId} {found result : Option DialogId}
    (finds : Finds callId localTag remoteTag rest (some id) result)
    (sought : dialog.sought callId localTag remoteTag = true) :
    Finds callId localTag remoteTag ((dialog, id) :: rest) found result := by
  cases result with
  | some result =>
      rcases finds with already | ⟨match_, among, alsoSought⟩
      · cases already
        exact Or.inr ⟨dialog, List.mem_cons_self, sought⟩
      · exact Or.inr ⟨match_, List.mem_cons_of_mem _ among, alsoSought⟩
  | none => cases finds.1

/-- The search by tags finds a dialog with these tags whenever there is one. -/
theorem onlyMatching_safe {entries : List (Dialog × DialogId)}
    (sound : ∀ dialog id, (dialog, id) ∈ entries → dialog.Sound) (found : Option DialogId) :
    Checked.Safe (onlyMatching callId localTag remoteTag found entries)
      (Finds callId localTag remoteTag entries found) := by
  induction entries generalizing found with
  | nil => cases found <;> simp [onlyMatching, Finds]
  | cons entry rest ih =>
      obtain ⟨dialog, id⟩ := entry
      have restSound : ∀ dialog id, (dialog, id) ∈ rest → dialog.Sound := fun dialog id among =>
        sound dialog id (List.mem_cons_of_mem _ among)
      unfold onlyMatching
      split
      · next seen =>
          apply Checked.safe_bind.mpr
          apply ((sound dialog id List.mem_cons_self).matchTags seen fun _ => ⟨rfl, fun _ _ => rfl⟩).mono
          rintro matching isMatching
          have sought : dialog.sought callId localTag remoteTag = matching := by
            rw [isMatching]
            cases hasRemote : dialog.remoteTag <;> simp [Dialog.sought, seen, hasRemote]
          split
          · next matches_ =>
              split
              · trivial
              · apply (ih restSound (some id)).mono
                intro result finds
                exact finds.take (sought.trans matches_)
          · next differs =>
              apply (ih restSound found).mono
              intro result finds
              exact finds.skip (sought.trans (Bool.eq_false_iff.mpr differs)) id
      · next unseen =>
          apply (ih restSound found).mono
          intro result finds
          exact finds.skip (by simp [Dialog.sought, unseen]) id

theorem Dialog.sought_visible (sought : dialog.sought callId localTag remoteTag = true) : dialog.visible = true := by
  simp only [Dialog.sought, Bool.and_eq_true] at sought
  exact sought.1.1.1

/-- The search among the dialogs of the provider. -/
theorem searchOrder_safe (sound : ∀ dialog ∈ dialogs, dialog.Sound) (callId localTag remoteTag : String) :
    Checked.Safe (onlyMatching callId localTag remoteTag none (searchOrder dialogs)) fun found =>
      match found with
      | some id => ∃ dialog, dialogs[id]? = some dialog ∧ dialog.sought callId localTag remoteTag = true
      | none => ∀ dialog ∈ dialogs, dialog.sought callId localTag remoteTag = false := by
  have listed : ∀ dialog id, (dialog, id) ∈ searchOrder dialogs → dialog.Sound := fun dialog id among =>
    sound dialog (List.mem_of_getElem? (mem_searchOrder.mp among))
  apply (onlyMatching_safe listed none).mono
  intro found finds
  cases found with
  | some id =>
      rcases finds with none | ⟨dialog, among, sought⟩
      · cases none
      · exact ⟨dialog, mem_searchOrder.mp among, sought⟩
  | none =>
      intro dialog among
      obtain ⟨id, present⟩ := List.mem_iff_getElem?.mp among
      exact finds.2 dialog id (mem_searchOrder.mpr present)

/-- The dialog that a message belongs to is one that the provider sees. -/
theorem findDialogFromMessage_safe (sound : ∀ dialog ∈ dialogs, dialog.Sound) (message : Headers) (asUas : Bool) :
    Checked.Safe (findDialogFromMessage dialogs message asUas) fun found =>
      ∀ id, found = some id → ∃ dialog, dialogs[id]? = some dialog ∧ dialog.visible = true := by
  unfold findDialogFromMessage
  split
  · next toTag callId fromTag hasTo hasCallId hasFrom =>
      apply (searchOrder_safe sound callId _ _).mono
      rintro found finds id rfl
      obtain ⟨dialog, present, sought⟩ := finds
      exact ⟨dialog, present, Dialog.sought_visible sought⟩
  · intro id none
    cases none

/-- A response belongs to the dialog that its headers answer, if there is one. -/
theorem findDialogFromMessage_response (sound : ∀ dialog ∈ dialogs, dialog.Sound) (message : Headers) :
    Checked.Safe (findDialogFromMessage dialogs message false) fun found =>
      match found with
      | some id => ∃ dialog, dialogs[id]? = some dialog ∧ dialog.visible = true ∧
          dialog.answeredBy message = true
      | none => ∀ dialog ∈ dialogs, dialog.visible = true → dialog.answeredBy message = false := by
  unfold findDialogFromMessage
  split
  · next toTag callId fromTag hasTo hasCallId hasFrom =>
      obtain ⟨toHeader, isTo, toTagged⟩ := Option.bind_eq_some_iff.mp hasTo
      obtain ⟨fromHeader, isFrom, fromTagged⟩ := Option.bind_eq_some_iff.mp hasFrom
      have same : ∀ dialog : Dialog, dialog.visible = true →
          dialog.answeredBy message = dialog.sought callId fromTag toTag := by
        intro dialog seen
        simp only [Dialog.answeredBy, Dialog.sought, hasCallId, isFrom, isTo, fromTagged, toTagged, seen,
          Bool.true_and]
        cases hasRemote : dialog.remoteTag <;> simp
      apply (searchOrder_safe sound callId _ _).mono
      intro found finds
      cases found with
      | some id =>
          obtain ⟨dialog, present, sought⟩ := finds
          have seen := Dialog.sought_visible sought
          exact ⟨dialog, present, seen, (same dialog seen).trans sought⟩
      | none => exact fun dialog among seen => (same dialog seen).trans (finds dialog among)
  · next incomplete =>
      intro dialog among seen
      obtain ⟨-, -, -, ownLocal, -⟩ := Dialog.complete_iff.mp ((sound dialog among).complete seen)
      apply Bool.eq_false_iff.mpr
      intro answered
      unfold Dialog.answeredBy at answered
      split at answered
      · next callId fromHeader toHeader hasCallId hasFrom hasTo =>
          simp only [Bool.and_eq_true, decide_eq_true_eq] at answered
          obtain ⟨⟨⟨-, sameLocal⟩, hasRemote⟩, sameRemote⟩ := answered
          rw [sameLocal] at ownLocal
          rw [sameRemote] at hasRemote
          obtain ⟨fromTag, isFromTag⟩ := Option.isSome_iff_exists.mp ownLocal
          obtain ⟨toTag, isToTag⟩ := Option.isSome_iff_exists.mp hasRemote
          apply incomplete toTag callId fromTag
          · simp [hasTo, isToTag]
          · exact hasCallId
          · simp [hasFrom, isFromTag]
      · cases answered

/-- The look-up of a dialog with a Call-ID and tags that the caller gives. -/
def Dialog.wanted (callId fromTag toTag : String) (dialog : Dialog) : Bool :=
  dialog.visible && dialog.callId = some callId &&
    (if dialog.isServer then dialog.remoteTag else dialog.localTag) = some fromTag &&
    (if dialog.isServer then dialog.localTag else dialog.remoteTag) = some toTag

/-- No dialog without remote tag is compared with the tag of the callee. -/
def lookable (dialogs : List Dialog) (callId fromTag toTag : String) : Bool :=
  ((searchOrder dialogs).takeWhile fun (dialog, _) => !dialog.wanted callId fromTag toTag).all fun (dialog, _) =>
    !dialog.visible || dialog.isServer || dialog.remoteTag.isSome || dialog.callId ≠ some callId ||
      dialog.localTag ≠ some fromTag

theorem Dialog.Sound.hasTags (sound : dialog.Sound) (seen : dialog.visible = true) {callId fromTag toTag : String}
    (tagged : dialog.isServer = true ∨ dialog.remoteTag.isSome = true ∨ dialog.callId ≠ some callId ∨
      dialog.localTag ≠ some fromTag) :
    Checked.Safe (dialog.hasTags callId fromTag toTag) fun found =>
      found = dialog.wanted callId fromTag toTag := by
  obtain ⟨own, -, -, ownLocal, -⟩ := complete_iff.mp (sound.complete seen)
  obtain ⟨own, hasOwn⟩ := Option.isSome_iff_exists.mp own
  obtain ⟨ownLocal, hasLocal⟩ := Option.isSome_iff_exists.mp ownLocal
  -- both targets can be read as far as the comparison goes
  have targets : ∃ targetFrom, (if dialog.isServer then dialog.remoteTag else dialog.localTag) = some targetFrom ∧
      (dialog.callId = some callId → fromTag = targetFrom →
        ∃ targetTo, (if dialog.isServer then dialog.localTag else dialog.remoteTag) = some targetTo) := by
    cases role : dialog.isServer with
    | true =>
        obtain ⟨ownRemote, hasRemote⟩ := Option.isSome_iff_exists.mp (sound.server role).1
        exact ⟨ownRemote, hasRemote, fun _ _ => ⟨ownLocal, hasLocal⟩⟩
    | false =>
        refine ⟨ownLocal, hasLocal, fun same alike => ?_⟩
        rcases tagged with server | hasRemote | other | differs
        · rw [role] at server
          cases server
        · exact Option.isSome_iff_exists.mp hasRemote
        · exact absurd same other
        · exact absurd (by rw [hasLocal, alike]) differs
  obtain ⟨targetFrom, isFrom, reads⟩ := targets
  unfold Dialog.hasTags wanted
  rw [seen, isFrom, hasOwn]
  apply Checked.safe_bind.mpr
  apply Checked.safe_sameText.mpr
  by_cases same : own = callId
  · simp only [same, decide_true, Bool.not_true, Bool.false_eq_true, if_false]
    apply Checked.safe_bind.mpr
    apply Checked.safe_sameText.mpr
    by_cases alike : fromTag = targetFrom
    · obtain ⟨targetTo, isTo⟩ := reads (by rw [hasOwn, same]) alike
      rw [isTo]
      simp only [alike, decide_true, Bool.not_true, Bool.false_eq_true, if_false]
      apply Checked.safe_sameText.mpr
      simp [eq_comm]
    · have differs : ¬targetFrom = fromTag := fun back => alike back.symm
      simp [alike, differs]
  · simp [same]

/-- The look-up reads no null tag unless a dialog without remote tag comes before the one it looks for. -/
theorem findDialog_safe (sound : ∀ dialog ∈ dialogs, dialog.Sound) {callId fromTag toTag : String}
    (lookable : lookable dialogs callId fromTag toTag = true) :
    Checked.Safe (findDialog dialogs callId fromTag toTag) fun _ => True := by
  have walk : ∀ entries : List (Dialog × DialogId), (∀ dialog id, (dialog, id) ∈ entries → dialog.Sound) →
      ((entries.takeWhile fun (dialog, _) => !dialog.wanted callId fromTag toTag).all fun (dialog, _) =>
        !dialog.visible || dialog.isServer || dialog.remoteTag.isSome || dialog.callId ≠ some callId ||
          dialog.localTag ≠ some fromTag) = true →
      Checked.Safe (firstWithTags callId fromTag toTag entries) fun _ => True := by
    intro entries
    induction entries with
    | nil => exact fun _ _ => trivial
    | cons entry rest ih =>
        obtain ⟨dialog, id⟩ := entry
        intro entriesSound walkable
        have restSound : ∀ dialog id, (dialog, id) ∈ rest → dialog.Sound := fun dialog id among =>
          entriesSound dialog id (List.mem_cons_of_mem _ among)
        unfold firstWithTags
        have compares : dialog.visible = true → (dialog.isServer = true ∨ dialog.remoteTag.isSome = true ∨
            dialog.callId ≠ some callId ∨ dialog.localTag ≠ some fromTag) →
            (dialog.wanted callId fromTag toTag = false → Checked.Safe (firstWithTags callId fromTag toTag rest)
              fun _ => True) →
            Checked.Safe (do
              if ← dialog.hasTags callId fromTag toTag then return some id
              else firstWithTags callId fromTag toTag rest) fun _ => True := by
          intro seen tagged continues
          apply Checked.safe_bind.mpr
          apply ((entriesSound dialog id List.mem_cons_self).hasTags seen tagged).mono
          intro found isFound
          split
          · trivial
          · next other => exact continues (isFound.symm.trans (Bool.eq_false_iff.mpr other))
        by_cases wanted : dialog.wanted callId fromTag toTag = true
        · have seen : dialog.visible = true := by
            simp only [Dialog.wanted, Bool.and_eq_true] at wanted
            exact wanted.1.1.1
          rw [if_pos seen]
          apply compares seen
          · cases role : dialog.isServer with
            | true => exact Or.inl rfl
            | false =>
                simp only [Dialog.wanted, role, Bool.and_eq_true, decide_eq_true_eq, Bool.false_eq_true,
                  if_false] at wanted
                exact Or.inr (Or.inl (by simp [wanted.2]))
          · intro other
            rw [wanted] at other
            cases other
        · rw [List.takeWhile_cons_of_pos (by simp [wanted]), List.all_cons, Bool.and_eq_true] at walkable
          split
          · next seen =>
              apply compares seen
              · simpa [seen, or_assoc] using walkable.1
              · exact fun _ => ih restSound walkable.2
          · exact ih restSound walkable.2
  exact walk _ (fun dialog id among => sound dialog (List.mem_of_getElem? (mem_searchOrder.mp among))) lookable

end BelleSip
