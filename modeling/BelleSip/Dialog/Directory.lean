import BelleSip.Dialog.State

/-
This file defines how the provider finds a dialog.

The dialogs are listed in the order of their creation and named by their place. A deleted dialog
keeps its place, but the provider no longer sees it.
-/

namespace BelleSip

open Foundation

abbrev DialogId := Nat

namespace Dialog

/-- The searches of the provider skip new dialogs, and deleted ones have left its list. -/
def visible (dialog : Dialog) : Bool := dialog.state = .early || dialog.state = .confirmed

/-- The body of the loop of `belle_sip_provider_find_dialog`. -/
def hasTags (dialog : Dialog) (callId fromTag toTag : String) : Checked Bool := do
  if !(← Checked.sameText dialog.callId (some callId)) then return false
  else
    let targetFrom := if dialog.isServer then dialog.remoteTag else dialog.localTag
    let targetTo := if dialog.isServer then dialog.localTag else dialog.remoteTag
    if !(← Checked.sameText (some fromTag) targetFrom) then return false
    else Checked.sameText (some toTag) targetTo

end Dialog

/-- The provider puts a new dialog at the head of its list. -/
def searchOrder (dialogs : List Dialog) : List (Dialog × DialogId) := dialogs.zipIdx.reverse

/-- This is the loop of `belle_sip_provider_find_dialog`. -/
def firstWithTags (callId fromTag toTag : String) : List (Dialog × DialogId) → Checked (Option DialogId)
  | [] => return none
  | (dialog, id) :: rest =>
      if dialog.visible then do
        if ← dialog.hasTags callId fromTag toTag then return some id
        else firstWithTags callId fromTag toTag rest
      else firstWithTags callId fromTag toTag rest

/-- This is `belle_sip_provider_find_dialog`. -/
def findDialog (dialogs : List Dialog) (callId fromTag toTag : String) : Checked (Option DialogId) :=
  firstWithTags callId fromTag toTag (searchOrder dialogs)

/-- This is the loop of `belle_sip_provider_find_dialog_from_message`, which admits one match only. -/
def onlyMatching (callId localTag remoteTag : String) (found : Option DialogId) :
    List (Dialog × DialogId) → Checked (Option DialogId)
  | [] => return found
  | (dialog, id) :: rest =>
      if dialog.visible then do
        if ← dialog.matchTags (some callId) (some localTag) (some remoteTag) then
          if found.isSome then .error .fatal
          else onlyMatching callId localTag remoteTag (some id) rest
        else onlyMatching callId localTag remoteTag found rest
      else onlyMatching callId localTag remoteTag found rest

/-- The part of `belle_sip_provider_find_dialog_from_message` that reads the headers. -/
def findDialogFromMessage (dialogs : List Dialog) (message : Headers) (asUas : Bool) :
    Checked (Option DialogId) :=
  match message.toHeader.bind (·.tag), message.callId, message.fromHeader.bind (·.tag) with
  | some toTag, some callId, some fromTag =>
      onlyMatching callId (if asUas then toTag else fromTag) (if asUas then fromTag else toTag) none
        (searchOrder dialogs)
  | _, _, _ => return none

end BelleSip
