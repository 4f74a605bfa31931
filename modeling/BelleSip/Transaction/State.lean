import Mathlib.Tactic.Common

/-
This file defines the states of a transaction.
-/

namespace BelleSip

/-- The values of `belle_sip_transaction_state_t`. -/
inductive TransactionState where
  | init
  | calling
  | completed
  | confirmed
  | accepted
  | proceeding
  | trying
  | terminated
deriving DecidableEq, Repr

/-- This is `belle_sip_transaction_state_is_transient`. -/
def TransactionState.isTransient : TransactionState → Bool
  | .init | .trying | .calling | .proceeding => true
  | _ => false

/-- What `belle_sip_client_transaction_send_request_to` finds when it checks the URIs and looks for a channel. -/
inductive Outlet where
  | badUris
  | noChannel
  | connecting
  | ready
deriving DecidableEq, Repr

end BelleSip
