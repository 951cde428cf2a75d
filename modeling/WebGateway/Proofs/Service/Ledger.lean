import Mathlib.Logic.Function.Basic
import WebGateway.Service.Serving

/-!
# The ledger of a shutdown

Who watches a shutdown keeps a ledger of it: which coordinators are left, and for each receiver how
many signals were sent since it subscribed, how many it was given and how many it was told it has
missed. The ledger is kept from the steps and their results alone: it knows neither channels nor how
far a receiver has read.

An account changes with the signals and with what its own receiver does. What others do leaves it as
it is (`account_ledgerAfter_append`).
-/

set_option autoImplicit false
set_option relaxedAutoImplicit false

namespace WebGateway.Service

/-- The signals since a receiver subscribed, those it was given and those it was told it missed. -/
structure Account where
  triggered : Nat
  delivered : Nat
  missed : Nat
deriving DecidableEq, Repr

namespace Account

def opened : Account :=
  ⟨0, 0, 0⟩

/-- The number of signals that the receiver has not accounted for yet. -/
def pending (account : Account) : Nat :=
  account.triggered - (account.delivered + account.missed)

def trigger (account : Account) : Account :=
  { account with triggered := account.triggered + 1 }

/-- Enters what the receiver was told when it read. -/
def told (account : Account) : ShutdownResult → Account
  | .signal => { account with delivered := account.delivered + 1 }
  | .lagged missed => { account with missed := account.missed + missed }
  | _ => account

/-- What the receiver is due when it reads next. -/
def next (account : Account) (isOpen : Bool) : ShutdownResult :=
  match account.pending with
  | 0 => if isOpen then .empty else .closed
  | 1 => .signal
  | missed + 2 => .lagged (missed + 1)

variable {account : Account}

theorem next_of_pending_eq_zero (h : account.pending = 0) (isOpen : Bool) :
    account.next isOpen = if isOpen then .empty else .closed := by
  unfold next
  rw [h]

theorem next_of_pending_eq_one (h : account.pending = 1) (isOpen : Bool) :
    account.next isOpen = .signal := by
  unfold next
  rw [h]

theorem next_of_two_le (h : 2 ≤ account.pending) (isOpen : Bool) :
    account.next isOpen = .lagged (account.pending - 1) := by
  obtain ⟨missed, hmissed⟩ := Nat.exists_eq_add_of_le' h
  unfold next
  rw [hmissed]
  rfl

/-- Who was told how many signals it has missed is still due the last one. -/
theorem pending_told_lagged (h : 2 ≤ account.pending) :
    (account.told (.lagged (account.pending - 1))).pending = 1 := by
  unfold pending at h
  show account.triggered - (account.delivered + (account.missed +
    (account.triggered - (account.delivered + account.missed) - 1))) = 1
  omega

end Account

/-- The coordinators that are left, and the accounts of the receivers that are. -/
structure Ledger where
  alive : String → Bool
  account : String → Option Account

namespace Ledger

def opening (coordinator : String) : Ledger :=
  ⟨Function.update (fun _ ↦ false) coordinator true, fun _ ↦ none⟩

/-- Enters what is done with a coordinator that is left. -/
def through (ledger : Ledger) (coordinator : String) (entered : Ledger) : Ledger :=
  if ledger.alive coordinator then entered else ledger

/-- Enters a step with its result. Only what a receiver reads has a result that matters. -/
def enter (ledger : Ledger) : ShutdownStep × ShutdownResult → Ledger
  | (.subscribe coordinator receiver, _) =>
    ledger.through coordinator
      { ledger with account := Function.update ledger.account receiver (some .opened) }
  | (.trigger coordinator, _) =>
    ledger.through coordinator
      { ledger with account := fun receiver ↦ (ledger.account receiver).map .trigger }
  | (.clone coordinator copy, _) =>
    ledger.through coordinator { ledger with alive := Function.update ledger.alive copy true }
  | (.create _ _, _) => ledger
  | (.release coordinator, _) =>
    ledger.through coordinator
      { ledger with alive := Function.update ledger.alive coordinator false }
  | (.receive receiver, result) =>
    { ledger with
      account := Function.update ledger.account receiver
        ((ledger.account receiver).map fun account ↦ account.told result) }
  | (.drop receiver, _) =>
    { ledger with account := Function.update ledger.account receiver none }

def enterAll (ledger : Ledger) (entries : List (ShutdownStep × ShutdownResult)) : Ledger :=
  entries.foldl enter ledger

end Ledger

/-- A step over the same channel that sends no signal and is not about the receiver. -/
def ShutdownStep.isIdle (receiver : String) : ShutdownStep → Bool
  | .subscribe _ other => other ≠ receiver
  | .trigger _ => false
  | .clone _ _ => true
  | .create _ _ => false
  | .release _ => true
  | .receive other => other ≠ receiver
  | .drop other => other ≠ receiver

/-- Nothing is sent, and the receiver itself does nothing. -/
def IsQuiet (receiver : String) (steps : List ShutdownStep) : Prop :=
  ∀ step ∈ steps, step.isIdle receiver = true

theorem IsQuiet.create_not_mem {receiver : String} {steps : List ShutdownStep}
    (h : IsQuiet receiver steps) (coordinator fresh : String) :
    .create coordinator fresh ∉ steps := by
  intro hmem
  exact Bool.false_ne_true (h _ hmem)

namespace ShutdownHub

/-- The steps of a run with their results. -/
def record (hub : ShutdownHub) : List ShutdownStep → List (ShutdownStep × ShutdownResult)
  | [] => []
  | step :: steps => (step, (hub.step step).1) :: (hub.step step).2.record steps

/-- What a receiver is told when it reads after some steps. -/
def answerAfter (main : String) (steps : List ShutdownStep) (receiver : String) : ShutdownResult :=
  (((initial main).after steps).step (.receive receiver)).1

/-- The ledger of a run that starts with one coordinator. -/
def ledgerAfter (main : String) (steps : List ShutdownStep) : Ledger :=
  (Ledger.opening main).enterAll ((initial main).record steps)

theorem record_append (hub : ShutdownHub) (steps more : List ShutdownStep) :
    hub.record (steps ++ more) = hub.record steps ++ (hub.after steps).record more := by
  induction steps generalizing hub with
  | nil => rfl
  | cons step rest ih => exact congrArg _ (ih (hub.step step).2)

theorem map_fst_record (hub : ShutdownHub) (steps : List ShutdownStep) :
    (hub.record steps).map Prod.fst = steps := by
  induction steps generalizing hub with
  | nil => rfl
  | cons step rest ih => exact congrArg (step :: ·) (ih (hub.step step).2)

theorem ledgerAfter_append (main : String) (steps more : List ShutdownStep) :
    ledgerAfter main (steps ++ more) =
      (ledgerAfter main steps).enterAll (((initial main).after steps).record more) := by
  unfold ledgerAfter Ledger.enterAll
  rw [record_append, List.foldl_append]

/-! ### Accounts along a run -/

section Accounts

variable {main : String} {steps : List ShutdownStep} {receiver : String}

theorem account_through {ledger entered : Ledger} (coordinator : String)
    (h : entered.account receiver = ledger.account receiver) :
    (ledger.through coordinator entered).account receiver = ledger.account receiver := by
  unfold Ledger.through
  split
  · exact h
  · rfl

theorem account_enter_of_isIdle (ledger : Ledger) {entry : ShutdownStep × ShutdownResult}
    (hidle : entry.1.isIdle receiver = true) :
    (ledger.enter entry).account receiver = ledger.account receiver := by
  obtain ⟨step, result⟩ := entry
  cases step with
  | subscribe coordinator other =>
    have hother : other ≠ receiver := of_decide_eq_true hidle
    exact account_through coordinator (Function.update_of_ne hother.symm _ _)
  | trigger coordinator => exact absurd hidle Bool.false_ne_true
  | clone coordinator copy => exact account_through coordinator rfl
  | create coordinator fresh => exact absurd hidle Bool.false_ne_true
  | release coordinator => exact account_through coordinator rfl
  | receive other =>
    have hother : other ≠ receiver := of_decide_eq_true hidle
    exact Function.update_of_ne hother.symm _ _
  | drop other =>
    have hother : other ≠ receiver := of_decide_eq_true hidle
    exact Function.update_of_ne hother.symm _ _

/-- Steps that are not about a receiver leave its account as it is. -/
theorem account_enterAll_of_isIdle (ledger : Ledger)
    {entries : List (ShutdownStep × ShutdownResult)}
    (hidle : ∀ entry ∈ entries, entry.1.isIdle receiver = true) :
    (ledger.enterAll entries).account receiver = ledger.account receiver := by
  induction entries generalizing ledger with
  | nil => rfl
  | cons entry rest ih =>
    show ((ledger.enter entry).enterAll rest).account receiver = ledger.account receiver
    rw [ih _ fun later hlater ↦ hidle later (List.mem_cons_of_mem entry hlater),
      account_enter_of_isIdle ledger (hidle entry List.mem_cons_self)]

theorem account_ledgerAfter_append {idle : List ShutdownStep} (hidle : IsQuiet receiver idle) :
    (ledgerAfter main (steps ++ idle)).account receiver =
      (ledgerAfter main steps).account receiver := by
  rw [ledgerAfter_append]
  apply account_enterAll_of_isIdle
  intro entry hentry
  apply hidle
  rw [← map_fst_record ((initial main).after steps) idle]
  exact List.mem_map_of_mem hentry

/-- What a receiver was told stands on its account. -/
theorem account_ledgerAfter_receive :
    (ledgerAfter main (steps ++ [.receive receiver])).account receiver =
      ((ledgerAfter main steps).account receiver).map fun account ↦
        account.told (answerAfter main steps receiver) := by
  rw [ledgerAfter_append]
  exact Function.update_self receiver _ _

/-- A receiver that has just subscribed has an account on which nothing stands. -/
theorem account_ledgerAfter_subscribe {coordinator : String}
    (halive : (ledgerAfter main steps).alive coordinator = true) :
    (ledgerAfter main (steps ++ [.subscribe coordinator receiver])).account receiver =
      some .opened := by
  rw [ledgerAfter_append]
  show ((ledgerAfter main steps).through coordinator _).account receiver = some .opened
  rw [Ledger.through, if_pos halive]
  exact Function.update_self receiver _ _

end Accounts

end ShutdownHub

end WebGateway.Service
