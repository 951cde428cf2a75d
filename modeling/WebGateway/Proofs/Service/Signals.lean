import WebGateway.Proofs.Entries
import WebGateway.Proofs.Service.Ledger

/-!
# What becomes of every signal

A hub and the ledger of its steps agree after every step (`Agrees.step`) and thus after every run
over one channel (`Agrees.after`): what a receiver has passed is what its account says it was given
or has missed. So the account says what the receiver is told next: the signal, the number of signals
it has missed, or that there is nothing to read. Nothing that happens to other receivers or to the
coordinators changes that, and every coordinator counts the receivers that are left
(`isAccounted_after`).
-/

set_option autoImplicit false
set_option relaxedAutoImplicit false

namespace WebGateway.Service

namespace ShutdownHub

/-! ### A hub and its ledger -/

/-- A receiver has passed what its account says it was given or has missed, and nothing else. -/
structure IsBalanced (sent : Nat) (receiver : Receiver) (account : Account) : Prop where
  passed_le : receiver.passed ≤ sent
  balance : account.triggered + receiver.passed = account.delivered + account.missed + sent

/-- A hub with one channel and the ledger that was kept of it. -/
structure Agrees (hub : ShutdownHub) (ledger : Ledger) : Prop where
  length_pos : 0 < hub.sent.length
  channel_of_coordinator : ∀ entry ∈ hub.coordinators, entry.2 = 0
  channel_of_receiver : ∀ entry ∈ hub.receivers, entry.2.channel = 0
  nodup_receivers : (hub.receivers.map Prod.fst).Nodup
  alive_eq : ∀ name, ledger.alive name = (hub.coordinators.lookup name).isSome
  accounts : ∀ name,
    Option.Rel (IsBalanced (hub.sentOver 0)) (hub.receivers.lookup name) (ledger.account name)

theorem mem_of_mem_assign {α : Type} {name : String} {value : α} {entries : List (String × α)}
    {entry : String × α} (h : entry ∈ assign name value entries) :
    entry = (name, value) ∨ entry ∈ entries := by
  obtain rfl | hold := List.mem_cons.mp h
  · exact .inl rfl
  · exact .inr (List.mem_of_mem_filter hold)

namespace IsBalanced

variable {sent : Nat} {receiver : Receiver} {account : Account}

theorem opened (channel sent : Nat) : IsBalanced sent ⟨channel, sent⟩ .opened where
  passed_le := Nat.le_refl sent
  balance := rfl

theorem trigger (h : IsBalanced sent receiver account) :
    IsBalanced (sent + 1) receiver account.trigger where
  passed_le := Nat.le_succ_of_le h.passed_le
  balance := by
    have hbalance := h.balance
    show account.triggered + 1 + receiver.passed = account.delivered + account.missed + (sent + 1)
    omega

/-- What the receiver has not read is what is pending on its account. -/
theorem unread (h : IsBalanced sent receiver account) :
    sent - receiver.passed = account.pending := by
  have hpassed := h.passed_le
  have hbalance := h.balance
  unfold Account.pending
  omega

theorem pending_add (h : IsBalanced sent receiver account) :
    account.delivered + account.missed + account.pending = account.triggered := by
  have hpassed := h.passed_le
  have hbalance := h.balance
  unfold Account.pending
  omega

end IsBalanced

section Receive

variable {hub : ShutdownHub} {receiver : Receiver} {account : Account}

theorem receive_of_pending_eq_zero (hchannel : receiver.channel = 0)
    (h : IsBalanced (hub.sentOver 0) receiver account) (hpending : account.pending = 0) :
    hub.receive receiver = (if hub.isOpen 0 then .empty else .closed, receiver) := by
  rw [receive, hchannel, h.unread, if_pos hpending]

theorem receive_of_pending_eq_one (hchannel : receiver.channel = 0)
    (h : IsBalanced (hub.sentOver 0) receiver account) (hpending : account.pending = 1) :
    hub.receive receiver = (.signal, { receiver with passed := receiver.passed + 1 }) := by
  rw [receive, hchannel, h.unread, hpending]
  rfl

/-- There is room for one signal, so all that are pending but the last are missed. -/
theorem receive_of_two_le (hchannel : receiver.channel = 0)
    (h : IsBalanced (hub.sentOver 0) receiver account) (hpending : 2 ≤ account.pending) :
    hub.receive receiver =
      (.lagged (account.pending - 1),
        { receiver with passed := receiver.passed + (account.pending - 1) }) := by
  have hroom : capacity < account.pending := hpending
  rw [receive, hchannel, h.unread, if_neg (by omega), if_pos hroom]
  rfl

/-- A receiver is told what it is due. -/
theorem receive_fst (hchannel : receiver.channel = 0)
    (h : IsBalanced (hub.sentOver 0) receiver account) :
    (hub.receive receiver).1 = account.next (hub.isOpen 0) := by
  obtain hzero | hone | htwo : account.pending = 0 ∨ account.pending = 1 ∨ 2 ≤ account.pending := by
    omega
  · rw [receive_of_pending_eq_zero hchannel h hzero, Account.next_of_pending_eq_zero hzero]
  · rw [receive_of_pending_eq_one hchannel h hone, Account.next_of_pending_eq_one hone]
  · rw [receive_of_two_le hchannel h htwo, Account.next_of_two_le htwo]

theorem channel_receive_snd (hub : ShutdownHub) (receiver : Receiver) :
    (hub.receive receiver).2.channel = receiver.channel := by
  unfold receive
  dsimp only
  split_ifs <;> rfl

/-- What it is told is entered on its account, and the account is balanced again. -/
theorem isBalanced_receive_snd (hchannel : receiver.channel = 0)
    (h : IsBalanced (hub.sentOver 0) receiver account) :
    IsBalanced (hub.sentOver 0) (hub.receive receiver).2
      (account.told (hub.receive receiver).1) := by
  have hpassed := h.passed_le
  have hbalance := h.balance
  have hunread := h.unread
  obtain hzero | hone | htwo : account.pending = 0 ∨ account.pending = 1 ∨ 2 ≤ account.pending := by
    omega
  · rw [receive_of_pending_eq_zero hchannel h hzero]
    split_ifs
    · exact h
    · exact h
  · rw [receive_of_pending_eq_one hchannel h hone]
    constructor
    · show receiver.passed + 1 ≤ hub.sentOver 0
      omega
    · show account.triggered + (receiver.passed + 1) =
        account.delivered + 1 + account.missed + hub.sentOver 0
      omega
  · rw [receive_of_two_le hchannel h htwo]
    constructor
    · show receiver.passed + (account.pending - 1) ≤ hub.sentOver 0
      omega
    · show account.triggered + (receiver.passed + (account.pending - 1)) =
        account.delivered + (account.missed + (account.pending - 1)) + hub.sentOver 0
      omega

end Receive

namespace Agrees

variable {hub : ShutdownHub} {ledger : Ledger}

theorem initial (main : String) : Agrees (initial main) (.opening main) where
  length_pos := Nat.one_pos
  channel_of_coordinator := by
    intro entry hentry
    rw [List.mem_singleton.mp hentry]
  channel_of_receiver := by
    intro entry hentry
    exact absurd hentry List.not_mem_nil
  nodup_receivers := List.nodup_nil
  alive_eq := by
    intro name
    show Function.update (fun _ ↦ false) main true name = (List.lookup name [(main, 0)]).isSome
    rw [Function.update_apply]
    split_ifs with hname
    · simp [hname]
    · simp [List.lookup_cons, beq_false_of_ne hname]
  accounts := fun _ ↦ .none

/-- A coordinator that is left is one of the one channel. -/
theorem lookup_of_alive (h : Agrees hub ledger) {name : String}
    (halive : ledger.alive name = true) : hub.coordinators.lookup name = some 0 := by
  rw [h.alive_eq] at halive
  obtain ⟨channel, hlookup⟩ := Option.isSome_iff_exists.mp halive
  have hchannel : channel = 0 :=
    h.channel_of_coordinator _ (Entries.mem_of_lookup_eq_some hlookup)
  rw [hlookup, hchannel]

theorem lookup_of_not_alive (h : Agrees hub ledger) {name : String}
    (halive : ¬ledger.alive name = true) : hub.coordinators.lookup name = none := by
  rwa [h.alive_eq, Option.not_isSome_iff_eq_none] at halive

theorem isOpen_iff (h : Agrees hub ledger) :
    hub.isOpen 0 = true ↔ ∃ name, ledger.alive name = true := by
  unfold isOpen
  rw [List.any_eq_true]
  constructor
  · rintro ⟨entry, hentry, -⟩
    refine ⟨entry.1, ?_⟩
    rw [h.alive_eq, Entries.isSome_lookup_iff]
    exact List.mem_map_of_mem hentry
  · rintro ⟨name, hname⟩
    rw [h.alive_eq, Entries.isSome_lookup_iff] at hname
    obtain ⟨entry, hentry, -⟩ := List.mem_map.mp hname
    exact ⟨entry, hentry, decide_eq_true (h.channel_of_coordinator entry hentry)⟩

theorem receiverCount_eq (h : Agrees hub ledger) :
    hub.receiverCount 0 = hub.receivers.length := by
  unfold receiverCount
  rw [List.countP_eq_length]
  intro entry hentry
  exact decide_eq_true (h.channel_of_receiver entry hentry)

/-- Every coordinator that is left counts the receivers that are. -/
theorem lookup_receiverCounts (h : Agrees hub ledger) {name : String}
    (halive : ledger.alive name = true) :
    hub.receiverCounts.lookup name = some (hub.receivers.map Prod.fst).length := by
  unfold receiverCounts
  rw [Entries.lookup_map, h.lookup_of_alive halive, Option.map_some, h.receiverCount_eq,
    List.length_map]

theorem isSome_account_iff (h : Agrees hub ledger) (name : String) :
    (ledger.account name).isSome ↔ name ∈ hub.receivers.map Prod.fst := by
  have hrel := h.accounts name
  rw [← Entries.isSome_lookup_iff]
  generalize hub.receivers.lookup name = found at hrel ⊢
  generalize ledger.account name = account at hrel ⊢
  cases hrel with
  | none => rfl
  | some _ => rfl

/-- A receiver with an account is there, and the two are balanced. -/
theorem exists_receiver (h : Agrees hub ledger) {name : String} {account : Account}
    (haccount : ledger.account name = some account) :
    ∃ receiver, hub.receivers.lookup name = some receiver ∧ receiver.channel = 0 ∧
      IsBalanced (hub.sentOver 0) receiver account := by
  have hrel := h.accounts name
  rw [haccount] at hrel
  generalize hlookup : hub.receivers.lookup name = found at hrel ⊢
  cases hrel with
  | @some receiver _ hbalanced =>
    have hchannel : receiver.channel = 0 :=
      h.channel_of_receiver _ (Entries.mem_of_lookup_eq_some hlookup)
    exact ⟨receiver, rfl, hchannel, hbalanced⟩

/-! Each step is entered in the ledger as it is done in the hub. -/

/-- The coordinators change as the ledger says, and nothing else does. -/
theorem withCoordinators (h : Agrees hub ledger) {coordinators : List (String × Nat)}
    {alive : String → Bool} (hchannel : ∀ entry ∈ coordinators, entry.2 = 0)
    (halive : ∀ name, alive name = (coordinators.lookup name).isSome) :
    Agrees { hub with coordinators := coordinators } { ledger with alive := alive } where
  length_pos := h.length_pos
  channel_of_coordinator := hchannel
  channel_of_receiver := h.channel_of_receiver
  nodup_receivers := h.nodup_receivers
  alive_eq := halive
  accounts := h.accounts

theorem clone (h : Agrees hub ledger) (copy : String) :
    Agrees { hub with coordinators := assign copy 0 hub.coordinators }
      { ledger with alive := Function.update ledger.alive copy true } := by
  apply h.withCoordinators
  · intro entry hentry
    obtain rfl | hold := mem_of_mem_assign hentry
    · rfl
    · exact h.channel_of_coordinator entry hold
  · intro name
    rw [assign, Entries.lookup_cons_filter, Function.update_apply]
    split_ifs
    · rfl
    · exact h.alive_eq name

theorem release (h : Agrees hub ledger) (coordinator : String) :
    Agrees { hub with coordinators := remove coordinator hub.coordinators }
      { ledger with alive := Function.update ledger.alive coordinator false } := by
  apply h.withCoordinators
  · intro entry hentry
    exact h.channel_of_coordinator entry (List.mem_of_mem_filter hentry)
  · intro name
    rw [remove, Entries.lookup_filter, Function.update_apply]
    split_ifs
    · rfl
    · exact h.alive_eq name

/-- A receiver is put under a name with an account to which it is balanced. -/
theorem assignReceiver (h : Agrees hub ledger) (name : String) {receiver : Receiver}
    {account : Account} (hchannel : receiver.channel = 0)
    (hbalanced : IsBalanced (hub.sentOver 0) receiver account) :
    Agrees { hub with receivers := assign name receiver hub.receivers }
      { ledger with account := Function.update ledger.account name (some account) } where
  length_pos := h.length_pos
  channel_of_coordinator := h.channel_of_coordinator
  channel_of_receiver := by
    intro entry hentry
    obtain rfl | hold := mem_of_mem_assign hentry
    · exact hchannel
    · exact h.channel_of_receiver entry hold
  nodup_receivers := Entries.nodup_names_cons_filter h.nodup_receivers name receiver
  alive_eq := h.alive_eq
  accounts := by
    intro other
    show Option.Rel (IsBalanced (hub.sentOver 0))
      ((assign name receiver hub.receivers).lookup other)
      (Function.update ledger.account name (some account) other)
    rw [assign, Entries.lookup_cons_filter, Function.update_apply]
    split_ifs
    · exact .some hbalanced
    · exact h.accounts other

theorem drop (h : Agrees hub ledger) (name : String) :
    Agrees { hub with receivers := remove name hub.receivers }
      { ledger with account := Function.update ledger.account name none } where
  length_pos := h.length_pos
  channel_of_coordinator := h.channel_of_coordinator
  channel_of_receiver := by
    intro entry hentry
    exact h.channel_of_receiver entry (List.mem_of_mem_filter hentry)
  nodup_receivers := Entries.nodup_names_filter h.nodup_receivers name
  alive_eq := h.alive_eq
  accounts := by
    intro other
    show Option.Rel (IsBalanced (hub.sentOver 0)) ((remove name hub.receivers).lookup other)
      (Function.update ledger.account name none other)
    rw [remove, Entries.lookup_filter, Function.update_apply]
    split_ifs
    · exact .none
    · exact h.accounts other

/-- A signal is sent to every receiver there is; without any, no account takes note of it. -/
theorem trigger (h : Agrees hub ledger) :
    Agrees (hub.trigger 0)
      { ledger with account := fun receiver ↦ (ledger.account receiver).map .trigger } := by
  unfold ShutdownHub.trigger
  rw [h.receiverCount_eq]
  split_ifs with hnone
  · have hreceivers : hub.receivers = [] := List.length_eq_zero_iff.mp hnone
    have haccount : ∀ name, ledger.account name = none := by
      intro name
      rw [← Option.not_isSome_iff_eq_none, h.isSome_account_iff, hreceivers]
      exact List.not_mem_nil
    refine { h with accounts := ?_ }
    intro name
    show Option.Rel _ (hub.receivers.lookup name) ((ledger.account name).map Account.trigger)
    rw [haccount, hreceivers]
    exact .none
  · have hsent : (hub.sent.set 0 (hub.sentOver 0 + 1)).getD 0 0 = hub.sentOver 0 + 1 := by
      rw [List.getD_eq_getElem?_getD, List.getElem?_set_self h.length_pos, Option.getD_some]
    exact {
      length_pos := by simpa using h.length_pos
      channel_of_coordinator := h.channel_of_coordinator
      channel_of_receiver := h.channel_of_receiver
      nodup_receivers := h.nodup_receivers
      alive_eq := h.alive_eq
      accounts := by
        intro name
        have hrel := h.accounts name
        show Option.Rel (IsBalanced ((hub.sent.set 0 (hub.sentOver 0 + 1)).getD 0 0))
          (hub.receivers.lookup name) ((ledger.account name).map .trigger)
        rw [hsent]
        generalize hub.receivers.lookup name = found at hrel ⊢
        generalize ledger.account name = account at hrel ⊢
        cases hrel with
        | none => exact .none
        | some hbalanced => exact .some hbalanced.trigger }

/-- A receiver that is not there has no account, and one that is there reads what it is due. -/
theorem receive (h : Agrees hub ledger) (name : String) :
    Agrees (hub.step (.receive name)).2
      (ledger.enter (.receive name, (hub.step (.receive name)).1)) := by
  cases haccount : ledger.account name with
  | none =>
    have hlookup : hub.receivers.lookup name = none := by
      rw [← Option.not_isSome_iff_eq_none, Entries.isSome_lookup_iff, ← h.isSome_account_iff,
        haccount]
      exact Bool.false_ne_true
    simp only [step, hlookup, Ledger.enter, haccount, Option.map_none]
    rw [← haccount, Function.update_eq_self]
    exact h
  | some account =>
    obtain ⟨receiver, hlookup, hchannel, hbalanced⟩ := h.exists_receiver haccount
    simp only [step, hlookup, Ledger.enter, haccount, Option.map_some]
    apply h.assignReceiver
    · rw [channel_receive_snd, hchannel]
    · exact isBalanced_receive_snd hchannel hbalanced

/-- What is done with a coordinator is done over the one channel if the coordinator is left. -/
theorem through (h : Agrees hub ledger) (coordinator : String) {act : Nat → ShutdownHub}
    {entered : Ledger} (hact : Agrees (act 0) entered) :
    Agrees (hub.withCoordinator coordinator act).2 (ledger.through coordinator entered) := by
  unfold withCoordinator Ledger.through
  split_ifs with halive
  · rw [h.lookup_of_alive halive]
    exact hact
  · rw [h.lookup_of_not_alive halive]
    exact h

/-- A hub and its ledger agree after a step. -/
theorem step (h : Agrees hub ledger) {step : ShutdownStep}
    (hone : ∀ coordinator fresh, step ≠ .create coordinator fresh) :
    Agrees (hub.step step).2 (ledger.enter (step, (hub.step step).1)) := by
  cases step with
  | subscribe coordinator receiver =>
    exact h.through coordinator (h.assignReceiver receiver rfl (.opened 0 _))
  | trigger coordinator => exact h.through coordinator h.trigger
  | clone coordinator copy => exact h.through coordinator (h.clone copy)
  | create coordinator fresh => exact absurd rfl (hone coordinator fresh)
  | release coordinator => exact h.through coordinator (h.release coordinator)
  | receive receiver => exact h.receive receiver
  | drop receiver => exact h.drop receiver

/-- A hub and its ledger agree after every run over one channel. -/
theorem after (h : Agrees hub ledger) {steps : List ShutdownStep}
    (hone : ∀ coordinator fresh, .create coordinator fresh ∉ steps) :
    Agrees (hub.after steps) (ledger.enterAll (hub.record steps)) := by
  induction steps generalizing hub ledger with
  | nil => exact h
  | cons step rest ih =>
    have hstep : ∀ coordinator fresh, step ≠ .create coordinator fresh := by
      rintro coordinator fresh rfl
      exact hone coordinator fresh List.mem_cons_self
    apply ih (h.step hstep)
    intro coordinator fresh hmem
    exact hone coordinator fresh (List.mem_cons_of_mem step hmem)

end Agrees

/-! ### What a receiver is told -/

section Run

variable {main : String} {steps : List ShutdownStep} {receiver : String} {account : Account}

theorem agrees_ledgerAfter (hone : ∀ coordinator fresh, .create coordinator fresh ∉ steps) :
    Agrees ((initial main).after steps) (ledgerAfter main steps) :=
  (Agrees.initial main).after hone

/-- The answer to a receiver is what its account says. -/
theorem answerAfter_eq (hone : ∀ coordinator fresh, .create coordinator fresh ∉ steps)
    (haccount : (ledgerAfter main steps).account receiver = some account) :
    answerAfter main steps receiver = account.next (((initial main).after steps).isOpen 0) := by
  obtain ⟨found, hlookup, hchannel, hbalanced⟩ :=
    (agrees_ledgerAfter hone).exists_receiver haccount
  unfold answerAfter
  simp only [step, hlookup]
  exact receive_fst hchannel hbalanced

theorem create_not_mem_append {more : List ShutdownStep}
    (hone : ∀ coordinator fresh, .create coordinator fresh ∉ steps)
    (hmore : ∀ coordinator fresh, .create coordinator fresh ∉ more) (coordinator fresh : String) :
    .create coordinator fresh ∉ steps ++ more := by
  rw [List.mem_append, not_or]
  exact ⟨hone coordinator fresh, hmore coordinator fresh⟩

end Run

/-- Whatever happens to others until it reads, a receiver is told what its account says. -/
structure IsAccounted (main : String) (steps : List ShutdownStep) (receiver : String)
    (account : Account) : Prop where
  balance : account.delivered + account.missed + account.pending = account.triggered
  /-- No other receiver, and no coordinator that is copied or released, changes the account. -/
  account_eq : ∀ idle, IsQuiet receiver idle →
    (ledgerAfter main (steps ++ idle)).account receiver = some account
  signal : account.pending = 1 → ∀ idle, IsQuiet receiver idle →
    answerAfter main (steps ++ idle) receiver = .signal
  lagged : 2 ≤ account.pending → ∀ idle, IsQuiet receiver idle →
    answerAfter main (steps ++ idle) receiver = .lagged (account.pending - 1)
  /-- Once it was told how many it has missed, it gets the one that was kept. -/
  signal_of_lagged : 2 ≤ account.pending → ∀ idle later, IsQuiet receiver idle →
    IsQuiet receiver later →
      answerAfter main (steps ++ idle ++ .receive receiver :: later) receiver = .signal
  empty : account.pending = 0 → ∀ idle, IsQuiet receiver idle → ∀ coordinator,
    (ledgerAfter main (steps ++ idle)).alive coordinator = true →
      answerAfter main (steps ++ idle) receiver = .empty
  closed : account.pending = 0 → ∀ idle, IsQuiet receiver idle →
    (∀ coordinator, (ledgerAfter main (steps ++ idle)).alive coordinator = false) →
      answerAfter main (steps ++ idle) receiver = .closed

section Main

variable {main : String} {steps : List ShutdownStep}

theorem isAccounted_of_account {receiver : String} {account : Account}
    (hone : ∀ coordinator fresh, .create coordinator fresh ∉ steps)
    (haccount : (ledgerAfter main steps).account receiver = some account) :
    IsAccounted main steps receiver account := by
  have hidleOne : ∀ idle, IsQuiet receiver idle →
      ∀ coordinator fresh, .create coordinator fresh ∉ steps ++ idle :=
    fun idle hidle ↦ create_not_mem_append hone hidle.create_not_mem
  have hkept : ∀ idle, IsQuiet receiver idle →
      (ledgerAfter main (steps ++ idle)).account receiver = some account :=
    fun idle hidle ↦ (account_ledgerAfter_append hidle).trans haccount
  have hnext : ∀ idle, IsQuiet receiver idle → answerAfter main (steps ++ idle) receiver =
      account.next (((initial main).after (steps ++ idle)).isOpen 0) :=
    fun idle hidle ↦ answerAfter_eq (hidleOne idle hidle) (hkept idle hidle)
  have hisOpen : ∀ idle, IsQuiet receiver idle →
      (((initial main).after (steps ++ idle)).isOpen 0 = true ↔
        ∃ coordinator, (ledgerAfter main (steps ++ idle)).alive coordinator = true) :=
    fun idle hidle ↦ (agrees_ledgerAfter (hidleOne idle hidle)).isOpen_iff
  constructor
  case balance =>
    obtain ⟨_, -, -, hbalanced⟩ := (agrees_ledgerAfter hone).exists_receiver haccount
    exact hbalanced.pending_add
  case account_eq => exact hkept
  case signal =>
    intro hpending idle hidle
    rw [hnext idle hidle, Account.next_of_pending_eq_one hpending]
  case lagged =>
    intro hpending idle hidle
    rw [hnext idle hidle, Account.next_of_two_le hpending]
  case signal_of_lagged =>
    intro hpending idle later hidle hlater
    have hread : ∀ coordinator fresh,
        ShutdownStep.create coordinator fresh ∉ [ShutdownStep.receive receiver] := by
      intro coordinator fresh
      simp
    have htold : (ledgerAfter main (steps ++ idle ++ [.receive receiver] ++ later)).account
        receiver = some (account.told (.lagged (account.pending - 1))) := by
      rw [account_ledgerAfter_append hlater, account_ledgerAfter_receive, hkept idle hidle,
        hnext idle hidle, Account.next_of_two_le hpending, Option.map_some]
    have hmore := create_not_mem_append (create_not_mem_append (hidleOne idle hidle) hread)
      hlater.create_not_mem
    rw [List.append_cons, answerAfter_eq hmore htold,
      Account.next_of_pending_eq_one (Account.pending_told_lagged hpending)]
  case empty =>
    intro hpending idle hidle coordinator halive
    rw [hnext idle hidle, Account.next_of_pending_eq_zero hpending,
      if_pos ((hisOpen idle hidle).mpr ⟨coordinator, halive⟩)]
  case closed =>
    intro hpending idle hidle hdead
    have hclosed : ¬((initial main).after (steps ++ idle)).isOpen 0 = true := by
      rw [hisOpen idle hidle]
      rintro ⟨coordinator, halive⟩
      exact Bool.false_ne_true ((hdead coordinator).symm.trans halive)
    rw [hnext idle hidle, Account.next_of_pending_eq_zero hpending, if_neg hclosed]

/-- After every run over one channel, each receiver that is left is told what its account says; one
that subscribes then starts with nothing on its account; and every coordinator that is left counts
the receivers that are left. -/
theorem isAccounted_after (main : String) {steps : List ShutdownStep}
    (hone : ∀ coordinator fresh, .create coordinator fresh ∉ steps) :
    (∀ receiver account, (ledgerAfter main steps).account receiver = some account →
      IsAccounted main steps receiver account) ∧
    (∀ coordinator receiver, (ledgerAfter main steps).alive coordinator = true →
      IsAccounted main (steps ++ [.subscribe coordinator receiver]) receiver .opened) ∧
    ∃ live : List String, live.Nodup ∧
      (∀ receiver, receiver ∈ live ↔ ((ledgerAfter main steps).account receiver).isSome) ∧
      ∀ coordinator, (ledgerAfter main steps).alive coordinator = true →
        ((initial main).after steps).receiverCounts.lookup coordinator = some live.length := by
  have hagrees : Agrees ((initial main).after steps) (ledgerAfter main steps) :=
    agrees_ledgerAfter hone
  refine ⟨?_, ?_, ((initial main).after steps).receivers.map Prod.fst, hagrees.nodup_receivers,
    ?_, ?_⟩
  · intro receiver account haccount
    exact isAccounted_of_account hone haccount
  · intro coordinator receiver halive
    refine isAccounted_of_account (create_not_mem_append hone ?_)
      (account_ledgerAfter_subscribe halive)
    simp
  · intro receiver
    exact (hagrees.isSome_account_iff receiver).symm
  · intro coordinator halive
    exact hagrees.lookup_receiverCounts halive

/-- A late receiver beside one that has read nothing, and in the end no coordinator. -/
def releasedSteps : List ShutdownStep :=
  [ .subscribe mainCoordinator serverReceiver, .clone mainCoordinator "spare", .trigger "spare",
    .subscribe "spare" "late", .trigger mainCoordinator, .trigger "spare", .receive "late",
    .release mainCoordinator, .release "spare" ]

theorem isAccounted_releasedSteps :
    answerAfter mainCoordinator releasedSteps serverReceiver = .lagged 2 ∧
      answerAfter mainCoordinator (releasedSteps ++ [.receive serverReceiver]) serverReceiver =
        .signal ∧
      answerAfter mainCoordinator releasedSteps "late" = .signal := by
  have hone : ∀ coordinator fresh, .create coordinator fresh ∉ releasedSteps := by
    intro coordinator fresh
    simp [releasedSteps]
  have hquiet : ∀ receiver, IsQuiet receiver [] := fun receiver ↦ List.forall_mem_nil _
  obtain ⟨haccounted, -, -⟩ := isAccounted_after mainCoordinator hone
  have hserver : IsAccounted mainCoordinator releasedSteps serverReceiver ⟨3, 0, 0⟩ :=
    haccounted serverReceiver ⟨3, 0, 0⟩ rfl
  have hlate : IsAccounted mainCoordinator releasedSteps "late" ⟨2, 0, 1⟩ :=
    haccounted "late" ⟨2, 0, 1⟩ rfl
  refine ⟨?_, ?_, ?_⟩
  · exact hserver.lagged (by decide) [] (hquiet serverReceiver)
  · exact hserver.signal_of_lagged (by decide) [] [] (hquiet serverReceiver) (hquiet serverReceiver)
  · exact hlate.signal rfl [] (hquiet "late")

end Main

end ShutdownHub

end WebGateway.Service
