/-!
# Shutdown signals

Coordinators send the shutdown signal over channels; receivers wait for it. Several coordinators can
be handles of one channel. A channel keeps only the last signals, as many as it has room for
(`ShutdownHub.capacity`): a receiver that missed some is told how many, once, and then gets those
that were kept. A signal without receivers is lost. A receiver
finds its channel closed when no coordinator of it is left and nothing is left to read.

A channel is described by the number of signals sent over it, and a receiver by how many of them it
has passed.
-/

set_option autoImplicit false
set_option relaxedAutoImplicit false

namespace WebGateway.Service

structure Receiver where
  channel : Nat
  passed : Nat
deriving DecidableEq, Repr

/-- Coordinators and receivers by name, and the number of signals sent over each channel. -/
structure ShutdownHub where
  sent : List Nat
  coordinators : List (String × Nat)
  receivers : List (String × Receiver)
deriving DecidableEq, Repr

/-- What can be done with coordinators and receivers. -/
inductive ShutdownStep where
  | subscribe (coordinator receiver : String)
  | trigger (coordinator : String)
  | clone (coordinator copy : String)
  | create (coordinator fresh : String)
  | release (coordinator : String)
  | receive (receiver : String)
  | drop (receiver : String)
deriving DecidableEq, Repr

inductive ShutdownResult where
  | done
  | missing
  | signal
  | empty
  | closed
  | lagged (missed : Nat)
  | dropped (existed : Bool)
deriving DecidableEq, Repr

namespace ShutdownHub

/-- The number of signals that a channel has room for. -/
def capacity : Nat := 1

/-- One channel with one coordinator. -/
def initial (coordinator : String) : ShutdownHub :=
  ⟨[0], [(coordinator, 0)], []⟩

/-- Puts a value under a name, in the place of the one that was there. -/
def assign {α : Type} (name : String) (value : α) (entries : List (String × α)) :
    List (String × α) :=
  (name, value) :: entries.filter fun entry ↦ entry.1 ≠ name

def remove {α : Type} (name : String) (entries : List (String × α)) : List (String × α) :=
  entries.filter fun entry ↦ entry.1 ≠ name

/-- The number of signals sent over a channel. -/
def sentOver (hub : ShutdownHub) (channel : Nat) : Nat :=
  hub.sent.getD channel 0

/-- The number of receivers of a channel. -/
def receiverCount (hub : ShutdownHub) (channel : Nat) : Nat :=
  hub.receivers.countP fun entry ↦ entry.2.channel = channel

/-- Some coordinator of the channel is left. -/
def isOpen (hub : ShutdownHub) (channel : Nat) : Bool :=
  hub.coordinators.any fun entry ↦ entry.2 = channel

/-- The number of receivers of each coordinator's channel. -/
def receiverCounts (hub : ShutdownHub) : List (String × Nat) :=
  hub.coordinators.map fun entry ↦ (entry.1, hub.receiverCount entry.2)

/-- A new receiver has passed all signals that were sent before. -/
def subscribe (hub : ShutdownHub) (channel : Nat) (receiver : String) : ShutdownHub :=
  { hub with receivers := assign receiver ⟨channel, hub.sentOver channel⟩ hub.receivers }

/-- Sends the signal if somebody can receive it. -/
def trigger (hub : ShutdownHub) (channel : Nat) : ShutdownHub :=
  if hub.receiverCount channel = 0 then hub
  else { hub with sent := hub.sent.set channel (hub.sentOver channel + 1) }

/-- A new channel with a coordinator of its own. -/
def create (hub : ShutdownHub) (coordinator : String) : ShutdownHub :=
  { hub with
    sent := hub.sent ++ [0]
    coordinators := assign coordinator hub.sent.length hub.coordinators }

/-- What a receiver reads, and how many signals it has passed then. The signals for which the
channel had no room left are passed all at once. -/
def receive (hub : ShutdownHub) (receiver : Receiver) : ShutdownResult × Receiver :=
  let unread := hub.sentOver receiver.channel - receiver.passed
  if unread = 0 then (if hub.isOpen receiver.channel then .empty else .closed, receiver)
  else if capacity < unread then
    (.lagged (unread - capacity), { receiver with passed := receiver.passed + (unread - capacity) })
  else (.signal, { receiver with passed := receiver.passed + 1 })

/-- Does something with the channel of a coordinator, if there is one of that name. -/
def withCoordinator (hub : ShutdownHub) (coordinator : String) (act : Nat → ShutdownHub) :
    ShutdownResult × ShutdownHub :=
  match hub.coordinators.lookup coordinator with
  | some channel => (.done, act channel)
  | none => (.missing, hub)

def step (hub : ShutdownHub) : ShutdownStep → ShutdownResult × ShutdownHub
  | .subscribe coordinator receiver =>
    hub.withCoordinator coordinator fun channel ↦ hub.subscribe channel receiver
  | .trigger coordinator => hub.withCoordinator coordinator hub.trigger
  | .clone coordinator copy =>
    hub.withCoordinator coordinator fun channel ↦
      { hub with coordinators := assign copy channel hub.coordinators }
  | .create coordinator fresh => hub.withCoordinator coordinator fun _ ↦ hub.create fresh
  | .release coordinator =>
    hub.withCoordinator coordinator fun _ ↦
      { hub with coordinators := remove coordinator hub.coordinators }
  | .receive name =>
    match hub.receivers.lookup name with
    | some receiver =>
      let (result, moved) := hub.receive receiver
      (result, { hub with receivers := assign name moved hub.receivers })
    | none => (.missing, hub)
  | .drop name =>
    (.dropped (hub.receivers.lookup name).isSome,
      { hub with receivers := remove name hub.receivers })

end ShutdownHub

end WebGateway.Service
