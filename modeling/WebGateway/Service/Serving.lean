import WebGateway.Service.ShutdownHub
import WebGateway.Service.Start

/-!
# From the first connection to the last

A gateway that listens waits for the shutdown signal with a receiver of its own. When the signal is
sent, the gateway takes it, stops, and lets go of its receiver.
-/

set_option autoImplicit false
set_option relaxedAutoImplicit false

namespace WebGateway.Service

open Logging (Event)

/-- The signals of the operating system that end a gateway. -/
inductive OsSignal where
  | interrupt
  | terminate
deriving DecidableEq, Repr

def OsSignal.name : OsSignal → String
  | interrupt => "SIGINT"
  | terminate => "SIGTERM"

/-- The coordinator through which a gateway is stopped. -/
def mainCoordinator : String :=
  "main"

/-- The receiver of the gateway itself. -/
def serverReceiver : String :=
  "server"

namespace ShutdownHub

/-- The hub after some steps. -/
def after (hub : ShutdownHub) (steps : List ShutdownStep) : ShutdownHub :=
  steps.foldl (fun hub step ↦ (hub.step step).2) hub

/-- The hub while a gateway serves. -/
def serving : ShutdownHub :=
  (initial mainCoordinator).after [.subscribe mainCoordinator serverReceiver]

/-- The hub after the gateway has stopped. -/
def stopped : ShutdownHub :=
  serving.after [.trigger mainCoordinator, .receive serverReceiver, .drop serverReceiver]

/-- The number of receivers that wait for the main coordinator. -/
def waiting (hub : ShutdownHub) : Nat :=
  (hub.receiverCounts.lookup mainCoordinator).getD 0

end ShutdownHub

namespace Running

/-- What is reported between the start of a gateway and its end by a signal. -/
def events (running : Running) (signal : OsSignal) : List Event :=
  let address := ("address", running.socket.toText)
  [ ⟨.info, "libre_webui", "Accepting connections", [address]⟩,
    ⟨.info, "libre_webui::http::server", "HTTP server starting",
      [address, ("tls", toString running.isTls)]⟩,
    ⟨.info, "libre_webui::lifecycle::signals", "Signal received",
      [("signal", Text.quoted signal.name.toList)]⟩,
    ⟨.info, "libre_webui::http::server", "Shutdown signal received", []⟩,
    ⟨.info, "libre_webui::http::server", "HTTP server stopped", []⟩,
    ⟨.info, "libre_webui", "Shutdown complete", []⟩ ]

end Running

end WebGateway.Service
