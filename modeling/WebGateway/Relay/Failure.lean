import WebGateway.Http.Response

/-!
# Failed exchanges with the API server

A failed exchange is described by a chain of errors, the outermost first. The gateway walks along
the sources of the chain and answers 504 when it meets an error of input or output that timed out,
and 502 otherwise. The source of an error of input or output that wraps another one is the source
of the wrapped one, so the walk passes over what it wraps.
-/

set_option autoImplicit false
set_option relaxedAutoImplicit false

namespace WebGateway.Relay

open Http (Response)

/-- What an error of input or output is about. -/
inductive IoKind where
  | timedOut
  | other
deriving DecidableEq, Repr

/-- One layer of an error chain. -/
inductive ErrorLayer where
  /-- an error with a text, caused by the next layer -/
  | plain (text : String)
  /-- an error of input or output that wraps the next layer -/
  | io (kind : IoKind)
  /-- an error that the operating system numbers; nothing lies below it -/
  | system (number : Int)
deriving DecidableEq, Repr

/-- The number of the system error for a time that ran out. -/
def timedOutNumber : Int :=
  110

def ErrorLayer.isTimeout : ErrorLayer → Bool
  | plain _ => false
  | io kind => kind = .timedOut
  | system number => number = timedOutNumber

/-- A chain of errors, the outermost first. -/
abbrev ErrorChain :=
  List ErrorLayer

namespace ErrorChain

/-- The chain of the source of the outermost error. -/
def source : ErrorChain → ErrorChain
  | [] => []
  | .plain _ :: rest => rest
  | .system _ :: _ => []
  | .io _ :: rest => source rest

theorem length_source_lt {chain : ErrorChain} (h : chain ≠ []) :
    chain.source.length < chain.length := by
  induction chain with
  | nil => exact absurd rfl h
  | cons layer rest ih =>
    cases layer with
    | plain _ => exact Nat.lt_succ_self _
    | system _ => exact Nat.succ_pos _
    | io _ =>
      by_cases hrest : rest = []
      · subst hrest
        exact Nat.succ_pos _
      · exact Nat.lt_succ_of_lt (ih hrest)

/-- Some layer on the walk along the sources timed out. -/
def timesOut : ErrorChain → Bool
  | [] => false
  | layer :: rest => layer.isTimeout || timesOut (source (layer :: rest))
termination_by chain => chain.length
decreasing_by exact length_source_lt (List.cons_ne_nil _ _)

/-- The status of the answer to a failed exchange. -/
def status (chain : ErrorChain) : Nat :=
  if chain.timesOut then 504 else 502

/-- The answer to a failed exchange. -/
def response (chain : ErrorChain) : Response :=
  .ofText chain.status
    (if chain.status = 504 then "Upstream request timed out" else "Upstream request failed")

variable {chain : ErrorChain}

theorem status_of_timesOut (h : chain.timesOut = true) :
    chain.status = 504 ∧ chain.response = .ofText 504 "Upstream request timed out" := by
  have hstatus : chain.status = 504 := if_pos h
  refine ⟨hstatus, ?_⟩
  rw [response, hstatus, if_pos rfl]

theorem status_of_not_timesOut (h : ¬chain.timesOut = true) :
    chain.status = 502 ∧ chain.response = .ofText 502 "Upstream request failed" := by
  have hstatus : chain.status = 502 := if_neg h
  refine ⟨hstatus, ?_⟩
  rw [response, hstatus, if_neg (by decide)]

end ErrorChain

end WebGateway.Relay
