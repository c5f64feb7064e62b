import Mathlib.Data.List.Induction

/-!
# Traces of a system that answers calls

A system answers a call in a state and goes on in another.  A trace is what a sequence of calls
leaves: for each call the state before it, the call, the reply, and the state after it.  What holds
before the first call and is kept by each single call holds after all of them, together with what
the trace says of them.
-/

namespace WorkGate.Trace

variable {State Call Reply : Type}

/-- One call: the state it was made in, its reply, and the state it left. -/
structure Entry (State Call Reply : Type) where
  before : State
  call : Call
  reply : Reply
  after : State

section

variable (perform : State → Call → Reply × State)

/-- What a call leaves in the trace. -/
def entry (state : State) (call : Call) : Entry State Call Reply where
  before := state
  call
  reply := (perform state call).1
  after := (perform state call).2

/-- The state that the calls lead to. -/
def run (state : State) (calls : List Call) : State :=
  calls.foldl (fun state call => (perform state call).2) state

/-- The entries of the calls, the earliest first. -/
def history (state : State) : List Call → List (Entry State Call Reply)
  | [] => []
  | call :: rest => entry perform state call :: history (perform state call).2 rest

variable (state : State)

theorem run_concat (calls : List Call) (call : Call) :
    run perform state (calls ++ [call]) = (perform (run perform state calls) call).2 := by
  simp [run]

theorem history_append (calls later : List Call) :
    history perform state (calls ++ later) =
      history perform state calls ++ history perform (run perform state calls) later := by
  induction calls generalizing state with
  | nil => rfl
  | cons call rest induction => exact congrArg (_ :: ·) (induction _)

theorem history_concat (calls : List Call) (call : Call) :
    history perform state (calls ++ [call]) =
      history perform state calls ++ [entry perform (run perform state calls) call] :=
  history_append perform state calls [call]

end

variable {perform : State → Call → Reply × State} {start : State}

/-- What holds at first and is kept by every call holds after all calls. -/
theorem invariant
    {motive : List (Entry State Call Reply) → State → Prop}
    (first : motive [] start)
    (next :
      ∀ history state call,
        motive history state →
          motive (history ++ [entry perform state call]) (perform state call).2)
    (calls : List Call) :
    motive (history perform start calls) (run perform start calls) := by
  -- From the end, since one more call appends one entry.
  induction calls using List.reverseRecOn with
  | nil => exact first
  | append_singleton calls call induction =>
      rw [history_concat, run_concat]
      exact next _ _ _ induction

/-- An entry of a trace was left by a call in the state that the calls before it led to. -/
theorem exists_call_of_split
    {calls : List Call}
    {earlier later : List (Entry State Call Reply)}
    {made : Entry State Call Reply}
    (split : history perform start calls = earlier ++ made :: later) :
    ∃ before call,
      earlier = history perform start before ∧
        made = entry perform (run perform start before) call := by
  induction calls generalizing start earlier with
  | nil => simp [history] at split
  | cons call rest induction =>
      cases earlier with
      | nil =>
          obtain ⟨same, -⟩ := List.cons.inj split
          exact ⟨[], call, rfl, same.symm⟩
      | cons first earlier =>
          obtain ⟨rfl, sameRest⟩ := List.cons.inj split
          obtain ⟨before, last, rfl, rfl⟩ := induction sameRest
          exact ⟨call :: before, last, rfl, rfl⟩

end WorkGate.Trace
