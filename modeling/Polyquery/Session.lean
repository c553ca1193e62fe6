import Polyquery.Error

/-!
# Sessions

An action on a database changes the state of the connection and may fail.  What
was sent before a failure has been sent, so the state is kept when an action
fails.
-/

namespace Polyquery

/-- An action on a connection with states in `σ`. -/
abbrev Session (σ : Type) := ExceptT Error (StateM σ)

namespace Session

variable {σ α : Type}

/-- The result of an action and the state after it. -/
def run (action : Session σ α) (state : σ) : Result α × σ :=
  StateT.run (ExceptT.run action) state

/-- The outcome of an action as a value, so that the action itself does not
fail. -/
def attempt (action : Session σ α) : Session σ (Result α) :=
  fun state => pure (.ok (action.run state).1, (action.run state).2)

/-- A result that needs no connection. -/
def ofResult (result : Result α) : Session σ α :=
  ExceptT.mk (pure result)

end Session

/-- The number of a transaction. -/
abbrev Handle := Nat

/-- The number of a transaction as it is shown. -/
def Handle.display (handle : Handle) : String :=
  "#" ++ toString handle

end Polyquery
