import DirectionField.Journal
/-!
# Effects of operations on a session
-/

namespace DirectionField

/-- What an operation on a session gives: the session afterwards, the result or the fault that cut
the operation short, and the events on the way. -/
structure Effect (σ α β : Type) where
  session : σ
  result : Except Fault β
  events : List (Event α)

/-- An operation followed by another one, which is not reached after a fault. -/
def Effect.bind {σ α β γ : Type} (e : Effect σ α β) (next : σ → β → Effect σ α γ) : Effect σ α γ :=
  match e.result with
  | .error f => ⟨e.session, .error f, e.events⟩
  | .ok b =>
    let r := next e.session b
    ⟨r.session, r.result, e.events ++ r.events⟩

end DirectionField
