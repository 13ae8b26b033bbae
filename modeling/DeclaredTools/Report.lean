/-
  Reports: the outcome of work that can stop, together with the events up to there.
-/
import DeclaredTools.Event

namespace DeclaredTools

structure Report (ε α : Type) where
  events : List Event
  outcome : Except ε α

namespace Report

variable {ε α β : Type}

/-- A result without any event. -/
def done (a : α) : Report ε α := ⟨[], .ok a⟩

/-- Stops. -/
def stop (e : ε) : Report ε α := ⟨[], .error e⟩

/-- Reports events. -/
def tell (events : List Event) : Report ε Unit := ⟨events, .ok ()⟩

/-- A result or a stop without any event. -/
def ofExcept (r : Except ε α) : Report ε α := ⟨[], r⟩

/-- Goes on with the result; a stop keeps the events before it. -/
def andThen (r : Report ε α) (f : α → Report ε β) : Report ε β :=
  match r.outcome with
  | .ok a => ⟨r.events ++ (f a).events, (f a).outcome⟩
  | .error e => ⟨r.events, .error e⟩

instance : Monad (Report ε) where
  pure := done
  bind := andThen

@[simp] theorem outcome_pure (a : α) : (pure a : Report ε α).outcome = .ok a := rfl

@[simp] theorem events_pure (a : α) : (pure a : Report ε α).events = [] := rfl

@[simp] theorem outcome_tell (events : List Event) :
    (tell events : Report ε Unit).outcome = .ok () := rfl

@[simp] theorem events_tell (events : List Event) :
    (tell events : Report ε Unit).events = events := rfl

theorem outcome_bind (r : Report ε α) (f : α → Report ε β) :
    (r >>= f).outcome = r.outcome.bind fun a => (f a).outcome := by
  obtain ⟨events, outcome⟩ := r
  cases outcome <;> rfl

theorem events_bind_ok {r : Report ε α} {a : α} (h : r.outcome = .ok a) (f : α → Report ε β) :
    (r >>= f).events = r.events ++ (f a).events := by
  obtain ⟨events, outcome⟩ := r
  subst h
  rfl

end Report

end DeclaredTools
