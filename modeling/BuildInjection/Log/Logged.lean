import BuildInjection.Log.Event

/-!
# Work that is logged

A value together with the reports that were made on the way to it, in order.
-/

namespace BuildInjection

/-- A value, and the reports made on the way to it. -/
structure Logged (α : Type) where
  value : α
  events : List Event := []

namespace Logged

variable {α β : Type}

/-- One report. -/
def log (event : Event) : Logged Unit := ⟨(), [event]⟩

/-- Several reports. -/
def logAll (events : List Event) : Logged Unit := ⟨(), events⟩

instance : Monad Logged where
  pure value := ⟨value, []⟩
  bind x f := ⟨(f x.value).value, x.events ++ (f x.value).events⟩

@[simp] theorem value_pure (a : α) : (pure a : Logged α).value = a := rfl

@[simp] theorem events_pure (a : α) : (pure a : Logged α).events = [] := rfl

@[simp] theorem value_bind (x : Logged α) (f : α → Logged β) :
    (x >>= f).value = (f x.value).value := rfl

@[simp] theorem events_bind (x : Logged α) (f : α → Logged β) :
    (x >>= f).events = x.events ++ (f x.value).events := rfl

@[simp] theorem value_log (e : Event) : (log e).value = () := rfl

@[simp] theorem events_log (e : Event) : (log e).events = [e] := rfl

@[simp] theorem events_logAll (es : List Event) : (logAll es).events = es := rfl

end Logged

end BuildInjection
