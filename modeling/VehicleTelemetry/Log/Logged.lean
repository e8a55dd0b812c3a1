import VehicleTelemetry.Log.Event

/-!
Values together with the events that were reported while they were computed.

`Logged` is the writer monad over lists of events. The value of a computation never depends on what
has been reported: `value_pure`, `value_bind` and `value_map` compute it without the events, and
`value_foldl` and `value_iterate` do so for the two loops, which collect their events from the back
in order to run in constant stack space.
-/

namespace VehicleTelemetry

/-- A value and the events on the way to it, in order. -/
structure Logged (α : Type) where
  value : α
  events : List Event := []

namespace Logged

variable {α β σ : Type}

instance : Monad Logged where
  pure value := { value }
  bind x f := let y := f x.value; { value := y.value, events := x.events ++ y.events }

/-- Reports one event. -/
def report (event : Event) : Logged Unit :=
  { value := (), events := [event] }

@[simp] theorem value_pure (a : α) : (pure a : Logged α).value = a := rfl

@[simp] theorem value_bind (x : Logged α) (f : α → Logged β) :
    (x >>= f).value = (f x.value).value := rfl

@[simp] theorem value_map (f : α → β) (x : Logged α) : (f <$> x).value = f x.value := rfl

@[simp] theorem value_ite (c : Prop) [Decidable c] (x y : Logged α) :
    (if c then x else y).value = if c then x.value else y.value := by
  split <;> rfl

@[simp] theorem events_pure (a : α) : (pure a : Logged α).events = [] := rfl

@[simp] theorem events_bind (x : Logged α) (f : α → Logged β) :
    (x >>= f).events = x.events ++ (f x.value).events := rfl

/-! ### Loops -/

/-- Folds over a list; `reported` holds the events so far, the last one first. -/
def foldlFrom (f : σ → α → Logged σ) (reported : List Event) (state : σ) : List α → Logged σ
  | [] => { value := state, events := reported.reverse }
  | a :: rest =>
    let next := f state a
    foldlFrom f (next.events.reverse ++ reported) next.value rest

/-- Runs a step for each member of a list. -/
def foldl (f : σ → α → Logged σ) (state : σ) (list : List α) : Logged σ :=
  foldlFrom f [] state list

/-- Runs a step `n` times; `reported` holds the events so far, the last one first. -/
def iterateFrom (f : σ → Logged σ) (reported : List Event) (state : σ) : Nat → Logged σ
  | 0 => { value := state, events := reported.reverse }
  | n + 1 =>
    let next := f state
    iterateFrom f (next.events.reverse ++ reported) next.value n

/-- Runs a step `n` times. -/
def iterate (f : σ → Logged σ) (n : Nat) (state : σ) : Logged σ :=
  iterateFrom f [] state n

theorem value_foldlFrom (f : σ → α → Logged σ) (reported : List Event) (state : σ)
    (list : List α) :
    (foldlFrom f reported state list).value = list.foldl (fun s a => (f s a).value) state := by
  induction list generalizing reported state with
  | nil => rfl
  | cons a rest ih => simp [foldlFrom, ih]

@[simp] theorem value_foldl (f : σ → α → Logged σ) (state : σ) (list : List α) :
    (foldl f state list).value = list.foldl (fun s a => (f s a).value) state :=
  value_foldlFrom f [] state list

theorem value_iterateFrom (f : σ → Logged σ) (reported : List Event) (state : σ) (n : Nat) :
    (iterateFrom f reported state n).value = Nat.repeat (fun s => (f s).value) n state := by
  induction n generalizing reported state with
  | zero => rfl
  | succ n ih =>
    rw [iterateFrom, ih]
    clear ih
    induction n with
    | zero => rfl
    | succ n ih => simp only [Nat.repeat]; rw [ih]; rfl

@[simp] theorem value_iterate (f : σ → Logged σ) (n : Nat) (state : σ) :
    (iterate f n state).value = Nat.repeat (fun s => (f s).value) n state :=
  value_iterateFrom f [] state n

end Logged

end VehicleTelemetry
