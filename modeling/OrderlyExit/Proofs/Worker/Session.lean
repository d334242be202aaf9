import OrderlyExit.Proofs.Output.Emission
import OrderlyExit.Proofs.Worker.Idle
import OrderlyExit.Worker

/-! What the actions of a worker do to a session, one equation each. -/

namespace OrderlyExit

/-- What an action comes to in a session. -/
def Session.perform {σ ε α : Type} (s : Session σ) (act : Act σ ε α) : Except ε α × Session σ := act.run.run s

namespace Session

variable {σ ε α β : Type}

/-! ### Composed actions -/

theorem perform_pure (s : Session σ) (a : α) : s.perform (pure a : Act σ ε α) = (.ok a, s) := rfl

theorem perform_bind (s : Session σ) (act : Act σ ε α) (f : α → Act σ ε β) :
    s.perform (act >>= f) =
      match s.perform act with
      | (.ok a, t) => t.perform (f a)
      | (.error e, t) => (.error e, t) := by
  simp only [perform, ExceptT.run_bind, StateT.run_bind]
  rcases StateT.run act.run s with ⟨r, t⟩
  cases r <;> rfl

theorem perform_adapt {ε' : Type} (s : Session σ) (f : ε → ε') (act : Act σ ε α) :
    s.perform (ExceptT.adapt f act : Act σ ε' α) = ((s.perform act).1.mapError f, (s.perform act).2) := by
  simp only [perform, ExceptT.run_adapt, StateT.run_map]
  rfl

theorem mapError_ok {ε' : Type} (f : ε → ε') (a : α) : (.ok a : Except ε α).mapError f = .ok a := rfl

theorem perform_writing (s : Session σ) (act : Act σ IoError α) :
    s.perform (Worker.writing act) = ((s.perform act).1.mapError (.failed <| .output ·), (s.perform act).2) :=
  perform_adapt s _ act

/-! ### Emitting, sleeping, idling -/

/-- The session once an emission has succeeded and left the outlet `o`. -/
def emitted (env : Surroundings σ) (o : Outlet σ) (s : Session σ) : Session σ :=
  { s with outlet := o, flushes := s.flushes + 1 }.raise (env.raises.afterFlush (s.flushes + 1))

@[simp] theorem emitted_clock (env : Surroundings σ) (o : Outlet σ) (s : Session σ) :
    (s.emitted env o).clock = s.clock := rfl

@[simp] theorem emitted_outlet (env : Surroundings σ) (o : Outlet σ) (s : Session σ) :
    (s.emitted env o).outlet = o := rfl

@[simp] theorem later_clock (env : Surroundings σ) (delay : Nat) (s : Session σ) :
    (s.later env delay).clock = s.clock + delay := rfl

@[simp] theorem later_outlet (env : Surroundings σ) (delay : Nat) (s : Session σ) :
    (s.later env delay).outlet = s.outlet := rfl

theorem perform_emit (s : Session σ) (env : Surroundings σ) (m : Marker) :
    s.perform (emit env m) =
      match s.outlet.emit env.sink s.clock m with
      | (.ok (), o) => (.ok (), s.emitted env o)
      | (.error e, o) => (.error e, { s with outlet := o }) := by
  have hget : s.perform (get : Act σ IoError (Session σ)) = (.ok s, s) := rfl
  simp only [emit, perform_bind, hget]
  rcases s.outlet.emit env.sink s.clock m with ⟨r, o⟩
  cases r <;> rfl

theorem perform_sleep (s : Session σ) (env : Surroundings σ) (delay : Nat) :
    s.perform (sleep env delay : Act σ ε Unit) = (.ok (), s.later env (waitTime delay)) := rfl

/-- Idling before a request that comes by itself lasts as long as the request takes. -/
theorem perform_idle_after (s : Session σ) (env : Surroundings σ) {tick : Nat} (positive : 0 < tick) (delay : Nat)
    (signal : ShutdownSignal) :
    s.perform (idle env tick (.after delay signal)) = (.ok signal, s.later env (waitTime delay)) := by
  have hget : s.perform (get : Act σ IdleFault (Session σ)) = (.ok s, s) := rfl
  have hmodify : ∀ f, s.perform (modify f : Act σ IdleFault PUnit) = (.ok ⟨⟩, f s) := fun _ => rfl
  simp only [idle, positive, ↓reduceDIte, perform_bind, hget, requestDelay?, hmodify, Idle.run_elapsed, perform_pure]

/-- Idling before a signal that is raised lasts until the first one is there, and takes it away. -/
theorem perform_idle_raised (s : Session σ) (env : Surroundings σ) {tick : Nat} (positive : 0 < tick) {delay : Nat}
    (hdelay : s.requestDelay? env .raised = some delay) {signal : ShutdownSignal}
    (hready : (s.later env delay).listener.ready? env.interruptFirst = some signal) :
    s.perform (idle env tick .raised) =
      (.ok signal, { s.later env delay with listener := (s.later env delay).listener.set signal false }) := by
  have hget : ∀ t : Session σ, t.perform (get : Act σ IdleFault (Session σ)) = (.ok t, t) := fun _ => rfl
  have hset : ∀ t u : Session σ, t.perform (set u : Act σ IdleFault PUnit) = (.ok ⟨⟩, u) := fun _ _ => rfl
  have hmodify : ∀ f, s.perform (modify f : Act σ IdleFault PUnit) = (.ok ⟨⟩, f s) := fun _ => rfl
  simp only [idle, positive, ↓reduceDIte, perform_bind, hget, hdelay, hmodify, Idle.run_elapsed, Listener.receive, hready,
    hset, perform_pure]

end Session
end OrderlyExit
