import CriteriaSql.Model.Call
import CriteriaSql.Proofs.Result

/-!
# Runs

What an executor sees of an action, from what it sees of the parts: requests and events follow each
other, and an error ends the run.

* `run_bind`: the run of a chain; `requests_bind`, `result_bind`: its requests and its result.
* `run_fetch`, `run_exec`: the run of one request, with its event before it.
* `run_compiled`: a statement that is refused asks nothing.
* `Action.Asks`: a property of all requests, whatever the executor answers.
-/

namespace CriteriaSql

variable {σ α β : Type}

/-- An executor that finds no row and changes none. -/
def Executor.idle : Executor Unit where
  query _ _ s := ⟨.ok [], [], s⟩
  execute _ _ s := ⟨.ok 0, [], s⟩

/-- A table of users. -/
def Schema.users : Schema := (ofName "users").withFields ["_id", "name", "age"]

/-- A model of the users, with seeds as identifiers. -/
def Model.users : Model := ⟨.users, .usual, ⟨"0", id⟩⟩

namespace Request

def sql : Request → String
  | .query sql _ | .execute sql _ => sql

def params : Request → List Value
  | .query _ params | .execute _ params => params

end Request

/-- A run that goes on with its result, unless that is an error. -/
def Run.continue (r : Run σ (Except Error α)) (f : α → σ → Run σ (Except Error β)) :
    Run σ (Except Error β) :=
  match r.result with
  | .ok a =>
    let t := f a r.next
    ⟨t.result, r.requests ++ t.requests, r.events ++ t.events, t.next⟩
  | .error e => ⟨.error e, r.requests, r.events, r.next⟩

theorem Plan.run_andThen (ex : Executor σ) (p : Plan α) (f : α → Plan β) (s : σ) :
    (p.andThen f).run ex s =
      ⟨((f (p.run ex s).result).run ex (p.run ex s).next).result,
        (p.run ex s).requests ++ ((f (p.run ex s).result).run ex (p.run ex s).next).requests,
        (p.run ex s).events ++ ((f (p.run ex s).result).run ex (p.run ex s).next).events,
        ((f (p.run ex s).result).run ex (p.run ex s).next).next⟩ := by
  -- the first plan goes on until it is done, from whatever state it has reached
  induction p generalizing s with
  | done a => rfl
  | emit event next ih => simp only [andThen, run, ih, List.cons_append]
  | query sql params next ih => simp only [andThen, run, ih, List.append_assoc, List.cons_append]
  | execute sql params next ih => simp only [andThen, run, ih, List.append_assoc, List.cons_append]

namespace Action

/-- **The run of a chain.** -/
theorem run_bind (ex : Executor σ) (x : Action α) (f : α → Action β) (s : σ) :
    (x >>= f).run.run ex s = (x.run.run ex s).continue fun a s' => (f a).run.run ex s' := by
  change (Plan.andThen x.run (ExceptT.bindCont f)).run ex s = _
  rw [Plan.run_andThen, Run.continue]
  cases (x.run.run ex s).result with
  | ok a => rfl
  | error e =>
    -- the rest of the chain is a plan that is done
    change (⟨.error e, _ ++ [], _ ++ [], _⟩ : Run σ (Except Error β)) = _
    rw [List.append_nil, List.append_nil]
    rfl

/-- A chain asks for what its first part asks, and then for the rest unless that failed. -/
theorem requests_bind (ex : Executor σ) (x : Action α) (f : α → Action β) (s : σ) :
    ((x >>= f).run.run ex s).requests = (x.run.run ex s).requests ++
      match (x.run.run ex s).result with
      | .ok a => ((f a).run.run ex (x.run.run ex s).next).requests
      | .error _ => [] := by
  rw [run_bind, Run.continue]
  cases (x.run.run ex s).result with
  | ok a => rfl
  | error e => exact (List.append_nil _).symm

theorem result_bind (ex : Executor σ) (x : Action α) (f : α → Action β) (s : σ) :
    ((x >>= f).run.run ex s).result =
      match (x.run.run ex s).result with
      | .ok a => ((f a).run.run ex (x.run.run ex s).next).result
      | .error e => .error e := by
  rw [run_bind, Run.continue]
  cases (x.run.run ex s).result <;> rfl

theorem requests_bind_pure (ex : Executor σ) (x : Action α) (f : α → β) (s : σ) :
    ((x >>= fun a => pure (f a)).run.run ex s).requests = (x.run.run ex s).requests := by
  rw [requests_bind]
  cases (x.run.run ex s).result <;> exact List.append_nil _

theorem run_ofExcept (ex : Executor σ) (r : Except Error α) (s : σ) :
    (ofExcept r).run.run ex s = ⟨r, [], [], s⟩ := rfl

theorem run_emitAll (ex : Executor σ) (events : List Event) (s : σ) :
    (emitAll events).run.run ex s = ⟨.ok (), [], events, s⟩ := by
  have hp : (Plan.emitAll events).run ex s = ⟨(), [], events, s⟩ := by
    induction events with
    | nil => rfl
    | cons event events ih => rw [Plan.emitAll, Plan.run, ih]
  change (Plan.andThen (Plan.emitAll events) fun u => Plan.done (Except.ok u)).run ex s = _
  rw [Plan.run_andThen, hp]
  simp only [Plan.run, List.append_nil]

theorem run_mapError (ex : Executor σ) (f : Error → Error) (x : Action α) (s : σ) :
    (x.mapError f).run.run ex s =
      ⟨(x.run.run ex s).result.mapError f, (x.run.run ex s).requests, (x.run.run ex s).events,
        (x.run.run ex s).next⟩ := by
  change (Plan.andThen x.run fun r => .done (r.mapError f)).run ex s = _
  rw [Plan.run_andThen]
  simp only [Plan.run, List.append_nil]

theorem run_query (ex : Executor σ) (sql : String) (params : List Value) (s : σ) :
    (query sql params).run.run ex s =
      ⟨(ex.query sql params s).result, [.query sql params], (ex.query sql params s).events,
        (ex.query sql params s).next⟩ := by
  change (Plan.query sql params .done).run ex s = _
  simp only [Plan.run, List.append_nil]

theorem run_execute (ex : Executor σ) (sql : String) (params : List Value) (s : σ) :
    (execute sql params).run.run ex s =
      ⟨(ex.execute sql params s).result, [.execute sql params], (ex.execute sql params s).events,
        (ex.execute sql params s).next⟩ := by
  change (Plan.execute sql params .done).run ex s = _
  simp only [Plan.run, List.append_nil]

/-! ## All requests of an action -/

/-- Every request of an action has a property, whatever an executor answers. -/
def Asks (P : Request → Prop) (x : Action α) : Prop :=
  ∀ ⦃σ : Type⦄ (ex : Executor σ) (s : σ), ∀ r ∈ (x.run.run ex s).requests, P r

variable {P : Request → Prop}

theorem Asks.bind {x : Action α} {f : α → Action β} (hx : x.Asks P) (hf : ∀ a, (f a).Asks P) :
    (x >>= f).Asks P := by
  intro σ ex s r hr
  rw [run_bind, Run.continue] at hr
  split at hr
  · rcases List.mem_append.1 hr with hr | hr
    · exact hx ex s r hr
    · exact hf _ ex _ r hr
  · exact hx ex s r hr

theorem asks_pure (a : α) : (pure a : Action α).Asks P := by
  intro σ ex s r hr
  cases hr

theorem asks_ofExcept (result : Except Error α) : (ofExcept result).Asks P := by
  intro σ ex s r hr
  cases hr

theorem asks_emitAll (events : List Event) : (emitAll events).Asks P := by
  intro σ ex s r hr
  rw [run_emitAll] at hr
  cases hr

theorem Asks.mapError {x : Action α} (h : x.Asks P) (f : Error → Error) : (x.mapError f).Asks P := by
  intro σ ex s r hr
  rw [run_mapError] at hr
  exact h ex s r hr

theorem Asks.only {x : Action α} (h : x.Asks P) : x.only.Asks P :=
  h.bind fun _ => asks_pure ()

end Action

namespace Model

/-! ## The steps of an operation -/

theorem run_fetch (m : Model) (ex : Executor σ) (operation : String) (stmt : Statement) (s : σ) :
    (m.fetch operation stmt).run.run ex s =
      ⟨(ex.query stmt.sql stmt.values s).result.mapError (m.around operation),
        [.query stmt.sql stmt.values],
        m.executing operation stmt :: (ex.query stmt.sql stmt.values s).events,
        (ex.query stmt.sql stmt.values s).next⟩ := by
  rw [fetch, Action.run_bind, Action.run_emitAll]
  simp only [Run.continue, List.nil_append, List.singleton_append, Action.run_mapError, Action.run_query]

theorem run_exec (m : Model) (ex : Executor σ) (operation : String) (stmt : Statement) (s : σ) :
    (m.exec operation stmt).run.run ex s =
      ⟨(ex.execute stmt.sql stmt.values s).result.mapError (m.around operation),
        [.execute stmt.sql stmt.values],
        m.executing operation stmt :: (ex.execute stmt.sql stmt.values s).events,
        (ex.execute stmt.sql stmt.values s).next⟩ := by
  rw [exec, Action.run_bind, Action.run_emitAll]
  simp only [Run.continue, List.nil_append, List.singleton_append, Action.run_mapError, Action.run_execute]

/-- **A refused statement asks nothing**; an accepted one is handed on. -/
theorem run_compiled (m : Model) (ex : Executor σ) (operation : String) (r : Except Error Statement)
    (f : Statement → Action α) (s : σ) :
    (m.compiled operation r >>= f).run.run ex s =
      match r with
      | .ok stmt => (f stmt).run.run ex s
      | .error e => ⟨.error (m.around operation e), [], [], s⟩ := by
  rw [compiled, Action.run_bind, Action.run_ofExcept]
  cases r <;> rfl

variable {P : Request → Prop}

theorem asks_compiled {m : Model} {operation : String} {r : Except Error Statement}
    {f : Statement → Action α} (h : ∀ stmt, r = .ok stmt → (f stmt).Asks P) :
    (m.compiled operation r >>= f).Asks P := by
  intro σ ex s req hr
  rw [run_compiled] at hr
  cases r with
  | ok stmt => exact h stmt rfl ex s req hr
  | error e => cases hr

theorem asks_fetch {m : Model} {operation : String} {stmt : Statement}
    (h : P (.query stmt.sql stmt.values)) : (m.fetch operation stmt).Asks P := by
  intro σ ex s r hr
  rw [run_fetch] at hr
  rw [List.mem_singleton.1 hr]
  exact h

theorem asks_exec {m : Model} {operation : String} {stmt : Statement}
    (h : P (.execute stmt.sql stmt.values)) : (m.exec operation stmt).Asks P := by
  intro σ ex s r hr
  rw [run_exec] at hr
  rw [List.mem_singleton.1 hr]
  exact h

end Model

end CriteriaSql
