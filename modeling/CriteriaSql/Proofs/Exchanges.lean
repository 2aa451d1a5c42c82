import CriteriaSql.Proofs.Run

/-!
# Exchanges

What passes between an action and an executor: the requests in order, each with the error that it was
answered with, if any. The courses that an action can take follow from those of its parts.

* `Exchange`, `Plan.exchanges`: the exchanges of a plan; `Plan.request_exchanges`: its requests are the run's.
* `Action.Takes`: the courses of an action, whatever the executor answers.
* `Action.Takes.bind`: the courses of a chain.
-/

namespace CriteriaSql

variable {σ α β : Type}

/-- A request, and the error that it was answered with. -/
structure Exchange where
  request : Request
  fault : Option Error

namespace Plan

/-- The exchanges of a plan with an executor. -/
def exchanges (ex : Executor σ) : Plan α → σ → List Exchange
  | .done _, _ => []
  | .emit _ next, s => next.exchanges ex s
  | .query sql params next, s =>
    let reply := ex.query sql params s
    ⟨.query sql params, Result.fault? reply.result⟩ :: (next reply.result).exchanges ex reply.next
  | .execute sql params next, s =>
    let reply := ex.execute sql params s
    ⟨.execute sql params, Result.fault? reply.result⟩ :: (next reply.result).exchanges ex reply.next

/-- The exchanges are about the requests of the run. -/
theorem request_exchanges (ex : Executor σ) (p : Plan α) (s : σ) :
    (p.exchanges ex s).map (·.request) = (p.run ex s).requests := by
  induction p generalizing s with
  | done a => rfl
  | emit event next ih => exact ih s
  | query sql params next ih => rw [exchanges, run, List.map_cons, ih]
  | execute sql params next ih => rw [exchanges, run, List.map_cons, ih]

theorem exchanges_andThen (ex : Executor σ) (p : Plan α) (f : α → Plan β) (s : σ) :
    (p.andThen f).exchanges ex s =
      p.exchanges ex s ++ (f (p.run ex s).result).exchanges ex (p.run ex s).next := by
  induction p generalizing s with
  | done a => rfl
  | emit event next ih => exact ih s
  | query sql params next ih => simp only [andThen, exchanges, run, ih, List.cons_append]
  | execute sql params next ih => simp only [andThen, exchanges, run, ih, List.cons_append]

end Plan

/-- Courses of an action: its exchanges and its result. -/
abbrev Courses (α : Type) : Type := List Exchange → Except Error α → Prop

namespace Action

/-- An action takes one of some courses, whatever an executor answers. -/
def Takes (C : Courses α) (x : Action α) : Prop :=
  ∀ ⦃σ : Type⦄ (ex : Executor σ) (s : σ), C (x.run.exchanges ex s) (x.run.run ex s).result

variable {x : Action α} {f : α → Action β} {C : Courses α} {D : Courses β}

theorem exchanges_bind (ex : Executor σ) (x : Action α) (f : α → Action β) (s : σ) :
    (x >>= f).run.exchanges ex s = x.run.exchanges ex s ++
      match (x.run.run ex s).result with
      | .ok a => (f a).run.exchanges ex (x.run.run ex s).next
      | .error _ => [] := by
  change (Plan.andThen x.run (ExceptT.bindCont f)).exchanges ex s = _
  rw [Plan.exchanges_andThen]
  cases (x.run.run ex s).result <;> rfl

/-- **The courses of a chain.** An error of the first part is the whole course; otherwise the exchanges of
the second part follow, and its result is the result. -/
theorem Takes.bind (hx : x.Takes C) (herror : ∀ xs e, C xs (.error e) → D xs (.error e))
    (hok : ∀ xs a, C xs (.ok a) → (f a).Takes fun ys r => D (xs ++ ys) r) : (x >>= f).Takes D := by
  intro σ ex s
  have hfirst := hx ex s
  rw [exchanges_bind, result_bind]
  cases hr : (x.run.run ex s).result with
  | ok a =>
    rw [hr] at hfirst
    exact hok _ a hfirst ex (x.run.run ex s).next
  | error e =>
    rw [hr] at hfirst
    simpa using herror _ e hfirst

theorem Takes.mono {C' : Courses α} (hx : x.Takes C) (h : ∀ xs r, C xs r → C' xs r) : x.Takes C' := by
  intro σ ex s
  exact h _ _ (hx ex s)

theorem takes_pure {a : α} (h : C [] (.ok a)) : (pure a : Action α).Takes C := fun _ _ _ => h

theorem takes_ofExcept {r : Except Error α} (h : C [] r) : (ofExcept r).Takes C := fun _ _ _ => h

/-- A result that is changed. -/
theorem Takes.map {g : α → β} (hx : x.Takes fun xs r => D xs (r.map g)) :
    (x >>= fun a => pure (g a)).Takes D := by
  refine hx.bind (fun xs e hxs => hxs) fun xs a hxs => takes_pure ?_
  rw [List.append_nil]
  exact hxs

/-- An error that is changed. -/
theorem Takes.mapError {g : Error → Error} (hx : x.Takes fun xs r => C xs (r.mapError g)) :
    (x.mapError g).Takes C := by
  intro σ ex s
  have hexchanges : (x.mapError g).run.exchanges ex s = x.run.exchanges ex s := by
    change (Plan.andThen x.run fun r => .done (r.mapError g)).exchanges ex s = _
    rw [Plan.exchanges_andThen]
    exact List.append_nil _
  rw [hexchanges, run_mapError]
  exact hx ex s

/-- Events are no part of a course. -/
theorem takes_emitAll (events : List Event) (hx : x.Takes C) :
    (emitAll events >>= fun _ => x).Takes C := by
  intro σ ex s
  have hevents : ∀ events : List Event, (Plan.emitAll events).exchanges ex s = [] := by
    intro events
    induction events with
    | nil => rfl
    | cons event events ih => exact ih
  have hnone : (emitAll events).run.exchanges ex s = [] := by
    change (Plan.andThen (Plan.emitAll events) fun u => Plan.done (Except.ok u)).exchanges ex s = _
    rw [Plan.exchanges_andThen, hevents]
    rfl
  rw [exchanges_bind, result_bind, hnone, run_emitAll]
  exact hx ex s

theorem takes_query {C : Courses (List Record)} (sql : String) (params : List Value)
    (h : ∀ r, C [⟨.query sql params, Result.fault? r⟩] r) : (query sql params).Takes C := by
  intro σ ex s
  rw [run_query]
  exact h _

theorem takes_execute {C : Courses Nat} (sql : String) (params : List Value)
    (h : ∀ r, C [⟨.execute sql params, Result.fault? r⟩] r) : (execute sql params).Takes C := by
  intro σ ex s
  rw [run_execute]
  exact h _

end Action

end CriteriaSql
