import CriteriaSql.Proofs.Agreement
import CriteriaSql.Proofs.Exchanges
import CriteriaSql.Proofs.Upsert

/-!
# Operations stop at the first failure

When an executor answers with an error, an operation asks nothing more and reports that error, inside the
names of the operations that asked. All other errors are about the arguments, and come before anything is
asked or, from an operation that finds a row to write, after the find.

* `Operation.names`: the names around the error that answers a request.
* `Model.Sends`, `Model.FindsFirst`: the courses of sending one statement, and of finding and then writing.
* `FailStop`: what is promised of a course.
* `operations_fail_stop`: every operation keeps to it, whatever the executor answers.
-/

namespace CriteriaSql

variable {σ α β : Type}

/-! ## Names around an error -/

namespace Operation

/-- The name under which an operation reports. -/
def name : Operation → String
  | .insertOne _ => "insert_one"
  | .findOne _ _ => "find_one"
  | .findAll _ _ | .findBy _ => "find_all"
  | .findOneAndUpdate _ _ _ | .updateOne _ _ true => "find_one_and_update"
  | .updateOne _ _ false => "update_one"
  | .updateMany _ _ => "update_many"
  | .deleteOne _ => "delete_one"
  | .remove _ => "remove"
  | .count _ => "count"
  | .rawQuery _ _ => "raw_query"

/-- The criteria of an operation that finds a row before it writes. -/
def sought? : Operation → Option Filter
  | .findOneAndUpdate criteria _ _ | .updateOne criteria _ true => some criteria
  | _ => none

/-- The operation inside one that finds and writes to which a request belongs. The find comes first; after it
an insertion is a query, and an update is executed by the operation itself. -/
def inner : List Exchange → Request → List String
  | [], _ => ["find_one"]
  | _ :: _, .query _ _ => ["insert_one"]
  | _ :: _, .execute _ _ => []

/-- The names around an error that answers a request, outermost first. -/
def names (op : Operation) (before : List Exchange) (request : Request) : List String :=
  op.name :: if op.sought?.isSome then inner before request else []

end Operation

namespace Model

/-- Puts operations around an error, the first one outermost. -/
def aroundAll (m : Model) (names : List String) (e : Error) : Error := names.foldr m.around e

/-- Text with the names of operations before it. -/
def named (m : Model) (names : List String) (text : String) : String :=
  names.foldr (fun name rest => name ++ "(" ++ m.schema.name ++ "): " ++ rest) text

variable {m : Model}

theorem root_aroundAll (m : Model) (names : List String) (e : Error) :
    (m.aroundAll names e).root = e.root := by
  induction names with
  | nil => rfl
  | cons name names ih => exact ih

theorem message_aroundAll (m : Model) (names : List String) (e : Error) :
    (m.aroundAll names e).message = m.named names e.message := by
  induction names with
  | nil => rfl
  | cons name names ih =>
    have hcolon : "): " = ")" ++ ": " := rfl
    change name ++ "(" ++ m.schema.name ++ ")" ++ ": " ++ (m.aroundAll names e).message = _
    rw [ih, named, named, List.foldr_cons, hcolon]
    simp only [String.append_assoc]

/-! ## Sending one statement -/

/-- The courses of sending one statement: it is refused for its arguments, or its answer ends the course, an
error inside the names for the request. -/
inductive Sends (m : Model) (names : Request → List String) : List Exchange → Except Error α → Prop
  | refused {e : Error} {cause : Invalid} (h : e.root = .validation cause) : Sends m names [] (.error e)
  | answered (request : Request) (a : α) : Sends m names [⟨request, none⟩] (.ok a)
  | failed (request : Request) (e : Error) :
    Sends m names [⟨request, some e⟩] (.error (m.aroundAll (names request) e))

variable {names : Request → List String} {xs : List Exchange} {r : Except Error α}

namespace Sends

theorem map (g : α → β) (h : m.Sends names xs r) : m.Sends names xs (r.map g) := by
  rcases h with hroot | ⟨request, a⟩ | ⟨request, e⟩
  · exact .refused hroot
  · exact .answered request (g a)
  · exact .failed request e

/-- Within another operation, its name comes first. -/
theorem around (operation : String) (h : m.Sends names xs r) :
    m.Sends (fun request => operation :: names request) xs (r.mapError (m.around operation)) := by
  rcases h with hroot | ⟨request, a⟩ | ⟨request, e⟩
  · exact .refused hroot
  · exact .answered request a
  · exact .failed request e

theorem length_le (h : m.Sends names xs r) : xs.length ≤ 1 := by
  rcases h with hroot | ⟨request, a⟩ | ⟨request, e⟩ <;> simp

/-- An error that is answered ends the course. -/
theorem stops (h : m.Sends names xs r) {before after : List Exchange} {x : Exchange} {e : Error}
    (hxs : xs = before ++ x :: after) (hx : x.fault = some e) :
    before = [] ∧ after = [] ∧ r = .error (m.aroundAll (names x.request) e) := by
  have hone : before = [] ∧ after = [] := by
    have hlength := h.length_le
    rw [hxs, List.length_append, List.length_cons] at hlength
    exact ⟨List.length_eq_zero_iff.1 (by omega), List.length_eq_zero_iff.1 (by omega)⟩
  obtain ⟨rfl, rfl⟩ := hone
  refine ⟨rfl, rfl, ?_⟩
  subst hxs
  rcases h with _ | ⟨request, a⟩ | ⟨request, e'⟩
  · cases hx
  · obtain rfl : e' = e := Option.some.inj hx
    rfl

/-- Without such an error, the arguments are at fault, and nothing is asked. -/
theorem refuses (h : m.Sends names xs r) (hxs : ∀ x ∈ xs, x.fault = none) {e : Error} (hr : r = .error e) :
    xs = [] ∧ ∃ cause, e.root = .validation cause := by
  subst hr
  rcases h with hroot | _ | ⟨request, e⟩
  · exact ⟨rfl, _, hroot⟩
  · cases hxs _ List.mem_cons_self

/-- A result is an answer. -/
theorem answers (h : m.Sends names xs r) {a : α} (hr : r = .ok a) : xs ≠ [] ∧ ∀ x ∈ xs, x.fault = none := by
  subst hr
  rcases h with _ | ⟨request, a⟩
  refine ⟨List.cons_ne_nil _ _, fun x hx => ?_⟩
  rw [List.mem_singleton.1 hx]

end Sends

variable {operation : String}

/-- One request is a course, if its operation is put around the error that answers it. -/
theorem sends_answer {request : Request} (h : names request = [operation]) (r : Except Error α) :
    m.Sends names [⟨request, Result.fault? r⟩] (r.mapError (m.around operation)) := by
  cases r with
  | ok a => exact .answered request a
  | error e =>
    have hfailed : m.Sends names (α := α) _ _ := .failed request e
    rw [h] at hfailed
    exact hfailed

theorem takes_fetch (h : ∀ sql params, names (.query sql params) = [operation]) (stmt : Statement) :
    (m.fetch operation stmt).Takes (m.Sends names) := by
  refine Action.takes_emitAll _ (Action.Takes.mapError (Action.takes_query _ _ fun r => ?_))
  exact sends_answer (h _ _) r

theorem takes_exec (h : ∀ sql params, names (.execute sql params) = [operation]) (stmt : Statement) :
    (m.exec operation stmt).Takes (m.Sends names) := by
  refine Action.takes_emitAll _ (Action.Takes.mapError (Action.takes_execute _ _ fun r => ?_))
  exact sends_answer (h _ _) r

theorem takes_map {x : Action α} (g : α → β) (hx : x.Takes (m.Sends names)) :
    (x >>= fun a => pure (g a)).Takes (m.Sends names) :=
  (hx.mono fun _ _ => Sends.map g).map

/-- A statement that is refused for its arguments is not sent. -/
theorem takes_compiled {statement : Except Error Statement} {f : Statement → Action α}
    (hs : ∀ e, statement = .error e → ∃ cause, e = .validation cause)
    (hf : ∀ stmt, (f stmt).Takes (m.Sends names)) :
    (m.compiled operation statement >>= f).Takes (m.Sends names) := by
  have hcompiled : (m.compiled operation statement).Takes fun xs r =>
      xs = [] ∧ ∀ e, r = .error e → ∃ cause, e.root = .validation cause := by
    refine Action.takes_ofExcept ⟨rfl, fun e he => ?_⟩
    obtain ⟨e', he', rfl⟩ := Result.mapError_eq_error.1 he
    obtain ⟨cause, rfl⟩ := hs e' he'
    exact ⟨cause, rfl⟩
  refine hcompiled.bind ?_ ?_
  · rintro xs e ⟨rfl, he⟩
    obtain ⟨cause, hroot⟩ := he e rfl
    exact .refused hroot
  · rintro xs stmt ⟨rfl, -⟩
    exact hf stmt

/-- A builder refuses a statement for its arguments only. -/
theorem build_eq_error {b : Builder} (e : Error) (h : b.build = .error e) :
    ∃ cause, e = .validation cause := by
  rw [Builder.build_eq] at h
  exact mapError_validation h

/-! ## The operations -/

theorem takes_insertOne (h : ∀ sql params, names (.query sql params) = ["insert_one"]) (data : Record) :
    (m.insertOne data).Takes (m.Sends names) :=
  takes_compiled (fun _ => mapError_validation) fun stmt => takes_map _ (takes_fetch h stmt)

theorem takes_findOne (criteria : Filter) (options : FindOptions) :
    (m.findOne criteria options).Takes (m.Sends fun _ => ["find_one"]) :=
  Action.takes_emitAll _ <| takes_compiled build_eq_error fun stmt =>
    takes_map _ (takes_fetch (fun _ _ => rfl) stmt)

theorem takes_findAll (criteria : Filter) (options : FindOptions) :
    (m.findAll criteria options).Takes (m.Sends fun _ => ["find_all"]) :=
  Action.takes_emitAll _ <| takes_compiled build_eq_error fun stmt => takes_fetch (fun _ _ => rfl) stmt

theorem takes_update (h : ∀ sql params, names (.execute sql params) = [operation]) (target : Filter)
    (set : Record) (g : Nat → α) :
    (Action.emitAll (Staged.updateEvents m.schema target set) >>= fun _ =>
      m.compiled operation (Staged.update m.schema target set) >>= fun stmt =>
        m.exec operation stmt >>= fun n => pure (g n)).Takes (m.Sends names) :=
  Action.takes_emitAll _ <| takes_compiled (fun _ => Staged.update_eq_error) fun stmt =>
    takes_map _ (takes_exec h stmt)

theorem takes_updateMany (criteria : Filter) (updates : Record) :
    (m.updateMany criteria updates).Takes (m.Sends fun _ => ["update_many"]) :=
  Action.takes_emitAll _ <| takes_compiled build_eq_error fun stmt => takes_exec (fun _ _ => rfl) stmt

theorem takes_deleteOne (criteria : Filter) :
    (m.deleteOne criteria).Takes (m.Sends fun _ => ["delete_one"]) :=
  takes_compiled (fun _ => Staged.delete_eq_error) fun stmt => takes_exec (fun _ _ => rfl) stmt

theorem takes_remove (criteria : Filter) : (m.remove criteria).Takes (m.Sends fun _ => ["remove"]) :=
  takes_compiled build_eq_error fun stmt => takes_exec (fun _ _ => rfl) stmt

theorem takes_count (criteria : Filter) : (m.count criteria).Takes (m.Sends fun _ => ["count"]) :=
  takes_compiled build_eq_error fun stmt => takes_map _ (takes_fetch (fun _ _ => rfl) stmt)

/-! ## Finding, then writing -/

/-- The courses of finding a row and then writing: the find is refused, or fails, or is answered, and then
one statement follows or none. -/
inductive FindsFirst (m : Model) (criteria : Filter) : List Exchange → Except Error α → Prop
  | refused {e : Error} {cause : Invalid} (h : e.root = .validation cause) :
    FindsFirst m criteria [] (.error e)
  | failed (e : Error) : FindsFirst m criteria [⟨m.findRequest criteria, some e⟩]
    (.error (m.aroundAll ["find_one_and_update", "find_one"] e))
  | idle (a : α) : FindsFirst m criteria [⟨m.findRequest criteria, none⟩] (.ok a)
  | answered {found : Exchange} {ys : List Exchange} {r : Except Error α}
    (hfound : found = ⟨m.findRequest criteria, none⟩)
    (h : m.Sends (fun request => "find_one_and_update" :: Operation.inner [found] request) ys r) :
    FindsFirst m criteria (found :: ys) r

/-- The find asks for the first row that the criteria admit. -/
theorem takes_find (criteria : Filter) :
    ((m.findOne criteria .usual).mapError (m.around "find_one_and_update")).Takes fun xs r =>
      (xs = [] ∧ ∃ e cause, r = .error e ∧ e.root = .validation cause) ∨
      (∃ e, xs = [⟨m.findRequest criteria, some e⟩] ∧
        r = .error (m.aroundAll ["find_one_and_update", "find_one"] e)) ∨
      ∃ found, xs = [⟨m.findRequest criteria, none⟩] ∧ r = .ok found := by
  refine Action.Takes.mapError ?_
  intro σ ex s
  have hcourse := takes_findOne (m := m) criteria .usual ex s
  have hrequests := Plan.request_exchanges ex (m.findOne criteria .usual).run s
  by_cases h : criteria.HasEmptyList
  · obtain ⟨e, cause, hr, hroot, hnone⟩ := run_findOne_refused m h ex s
    rw [hnone, List.map_eq_nil_iff] at hrequests
    rw [hr]
    exact .inl ⟨hrequests, _, cause, rfl, hroot⟩
  -- the course has the one request of the find
  · rw [(run_findOne m h ex s).1] at hrequests
    revert hcourse hrequests
    generalize (m.findOne criteria .usual).run.exchanges ex s = xs
    generalize ((m.findOne criteria .usual).run.run ex s).result = r
    rintro (_ | ⟨request, found⟩ | ⟨request, e⟩) hrequests
    · cases hrequests
    · cases hrequests
      exact .inr (.inr ⟨found, rfl, rfl⟩)
    · cases hrequests
      exact .inr (.inl ⟨e, rfl, rfl⟩)

theorem takes_findOneAndUpdate (criteria : Filter) (doc : UpdateDoc) (upsert : Bool) :
    (m.findOneAndUpdate criteria doc upsert).Takes (m.FindsFirst criteria) := by
  unfold findOneAndUpdate
  dsimp only
  refine (takes_find criteria).bind ?_ ?_
  · rintro xs e (⟨rfl, e', cause, ⟨⟩, hroot⟩ | ⟨e', rfl, ⟨⟩⟩ | ⟨found, rfl, ⟨⟩⟩)
    · exact .refused hroot
    · exact .failed e'
  · rintro xs found (⟨-, e', cause, ⟨⟩, -⟩ | ⟨e', -, ⟨⟩⟩ | ⟨_, rfl, ⟨⟩⟩)
    have hrest {x : Action UpsertOutcome} (hx : x.Takes (m.Sends fun request =>
        "find_one_and_update" :: Operation.inner [⟨m.findRequest criteria, none⟩] request)) :
        x.Takes fun ys r => m.FindsFirst criteria ([⟨m.findRequest criteria, none⟩] ++ ys) r :=
      hx.mono fun ys r hys => .answered rfl hys
    -- without a row the record is inserted when asked for; a row is updated
    split
    · cases upsert with
      | false => exact Action.takes_pure (.idle _)
      | true =>
        rw [if_pos rfl]
        have hinsert : (m.insertOne doc.insertFields).Takes
            (m.Sends (Operation.inner [⟨m.findRequest criteria, none⟩])) := takes_insertOne (fun _ _ => rfl) _
        exact hrest (takes_map _ (hinsert.mono fun _ _ => Sends.around "find_one_and_update").mapError)
    · split
      · exact hrest (Action.takes_ofExcept (.refused rfl))
      · exact hrest (takes_update (fun _ _ => rfl) _ _ _)

namespace FindsFirst

variable {criteria : Filter} {before after : List Exchange} {x : Exchange} {e : Error}

theorem length_le (h : m.FindsFirst criteria xs r) : xs.length ≤ 2 := by
  rcases h with _ | e | a | ⟨-, hs⟩
  · simp
  · simp
  · simp
  · have hrest := hs.length_le
    rw [List.length_cons]
    omega

/-- The first exchange is the find. -/
theorem request_head (h : m.FindsFirst criteria (x :: after) r) : x.request = m.findRequest criteria := by
  rcases h with _ | e | a | ⟨rfl, -⟩ <;> rfl

/-- An error that is answered ends the course, at the find or after it. -/
theorem stops (h : m.FindsFirst criteria xs r) (hxs : xs = before ++ x :: after) (hx : x.fault = some e) :
    after = [] ∧
      r = .error (m.aroundAll ("find_one_and_update" :: Operation.inner before x.request) e) := by
  rcases before with _ | ⟨found, before⟩
  · subst hxs
    rcases h with _ | e' | a | ⟨rfl, -⟩
    · obtain rfl : e' = e := Option.some.inj hx
      exact ⟨rfl, rfl⟩
    · cases hx
    · cases hx
  -- the find has been answered, so that the error is that of the statement after it
  · rcases h with _ | e' | a | ⟨-, hs⟩
    · simp at hxs
    · simp at hxs
    · simp at hxs
    · obtain ⟨rfl, hys⟩ := List.cons.inj hxs
      obtain ⟨rfl, hafter, hr⟩ := hs.stops hys hx
      exact ⟨hafter, hr⟩

/-- Without such an error, the arguments are at fault, and nothing is asked but the find. -/
theorem refuses (h : m.FindsFirst criteria xs r) (hxs : ∀ x ∈ xs, x.fault = none) (hr : r = .error e) :
    (∃ cause, e.root = .validation cause) ∧ (xs = [] ∨ xs = [⟨m.findRequest criteria, none⟩]) := by
  subst hr
  rcases h with hroot | e' | _ | ⟨rfl, hs⟩
  · exact ⟨⟨_, hroot⟩, .inl rfl⟩
  · cases hxs _ List.mem_cons_self
  · obtain ⟨rfl, hroot⟩ := hs.refuses (fun y hy => hxs y (List.mem_cons_of_mem _ hy)) rfl
    exact ⟨hroot, .inr rfl⟩

/-- A result comes after answers. -/
theorem answers (h : m.FindsFirst criteria xs r) {a : α} (hr : r = .ok a) :
    xs ≠ [] ∧ ∀ x ∈ xs, x.fault = none := by
  subst hr
  rcases h with _ | _ | _ | ⟨rfl, hs⟩
  · simp
  · have hrest := (hs.answers rfl).2
    simpa using hrest

end FindsFirst

end Model

/-! ## The promise -/

/-- What an operation promises of a course: an error that is answered ends it, as the error that is reported,
inside the names for its request; without one, an error is about the arguments, and nothing has been asked
but a find; a result comes after answers only; and there are two exchanges at most, the first one the find,
or only one. -/
structure FailStop (m : Model) (op : Operation) (xs : List Exchange) (r : Except Error α) : Prop where
  stops : ∀ before x after e, xs = before ++ x :: after → x.fault = some e →
    after = [] ∧ ∃ e', r = .error e' ∧ e'.root = e.root ∧
      e'.message = m.named (op.names before x.request) e.message
  refuses : (∀ x ∈ xs, x.fault = none) → ∀ e, r = .error e → (∃ cause, e.root = .validation cause) ∧
    (xs = [] ∨ ∃ criteria, op.sought? = some criteria ∧ xs = [⟨m.findRequest criteria, none⟩])
  answers : ∀ a, r = .ok a → xs ≠ [] ∧ ∀ x ∈ xs, x.fault = none
  finds : ∀ criteria, op.sought? = some criteria → ∀ x rest, xs = x :: rest →
    x.request = m.findRequest criteria
  bounded : xs.length ≤ if op.sought?.isSome then 2 else 1

namespace FailStop

variable {m : Model} {op : Operation} {xs : List Exchange} {r : Except Error α} {criteria : Filter}

theorem map (g : α → β) (h : FailStop m op xs r) : FailStop m op xs (r.map g) where
  stops before x after e hxs hx := by
    obtain ⟨hafter, e', hr, he'⟩ := h.stops before x after e hxs hx
    exact ⟨hafter, e', Result.map_eq_error.2 hr, he'⟩
  refuses hxs e hr := h.refuses hxs e (Result.map_eq_error.1 hr)
  answers b hr := by
    obtain ⟨a, ha, -⟩ := Result.map_eq_ok.1 hr
    exact h.answers a ha
  finds := h.finds
  bounded := h.bounded

/-- An operation that sends one statement. -/
theorem ofSends (hop : op.sought? = none) (h : m.Sends (fun _ => [op.name]) xs r) : FailStop m op xs r where
  stops before x after e hxs hx := by
    obtain ⟨-, hafter, hr⟩ := h.stops hxs hx
    have hnames : op.names before x.request = [op.name] := by
      rw [Operation.names, hop]
      rfl
    rw [hnames]
    exact ⟨hafter, _, hr, m.root_aroundAll _ e, m.message_aroundAll _ e⟩
  refuses hxs e hr := by
    obtain ⟨hnone, hroot⟩ := h.refuses hxs hr
    exact ⟨hroot, .inl hnone⟩
  answers a hr := h.answers hr
  finds criteria hcriteria := by
    rw [hop] at hcriteria
    cases hcriteria
  bounded := by
    rw [hop]
    exact h.length_le

/-- An operation that finds a row before it writes. -/
theorem ofFindsFirst (hop : op.sought? = some criteria) (hname : op.name = "find_one_and_update")
    (h : m.FindsFirst criteria xs r) : FailStop m op xs r where
  stops before x after e hxs hx := by
    obtain ⟨hafter, hr⟩ := h.stops hxs hx
    have hnames : op.names before x.request =
        "find_one_and_update" :: Operation.inner before x.request := by
      rw [Operation.names, hop, hname]
      rfl
    rw [hnames]
    exact ⟨hafter, _, hr, m.root_aroundAll _ e, m.message_aroundAll _ e⟩
  refuses hxs e hr := by
    obtain ⟨hroot, hnone | hfind⟩ := h.refuses hxs hr
    · exact ⟨hroot, .inl hnone⟩
    · exact ⟨hroot, .inr ⟨criteria, hop, hfind⟩⟩
  answers a hr := h.answers hr
  finds criteria' hcriteria x rest hxs := by
    obtain rfl : criteria = criteria' := Option.some.inj (hop.symm.trans hcriteria)
    subst hxs
    exact h.request_head
  bounded := by
    rw [hop]
    exact h.length_le

end FailStop

namespace Model

variable {m : Model} {op : Operation}

theorem takes_only {x : Action α} (hx : x.Takes (FailStop m op)) : x.only.Takes (FailStop m op) :=
  (hx.mono fun _ _ => FailStop.map _).map

/-- **Every operation keeps the promise.** -/
theorem takes_perform (m : Model) (op : Operation) : (m.perform op).Takes (FailStop m op) := by
  have hone {α : Type} {x : Action α} (hop : op.sought? = none) (hx : x.Takes (m.Sends fun _ => [op.name])) :
      x.only.Takes (FailStop m op) := takes_only (hx.mono fun _ _ => FailStop.ofSends hop)
  have htwo {α : Type} {x : Action α} {criteria : Filter} (hop : op.sought? = some criteria)
      (hname : op.name = "find_one_and_update") (hx : x.Takes (m.FindsFirst criteria)) :
      x.only.Takes (FailStop m op) := takes_only (hx.mono fun _ _ => FailStop.ofFindsFirst hop hname)
  rcases op with data | ⟨criteria, options⟩ | ⟨criteria, options⟩ | criteria | ⟨criteria, doc, upsert⟩ |
    ⟨criteria, updates, _ | _⟩ | ⟨criteria, updates⟩ | criteria | criteria | criteria | ⟨sql, params⟩
  · exact hone rfl (takes_insertOne (fun _ _ => rfl) data)
  · exact hone rfl (takes_findOne criteria options)
  · exact hone rfl (takes_findAll criteria options)
  · exact hone rfl (takes_findAll criteria .usual)
  · exact htwo rfl rfl (takes_findOneAndUpdate criteria doc upsert)
  · exact hone rfl (takes_update (fun _ _ => rfl) criteria updates _)
  · exact htwo rfl rfl (takes_findOneAndUpdate criteria (.ofSet updates) true)
  · exact hone rfl (takes_updateMany criteria updates)
  · exact hone rfl (takes_deleteOne criteria)
  · exact hone rfl (takes_remove criteria)
  · exact hone rfl (takes_count criteria)
  · exact hone rfl (takes_fetch (fun _ _ => rfl) _)

end Model

/-! ## The main result -/

/-- **Operations stop at the first failure.** Whatever an executor answers, the exchanges of an operation are
about its requests, and their course keeps the promise: the operation asks nothing after an error and reports
that error, inside its own name and, for the find or the insertion of one that finds and writes, that of the
part; without one, it fails for its arguments only, before it asks for anything but the row to write; and it
succeeds only after it has asked and been answered. -/
theorem operations_fail_stop (m : Model) (op : Operation) (ex : Executor σ) (s : σ) :
    let exchanges := (m.perform op).run.exchanges ex s
    let run := (m.perform op).run.run ex s
    exchanges.map (·.request) = run.requests ∧ FailStop m op exchanges run.result := by
  intro exchanges run
  exact ⟨Plan.request_exchanges ex _ s, m.takes_perform op ex s⟩

/-- An executor that finds no row, and is closed by the first thing it is asked. -/
def Executor.closing : Executor Bool where
  query _ _ closed := ⟨if closed then .error (.connection "closed") else .ok [], [], true⟩
  execute _ _ closed := ⟨if closed then .error (.connection "closed") else .ok 0, [], true⟩

/-- An upserting update whose insertion fails: nothing follows, and both operations are named. -/
theorem operations_fail_stop_users :
    let op := Operation.updateOne (Filter.empty.literal "name" (.text "Ada"))
      (Record.ofList [("age", .int 36)]) true
    let run := (Model.users.perform op).run.run Executor.closing false
    run.requests.length = 2 ∧ ∃ e, run.result = .error e ∧ e.root = .connection "closed" ∧
      e.message = "find_one_and_update(users): insert_one(users): Connection error: closed" := by
  intro op run
  obtain ⟨hrequests, hstop⟩ := operations_fail_stop .users op Executor.closing false
  obtain ⟨find, sql, params, hexchanges⟩ : ∃ find sql params,
      (Model.users.perform op).run.exchanges Executor.closing false =
        [find] ++ ⟨.query sql params, some (.connection "closed")⟩ :: [] := ⟨_, _, _, rfl⟩
  obtain ⟨-, e, hr, hroot, hmessage⟩ := hstop.stops _ _ _ _ hexchanges rfl
  have hlength : run.requests.length = 2 := by
    rw [← hrequests, hexchanges]
    rfl
  exact ⟨hlength, e, hr, hroot, hmessage⟩

end CriteriaSql
