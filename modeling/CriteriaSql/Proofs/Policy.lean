import CriteriaSql.Proofs.Run
import CriteriaSql.Proofs.Trusted

/-!
# The two policies agree where nothing is dropped

Under both policies a document is read by the same steps; they part only where an unknown operator is met,
which one reports and the other refuses. So rejecting reads exactly the documents that ignoring reads
without a report, and to the same filter.

* `Noted.Refines`: a strict computation beside a lenient one; it is closed under chaining.
* `Filter.ofJson_refines`: so are the two readings of a document.
* `Builder.run_unknownOperators`: calls that rejecting carries out do the same under any policy.
* `policies_agree`: documents, and builders of a model under one policy or the other.
-/

namespace CriteriaSql

/-! ## Strict and lenient computations -/

/-- A strict computation beside a lenient one: the strict one reports nothing, and it has just those results
that the lenient one has without a report. All that the lenient one reports is dropped operators. -/
structure Noted.Refines (strict lenient : Noted α) : Prop where
  silent : strict.events = []
  drops : ∀ e ∈ lenient.events, ∃ field key, e = .droppedOperator field key
  ok_iff : ∀ a, strict.result = .ok a ↔ lenient.result = .ok a ∧ lenient.events = []

namespace Noted

variable {strict lenient : Noted α} {f g : α → Noted β}

theorem bind_events (x : Noted α) (f : α → Noted β) :
    (x >>= f).events = x.events ++ match x.result with
      | .ok a => (f a).events
      | .error _ => [] := by
  change (x.andThen f).events = _
  unfold Noted.andThen
  cases x.result with
  | ok a => rfl
  | error cause => exact (List.append_nil _).symm

/-- A computation without reports refines itself. -/
theorem Refines.ofSilent {x : Noted α} (h : x.events = []) : x.Refines x where
  silent := h
  drops e he := by rw [h] at he; cases he
  ok_iff a := ⟨fun ha => ⟨ha, h⟩, fun ha => ha.1⟩

/-- **Chains refine if their links do.** -/
theorem Refines.bind (h : strict.Refines lenient) (hfg : ∀ a, (f a).Refines (g a)) :
    (strict >>= f).Refines (lenient >>= g) := by
  obtain ⟨hsilent, hdrops, hok⟩ := h
  refine ⟨?_, ?_, fun b => ?_⟩
  · rw [bind_events, hsilent, List.nil_append]
    cases strict.result with
    | ok a => exact (hfg a).silent
    | error cause => rfl
  · intro e he
    rw [bind_events, List.mem_append] at he
    rcases he with he | he
    · exact hdrops e he
    · cases hr : lenient.result with
      | ok a => rw [hr] at he; exact (hfg a).drops e he
      | error cause => rw [hr] at he; cases he
  -- the chain is silent if both links are, and the strict links say when they are
  · rw [bind_result, bind_result, bind_events, Result.bind_eq_ok, Result.bind_eq_ok, List.append_eq_nil_iff]
    constructor
    · rintro ⟨a, ha, hb⟩
      obtain ⟨hla, hle⟩ := (hok a).1 ha
      obtain ⟨hgb, hge⟩ := ((hfg a).ok_iff b).1 hb
      refine ⟨⟨a, hla, hgb⟩, hle, ?_⟩
      rw [hla]
      exact hge
    · rintro ⟨⟨a, hla, hgb⟩, hle, hge⟩
      rw [hla] at hge
      exact ⟨a, (hok a).2 ⟨hla, hle⟩, ((hfg a).ok_iff b).2 ⟨hgb, hge⟩⟩

end Noted

/-! ## The two readings of a document -/

namespace Filter

open Noted (Refines)

/-- An unknown operator is refused by one policy and reported by the other. -/
theorem unknown_refines (field key : String) :
    (unknown .reject field key).Refines (unknown .ignore field key) where
  silent := rfl
  drops e he := ⟨field, key, List.mem_singleton.1 he⟩
  ok_iff u := by simp [unknown, Noted.fault, Noted.emit]

theorem unknownAll_refines (field : String) (keys : List String) :
    (unknownAll .reject field keys).Refines (unknownAll .ignore field keys) := by
  induction keys with
  | nil => exact .ofSilent rfl
  | cons key keys ih => exact (unknown_refines field key).bind fun _ => ih

theorem ofOperators_refines (field : String) (members : List (String × Json)) :
    (ofOperators .reject field members).Refines (ofOperators .ignore field members) := by
  cases members with
  | nil => exact .ofSilent rfl
  | cons member extra =>
    obtain ⟨key, operand⟩ := member
    refine (unknownAll_refines field (extra.map (·.1))).bind fun _ => ?_
    -- the operand is read alike, and its key is judged after it
    have hread : (Noted.ofExcept (operator? field key operand)).Refines
        (Noted.ofExcept (operator? field key operand)) := .ofSilent rfl
    refine hread.bind fun found => ?_
    cases found with
    | some op => exact .ofSilent rfl
    | none => exact (unknown_refines field key).bind fun _ => .ofSilent rfl

theorem ofMember_refines (field : String) (raw : Json) :
    (ofMember .reject field raw).Refines (ofMember .ignore field raw) := by
  cases raw with
  | object members => exact ofOperators_refines field members
  | array items => exact (unknown_refines field "[array]").bind fun _ => .ofSilent rfl
  | _ => exact .ofSilent rfl

theorem addMembers_refines (members : List (String × Json)) (f : Filter) :
    (addMembers .reject f members).Refines (addMembers .ignore f members) := by
  induction members generalizing f with
  | nil => exact .ofSilent rfl
  | cons member members ih =>
    obtain ⟨field, raw⟩ := member
    unfold addMembers
    split
    · exact ih f
    · refine (ofMember_refines field raw).bind fun found => ?_
      cases found with
      | some condition => exact ih (f.add field condition)
      | none => exact ih f

/-- **Rejecting refines ignoring**, for every document. -/
theorem ofJson_refines (j : Json) : (ofJson .reject j).Refines (ofJson .ignore j) := by
  cases j with
  | object members => exact addMembers_refines members empty
  | _ => exact .ofSilent rfl

/-- A document that rejecting reads is read to the same filter under any policy. -/
theorem ofJson_eq_ok {j : Json} {f : Filter} (h : (ofJson .reject j).result = .ok f) (policy : Policy) :
    (ofJson policy j).result = .ok f := by
  cases policy with
  | reject => exact h
  | ignore => exact (((ofJson_refines j).ok_iff f).1 h).1

end Filter

/-! ## Builders under either policy -/

/-- The calls whose document, if they have one, is read when unknown operators are rejected. -/
def Call.ReadStrictly : Call → Prop
  | .restrictJson _ document => ∃ f, (Filter.ofJson .reject document).result = .ok f
  | _ => True

namespace Builder

/-- Builders that differ in their policy only take the same steps. -/
theorem attempt_unknownOperators {r : Except Invalid α} {f : α → Builder → Builder} (p q : Policy)
    (hf : ∀ a b, (f a (b.unknownOperators p)).unknownOperators q = (f a b).unknownOperators q) (b : Builder) :
    ((b.unknownOperators p).attempt r f).unknownOperators q = (b.attempt r f).unknownOperators q := by
  cases r with
  | ok a => exact hf a b
  | error cause => rfl

theorem restrict_unknownOperators (connective : Connective) (filter : Filter) (p q : Policy) (b : Builder) :
    ((b.unknownOperators p).restrict connective filter).unknownOperators q =
      (b.restrict connective filter).unknownOperators q :=
  attempt_unknownOperators p q (fun _ _ => rfl) b

/-- **A call that rejecting carries out does the same under any policy.** -/
theorem apply_unknownOperators {call : Call} (h : call.ReadStrictly) (p q : Policy) (b : Builder) :
    ((b.unknownOperators p).apply call).unknownOperators q = (b.apply call).unknownOperators q := by
  cases call with
  | restrict connective filter => exact restrict_unknownOperators connective filter p q b
  | restrictJson connective document =>
    obtain ⟨f, hf⟩ := h
    have hread (policy : Policy) : (Filter.ofJson policy document).result = .ok f :=
      Filter.ofJson_eq_ok hf policy
    have hcall (b : Builder) : b.restrictJson connective document = b.restrict connective f := by
      rw [restrictJson, hread]
      rfl
    rw [apply, apply, hcall, hcall]
    exact restrict_unknownOperators connective f p q b
  | join kind table condition => exact attempt_unknownOperators p q (fun _ _ => rfl) b
  | sortBy field direction => exact attempt_unknownOperators p q (fun _ _ => rfl) b
  | _ => rfl

theorem run_unknownOperators {calls : List Call} (h : ∀ call ∈ calls, call.ReadStrictly) (p q : Policy)
    (b : Builder) :
    ((b.unknownOperators p).run calls).unknownOperators q = (b.run calls).unknownOperators q := by
  -- from two builders that differ in their policy only, each call leads to two such builders
  suffices hpair : ∀ b c : Builder, b.unknownOperators q = c.unknownOperators q →
      (b.run calls).unknownOperators q = (c.run calls).unknownOperators q from hpair _ _ rfl
  induction calls with
  | nil => exact fun b c hbc => hbc
  | cons call calls ih =>
    intro b c hbc
    have hcall := h call List.mem_cons_self
    have hstep : (b.apply call).unknownOperators q = (c.apply call).unknownOperators q := by
      rw [← apply_unknownOperators hcall q q b, ← apply_unknownOperators hcall q q c, hbc]
    exact ih (fun call' hmem => h call' (List.mem_cons_of_mem _ hmem)) _ _ hstep

end Builder

/-! ## The main result -/

/-- A model with another policy for unknown operators. -/
def Model.withPolicy (m : Model) (policy : Policy) : Model :=
  { m with config := { m.config with policy := policy } }

/-- **The policies agree where nothing is dropped.** Rejecting reads a document to a filter exactly when
ignoring reads it to that filter and reports no dropped operator. So a chain of calls whose documents a
rejecting model reads leaves an ignoring model's builder with the same criteria and the same statements. -/
theorem policies_agree :
    (∀ (j : Json) (f : Filter), (Filter.ofJson .reject j).result = .ok f ↔
      (Filter.ofJson .ignore j).result = .ok f ∧
        ∀ e ∈ (Filter.ofJson .ignore j).events, e.message ≠ "dropping unsupported filter operator") ∧
    ∀ (m : Model) (calls : List Call),
      (∀ connective document, .restrictJson connective document ∈ calls →
        ∃ f, ((m.withPolicy .reject).filter document).result = .ok f) →
      let strict := (m.withPolicy .reject).builder.run calls
      let lenient := (m.withPolicy .ignore).builder.run calls
      strict.criteria = lenient.criteria ∧ ∀ k, strict.buildFrom k = lenient.buildFrom k := by
  refine ⟨fun j f => ?_, fun m calls hread => ?_⟩
  · have hrefines := Filter.ofJson_refines j
    rw [hrefines.ok_iff f]
    refine and_congr_right fun _ => ⟨fun hnil e he => ?_, fun hnone => ?_⟩
    · rw [hnil] at he
      cases he
    -- every report is a dropped operator, so there is none
    · refine List.eq_nil_iff_forall_not_mem.2 fun e he => ?_
      obtain ⟨field, key, rfl⟩ := hrefines.drops e he
      exact hnone _ he rfl
  · have hcalls : ∀ call ∈ calls, call.ReadStrictly := by
      intro call hcall
      cases call with
      | restrictJson connective document => exact hread connective document hcall
      | _ => trivial
    have hsame := Builder.run_unknownOperators hcalls .reject .ignore (m.withPolicy .ignore).builder
    have hcriteria := congrArg Builder.criteria hsame
    have hbuilt (k : Nat) := congrArg (Builder.buildFrom k) hsame
    exact ⟨hcriteria, hbuilt⟩

/-- A document with a further key, which ignoring reads with a report and rejecting does not read; and one
that both read, on the builder of a model. -/
theorem policies_agree_users :
    let pattern := Json.object [("name", .object [("$like", .string "a%")]), ("age", .null)]
    let further := Json.object [("name", .object [("$like", .string "a%"), ("$not", .null)])]
    let calls := [.restrictJson .or pattern, .limit 3]
    (∃ f, (Filter.ofJson .ignore further).result = .ok f ∧ (Filter.ofJson .reject further).result ≠ .ok f) ∧
      ∃ s, ((Model.users.withPolicy .reject).builder.run calls).buildFrom 0 = .ok s ∧
        ((Model.users.withPolicy .ignore).builder.run calls).buildFrom 0 = .ok s ∧
        s.fragments = ["SELECT * FROM users", "WHERE", "LOWER(name) LIKE LOWER($1)", "LIMIT 3"] := by
  intro pattern further calls
  obtain ⟨hdocument, hmodel⟩ := policies_agree
  constructor
  · refine ⟨⟨[("name", .operator (.like "a%"))]⟩, rfl, fun hread => ?_⟩
    have hsilent := ((hdocument further _).1 hread).2
    exact hsilent (.droppedOperator "name" "$not") (List.mem_singleton.2 rfl) rfl
  · have hread : ∀ connective document, .restrictJson connective document ∈ calls →
        ∃ f, ((Model.users.withPolicy .reject).filter document).result = .ok f := by
      intro connective document hcall
      obtain ⟨-, rfl⟩ : connective = .or ∧ document = pattern := by simpa [calls] using hcall
      exact ⟨⟨[("name", .operator (.like "a%")), ("age", .literal .null)]⟩, rfl⟩
    have hsame := (hmodel .users calls hread).2 0
    obtain ⟨s, hs, hfragments⟩ : ∃ s,
        ((Model.users.withPolicy .ignore).builder.run calls).buildFrom 0 = .ok s ∧ s.fragments =
          ["SELECT * FROM users", "WHERE", "LOWER(name) LIKE LOWER($1)", "LIMIT 3"] :=
      ⟨_, rfl, by decide⟩
    exact ⟨s, hsame.trans hs, hs, hfragments⟩

end CriteriaSql
