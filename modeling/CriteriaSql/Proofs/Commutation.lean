import Mathlib.Data.List.Basic
import CriteriaSql.Proofs.Faults

/-!
# Independent calls commute

A call contributes to one part of a statement, and whether it can be carried out depends on its own
arguments and the policy. So calls can be rearranged freely as long as those of one part keep their order:
the builder then holds the same but for the fault of the first call that fails.

* `Call.part?`: the part that a call contributes to.
* `Call.Rearranged`: chains with the same calls for each part, in the same order.
* `Builder.gathered_rearranged`: what rearranged calls leave in a builder.
* `independent_calls_commute`: the builds after rearranged calls.
-/

namespace CriteriaSql

namespace Call

/-! ## Parts of a statement -/

/-- What calls contribute to. -/
inductive Part where
  | projection
  | table
  | criteria (connective : Connective)
  | joins
  | sorts
  | limit
  | offset
  | updates
  deriving DecidableEq

/-- The part that a call contributes to. -/
def part? : Call → Option Part
  | .select _ | .selectUnchecked _ => some .projection
  | .fromTable _ => some .table
  | .restrict connective _ | .restrictJson connective _ | .predicate connective _ =>
    some (.criteria connective)
  | .join _ _ _ => some .joins
  | .sortBy _ _ => some .sorts
  | .limit _ => some .limit
  | .offset _ => some .offset
  | .setFields _ => some .updates
  | .unknownOperators _ | .prepare _ | .reset => none

theorem part?_isSome {call : Call} : call.part?.isSome ↔ call.Contributes := by
  cases call <;> simp [part?, Contributes]

instance : DecidablePred Contributes := fun _ => decidable_of_iff _ part?_isSome

/-- What a call contributes, conditions apart, belongs to its part. -/
structure OfOwnPart (schema : Schema) (call : Call) : Prop where
  projection : call.part? ≠ some .projection → call.projected? schema = none
  table : call.part? ≠ some .table → call.table? = none
  joins : call.part? ≠ some .joins → call.join? = none
  sorts : call.part? ≠ some .sorts → call.sort? = none
  limit : call.part? ≠ some .limit → call.limit? = none
  offset : call.part? ≠ some .offset → call.offset? = none
  updates : call.part? ≠ some .updates → call.updates? = none

theorem ofOwnPart (schema : Schema) (call : Call) : OfOwnPart schema call := by
  cases call <;> constructor <;> simp +contextual [part?]

/-- Conditions come from the calls for their connective. -/
theorem given_of_part?_ne {call : Call} {connective : Connective} (policy : Policy)
    (hp : call.part? ≠ some (.criteria connective)) : call.given policy connective = [] := by
  cases call <;> simp_all [part?]

/-- The calls of a chain that contribute to a part. -/
def ofPart (part : Part) (calls : List Call) : List Call := calls.filter (·.part? = some part)

/-- Chains of contributing calls that differ in how calls for different parts are interleaved, and in nothing
else. -/
structure Rearranged (first second : List Call) : Prop where
  contribute : ∀ call ∈ first ++ second, call.Contributes
  parts : ∀ part, ofPart part first = ofPart part second

variable {first second : List Call}

theorem mem_ofPart {part : Part} {calls : List Call} {call : Call} :
    call ∈ ofPart part calls ↔ call ∈ calls ∧ call.part? = some part := by
  simp [ofPart]

theorem ofPart_cons (part : Part) (call : Call) (calls : List Call) :
    ofPart part (call :: calls) =
      if call.part? = some part then call :: ofPart part calls else ofPart part calls := by
  simp [ofPart, List.filter_cons]

/-- A list that only the calls for one part add to is collected from these calls. -/
theorem flatMap_ofPart {part : Part} {f : Call → List α} (hf : ∀ call, call.part? ≠ some part → f call = [])
    (calls : List Call) : (ofPart part calls).flatMap f = calls.flatMap f := by
  induction calls with
  | nil => rfl
  | cons call calls ih =>
    rw [ofPart_cons, List.flatMap_cons, ← ih]
    by_cases hp : call.part? = some part
    · rw [if_pos hp, List.flatMap_cons]
    · rw [if_neg hp, hf call hp, List.nil_append]

namespace Rearranged

theorem flatMap_eq (h : Rearranged first second) (part : Part) {f : Call → List α}
    (hf : ∀ call, call.part? ≠ some part → f call = []) : first.flatMap f = second.flatMap f := by
  rw [← flatMap_ofPart hf first, ← flatMap_ofPart hf second, h.parts]

theorem contributes_first (h : Rearranged first second) : ∀ call ∈ first, call.Contributes :=
  fun call hc => h.contribute call (List.mem_append_left _ hc)

theorem contributes_second (h : Rearranged first second) : ∀ call ∈ second, call.Contributes :=
  fun call hc => h.contribute call (List.mem_append_right _ hc)

theorem symm (h : Rearranged first second) : Rearranged second first := by
  refine ⟨fun call hc => ?_, fun part => (h.parts part).symm⟩
  rcases List.mem_append.1 hc with hc | hc
  · exact h.contributes_second call hc
  · exact h.contributes_first call hc

theorem mem (h : Rearranged first second) {call : Call} (hc : call ∈ first) : call ∈ second := by
  obtain ⟨part, hpart⟩ := Option.isSome_iff_exists.1 (part?_isSome.2 (h.contributes_first call hc))
  have hmem : call ∈ ofPart part second := by
    rw [← h.parts]
    exact mem_ofPart.2 ⟨hc, hpart⟩
  exact (mem_ofPart.1 hmem).1

/-- If one of the chains has a call that fails, so has the other. -/
theorem fault (h : Rearranged first second) {policy : Policy} {cause : Invalid}
    (hf : first.findSome? (·.fault? policy) = some cause) :
    ∃ cause', second.findSome? (·.fault? policy) = some cause' := by
  obtain ⟨call, hc, hcause⟩ := List.exists_of_findSome?_eq_some hf
  refine Option.isSome_iff_exists.1 (List.findSome?_isSome_iff.2 ⟨call, h.mem hc, ?_⟩)
  rw [hcause]
  rfl

end Rearranged

end Call

/-! ## Histories -/

namespace History

variable (h : History)

/-- A history with more calls. -/
def pushAll (calls : List Call) : History := { h with calls := h.calls ++ calls.map (h.policy, ·) }

theorem pushAll_cons (call : Call) (calls : List Call) :
    h.pushAll (call :: calls) = (h.push call).pushAll calls := by
  simp [pushAll, push]

theorem collected_pushAll (f : Call → Option α) (calls : List Call) :
    (h.pushAll calls).collected f = h.collected f ++ calls.flatMap fun call => (f call).toList := by
  unfold collected pushAll
  rw [List.filterMap_append, List.filterMap_map, ← List.filterMap_eq_flatMap_toList]
  rfl

theorem given_pushAll (connective : Connective) (calls : List Call) :
    (h.pushAll calls).given connective =
      h.given connective ++ calls.flatMap fun call => call.given h.policy connective := by
  unfold given pushAll
  rw [List.flatMap_append, List.flatMap_map]

theorem fault?_pushAll (calls : List Call) :
    (h.pushAll calls).fault? = h.fault?.or (calls.findSome? (·.fault? h.policy)) := by
  unfold fault? pushAll
  rw [List.findSome?_append, List.findSome?_map]
  rfl

variable {first second : List Call}

/-- What is collected from one part does not depend on how the chains are interleaved. -/
theorem collected_rearranged (hr : Call.Rearranged first second) (part : Call.Part) {f : Call → Option α}
    (hf : ∀ call, call.part? ≠ some part → f call = none) :
    (h.pushAll first).collected f = (h.pushAll second).collected f := by
  rw [collected_pushAll, collected_pushAll]
  refine congrArg _ (hr.flatMap_eq part fun call hp => ?_)
  rw [hf call hp]
  rfl

theorem given_rearranged (hr : Call.Rearranged first second) (connective : Connective) :
    (h.pushAll first).given connective = (h.pushAll second).given connective := by
  have hgiven := hr.flatMap_eq (.criteria connective) fun call => call.given_of_part?_ne h.policy
  rw [given_pushAll, given_pushAll, hgiven]

end History

/-! ## Builders -/

namespace Builder

variable {schema : Schema} {h : History} {first second : List Call}

/-- Contributing calls are recorded. -/
theorem run_contributing {calls : List Call} (hc : ∀ call ∈ calls, call.Contributes) :
    (gathered schema h).run calls = gathered schema (h.pushAll calls) := by
  induction calls generalizing h with
  | nil => simp [run, History.pushAll]
  | cons call calls ih =>
    have hcall := apply_eq_take (gathered schema h) (hc call List.mem_cons_self)
    have hrest := ih (h := h.push call) fun c hmem => hc c (List.mem_cons_of_mem _ hmem)
    rw [History.pushAll_cons, ← hrest, gathered_push, ← hcall]
    rfl

/-- **Rearranged calls leave the same in a builder**, but for its fault. -/
theorem gathered_rearranged (hr : Call.Rearranged first second) :
    gathered schema (h.pushAll first) =
      { gathered schema (h.pushAll second) with failure := (h.pushAll first).fault? } := by
  have htables := h.collected_rearranged hr .table fun call => (call.ofOwnPart schema).table
  have hprojections := h.collected_rearranged hr .projection fun call => (call.ofOwnPart schema).projection
  have hjoins := h.collected_rearranged hr .joins fun call => (call.ofOwnPart schema).joins
  have hsorts := h.collected_rearranged hr .sorts fun call => (call.ofOwnPart schema).sorts
  have hlimits := h.collected_rearranged hr .limit fun call => (call.ofOwnPart schema).limit
  have hoffsets := h.collected_rearranged hr .offset fun call => (call.ofOwnPart schema).offset
  have hupdates := h.collected_rearranged hr .updates fun call => (call.ofOwnPart schema).updates
  have hand := h.given_rearranged hr .and
  have hor := h.given_rearranged hr .or
  unfold gathered History.table History.projection History.page History.assignments History.last?
  simp only [htables, hprojections, hjoins, hsorts, hlimits, hoffsets, hupdates, hand, hor]
  rfl

/-- Rearranged calls leave the same builder if one of the chains has no call that fails. -/
theorem run_rearranged (hr : Call.Rearranged first second)
    (hf : second.findSome? (·.fault? h.policy) = none) :
    (gathered schema h).run first = (gathered schema h).run second := by
  have hfirst : first.findSome? (·.fault? h.policy) = none := by
    refine Option.eq_none_iff_forall_ne_some.2 fun cause hcause => ?_
    obtain ⟨cause', hcause'⟩ := hr.fault hcause
    rw [hf] at hcause'
    cases hcause'
  have hfault : (h.pushAll first).fault? = (h.pushAll second).fault? := by
    rw [History.fault?_pushAll, History.fault?_pushAll, hfirst, hf]
  rw [run_contributing hr.contributes_first, run_contributing hr.contributes_second,
    gathered_rearranged hr, hfault]
  rfl

/-- The first call that fails decides the build, unless an earlier fault does. -/
theorem buildFrom_run {calls : List Call} (hc : ∀ call ∈ calls, call.Contributes) {cause : Invalid}
    (hf : h.fault?.or (calls.findSome? (·.fault? h.policy)) = some cause) (k : Nat) :
    ((gathered schema h).run calls).buildFrom k = .error cause := by
  rw [← History.fault?_pushAll] at hf
  rw [run_contributing hc]
  exact buildFrom_fault hf k

end Builder

/-! ## The main result -/

/-- **Independent calls commute.** After any chain of calls, two chains of contributing calls that keep the
order of the calls for each part build the same statement, with its placeholders numbered after any offset,
or both build none. They then report the same, or each the fault of its own first call that fails. -/
theorem independent_calls_commute (schema : Schema) (policy : Policy) (prior first second : List Call)
    (hr : Call.Rearranged first second) (k : Nat) :
    let b := (Builder.ofSchema schema policy).run prior
    (∃ s, (b.run first).buildFrom k = .ok s ∧ (b.run second).buildFrom k = .ok s) ∨
      ∃ c d, (b.run first).buildFrom k = .error c ∧ (b.run second).buildFrom k = .error d ∧
        (c = d ∨ first.findSome? (·.fault? b.policy) = some c ∧
          second.findSome? (·.fault? b.policy) = some d) := by
  intro b
  obtain ⟨h, hb⟩ : ∃ h, b = Builder.gathered schema h := ⟨_, Builder.run_gathered schema policy prior⟩
  rw [hb]
  have hfirst := hr.contributes_first
  have hsecond := hr.contributes_second
  cases hd : second.findSome? (·.fault? h.policy) with
  | none =>
    -- no call fails, so that the builders agree
    rw [Builder.run_rearranged hr hd]
    cases hs : ((Builder.gathered schema h).run second).buildFrom k with
    | ok s => exact .inl ⟨s, rfl, rfl⟩
    | error c => exact .inr ⟨c, c, rfl, rfl, .inl rfl⟩
  | some d =>
    obtain ⟨c, hc⟩ := hr.symm.fault hd
    right
    cases hf : h.fault? with
    | some e =>
      -- an earlier fault is reported after both
      refine ⟨e, e, Builder.buildFrom_run hfirst ?_ k, Builder.buildFrom_run hsecond ?_ k, .inl rfl⟩
      · rw [hf, Option.some_or]
      · rw [hf, Option.some_or]
    | none =>
      refine ⟨c, d, Builder.buildFrom_run hfirst ?_ k, Builder.buildFrom_run hsecond ?_ k, .inr ⟨hc, hd⟩⟩
      · rw [hf, Option.none_or, hc]
      · rw [hf, Option.none_or, hd]

/-- Calls for the criteria, the sorts and the page of a statement, interleaved in two ways; and two calls
that fail, of which the one made first is reported. -/
theorem independent_calls_commute_users :
    let adult := Call.predicate .and (.raw "age > 17")
    let named := Call.restrict .and (Filter.empty.literal "name" (.text "Ada"))
    let sorted := Call.sortBy "name" .desc
    let first := [adult, named, .limit 5, sorted, .limit 3]
    let second := [.limit 5, sorted, adult, .limit 3, named]
    let unjoined := Call.join .inner "pets" ""
    let unsorted := Call.sortBy " " .asc
    let b := (Builder.ofSchema .users .ignore).run [.fromTable "people"]
    (∃ s, (b.run first).buildFrom 2 = .ok s ∧ (b.run second).buildFrom 2 = .ok s ∧ s.fragments =
      ["SELECT * FROM people", "WHERE", "age > 17", "AND", "name = $3", "ORDER BY name DESC", "LIMIT 3"]) ∧
      (b.run [unjoined, unsorted]).buildFrom 0 = .error (.joinWithoutCondition "pets") ∧
      (b.run [unsorted, unjoined]).buildFrom 0 = .error .sortWithoutField := by
  intro adult named sorted first second unjoined unsorted b
  constructor
  · have hr : Call.Rearranged first second := by
      refine ⟨by decide, fun part => ?_⟩
      rcases part with _ | _ | (_ | _) | _ | _ | _ | _ | _ <;> rfl
    obtain ⟨s, hs, hfragments⟩ : ∃ s, (b.run first).buildFrom 2 = .ok s ∧ s.fragments =
        ["SELECT * FROM people", "WHERE", "age > 17", "AND", "name = $3", "ORDER BY name DESC", "LIMIT 3"] :=
      ⟨_, rfl, by decide⟩
    rcases independent_calls_commute .users .ignore [.fromTable "people"] first second hr 2 with
      ⟨t, ht, hsecond⟩ | ⟨c, d, hc, -⟩
    · obtain rfl : s = t := Except.ok.inj (hs.symm.trans ht)
      exact ⟨s, hs, hsecond, hfragments⟩
    · cases hs.symm.trans hc
  · have hr : Call.Rearranged [unjoined, unsorted] [unsorted, unjoined] := by
      refine ⟨by decide, fun part => ?_⟩
      rcases part with _ | _ | (_ | _) | _ | _ | _ | _ | _ <;> rfl
    rcases independent_calls_commute .users .ignore [.fromTable "people"] _ _ hr 0 with
      ⟨t, ht, -⟩ | ⟨c, d, hc, hd, -⟩
    · cases ht
    · obtain rfl : c = .joinWithoutCondition "pets" := (Except.error.inj hc).symm
      obtain rfl : d = .sortWithoutField := (Except.error.inj hd).symm
      exact ⟨hc, hd⟩

end CriteriaSql
