import CriteriaSql.Proofs.Alike
import CriteriaSql.Proofs.Record
import CriteriaSql.Proofs.Staged

/-!
# Values stay out of the text

Two runs of the same calls, whose arguments differ in operand values only, fail with the same error or
build statements with the same text, the same placeholders and equally many values. So no value reaches
the text.

* `Statement.SameText`: what two such statements share.
* `Builder.apply_alike`, `run_alike`: calls keep builders alike.
* `values_stay_out_of_text`: builders, insertions and staged writes.
-/

namespace CriteriaSql

open List (Forall₂)
open Result (Both)

/-- Statements with the same text and placeholders, and equally many values. -/
structure Statement.SameText (s t : Statement) : Prop where
  fragments : s.fragments = t.fragments
  placeholders : s.placeholders = t.placeholders
  values : s.values.length = t.values.length

namespace Statement

theorem SameText.refl (s : Statement) : s.SameText s := ⟨rfl, rfl, rfl⟩

theorem SameText.append {s t s' t' : Statement} (h : s.SameText t) (h' : s'.SameText t') :
    (s ++ s').SameText (t ++ t') where
  fragments := by rw [append_fragments, append_fragments, h.fragments, h'.fragments]
  placeholders := by rw [append_placeholders, append_placeholders, h.placeholders, h'.placeholders]
  values := by rw [append_values, append_values, List.length_append, List.length_append, h.values, h'.values]

theorem sameText_bound {vs ws : List Value} (h : vs.length = ws.length) (fragments : List String)
    (first : Nat) : (bound fragments vs first).SameText (bound fragments ws first) where
  fragments := rfl
  placeholders := by unfold bound; rw [h]
  values := h

end Statement

/-! ## Criteria -/

theorem Operator.Alike.operands_length {p q : Operator} (h : p.Alike q) :
    p.operands.length = q.operands.length := by
  cases h with
  | compare c v w => rfl
  | inList h => exact h
  | like p q => rfl

namespace Predicate

theorem Alike.operands_length {p q : Predicate} (h : p.Alike q) : p.operands.length = q.operands.length := by
  cases h with
  | field name h => exact h.operands_length
  | raw sql => rfl

/-- **The text of a condition does not show its operand.** -/
theorem Alike.sql {p q : Predicate} (h : p.Alike q) (k : Nat) : p.sql k = q.sql k := by
  cases h with
  | raw sql => rfl
  | field name h =>
    cases h with
    | compare c v w => rfl
    | inList h => simp only [Predicate.sql, h]
    | like p q => rfl

end Predicate

namespace Criteria

/-- Alike conditions in both sequences. -/
structure Alike (c d : Criteria) : Prop where
  conjuncts : Forall₂ Predicate.Alike c.conjuncts d.conjuncts
  disjuncts : Forall₂ Predicate.Alike c.disjuncts d.disjuncts

/-- The same connective before alike conditions. -/
def Joined (p q : Connective × Predicate) : Prop := p.1 = q.1 ∧ p.2.Alike q.2

theorem Alike.toList {c d : Criteria} (h : c.Alike d) : Forall₂ Joined c.toList d.toList :=
  List.rel_append (List.rel_map (fun _ _ hp => ⟨rfl, hp⟩) h.conjuncts)
    (List.rel_map (fun _ _ hp => ⟨rfl, hp⟩) h.disjuncts)

theorem following_alike {ps qs : List (Connective × Predicate)} (h : Forall₂ Joined ps qs) (k : Nat) :
    following k ps = following k qs := by
  induction h generalizing k with
  | nil => rfl
  | cons hp _ ih => rw [following, following, hp.1, hp.2.sql, hp.2.operands_length, ih]

theorem clause_alike {ps qs : List (Connective × Predicate)} (h : Forall₂ Joined ps qs) (k : Nat) :
    clause k ps = clause k qs := by
  cases h with
  | nil => rfl
  | cons hp hps => rw [clause, clause, hp.2.sql, hp.2.operands_length, following_alike hps]

theorem values_alike {ps qs : List (Connective × Predicate)} (h : Forall₂ Joined ps qs) :
    (ps.flatMap (·.2.operands)).length = (qs.flatMap (·.2.operands)).length := by
  induction h with
  | nil => rfl
  | cons hp _ ih =>
    rw [List.flatMap_cons, List.flatMap_cons, List.length_append, List.length_append, ih,
      hp.2.operands_length]

theorem Alike.push {c d : Criteria} (h : c.Alike d) (connective : Connective) {p q : Predicate}
    (hp : p.Alike q) : (c.push connective p).Alike (d.push connective q) := by
  cases connective with
  | and => exact ⟨List.rel_append h.conjuncts (.cons hp .nil), h.disjuncts⟩
  | or => exact ⟨h.conjuncts, List.rel_append h.disjuncts (.cons hp .nil)⟩

theorem Alike.pushAll {ps qs : List Predicate} (hps : Forall₂ Predicate.Alike ps qs)
    (connective : Connective) {c d : Criteria} (h : c.Alike d) :
    (c.pushAll connective ps).Alike (d.pushAll connective qs) := by
  induction hps generalizing c d with
  | nil => exact h
  | cons hp _ ih => exact ih (h.push connective hp)

theorem Alike.isEmpty_eq {c d : Criteria} (h : c.Alike d) : c.isEmpty = d.isEmpty := by
  obtain ⟨cs, ds⟩ := c
  obtain ⟨cs', ds'⟩ := d
  obtain ⟨hc, hd⟩ := h
  cases hc <;> cases hd <;> rfl

theorem Alike.addFilter {c d : Criteria} (h : c.Alike d) (connective : Connective) {f g : Filter}
    (hf : f.Alike g) : Both Alike (c.addFilter connective f) (d.addFilter connective g) :=
  (Filter.predicates_alike hf).map fun _ _ hps => Alike.pushAll hps connective h

end Criteria

/-! ## Builders -/

namespace Builder

/-- Builders that differ in the operands of their conditions and in assigned values only. -/
def Alike (b b' : Builder) : Prop :=
  ∃ criteria assignments, b.criteria.Alike criteria ∧ b.assignments.columns = assignments.columns ∧
    b' = { b with criteria := criteria, assignments := assignments }

theorem Alike.refl_ofSchema (schema : Schema) (policy : Policy) :
    (ofSchema schema policy).Alike (ofSchema schema policy) :=
  ⟨.empty, .empty, ⟨.nil, .nil⟩, rfl, rfl⟩

variable {b b' : Builder}

/-- What leaves criteria and assignments alone keeps builders alike. -/
theorem Alike.lift {g : Builder → Builder} (h : b.Alike b') (hcriteria : (g b).criteria = b.criteria)
    (hassignments : (g b).assignments = b.assignments)
    (hg : ∀ c r,
      g { b with criteria := c, assignments := r } = { g b with criteria := c, assignments := r }) :
    (g b).Alike (g b') := by
  obtain ⟨c, r, hc, hr, rfl⟩ := h
  exact ⟨c, r, hcriteria ▸ hc, hassignments ▸ hr, hg c r⟩

theorem Alike.fail (h : b.Alike b') (cause : Invalid) : (b.fail cause).Alike (b'.fail cause) :=
  h.lift rfl rfl fun _ _ => rfl

theorem Alike.attempt {R : α → α → Prop} {x y : Except Invalid α} {f : α → Builder → Builder}
    (h : b.Alike b') (hxy : Both R x y)
    (hf : ∀ a a', R a a' → ∀ b b', b.Alike b' → (f a b).Alike (f a' b')) :
    (b.attempt x f).Alike (b'.attempt y f) := by
  cases hxy with
  | error cause => exact h.fail cause
  | ok ha => exact hf _ _ ha _ _ h

theorem Alike.attempt_same {x : Except Invalid α} {f : α → Builder → Builder} (h : b.Alike b')
    (hf : ∀ a b b', b.Alike b' → (f a b).Alike (f a b')) : (b.attempt x f).Alike (b'.attempt x f) := by
  cases x with
  | error cause => exact h.fail cause
  | ok a => exact hf a _ _ h

theorem Alike.restrict (h : b.Alike b') (connective : Connective) {f g : Filter} (hf : f.Alike g) :
    (b.restrict connective f).Alike (b'.restrict connective g) := by
  obtain ⟨c, r, hc, hr, rfl⟩ := h
  refine Alike.attempt ⟨c, r, hc, hr, rfl⟩ (hc.addFilter connective hf) fun d d' hd b b' hb => ?_
  obtain ⟨c, r, hc, hr, rfl⟩ := hb
  exact ⟨d', r, hd, hr, rfl⟩

theorem Alike.restrictJson (h : b.Alike b') (connective : Connective) {j j' : Json} (hj : j.Alike j') :
    (b.restrictJson connective j).Alike (b'.restrictJson connective j') := by
  obtain ⟨c, r, hc, hr, rfl⟩ := h
  exact Alike.attempt ⟨c, r, hc, hr, rfl⟩ (Filter.ofJson_alike hj).result
    fun f g hf b b' hb => hb.restrict connective hf

theorem Alike.predicate (h : b.Alike b') (connective : Connective) {p q : Predicate} (hp : p.Alike q) :
    (b.predicate connective p).Alike (b'.predicate connective q) := by
  obtain ⟨c, r, hc, hr, rfl⟩ := h
  exact ⟨_, r, hc.push connective hp, hr, rfl⟩

theorem Alike.setFields (h : b.Alike b') {r s : Record} (hr : r.columns = s.columns) :
    (b.setFields r).Alike (b'.setFields s) := by
  obtain ⟨c, a, hc, ha, rfl⟩ := h
  refine ⟨c, knownFields b.schema s, hc, ?_, rfl⟩
  change (knownFields b.schema r).columns = (knownFields b.schema s).columns
  -- which fields are assigned depends on the columns only
  rw [columns_knownFields, columns_knownFields]
  refine List.filter_congr fun f _ => ?_
  rw [Bool.eq_iff_iff, Record.contains_iff, Record.contains_iff, hr]

theorem Alike.staged (h : b.Alike b') (name : String) : (b.staged name).Alike (b'.staged name) :=
  h.lift rfl rfl fun _ _ => rfl

/-- **One call keeps builders alike.** -/
theorem apply_alike (h : b.Alike b') {call call' : Call} (hc : call.Alike call') :
    (b.apply call).Alike (b'.apply call') := by
  cases hc with
  | restrict connective hf => exact h.restrict connective hf
  | restrictJson connective hj => exact h.restrictJson connective hj
  | predicate connective hp => exact h.predicate connective hp
  | setFields hr => exact h.setFields hr
  | same call =>
    -- the same call on two builders, which may differ already
    cases call with
    | restrict connective f => exact h.restrict connective (.refl f)
    | restrictJson connective j => exact h.restrictJson connective (.refl j)
    | predicate connective p => exact h.predicate connective (.refl p)
    | setFields r => exact h.setFields rfl
    | prepare kind =>
      obtain ⟨c, r, -, -, rfl⟩ := h
      exact ⟨.empty, .empty, ⟨.nil, .nil⟩, rfl, rfl⟩
    | reset =>
      obtain ⟨c, r, -, -, rfl⟩ := h
      exact ⟨.empty, .empty, ⟨.nil, .nil⟩, rfl, rfl⟩
    | join kind table condition =>
      refine h.attempt_same fun j b b' hb => ?_
      exact hb.lift (g := fun b => { b with joins := b.joins ++ [j] }) rfl rfl fun _ _ => rfl
    | sortBy field direction =>
      refine h.attempt_same fun key b b' hb => ?_
      exact hb.lift (g := fun b => { b with sorts := b.sorts ++ [key] }) rfl rfl fun _ _ => rfl
    | _ => exact h.lift rfl rfl fun _ _ => rfl

theorem run_alike {calls calls' : List Call} (hcalls : Forall₂ Call.Alike calls calls') (h : b.Alike b') :
    (b.run calls).Alike (b'.run calls') := by
  induction hcalls generalizing b b' with
  | nil => exact h
  | cons hc _ ih => exact ih (apply_alike h hc)

theorem withCriteria_alike {s s' : Statement} (h : b.Alike b') (hs : s.SameText s') (k : Nat) :
    (b.withCriteria k s).SameText (b'.withCriteria k s') := by
  obtain ⟨c, r, hc, hr, rfl⟩ := h
  unfold withCriteria Criteria.compile
  dsimp only
  rw [← hs.values, Criteria.clause_alike hc.toList]
  exact hs.append (Statement.sameText_bound (Criteria.values_alike hc.toList) _ _)

theorem updateHead_alike (h : b.Alike b') (k : Nat) : (b.updateHead k).SameText (b'.updateHead k) := by
  obtain ⟨c, r, hc, hr, rfl⟩ := h
  have hlen : b.assignments.values.length = r.values.length := by
    have hl := congrArg List.length hr
    simpa [Record.columns, Record.values] using hl
  unfold updateHead
  dsimp only
  rw [hr]
  exact (Statement.sameText_bound hlen _ _).append (.refl _)

/-- **Alike builders build the same text**, or fail alike. -/
theorem buildFrom_alike (h : b.Alike b') (k : Nat) :
    Both Statement.SameText (b.buildFrom k) (b'.buildFrom k) := by
  have halike := h
  obtain ⟨c, r, hc, hr, rfl⟩ := h
  unfold buildFrom
  dsimp only
  cases b.failure with
  | some cause => exact .error cause
  | none =>
    cases b.kind with
    | select =>
      have hp : Both Eq b.projectionText b.projectionText := .refl (fun _ => rfl) _
      refine hp.map fun p q (hpq : p = q) => ?_
      subst hpq
      exact (withCriteria_alike halike (.refl _) k).append (.refl _)
    | update =>
      -- whether anything is assigned shows in the columns
      have hempty : b.assignments.isEmpty = r.isEmpty := by
        have hl := congrArg List.isEmpty hr
        simpa [Record.columns, Record.isEmpty] using hl
      unfold buildUpdate
      dsimp only
      rw [hempty]
      split
      · exact .error _
      · exact .ok (withCriteria_alike halike (updateHead_alike halike k) k)
    | delete =>
      unfold buildDelete
      dsimp only
      -- the guard sees how many conditions there are
      rw [hc.isEmpty_eq]
      split
      · exact .error _
      · exact .ok (withCriteria_alike halike (.refl _) k)

end Builder

/-! ## Staged writes -/

namespace Staged

theorem stage_alike (schema : Schema) {f g : Filter} (h : f.Alike g) :
    Both Statement.SameText (stage schema f) (stage schema g) := by
  have hcalls : Forall₂ Call.Alike [.selectUnchecked [rowId], .restrict .and f, .limit 1]
      [.selectUnchecked [rowId], .restrict .and g, .limit 1] :=
    .cons (.same _) (.cons (.restrict .and h) (.cons (.same _) .nil))
  have hb : (selection schema f).Alike (selection schema g) :=
    Builder.run_alike hcalls (.refl_ofSchema schema .ignore)
  rw [stage_eq, stage_eq]
  refine ((Builder.buildFrom_alike hb 0).mapError Error.validation).map fun s t hst => ?_
  exact ⟨congrArg (fun fs => ("WITH " ++ rowAlias ++ " AS (") :: fs ++ [")"]) hst.fragments,
    hst.placeholders, hst.values⟩

theorem finish_alike {schema : Schema} {s t : Statement} (hs : s.NumberedAfter 0) (ht : t.NumberedAfter 0)
    (hst : s.SameText t) {target target' : Builder} (h : target.Alike target') :
    Both Statement.SameText (finish schema s target) (finish schema t target') := by
  have hw : (write schema target).Alike (write schema target') :=
    (h.staged rowAlias).predicate .and (.refl _)
  rw [finish_eq hs, finish_eq ht, hst.values]
  exact ((Builder.buildFrom_alike hw _).mapError Error.validation).map fun _ _ hw => hst.append hw

theorem target_alike (schema : Schema) (kind : StatementKind) :
    (target schema kind).Alike (target schema kind) :=
  Builder.apply_alike (.refl_ofSchema schema .ignore) (.same (.prepare kind))

theorem update_alike (schema : Schema) {f g : Filter} (h : f.Alike g) {r s : Record}
    (hr : r.columns = s.columns) :
    Both Statement.SameText (update schema f r) (update schema g s) := by
  have hstage := stage_alike schema h
  unfold update
  cases hs : stage schema f <;> cases ht : stage schema g <;> rw [hs, ht] at hstage <;> cases hstage
  · exact .error _
  · next hst =>
    exact finish_alike (stage_numbered hs) (stage_numbered ht) hst
      ((target_alike schema .update).setFields hr)

theorem delete_alike (schema : Schema) {f g : Filter} (h : f.Alike g) :
    Both Statement.SameText (delete schema f) (delete schema g) := by
  have hstage := stage_alike schema h
  unfold delete
  cases hs : stage schema f <;> cases ht : stage schema g <;> rw [hs, ht] at hstage <;> cases hstage
  · exact .error _
  · next s t hst =>
    -- the guard sees how many values are bound
    have hempty : s.values.isEmpty = t.values.isEmpty := by
      rw [Bool.eq_iff_iff, List.isEmpty_iff_length_eq_zero, List.isEmpty_iff_length_eq_zero, hst.values]
    rw [Result.bind_ok, Result.bind_ok, hempty]
    split
    · exact .error _
    · exact finish_alike (stage_numbered hs) (stage_numbered ht) hst (target_alike schema .delete)

end Staged

/-! ## The main result -/

theorem Statement.insert_alike (table : String) {r s : Record} (hr : r.columns = s.columns)
    (returning : Option String) :
    Both SameText (insert table r returning) (insert table s returning) := by
  have hlen : r.entries.length = s.entries.length := by
    have hl := congrArg List.length hr
    simpa [Record.columns] using hl
  have hempty : r.isEmpty = s.isEmpty := by
    unfold Record.isEmpty
    rw [Bool.eq_iff_iff, List.isEmpty_iff_length_eq_zero, List.isEmpty_iff_length_eq_zero, hlen]
  have htext : insertText table r returning = insertText table s returning := by
    unfold insertText Record.size
    rw [hr, hlen]
  unfold insert
  rw [hempty, htext]
  split
  · exact .error _
  · refine .ok (sameText_bound ?_ _ 1)
    rw [Record.values, Record.values, List.length_map, List.length_map, hlen]

/-- **Values stay out of the text.** Arguments that differ in operand values only lead to the same error
or to the same text, in chains of calls at any offset, in insertions and in staged writes; and documents
of the same shape give filters that differ in operand values only. -/
theorem values_stay_out_of_text :
    (∀ (schema : Schema) (policy : Policy) (calls calls' : List Call) (k : Nat),
      Forall₂ Call.Alike calls calls' →
        Both Statement.SameText (((Builder.ofSchema schema policy).run calls).buildFrom k)
          (((Builder.ofSchema schema policy).run calls').buildFrom k)) ∧
    (∀ (table : String) (r s : Record) (returning : Option String), r.columns = s.columns →
      Both Statement.SameText (Statement.insert table r returning) (Statement.insert table s returning)) ∧
    (∀ (schema : Schema) (f g : Filter), f.Alike g →
      (∀ r s : Record, r.columns = s.columns →
        Both Statement.SameText (Staged.update schema f r) (Staged.update schema g s)) ∧
      Both Statement.SameText (Staged.delete schema f) (Staged.delete schema g)) ∧
    ∀ (policy : Policy) (j j' : Json), j.Alike j' →
      Both Filter.Alike (Filter.ofJson policy j).result (Filter.ofJson policy j').result := by
  refine ⟨fun schema policy calls calls' k h => ?_, fun table r s returning hr => ?_,
    fun schema f g h => ⟨fun r s hr => ?_, ?_⟩, fun policy j j' h => ?_⟩
  · exact Builder.buildFrom_alike (Builder.run_alike h (.refl_ofSchema schema policy)) k
  · exact Statement.insert_alike table hr returning
  · exact Staged.update_alike schema h hr
  · exact Staged.delete_alike schema h
  · exact (Filter.ofJson_alike h).result

/-- Two updates by documents of the same shape: the second one's values would be harmful as text. -/
theorem values_stay_out_of_text_users :
    let users := (Schema.ofName "users").withFields ["_id", "name", "age"]
    let calls (name : Value) (ages : List Json) (id : Json) : List Call :=
      [.prepare .update, .setFields (.ofList [("name", name)]),
        .restrictJson .and (.object [("age", .object [("$in", .array ages)]), ("_id", id)])]
    let b := (Builder.ofSchema users .reject).run (calls .null [.bool true, .string "7"] (.string "x"))
    let b' := (Builder.ofSchema users .reject).run
      (calls (.text "$1'; --") [.null, .string "1); DROP TABLE users; --"] (.bool true))
    ∃ s t, b.buildFrom 3 = .ok s ∧ b'.buildFrom 3 = .ok t ∧ s.values ≠ t.values ∧
      s.fragments = ["UPDATE users SET", "name = $4", "WHERE", "age IN ($5,$6)", "AND", "_id = $7"] ∧
      s.SameText t := by
  intro users calls b b'
  have hcalls : Forall₂ Call.Alike (calls .null [.bool true, .string "7"] (.string "x"))
      (calls (.text "$1'; --") [.null, .string "1); DROP TABLE users; --"] (.bool true)) := by
    refine .cons (.same _) (.cons (.setFields rfl) (.cons (.restrictJson .and (.object ?_)) .nil))
    exact .cons ⟨rfl, .object (.cons ⟨rfl, rfl⟩ .nil)⟩ (.cons ⟨rfl, .scalar rfl rfl rfl⟩ .nil)
  have h := values_stay_out_of_text.1 users .reject _ _ 3 hcalls
  obtain ⟨s, hs⟩ : ∃ s, b.buildFrom 3 = .ok s := ⟨_, rfl⟩
  obtain ⟨t, ht⟩ : ∃ t, b'.buildFrom 3 = .ok t := ⟨_, rfl⟩
  have hst : Both Statement.SameText (b.buildFrom 3) (b'.buildFrom 3) := h
  rw [hs, ht] at hst
  cases hst with
  | ok hst =>
    refine ⟨s, t, hs, ht, ?_, ?_, hst⟩
    · cases hs; cases ht; decide
    · cases hs; decide

end CriteriaSql
