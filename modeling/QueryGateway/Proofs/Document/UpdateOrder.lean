import Mathlib.Data.List.Pairwise
import QueryGateway.Proofs.Document.Independence
import QueryGateway.Proofs.Json.Equality
import QueryGateway.Proofs.Number.Exact

/-!
Updates whose operators and paths are written in another order.

Updates that are equal have the same steps with equal operands, in an order of their own
(`covered_of_same`).  Equal operands apply to the same values and make equal ones of them.  Where
the paths are independent, what stands at each of them depends on one step alone, and so the order
decides nothing (`update_order_immaterial`).
-/

namespace QueryGateway.Document

open Json (Fields Apart Alike)
open Json.Fields (ObjectAt)

/-! ## Equal operands -/

/-- The two zeros make equal sums: only the sign of a sum that is zero depends on them. -/
theorem alike_add? {x y z : Binary64} (h : y.toInt = z.toInt) :
    Alike ((x.add? y).map fun sum => .num (.float sum))
      ((x.add? z).map fun sum => .num (.float sum)) := by
  simp only [Binary64.add?, h]
  generalize x.toInt + z.toInt = sum
  by_cases hlimit : Binary64.nearest sum.natAbs 1 < Binary64.limit
  · rw [if_pos hlimit, if_pos hlimit]
    refine .some ?_
    by_cases hsum : sum = 0
    · have hzero : Binary64.nearest 0 1 = 0 := Binary64.nearest_of_dvd (Nat.dvd_zero _)
      simp [hsum, hzero, Json.same, Number.same, Binary64.toInt]
    · simp only [if_neg hsum]
      exact Json.same_refl _ rfl
  · rw [if_neg hlimit, if_neg hlimit]
    exact .none

theorem increment_eq_none {current : Option Json} {amount : Json} (h : ∀ n, amount ≠ .num n) :
    increment current amount = none := by
  rw [increment.eq_def]
  split
  · exact absurd rfl (h _)
  · exact absurd rfl (h _)
  · rfl

theorem alike_increment (current : Option Json) {amount amount' : Json}
    (h : amount.same amount' = true) :
    Alike (increment current amount) (increment current amount') := by
  cases amount with
  | num a =>
    cases amount' with
    | num b =>
      rcases Number.same_cases h with rfl | ⟨x, y, rfl, rfl, hvalue⟩
      · exact .refl fun sum hsum => increment_namesDiffer hsum
      · rcases current with - | value
        · exact .some h
        · cases value with
          | num c =>
            have hadd := alike_add? (x := c.toBinary64) hvalue
            rw [increment, increment]
            cases c.signed? <;> exact hadd
          | _ => exact .none
    | _ => cases h
  | _ =>
    have hnone : increment current amount' = none := by
      refine increment_eq_none fun n hn => ?_
      rw [hn] at h
      cases h
    rw [hnone, increment_eq_none (by simp)]
    exact .none

namespace UpdateOperator

variable {op : UpdateOperator} {path : String} {operand operand' : Json}
  {doc after after' : Fields}

/-- Equal operands write equal values. -/
theorem alike_written? (op : UpdateOperator) (path : String) (hdoc : (Json.obj doc).namesDiffer)
    (h : operand.same operand' = true) :
    Alike (op.written? operand ((Json.obj doc).at? path))
      (op.written? operand' ((Json.obj doc).at? path)) := by
  cases op with
  | set => exact .some h
  | unset => exact .none
  | inc => exact alike_increment _ h
  | push =>
    cases hat : (Json.obj doc).at? path with
    | none => exact .some (Json.sameItems_concat (List.forall_mem_nil _) h)
    | some value =>
      cases value with
      | arr items =>
        have hitems := Json.namesDiffer_arr.mp (Json.namesDiffer_walk hdoc hat)
        exact .some (Json.sameItems_concat hitems h)
      | _ => exact .none

theorem applies_of_same (hdoc : (Json.obj doc).namesDiffer) (h : operand.same operand' = true)
    (happlies : ∃ made, op.apply path operand doc = .ok made) :
    ∃ made, op.apply path operand' doc = .ok made := by
  rw [applies_iff] at happlies ⊢
  refine happlies.imp_right fun ⟨hwritten, hfree⟩ => ⟨?_, hfree⟩
  rw [Option.isSome_iff_ne_none] at hwritten ⊢
  exact mt (op.alike_written? path hdoc h).eq_none_iff.mpr hwritten

/-- Operators with equal operands make alike what stands at their path and below it. -/
theorem alike_apply (hdoc : (Json.obj doc).namesDiffer) (hoperand : operand.namesDiffer)
    (hsame : operand.same operand' = true) (h : op.apply path operand doc = .ok after)
    (h' : op.apply path operand' doc = .ok after') (rest : List String) :
    Alike ((Json.obj after).walk (Json.segments path ++ rest))
      ((Json.obj after').walk (Json.segments path ++ rest)) := by
  have hafter := apply_namesDiffer hoperand hdoc h
  by_cases hop : op = .unset
  · subst hop
    obtain rfl : after = after' := Except.ok.inj (h.symm.trans h')
    exact .refl fun _ => Json.namesDiffer_walk hafter
  · obtain ⟨value, hwritten, hset⟩ := (apply_eq_ok_iff hop).mp h
    obtain ⟨value', hwritten', hset'⟩ := (apply_eq_ok_iff hop).mp h'
    have halike := op.alike_written? path hdoc hsame
    rw [hwritten, hwritten'] at halike
    have hpath := Json.segments_ne_nil path
    have hplace := Fields.walk_setPath hpath hset []
    rw [Json.walk_nil] at hplace
    rw [Fields.walk_setPath hpath hset, Fields.walk_setPath hpath hset']
    exact Json.alike_walk (Json.namesDiffer_walk hafter hplace) halike.same rest

end UpdateOperator

/-! ## Equal updates -/

/-- Steps that differ in equal operands only. -/
def UpdateStep.Similar (step other : UpdateStep) : Prop :=
  step.op = other.op ∧ step.path = other.path ∧ step.operand.same other.operand = true

/-- Each step of a row is similar to one of another row. -/
def Covered (row others : List UpdateStep) : Prop :=
  ∀ step ∈ row, ∃ other ∈ others, step.Similar other

section Rows

variable {row others : List UpdateStep} {doc after after' : Fields}

theorem Covered.exists {p : UpdateOperator → String → Prop} (h : Covered row others)
    (hrow : ∃ step ∈ row, p step.op step.path) : ∃ other ∈ others, p other.op other.path := by
  obtain ⟨step, hstep, hp⟩ := hrow
  obtain ⟨other, hother, hop, hpath, -⟩ := h step hstep
  exact ⟨other, hother, hop ▸ hpath ▸ hp⟩

theorem Covered.applies (hdoc : (Json.obj doc).namesDiffer)
    (hrow : ∀ step ∈ row, step.operand.namesDiffer)
    (hothers : ∀ other ∈ others, other.operand.namesDiffer) (hcovered : Covered row others)
    (h : ∀ other ∈ others, other.Applies doc) : ∀ step ∈ row, step.Applies doc := by
  intro step hstep
  obtain ⟨other, hother, hop, hpath, hsame⟩ := hcovered step hstep
  obtain ⟨free, happlies⟩ := h other hother
  have hback := Json.same_symm (hrow step hstep) (hothers other hother) hsame
  rw [UpdateStep.Applies, hop, hpath]
  exact ⟨free, UpdateOperator.applies_of_same hdoc hback happlies⟩

theorem alike_of_runs (hrow : Independent row) (hothers : Independent others)
    (hoperands : ∀ step ∈ row, step.operand.namesDiffer)
    (hoperands' : ∀ other ∈ others, other.operand.namesDiffer) (hcovered : Covered row others)
    (hdoc : (Json.obj doc).namesDiffer) (h : Runs row doc after) (h' : Runs others doc after')
    {step : UpdateStep} (hstep : step ∈ row) (rest : List String) :
    Alike ((Json.obj after).walk (Json.segments step.path ++ rest))
      ((Json.obj after').walk (Json.segments step.path ++ rest)) := by
  obtain ⟨other, hother, hop, hpath, hsame⟩ := hcovered step hstep
  obtain ⟨-, alone, halone⟩ := (Runs.exists_iff hrow hoperands hdoc).mp ⟨after, h⟩ step hstep
  obtain ⟨-, alone', halone'⟩ :=
    (Runs.exists_iff hothers hoperands' hdoc).mp ⟨after', h'⟩ other hother
  have hwalk := h.walk_of_mem hrow hoperands hdoc hstep halone rest
  have hwalk' := h'.walk_of_mem hothers hoperands' hdoc hother halone' rest
  rw [← hpath] at hwalk' halone'
  rw [← hop] at halone'
  rw [hwalk, hwalk']
  exact UpdateOperator.alike_apply hdoc (hoperands step hstep) hsame halone halone' rest

/-- Independent rows of similar steps make equal documents. -/
theorem same_of_runs (hrow : Independent row) (hothers : Independent others)
    (hoperands : ∀ step ∈ row, step.operand.namesDiffer)
    (hoperands' : ∀ other ∈ others, other.operand.namesDiffer)
    (hcovered : Covered row others) (hback : Covered others row)
    (hdoc : (Json.obj doc).namesDiffer) (h : Runs row doc after) (h' : Runs others doc after') :
    (Json.obj after).same (.obj after') = true := by
  refine Json.same_of_walks (h.namesDiffer hoperands hdoc) (h'.namesDiffer hoperands' hdoc)
    fun read => ?_
  let leads (_ : UpdateOperator) (path : String) : Prop := Json.segments path <+: read
  let makes (op : UpdateOperator) (path : String) : Prop :=
    op ≠ .unset ∧ read <+: Json.segments path
  by_cases hthrough : ∃ step ∈ row, leads step.op step.path
  · obtain ⟨step, hstep, rest, rfl⟩ := hthrough
    exact .inl (alike_of_runs hrow hothers hoperands hoperands' hcovered hdoc h h' hstep rest)
  · have hread : ∀ step ∈ row, ¬leads step.op step.path := fun step hstep hp =>
      hthrough ⟨step, hstep, hp⟩
    have hread' : ∀ other ∈ others, ¬leads other.op other.path := fun other hother hp =>
      hthrough (hback.exists ⟨other, hother, hp⟩)
    have hobjects : ObjectAt after read ↔ ObjectAt after' read := by
      rw [h.objectAt_iff hoperands hdoc hread, h'.objectAt_iff hoperands' hdoc hread']
      exact or_congr_right ⟨hcovered.exists (p := makes), hback.exists (p := makes)⟩
    by_cases hobject : ObjectAt after read
    · obtain ⟨fields, hfields⟩ := hobject
      obtain ⟨fields', hfields'⟩ := hobjects.mp ⟨fields, hfields⟩
      exact .inr ⟨fields, fields', hfields, hfields'⟩
    · rw [h.walk_of_not_objectAt hoperands hdoc hread hobject,
        h'.walk_of_not_objectAt hoperands' hdoc hread' (mt hobjects.mpr hobject)]
      exact .inl (.refl fun _ => Json.namesDiffer_walk hdoc)

theorem Independent.apart (h : Independent row) {step other : UpdateStep} (hstep : step ∈ row)
    (hother : other ∈ row) (hne : step ≠ other) : Apart step.path other.path := by
  have hsymm : Std.Symm fun step other : UpdateStep => Apart step.path other.path :=
    ⟨fun _ _ => And.symm⟩
  exact h.forall hstep hother hne

theorem independent_of_covered (hcovered : Covered others row) (hrow : Independent row)
    (hdistinct : others.Pairwise fun step other =>
      ¬(step.op = other.op ∧ step.path = other.path)) : Independent others := by
  refine hdistinct.imp_of_mem fun {first second} hfirst hsecond hne => ?_
  obtain ⟨step, hstep, hop, hpath, -⟩ := hcovered first hfirst
  obtain ⟨other, hother, hop', hpath', -⟩ := hcovered second hsecond
  rw [hop, hop', hpath, hpath'] at hne
  rw [hpath, hpath']
  exact hrow.apart hstep hother fun heq => hne ⟨congrArg _ heq, congrArg _ heq⟩

end Rows

theorem UpdateOperator.key_of_ofKey? {key : String} {op : UpdateOperator}
    (h : UpdateOperator.ofKey? key = some op) : op.key = key := by
  rw [UpdateOperator.ofKey?] at h
  have hkey := List.find?_some h
  exact eq_of_beq hkey

theorem ofKey?_of_mem_stepsOf {key : String} {entries : Fields} {step : UpdateStep}
    (h : step ∈ stepsOf key entries) : UpdateOperator.ofKey? key = some step.op := by
  obtain ⟨op, hop, hentry⟩ := List.mem_flatMap.mp h
  obtain ⟨entry, -, rfl⟩ := List.mem_map.mp hentry
  exact Option.mem_toList.mp hop

theorem distinct_stepsOf {entries : Fields} (h : (Fields.names entries).Nodup) (key : String) :
    (stepsOf key entries).Pairwise fun step other => step.path ≠ other.path := by
  rw [stepsOf]
  cases UpdateOperator.ofKey? key with
  | none => exact .nil
  | some op =>
    rw [Option.toList_some, List.flatMap_singleton, List.pairwise_map]
    exact List.pairwise_map.mp h

/-- No step of an update has the operator and the path of another. -/
theorem distinct_steps {update : Json} (hupdate : update.namesDiffer) :
    (steps update).Pairwise fun step other => ¬(step.op = other.op ∧ step.path = other.path) := by
  cases update with
  | obj operators =>
    obtain ⟨hnames, hvalues⟩ := Json.namesDiffer_obj.mp hupdate
    refine List.pairwise_flatMap.mpr ⟨fun operator hoperator => ?_, ?_⟩
    · have hentries : (Fields.names ((operator.2.fields?).getD [])).Nodup := by
        have hvalue := hvalues operator hoperator
        cases hobj : operator.2 with
        | obj entries => exact (Json.namesDiffer_obj.mp (hobj ▸ hvalue)).1
        | _ => exact .nil
      exact (distinct_stepsOf hentries operator.1).imp fun hne heq => hne heq.2
    · -- Different keys are keys of different operators.
      refine (List.pairwise_map.mp hnames).imp fun hne step hstep other hother heq => hne ?_
      have hkey := ofKey?_of_mem_stepsOf hstep
      have hkey' := ofKey?_of_mem_stepsOf hother
      rw [heq.1] at hkey
      exact (UpdateOperator.key_of_ofKey? hkey).symm.trans (UpdateOperator.key_of_ofKey? hkey')
  | _ => exact .nil

theorem covered_of_same {update other : Json} (h : update.same other = true) :
    Covered (steps update) (steps other) := by
  intro step hstep
  obtain ⟨operators, entries, key, rfl, hoperator, hop, hentry⟩ := asksFor_of_mem_steps hstep
  cases other with
  | obj others =>
    obtain ⟨w, hw, hsame⟩ := Json.sameFields_iff.mp (Json.same_obj_iff.mp h).2 _ hoperator
    cases w with
    | obj entries' =>
      obtain ⟨operand', hoperand', hsame'⟩ :=
        Json.sameFields_iff.mp (Json.same_obj_iff.mp hsame).2 _ hentry
      refine ⟨⟨step.op, step.path, operand'⟩, mem_steps_of_asksFor ?_, rfl, rfl, hsame'⟩
      exact ⟨others, entries', key, rfl, Fields.mem_of_get?_eq_some hw, hop,
        Fields.mem_of_get?_eq_some hoperand'⟩
    | _ => cases hsame
  | _ => cases h

theorem permitted_of_same {operators others : Fields}
    (h : (Json.obj operators).same (.obj others) = true) (hothers : Permitted others) :
    Permitted operators := by
  obtain ⟨hlength, hall⟩ := Json.same_obj_iff.mp h
  rw [Json.sameFields_iff] at hall
  refine ⟨?_, fun ⟨key, value⟩ hoperator => ?_, fun ⟨key, value⟩ hoperator => ?_⟩
  · rintro rfl
    exact hothers.nonempty (List.length_eq_zero_iff.mp hlength.symm)
  · obtain ⟨w, hw, -⟩ := hall _ hoperator
    exact hothers.keys (key, w) (Fields.mem_of_get?_eq_some hw)
  · obtain ⟨w, hw, hsame⟩ := hall _ hoperator
    obtain ⟨entries', rfl, hsupported⟩ :=
      hothers.entries (key, w) (Fields.mem_of_get?_eq_some hw)
    cases value with
    | obj entries =>
      refine ⟨entries, rfl, fun hne => hsupported ?_⟩
      rintro rfl
      exact hne (List.length_eq_zero_iff.mp (Json.same_obj_iff.mp hsame).1)
    | _ => cases hsame

theorem changed_congr (before : Fields) {after after' : Fields}
    (hafter : (Json.obj after).namesDiffer) (hafter' : (Json.obj after').namesDiffer)
    (h : (Json.obj after).same (.obj after') = true) :
    changed before after = changed before after' := by
  have hback := Json.same_symm hafter hafter' h
  have hsame : (Json.obj after).same (.obj before) = (Json.obj after').same (.obj before) :=
    Bool.eq_iff_iff.mpr ⟨Json.same_trans hback, Json.same_trans h⟩
  exact congrArg not hsame

theorem exists_applyUpdate_of_same {update other : Json} {doc : Fields}
    (hupdate : update.namesDiffer) (hother : other.namesDiffer) (hdoc : (Json.obj doc).namesDiffer)
    (hsame : update.same other = true) (hindependent : Independent (steps update))
    (hindependent' : Independent (steps other)) (h : ∃ after, applyUpdate update doc = .ok after) :
    ∃ after, applyUpdate other doc = .ok after := by
  obtain ⟨after, h⟩ := h
  obtain ⟨⟨operators, rfl, hpermitted⟩, hruns⟩ := applyUpdate_eq_ok_iff.mp h
  have hback := Json.same_symm hupdate hother hsame
  have hoperands := operands_namesDiffer hupdate
  have hoperands' := operands_namesDiffer hother
  cases other with
  | obj others =>
    have happlies := (Runs.exists_iff hindependent hoperands hdoc).mp ⟨after, hruns⟩
    have happlies' := (covered_of_same hback).applies hdoc hoperands' hoperands happlies
    obtain ⟨after', hruns'⟩ := (Runs.exists_iff hindependent' hoperands' hdoc).mpr happlies'
    have hpermitted' := permitted_of_same hback hpermitted
    exact ⟨after', applyUpdate_eq_ok_iff.mpr ⟨⟨others, rfl, hpermitted'⟩, hruns'⟩⟩
  | _ => cases hsame

/-- An update at independent paths, and one that is equal to it in whatever order its keys are,
both fail, or both succeed with equal documents that differ both or neither from the one before. -/
theorem update_order_immaterial {update other : Json} {doc : Fields}
    (hupdate : update.namesDiffer) (hother : other.namesDiffer) (hdoc : (Json.obj doc).namesDiffer)
    (hsame : update.same other = true) (hindependent : Independent (steps update)) :
    (∃ e e', applyUpdate update doc = .error e ∧ applyUpdate other doc = .error e') ∨
      ∃ after after', applyUpdate update doc = .ok after ∧ applyUpdate other doc = .ok after' ∧
        changed doc after = changed doc after' ∧ (Json.obj after).same (.obj after') = true := by
  have hback := Json.same_symm hupdate hother hsame
  have hindependent' : Independent (steps other) :=
    independent_of_covered (covered_of_same hback) hindependent (distinct_steps hother)
  cases h : applyUpdate update doc with
  | error e =>
    cases h' : applyUpdate other doc with
    | error e' => exact .inl ⟨e, e', rfl, rfl⟩
    | ok after' =>
      obtain ⟨after, hafter⟩ := exists_applyUpdate_of_same hother hupdate hdoc hback
        hindependent' hindependent ⟨after', h'⟩
      rw [h] at hafter
      cases hafter
  | ok after =>
    obtain ⟨after', h'⟩ := exists_applyUpdate_of_same hupdate hother hdoc hsame
      hindependent hindependent' ⟨after, h⟩
    have hequal := same_of_runs hindependent hindependent' (operands_namesDiffer hupdate)
      (operands_namesDiffer hother) (covered_of_same hsame) (covered_of_same hback) hdoc
      (runs_steps h) (runs_steps h')
    have hchanged := changed_congr doc (applyUpdate_namesDiffer hupdate hdoc h)
      (applyUpdate_namesDiffer hother hdoc h') hequal
    exact .inr ⟨after, after', rfl, h', hchanged, hequal⟩

/-- Two operators make the same parent, and the order of its fields is all that differs. -/
theorem update_order_immaterial_siblings :
    let update : Json := .obj [
      ("$set", .obj [("size.box", .obj [("w", .nat 1), ("h", .nat 2)]), ("at.day", .nat 5)]),
      ("$unset", .obj [("old.key", .null)]), ("$inc", .obj [("size.n", .nat 2)]),
      ("$push", .obj [("at.list", .obj [("u", .nat 1), ("v", .nat 2)]), ("tags", .str "new")])]
    let other : Json := .obj [
      ("$push", .obj [("tags", .str "new"), ("at.list", .obj [("v", .nat 2), ("u", .nat 1)])]),
      ("$inc", .obj [("size.n", .nat 2)]), ("$unset", .obj [("old.key", .null)]),
      ("$set", .obj [("at.day", .nat 5), ("size.box", .obj [("h", .nat 2), ("w", .nat 1)])])]
    let doc : Fields := [("_id", .str "u1"), ("size", .obj [("n", .nat 1)]),
      ("old", .obj [("key", .bool true), ("kept", .null)]), ("tags", .arr [.str "first"])]
    let after : Fields := [("_id", .str "u1"),
      ("size", .obj [("n", .nat 3), ("box", .obj [("w", .nat 1), ("h", .nat 2)])]),
      ("old", .obj [("kept", .null)]), ("tags", .arr [.str "first", .str "new"]),
      ("at", .obj [("day", .nat 5), ("list", .arr [.obj [("u", .nat 1), ("v", .nat 2)]])])]
    let after' : Fields := [("_id", .str "u1"),
      ("size", .obj [("n", .nat 3), ("box", .obj [("h", .nat 2), ("w", .nat 1)])]),
      ("old", .obj [("kept", .null)]), ("tags", .arr [.str "first", .str "new"]),
      ("at", .obj [("list", .arr [.obj [("v", .nat 2), ("u", .nat 1)]]), ("day", .nat 5)])]
    update.namesDiffer ∧ other.namesDiffer ∧ (Json.obj doc).namesDiffer ∧
      update.same other = true ∧ Independent (steps update) ∧
      applyUpdate update doc = .ok after ∧ applyUpdate other doc = .ok after' ∧
      changed doc after = changed doc after' ∧ (Json.obj after).same (.obj after') = true := by
  intro update other doc after after'
  have hupdate : update.namesDiffer := by decide
  have hother : other.namesDiffer := by decide
  have hdoc : (Json.obj doc).namesDiffer := by decide
  have hsame : update.same other = true := by decide
  have hindependent : Independent (steps update) := by decide
  have hafter : applyUpdate update doc = .ok after := rfl
  have hafter' : applyUpdate other doc = .ok after' := rfl
  refine ⟨hupdate, hother, hdoc, hsame, hindependent, hafter, hafter', ?_⟩
  rcases update_order_immaterial hupdate hother hdoc hsame hindependent with
    ⟨e, -, herror, -⟩ | ⟨made, made', hmade, hmade', hequal⟩
  · rw [hafter] at herror
    cases herror
  · rw [hafter] at hmade
    rw [hafter'] at hmade'
    rw [Except.ok.inj hmade, Except.ok.inj hmade']
    exact hequal

-- At one path the order decides.
example :
    let set : String × Json := ("$set", .obj [("n", .nat 1)])
    let inc : String × Json := ("$inc", .obj [("n", .nat 1)])
    applyUpdate (.obj [set, inc]) [] = .ok [("n", .nat 2)] ∧
      applyUpdate (.obj [inc, set]) [] = .ok [("n", .nat 1)] :=
  ⟨rfl, rfl⟩

end QueryGateway.Document
