import QueryGateway.Proofs.Document.Below

/-!
Operators at paths that are independent.

An operator at a path that is apart changes neither what another one finds at its path nor whether
that path is blocked.  So independent steps run exactly if each of them applies to the document at
the start (`Runs.exists_iff`), and the paths say what they make of it: at the path of a step stands
what the step alone would put there (`Runs.walk_of_mem`), objects stand where they stood and on the
way of the paths that are written (`Runs.objectAt_iff`), and everything else stays
(`Runs.walk_of_not_objectAt`).
-/

namespace QueryGateway.Document

open Json (Fields Apart)
open Json.Fields (Blocked ObjectAt)

/-! ## One operator -/

namespace UpdateOperator

variable {op : UpdateOperator} {path : String} {operand : Json} {doc after : Fields}
  {read : List String}

/-- Objects stand where they stood, and on the way of a path that is written. -/
theorem objectAt_apply_iff (hread : ¬Json.segments path <+: read)
    (hdoc : (Json.obj doc).namesDiffer) (h : op.apply path operand doc = .ok after) :
    ObjectAt after read ↔ ObjectAt doc read ∨ op ≠ .unset ∧ read <+: Json.segments path := by
  by_cases hop : op = .unset
  · subst hop
    rw [← Except.ok.inj h, Fields.objectAt_erasePath_iff hread hdoc]
    simp
  · obtain ⟨value, -, hset⟩ := (apply_eq_ok_iff hop).mp h
    rw [Fields.objectAt_setPath_iff hread hset, and_iff_right hop]

theorem walk_apply_of_not_objectAt (hread : ¬Json.segments path <+: read)
    (hdoc : (Json.obj doc).namesDiffer) (h : op.apply path operand doc = .ok after)
    (hplain : ¬ObjectAt after read) :
    (Json.obj after).walk read = (Json.obj doc).walk read := by
  rcases apply_cases h with ⟨-, rfl⟩ | ⟨value, hset, -⟩
  · exact Fields.walk_erasePath_of_not_objectAt hread hdoc hplain
  · exact Fields.walk_setPath_of_not_objectAt hread hset hplain

/-- An operator applies unless it finds a value that it cannot work on, or has to write behind
what is no object. -/
theorem applies_iff : (∃ after, op.apply path operand doc = .ok after) ↔
    op = .unset ∨ (op.written? operand ((Json.obj doc).at? path)).isSome ∧
      ¬Blocked doc (Json.segments path) := by
  by_cases hop : op = .unset
  · subst hop
    exact iff_of_true ⟨_, rfl⟩ (.inl rfl)
  · rw [or_iff_right hop]
    constructor
    · rintro ⟨after, h⟩
      obtain ⟨value, hwritten, hset⟩ := (apply_eq_ok_iff hop).mp h
      exact ⟨Option.isSome_of_eq_some hwritten, Fields.not_blocked_of_setPath hset⟩
    · rintro ⟨hwritten, hfree⟩
      obtain ⟨value, hvalue⟩ := Option.isSome_iff_exists.mp hwritten
      cases hset : Fields.setPath value (Json.segments path) doc with
      | error name => exact absurd (Fields.blocked_of_setPath hset) hfree
      | ok after => exact ⟨after, (apply_eq_ok_iff hop).mpr ⟨value, hvalue, hset⟩⟩

theorem plain_apply_iff (hread : ¬Json.segments path <+: read)
    (hdoc : (Json.obj doc).namesDiffer) (h : op.apply path operand doc = .ok after) :
    (∃ old, (Json.obj after).walk read = some old ∧ old.fields? = none) ↔
      ∃ old, (Json.obj doc).walk read = some old ∧ old.fields? = none := by
  constructor
  · rintro ⟨old, hold, hplain⟩
    have hobject := Fields.not_objectAt_of_plain hold hplain
    exact ⟨old, walk_apply_of_not_objectAt hread hdoc h hobject ▸ hold, hplain⟩
  · rintro ⟨old, hold, hplain⟩
    have hobject : ¬ObjectAt after read := by
      rw [objectAt_apply_iff hread hdoc h, not_or]
      refine ⟨Fields.not_objectAt_of_plain hold hplain, fun ⟨hop, hinto⟩ => ?_⟩
      obtain ⟨value, -, hset⟩ := (apply_eq_ok_iff hop).mp h
      exact Fields.not_blocked_of_setPath hset (Fields.blocked_of_walk hinto hread hold hplain)
    exact ⟨old, (walk_apply_of_not_objectAt hread hdoc h hobject).trans hold, hplain⟩

/-- An operator blocks no path that is apart, and frees none. -/
theorem blocked_apply_iff {other : String} (hapart : Apart path other)
    (hdoc : (Json.obj doc).namesDiffer) (h : op.apply path operand doc = .ok after) :
    Blocked after (Json.segments other) ↔ Blocked doc (Json.segments other) := by
  have hway (leading rest : List String) (hleads : Json.segments other = leading ++ rest) :
      ¬Json.segments path <+: leading := fun hthrough =>
    hapart.1 (hthrough.trans (hleads ▸ List.prefix_append leading rest))
  simp only [Blocked]
  refine exists_congr fun leading => exists_congr fun segment => exists_congr fun rest => ?_
  simp only [exists_and_left]
  refine and_congr_right fun hleads => and_congr_right fun _ => ?_
  exact plain_apply_iff (hway _ _ hleads) hdoc h

/-- Whether an operator applies does not depend on one at a path that is apart. -/
theorem applies_congr {other : UpdateOperator} {path' : String} {operand' : Json}
    (hapart : Apart path path') (hdoc : (Json.obj doc).namesDiffer)
    (h : op.apply path operand doc = .ok after) :
    (∃ made, other.apply path' operand' after = .ok made) ↔
      ∃ made, other.apply path' operand' doc = .ok made := by
  rw [applies_iff, applies_iff, at?_apply_of_apart hapart hdoc h, blocked_apply_iff hapart hdoc h]

/-- What stands at the path of an operator afterwards, and below it, depends on what stood there
and on whether the path is blocked. -/
theorem walk_apply_congr {doc' after' : Fields} (hdoc : (Json.obj doc).namesDiffer)
    (hdoc' : (Json.obj doc').namesDiffer)
    (hwalk : ∀ rest, (Json.obj doc).walk (Json.segments path ++ rest) =
      (Json.obj doc').walk (Json.segments path ++ rest))
    (hblocked : Blocked doc (Json.segments path) ↔ Blocked doc' (Json.segments path))
    (h : op.apply path operand doc = .ok after) (h' : op.apply path operand doc' = .ok after')
    (rest : List String) :
    (Json.obj after).walk (Json.segments path ++ rest) =
      (Json.obj after').walk (Json.segments path ++ rest) := by
  have hpath := Json.segments_ne_nil path
  by_cases hop : op = .unset
  · subst hop
    rw [← Except.ok.inj h, ← Except.ok.inj h']
    by_cases hway : Blocked doc (Json.segments path)
    · rw [Fields.erasePath_of_blocked hway, Fields.erasePath_of_blocked (hblocked.mp hway), hwalk]
    · rw [Fields.walk_erasePath_of_not_blocked hdoc hway hpath,
        Fields.walk_erasePath_of_not_blocked hdoc' (mt hblocked.mpr hway) hpath]
  · obtain ⟨value, hwritten, hset⟩ := (apply_eq_ok_iff hop).mp h
    obtain ⟨value', hwritten', hset'⟩ := (apply_eq_ok_iff hop).mp h'
    have hat : (Json.obj doc).at? path = (Json.obj doc').at? path := by
      have hhere := hwalk []
      rwa [List.append_nil] at hhere
    rw [hat, hwritten'] at hwritten
    rw [Fields.walk_setPath hpath hset, Fields.walk_setPath hpath hset', Option.some.inj hwritten]

end UpdateOperator

/-! ## Steps in a row -/

/-- Steps of which no path leads through another. -/
def Independent (row : List UpdateStep) : Prop :=
  row.Pairwise fun step other => Apart step.path other.path

instance (row : List UpdateStep) : Decidable (Independent row) :=
  inferInstanceAs (Decidable (row.Pairwise _))

/-- Whether a step can be carried out on a document. -/
def UpdateStep.Applies (doc : Fields) (step : UpdateStep) : Prop :=
  step.path ≠ "_id" ∧ ∃ made, step.op.apply step.path step.operand doc = .ok made

/-- What stands below a path stands apart from every path that is apart from it. -/
theorem apart_append {path other : String} (h : Apart path other) (rest : List String) :
    ¬Json.segments path <+: Json.segments other ++ rest ∧
      ¬Json.segments other ++ rest <+: Json.segments path := by
  refine ⟨fun hthrough => ?_, fun hinto => h.2 ((List.prefix_append _ rest).trans hinto)⟩
  rcases List.prefix_or_prefix_of_prefix hthrough (List.prefix_append _ rest) with hp | hp
  · exact h.1 hp
  · exact h.2 hp

namespace Runs

variable {row : List UpdateStep} {doc after : Fields} {read : List String}

/-- Independent steps run exactly if each of them applies to the document at the start. -/
theorem exists_iff (hrow : Independent row) (hoperands : ∀ step ∈ row, step.operand.namesDiffer)
    (hdoc : (Json.obj doc).namesDiffer) :
    (∃ after, Runs row doc after) ↔ ∀ step ∈ row, step.Applies doc := by
  induction row generalizing doc with
  | nil => exact iff_of_true ⟨doc, .nil doc⟩ nofun
  | cons step rest ih =>
    obtain ⟨hstep, hrest⟩ := List.pairwise_cons.mp hrow
    obtain ⟨hfirst, hothers⟩ := List.forall_mem_cons.mp hoperands
    -- The other steps apply behind the first one if they apply in front of it.
    have hbehind {between : Fields}
        (happly : step.op.apply step.path step.operand doc = .ok between) :
        (∃ after, Runs rest between after) ↔ ∀ other ∈ rest, other.Applies doc := by
      rw [ih hrest hothers (UpdateOperator.apply_namesDiffer hfirst hdoc happly)]
      refine forall₂_congr fun other hother => and_congr_right fun _ => ?_
      exact UpdateOperator.applies_congr (hstep other hother) hdoc happly
    rw [List.forall_mem_cons]
    simp only [cons_iff]
    constructor
    · rintro ⟨after, free, between, happly, hruns⟩
      exact ⟨⟨free, between, happly⟩, (hbehind happly).mp ⟨after, hruns⟩⟩
    · rintro ⟨⟨free, between, happly⟩, hall⟩
      obtain ⟨after, hruns⟩ := (hbehind happly).mpr hall
      exact ⟨after, free, between, happly, hruns⟩

/-- At the path of an independent step stands what the step alone makes of the document. -/
theorem walk_of_mem (hrow : Independent row) (hoperands : ∀ step ∈ row, step.operand.namesDiffer)
    (hdoc : (Json.obj doc).namesDiffer) (h : Runs row doc after) {step : UpdateStep}
    (hstep : step ∈ row) {alone : Fields}
    (halone : step.op.apply step.path step.operand doc = .ok alone) (rest : List String) :
    (Json.obj after).walk (Json.segments step.path ++ rest) =
      (Json.obj alone).walk (Json.segments step.path ++ rest) := by
  induction h generalizing alone with
  | nil => cases hstep
  | @cons first others doc between after _ happly hruns ih =>
    obtain ⟨hfirst, hothers⟩ := List.pairwise_cons.mp hrow
    obtain ⟨hoperand, hrest⟩ := List.forall_mem_cons.mp hoperands
    have hbetween := UpdateOperator.apply_namesDiffer hoperand hdoc happly
    rcases List.mem_cons.mp hstep with rfl | hmem
    · rw [halone, Except.ok.injEq] at happly
      rw [happly]
      refine hruns.walk_of_apart hrest hbetween fun other hother => ?_
      exact apart_append (hfirst other hother).symm rest
    · have hapart := hfirst step hmem
      obtain ⟨made, hmade⟩ := (UpdateOperator.applies_congr hapart hdoc happly).mpr ⟨alone, halone⟩
      rw [ih hothers hrest hbetween hmem hmade]
      refine UpdateOperator.walk_apply_congr hbetween hdoc (fun rest => ?_)
        (UpdateOperator.blocked_apply_iff hapart hdoc happly) hmade halone rest
      obtain ⟨hthrough, hinto⟩ := apart_append hapart rest
      exact UpdateOperator.walk_apply_of_apart hthrough hinto hdoc happly

/-- Where no step erases or writes, objects stand where they stood and on the way of the paths
that are written. -/
theorem objectAt_iff (hoperands : ∀ step ∈ row, step.operand.namesDiffer)
    (hdoc : (Json.obj doc).namesDiffer) (hread : ∀ step ∈ row, ¬Json.segments step.path <+: read)
    (h : Runs row doc after) :
    ObjectAt after read ↔ ObjectAt doc read ∨
      ∃ step ∈ row, step.op ≠ .unset ∧ read <+: Json.segments step.path := by
  induction h with
  | nil => simp
  | cons _ happly _ ih =>
    obtain ⟨hfirst, hothers⟩ := List.forall_mem_cons.mp hoperands
    obtain ⟨hstep, hrest⟩ := List.forall_mem_cons.mp hread
    rw [ih hothers (UpdateOperator.apply_namesDiffer hfirst hdoc happly) hrest,
      UpdateOperator.objectAt_apply_iff hstep hdoc happly, List.exists_mem_cons_iff, or_assoc]

/-- Everything else that is no object stays. -/
theorem walk_of_not_objectAt (hoperands : ∀ step ∈ row, step.operand.namesDiffer)
    (hdoc : (Json.obj doc).namesDiffer) (hread : ∀ step ∈ row, ¬Json.segments step.path <+: read)
    (h : Runs row doc after) (hplain : ¬ObjectAt after read) :
    (Json.obj after).walk read = (Json.obj doc).walk read := by
  induction h with
  | nil => rfl
  | cons _ happly hruns ih =>
    obtain ⟨hfirst, hothers⟩ := List.forall_mem_cons.mp hoperands
    obtain ⟨hstep, hrest⟩ := List.forall_mem_cons.mp hread
    have hbetween := UpdateOperator.apply_namesDiffer hfirst hdoc happly
    have hearlier := (not_or.mp (mt (hruns.objectAt_iff hothers hbetween hrest).mpr hplain)).1
    rw [ih hothers hbetween hrest hplain,
      UpdateOperator.walk_apply_of_not_objectAt hstep hdoc happly hearlier]

end Runs

end QueryGateway.Document
