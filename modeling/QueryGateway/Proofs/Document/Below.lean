import QueryGateway.Proofs.Document.Update
import QueryGateway.Proofs.Json.Reading

/-!
Updates below a field.

An update is a row of steps, one operator at one path after the other
(`applyUpdate_eq_ok_iff`).  A step whose path starts with another name leaves a field as it is, and
a step at a path below the field works on the value of the field alone.  So what a field holds
after an update is what the steps below it make of what it held before (`Runs.get?_eq`).

The guard on `_id` compares whole paths, and thus lets the steps below `_id` through.  They change
an `_id` that is an object and make one where there is none (`id_after_update`).
-/

namespace QueryGateway

namespace Json

/-- The path inside the value of a field, if a path leads below the field. -/
def below? (key path : String) : Option String :=
  (Text.breakOn? ['.'] path.toList).bind fun cut =>
    if String.ofList cut.1 = key then some (String.ofList cut.2) else none

theorem segments_of_breakOn? {path : String} {before after : List Char}
    (h : Text.breakOn? ['.'] path.toList = some (before, after)) :
    segments path = String.ofList before :: segments (String.ofList after) := by
  have htext := Text.eq_of_breakOn? h
  have hbefore := Text.not_mem_of_breakOn? h
  rw [List.append_assoc, List.singleton_append] at htext
  rw [segments, Text.splitString, htext, Text.split_append_cons hbefore, List.map_cons, segments,
    Text.splitString, String.toList_ofList]

theorem segments_of_below? {key path sub : String} (h : below? key path = some sub) :
    segments path = key :: segments sub := by
  obtain ⟨cut, hcut, hkey⟩ := Option.bind_eq_some_iff.mp h
  rw [Option.ite_none_right_eq_some] at hkey
  obtain ⟨rfl, hsub⟩ := hkey
  rw [segments_of_breakOn? hcut, Option.some.inj hsub]

/-- A path that is not the field itself and does not lead below it starts with another name. -/
theorem exists_segments_of_apart {key path : String} (h : below? key path = none)
    (hne : path ≠ key) : ∃ segment rest, segments path = segment :: rest ∧ segment ≠ key := by
  cases hcut : Text.breakOn? ['.'] path.toList with
  | none => exact ⟨path, [], segments_of_not_mem (Text.not_mem_of_breakOn?_eq_none hcut), hne⟩
  | some cut =>
    refine ⟨String.ofList cut.1, _, segments_of_breakOn? hcut, fun hkey => ?_⟩
    rw [below?, hcut, Option.bind_some, if_pos hkey] at h
    cases h

end Json

namespace Document

open Json (Fields Apart below?)

/-! ## One operator -/

namespace UpdateOperator

variable {op : UpdateOperator} {path sub key : String} {operand : Json} {doc after : Fields}

/-- What an operator writes over a value.  An erasure writes nothing. -/
def written? (op : UpdateOperator) (operand : Json) (current : Option Json) : Option Json :=
  match op with
  | .set => some operand
  | .unset => none
  | .inc => increment current operand
  | .push =>
    match current with
    | none => some (.arr [operand])
    | some (.arr items) => some (.arr (items ++ [operand]))
    | some _ => none

theorem apply_eq_ok_iff (hop : op ≠ .unset) :
    op.apply path operand doc = .ok after ↔
      ∃ value, op.written? operand ((Json.obj doc).at? path) = some value ∧
        Fields.setPath value (Json.segments path) doc = .ok after := by
  cases op with
  | unset => exact absurd rfl hop
  | set => simp [apply, written?, setAt_eq_ok_iff]
  | inc =>
    simp only [apply, written?]
    cases increment ((Json.obj doc).at? path) operand with
    | none => simp
    | some sum => simp [setAt_eq_ok_iff]
  | push =>
    simp only [apply, written?]
    cases (Json.obj doc).at? path with
    | none => simp [setAt_eq_ok_iff]
    | some current => cases current <;> simp [setAt_eq_ok_iff]

theorem get?_apply_of_apart (hpath : path ≠ key) (hbelow : below? key path = none)
    (hn : (Fields.names doc).Nodup) (h : op.apply path operand doc = .ok after) :
    Fields.get? key after = Fields.get? key doc := by
  obtain ⟨segment, rest, hsegments, hne⟩ := Json.exists_segments_of_apart hbelow hpath
  rcases apply_cases h with ⟨-, rfl⟩ | ⟨value, hset, -⟩
  · rw [hsegments]
    exact Fields.get?_erasePath_of_ne hne hn
  · rw [hsegments] at hset
    exact Fields.get?_setPath_of_ne hne hset

theorem walk_apply_of_apart {read : List String} (hthrough : ¬Json.segments path <+: read)
    (hinto : ¬read <+: Json.segments path) (hdoc : (Json.obj doc).namesDiffer)
    (h : op.apply path operand doc = .ok after) :
    (Json.obj after).walk read = (Json.obj doc).walk read := by
  rcases apply_cases h with ⟨-, rfl⟩ | ⟨value, hset, -⟩
  · exact Fields.walk_erasePath_of_apart hthrough hinto hdoc
  · exact Fields.walk_setPath_of_apart hthrough hinto hset

theorem at?_apply_of_apart {other : String} (hapart : Apart path other)
    (hdoc : (Json.obj doc).namesDiffer) (h : op.apply path operand doc = .ok after) :
    (Json.obj after).at? other = (Json.obj doc).at? other :=
  walk_apply_of_apart hapart.1 hapart.2 hdoc h

theorem nodup_names_apply (hn : (Fields.names doc).Nodup)
    (h : op.apply path operand doc = .ok after) : (Fields.names after).Nodup := by
  rcases apply_cases h with ⟨-, rfl⟩ | ⟨value, hset, -⟩
  · exact Fields.nodup_names_erasePath _ hn
  · exact Fields.nodup_names_setPath hn hset

/-- What an operator at a path inside a field makes of the value of the field.  It works on an
object, or on a new one where there is no value; an erasure leaves everything else as it is. -/
def inside (op : UpdateOperator) (sub : String) (operand : Json) :
    Option Json → Option (Option Json)
  | some (.obj child) => (op.apply sub operand child).toOption.map fun made => some (.obj made)
  | none =>
    if op = .unset then some none
    else (op.apply sub operand []).toOption.map fun made => some (.obj made)
  | some value => if op = .unset then some (some value) else none

theorem inside_obj {child made : Fields} (h : op.apply sub operand child = .ok made) :
    op.inside sub operand (some (.obj child)) = some (some (.obj made)) := by
  simp only [inside, h]
  rfl

theorem inside_none {made : Fields} (hop : op ≠ .unset) (h : op.apply sub operand [] = .ok made) :
    op.inside sub operand none = some (some (.obj made)) := by
  simp only [inside, if_neg hop, h]
  rfl

/-- An operator below a field works on the value of the field alone. -/
theorem inside_of_apply (hbelow : below? key path = some sub)
    (h : op.apply path operand doc = .ok after) :
    op.inside sub operand (Fields.get? key doc) = some (Fields.get? key after) := by
  have hsegments := Json.segments_of_below? hbelow
  have hsub := Json.segments_ne_nil sub
  by_cases hop : op = .unset
  · subst hop
    have hafter : after = Fields.erasePath (key :: Json.segments sub) doc := by
      rw [← hsegments]
      exact (Except.ok.inj h).symm
    have hkept (hplain : ∀ child, Fields.get? key doc ≠ some (.obj child)) :
        Fields.get? key after = Fields.get? key doc := by
      rw [hafter, Fields.erasePath_of_ne_obj hsub hplain]
    cases hold : Fields.get? key doc with
    | none =>
      rw [hkept (by rw [hold]; nofun), hold]
      rfl
    | some old =>
      cases old with
      | obj child =>
        rw [hafter, Fields.erasePath_of_eq_obj hsub hold, Fields.get?_set_self]
        rfl
      | _ =>
        rw [hkept (by rw [hold]; nofun), hold]
        rfl
  · obtain ⟨value, hwritten, hset⟩ := (apply_eq_ok_iff hop).mp h
    rw [hsegments] at hset
    obtain ⟨child, child', hold, hchild, rfl⟩ := Fields.setPath_below hsub hset
    rw [Json.at?, hsegments, Json.walk_obj] at hwritten
    rw [Fields.get?_set_self]
    rcases hold with ⟨hnone, rfl⟩ | hobj
    · -- The new object is empty, so the operator finds as little in it as below no value.
      have hnothing : (Json.obj []).at? sub = none := Json.walk_empty hsub
      rw [hnone, Option.bind_none, ← hnothing] at hwritten
      rw [hnone]
      exact inside_none hop ((apply_eq_ok_iff hop).mpr ⟨value, hwritten, hchild⟩)
    · rw [hobj, Option.bind_some] at hwritten
      rw [hobj]
      exact inside_obj ((apply_eq_ok_iff hop).mpr ⟨value, hwritten, hchild⟩)

/-- A value that is no object stays what it is, or the operator fails. -/
theorem eq_of_inside {value : Json} {value' : Option Json} (hplain : value.fields? = none)
    (h : op.inside sub operand (some value) = some value') : value' = some value := by
  cases value with
  | obj child => cases hplain
  | _ =>
    simp only [inside, Option.ite_none_right_eq_some, Option.some.injEq] at h
    exact h.2.symm

end UpdateOperator

/-! ## All operators of an update -/

/-- One operator at one path. -/
structure UpdateStep where
  op : UpdateOperator
  path : String
  operand : Json

namespace UpdateStep

/-- The step inside the value of a field, of a step below it. -/
def below? (key : String) (step : UpdateStep) : Option UpdateStep :=
  (Json.below? key step.path).map fun sub => { step with path := sub }

/-- What a step inside a field makes of its value. -/
def inside (value : Option Json) (step : UpdateStep) : Option (Option Json) :=
  step.op.inside step.path step.operand value

end UpdateStep

/-- The steps of one operator. -/
def stepsOf (key : String) (entries : Fields) : List UpdateStep :=
  ((UpdateOperator.ofKey? key).toList).flatMap fun op =>
    entries.map fun entry => ⟨op, entry.1, entry.2⟩

/-- The steps of an update. -/
def steps (update : Json) : List UpdateStep :=
  ((update.fields?).getD []).flatMap fun operator =>
    stepsOf operator.1 ((operator.2.fields?).getD [])

theorem mem_steps_of_asksFor {update : Json} {op : UpdateOperator} {path : String} {operand : Json}
    (h : AsksFor update op path operand) : ⟨op, path, operand⟩ ∈ steps update := by
  obtain ⟨operators, entries, key, rfl, hoperator, hop, hentry⟩ := h
  refine List.mem_flatMap.mpr ⟨(key, .obj entries), hoperator, ?_⟩
  have hkey : op ∈ (UpdateOperator.ofKey? key).toList := Option.mem_toList.mpr hop
  exact List.mem_flatMap.mpr ⟨op, hkey, List.mem_map.mpr ⟨_, hentry, rfl⟩⟩

theorem asksFor_of_mem_steps {update : Json} {step : UpdateStep} (h : step ∈ steps update) :
    AsksFor update step.op step.path step.operand := by
  obtain ⟨⟨key, value⟩, hoperator, hstep⟩ := List.mem_flatMap.mp h
  obtain ⟨op, hop, hentry⟩ := List.mem_flatMap.mp hstep
  obtain ⟨⟨path, operand⟩, hmem, rfl⟩ := List.mem_map.mp hentry
  cases update with
  | obj operators =>
    cases value with
    | obj entries => exact ⟨operators, entries, key, rfl, hoperator, Option.mem_toList.mp hop, hmem⟩
    | _ => cases hmem
  | _ => cases hoperator

theorem operands_namesDiffer {update : Json} (hupdate : update.namesDiffer) :
    ∀ step ∈ steps update, step.operand.namesDiffer := fun _ hstep =>
  (asksFor_of_mem_steps hstep).namesDiffer hupdate

/-- The steps of an update below a field, as steps inside its value. -/
def stepsBelow (key : String) (update : Json) : List UpdateStep :=
  (steps update).filterMap (UpdateStep.below? key)

/-- What steps, none of which is at `_id`, make of a document. -/
inductive Runs : List UpdateStep → Fields → Fields → Prop
  | nil (doc : Fields) : Runs [] doc doc
  | cons {step : UpdateStep} {rest : List UpdateStep} {doc between after : Fields}
    (free : step.path ≠ "_id") (first : step.op.apply step.path step.operand doc = .ok between)
    (others : Runs rest between after) : Runs (step :: rest) doc after

namespace Runs

variable {first others : List UpdateStep} {doc between after : Fields}

theorem nil_iff : Runs [] doc after ↔ doc = after := by
  constructor
  · rintro ⟨⟩
    rfl
  · rintro rfl
    exact .nil doc

theorem cons_iff {step : UpdateStep} : Runs (step :: others) doc after ↔
    step.path ≠ "_id" ∧ ∃ between, step.op.apply step.path step.operand doc = .ok between ∧
      Runs others between after := by
  constructor
  · rintro ⟨⟩
    exact ⟨‹_›, _, ‹_›, ‹_›⟩
  · rintro ⟨free, between, happly, hothers⟩
    exact .cons free happly hothers

theorem append_iff : Runs (first ++ others) doc after ↔
    ∃ between, Runs first doc between ∧ Runs others between after := by
  induction first generalizing doc with
  | nil => simp [nil_iff]
  | cons step rest ih =>
    simp only [List.cons_append, cons_iff, ih]
    constructor
    · rintro ⟨free, made, happly, between, hrest, hothers⟩
      exact ⟨between, ⟨free, made, happly, hrest⟩, hothers⟩
    · rintro ⟨between, ⟨free, made, happly, hrest⟩, hothers⟩
      exact ⟨free, made, happly, between, hrest, hothers⟩

theorem unique {after' : Fields} (h : Runs first doc after) (h' : Runs first doc after') :
    after' = after := by
  induction h with
  | nil => exact (nil_iff.mp h').symm
  | cons _ happly _ ih =>
    obtain ⟨-, between, happly', hothers⟩ := cons_iff.mp h'
    obtain rfl := Except.ok.inj (happly.symm.trans happly')
    exact ih hothers

theorem path_ne (h : Runs first doc after) : ∀ step ∈ first, step.path ≠ "_id" := by
  induction h with
  | nil => exact nofun
  | cons free _ _ ih => exact List.forall_mem_cons.mpr ⟨free, ih⟩

theorem namesDiffer (hoperands : ∀ step ∈ first, step.operand.namesDiffer)
    (hdoc : (Json.obj doc).namesDiffer) (h : Runs first doc after) :
    (Json.obj after).namesDiffer := by
  induction h with
  | nil => exact hdoc
  | cons _ happly _ ih =>
    obtain ⟨hfirst, hothers⟩ := List.forall_mem_cons.mp hoperands
    exact ih hothers (UpdateOperator.apply_namesDiffer hfirst hdoc happly)

/-- Steps leave what stands at a path that is apart from all of theirs. -/
theorem walk_of_apart {read : List String}
    (hoperands : ∀ step ∈ first, step.operand.namesDiffer)
    (hdoc : (Json.obj doc).namesDiffer)
    (hapart : ∀ step ∈ first, ¬Json.segments step.path <+: read ∧ ¬read <+: Json.segments step.path)
    (h : Runs first doc after) : (Json.obj after).walk read = (Json.obj doc).walk read := by
  induction h with
  | nil => rfl
  | cons _ happly _ ih =>
    obtain ⟨hfirst, hothers⟩ := List.forall_mem_cons.mp hoperands
    obtain ⟨hstep, hrest⟩ := List.forall_mem_cons.mp hapart
    rw [ih hothers (UpdateOperator.apply_namesDiffer hfirst hdoc happly) hrest,
      UpdateOperator.walk_apply_of_apart hstep.1 hstep.2 hdoc happly]

/-- What a field holds after steps is what those below it make of what it held before. -/
theorem get?_eq {key : String} (h : Runs first doc after) (hn : (Fields.names doc).Nodup)
    (hwhole : ∀ step ∈ first, step.path ≠ key) :
    (first.filterMap (UpdateStep.below? key)).foldlM UpdateStep.inside (Fields.get? key doc) =
      some (Fields.get? key after) := by
  induction h with
  | nil => rfl
  | @cons step rest doc between after _ happly _ ih =>
    obtain ⟨hstep, hrest⟩ := List.forall_mem_cons.mp hwhole
    have hothers := ih (UpdateOperator.nodup_names_apply hn happly) hrest
    cases hbelow : Json.below? key step.path with
    | none =>
      have hskip : step.below? key = none := by rw [UpdateStep.below?, hbelow, Option.map_none]
      have hsame := UpdateOperator.get?_apply_of_apart hstep hbelow hn happly
      rw [List.filterMap_cons_none hskip, ← hsame]
      exact hothers
    | some sub =>
      have hkeep : step.below? key = some { step with path := sub } := by
        rw [UpdateStep.below?, hbelow, Option.map_some]
      have hinside : UpdateStep.inside (Fields.get? key doc) { step with path := sub } =
          some (Fields.get? key between) := UpdateOperator.inside_of_apply hbelow happly
      rw [List.filterMap_cons_some hkeep, List.foldlM_cons, hinside]
      exact hothers

/-- Steps that are neither at a field nor below it leave the field. -/
theorem get?_of_apart {key : String} (h : Runs first doc after) (hn : (Fields.names doc).Nodup)
    (hwhole : ∀ step ∈ first, step.path ≠ key)
    (hbelow : ∀ step ∈ first, Json.below? key step.path = none) :
    Fields.get? key after = Fields.get? key doc := by
  have hnone : first.filterMap (UpdateStep.below? key) = [] := by
    rw [List.filterMap_eq_nil_iff]
    intro step hstep
    rw [UpdateStep.below?, hbelow step hstep, Option.map_none]
  have hrun := h.get?_eq hn hwhole
  rw [hnone, List.foldlM_nil] at hrun
  exact (Option.some.inj hrun).symm

end Runs

theorem applyEntry_eq_ok_iff {key path : String} {operand : Json} {doc after : Fields} :
    applyEntry key path operand doc = .ok after ↔ path ≠ "_id" ∧
      ∃ op, UpdateOperator.ofKey? key = some op ∧ op.apply path operand doc = .ok after := by
  rw [applyEntry]
  by_cases hpath : path = "_id"
  · simp [hpath]
  · rw [if_neg hpath]
    cases UpdateOperator.ofKey? key <;> simp [hpath]

/-- Entries are carried out as their steps.  An operator that is none fails, unless it has nothing
to do. -/
theorem applyEntries_eq_ok_iff {key : String} {entries doc after : Fields} :
    applyEntries key entries doc = .ok after ↔
      (entries ≠ [] → (UpdateOperator.ofKey? key).isSome) ∧
        Runs (stepsOf key entries) doc after := by
  induction entries generalizing doc with
  | nil =>
    have hnone : stepsOf key [] = [] := by simp [stepsOf]
    simp [applyEntries, hnone, Runs.nil_iff]
  | cons entry rest ih =>
    obtain ⟨path, operand⟩ := entry
    have hcons : applyEntries key ((path, operand) :: rest) doc = .ok after ↔
        ∃ between, applyEntry key path operand doc = .ok between ∧
          applyEntries key rest between = .ok after := by
      rw [applyEntries]
      cases applyEntry key path operand doc <;> simp
    rw [hcons]
    simp only [applyEntry_eq_ok_iff, ih]
    cases hop : UpdateOperator.ofKey? key with
    | none => simp
    | some op =>
      have hsteps : stepsOf key ((path, operand) :: rest) =
          ⟨op, path, operand⟩ :: stepsOf key rest := by simp [stepsOf, hop]
      simp [hsteps, Runs.cons_iff, and_assoc]

/-- What an update needs to look like: entries for operators, and some operator. -/
structure Permitted (operators : Fields) : Prop where
  nonempty : operators ≠ []
  keys : ∀ operator ∈ operators, isOperatorKey operator.1 = true
  entries : ∀ operator ∈ operators, ∃ entries, operator.2 = .obj entries ∧
    (entries ≠ [] → (UpdateOperator.ofKey? operator.1).isSome)

theorem applyOperators_eq_ok_iff {operators doc after : Fields} :
    applyOperators operators doc = .ok after ↔
      (∀ operator ∈ operators, ∃ entries, operator.2 = .obj entries ∧
        (entries ≠ [] → (UpdateOperator.ofKey? operator.1).isSome)) ∧
      Runs (operators.flatMap fun operator => stepsOf operator.1 ((operator.2.fields?).getD []))
        doc after := by
  induction operators generalizing doc with
  | nil => simp [applyOperators, Runs.nil_iff]
  | cons operator rest ih =>
    obtain ⟨key, value⟩ := operator
    cases value with
    | obj entries =>
      have hcons : applyOperators ((key, .obj entries) :: rest) doc = .ok after ↔
          ∃ between, applyEntries key entries doc = .ok between ∧
            applyOperators rest between = .ok after := by
        rw [applyOperators]
        cases applyEntries key entries doc <;> simp
      rw [hcons, List.forall_mem_cons, List.flatMap_cons, Runs.append_iff]
      simp only [applyEntries_eq_ok_iff, ih]
      constructor
      · rintro ⟨between, ⟨hfirst, hruns⟩, hrest, hothers⟩
        exact ⟨⟨⟨entries, rfl, hfirst⟩, hrest⟩, between, hruns, hothers⟩
      · rintro ⟨⟨⟨others, hvalue, hfirst⟩, hrest⟩, between, hruns, hothers⟩
        obtain rfl := Json.obj.inj hvalue
        exact ⟨between, ⟨hfirst, hruns⟩, hrest, hothers⟩
    | _ => simp [applyOperators]

/-- An update succeeds exactly if it is permitted and its steps run, and makes what they make. -/
theorem applyUpdate_eq_ok_iff {update : Json} {doc after : Fields} :
    applyUpdate update doc = .ok after ↔
      (∃ operators, update = .obj operators ∧ Permitted operators) ∧
        Runs (steps update) doc after := by
  cases update with
  | obj operators =>
    rw [applyUpdate]
    split
    · rename_i hguard
      have hform : operators = [] ∨ ∃ operator ∈ operators, isOperatorKey operator.1 = false := by
        simpa using hguard
      refine iff_of_false (by simp) ?_
      rintro ⟨⟨others, hobj, hpermitted⟩, -⟩
      obtain rfl := Json.obj.inj hobj
      rcases hform with hempty | ⟨operator, hoperator, hkey⟩
      · exact hpermitted.nonempty hempty
      · rw [hpermitted.keys operator hoperator] at hkey
        cases hkey
    · rename_i hguard
      have hform : operators ≠ [] ∧ ∀ operator ∈ operators, isOperatorKey operator.1 = true := by
        simpa using hguard
      rw [applyOperators_eq_ok_iff]
      constructor
      · rintro ⟨hentries, hruns⟩
        exact ⟨⟨operators, rfl, hform.1, hform.2, hentries⟩, hruns⟩
      · rintro ⟨⟨others, hobj, hpermitted⟩, hruns⟩
        obtain rfl := Json.obj.inj hobj
        exact ⟨hpermitted.entries, hruns⟩
  | _ => simp [applyUpdate]

theorem runs_steps {update : Json} {doc after : Fields} (h : applyUpdate update doc = .ok after) :
    Runs (steps update) doc after :=
  (applyUpdate_eq_ok_iff.mp h).2

/-- An update leaves the value at a path that is apart from all of its own. -/
theorem at?_applyUpdate_of_apart {update : Json} (hupdate : update.namesDiffer) {path : String}
    (hapart : ∀ step ∈ steps update, Apart step.path path) {doc after : Fields}
    (hdoc : (Json.obj doc).namesDiffer) (h : applyUpdate update doc = .ok after) :
    (Json.obj after).at? path = (Json.obj doc).at? path :=
  (runs_steps h).walk_of_apart (operands_namesDiffer hupdate) hdoc hapart

/-! ## The `_id` -/

theorem eq_of_foldlM_inside {value : Json} {value' : Option Json} (hplain : value.fields? = none)
    {below : List UpdateStep} (h : below.foldlM UpdateStep.inside (some value) = some value') :
    value' = some value := by
  induction below with
  | nil => exact (Option.some.inj h).symm
  | cons step rest ih =>
    rw [List.foldlM_cons] at h
    obtain ⟨between, hfirst, hrest⟩ := Option.bind_eq_some_iff.mp h
    obtain rfl := UpdateOperator.eq_of_inside hplain hfirst
    exact ih hrest

/-- No step of an update is at `_id`, and the `_id` afterwards is what the steps below it make of
the `_id` before.  So it stays what it was, or missing, if there are no such steps, and also if it
is no object. -/
theorem id_after_update {update : Json} {doc after : Fields} (hn : (Fields.names doc).Nodup)
    (h : applyUpdate update doc = .ok after) :
    (∀ step ∈ steps update, step.path ≠ "_id") ∧
      (stepsBelow "_id" update).foldlM UpdateStep.inside (Fields.get? "_id" doc) =
        some (Fields.get? "_id" after) ∧
      ((∀ step ∈ steps update, below? "_id" step.path = none) →
        Fields.get? "_id" after = Fields.get? "_id" doc) ∧
      ∀ id, Fields.get? "_id" doc = some id → id.fields? = none →
        Fields.get? "_id" after = some id := by
  have hruns := runs_steps h
  have hrun := hruns.get?_eq hn hruns.path_ne
  refine ⟨hruns.path_ne, hrun, hruns.get?_of_apart hn hruns.path_ne, fun id hid hplain => ?_⟩
  rw [hid] at hrun
  exact eq_of_foldlM_inside hplain hrun

/-- An update below an `_id` that is an object changes it, and one below no `_id` makes one. -/
theorem id_after_update_below :
    let update : Json := .obj [("$set", .obj [("_id.k", .nat 2), ("n", .nat 1)])]
    let doc : Fields := [("_id", .obj [("k", .nat 1)])]
    let after : Fields := [("_id", .obj [("k", .nat 2)]), ("n", .nat 1)]
    let made : Fields := [("_id", .obj [("k", .nat 2)]), ("n", .nat 1)]
    (Fields.names doc).Nodup ∧ applyUpdate update doc = .ok after ∧
      applyUpdate update [] = .ok made ∧
      (stepsBelow "_id" update).foldlM UpdateStep.inside (some (.obj [("k", .nat 1)])) =
        some (some (.obj [("k", .nat 2)])) ∧
      (stepsBelow "_id" update).foldlM UpdateStep.inside none =
        some (some (.obj [("k", .nat 2)])) := by
  intro update doc after made
  have hn : (Fields.names doc).Nodup := by decide
  have hafter : applyUpdate update doc = .ok after := rfl
  have hmade : applyUpdate update [] = .ok made := rfl
  exact ⟨hn, hafter, hmade, (id_after_update hn hafter).2.1,
    (id_after_update (by decide) hmade).2.1⟩

end Document
end QueryGateway
