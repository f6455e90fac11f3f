import QueryGateway.Document.Update
import QueryGateway.Proofs.Json.Names

/-!
What an update can do to a document.

`UpdateOperator.apply_cases` says what one operator does at one path, and
`applyUpdate_induction` carries a property of documents along all operators of an update.
From these: an update keeps names apart, and an `_id` that is no object keeps its value
(`plainId?_applyUpdate`), since the only path that could change it is refused.
-/

namespace QueryGateway.Document

open Json (Fields)

/-- The `_id` of a document, unless it is an object. -/
def plainId? (doc : Fields) : Option Json := Fields.plain? "_id" doc

/-- Whether an update asks for an operator at a path. -/
def AsksFor (update : Json) (op : UpdateOperator) (path : String) (operand : Json) : Prop :=
  ∃ operators entries key, update = .obj operators ∧ (key, .obj entries) ∈ operators ∧
    UpdateOperator.ofKey? key = some op ∧ (path, operand) ∈ entries

theorem AsksFor.namesDiffer {update : Json} {op : UpdateOperator} {path : String}
    {operand : Json} (h : AsksFor update op path operand) (hu : update.namesDiffer) :
    operand.namesDiffer := by
  obtain ⟨operators, entries, key, rfl, hop, -, hentry⟩ := h
  have hentries := (Json.namesDiffer_obj.mp hu).2 _ hop
  exact (Json.namesDiffer_obj.mp hentries).2 _ hentry

theorem setAt_eq_ok_iff {path : String} {value : Json} {doc after : Fields} :
    setAt path value doc = .ok after ↔
      Fields.setPath value (Json.segments path) doc = .ok after := by
  rw [setAt]
  cases Fields.setPath value (Json.segments path) doc with
  | error segment => exact ⟨nofun, nofun⟩
  | ok made =>
    exact ⟨fun h => congrArg Except.ok (Except.ok.inj h),
      fun h => congrArg Except.ok (Except.ok.inj h)⟩

theorem setAt_eq_error_iff {path : String} {value : Json} {doc : Fields} {e : Error} :
    setAt path value doc = .error e ↔
      ∃ segment, Fields.setPath value (Json.segments path) doc = .error segment ∧
        e = .blockedPath path segment := by
  rw [setAt]
  cases Fields.setPath value (Json.segments path) doc with
  | ok made => simp [Except.mapError]
  | error segment => simp [Except.mapError, eq_comm]

/-- What one operator does at one path: it erases there, or it sets the operand, the sum
or the longer list. -/
theorem UpdateOperator.apply_cases {op : UpdateOperator} {path : String} {operand : Json}
    {doc after : Fields} (h : op.apply path operand doc = .ok after) :
    (op = .unset ∧ after = Fields.erasePath (Json.segments path) doc) ∨
      ∃ value, Fields.setPath value (Json.segments path) doc = .ok after ∧
        ((op = .set ∧ value = operand) ∨
          (op = .inc ∧ increment ((Json.obj doc).at? path) operand = some value) ∨
          (op = .push ∧ ∃ items, value = .arr (items ++ [operand]) ∧
            ((Json.obj doc).at? path = none ∧ items = [] ∨
              (Json.obj doc).at? path = some (.arr items)))) := by
  cases op with
  | set => exact .inr ⟨operand, setAt_eq_ok_iff.mp h, .inl ⟨rfl, rfl⟩⟩
  | unset => exact .inl ⟨rfl, (Except.ok.inj h).symm⟩
  | inc =>
    rw [UpdateOperator.apply] at h
    cases hs : increment ((Json.obj doc).at? path) operand with
    | none =>
      rw [hs] at h
      cases h
    | some sum =>
      rw [hs] at h
      exact .inr ⟨sum, setAt_eq_ok_iff.mp h, .inr (.inl ⟨rfl, rfl⟩)⟩
  | push =>
    rw [UpdateOperator.apply] at h
    cases hc : (Json.obj doc).at? path with
    | none =>
      rw [hc] at h
      exact .inr ⟨_, setAt_eq_ok_iff.mp h, .inr (.inr ⟨rfl, [], rfl, .inl ⟨rfl, rfl⟩⟩)⟩
    | some current =>
      rw [hc] at h
      cases current with
      | arr items =>
        exact .inr ⟨_, setAt_eq_ok_iff.mp h, .inr (.inr ⟨rfl, items, rfl, .inr rfl⟩)⟩
      | _ => cases h

theorem increment_namesDiffer {current : Option Json} {amount sum : Json}
    (h : increment current amount = some sum) : sum.namesDiffer := by
  have hnum : ∃ n, sum = .num n := by
    rw [increment.eq_def] at h
    split at h
    · exact ⟨_, (Option.some.inj h).symm⟩
    · split at h
      · split at h
        · exact ⟨_, (Option.some.inj h).symm⟩
        · cases h
      · obtain ⟨x, -, rfl⟩ := Option.map_eq_some_iff.mp h
        exact ⟨_, rfl⟩
    · cases h
  obtain ⟨n, rfl⟩ := hnum
  rfl

theorem UpdateOperator.apply_namesDiffer {op : UpdateOperator} {path : String}
    {operand : Json} {doc after : Fields} (hoperand : operand.namesDiffer)
    (hdoc : (Json.obj doc).namesDiffer) (h : op.apply path operand doc = .ok after) :
    (Json.obj after).namesDiffer := by
  rcases UpdateOperator.apply_cases h with ⟨-, rfl⟩ | ⟨value, hset, hvalue⟩
  · exact Fields.namesDiffer_erasePath _ hdoc
  · refine Fields.namesDiffer_setPath ?_ hdoc hset
    rcases hvalue with ⟨-, rfl⟩ | ⟨-, hsum⟩ | ⟨-, items, rfl, hitems⟩
    · exact hoperand
    · exact increment_namesDiffer hsum
    · refine Json.namesDiffer_arr.mpr fun v hv => ?_
      rcases List.mem_append.mp hv with hold | hnew
      · rcases hitems with ⟨-, rfl⟩ | hat
        · cases hold
        · exact Json.namesDiffer_arr.mp (Json.namesDiffer_walk hdoc hat) v hold
      · rw [List.mem_singleton.mp hnew]
        exact hoperand

theorem UpdateOperator.plainId?_apply {op : UpdateOperator} {path : String} {operand : Json}
    {doc after : Fields} (hpath : path ≠ "_id") (hdoc : (Json.obj doc).namesDiffer)
    (h : op.apply path operand doc = .ok after) : plainId? after = plainId? doc := by
  have hs : Json.segments path ≠ ["_id"] := fun hs =>
    hpath (Json.eq_of_segments_eq_singleton hs)
  rcases UpdateOperator.apply_cases h with ⟨-, rfl⟩ | ⟨value, hset, -⟩
  · exact Fields.plain?_erasePath hs (Json.namesDiffer_obj.mp hdoc).1
  · exact Fields.plain?_setPath hs hset

theorem UpdateOperator.isSome_id_apply {op : UpdateOperator} {path : String}
    {operand : Json} {doc after : Fields} (hpath : path ≠ "_id")
    (hdoc : (Json.obj doc).namesDiffer) (h : op.apply path operand doc = .ok after)
    (hid : (Fields.get? "_id" doc).isSome) : (Fields.get? "_id" after).isSome := by
  have hs : Json.segments path ≠ ["_id"] := fun hs =>
    hpath (Json.eq_of_segments_eq_singleton hs)
  rcases UpdateOperator.apply_cases h with ⟨-, rfl⟩ | ⟨value, hset, -⟩
  · exact Fields.isSome_get?_erasePath hs (Json.namesDiffer_obj.mp hdoc).1 hid
  · exact Fields.isSome_get?_setPath hid hset

/-! ## All operators of an update -/

section Induction

variable {P : Fields → Prop}

theorem applyEntries_induction {key : String} {entries : Fields}
    (step : ∀ op path operand doc after, UpdateOperator.ofKey? key = some op →
      (path, operand) ∈ entries → path ≠ "_id" →
      UpdateOperator.apply op path operand doc = .ok after → P doc → P after)
    {doc after : Fields} (h : applyEntries key entries doc = .ok after) (hdoc : P doc) :
    P after := by
  induction entries generalizing doc with
  | nil => exact Except.ok.inj h ▸ hdoc
  | cons entry rest ih =>
    obtain ⟨path, operand⟩ := entry
    rw [applyEntries] at h
    cases hentry : applyEntry key path operand doc with
    | error e => simp [hentry] at h
    | ok between =>
      rw [hentry] at h
      refine ih (fun op p o d a hop hm => step op p o d a hop (List.mem_cons_of_mem _ hm)) h ?_
      rw [applyEntry] at hentry
      by_cases hp : path = "_id"
      · rw [if_pos hp] at hentry
        cases hentry
      · rw [if_neg hp] at hentry
        cases hop : UpdateOperator.ofKey? key with
        | none =>
          rw [hop] at hentry
          cases hentry
        | some op =>
          rw [hop] at hentry
          exact step op path operand doc between hop List.mem_cons_self hp hentry hdoc

theorem applyOperators_induction {operators : Fields}
    (step : ∀ key entries op path operand doc after, (key, .obj entries) ∈ operators →
      UpdateOperator.ofKey? key = some op → (path, operand) ∈ entries → path ≠ "_id" →
      UpdateOperator.apply op path operand doc = .ok after → P doc → P after)
    {doc after : Fields} (h : applyOperators operators doc = .ok after) (hdoc : P doc) :
    P after := by
  induction operators generalizing doc with
  | nil => exact Except.ok.inj h ▸ hdoc
  | cons operator rest ih =>
    obtain ⟨key, value⟩ := operator
    cases value with
    | obj entries =>
      rw [applyOperators] at h
      cases hentries : applyEntries key entries doc with
      | error e => simp [hentries] at h
      | ok between =>
        rw [hentries] at h
        refine ih (fun k es op p o d a hk => step k es op p o d a (List.mem_cons_of_mem _ hk))
          h ?_
        exact applyEntries_induction
          (fun op p o d a => step key entries op p o d a List.mem_cons_self) hentries hdoc
    | _ => cases h

/-- What every operator of an update keeps, the update keeps. -/
theorem applyUpdate_induction {update : Json}
    (step : ∀ op path operand doc after, AsksFor update op path operand → path ≠ "_id" →
      UpdateOperator.apply op path operand doc = .ok after → P doc → P after)
    {doc after : Fields} (h : applyUpdate update doc = .ok after) (hdoc : P doc) :
    P after := by
  cases update with
  | obj operators =>
    rw [applyUpdate] at h
    split at h
    · cases h
    · exact applyOperators_induction
        (fun key entries op path operand doc after hk hop hentry =>
          step op path operand doc after ⟨operators, entries, key, rfl, hk, hop, hentry⟩)
        h hdoc
  | _ => cases h

end Induction

theorem applyUpdate_namesDiffer {update : Json} (hu : update.namesDiffer)
    {doc after : Fields} (hdoc : (Json.obj doc).namesDiffer)
    (h : applyUpdate update doc = .ok after) : (Json.obj after).namesDiffer :=
  applyUpdate_induction (P := fun doc => (Json.obj doc).namesDiffer)
    (fun _ _ _ _ _ hask _ happly hd =>
      UpdateOperator.apply_namesDiffer (hask.namesDiffer hu) hd happly) h hdoc

/-- An update leaves an `_id` that is no object. -/
theorem plainId?_applyUpdate {update : Json} (hu : update.namesDiffer) {doc after : Fields}
    (hdoc : (Json.obj doc).namesDiffer) (h : applyUpdate update doc = .ok after) :
    plainId? after = plainId? doc := by
  let P (d : Fields) : Prop := (Json.obj d).namesDiffer ∧ plainId? d = plainId? doc
  suffices P after from this.2
  refine applyUpdate_induction (fun op path operand d a hask hpath happly hd => ?_) h
    ⟨hdoc, rfl⟩
  refine ⟨UpdateOperator.apply_namesDiffer (hask.namesDiffer hu) hd.1 happly, ?_⟩
  rw [UpdateOperator.plainId?_apply hpath hd.1 happly, hd.2]

/-- An update never takes away the `_id`. -/
theorem isSome_id_applyUpdate {update : Json} (hu : update.namesDiffer) {doc after : Fields}
    (hdoc : (Json.obj doc).namesDiffer) (h : applyUpdate update doc = .ok after)
    (hid : (Fields.get? "_id" doc).isSome) : (Fields.get? "_id" after).isSome := by
  let P (d : Fields) : Prop :=
    (Json.obj d).namesDiffer ∧ (Fields.get? "_id" d).isSome
  suffices P after from this.2
  refine applyUpdate_induction (fun op path operand d a hask hpath happly hd => ?_) h
    ⟨hdoc, hid⟩
  exact ⟨UpdateOperator.apply_namesDiffer (hask.namesDiffer hu) hd.1 happly,
    UpdateOperator.isSome_id_apply hpath hd.1 happly hd.2⟩

end QueryGateway.Document
