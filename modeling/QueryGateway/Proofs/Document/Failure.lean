import QueryGateway.Proofs.Document.Identity

/-!
What a command that fails leaves behind.

An outcome is `Whole` when it changes nothing if it fails.  All operations have whole
outcomes as long as they project nothing: they fail before their first write, or write to a
copy.  The two that answer with a document project it only after the write, so their failure
can come too late.  `run_eq_projecting` splits them into the whole part and the projection,
and `documents_after_failure` says what is left in each case.
-/

namespace QueryGateway

namespace Json

/-- The value without a field of its own. -/
def without (key : String) : Json → Json
  | .obj fields => .obj (fields.filter (·.1 != key))
  | value => value

theorem field?_without_of_ne {key other : String} (h : other ≠ key) (value : Json) :
    (value.without key).field? other = value.field? other := by
  cases value with
  | obj fields =>
    show Fields.get? other (fields.filter (·.1 != key)) = Fields.get? other fields
    induction fields with
    | nil => rfl
    | cons entry rest ih =>
      obtain ⟨k, v⟩ := entry
      by_cases hk : k = key
      · have hne : other ≠ k := fun he => h (he.trans hk)
        rw [List.filter_cons_of_neg (by simpa using hk), ih, Fields.get?_cons_of_ne hne]
      · rw [List.filter_cons_of_pos (by simpa using hk), Fields.get?_cons, Fields.get?_cons, ih]
  | _ => rfl

theorem field?_without_self (key : String) (value : Json) :
    (value.without key).field? key = none := by
  cases value with
  | obj fields =>
    refine Fields.get?_eq_none_iff.mpr fun hmem => ?_
    obtain ⟨entry, hentry, hkey⟩ := List.mem_map.mp hmem
    exact bne_iff_ne.mp (List.mem_filter.mp hentry).2 hkey
  | _ => rfl

end Json

namespace Document

open Json (Fields)

namespace Command

/-- Whether a command answers with a document that it has written or removed. -/
def answersAfterWrite (c : Command) : Prop :=
  c.operation = .findOneAndUpdate ∨ c.operation = .findOneAndDelete

/-- The options of a command that answers so. -/
def options (c : Command) : Json :=
  match c.operation with
  | .findOneAndUpdate => c.arg 2
  | _ => c.arg 1

theorem options_of_findOneAndUpdate {c : Command} (h : c.operation = .findOneAndUpdate) :
    c.options = c.arg 2 := by
  rw [options, h]

theorem options_of_findOneAndDelete {c : Command} (h : c.operation = .findOneAndDelete) :
    c.options = c.arg 1 := by
  rw [options, h]

/-- The command with an argument that does not ask for a projection. -/
def unprojectedAt (i : Nat) (c : Command) : Command :=
  { c with args := c.args.modify i (Json.without "projection") }

/-- The command without its projection, if it would project after a write. -/
def unprojected (c : Command) : Command :=
  match c.operation with
  | .findOneAndUpdate => c.unprojectedAt 2
  | .findOneAndDelete => c.unprojectedAt 1
  | _ => c

theorem arg_unprojectedAt (c : Command) (i j : Nat) :
    (c.unprojectedAt i).arg j =
      if i = j then (c.arg j).without "projection" else c.arg j := by
  rw [arg, arg, unprojectedAt, List.getElem?_modify]
  by_cases h : i = j
  · simp only [h, if_true]
    cases c.args[j]? <;> rfl
  · simp only [h, if_false]
    cases c.args[j]? <;> rfl

theorem unprojected_eq_self {c : Command} (h : ¬c.answersAfterWrite) : c.unprojected = c := by
  rw [answersAfterWrite, not_or] at h
  rw [unprojected]
  split
  · rename_i hop
    exact absurd hop h.1
  · rename_i hop
    exact absurd hop h.2
  · rfl

theorem collection_unprojected (c : Command) : c.unprojected.collection = c.collection := by
  rw [unprojected]
  split <;> rfl

end Command

/-- An outcome that leaves the documents as they were if it is a failure. -/
def Outcome.Whole {α : Type} (docs : Collection) (o : Outcome α) : Prop :=
  ∀ e, o.result = .error e → o.documents = docs

theorem Outcome.whole_of_ok {α : Type} {docs : Collection} {o : Outcome α} {a : α}
    (h : o.result = .ok a) : o.Whole docs := by
  intro e he
  rw [h] at he
  cases he

theorem Outcome.whole_of_documents {α : Type} {docs : Collection} {o : Outcome α}
    (h : o.documents = docs) : o.Whole docs :=
  fun _ _ => h

theorem Outcome.Whole.map {α β : Type} {docs : Collection} {o : Outcome α}
    (h : o.Whole docs) (f : α → β) :
    Outcome.Whole docs { o with result := o.result.map f } := by
  intro e he
  cases hr : o.result with
  | error e' => exact h e' hr
  | ok a =>
    rw [hr] at he
    cases he

namespace Collection

theorem whole_insert (document : Json) (docs : Collection) (supply : Supply) :
    (insert document docs supply).Whole docs := by
  cases document with
  | obj given =>
    rw [insert_obj]
    by_cases h : docs.holds (identify given supply).1 = true
    · rw [if_pos h]
      exact Outcome.whole_of_documents rfl
    · rw [if_neg h]
      exact Outcome.whole_of_ok rfl
  | _ => exact Outcome.whole_of_documents rfl

theorem whole_insertMany (documents : List Json) (docs : Collection) (supply : Supply) :
    (insertMany documents docs supply).Whole docs := by
  rw [insertMany]
  split
  · rename_i hids
    exact Outcome.whole_of_ok hids
  · exact Outcome.whole_of_documents rfl

theorem whole_upsert (filter change : Json) (docs : Collection) (supply : Supply) :
    (upsert filter change docs supply).Whole docs := by
  simp only [upsert]
  split
  · exact Outcome.whole_of_documents rfl
  · exact whole_insert _ docs supply

theorem whole_update (many : Bool) (filter change options : Json) (docs : Collection)
    (supply : Supply) : (update many filter change options docs supply).Whole docs := by
  rw [update]
  cases positions filter docs with
  | error e => exact Outcome.whole_of_documents rfl
  | ok found =>
    simp only
    generalize (if many then found else found.take 1) = targets
    by_cases hupsert : (targets.isEmpty && upsertRequested options) = true
    · rw [if_pos hupsert]
      exact (whole_upsert filter change docs supply).map _
    · rw [if_neg hupsert]
      -- The targets are updated in a copy, which takes the place of the documents at the end.
      cases updateAt change targets docs with
      | error e => exact Outcome.whole_of_documents rfl
      | ok p => exact Outcome.whole_of_ok rfl

theorem whole_delete (many : Bool) (filter : Json) (docs : Collection) (supply : Supply) :
    (delete many filter docs supply).Whole docs := by
  rw [delete]
  split
  · exact Outcome.whole_of_documents rfl
  · exact Outcome.whole_of_ok rfl

/-! ## Projection after a write -/

section Options

variable (filter change options : Json) (docs : Collection) (supply : Supply)

theorem projectAs_without (doc : Fields) :
    projectAs (options.without "projection") doc = .ok doc := by
  rw [projectAs, Json.field?_without_self]

theorem firstPosition_without :
    firstPosition filter (options.without "projection") docs =
      firstPosition filter options docs := by
  have hsort := Json.field?_without_of_ne (show "sort" ≠ "projection" by decide) options
  rw [firstPosition, firstPosition, hsort]

theorem upsertRequested_without :
    upsertRequested (options.without "projection") = upsertRequested options := by
  have hupsert := Json.field?_without_of_ne (show "upsert" ≠ "projection" by decide) options
  rw [upsertRequested, upsertRequested, hupsert]

/-- The outcome with its answer projected, whatever has been written. -/
def projecting (o : Outcome (List Row)) : Outcome (List Row) :=
  { o with result := o.result.bind fun rows => rows.mapM (projectAs options) }

theorem mapM_projectAs_singleton (doc : Fields) :
    [doc].mapM (projectAs options) = (projectAs options doc).map ([·]) := by
  rw [List.mapM_cons, List.mapM_nil]
  cases projectAs options doc <;> rfl

theorem findOneAndUpdate_eq_projecting :
    findOneAndUpdate filter change options docs supply =
      projecting options
        (findOneAndUpdate filter change (options.without "projection") docs supply) := by
  have hreturn := Json.field?_without_of_ne
    (show "returnDocument" ≠ "projection" by decide) options
  simp only [findOneAndUpdate, firstPosition_without, upsertRequested_without, hreturn,
    projectAs_without]
  cases firstPosition filter options docs with
  | error e => rfl
  | ok found =>
    cases found with
    | none =>
      by_cases hupsert : upsertRequested options = true
      · simp only [hupsert, if_true]
        cases (upsert filter change docs supply).result with
        | error e => rfl
        | ok id =>
          by_cases hafter : ((options.field? "returnDocument").bind Json.str? !=
              some "before") = true
          · simp only [projecting, hafter, if_true, Except.map, Except.bind,
              mapM_projectAs_singleton]
          · simp only [hafter]
            rfl
      · simp only [hupsert]
        rfl
    | some i =>
      simp only
      cases docs[i]? with
      | none => rfl
      | some before =>
        simp only
        cases applyUpdate change before with
        | error e => rfl
        | ok after =>
          simp only [reading, projecting, Except.map, Except.bind, mapM_projectAs_singleton]

theorem whole_findOneAndUpdate_without :
    (findOneAndUpdate filter change (options.without "projection") docs supply).Whole docs := by
  simp only [findOneAndUpdate, projectAs_without]
  split
  · exact Outcome.whole_of_documents rfl
  · split
    · intro e he
      cases hr : (upsert filter change docs supply).result with
      | error e' => exact whole_upsert filter change docs supply e' hr
      | ok id =>
        simp only [hr] at he
        split at he
        · cases he
        · cases he
    · exact Outcome.whole_of_documents rfl
  · split
    · exact Outcome.whole_of_documents rfl
    · split
      · exact Outcome.whole_of_documents rfl
      · exact Outcome.whole_of_ok rfl

theorem findOneAndDelete_eq_projecting :
    findOneAndDelete filter options docs supply =
      projecting options
        (findOneAndDelete filter (options.without "projection") docs supply) := by
  simp only [findOneAndDelete, firstPosition_without, projectAs_without]
  cases firstPosition filter options docs with
  | error e => rfl
  | ok found =>
    cases found with
    | none => rfl
    | some i =>
      simp only
      cases docs[i]? with
      | none => rfl
      | some removed =>
        simp only [reading, projecting, Except.map, Except.bind, mapM_projectAs_singleton]

theorem whole_findOneAndDelete_without :
    (findOneAndDelete filter (options.without "projection") docs supply).Whole docs := by
  simp only [findOneAndDelete, projectAs_without]
  split
  · exact Outcome.whole_of_documents rfl
  · exact Outcome.whole_of_documents rfl
  · split
    · exact Outcome.whole_of_documents rfl
    · exact Outcome.whole_of_ok rfl

end Options

theorem run_of_findOneAndUpdate {c : Command} (h : c.operation = .findOneAndUpdate)
    (docs : Collection) (supply : Supply) :
    run c docs supply = findOneAndUpdate (c.arg 0) (c.arg 1) c.options docs supply := by
  rw [run, h, Command.options_of_findOneAndUpdate h]

theorem run_of_findOneAndDelete {c : Command} (h : c.operation = .findOneAndDelete)
    (docs : Collection) (supply : Supply) :
    run c docs supply = findOneAndDelete (c.arg 0) c.options docs supply := by
  rw [run, h, Command.options_of_findOneAndDelete h]

theorem run_unprojected_of_findOneAndUpdate {c : Command}
    (h : c.operation = .findOneAndUpdate) (docs : Collection) (supply : Supply) :
    run c.unprojected docs supply =
      findOneAndUpdate (c.arg 0) (c.arg 1) (c.options.without "projection") docs supply := by
  have hc : c.unprojected = c.unprojectedAt 2 := by rw [Command.unprojected, h]
  have harg := c.arg_unprojectedAt 2
  rw [hc, run_of_findOneAndUpdate (c := c.unprojectedAt 2) h,
    Command.options_of_findOneAndUpdate (c := c.unprojectedAt 2) h,
    Command.options_of_findOneAndUpdate h, harg 0, harg 1, harg 2]
  rfl

theorem run_unprojected_of_findOneAndDelete {c : Command}
    (h : c.operation = .findOneAndDelete) (docs : Collection) (supply : Supply) :
    run c.unprojected docs supply =
      findOneAndDelete (c.arg 0) (c.options.without "projection") docs supply := by
  have hc : c.unprojected = c.unprojectedAt 1 := by rw [Command.unprojected, h]
  have harg := c.arg_unprojectedAt 1
  rw [hc, run_of_findOneAndDelete (c := c.unprojectedAt 1) h,
    Command.options_of_findOneAndDelete (c := c.unprojectedAt 1) h,
    Command.options_of_findOneAndDelete h, harg 0, harg 1]
  rfl

/-- A command that answers after a write is the one without projection, and then its
answer is projected. -/
theorem run_eq_projecting {c : Command} (h : c.answersAfterWrite) (docs : Collection)
    (supply : Supply) :
    run c docs supply = projecting c.options (run c.unprojected docs supply) := by
  rcases h with h | h
  · rw [run_of_findOneAndUpdate h, run_unprojected_of_findOneAndUpdate h]
    exact findOneAndUpdate_eq_projecting _ _ _ docs supply
  · rw [run_of_findOneAndDelete h, run_unprojected_of_findOneAndDelete h]
    exact findOneAndDelete_eq_projecting _ _ docs supply

theorem whole_run {c : Command} (h : ¬c.answersAfterWrite) (docs : Collection)
    (supply : Supply) : (run c docs supply).Whole docs := by
  rw [Command.answersAfterWrite, not_or] at h
  rw [run]
  cases hop : c.operation with
  | find => exact Outcome.whole_of_documents rfl
  | findOne => exact Outcome.whole_of_documents rfl
  | countDocuments => exact Outcome.whole_of_documents rfl
  | insertOne => exact (whole_insert _ docs supply).map _
  | insertMany => exact (whole_insertMany _ docs supply).map _
  | updateOne => exact whole_update false _ _ _ docs supply
  | updateMany => exact whole_update true _ _ _ docs supply
  | deleteOne => exact whole_delete false _ docs supply
  | deleteMany => exact whole_delete true _ docs supply
  | findOneAndUpdate => exact absurd hop h.1
  | findOneAndDelete => exact absurd hop h.2
  | aggregate => exact Outcome.whole_of_documents rfl

/-- Without its projection, every command leaves the documents if it fails. -/
theorem whole_run_unprojected (c : Command) (docs : Collection) (supply : Supply) :
    (run c.unprojected docs supply).Whole docs := by
  by_cases h : c.answersAfterWrite
  · rcases h with h | h
    · rw [run_unprojected_of_findOneAndUpdate h]
      exact whole_findOneAndUpdate_without _ _ _ docs supply
    · rw [run_unprojected_of_findOneAndDelete h]
      exact whole_findOneAndDelete_without _ _ docs supply
  · rw [Command.unprojected_eq_self h]
    exact whole_run h docs supply

end Collection

namespace Store

theorem documents_put_of_eq {store : Store} {collection : String} {docs : Collection}
    (h : docs = store.documents collection) (name : String) :
    (store.put collection docs).documents name = store.documents name := by
  rw [documents_put]
  by_cases hn : name = collection
  · rw [if_pos hn, h, hn]
  · rw [if_neg hn]

/-- A failed command leaves every collection as it was, unless it answers after a write and
only the projection of its answer failed.  Then the write stays. -/
theorem documents_after_failure {store : Store} {c : Command} {supply : Supply} {e : Error}
    (h : (store.execute c supply).1 = .error e) :
    ((store.execute c.unprojected supply).1 = .error e ∧
        ∀ name, (store.execute c supply).2.1.documents name = store.documents name) ∨
      ∃ rows, c.answersAfterWrite ∧
        (store.execute c.unprojected supply).1 = .ok rows ∧
        rows.mapM (Collection.projectAs c.options) = .error e ∧
        ∀ name, (store.execute c supply).2.1.documents name =
          (store.execute c.unprojected supply).2.1.documents name := by
  have hcollection := c.collection_unprojected
  have hwhole := Collection.whole_run_unprojected c (store.documents c.collection) supply
  simp only [execute] at h
  simp only [execute, hcollection]
  by_cases hc : c.answersAfterWrite
  · rw [Collection.run_eq_projecting hc] at h
    rw [Collection.run_eq_projecting hc]
    cases hplain : (Collection.run c.unprojected (store.documents c.collection) supply).result with
    | error e' =>
      simp only [Collection.projecting, hplain, Except.bind, Except.error.injEq] at h
      exact .inl ⟨by rw [h], documents_put_of_eq (hwhole e' hplain)⟩
    | ok rows =>
      simp only [Collection.projecting, hplain, Except.bind] at h
      exact .inr ⟨rows, hc, rfl, h, fun _ => rfl⟩
  · rw [Command.unprojected_eq_self hc] at hwhole
    rw [Command.unprojected_eq_self hc]
    exact .inl ⟨h, documents_put_of_eq (hwhole e h)⟩

/-- The document is gone although the command failed. -/
theorem documents_after_failed_projection :
    let store := empty.put "users" [[("_id", .str "u1"), ("name", .str "Ada")]]
    let c : Command := ⟨"users", .findOneAndDelete, [.obj [], .obj [("projection", .nat 3)]]⟩
    let supply : Supply := ⟨fun _ => ⟨0⟩, fun _ => "b", 0⟩
    (store.execute c supply).1 = .error .projectionNotObject ∧
      (store.documents "users").length = 1 ∧
      (store.execute c supply).2.1.documents "users" = [] ∧
      (((store.execute c.unprojected supply).1 = .error .projectionNotObject ∧
          ∀ name, (store.execute c supply).2.1.documents name = store.documents name) ∨
        ∃ rows, c.answersAfterWrite ∧
          (store.execute c.unprojected supply).1 = .ok rows ∧
          rows.mapM (Collection.projectAs c.options) = .error .projectionNotObject ∧
          ∀ name, (store.execute c supply).2.1.documents name =
            (store.execute c.unprojected supply).2.1.documents name) :=
  ⟨rfl, rfl, rfl, documents_after_failure rfl⟩

end Store
end Document
end QueryGateway
