import QueryGateway.Proofs.Document.Failure
import QueryGateway.Proofs.Traversal

/-!
Finds as pipelines.

The options of a find name at most four steps: an order, a number of documents to pass over, a
number to stop at and a projection.  The pipeline that takes the same steps after a `$match` on
the filter answers with the same rows, or fails as well (`find_eq_aggregate`).  A limit of zero
is left out, since a find reads it as no limit and a pipeline as no documents.
-/

namespace QueryGateway.Document

open Json (Fields)

/-- The steps that a find takes from the documents it has found to the rows of its answer. -/
structure Window where
  sort : Option Json := none
  skip : Option Number := none
  limit : Option Number := none
  projection : Option Json := none

namespace Window

/-- Whether options ask for these steps. -/
structure Asked (w : Window) (options : Json) : Prop where
  sort : options.field? "sort" = w.sort
  skip : options.field? "skip" = w.skip.map .num
  limit : options.field? "limit" = w.limit.map .num
  projection : options.field? "projection" = w.projection

/-- The stage of a step, if the step is taken. -/
def stage (name : String) (spec : Option Json) : List Json :=
  (spec.map fun spec => .obj [(name, spec)]).toList

/-- The pipeline that finds the documents that meet a filter and takes these steps. -/
def pipeline (w : Window) (filter : Json) : Json :=
  .arr (stage "$match" (some filter) ++ (stage "$sort" w.sort ++
    (stage "$skip" (w.skip.map .num) ++ (stage "$limit" (w.limit.map .num) ++
      (stage "$project" w.projection ++ [])))))

end Window

namespace Collection

/-- Runs a stage that may be left out. -/
def runStage? (name : String) (spec : Option Json) (docs : Collection) :
    Except Error Collection :=
  match spec with
  | some spec => runStage name spec docs
  | none => .ok docs

theorem runStages_stage (name : String) (spec : Option Json) (rest : List Json) :
    runStages (Window.stage name spec ++ rest) =
      fun docs => (runStage? name spec docs).bind (runStages rest) := by
  cases spec <;> rfl

theorem toOption_countOption {options : Json} {name : String} {n : Option Number}
    (h : options.field? name = n.map .num) :
    (countOption options name).toOption =
      n.elim (some none) fun n => n.unsigned?.map some := by
  rw [countOption, h]
  cases n with
  | none => rfl
  | some n =>
    cases hn : n.unsigned? <;> simp only [Option.map_some, Option.elim_some, hn] <;> rfl

theorem toOption_stageCount (stage : String) (n : Number) :
    (stageCount stage (.num n)).toOption = n.unsigned? := by
  rw [stageCount]
  cases n.unsigned? <;> rfl

/-- The first documents, as many as a find stops at. -/
def takeUpTo (limit : Option Nat) (docs : Collection) : Collection :=
  match limit with
  | none | some 0 => docs
  | some n => docs.take n

/-- Passing documents over is the stage `$skip`. -/
theorem toOption_skip {options : Json} {n : Option Number}
    (h : options.field? "skip" = n.map .num) (docs : Collection) :
    (runStage? "$skip" (n.map .num) docs).toOption =
      (countOption options "skip").toOption.map fun skip => docs.drop (skip.getD 0) := by
  rw [toOption_countOption h]
  cases n with
  | none => rfl
  | some n =>
    show ((stageCount "$skip" (.num n)).map fun count => docs.drop count).toOption = _
    rw [toOption_map, toOption_stageCount, Option.elim_some, Option.map_map]
    rfl

/-- Stopping at a number of documents is the stage `$limit`, unless the number is zero. -/
theorem toOption_limit {options : Json} {n : Option Number}
    (h : options.field? "limit" = n.map .num) (hzero : ∀ m ∈ n, m.unsigned? ≠ some 0)
    (docs : Collection) :
    (runStage? "$limit" (n.map .num) docs).toOption =
      (countOption options "limit").toOption.map fun limit => takeUpTo limit docs := by
  rw [toOption_countOption h]
  cases n with
  | none => rfl
  | some n =>
    show ((stageCount "$limit" (.num n)).map fun count => docs.take count).toOption = _
    rw [toOption_map, toOption_stageCount, Option.elim_some, Option.map_map]
    cases hn : n.unsigned? with
    | none => rfl
    | some count =>
      cases count with
      | zero => exact absurd hn (hzero n rfl)
      | succ count => rfl

theorem mapM_projectAs {w : Window} {options : Json} (h : w.Asked options)
    (docs : Collection) :
    docs.mapM (projectAs options) = runStage? "$project" w.projection docs := by
  cases hp : w.projection with
  | none =>
    have hnone : projectAs options = fun doc => .ok doc := by
      funext doc
      rw [projectAs, h.projection, hp]
    rw [hnone]
    exact mapM_ok docs
  | some projection =>
    have hsome : projectAs options = projectDocument projection := by
      funext doc
      rw [projectAs, h.projection, hp]
    rw [hsome]
    rfl

theorem present_eq {w : Window} {options : Json} (h : w.Asked options) (found : Collection) :
    present options found =
      (runStage? "$sort" w.sort found).bind fun sorted =>
        (countOption options "skip").bind fun skip =>
          (countOption options "limit").bind fun limit =>
            runStage? "$project" w.projection (takeUpTo limit (sorted.drop (skip.getD 0))) := by
  simp only [← mapM_projectAs h]
  rw [present, h.sort]
  cases w.sort <;> rfl

theorem aggregate_pipeline (w : Window) (filter : Json) (docs : Collection) :
    aggregate (w.pipeline filter) docs =
      (filterMeeting filter docs).bind fun found =>
        (runStage? "$sort" w.sort found).bind fun sorted =>
          (runStage? "$skip" (w.skip.map .num) sorted).bind fun skipped =>
            (runStage? "$limit" (w.limit.map .num) skipped).bind fun taken =>
              (runStage? "$project" w.projection taken).bind .ok := by
  rw [Window.pipeline, aggregate]
  simp only [runStages_stage]
  rfl

/-- A find and its pipeline take the same steps one after the other; only a find reads both
counts before it passes documents over. -/
theorem toOption_find {w : Window} {filter options : Json} (h : w.Asked options)
    (hlimit : ∀ n ∈ w.limit, n.unsigned? ≠ some 0) (docs : Collection) :
    (find filter options docs).toOption = (aggregate (w.pipeline filter) docs).toOption := by
  rw [find, aggregate_pipeline]
  simp only [toOption_bind]
  refine congrArg _ (funext fun found => ?_)
  rw [present_eq h]
  simp only [toOption_bind]
  refine congrArg _ (funext fun sorted => ?_)
  rw [toOption_skip h.skip, Option.bind_map]
  refine congrArg _ (funext fun skip => ?_)
  rw [Function.comp_apply, toOption_limit h.limit hlimit, Option.bind_map]
  refine congrArg _ (funext fun limit => ?_)
  exact (Option.bind_fun_some _).symm

end Collection

namespace Store

/-- A find fails exactly if its pipeline does, and otherwise both answer with the same rows in
the same order.  Neither changes a document. -/
theorem find_eq_aggregate {w : Window} {options : Json} (h : w.Asked options)
    (hlimit : ∀ n ∈ w.limit, n.unsigned? ≠ some 0) (store : Store) (collection : String)
    (filter other : Json) (supply : Supply) :
    let found := store.execute ⟨collection, .find, [filter, options]⟩ supply
    let made := store.execute ⟨collection, .aggregate, [w.pipeline filter, other]⟩ supply
    found.1.toOption = made.1.toOption ∧
      ∀ name, found.2.1.documents name = store.documents name ∧
        made.2.1.documents name = store.documents name :=
  ⟨Collection.toOption_find h hlimit (store.documents collection),
    fun name => ⟨documents_put_of_eq rfl name, documents_put_of_eq rfl name⟩⟩

/-- All four steps, on documents that the sort has to turn around. -/
theorem find_eq_aggregate_of_four :
    let w : Window := {
      sort := some (.obj [("name", .int (-1))]), skip := some (.int 1), limit := some (.int 1)
      projection := some (.obj [("name", .bool false)]) }
    let options : Json := .obj [("limit", .nat 1), ("sort", .obj [("name", .int (-1))]),
      ("skip", .nat 1), ("projection", .obj [("name", .bool false)])]
    let store := empty.put "users"
      [[("_id", .str "u1"), ("name", .str "Ada")], [("_id", .str "u2"), ("name", .str "Bea")],
        [("_id", .str "u3"), ("name", .str "Cleo")]]
    let supply : Supply := ⟨fun _ => ⟨0⟩, fun _ => "b", 0⟩
    let found := store.execute ⟨"users", .find, [.obj [], options]⟩ supply
    let made := store.execute ⟨"users", .aggregate, [w.pipeline (.obj []), .null]⟩ supply
    w.Asked options ∧ (∀ n ∈ w.limit, n.unsigned? ≠ some 0) ∧
      found.1 = .ok [[("_id", .str "u2")]] ∧ found.1.toOption = made.1.toOption ∧
      ∀ name, found.2.1.documents name = store.documents name ∧
        made.2.1.documents name = store.documents name := by
  intro w options store supply
  have hasked : w.Asked options := ⟨rfl, rfl, rfl, rfl⟩
  have hlimit : ∀ n ∈ w.limit, n.unsigned? ≠ some 0 := by
    intro n hn
    obtain rfl := Option.some.inj hn
    decide
  exact ⟨hasked, hlimit, rfl, find_eq_aggregate hasked hlimit store "users" (.obj []) .null supply⟩

end Store
end QueryGateway.Document
