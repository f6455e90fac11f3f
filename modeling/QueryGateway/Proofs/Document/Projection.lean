import QueryGateway.Document.Projection
import QueryGateway.Proofs.Document.Update
import QueryGateway.Proofs.Json.Reading
import QueryGateway.Proofs.Traversal

/-!
What a projection shows and what it hides.

A projection with a true flag copies the selected paths one after the other into an empty document,
and after each copy the document shows just the paths copied so far (`Shows.write`).  Paths may
overlap: what a path copies again is there already.  A copy fails exactly where an earlier one has
put an array on its way (`project_fails_iff`).

A projection without a true flag erases the listed paths.  Reading goes through arrays and erasing
does not, so a listed path through an array hides nothing (`project_hides_listed`).
-/

namespace QueryGateway.Document

open Json (Fields Apart segments)

/-! ## Paths that are shown -/

/-- The paths that a projection selects: those with a flag that counts as true, and `_id` unless
its own flag does not. -/
inductive Selects (spec : Fields) : String → Prop
  | id (kept : ∀ flag, Fields.get? "_id" spec = some flag → truthy flag = true) : Selects spec "_id"
  | path {path : String} {flag : Json} (other : path ≠ "_id") (entry : (path, flag) ∈ spec)
    (flagged : truthy flag = true) : Selects spec path

/-- All that stands in `out` is what stands at some paths in a document, and nothing is missing
there. -/
structure Shows (doc : Fields) (paths : List (List String)) (out : Fields) : Prop where
  kept : ∀ path ∈ paths, (Json.obj out).walk path = (Json.obj doc).walk path
  only : ∀ read value, read ≠ [] → (Json.obj out).walk read = some value →
    ∃ path ∈ paths, ((Json.obj doc).walk path).isSome ∧
      (path <+: read ∨ read <+: path ∧ value.fields?.isSome)

namespace Shows

variable {doc out out' : Fields} {paths : List (List String)} {path : List String}

theorem nil (doc : Fields) : Shows doc [] [] where
  kept := nofun
  only := fun read value hread h => by
    rw [Json.walk_empty hread] at h
    cases h

theorem walk_behind (h : Shows doc paths out) (hpath : path ∈ paths) {read : List String}
    (hlead : path <+: read) : (Json.obj out).walk read = (Json.obj doc).walk read := by
  obtain ⟨rest, rfl⟩ := hlead
  rw [Json.walk_append, Json.walk_append, h.kept path hpath]

/-- A path at which nothing stands in the document. -/
theorem skip (h : Shows doc paths out) (hpath : path ≠ [])
    (hnone : (Json.obj doc).walk path = none) : Shows doc (path :: paths) out where
  kept := by
    refine List.forall_mem_cons.mpr ⟨?_, h.kept⟩
    rw [hnone, Option.eq_none_iff_forall_ne_some]
    intro value hvalue
    obtain ⟨other, hother, hsome, hleads | ⟨hleads, -⟩⟩ := h.only path value hpath hvalue
    · rw [h.walk_behind hother hleads, hnone] at hvalue
      cases hvalue
    · obtain ⟨rest, rfl⟩ := hleads
      rw [Json.walk_append, hnone] at hsome
      cases hsome
  only := fun read value hread hvalue => by
    obtain ⟨other, hother, hshown⟩ := h.only read value hread hvalue
    exact ⟨other, List.mem_cons_of_mem _ hother, hshown⟩

/-- A path to which what stands there in the document is copied. -/
theorem write (h : Shows doc paths out) (hpath : path ≠ []) {value : Json}
    (hvalue : (Json.obj doc).walk path = some value)
    (hset : Fields.setPath value path out = .ok out') : Shows doc (path :: paths) out' where
  kept := by
    have hbelow (rest : List String) :
        (Json.obj out').walk (path ++ rest) = (Json.obj doc).walk (path ++ rest) := by
      rw [Fields.walk_setPath hpath hset, Json.walk_append, hvalue, Option.bind_some]
    refine List.forall_mem_cons.mpr ⟨?_, fun other hother => ?_⟩
    · have hself := hbelow []
      rwa [List.append_nil] at hself
    · by_cases hthrough : path <+: other
      · obtain ⟨rest, rfl⟩ := hthrough
        exact hbelow rest
      · by_cases hinto : other <+: path
        · -- The value is there already, as part of what was copied before.
          have hthere := (h.walk_behind hother hinto).trans hvalue
          rw [Fields.setPath_of_walk hthere hset]
          exact h.kept other hother
        · rw [Fields.walk_setPath_of_apart hthrough hinto hset]
          exact h.kept other hother
  only := fun read found hread hfound => by
    by_cases hthrough : path <+: read
    · exact ⟨path, List.mem_cons_self, by rw [hvalue]; rfl, .inl hthrough⟩
    · by_cases hinto : read <+: path
      · obtain ⟨rest, rfl⟩ := hinto
        cases rest with
        | nil => exact absurd ((List.append_nil read).symm ▸ List.prefix_rfl) hthrough
        | cons segment rest =>
          obtain ⟨child, hchild⟩ := Fields.walk_setPath_leading hread hset
          obtain rfl := Option.some.inj (hchild.symm.trans hfound)
          exact ⟨_, List.mem_cons_self, by rw [hvalue]; rfl, .inr ⟨List.prefix_append _ _, rfl⟩⟩
      · rw [Fields.walk_setPath_of_apart hthrough hinto hset] at hfound
        obtain ⟨other, hother, hshown⟩ := h.only read found hread hfound
        exact ⟨other, List.mem_cons_of_mem _ hother, hshown⟩

end Shows

/-! ## Paths that are copied -/

/-- The paths with a flag that counts as true, in order, without `_id`. -/
def flagged (spec : Fields) : List String :=
  (spec.filter fun entry => entry.1 != "_id" && truthy entry.2).map Prod.fst

/-- Copies what stands at a path of a document. -/
def copyPath (doc out : Fields) (path : String) : Except Error Fields :=
  match (Json.obj doc).at? path with
  | none => .ok out
  | some value => setAt path value out

theorem selectPaths_eq (doc spec out : Fields) :
    selectPaths doc spec out = (flagged spec).foldlM (copyPath doc) out := by
  induction spec generalizing out with
  | nil => rfl
  | cons entry rest ih =>
    obtain ⟨path, flag⟩ := entry
    have hcondition : (decide (path = "_id") || !truthy flag) =
        !(path != "_id" && truthy flag) := by
      rw [Bool.not_and, bne, Bool.not_not, beq_eq_decide]
    rw [selectPaths, flagged, List.filter_cons, hcondition]
    cases hkeep : path != "_id" && truthy flag with
    | false =>
      rw [Bool.not_false, if_pos rfl, if_neg Bool.false_ne_true, ih]
      rfl
    | true =>
      rw [Bool.not_true, if_neg Bool.false_ne_true, if_pos rfl, List.map_cons, List.foldlM_cons,
        copyPath]
      cases (Json.obj doc).at? path with
      | none => exact ih out
      | some value =>
        simp only
        cases setAt path value out with
        | error e => rfl
        | ok made => exact ih made

theorem mem_flagged_iff {spec : Fields} {path : String} :
    path ∈ flagged spec ↔
      path ≠ "_id" ∧ ∃ flag, (path, flag) ∈ spec ∧ truthy flag = true := by
  rw [flagged, List.mem_map]
  constructor
  · rintro ⟨entry, hentry, rfl⟩
    obtain ⟨hmem, hkept⟩ := List.mem_filter.mp hentry
    rw [Bool.and_eq_true, bne_iff_ne] at hkept
    exact ⟨hkept.1, entry.2, hmem, hkept.2⟩
  · rintro ⟨hother, flag, hmem, hflag⟩
    refine ⟨(path, flag), List.mem_filter.mpr ⟨hmem, ?_⟩, rfl⟩
    rw [Bool.and_eq_true, bne_iff_ne]
    exact ⟨hother, hflag⟩

/-- The paths that a projection selects, in the order in which they are copied. -/
def selected (spec : Fields) : List String :=
  if ((Fields.get? "_id" spec).map truthy).getD true then "_id" :: flagged spec else flagged spec

theorem mem_selected_iff {spec : Fields} {path : String} :
    path ∈ selected spec ↔ Selects spec path := by
  have hid : ((Fields.get? "_id" spec).map truthy).getD true = true ↔
      ∀ flag, Fields.get? "_id" spec = some flag → truthy flag = true := by
    cases Fields.get? "_id" spec <;> simp
  rw [selected]
  constructor
  · intro h
    split at h
    · rename_i hkept
      rcases List.mem_cons.mp h with rfl | hmem
      · exact .id (hid.mp hkept)
      · obtain ⟨hother, flag, hentry, hflag⟩ := mem_flagged_iff.mp hmem
        exact .path hother hentry hflag
    · obtain ⟨hother, flag, hentry, hflag⟩ := mem_flagged_iff.mp h
      exact .path hother hentry hflag
  · intro h
    cases h with
    | id kept =>
      rw [if_pos (hid.mpr kept)]
      exact List.mem_cons_self
    | path other entry hflag =>
      have hmem := mem_flagged_iff.mpr ⟨other, _, entry, hflag⟩
      split
      · exact List.mem_cons_of_mem _ hmem
      · exact hmem

theorem copyPath_id (doc : Fields) :
    copyPath doc [] "_id" = .ok ((Fields.get? "_id" doc).elim [] fun id => [("_id", id)]) := by
  have hplain : '.' ∉ "_id".toList := by decide
  rw [copyPath, Json.at?_of_not_mem hplain]
  cases Fields.get? "_id" doc with
  | none => rfl
  | some id =>
    simp only [setAt, Json.segments_of_not_mem hplain]
    rfl

/-- A projection with a true flag copies the selected paths into an empty document. -/
theorem projectFields_eq {spec doc : Fields} (hflag : ∃ entry ∈ spec, truthy entry.2 = true) :
    projectFields spec doc = (selected spec).foldlM (copyPath doc) [] := by
  have hany : spec.any (fun entry => truthy entry.2) = true := List.any_eq_true.mpr hflag
  have hempty : ¬spec.isEmpty = true := by
    obtain ⟨entry, hentry, -⟩ := hflag
    rw [List.isEmpty_iff]
    rintro rfl
    cases hentry
  rw [projectFields, if_neg hempty, if_pos hany, selected]
  by_cases hkept : ((Fields.get? "_id" spec).map truthy).getD true = true
  · simp only [if_pos hkept, List.foldlM_cons, copyPath_id, selectPaths_eq]
    rfl
  · simp only [if_neg hkept, selectPaths_eq]
    rfl

/-! ## What is shown -/

section Selecting

variable {spec doc out out' : Fields}

theorem Shows.copyPath {paths : List (List String)} (hout : Shows doc paths out) {path : String}
    (h : copyPath doc out path = .ok out') : Shows doc (segments path :: paths) out' := by
  have hpath := Json.segments_ne_nil path
  rw [Document.copyPath, Json.at?] at h
  cases hvalue : (Json.obj doc).walk (segments path) with
  | none =>
    rw [hvalue] at h
    exact Except.ok.inj h ▸ hout.skip hpath hvalue
  | some value =>
    rw [hvalue] at h
    exact hout.write hpath hvalue (setAt_eq_ok_iff.mp h)

/-- Paths that are copied one after the other are shown, beside those that were. -/
theorem Shows.copyPaths {paths : List (List String)} (hout : Shows doc paths out)
    {copied : List String} (h : copied.foldlM (Document.copyPath doc) out = .ok out') :
    Shows doc ((copied.map segments).reverse ++ paths) out' := by
  induction copied generalizing paths out with
  | nil => exact Except.ok.inj h ▸ hout
  | cons path rest ih =>
    rw [List.foldlM_cons] at h
    obtain ⟨between, hfirst, hrest⟩ := exists_of_bind_eq_ok h
    have hshows := ih (hout.copyPath hfirst) hrest
    rw [List.map_cons, List.reverse_cons, List.append_assoc]
    exact hshows

theorem shows_of_projectFields (hflag : ∃ entry ∈ spec, truthy entry.2 = true)
    (h : projectFields spec doc = .ok out) :
    Shows doc ((selected spec).map segments).reverse out := by
  rw [projectFields_eq hflag] at h
  have hshows := (Shows.nil doc).copyPaths h
  rwa [List.append_nil] at hshows

/-- A projection with a true flag shows what stands at the paths that it selects, and nothing
else: a path at which something stands in the answer leads to a selected one or is reached through
one, and in the latter case, which includes the selected paths, the value is that of the
document. -/
theorem project_shows_selected {shown : Json} (hflag : ∃ entry ∈ spec, truthy entry.2 = true)
    (h : project (.obj spec) (.obj doc) = .ok shown) :
    (∀ path, Selects spec path → shown.at? path = (Json.obj doc).at? path) ∧
      ∀ read value, shown.at? read = some value →
        (∃ path, Selects spec path ∧
          (segments path <+: segments read ∨ segments read <+: segments path)) ∧
        ∀ path, Selects spec path → segments path <+: segments read →
          (Json.obj doc).at? read = some value := by
  obtain ⟨out, hout, rfl⟩ := exists_of_map_eq_ok h
  have hshows := shows_of_projectFields hflag hout
  have hmem {path : String} (hpath : Selects spec path) :
      segments path ∈ ((selected spec).map segments).reverse :=
    List.mem_reverse.mpr (List.mem_map_of_mem (mem_selected_iff.mpr hpath))
  refine ⟨fun path hpath => hshows.kept _ (hmem hpath), fun read value hvalue => ⟨?_, ?_⟩⟩
  · obtain ⟨leading, hleading, -, hleads⟩ :=
      hshows.only _ value (Json.segments_ne_nil read) hvalue
    obtain ⟨path, hpath, rfl⟩ := List.mem_map.mp (List.mem_reverse.mp hleading)
    exact ⟨path, mem_selected_iff.mp hpath, hleads.imp_right And.left⟩
  · intro path hpath hlead
    rw [Json.at?, ← hshows.walk_behind (hmem hpath) hlead]
    exact hvalue

/-- A path through an array becomes one through an object, a path and one that leads to it are both
shown, and so is a missing one. -/
theorem project_shows_selected_overlapping :
    let address : Json := .obj [("city", .str "Oslo"), ("zip", .str "0150")]
    let doc : Fields := [("_id", .str "u1"), ("tags", .arr [.str "a", .str "b"]),
      ("address", address), ("secret", .str "s")]
    let spec : Fields := [("address.city", .bool true), ("tags.1", .bool true),
      ("address", .bool true), ("born.year", .bool true), ("_id", .bool false)]
    let shown : Json := .obj [("address", address), ("tags", .obj [("1", .str "b")])]
    (∃ entry ∈ spec, truthy entry.2 = true) ∧ project (.obj spec) (.obj doc) = .ok shown ∧
      (∀ path, Selects spec path → shown.at? path = (Json.obj doc).at? path) ∧
      ∀ read value, shown.at? read = some value →
        ∃ path, Selects spec path ∧
          (segments path <+: segments read ∨ segments read <+: segments path) := by
  intro address doc spec shown
  have hflag : ∃ entry ∈ spec, truthy entry.2 = true := ⟨_, List.mem_cons_self, rfl⟩
  have hshown : project (.obj spec) (.obj doc) = .ok shown := rfl
  obtain ⟨hkept, honly⟩ := project_shows_selected hflag hshown
  exact ⟨hflag, hshown, hkept, fun read value hvalue => (honly read value hvalue).1⟩

/-! ## What cannot be shown -/

/-- A path leads on through an array that stands at an earlier path or below it. -/
def LeadsOn (doc : Fields) (earlier path : List String) : Prop :=
  ∃ leading segment rest items, path = leading ++ segment :: rest ∧ earlier <+: leading ∧
    (Json.obj doc).walk leading = some (.arr items) ∧ ((Json.obj doc).walk path).isSome

theorem Shows.blocked_iff {paths : List (List String)} (hout : Shows doc paths out)
    {path : List String} (hsome : ((Json.obj doc).walk path).isSome) :
    Fields.Blocked out path ↔ ∃ earlier ∈ paths, LeadsOn doc earlier path := by
  constructor
  · rintro ⟨leading, segment, rest, old, rfl, hleading, hold, hplain⟩
    obtain ⟨earlier, hearlier, -, hlead | ⟨-, hobj⟩⟩ := hout.only leading old hleading hold
    · rw [hout.walk_behind hearlier hlead] at hold
      refine ⟨earlier, hearlier, leading, segment, rest, ?_⟩
      rw [Json.walk_append, hold, Option.bind_some] at hsome
      cases old with
      | obj fields => cases hplain
      | arr items =>
        exact ⟨items, rfl, hlead, hold, by rwa [Json.walk_append, hold, Option.bind_some]⟩
      | _ => cases hsome
    · rw [hplain] at hobj
      cases hobj
  · rintro ⟨earlier, hearlier, leading, segment, rest, items, rfl, hlead, hitems, -⟩
    refine ⟨leading, segment, rest, .arr items, rfl, ?_, ?_, rfl⟩
    · rintro rfl
      cases hitems
    · rw [hout.walk_behind hearlier hlead, hitems]

theorem Shows.copyPath_fails_iff {paths : List (List String)} (hout : Shows doc paths out)
    (path : String) : (∃ e, Document.copyPath doc out path = .error e) ↔
      ∃ earlier ∈ paths, LeadsOn doc earlier (segments path) := by
  rw [Document.copyPath, Json.at?]
  cases hvalue : (Json.obj doc).walk (segments path) with
  | none =>
    refine iff_of_false (by simp) ?_
    rintro ⟨earlier, -, leading, segment, rest, items, -, -, -, hsome⟩
    rw [hvalue] at hsome
    cases hsome
  | some value =>
    rw [← hout.blocked_iff (by rw [hvalue]; rfl)]
    simp only [setAt]
    cases hset : Fields.setPath value (segments path) out with
    | ok made => exact iff_of_false (by simp [Except.mapError]) (Fields.not_blocked_of_setPath hset)
    | error name => exact ⟨fun _ => Fields.blocked_of_setPath hset, fun _ => ⟨_, rfl⟩⟩

/-- A projection with a true flag fails exactly if a selected path leads on through an array that
stands at a path selected before it, or below one. -/
theorem project_fails_iff (hflag : ∃ entry ∈ spec, truthy entry.2 = true) :
    (∃ e, project (.obj spec) (.obj doc) = .error e) ↔
      ∃ before path after, selected spec = before ++ path :: after ∧
        ∃ earlier ∈ before, LeadsOn doc (segments earlier) (segments path) := by
  have hfails : (∃ e, project (.obj spec) (.obj doc) = .error e) ↔
      ∃ e, (selected spec).foldlM (copyPath doc) [] = .error e := by
    rw [project, projectDocument, projectFields_eq hflag]
    cases (selected spec).foldlM (copyPath doc) [] <;> simp [Except.map]
  rw [hfails]
  constructor
  · rintro ⟨e, h⟩
    obtain ⟨before, path, after, between, hselected, hbefore, hpath⟩ := foldlM_eq_error_iff.mp h
    have hshows := (Shows.nil doc).copyPaths hbefore
    obtain ⟨leading, hleading, hleads⟩ := (hshows.copyPath_fails_iff path).mp ⟨e, hpath⟩
    rw [List.append_nil, List.mem_reverse] at hleading
    obtain ⟨earlier, hearlier, rfl⟩ := List.mem_map.mp hleading
    exact ⟨before, path, after, hselected, earlier, hearlier, hleads⟩
  · rintro ⟨before, path, after, hselected, earlier, hearlier, hleads⟩
    cases hbefore : before.foldlM (copyPath doc) [] with
    | error e =>
      refine ⟨e, ?_⟩
      rw [hselected, List.foldlM_append, hbefore]
      rfl
    | ok between =>
      have hshows := (Shows.nil doc).copyPaths hbefore
      obtain ⟨e, hpath⟩ := (hshows.copyPath_fails_iff path).mpr
        ⟨_, List.mem_append_left _ (List.mem_reverse.mpr (List.mem_map_of_mem hearlier)), hleads⟩
      exact ⟨e, foldlM_eq_error_iff.mpr
        ⟨before, path, after, between, hselected, hbefore, hpath⟩⟩

end Selecting

/-! ## What is hidden -/

section Hiding

variable {doc : Fields}

/-- Erasures one after the other. -/
def erasePaths (doc : Fields) (paths : List (List String)) : Fields :=
  paths.foldl (fun out path => Fields.erasePath path out) doc

theorem walk_erasePaths_of_apart (hdoc : (Json.obj doc).namesDiffer) {paths : List (List String)}
    {read : List String} (hapart : ∀ path ∈ paths, ¬path <+: read ∧ ¬read <+: path) :
    (Json.obj (erasePaths doc paths)).walk read = (Json.obj doc).walk read := by
  induction paths generalizing doc with
  | nil => rfl
  | cons path rest ih =>
    obtain ⟨hfirst, hrest⟩ := List.forall_mem_cons.mp hapart
    exact (ih (Fields.namesDiffer_erasePath path hdoc) hrest).trans
      (Fields.walk_erasePath_of_apart hfirst.1 hfirst.2 hdoc)

/-- Nothing stands at a path after erasures if nothing stood there before, or if one of the erased
paths leads to it or through it, and does not go through an array. -/
theorem walk_erasePaths_eq_none_iff (hdoc : (Json.obj doc).namesDiffer) {paths : List (List String)}
    (hpaths : ∀ path ∈ paths, path ≠ []) {read : List String} :
    (Json.obj (erasePaths doc paths)).walk read = none ↔ (Json.obj doc).walk read = none ∨
      ∃ path ∈ paths, path <+: read ∧ (Json.obj doc).throughArray path = false := by
  induction paths generalizing doc with
  | nil => simp [erasePaths]
  | cons path rest ih =>
    obtain ⟨hfirst, hrest⟩ := List.forall_mem_cons.mp hpaths
    have hothers := ih (Fields.namesDiffer_erasePath path hdoc) hrest
    rw [Fields.walk_erasePath_eq_none_iff hfirst hdoc] at hothers
    rw [List.exists_mem_cons_iff, ← or_assoc]
    refine hothers.trans ?_
    by_cases herased : path <+: read ∧ (Json.obj doc).throughArray path = false
    · simp [herased]
    · have hsame {other : List String} (hother : other <+: read) :
          (Json.obj (Fields.erasePath path doc)).throughArray other =
            (Json.obj doc).throughArray other := by
        cases hthrough : (Json.obj doc).throughArray path with
        | true => rw [Fields.erasePath_of_throughArray hthrough]
        | false =>
          exact Fields.throughArray_erasePath
            (fun hleads => herased ⟨hleads.trans hother, hthrough⟩) hdoc
      refine or_congr_right (exists_congr fun other => and_congr_right fun _ => ?_)
      exact and_congr_right fun hother => by rw [hsame hother]

theorem projectFields_hiding {spec : Fields} (hspec : spec ≠ [])
    (hflags : ∀ entry ∈ spec, truthy entry.2 = false) (doc : Fields) :
    projectFields spec doc = .ok (erasePaths doc (spec.map fun entry => segments entry.1)) := by
  have hany : ¬spec.any (fun entry => truthy entry.2) = true := by
    rw [List.any_eq_true]
    rintro ⟨entry, hentry, hflag⟩
    rw [hflags entry hentry] at hflag
    cases hflag
  rw [projectFields, if_neg (by rwa [List.isEmpty_iff]), if_neg hany, erasePaths, List.foldl_map]

/-- A projection without a true flag succeeds.  What stands in the answer at a path that is apart
from all listed ones is what stands there in the document.  A listed path, and what it leads to,
is hidden unless it goes through an array: nothing stands at a path exactly if nothing stood there
in the document, or if a listed path leads to it or through it and does not go through an array. -/
theorem project_hides_listed {spec : Fields} (hspec : spec ≠ [])
    (hflags : ∀ entry ∈ spec, truthy entry.2 = false) (hdoc : (Json.obj doc).namesDiffer) :
    ∃ shown, project (.obj spec) (.obj doc) = .ok shown ∧
      (∀ read, shown.at? read = none ↔ (Json.obj doc).at? read = none ∨
        ∃ entry ∈ spec, segments entry.1 <+: segments read ∧
          (Json.obj doc).throughArray (segments entry.1) = false) ∧
      ∀ read, (∀ entry ∈ spec, Apart entry.1 read) → shown.at? read = (Json.obj doc).at? read := by
  refine ⟨.obj (erasePaths doc (spec.map fun entry => segments entry.1)), ?_, fun read => ?_,
    fun read hapart => ?_⟩
  · rw [project, projectDocument, projectFields_hiding hspec hflags]
    rfl
  · have hpaths : ∀ path ∈ spec.map fun entry => segments entry.1, path ≠ [] := by
      rw [List.forall_mem_map]
      exact fun entry _ => Json.segments_ne_nil entry.1
    rw [Json.at?, Json.at?, walk_erasePaths_eq_none_iff hdoc hpaths]
    simp only [List.mem_map, exists_exists_and_eq_and]
  · refine walk_erasePaths_of_apart hdoc ?_
    rw [List.forall_mem_map]
    exact hapart

/-- A listed path through an array hides nothing. -/
theorem project_hides_listed_outside_arrays :
    let users : Json := .arr [.obj [("name", .str "Ada"), ("secret", .str "s")]]
    let doc : Fields := [("token", .str "t"), ("users", users), ("n", .nat 1)]
    let spec : Fields := [("users.0.secret", .bool false), ("token", .null)]
    let shown : Json := .obj [("n", .nat 1), ("users", users)]
    spec ≠ [] ∧ (∀ entry ∈ spec, truthy entry.2 = false) ∧ (Json.obj doc).namesDiffer ∧
      project (.obj spec) (.obj doc) = .ok shown ∧ shown.at? "token" = none ∧
      shown.at? "users.0.secret" ≠ none ∧
      shown.at? "users.0.name" = (Json.obj doc).at? "users.0.name" := by
  intro users doc spec shown
  have hspec : spec ≠ [] := List.cons_ne_nil _ _
  have hflags : ∀ entry ∈ spec, truthy entry.2 = false :=
    List.forall_mem_cons.mpr ⟨rfl, List.forall_mem_singleton.mpr rfl⟩
  have hdoc : (Json.obj doc).namesDiffer := by decide
  have hshown : project (.obj spec) (.obj doc) = .ok shown := rfl
  obtain ⟨made, hmade, hnone, hapart⟩ := project_hides_listed hspec hflags hdoc
  obtain rfl := Except.ok.inj (hmade.symm.trans hshown)
  refine ⟨hspec, hflags, hdoc, hshown, (hnone _).mpr (.inr ?_), fun hhidden => ?_, hapart _ ?_⟩
  · exact ⟨_, List.mem_cons_of_mem _ List.mem_cons_self, List.prefix_rfl, by decide⟩
  · rcases (hnone _).mp hhidden with hmissing | hlisted
    · cases hmissing
    · revert hlisted
      decide
  · decide

end Hiding

end QueryGateway.Document
