import QueryGateway.Proofs.Document.Update
import QueryGateway.Proofs.Json.Reading

/-!
Writing into a document in place.

A write in place walks from object to object along the segments before the last one, and makes the
objects that are missing as it goes.  Where something else stands in the way it stops, in the middle
of the document.  An object that the walk has made is empty, and nothing in an empty object stops
it, so a walk that stops has made none (`Untouched`).  So what is left of a failed write is the
document as it was, and otherwise the walk writes what `setAt` does (`setAt_in_place`).
-/

namespace QueryGateway

namespace Json

/-! ## The last segment of a path -/

/-- The segments before the last one: what stands before the last dot, cut at its dots. -/
def parents (path : String) : List String :=
  (Text.breakAtLast? '.' path.toList).elim [] fun p => (Text.split '.' p.1).map String.ofList

/-- The last segment: what stands behind the last dot. -/
def leaf (path : String) : String :=
  (Text.breakAtLast? '.' path.toList).elim path fun p => String.ofList p.2

theorem segments_eq (path : String) : segments path = parents path ++ [leaf path] := by
  cases hcut : Text.breakAtLast? '.' path.toList with
  | none =>
    rw [parents, leaf, hcut, segments_of_not_mem (Text.breakAtLast?_eq_none_iff.mp hcut)]
    rfl
  | some p =>
    rw [parents, leaf, hcut, segments, Text.splitString, Text.split_of_breakAtLast? hcut,
      List.map_append]
    rfl

namespace Fields

/-! ## Where a write stops -/

variable {fields : Fields} {written leading : List String}

/-- The segments lead through objects only, to a value that is no object. -/
structure LeadsToPlain (fields : Fields) (leading : List String) : Prop where
  through : ∀ shorter, shorter <+: leading → shorter ≠ leading → ObjectAt fields shorter
  plain : ∃ old, (Json.obj fields).walk leading = some old ∧ old.fields? = none

theorem LeadsToPlain.below {segment : String} {child : Fields}
    (hchild : get? segment fields = some (.obj child)) (h : LeadsToPlain child leading) :
    LeadsToPlain fields (segment :: leading) where
  through shorter hshorter hne := by
    cases shorter with
    | nil => exact ⟨fields, walk_nil _⟩
    | cons name below =>
      obtain ⟨rfl, hbelow⟩ := List.cons_prefix_cons.mp hshorter
      obtain ⟨inner, hinner⟩ := h.through below hbelow fun heq => hne (heq ▸ rfl)
      exact ⟨inner, by rw [walk_obj, hchild, Option.bind_some, hinner]⟩
  plain := by
    obtain ⟨old, hold, hplain⟩ := h.plain
    exact ⟨old, by rw [walk_obj, hchild, Option.bind_some, hold], hplain⟩

theorem leadsToPlain_singleton {segment : String} {old : Json}
    (hold : get? segment fields = some old) (hplain : old.fields? = none) :
    LeadsToPlain fields [segment] where
  through shorter hshorter hne := by
    cases shorter with
    | nil => exact ⟨fields, walk_nil _⟩
    | cons name below =>
      exact absurd (hshorter.eq_of_length_le (Nat.succ_le_succ (Nat.zero_le _))) hne
  plain := ⟨old, by rw [walk_singleton, hold], hplain⟩

/-- A path passes at most one value that stops a write. -/
theorem LeadsToPlain.unique {other : List String} (h : LeadsToPlain fields leading)
    (h' : LeadsToPlain fields other) (hto : leading <+: written) (hto' : other <+: written) :
    leading = other := by
  obtain ⟨old, hold, hplain⟩ := h.plain
  obtain ⟨old', hold', hplain'⟩ := h'.plain
  by_contra hne
  rcases List.prefix_or_prefix_of_prefix hto hto' with hshorter | hshorter
  · exact not_objectAt_of_plain hold hplain (h'.through leading hshorter hne)
  · exact not_objectAt_of_plain hold' hplain' (h.through other hshorter (Ne.symm hne))

theorem leadsToPlain_of_setPath {value : Json} {name : String}
    (h : setPath value written fields = .error name) :
    ∃ leading, leading ++ [name] <+: written ∧ leading ++ [name] ≠ written ∧
      LeadsToPlain fields (leading ++ [name]) := by
  induction written generalizing fields with
  | nil => cases h
  | cons segment rest ih =>
    by_cases hrest : rest = []
    · rw [hrest] at h
      cases h
    · rcases setPath_fails_below hrest h with ⟨child, hchild, hfails⟩ | ⟨old, hold, hplain, rfl⟩
      · obtain ⟨leading, hto, hne, hplain⟩ := ih hfails
        refine ⟨segment :: leading, ?_, ?_, hplain.below hchild⟩
        · exact (List.prefix_cons_inj segment).mpr hto
        · exact fun heq => hne (List.cons.inj heq).2
      · refine ⟨[], (List.prefix_cons_inj name).mpr List.nil_prefix, ?_,
          leadsToPlain_singleton hold hplain⟩
        exact fun heq => hrest (List.cons.inj heq).2.symm

/-- A write fails exactly if objects lead to a value before the end of its path which is no object,
and the error is the segment that leads there. -/
theorem setPath_eq_error_iff {value : Json} {name : String} :
    setPath value written fields = .error name ↔
      ∃ leading, leading ++ [name] <+: written ∧ leading ++ [name] ≠ written ∧
        LeadsToPlain fields (leading ++ [name]) := by
  refine ⟨leadsToPlain_of_setPath, ?_⟩
  rintro ⟨leading, hto, hne, hplain⟩
  obtain ⟨old, hold, hold'⟩ := hplain.plain
  have hthrough : ¬written <+: leading ++ [name] := fun hback =>
    hne (hto.eq_of_length_le hback.length_le)
  cases hset : setPath value written fields with
  | ok out => exact absurd (blocked_of_walk hto hthrough hold hold') (not_blocked_of_setPath hset)
  | error name' =>
    obtain ⟨leading', hto', -, hplain'⟩ := leadsToPlain_of_setPath hset
    have heq := hplain.unique hplain' hto hto'
    rw [List.singleton_inj.mp (List.append_inj' heq rfl).2]

/-! ## Objects that are missing -/

/-- Sees to it that a field is there: a missing one is made, with an empty object. -/
def ensure (segment : String) (fields : Fields) : Fields :=
  if has segment fields then fields else set segment (.obj []) fields

theorem ensure_of_missing {segment : String} (h : get? segment fields = none) :
    ensure segment fields = set segment (.obj []) fields := by
  rw [ensure, has_eq_isSome, h]
  rfl

theorem ensure_of_get? {segment : String} {old : Json} (h : get? segment fields = some old) :
    ensure segment fields = fields := by
  rw [ensure, has_eq_isSome, h]
  rfl

end Fields

/-! ## The walk -/

open Fields

/-- How far a write has come in a document: the object that it has reached, and the objects around
that one, from the inside out, each with the name of the field by which it was left. -/
structure Cursor where
  target : Fields
  around : List (String × Fields)

namespace Cursor

/-- The whole document, with another object in place of the one that was reached. -/
def replaced (c : Cursor) (object : Fields) : Fields :=
  c.around.foldl (fun child frame => set frame.1 (.obj child) frame.2) object

/-- The whole document, as it stands. -/
def document (c : Cursor) : Fields := c.replaced c.target

/-- Sees to it that a field of the reached object is there. -/
def ensure (segment : String) (c : Cursor) : Cursor :=
  { c with target := c.target.ensure segment }

/-- Goes on into a field that holds an object. -/
def into? (segment : String) (c : Cursor) : Option Cursor :=
  ((get? segment c.target).bind fields?).map fun child =>
    { target := child, around := (segment, c.target) :: c.around }

/-- Goes on along segments, and makes the objects that are missing.  The walk stops at a segment that
leads to something else. -/
def descend : List String → Cursor → Cursor × Option String
  | [], c => (c, none)
  | segment :: rest, c =>
    ((c.ensure segment).into? segment).elim (c.ensure segment, some segment) (descend rest)

/-! ### One step -/

variable {c inner left : Cursor} {doc child out : Fields} {segment name : String} {old : Json}

theorem into?_of_missing (h : get? segment c.target = none) :
    (c.ensure segment).into? segment =
      some ⟨[], (segment, set segment (.obj []) c.target) :: c.around⟩ := by
  rw [ensure, into?, ensure_of_missing h, get?_set_self]
  rfl

theorem into?_of_object (h : get? segment c.target = some (.obj child)) :
    (c.ensure segment).into? segment = some ⟨child, (segment, c.target) :: c.around⟩ := by
  rw [ensure, into?, ensure_of_get? h, h]
  rfl

theorem into?_of_plain (h : get? segment c.target = some old) (hplain : old.fields? = none) :
    (c.ensure segment).into? segment = none := by
  rw [ensure, into?, ensure_of_get? h, h, Option.bind_some, hplain]
  rfl

theorem descend_of_into? (h : (c.ensure segment).into? segment = some inner) (rest : List String) :
    c.descend (segment :: rest) = inner.descend rest := by
  rw [descend, h]
  rfl

theorem descend_of_stopped (h : (c.ensure segment).into? segment = none) (rest : List String) :
    c.descend (segment :: rest) = (c.ensure segment, some segment) := by
  rw [descend, h]
  rfl

/-! ### What a walk that stops leaves -/

/-- Nothing of a document has changed yet, or the walk stands in an object that it has made. -/
def Untouched (doc : Fields) (c : Cursor) : Prop := c.document = doc ∨ c.target = []

theorem Untouched.document_eq (h : Untouched doc c) (hold : get? segment c.target = some old) :
    c.document = doc := by
  refine h.resolve_right fun hempty => ?_
  rw [hempty] at hold
  cases hold

theorem Untouched.step (h : Untouched doc c) (hinto : (c.ensure segment).into? segment = some inner) :
    Untouched doc inner := by
  cases hold : get? segment c.target with
  | none =>
    rw [into?_of_missing hold] at hinto
    exact .inr (Option.some.inj hinto ▸ rfl)
  | some old =>
    cases hobject : old.fields? with
    | none =>
      rw [into?_of_plain hold hobject] at hinto
      cases hinto
    | some child =>
      obtain rfl := fields?_eq_some_iff.mp hobject
      rw [into?_of_object hold] at hinto
      obtain rfl := Option.some.inj hinto
      -- Going on into a field that is there, the walk only looks.
      have hsame : c.replaced (set segment (.obj child) c.target) = c.document := by
        rw [set_of_get? hold, document]
      exact .inl (hsame.trans (h.document_eq hold))

theorem Untouched.stopped (h : Untouched doc c) (hinto : (c.ensure segment).into? segment = none) :
    (c.ensure segment).document = doc := by
  cases hold : get? segment c.target with
  | none =>
    rw [into?_of_missing hold] at hinto
    cases hinto
  | some old =>
    rw [ensure, ensure_of_get? hold]
    exact h.document_eq hold

/-- A walk that stops leaves the document as it was. -/
theorem Untouched.descend {path : List String} (h : Untouched doc c)
    (hstop : c.descend path = (left, some name)) : left.document = doc := by
  induction path generalizing c with
  | nil => cases (Prod.mk.inj hstop).2
  | cons segment rest ih =>
    cases hinto : (c.ensure segment).into? segment with
    | none =>
      rw [descend_of_stopped hinto] at hstop
      obtain ⟨rfl, -⟩ := Prod.mk.inj hstop
      exact h.stopped hinto
    | some inner =>
      rw [descend_of_into? hinto] at hstop
      exact ih (h.step hinto) hstop

/-! ### The walk and the write -/

theorem descend_of_error {value : Json} {path : List String} {leaf : String}
    (h : setPath value (path ++ [leaf]) c.target = .error name) :
    ∃ left, c.descend path = (left, some name) := by
  induction path generalizing c with
  | nil => cases h
  | cons segment rest ih =>
    have hrest : rest ++ [leaf] ≠ [] := List.concat_ne_nil leaf rest
    rcases setPath_fails_below hrest h with ⟨child, hchild, hfails⟩ | ⟨old, hold, hplain, rfl⟩
    · rw [descend_of_into? (into?_of_object hchild)]
      exact ih hfails
    · exact ⟨_, descend_of_stopped (into?_of_plain hold hplain) rest⟩

theorem descend_of_ok {value : Json} {path : List String} {leaf : String}
    (h : setPath value (path ++ [leaf]) c.target = .ok out) :
    ∃ reached, c.descend path = (reached, none) ∧
      reached.replaced (set leaf value reached.target) = c.replaced out := by
  induction path generalizing c out with
  | nil => exact ⟨c, rfl, congrArg c.replaced (Except.ok.inj h)⟩
  | cons segment rest ih =>
    have hrest : rest ++ [leaf] ≠ [] := List.concat_ne_nil leaf rest
    obtain ⟨child, child', hprior, hchild, rfl⟩ := setPath_below hrest h
    rcases hprior with ⟨hmissing, rfl⟩ | hobject
    · obtain ⟨reached, hwalk, hdoc⟩ := ih (c := ⟨[], _⟩) hchild
      refine ⟨reached, (descend_of_into? (into?_of_missing hmissing) rest).trans hwalk, ?_⟩
      -- The object that was made is put into its field twice, first empty and then written.
      rw [hdoc]
      exact congrArg c.replaced (set_set segment _ _ _)
    · obtain ⟨reached, hwalk, hdoc⟩ := ih (c := ⟨child, _⟩) hchild
      exact ⟨reached, (descend_of_into? (into?_of_object hobject) rest).trans hwalk, hdoc⟩

end Cursor
end Json

/-! ## Writing -/

namespace Document

open Json (Cursor)
open Json.Fields (LeadsToPlain)

/-- Writes at a path in place.  The document is the one that is left, after a failure too. -/
def writeInPlace (path : String) (value : Json) (doc : Json.Fields) :
    Json.Fields × Option Error :=
  let reached := Cursor.descend (Json.parents path) ⟨doc, []⟩
  reached.2.elim
    (reached.1.replaced (Json.Fields.set (Json.leaf path) value reached.1.target), none)
    fun segment => (reached.1.document, some (.blockedPath path segment))

variable {path : String} {value : Json} {doc out : Json.Fields} {e : Error}

theorem writeInPlace_of_error (h : setAt path value doc = .error e) :
    writeInPlace path value doc = (doc, some e) := by
  obtain ⟨segment, hset, rfl⟩ := setAt_eq_error_iff.mp h
  rw [Json.segments_eq] at hset
  obtain ⟨left, hwalk⟩ := Cursor.descend_of_error (c := ⟨doc, []⟩) hset
  have hleft : left.document = doc := Cursor.Untouched.descend (.inl rfl) hwalk
  rw [writeInPlace, hwalk]
  exact congrArg (·, _) hleft

theorem writeInPlace_of_ok (h : setAt path value doc = .ok out) :
    writeInPlace path value doc = (out, none) := by
  have hset := setAt_eq_ok_iff.mp h
  rw [Json.segments_eq] at hset
  obtain ⟨reached, hwalk, hdoc⟩ := Cursor.descend_of_ok (c := ⟨doc, []⟩) hset
  rw [writeInPlace, hwalk]
  exact congrArg (·, none) hdoc

/-- A write in place either fails and leaves the document as it was, or writes the value, which is
read back, and leaves what is read at every path that is apart.  It fails exactly if objects lead to
a value before the end of the path which is no object. -/
theorem setAt_in_place (path : String) (value : Json) (doc : Json.Fields) :
    (∀ e, setAt path value doc = .error e → writeInPlace path value doc = (doc, some e)) ∧
    (∀ out, setAt path value doc = .ok out →
      writeInPlace path value doc = (out, none) ∧ (Json.obj out).at? path = some value ∧
        ∀ other, Json.Apart path other →
          (Json.obj out).at? other = (Json.obj doc).at? other) ∧
    ∀ e, setAt path value doc = .error e ↔
      ∃ leading segment, leading ++ [segment] <+: Json.segments path ∧
        leading ++ [segment] ≠ Json.segments path ∧ LeadsToPlain doc (leading ++ [segment]) ∧
        e = .blockedPath path segment := by
  refine ⟨fun e h => writeInPlace_of_error h, fun out h => ?_, fun e => ?_⟩
  · have hset := setAt_eq_ok_iff.mp h
    have hread := Json.Fields.walk_setPath (Json.segments_ne_nil path) hset []
    rw [List.append_nil, Json.walk_nil] at hread
    exact ⟨writeInPlace_of_ok h, hread,
      fun other hapart => Json.Fields.walk_setPath_of_apart hapart.1 hapart.2 hset⟩
  · simp only [setAt_eq_error_iff, Json.Fields.setPath_eq_error_iff]
    constructor
    · rintro ⟨segment, ⟨leading, hto, hne, hplain⟩, he⟩
      exact ⟨leading, segment, hto, hne, hplain, he⟩
    · rintro ⟨leading, segment, hto, hne, hplain, he⟩
      exact ⟨segment, ⟨leading, hto, hne, hplain⟩, he⟩

/-- A number stands in the way of the first path.  On the second an object is made. -/
theorem setAt_in_place_nested :
    let doc : Json.Fields := [("a", .obj [("b", .int 1)]), ("c", .arr [.null])]
    let e : Error := .blockedPath "a.b.x.y" "b"
    setAt "a.b.x.y" .null doc = .error e ∧ writeInPlace "a.b.x.y" .null doc = (doc, some e) ∧
      ∃ out, setAt "a.x.y" (.bool true) doc = .ok out ∧
        writeInPlace "a.x.y" (.bool true) doc = (out, none) ∧
        (Json.obj out).at? "a.x.y" = some (.bool true) ∧ Json.Apart "a.x.y" "c.0" ∧
        (Json.obj out).at? "c.0" = (Json.obj doc).at? "c.0" := by
  intro doc e
  have hstopped : setAt "a.b.x.y" .null doc = .error e := rfl
  have hwritten : setAt "a.x.y" (.bool true) doc =
      .ok [("a", .obj [("b", .int 1), ("x", .obj [("y", .bool true)])]), ("c", .arr [.null])] := rfl
  have hapart : Json.Apart "a.x.y" "c.0" := by decide
  obtain ⟨hplace, hread, hothers⟩ := (setAt_in_place "a.x.y" (.bool true) doc).2.1 _ hwritten
  exact ⟨hstopped, (setAt_in_place "a.b.x.y" .null doc).1 e hstopped, _, hwritten, hplace, hread,
    hapart, hothers "c.0" hapart⟩

end Document
end QueryGateway
