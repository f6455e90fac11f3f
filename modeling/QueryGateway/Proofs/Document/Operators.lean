import QueryGateway.Document.Order
import QueryGateway.Proofs.Document.Filling
import QueryGateway.Proofs.Expression.Reader

/-!
Where the operators of a command come from.

A key of a command stands in the template at the same position, or it is the `$date` of an
instant, or it is brought in by the value of a string that is one expression as a whole
(`keyAt_fill_iff`).  So the template alone decides about the operators of a command exactly
if no such value holds an operator (`operators_from_template_iff`).
-/

namespace QueryGateway

namespace Json

/-- Whether an object at a position has a field of that name. -/
def KeyAt (value : Json) (segments : List String) (key : String) : Prop :=
  ∃ fields, value.walk segments = some (.obj fields) ∧ (Fields.get? key fields).isSome

theorem not_keyAt_of_walk_eq_str {value : Json} {leading rest : List String} {s key : String}
    (h : value.walk leading = some (.str s)) : ¬value.KeyAt (leading ++ rest) key := by
  rintro ⟨fields, hwalk, -⟩
  rw [walk_append, h, Option.bind_some] at hwalk
  cases rest with
  | nil => cases hwalk
  | cons _ _ => cases hwalk

theorem not_keyAt_str {s key : String} (segments : List String) :
    ¬(Json.str s).KeyAt segments key :=
  not_keyAt_of_walk_eq_str (walk_nil (.str s))

theorem not_keyAt_null {key : String} (segments : List String) :
    ¬Json.null.KeyAt segments key := by
  rintro ⟨fields, hwalk, -⟩
  cases segments with
  | nil => cases hwalk
  | cons _ _ => cases hwalk

theorem keyAt_obj_nil {fields : Fields} {key : String} :
    (Json.obj fields).KeyAt [] key ↔ (Fields.get? key fields).isSome := by
  constructor
  · rintro ⟨others, hwalk, hkey⟩
    rw [walk_nil] at hwalk
    cases hwalk
    exact hkey
  · exact fun hkey => ⟨fields, rfl, hkey⟩

theorem keyAt_obj_cons {fields : Fields} {segment key : String} {rest : List String} :
    (Json.obj fields).KeyAt (segment :: rest) key ↔
      ∃ v, Fields.get? segment fields = some v ∧ v.KeyAt rest key := by
  constructor
  · rintro ⟨others, hwalk, hkey⟩
    rw [walk_obj] at hwalk
    obtain ⟨v, hv, hrest⟩ := Option.bind_eq_some_iff.mp hwalk
    exact ⟨v, hv, others, hrest, hkey⟩
  · rintro ⟨v, hv, others, hrest, hkey⟩
    refine ⟨others, ?_, hkey⟩
    rw [walk_obj, hv, Option.bind_some]
    exact hrest

/-- A string in a new field brings no other keys. -/
theorem keyAt_set_str {fields : Fields} {name key : String} (s : String)
    (hname : Fields.get? name fields = none) (hkey : key ≠ name) (segments : List String) :
    (Json.obj (Fields.set name (.str s) fields)).KeyAt segments key ↔
      (Json.obj fields).KeyAt segments key := by
  cases segments with
  | nil => rw [keyAt_obj_nil, keyAt_obj_nil, Fields.get?_set_of_ne hkey]
  | cons segment rest =>
    rw [keyAt_obj_cons, keyAt_obj_cons]
    by_cases hs : segment = name
    · rw [hs, Fields.get?_set_self, hname]
      constructor
      · rintro ⟨v, hv, hrest⟩
        rw [← Option.some.inj hv] at hrest
        exact absurd hrest (not_keyAt_str rest)
      · rintro ⟨v, hv, -⟩
        cases hv
    · rw [Fields.get?_set_of_ne hs]

end Json

namespace Document

open Json (Fields)

variable {d : Delimiters} {ctx : Context}

/-! ## Keys of a filled value -/

/-- Whether a key comes with the value of a string that is one expression as a whole. -/
def Brings (d : Delimiters) (ctx : Context) (value : Json) (segments : List String)
    (key : String) : Prop :=
  ∃ leading rest s v, segments = leading ++ rest ∧ value.walk leading = some (.str s) ∧
    LeafGives d ctx s (.json v) ∧ v.KeyAt rest key

/-- Whether a key is the `$date` of an instant that a string gives. -/
def Dates (d : Delimiters) (ctx : Context) (value : Json) (segments : List String)
    (key : String) : Prop :=
  key = "$date" ∧ ∃ s t, value.walk segments = some (.str s) ∧ LeafGives d ctx s (.instant t)

theorem keyAt_instant_iff {t : Instant} {segments : List String} {key : String} :
    (Value.instant t).toDocument.KeyAt segments key ↔ segments = [] ∧ key = "$date" := by
  show (Json.obj [("$date", .str t.text)]).KeyAt segments key ↔ _
  cases segments with
  | nil =>
    rw [Json.keyAt_obj_nil, Fields.get?_cons, Fields.get?_nil]
    by_cases hkey : key = "$date"
    · simp [hkey]
    · simp [hkey]
  | cons segment rest =>
    rw [Json.keyAt_obj_cons]
    refine ⟨fun h => ?_, fun h => absurd h.1 (List.cons_ne_nil _ _)⟩
    obtain ⟨v, hv, hrest⟩ := h
    rw [Fields.get?_cons, Fields.get?_nil] at hv
    by_cases hs : segment = "$date"
    · rw [if_pos hs, Option.some.injEq] at hv
      rw [← hv] at hrest
      exact absurd hrest (Json.not_keyAt_str rest)
    · rw [if_neg hs] at hv
      cases hv

theorem keyAt_fillLeaf_iff {s : String} {supply supply' : Supply} {out : Json}
    (h : fillLeaf d ctx s supply = .ok (out, supply')) (segments : List String)
    (key : String) : out.KeyAt segments key ↔
      (segments = [] ∧ key = "$date" ∧ ∃ t, LeafGives d ctx s (.instant t)) ∨
        ∃ v, LeafGives d ctx s (.json v) ∧ v.KeyAt segments key := by
  rcases fillLeaf_cases h with ⟨value, hgives, rfl⟩ | ⟨hnone, text, rfl⟩
  · constructor
    · intro hkey
      cases value with
      | undefined => exact absurd hkey (Json.not_keyAt_null segments)
      | json v => exact .inr ⟨v, hgives, hkey⟩
      | instant t =>
        obtain ⟨hs, hk⟩ := keyAt_instant_iff.mp hkey
        exact .inl ⟨hs, hk, t, hgives⟩
    · rintro (⟨hs, hk, t, ht⟩ | ⟨v, hv, hkey⟩)
      · cases hgives.alike ht with
        | same => exact keyAt_instant_iff.mpr ⟨hs, hk⟩
        | instants => exact keyAt_instant_iff.mpr ⟨hs, hk⟩
      · cases hgives.alike hv with
        | same => exact hkey
        | strings => exact absurd hkey (Json.not_keyAt_str segments)
  · constructor
    · exact fun hkey => absurd hkey (Json.not_keyAt_str segments)
    · rintro (⟨-, -, t, ht⟩ | ⟨v, hv, -⟩)
      · exact absurd ht (hnone _)
      · exact absurd hv (hnone _)

/-- The fields of a filled value are those that were there, or come with a string. -/
theorem isSome_get?_fill {value : Json} {fields : Fields} {supply supply' : Supply}
    (h : fill d ctx value supply = .ok (.obj fields, supply')) (key : String) :
    (∃ others, value = .obj others ∧
        (Fields.get? key fields).isSome = (Fields.get? key others).isSome) ∨
      ∃ s, value = .str s ∧ fillLeaf d ctx s supply = .ok (.obj fields, supply') := by
  cases value with
  | str s =>
    rw [fill] at h
    exact .inr ⟨s, rfl, h⟩
  | obj others =>
    obtain ⟨outs, hfields, hout⟩ := fill_obj_eq_ok h
    rw [Json.obj.inj hout]
    exact .inl ⟨others, rfl, isSome_get?_fillFields hfields key⟩
  | arr items =>
    obtain ⟨outs, -, hout⟩ := fill_arr_eq_ok h
    cases hout
  | _ =>
    rw [fill] at h
    cases (Prod.mk.inj (Except.ok.inj h)).1

/-- The keys of a filled value: those that were there, dates of instants, and those that
come with values. -/
theorem keyAt_fill_iff {value out : Json} {supply supply' : Supply}
    (h : fill d ctx value supply = .ok (out, supply')) {segments : List String} {key : String} :
    out.KeyAt segments key ↔
      value.KeyAt segments key ∨ Dates d ctx value segments key ∨
        Brings d ctx value segments key := by
  constructor
  · rintro ⟨fields, hwalk, hkey⟩
    cases filledAt_fill h segments with
    | missing before after =>
      rw [after] at hwalk
      cases hwalk
    | part before after filled =>
      rw [after, Option.some.injEq] at hwalk
      rw [hwalk] at filled
      rcases isSome_get?_fill filled key with ⟨others, rfl, hothers⟩ | ⟨s, rfl, hleaf⟩
      · exact .inl ⟨others, before, hothers ▸ hkey⟩
      · rcases (keyAt_fillLeaf_iff hleaf [] key).mp (Json.keyAt_obj_nil.mpr hkey) with
          ⟨-, hdate, t, ht⟩ | ⟨v, hv, hin⟩
        · exact .inr (.inl ⟨hdate, s, t, before, ht⟩)
        · exact .inr (.inr ⟨segments, [], s, v, (List.append_nil _).symm, before, hv, hin⟩)
    | inside leading rest split below before filled after =>
      rw [after] at hwalk
      rcases (keyAt_fillLeaf_iff filled rest key).mp ⟨fields, hwalk, hkey⟩ with
        ⟨hrest, -, -⟩ | ⟨v, hv, hin⟩
      · exact absurd hrest below
      · exact .inr (.inr ⟨leading, rest, _, v, split, before, hv, hin⟩)
  · rintro (⟨fields, hwalk, hkey⟩ | ⟨hdate, s, t, hwalk, ht⟩ |
      ⟨leading, rest, s, v, rfl, hwalk, hv, hin⟩)
    · obtain ⟨o, _, _, hout, hfill⟩ := walk_fill h hwalk
      obtain ⟨outs, hfields, rfl⟩ := fill_obj_eq_ok hfill
      exact ⟨outs, hout, (isSome_get?_fillFields hfields key).trans hkey⟩
    · obtain ⟨o, _, _, hout, hfill⟩ := walk_fill h hwalk
      rw [fill] at hfill
      obtain ⟨fields, ho, hkey⟩ :=
        (keyAt_fillLeaf_iff hfill [] key).mpr (.inl ⟨rfl, hdate, t, ht⟩)
      rw [Json.walk_nil] at ho
      exact ⟨fields, hout.trans ho, hkey⟩
    · obtain ⟨o, _, _, hout, hfill⟩ := walk_fill h hwalk
      rw [fill] at hfill
      obtain ⟨fields, ho, hkey⟩ := (keyAt_fillLeaf_iff hfill rest key).mpr (.inr ⟨v, hv, hin⟩)
      refine ⟨fields, ?_, hkey⟩
      rw [Json.walk_append, hout, Option.bind_some]
      exact ho

/-! ## Sections and arguments -/

/-- What a query writes in a section; a section that is left out is null. -/
def Section.writtenIn (part : Section) (query : Json) : Json :=
  (query.field? part.name).getD .null

theorem Section.named?_name (part : Section) : Section.named? part.name = some part := by
  cases part <;> rfl

theorem fillSections_writtenIn {query filled : Fields} {supply supply' : Supply}
    (h : fillSections d ctx query supply = .ok (filled, supply')) (part : Section) :
    ∃ supply₁ supply₂,
      fill d ctx (part.writtenIn (.obj query)) supply₁ =
        .ok (part.writtenIn (.obj filled), supply₂) := by
  induction query generalizing filled supply supply' with
  | nil =>
    rw [fillSections] at h
    obtain ⟨rfl, -⟩ := Prod.mk.inj (Except.ok.inj h)
    exact ⟨supply, supply, rfl⟩
  | cons field rest ih =>
    obtain ⟨name, value⟩ := field
    obtain ⟨out, next, others, rfl, hvalue, hrest⟩ := fillSections_cons_eq_ok_iff.mp h
    rw [Section.writtenIn, Section.writtenIn, Json.field?, Json.field?]
    by_cases hname : part.name = name
    · rw [← hname, Section.named?_name] at hvalue
      rw [← hname, Fields.get?_cons_self, Fields.get?_cons_self]
      exact ⟨supply, next, hvalue⟩
    · rw [Fields.get?_cons_of_ne hname, Fields.get?_cons_of_ne hname]
      exact ih hrest

theorem withReturnDocument_cases {operation : Operation} {fields : Fields} {arg : Json}
    (h : (if operation = .findOneAndUpdate ∧ ¬Fields.has "returnDocument" fields then
      .obj (Fields.set "returnDocument" (.str "after") fields) else .obj fields) = arg) :
    arg = .obj fields ∨ Fields.get? "returnDocument" fields = none ∧
      arg = .obj (Fields.set "returnDocument" (.str "after") fields) := by
  by_cases hset : operation = .findOneAndUpdate ∧ ¬Fields.has "returnDocument" fields
  · rw [if_pos hset] at h
    refine .inr ⟨Fields.get?_eq_none_iff.mpr fun hmem => hset.2 ?_, h.symm⟩
    obtain ⟨field, hfield, hname⟩ := List.mem_map.mp hmem
    exact List.any_eq_true.mpr ⟨field, hfield, beq_iff_eq.mpr hname⟩
  · rw [if_neg hset] at h
    exact .inl h.symm

/-- An argument is the value of its section, but for an empty object in the place of null
and a default in the options. -/
theorem argument_cases {operation : Operation} {part : Section} {value arg : Json}
    (h : argument operation part value = .ok arg) :
    arg = value ∨ ∃ fields, (value = .obj fields ∨ value = .null ∧ fields = []) ∧
      (arg = .obj fields ∨ Fields.get? "returnDocument" fields = none ∧
        arg = .obj (Fields.set "returnDocument" (.str "after") fields)) := by
  cases part with
  | filter =>
    cases value with
    | null => exact .inr ⟨[], .inr ⟨rfl, rfl⟩, .inl (Except.ok.inj h).symm⟩
    | obj fields => exact .inl (Except.ok.inj h).symm
    | _ => cases h
  | options =>
    cases value with
    | null => exact .inr ⟨[], .inr ⟨rfl, rfl⟩, withReturnDocument_cases (Except.ok.inj h)⟩
    | obj fields => exact .inr ⟨fields, .inl rfl, withReturnDocument_cases (Except.ok.inj h)⟩
    | _ => cases h
  | update =>
    cases value with
    | obj fields => exact .inl (Except.ok.inj h).symm
    | _ => cases h
  | document =>
    cases value with
    | obj fields => exact .inl (Except.ok.inj h).symm
    | _ => cases h
  | documents =>
    cases value with
    | arr items => exact .inl (Except.ok.inj h).symm
    | _ => cases h
  | pipeline =>
    cases value with
    | arr items => exact .inl (Except.ok.inj h).symm
    | _ => cases h

theorem keyAt_argument_iff {operation : Operation} {part : Section} {value arg : Json}
    (h : argument operation part value = .ok arg) {key : String} (hkey : isOperatorKey key)
    (segments : List String) : arg.KeyAt segments key ↔ value.KeyAt segments key := by
  have hreturn : key ≠ "returnDocument" := fun hk => by
    rw [hk] at hkey
    exact absurd hkey (by decide)
  rcases argument_cases h with rfl | ⟨fields, hvalue, harg⟩
  · exact Iff.rfl
  · have hfields : (Json.obj fields).KeyAt segments key ↔ value.KeyAt segments key := by
      rcases hvalue with rfl | ⟨rfl, rfl⟩
      · exact Iff.rfl
      · refine iff_of_false ?_ (Json.not_keyAt_null segments)
        cases segments with
        | nil => exact fun hk => by simp [Json.keyAt_obj_nil] at hk
        | cons _ _ => exact fun hk => by simp [Json.keyAt_obj_cons] at hk
    rcases harg with rfl | ⟨hmissing, rfl⟩
    · exact hfields
    · exact (Json.keyAt_set_str "after" hmissing hreturn segments).trans hfields

namespace Command

theorem args_ofQuery {query : Fields} {command : Command} (h : ofQuery query = .ok command) :
    List.Forall₂ (fun part arg =>
        argument command.operation part (part.writtenIn (.obj query)) = .ok arg)
      command.operation.arguments command.args := by
  rw [ofQuery.eq_def] at h
  split at h
  · cases hoperation : operationOf query with
    | error e =>
      rw [hoperation] at h
      cases h
    | ok operation =>
      rw [hoperation] at h
      cases hargs : operation.arguments.mapM fun part =>
          argument operation part ((Fields.get? part.name query).getD .null) with
      | error e =>
        simp only [bind, Except.bind, hargs] at h
        cases h
      | ok args =>
        simp only [bind, Except.bind, hargs] at h
        obtain rfl := Except.ok.inj h
        exact mapM_eq_ok_iff.mp hargs
  · cases h

/-- The arguments of a command are the sections of its operation, filled. -/
theorem args_ofTemplate {template : Json} {supply supply' : Supply} {command : Command}
    (h : ofTemplate d ctx template supply = .ok (command, supply')) :
    ∃ query filled supply'', template = .obj query ∧
      fillSections d ctx query supply = .ok (filled, supply'') ∧
      List.Forall₂ (fun part arg =>
          argument command.operation part (part.writtenIn (.obj filled)) = .ok arg)
        command.operation.arguments command.args := by
  cases template with
  | obj query =>
    rw [ofTemplate] at h
    cases hfilled : fillSections d ctx query supply with
    | error e => simp [hfilled] at h
    | ok p =>
      simp only [hfilled] at h
      cases hquery : ofQuery p.1 with
      | error e => simp [hquery, Except.map] at h
      | ok made =>
        rw [hquery] at h
        obtain ⟨rfl, -⟩ := Prod.mk.inj (Except.ok.inj h)
        exact ⟨query, p.1, p.2, rfl, hfilled, args_ofQuery hquery⟩
  | _ => cases h

/-- An operator stands in an argument if the template has it there, if it is the `$date` of
an instant, or if it comes with the value of a string. -/
theorem operator_keyAt_iff {template : Json} {supply supply' : Supply} {command : Command}
    (h : ofTemplate d ctx template supply = .ok (command, supply')) {i : Nat} {part : Section}
    {arg : Json} (hpart : command.operation.arguments[i]? = some part)
    (harg : command.args[i]? = some arg) {key : String} (hkey : isOperatorKey key)
    {segments : List String} :
    arg.KeyAt segments key ↔
      (part.writtenIn template).KeyAt segments key ∨
        Dates d ctx (part.writtenIn template) segments key ∨
        Brings d ctx (part.writtenIn template) segments key := by
  obtain ⟨query, filled, _, rfl, hfilled, hargs⟩ := args_ofTemplate h
  obtain ⟨hi, rfl⟩ := List.getElem?_eq_some_iff.mp hpart
  obtain ⟨hi', rfl⟩ := List.getElem?_eq_some_iff.mp harg
  obtain ⟨_, _, hfill⟩ := fillSections_writtenIn hfilled command.operation.arguments[i]
  exact (keyAt_argument_iff (hargs.get hi hi') hkey segments).trans (keyAt_fill_iff hfill)

theorem not_dates_of_leafGives {value : Json} {leading rest : List String} {s key : String}
    {v : Json} (hwalk : value.walk leading = some (.str s)) (hv : LeafGives d ctx s (.json v)) :
    ¬Dates d ctx value (leading ++ rest) key := by
  rintro ⟨-, s', t, hdate, ht⟩
  rw [Json.walk_append, hwalk, Option.bind_some] at hdate
  cases rest with
  | nil =>
    cases hdate
    cases hv.alike ht
  | cons _ _ => cases hdate

/-- The operators of an argument are those that the template writes at their positions, and
dates of instants, exactly if no string in its section is an expression whose value holds an
operator. -/
theorem operators_from_template_iff {template : Json} {supply supply' : Supply}
    {command : Command} (h : ofTemplate d ctx template supply = .ok (command, supply'))
    {i : Nat} {part : Section} {arg : Json}
    (hpart : command.operation.arguments[i]? = some part) (harg : command.args[i]? = some arg) :
    (∀ segments key, isOperatorKey key → arg.KeyAt segments key →
        (part.writtenIn template).KeyAt segments key ∨
          Dates d ctx (part.writtenIn template) segments key) ↔
      ∀ segments s v, (part.writtenIn template).walk segments = some (.str s) →
        LeafGives d ctx s (.json v) → ∀ rest key, isOperatorKey key → ¬v.KeyAt rest key := by
  constructor
  · intro hwritten leading s v hwalk hv rest key hkey hin
    have hat := (operator_keyAt_iff h hpart harg hkey).mpr
      (.inr (.inr ⟨leading, rest, s, v, rfl, hwalk, hv, hin⟩))
    rcases hwritten _ key hkey hat with hkeyAt | hdates
    · exact Json.not_keyAt_of_walk_eq_str hwalk hkeyAt
    · exact not_dates_of_leafGives hwalk hv hdates
  · intro hnone segments key hkey hat
    rcases (operator_keyAt_iff h hpart harg hkey).mp hat with
      hkeyAt | hdates | ⟨leading, rest, s, v, rfl, hwalk, hv, hin⟩
    · exact .inl hkeyAt
    · exact .inr hdates
    · exact absurd hin (hnone leading s v hwalk hv rest key hkey)

/-- A body that holds an operator brings it into the filter. -/
theorem operators_from_body :
    let template : Json := .obj [("collection", .str "users"), ("operation", .str "findOne"),
      ("filter", .obj [("password", .str "$\x7b\x7b body.password \x7d\x7d")])]
    let ctx : Context := { body := .obj [("password", .obj [("$ne", .null)])] }
    let supply : Supply := ⟨fun _ => ⟨0⟩, fun _ => "a", 0⟩
    let arg : Json := .obj [("password", .obj [("$ne", .null)])]
    let fromTemplate : Prop := ∀ segments key, isOperatorKey key → arg.KeyAt segments key →
      (Section.filter.writtenIn template).KeyAt segments key ∨
        Dates .standard ctx (Section.filter.writtenIn template) segments key
    validate template = .ok () ∧
      ofTemplate .standard ctx template supply =
        .ok (⟨"users", .findOne, [arg, .obj []]⟩, supply) ∧
      ¬fromTemplate ∧
      (fromTemplate ↔
        ∀ segments s v, (Section.filter.writtenIn template).walk segments = some (.str s) →
          LeafGives .standard ctx s (.json v) →
            ∀ rest key, isOperatorKey key → ¬v.KeyAt rest key) := by
  intro template ctx supply arg fromTemplate
  have hsegments : Segments.of .standard "$\x7b\x7b body.password \x7d\x7d".toList =
      ⟨[⟨[], " body.password ".toList⟩], []⟩ := by decide +kernel
  have hread : Expr.read " body.password ".toList = .ok (.ref .body ["password"]) := by
    rw [Expr.read_eq]
    rfl
  have hleaf : fillLeaf .standard ctx "$\x7b\x7b body.password \x7d\x7d" supply =
      .ok (.obj [("$ne", .null)], supply) := by
    simp only [fillLeaf, hsegments, List.mapM_cons, List.mapM_nil, hread]
    rfl
  have hfilter : fill .standard ctx
      (.obj [("password", .str "$\x7b\x7b body.password \x7d\x7d")]) supply =
      .ok (arg, supply) := by
    rw [fill, fillFields, fill, hleaf]
    rfl
  have hmade : ofTemplate .standard ctx template supply =
      .ok (⟨"users", .findOne, [arg, .obj []]⟩, supply) := by
    have hcollection : Section.named? "collection" = none := rfl
    have hoperation : Section.named? "operation" = none := rfl
    have hsection : Section.named? "filter" = some .filter := rfl
    simp only [ofTemplate, template, fillSections, hcollection, hoperation, hsection,
      Option.isSome_none, Option.isSome_some, Bool.false_eq_true, if_false, if_true, hfilter]
    rfl
  refine ⟨rfl, hmade, fun hwritten => ?_, operators_from_template_iff hmade (i := 0) rfl rfl⟩
  rcases hwritten ["password"] "$ne" (by decide) ⟨[("$ne", .null)], rfl, rfl⟩ with
    ⟨fields, hwalk, -⟩ | ⟨hdate, -⟩
  · cases hwalk
  · exact absurd hdate (by decide)

end Command

end Document
end QueryGateway
