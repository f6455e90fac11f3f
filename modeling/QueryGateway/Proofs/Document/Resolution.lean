import QueryGateway.Proofs.Document.Validation
import QueryGateway.Proofs.Expression.Splicing

/-!
What filling makes of a template.

A filled value has the shape of its template (`Resolves`): lists and objects keep their items and
names in order, and only strings change.  A string that is one expression as a whole becomes the
value of it.  In any other string the texts of the values stand in the place of the references,
and nothing is read again.  Whether a template can be filled is settled by the template alone
(`fill_iff_readable`).
-/

namespace QueryGateway.Document

open Json (Fields)

variable {d : Delimiters} {ctx : Context} {supply supply' : Supply}

/-! ## Strings -/

/-- What a string becomes.  A reference is evaluated from where the one before it leaves the
supply. -/
inductive LeafResolves (d : Delimiters) (ctx : Context) (supply : Supply) (s : String) :
    Json → Supply → Prop
  | plain (none : d.references s = []) : LeafResolves d ctx supply s (.str s) supply
  | whole {r : Reference} {value : Value} {supply' : Supply} (one : d.references s = [r])
    (spans : r.spans s) (gives : r.Gives ctx supply value supply') :
    LeafResolves d ctx supply s value.toDocument supply'
  | spliced {values : List Value} {text : String} {supply' : Supply}
    (found : d.references s ≠ []) (parted : ∀ r, d.references s = [r] → ¬r.spans s)
    (give : Threaded (Reference.Gives ctx) supply (d.references s) values supply')
    (bytes : text.toByteArray =
      Reference.splice s.toByteArray 0 ((d.references s).zip (values.map Value.text))) :
    LeafResolves d ctx supply s (.str text) supply'

/-- The text of a string with the texts of values in it. -/
def splicedText (d : Delimiters) (s : String) (values : List Value) : String :=
  String.ofList ((Segments.of d s.toList).fillWith (fun value => value.text.toList) values)

theorem eq_splicedText_iff {s text : String} {values : List Value}
    (hlength : values.length = (d.references s).length) :
    text = splicedText d s values ↔ text.toByteArray =
      Reference.splice s.toByteArray 0 ((d.references s).zip (values.map Value.text)) := by
  rw [d.splice_references s (by rwa [List.length_map]), Segments.fillWith_map,
    ← String.toByteArray_inj, splicedText, String.toByteArray_ofList]

theorem fillLeaf_eq_ok_iff {s : String} {out : Json} :
    fillLeaf d ctx s supply = .ok (out, supply') ↔
      ∃ values, Threaded (Reference.Gives ctx) supply (d.references s) values supply' ∧
        ((∃ r value, d.references s = [r] ∧ r.spans s ∧ values = [value] ∧
            out = value.toDocument) ∨
          (∀ r, d.references s = [r] → ¬r.spans s) ∧ out = .str (splicedText d s values)) := by
  have hwhole := Segments.whole?_isSome_iff d s
  simp only [fillLeaf, d.mapM_read_holes s]
  cases hread : (d.references s).mapM fun r => Expr.read r.inner.toList with
  | error e =>
    refine iff_of_false (fun h => by cases h) ?_
    rintro ⟨values, hgives, -⟩
    obtain ⟨es, hes⟩ := exists_read_of_gives hgives
    rw [hread] at hes
    cases hes
  | ok es =>
    have heval := @Expr.evalAll_eq_iff ctx _ _ (mapM_eq_ok_iff.mp hread) supply
    simp only [Except.map, ← heval]
    cases hvalues : Expr.evalAll ctx es supply with
    | mk values next =>
    have hlength := (heval.mp hvalues).length_eq
    cases hfirst : (Segments.of d s.toList).whole? with
    | some hole =>
      obtain ⟨r, hone, hspans⟩ := hwhole.mp (Option.isSome_of_eq_some hfirst)
      -- There are as many values as references.
      rw [hone] at hlength
      obtain ⟨value, rfl⟩ := List.length_eq_one_iff.mp hlength
      constructor
      · intro h
        obtain ⟨rfl, rfl⟩ := Prod.mk.inj (Except.ok.inj h)
        exact ⟨[value], rfl, .inl ⟨r, value, hone, hspans, rfl, rfl⟩⟩
      · rintro ⟨_, hsame, ⟨_, _, -, -, rfl, rfl⟩ | ⟨hparted, -⟩⟩
        · obtain ⟨hvalue, rfl⟩ := Prod.mk.inj hsame
          rw [(List.cons.inj hvalue).1]
        · exact absurd hspans (hparted r hone)
    | none =>
      have hparted : ∀ r, d.references s = [r] → ¬r.spans s := by
        intro r hone hspans
        rw [hfirst] at hwhole
        cases hwhole.mpr ⟨r, hone, hspans⟩
      constructor
      · intro h
        obtain ⟨rfl, rfl⟩ := Prod.mk.inj (Except.ok.inj h)
        exact ⟨values, rfl, .inr ⟨hparted, rfl⟩⟩
      · rintro ⟨_, hsame, ⟨r, _, hone, hspans, -, -⟩ | ⟨-, rfl⟩⟩
        · exact absurd hspans (hparted r hone)
        · obtain ⟨rfl, rfl⟩ := Prod.mk.inj hsame
          rfl

theorem leafResolves_iff {s : String} {out : Json} :
    fillLeaf d ctx s supply = .ok (out, supply') ↔ LeafResolves d ctx supply s out supply' := by
  rw [fillLeaf_eq_ok_iff]
  constructor
  · rintro ⟨values, hgives, ⟨r, value, hone, hspans, rfl, rfl⟩ | ⟨hparted, rfl⟩⟩
    · rw [hone, Threaded.cons_iff] at hgives
      obtain ⟨_, _, _, hvalues, hgive, hrest⟩ := hgives
      obtain ⟨rfl, rfl⟩ := List.cons.inj hvalues
      obtain ⟨-, rfl⟩ := Threaded.nil_iff.mp hrest
      exact .whole hone hspans hgive
    · have hbytes := (eq_splicedText_iff hgives.length_eq).mp rfl
      by_cases hnone : d.references s = []
      · -- Nothing is spliced into a string without references.
        rw [hnone] at hgives hbytes
        obtain ⟨rfl, rfl⟩ := Threaded.nil_iff.mp hgives
        have hsame : splicedText d s [] = s :=
          String.toByteArray_inj.mp (hbytes.trans ByteArray.extract_zero_size)
        rw [hsame]
        exact .plain hnone
      · exact .spliced hnone hparted hgives hbytes
  · rintro (hnone | ⟨hone, hspans, hgives⟩ | ⟨hfound, hparted, hgives, hbytes⟩)
    · have hgives : Threaded (Reference.Gives ctx) supply (d.references s) [] supply :=
        hnone ▸ .nil supply
      refine ⟨[], hgives, .inr ⟨fun r hr => ?_, ?_⟩⟩
      · rw [hnone] at hr
        cases hr
      · refine congrArg Json.str ((eq_splicedText_iff hgives.length_eq).mpr ?_)
        rw [hnone]
        exact ByteArray.extract_zero_size.symm
    · refine ⟨[_], ?_, .inl ⟨_, _, hone, hspans, rfl, rfl⟩⟩
      rw [hone]
      exact .cons hgives (.nil _)
    · exact ⟨_, hgives, .inr ⟨hparted,
        congrArg Json.str ((eq_splicedText_iff hgives.length_eq).mpr hbytes)⟩⟩

/-! ## Values -/

/-- What a value becomes.  Its parts are resolved in order, each from where the one before it
leaves the supply. -/
inductive Resolves (d : Delimiters) (ctx : Context) : Supply → Json → Json → Supply → Prop
  | null (supply : Supply) : Resolves d ctx supply .null .null supply
  | bool (b : Bool) (supply : Supply) : Resolves d ctx supply (.bool b) (.bool b) supply
  | num (n : Number) (supply : Supply) : Resolves d ctx supply (.num n) (.num n) supply
  | str {s : String} {out : Json} {supply supply' : Supply}
    (leaf : LeafResolves d ctx supply s out supply') : Resolves d ctx supply (.str s) out supply'
  | arr {items outs : List Json} {supply supply' : Supply}
    (each : Threaded (Resolves d ctx) supply items outs supply') :
    Resolves d ctx supply (.arr items) (.arr outs) supply'
  | obj {fields outs : Fields} {supply supply' : Supply}
    (names : outs.map Prod.fst = fields.map Prod.fst)
    (each : Threaded (Resolves d ctx) supply (fields.map Prod.snd) (outs.map Prod.snd) supply') :
    Resolves d ctx supply (.obj fields) (.obj outs) supply'

theorem ok_eq_ok_iff {α : Type} {value out : α} :
    (Except.ok (value, supply) : Expr.Reading (α × Supply)) = .ok (out, supply') ↔
      out = value ∧ supply' = supply := by
  rw [Except.ok.injEq, Prod.mk.injEq, eq_comm, @eq_comm _ supply]

mutual

theorem fill_eq_ok_iff {supply supply' : Supply} {value out : Json} :
    fill d ctx value supply = .ok (out, supply') ↔ Resolves d ctx supply value out supply' := by
  match value with
  | .null =>
    rw [fill, ok_eq_ok_iff]
    constructor
    · rintro ⟨rfl, rfl⟩
      exact .null _
    · rintro ⟨⟩
      exact ⟨rfl, rfl⟩
  | .bool b =>
    rw [fill, ok_eq_ok_iff]
    constructor
    · rintro ⟨rfl, rfl⟩
      exact .bool b _
    · rintro ⟨⟩
      exact ⟨rfl, rfl⟩
  | .num n =>
    rw [fill, ok_eq_ok_iff]
    constructor
    · rintro ⟨rfl, rfl⟩
      exact .num n _
    · rintro ⟨⟩
      exact ⟨rfl, rfl⟩
  | .str s =>
    rw [fill, leafResolves_iff]
    exact ⟨.str, fun | .str hleaf => hleaf⟩
  | .arr items =>
    constructor
    · intro h
      obtain ⟨outs, hitems, rfl⟩ := fill_arr_eq_ok h
      exact .arr (fillItems_eq_ok_iff.mp hitems)
    · rintro ⟨⟩
      rename_i outs heach
      rw [fill, fillItems_eq_ok_iff.mpr heach]
      rfl
  | .obj fields =>
    constructor
    · intro h
      obtain ⟨outs, hfields, rfl⟩ := fill_obj_eq_ok h
      obtain ⟨hnames, heach⟩ := fillFields_eq_ok_iff.mp hfields
      exact .obj hnames heach
    · rintro ⟨⟩
      rename_i outs hnames heach
      rw [fill, fillFields_eq_ok_iff.mpr ⟨hnames, heach⟩]
      rfl

theorem fillItems_eq_ok_iff {supply supply' : Supply} {items outs : List Json} :
    fillItems d ctx items supply = .ok (outs, supply') ↔
      Threaded (Resolves d ctx) supply items outs supply' := by
  match items with
  | [] => rw [fillItems, ok_eq_ok_iff, Threaded.nil_iff]
  | item :: rest =>
    rw [fillItems_cons_eq_ok_iff, Threaded.cons_iff]
    refine exists_congr fun out => exists_congr fun next => exists_congr fun others => ?_
    rw [fill_eq_ok_iff, fillItems_eq_ok_iff]

theorem fillFields_eq_ok_iff {supply supply' : Supply} {fields outs : Fields} :
    fillFields d ctx fields supply = .ok (outs, supply') ↔
      outs.map Prod.fst = fields.map Prod.fst ∧
        Threaded (Resolves d ctx) supply (fields.map Prod.snd) (outs.map Prod.snd) supply' := by
  match fields with
  | [] => rw [fillFields, ok_eq_ok_iff, List.map_nil, List.map_nil, Threaded.nil_iff]; simp
  | (name, value) :: rest =>
    rw [fillFields_cons_eq_ok_iff, List.map_cons, List.map_cons, Threaded.cons_iff]
    constructor
    · rintro ⟨out, next, others, rfl, hvalue, hrest⟩
      obtain ⟨hnames, heach⟩ := fillFields_eq_ok_iff.mp hrest
      exact ⟨congrArg (name :: ·) hnames, out, next, _, rfl, fill_eq_ok_iff.mp hvalue, heach⟩
    · rintro ⟨hnames, out, next, others, hvalues, hvalue, heach⟩
      obtain ⟨field, fields, rfl⟩ : ∃ field fields, outs = field :: fields :=
        List.exists_cons_of_ne_nil fun hnil => by rw [hnil] at hnames; cases hnames
      obtain ⟨rfl, hrest⟩ := List.cons.inj hnames
      obtain ⟨rfl, rfl⟩ := List.cons.inj hvalues
      exact ⟨_, next, fields, rfl, fill_eq_ok_iff.mpr hvalue,
        fillFields_eq_ok_iff.mpr ⟨hrest, heach⟩⟩

end

/-! ## Success -/

mutual

theorem readable_of_fill {supply supply' : Supply} {value out : Json}
    (h : fill d ctx value supply = .ok (out, supply')) : Readable d value := by
  match value with
  | .null => exact nofun
  | .bool _ => exact nofun
  | .num _ => exact nofun
  | .str s =>
    rw [fill, fillLeaf_eq_ok_iff] at h
    obtain ⟨values, hgives, -⟩ := h
    obtain ⟨es, hes⟩ := exists_read_of_gives hgives
    refine List.forall_mem_singleton.mpr ⟨es, ?_⟩
    rw [Expr.readTemplate, d.mapM_read_holes, hes]
  | .arr items =>
    obtain ⟨outs, hitems, -⟩ := fill_arr_eq_ok h
    exact readable_of_fillItems hitems
  | .obj fields =>
    obtain ⟨outs, hfields, -⟩ := fill_obj_eq_ok h
    exact readable_of_fillFields hfields

theorem readable_of_fillItems {supply supply' : Supply} {items outs : List Json}
    (h : fillItems d ctx items supply = .ok (outs, supply')) : Readable d (.arr items) := by
  match items with
  | [] => exact nofun
  | item :: rest =>
    obtain ⟨out, next, others, -, hitem, hrest⟩ := fillItems_cons_eq_ok_iff.mp h
    exact List.forall_mem_append.mpr ⟨readable_of_fill hitem, readable_of_fillItems hrest⟩

theorem readable_of_fillFields {supply supply' : Supply} {fields outs : Fields}
    (h : fillFields d ctx fields supply = .ok (outs, supply')) : Readable d (.obj fields) := by
  match fields with
  | [] => exact nofun
  | (name, value) :: rest =>
    obtain ⟨out, next, others, -, hvalue, hrest⟩ := fillFields_cons_eq_ok_iff.mp h
    exact List.forall_mem_append.mpr ⟨readable_of_fill hvalue, readable_of_fillFields hrest⟩

end

theorem fill_iff_readable (ctx : Context) (value : Json) (supply : Supply) :
    (∃ out supply', fill d ctx value supply = .ok (out, supply')) ↔ Readable d value := by
  constructor
  · rintro ⟨out, supply', h⟩
    exact readable_of_fill h
  · intro h
    obtain ⟨filled, hfilled⟩ := fill_total ctx h supply
    exact ⟨filled.1, filled.2, hfilled⟩

/-! ## Commands -/

/-- What a field of a query becomes.  Only sections are resolved. -/
def FieldResolves (d : Delimiters) (ctx : Context) (supply : Supply) (field out : String × Json)
    (supply' : Supply) : Prop :=
  out.1 = field.1 ∧
    if (Section.named? field.1).isSome then Resolves d ctx supply field.2 out.2 supply'
    else out.2 = field.2 ∧ supply' = supply

theorem fillSections_eq_ok_iff {query filled : Fields} :
    fillSections d ctx query supply = .ok (filled, supply') ↔
      Threaded (FieldResolves d ctx) supply query filled supply' := by
  induction query generalizing filled supply with
  | nil => rw [fillSections, ok_eq_ok_iff, Threaded.nil_iff]
  | cons field rest ih =>
    have hfield (out : Json) (next : Supply) :
        (if (Section.named? field.1).isSome then fill d ctx field.2 supply
          else .ok (field.2, supply)) = .ok (out, next) ↔
        FieldResolves d ctx supply field (field.1, out) next := by
      rw [FieldResolves, and_iff_right rfl]
      split
      · exact fill_eq_ok_iff
      · exact ok_eq_ok_iff
    simp only [fillSections_cons_eq_ok_iff, Threaded.cons_iff, hfield, ih]
    constructor
    · rintro ⟨out, next, others, rfl, hfirst, hothers⟩
      exact ⟨(field.1, out), next, others, rfl, hfirst, hothers⟩
    · rintro ⟨⟨name, out⟩, next, others, rfl, hfirst, hothers⟩
      obtain rfl : name = field.1 := hfirst.1
      exact ⟨out, next, others, rfl, hfirst, hothers⟩

/-- Whether a query asks for an operation: by its name, or for an aggregation by a pipeline. -/
inductive Asks (query : Fields) : Operation → Prop
  | named {operation : Operation} (nameable : operation ∈ Operation.nameable)
    (name : Fields.get? "operation" query = some (.str operation.name))
    (plain : Fields.get? "pipeline" query = none) : Asks query operation
  | pipeline (unnamed : Fields.get? "operation" query = none)
    (stages : (Fields.get? "pipeline" query).isSome) : Asks query .aggregate

theorem asks_iff {query : Fields} {operation : Operation} :
    operationOf query = .ok operation ↔ Asks query operation := by
  have hnamed {name : String} :
      Operation.named? name = some operation ↔
        operation ∈ Operation.nameable ∧ operation.name = name := by
    constructor
    · intro h
      have hfind : Operation.nameable.find? (·.name == name) = some operation := h
      have hname := List.find?_some hfind
      exact ⟨List.mem_of_find?_eq_some hfind, beq_iff_eq.mp hname⟩
    · rintro ⟨hmem, rfl⟩
      revert operation
      decide
  rw [operationOf]
  constructor
  · intro h
    split at h
    · cases h
    · cases h
    · rename_i hnone hstages
      obtain rfl := Except.ok.inj h
      exact .pipeline hnone (Option.isSome_of_eq_some hstages)
    · rename_i name hname hplain
      split at h
      · rename_i found hfound
        obtain rfl := Except.ok.inj h
        obtain ⟨hmem, rfl⟩ := hnamed.mp hfound
        exact .named hmem hname hplain
      · cases h
    · cases h
  · rintro (⟨hmem, hname, hplain⟩ | ⟨hnone, hstages⟩)
    · rw [hname, hplain]
      simp only [hnamed.mpr ⟨hmem, rfl⟩]
    · obtain ⟨stages, hstages⟩ := Option.isSome_iff_exists.mp hstages
      rw [hnone, hstages]

/-- The options that a value gives; null gives none. -/
inductive OptionsOf : Json → Fields → Prop
  | null : OptionsOf .null []
  | obj (fields : Fields) : OptionsOf (.obj fields) fields

/-- The argument that an operation makes of a section. -/
inductive Argues (operation : Operation) : Section → Json → Json → Prop
  | unfiltered : Argues operation .filter .null (.obj [])
  | object {part : Section} {fields : Fields} (holds : part ∈ [.filter, .update, .document]) :
    Argues operation part (.obj fields) (.obj fields)
  | list {part : Section} {items : List Json} (holds : part ∈ [.documents, .pipeline]) :
    Argues operation part (.arr items) (.arr items)
  | options {value : Json} {fields : Fields} (given : OptionsOf value fields)
    (settled : operation = .findOneAndUpdate → Fields.has "returnDocument" fields) :
    Argues operation .options value (.obj fields)
  | answering {value : Json} {fields : Fields} (given : OptionsOf value fields)
    (updates : operation = .findOneAndUpdate) (unsettled : ¬Fields.has "returnDocument" fields) :
    Argues operation .options value (.obj (fields ++ [("returnDocument", .str "after")]))

theorem argument_options (operation : Operation) {value : Json} {fields : Fields}
    (h : OptionsOf value fields) : argument operation .options value =
      .ok (if operation = .findOneAndUpdate ∧ ¬Fields.has "returnDocument" fields then
        .obj (fields ++ [("returnDocument", .str "after")]) else .obj fields) := by
  have hset : (if operation = .findOneAndUpdate ∧ ¬Fields.has "returnDocument" fields then
        Json.obj (Fields.set "returnDocument" (.str "after") fields) else .obj fields) =
      if operation = .findOneAndUpdate ∧ ¬Fields.has "returnDocument" fields then
        .obj (fields ++ [("returnDocument", .str "after")]) else .obj fields := by
    split
    · rename_i hanswers
      have hmissing : "returnDocument" ∉ Fields.names fields := by
        rw [← Fields.get?_eq_none_iff, ← Option.not_isSome_iff_eq_none, ← Fields.has_eq_isSome]
        exact hanswers.2
      rw [Fields.set_of_not_mem hmissing]
    · rfl
  rw [← hset]
  cases h <;> rfl

theorem argument_eq_ok_iff {operation : Operation} {part : Section} {value arg : Json} :
    argument operation part value = .ok arg ↔ Argues operation part value arg := by
  constructor
  · intro h
    by_cases hoptions : part = .options
    · subst hoptions
      have hgiven : ∃ fields, OptionsOf value fields := by
        cases value with
        | null => exact ⟨[], .null⟩
        | obj fields => exact ⟨fields, .obj fields⟩
        | _ => cases h
      obtain ⟨fields, hfields⟩ := hgiven
      rw [argument_options operation hfields] at h
      obtain rfl := Except.ok.inj h
      split
      · rename_i hanswers
        exact .answering hfields hanswers.1 hanswers.2
      · rename_i hsettled
        exact .options hfields fun hupdates => by_contra fun hmissing =>
          hsettled ⟨hupdates, hmissing⟩
    · cases part <;> cases value <;>
        first
          | exact absurd rfl hoptions
          | cases h; exact .unfiltered
          | cases h; exact .object (by decide)
          | cases h; exact .list (by decide)
          | cases h
  · rintro (_ | hholds | hholds | ⟨hgiven, hsettled⟩ | ⟨hgiven, hupdates, hunsettled⟩)
    · rfl
    · simp only [List.mem_cons, List.not_mem_nil, or_false] at hholds
      rcases hholds with rfl | rfl | rfl <;> rfl
    · simp only [List.mem_cons, List.not_mem_nil, or_false] at hholds
      rcases hholds with rfl | rfl <;> rfl
    · rw [argument_options operation hgiven, if_neg fun h => h.2 (hsettled h.1)]
    · rw [argument_options operation hgiven, if_pos ⟨hupdates, hunsettled⟩]

/-- The command that a template makes of a context: its own collection and operation, and the
arguments of the operation from its resolved sections, in order. -/
structure Makes (d : Delimiters) (ctx : Context) (supply : Supply) (query : Fields)
    (command : Command) (filled : Fields) (supply' : Supply) : Prop where
  resolved : Threaded (FieldResolves d ctx) supply query filled supply'
  collection : Fields.get? "collection" query = some (.str command.collection)
  operation : Asks query command.operation
  args : List.Forall₂ (fun part arg =>
      Argues command.operation part ((Fields.get? part.name filled).getD .null) arg)
    command.operation.arguments command.args

theorem ofQuery_eq_ok_iff {query : Fields} {command : Command} :
    Command.ofQuery query = .ok command ↔
      Fields.get? "collection" query = some (.str command.collection) ∧
        Asks query command.operation ∧
        List.Forall₂ (fun part arg =>
            Argues command.operation part ((Fields.get? part.name query).getD .null) arg)
          command.operation.arguments command.args := by
  rw [Command.ofQuery.eq_def]
  split
  · rename_i collection hcollection
    constructor
    · intro h
      obtain ⟨operation, hoperation, h⟩ := exists_of_bind_eq_ok h
      obtain ⟨args, hargs, h⟩ := exists_of_bind_eq_ok h
      obtain rfl := Except.ok.inj h
      exact ⟨hcollection, asks_iff.mp hoperation,
        (mapM_eq_ok_iff.mp hargs).imp fun _ _ => argument_eq_ok_iff.mp⟩
    · rintro ⟨hname, hasks, hargs⟩
      obtain rfl := Json.str.inj (Option.some.inj (hcollection.symm.trans hname))
      have hmade := mapM_eq_ok_iff.mpr (hargs.imp fun _ _ => argument_eq_ok_iff.mpr)
      simp only [asks_iff.mpr hasks, bind, Except.bind, hmade]
  · rename_i hother
    exact iff_of_false (fun h => by cases h) fun h => hother _ h.1

theorem makes_iff {query filled : Fields} {command : Command} :
    Makes d ctx supply query command filled supply' ↔
      fillSections d ctx query supply = .ok (filled, supply') ∧
        Command.ofQuery filled = .ok command := by
  rw [ofQuery_eq_ok_iff]
  constructor
  · rintro ⟨hresolved, hcollection, hasks, hargs⟩
    have hfilled := fillSections_eq_ok_iff.mpr hresolved
    rw [← asks_iff, ← operationOf_fillSections hfilled, asks_iff] at hasks
    exact ⟨hfilled, (collection_fillSections hfilled).trans hcollection, hasks, hargs⟩
  · rintro ⟨hfilled, hcollection, hasks, hargs⟩
    rw [← asks_iff, operationOf_fillSections hfilled, asks_iff] at hasks
    exact ⟨fillSections_eq_ok_iff.mp hfilled,
      (collection_fillSections hfilled).symm.trans hcollection, hasks, hargs⟩

theorem ofTemplate_eq_ok_iff {template : Json} {command : Command} :
    Command.ofTemplate d ctx template supply = .ok (command, supply') ↔
      ∃ query filled, template = .obj query ∧ Makes d ctx supply query command filled supply' := by
  simp only [makes_iff]
  cases template with
  | obj query =>
    rw [Command.ofTemplate]
    constructor
    · intro h
      cases hfilled : fillSections d ctx query supply with
      | error e =>
        rw [hfilled] at h
        cases h
      | ok filled =>
        rw [hfilled] at h
        obtain ⟨made, hmade, hcommand⟩ := exists_of_map_eq_ok h
        obtain ⟨rfl, rfl⟩ := Prod.mk.inj hcommand
        exact ⟨query, filled.1, rfl, hfilled, hmade⟩
    · rintro ⟨_, filled, hquery, hfilled, hmade⟩
      obtain rfl := Json.obj.inj hquery
      simp only [hfilled, hmade]
      rfl
  | _ =>
    refine iff_of_false (fun h => by cases h) ?_
    rintro ⟨_, _, h, -⟩
    cases h

/-- A template can be filled for all contexts or for none, and what it is filled with is what it
resolves to.  A command that is made of it keeps its collection and operation, and takes its
arguments from the resolved sections. -/
theorem template_resolves (d : Delimiters) (ctx : Context) (template : Json) (supply : Supply) :
    ((∃ out supply', fill d ctx template supply = .ok (out, supply')) ↔ Readable d template) ∧
      (∀ out supply', fill d ctx template supply = .ok (out, supply') ↔
        Resolves d ctx supply template out supply') ∧
      ∀ command supply', Command.ofTemplate d ctx template supply = .ok (command, supply') ↔
        ∃ query filled, template = .obj query ∧ Makes d ctx supply query command filled supply' :=
  ⟨fill_iff_readable ctx template supply, fun _ _ => fill_eq_ok_iff,
    fun _ _ => ofTemplate_eq_ok_iff⟩

/-- A value that looks like an expression is not read again, and neither are names. -/
theorem template_resolves_once :
    let ctx : Context := { body := .obj [("a", .str "$\x7b\x7bbody.b\x7d\x7d"), ("b", .nat 1)] }
    let template : Json := .obj [("$\x7b\x7bbody.b\x7d\x7d", .str "<$\x7b\x7bbody.a\x7d\x7d>"),
      ("n", .str "$\x7b\x7bbody.b\x7d\x7d")]
    let supply : Supply := ⟨fun _ => ⟨0⟩, fun _ => "a", 0⟩
    fill .standard ctx template supply = .ok (.obj [
      ("$\x7b\x7bbody.b\x7d\x7d", .str "<$\x7b\x7bbody.b\x7d\x7d>"), ("n", .nat 1)], supply) := by
  intro ctx template supply
  have hspliced : LeafResolves .standard ctx supply "<$\x7b\x7bbody.a\x7d\x7d>"
      (.str "<$\x7b\x7bbody.b\x7d\x7d>") supply := by
    have hone : Delimiters.standard.references "<$\x7b\x7bbody.a\x7d\x7d>" =
        [{ matched := "$\x7b\x7bbody.a\x7d\x7d", inner := "body.a", start := 1, stop := 12 }] := by
      decide +kernel
    have hgives : Threaded (Reference.Gives ctx) supply
        (Delimiters.standard.references "<$\x7b\x7bbody.a\x7d\x7d>")
        [.json (.str "$\x7b\x7bbody.b\x7d\x7d")] supply := by
      rw [hone]
      refine .cons ?_ (.nil _)
      rw [Reference.Gives, Expr.evalText_eq]
      rfl
    refine .spliced (hone ▸ List.cons_ne_nil _ _) (fun r hr => ?_) hgives ?_
    · rw [hone] at hr
      obtain ⟨rfl, -⟩ := List.cons.inj hr
      decide +kernel
    · rw [hone]
      decide +kernel
  have hwhole : LeafResolves .standard ctx supply "$\x7b\x7bbody.b\x7d\x7d" (.nat 1) supply := by
    have hone : Delimiters.standard.references "$\x7b\x7bbody.b\x7d\x7d" =
        [{ matched := "$\x7b\x7bbody.b\x7d\x7d", inner := "body.b", start := 0, stop := 11 }] := by
      decide +kernel
    have hgives : Expr.evalText ctx "body.b".toList supply = .ok (.json (.nat 1), supply) := by
      rw [Expr.evalText_eq]
      rfl
    exact .whole hone (by decide +kernel) hgives
  obtain ⟨-, hfill, -⟩ := template_resolves .standard ctx template supply
  exact (hfill _ _).mpr (.obj rfl (.cons (.str hspliced) (.cons (.str hwhole) (.nil _))))

end QueryGateway.Document
