import Mathlib.Data.List.Basic
import QueryGateway.Expression.Evaluation
import QueryGateway.Proofs.Dictionary
import QueryGateway.Proofs.Text.Form
import QueryGateway.Request.Query

/-!
Lists in query strings.

What a parameter is depends on the values of its own occurrences alone, and on whether it is
declared as a list (`get?_parameters`).  A list can be sent as one value with commas or as several
occurrences: the first is cut when the parameter is read, the second is gathered when the query
string is.  A declared list is cut and gathered at once, and loses its empty items.
-/

namespace QueryGateway

namespace QueryValue

/-- A parameter after one more occurrence, or after its first. -/
def heard (found : Option QueryValue) (value : String) : QueryValue :=
  match found with
  | some before => before.push value
  | none => .single value

/-- The parameter that some occurrences make. -/
def ofOccurrences : List String → Option QueryValue
  | [] => none
  | [value] => some (.single value)
  | first :: second :: rest => some (.multi (first :: second :: rest))

theorem foldl_heard_multi (before values : List String) :
    values.foldl (fun found value => some (heard found value)) (some (.multi before)) =
      some (.multi (before ++ values)) := by
  induction values generalizing before with
  | nil => rw [List.append_nil, List.foldl_nil]
  | cons value rest ih =>
    rw [List.foldl_cons, heard, push, ih, List.append_assoc, List.singleton_append]

theorem foldl_heard (values : List String) :
    values.foldl (fun found value => some (heard found value)) none = ofOccurrences values := by
  match values with
  | [] => rfl
  | [value] => rfl
  | first :: second :: rest => exact foldl_heard_multi [first, second] rest

end QueryValue

namespace Request

open QueryValue (heard ofOccurrences)

variable {key name query : String} {arrayParams : List String}

/-! ## Gathering -/

/-- The values of a parameter in a query string, in order. -/
def occurrences (key query : String) : List String :=
  ((Text.formPairs query.toList).filter fun p => p.1 == key).map Prod.snd

theorem occurrences_query (key : String) (e : Text.FormEncoding) (pairs : List (String × String)) :
    occurrences key (e.query pairs) = (pairs.filter fun p => p.1 == key).map Prod.snd := by
  rw [occurrences, e.formPairs_query]

theorem addParameter_eq (params : Dictionary QueryValue) (name value : String) :
    addParameter params name value = params.insert name (heard (params.get? name) value) := by
  rw [addParameter]
  cases params.get? name <;> rfl

theorem get?_foldl_addParameter (pairs : List (String × String)) (params : Dictionary QueryValue)
    (key : String) : (pairs.foldl (fun params p => addParameter params p.1 p.2) params).get? key =
      ((pairs.filter fun p => p.1 == key).map Prod.snd).foldl
        (fun found value => some (heard found value)) (params.get? key) := by
  induction pairs generalizing params with
  | nil => rfl
  | cons pair rest ih =>
    rw [List.foldl_cons, ih, addParameter_eq, Dictionary.get?_insert]
    by_cases hkey : key = pair.1
    · rw [if_pos hkey, List.filter_cons, if_pos (beq_iff_eq.mpr hkey.symm), hkey]
      rfl
    · rw [if_neg hkey, List.filter_cons, if_neg fun h => hkey (beq_iff_eq.mp h).symm]

/-! ## Declared lists -/

/-- Whether a piece of a list counts. -/
def counts (piece : String) : Bool := !piece.isEmpty

theorem splitString_of_plain {piece : String} (h : ',' ∉ piece.toList) :
    Text.splitString ',' piece = [piece] := by
  rw [Text.splitString, Text.split_of_not_mem h, List.map_singleton, String.ofList_toList]

theorem listed_multi_of_plain {values : List String} (h : ∀ v ∈ values, ',' ∉ v.toList) :
    listed (.multi values) = .multi (values.filter counts) := by
  have hsplit : values.flatMap (Text.splitString ',') = values := by
    rw [List.flatMap_congr fun v hv => splitString_of_plain (h v hv), List.flatMap_singleton']
  show QueryValue.multi ((values.flatMap (Text.splitString ',')).filter counts) = _
  rw [hsplit]

theorem exists_listed (value : QueryValue) :
    ∃ items : List String, listed value = .multi items ∧
      ∀ item ∈ items, ',' ∉ item.toList ∧ counts item := by
  refine ⟨_, rfl, fun item hitem => ?_⟩
  obtain ⟨hmem, hcounts⟩ := List.mem_filter.mp hitem
  obtain ⟨whole, -, hpiece⟩ := List.mem_flatMap.mp hmem
  obtain ⟨piece, hsplit, rfl⟩ := List.mem_map.mp hpiece
  rw [String.toList_ofList]
  exact ⟨Text.not_mem_of_mem_split hsplit, hcounts⟩

theorem listed_listed (value : QueryValue) : listed (listed value) = listed value := by
  obtain ⟨items, hitems, hplain⟩ := exists_listed value
  rw [hitems, listed_multi_of_plain fun item h => (hplain item h).1,
    List.filter_eq_self.mpr fun item h => (hplain item h).2]

theorem get?_withLists (params : Dictionary QueryValue) (names : List String) (key : String) :
    (withLists params names).get? key =
      (params.get? key).map fun value => if key ∈ names then listed value else value := by
  induction names generalizing params with
  | nil => simp [withLists]
  | cons name rest ih =>
    rw [withLists]
    by_cases hkey : key = name
    · subst hkey
      cases hfound : params.get? key with
      | none => simp only [ih, hfound, Option.map_none]
      | some value =>
        simp only [ih, Dictionary.get?_insert, if_true, Option.map_some, List.mem_cons_self,
          listed_listed, ite_self]
    · have hmem : key ∈ name :: rest ↔ key ∈ rest := by simp [hkey]
      cases params.get? name with
      | none => simp only [ih, hmem]
      | some value => simp only [ih, Dictionary.get?_insert, if_neg hkey, hmem]

theorem get?_parameters (key query : String) (arrayParams : List String) :
    (parameters query arrayParams).get? key = (ofOccurrences (occurrences key query)).map
      fun value => if key ∈ arrayParams then listed value else value := by
  rw [parameters, get?_withLists, ← QueryValue.foldl_heard, occurrences]
  exact congrArg (Option.map _) (get?_foldl_addParameter _ _ _)

/-! ## The order of declarations -/

theorem withLists_sorted {params : Dictionary QueryValue}
    (h : params.entries.Pairwise (·.1 < ·.1)) (names : List String) :
    (withLists params names).entries.Pairwise (·.1 < ·.1) := by
  induction names generalizing params with
  | nil => exact h
  | cons name rest ih =>
    rw [withLists]
    cases params.get? name with
    | none => exact ih h
    | some value => exact ih (Dictionary.insertEntry_sorted _ _ h)

theorem parameters_sorted (query : String) (arrayParams : List String) :
    (parameters query arrayParams).entries.Pairwise (·.1 < ·.1) := by
  refine withLists_sorted ?_ arrayParams
  refine List.foldlRecOn
    (motive := fun params : Dictionary QueryValue => params.entries.Pairwise (·.1 < ·.1))
    _ _ List.Pairwise.nil fun params hparams pair _ => ?_
  show (addParameter params pair.1 pair.2).entries.Pairwise (·.1 < ·.1)
  rw [addParameter_eq]
  exact Dictionary.insertEntry_sorted _ _ hparams

/-- The parameters depend on which are declared as lists, and not on the order of declarations. -/
theorem parameters_congr {others : List String} (h : ∀ name, name ∈ others ↔ name ∈ arrayParams) :
    parameters query others = parameters query arrayParams := by
  refine Dictionary.eq_of_sorted (parameters_sorted _ _) (parameters_sorted _ _) fun key => ?_
  simp only [get?_parameters, h]

/-! ## Reading lists -/

/-- The value of a parameter in an expression. -/
def valueOf (ctx : Context) (arrayParams : List String) (query key : String) : Value :=
  Context.resolve { ctx with query := parameters query arrayParams } .query [key]

/-- The value that a list of strings is. -/
def listOf (items : List String) : Value := .json (.arr (items.map .str))

variable {ctx : Context}

theorem valueOf_eq (ctx : Context) (arrayParams : List String) (query key : String) :
    valueOf ctx arrayParams query key = Context.splitList (.ofOption
      ((ofOccurrences (occurrences key query)).map fun value =>
        (if key ∈ arrayParams then listed value else value).toJson)) := by
  rw [valueOf, Context.resolve, if_pos rfl, Context.lookup, get?_parameters]
  cases ofOccurrences (occurrences key query) <;> rfl

theorem map_listed_ofOccurrences {values : List String} (h : values ≠ []) :
    (ofOccurrences values).map listed =
      some (.multi ((values.flatMap (Text.splitString ',')).filter counts)) := by
  match values with
  | [] => exact absurd rfl h
  | [value] => rfl
  | first :: second :: rest => rfl

theorem filter_splitString_intercalate {group : List String}
    (h : ∀ item ∈ group, ',' ∉ item.toList) :
    (Text.splitString ',' (",".intercalate group)).filter counts = group.filter counts := by
  cases group with
  | nil => rfl
  | cons first rest => rw [Text.splitString_intercalate rfl h]

/-- Occurrences of a declared list that are joined from its items give the items that are not
empty. -/
theorem valueOf_grouped (groups : List (List String)) (hdeclared : key ∈ arrayParams)
    (hgroups : groups ≠ []) (hplain : ∀ item ∈ groups.flatten, ',' ∉ item.toList)
    (h : occurrences key query = groups.map fun group => ",".intercalate group) :
    valueOf ctx arrayParams query key = listOf (groups.flatten.filter counts) := by
  have hcut : ((occurrences key query).flatMap (Text.splitString ',')).filter counts =
      groups.flatten.filter counts := by
    rw [h, List.flatMap_map, List.filter_flatMap, List.filter_flatten, ← List.flatMap_def]
    exact List.flatMap_congr fun group hgroup => filter_splitString_intercalate
      fun item hitem => hplain item (List.mem_flatten_of_mem hgroup hitem)
  have hoccurs : occurrences key query ≠ [] := by
    rw [h]
    exact mt List.map_eq_nil_iff.mp hgroups
  have hlisted := map_listed_ofOccurrences hoccurs
  rw [hcut] at hlisted
  obtain ⟨value, hvalue, hitems⟩ := Option.map_eq_some_iff.mp hlisted
  rw [valueOf_eq, hvalue, Option.map_some, if_pos hdeclared, hitems]
  rfl

section Sent

variable {values : List String}

theorem valueOf_repeated (hmany : 2 ≤ values.length) (hplain : ∀ value ∈ values, ',' ∉ value.toList)
    (h : occurrences key query = values) : valueOf ctx arrayParams query key =
      listOf (if key ∈ arrayParams then values.filter counts else values) := by
  by_cases hdeclared : key ∈ arrayParams
  · have hflatten : (values.map fun value => [value]).flatten = values := by
      rw [← List.flatMap_def, List.flatMap_singleton']
    have hgroups : values.map (fun value => [value]) ≠ [] := by
      rintro hnil
      rw [List.map_eq_nil_iff.mp hnil] at hmany
      cases hmany
    have hread := @valueOf_grouped key query arrayParams ctx _ hdeclared hgroups
      (hflatten.symm ▸ hplain) (h.trans (by rw [List.map_map]; exact (List.map_id _).symm))
    rw [if_pos hdeclared, hread, hflatten]
  · match values with
    | first :: second :: rest =>
      rw [valueOf_eq, h, if_neg hdeclared]
      simp only [if_neg hdeclared]
      rfl

theorem valueOf_joined (hmany : 2 ≤ values.length) (hplain : ∀ value ∈ values, ',' ∉ value.toList)
    (h : occurrences key query = [",".intercalate values]) :
    valueOf ctx arrayParams query key =
      listOf (if key ∈ arrayParams then values.filter counts else values) := by
  by_cases hdeclared : key ∈ arrayParams
  · have hflatten : [values].flatten = values := List.flatten_singleton
    rw [if_pos hdeclared, valueOf_grouped [values] hdeclared (List.cons_ne_nil _ _)
      (hflatten.symm ▸ hplain) h, hflatten]
  · match values with
    | first :: second :: rest =>
      have hcomma : (",".intercalate (first :: second :: rest)).toList.contains ',' = true := by
        rw [String.toList_intercalate, List.map_cons, List.map_cons, List.intercalate_cons_cons]
        simp
      rw [valueOf_eq, h, if_neg hdeclared]
      simp only [if_neg hdeclared]
      show Context.splitList (.json (.str _)) = _
      rw [Context.splitList, if_pos hcomma, Text.splitString_intercalate rfl hplain]
      rfl

end Sent

/-- A list of two items or more, none of which holds a comma, is read alike whether it is sent as
one value or as one occurrence for each item, whatever else the query strings hold.  A declared
list is read as its items that are not empty, however they are grouped into occurrences.  What is
read does not depend on the order in which lists are declared, or on how often. -/
theorem lists_in_queries (key : String) (arrayParams : List String) (ctx : Context) :
    (∀ (e : Text.FormEncoding) (pairs : List (String × String)),
      occurrences key (e.query pairs) = (pairs.filter fun p => p.1 == key).map Prod.snd) ∧
    (∀ (values : List String) (query query' : String), 2 ≤ values.length →
      (∀ value ∈ values, ',' ∉ value.toList) →
      occurrences key query = [",".intercalate values] → occurrences key query' = values →
      valueOf ctx arrayParams query key = valueOf ctx arrayParams query' key ∧
        valueOf ctx arrayParams query key =
          listOf (if key ∈ arrayParams then values.filter counts else values)) ∧
    (key ∈ arrayParams → ∀ (groups : List (List String)) (query : String), groups ≠ [] →
      (∀ item ∈ groups.flatten, ',' ∉ item.toList) →
      (occurrences key query = groups.map fun group => ",".intercalate group) →
      valueOf ctx arrayParams query key = listOf (groups.flatten.filter counts)) ∧
    ∀ (query : String) (others : List String), (∀ name, name ∈ others ↔ name ∈ arrayParams) →
      parameters query others = parameters query arrayParams := by
  refine ⟨occurrences_query key, fun values query query' hmany hplain hjoined hrepeated => ?_,
    fun hdeclared groups query hgroups hplain h =>
      valueOf_grouped groups hdeclared hgroups hplain h,
    fun query others h => parameters_congr h⟩
  have hread := @valueOf_joined key query arrayParams ctx values hmany hplain hjoined
  exact ⟨hread.trans (valueOf_repeated hmany hplain hrepeated).symm, hread⟩

/-- Two query strings with other parameters in them, and a declared list with an empty item. -/
theorem lists_in_queries_tags :
    let one := "tag=red,deep+blue&page=2"
    let two := "page=7&tag=red&sort=up&tag=deep%20blue"
    let grouped := "tag=red,,deep+blue&page=2&tag=sea%2cgreen"
    valueOf {} [] one "tag" = valueOf {} [] two "tag" ∧
      valueOf {} [] one "tag" = listOf ["red", "deep blue"] ∧
      valueOf {} ["tag"] grouped "tag" = listOf ["red", "deep blue", "sea", "green"] := by
  intro one two grouped
  obtain ⟨-, hsent, -⟩ := lists_in_queries "tag" [] {}
  obtain ⟨-, -, hdeclared, -⟩ := lists_in_queries "tag" ["tag"] {}
  have hplain : ∀ value ∈ ["red", "deep blue"], ',' ∉ value.toList := by decide
  have hitems : ∀ item ∈ [["red", "", "deep blue"], ["sea", "green"]].flatten,
      ',' ∉ item.toList := by decide
  obtain ⟨hsame, hread⟩ :=
    hsent _ one two (by decide) hplain (by decide +kernel) (by decide +kernel)
  exact ⟨hsame, hread, hdeclared List.mem_cons_self _ grouped (List.cons_ne_nil _ _) hitems
    (by decide +kernel)⟩

end Request
end QueryGateway
