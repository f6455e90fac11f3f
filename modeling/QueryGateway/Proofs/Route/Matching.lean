import Mathlib.Data.List.TakeWhile
import QueryGateway.Proofs.Dictionary
import QueryGateway.Proofs.Route.Compilation
import QueryGateway.Proofs.Route.Replacement
import QueryGateway.Proofs.Text.Percent
import QueryGateway.Request.Basic

/-!
Matching requests to routes.

Of the routes that fit a request the first is taken, and its parameters are what they stand for in
the path, percent-decoded.  So what is put into a path percent-encoded is found again
(`find?_replaced`).
-/

namespace QueryGateway

/-! ## Methods -/

theorem Text.toUpper_toUpper (c : Char) : c.toUpper.toUpper = c.toUpper := by
  by_cases h : 'a'.val ≤ c.val ∧ c.val ≤ 'z'.val
  · have hval : c.toUpper.val = c.val + ('A'.val - 'a'.val) := by
      delta Char.toUpper
      rw [dif_pos h]
    have hlow : 97 ≤ c.val.toNat := h.1
    have hhigh : c.val.toNat ≤ 122 := h.2
    have hupper : c.toUpper.val.toNat < 97 := by
      rw [hval, UInt32.toNat_add]
      show (c.val.toNat + 4294967264) % 4294967296 < 97
      omega
    have hnot : ¬('a'.val ≤ c.toUpper.val ∧ c.toUpper.val ≤ 'z'.val) := fun hlower =>
      absurd hupper (Nat.not_lt.mpr hlower.1)
    exact dif_neg hnot
  · have hsame : c.toUpper = c := dif_neg h
    rw [hsame, hsame]

namespace Route

theorem toUpper_method {d : Delimiters} {definition : Definition} {route : Route}
    (h : compile d definition = .ok route) : route.method.toUpper = route.method := by
  obtain ⟨method, hmethod⟩ := exists_toUpper_of_compile h
  have hupper : Char.toUpper ∘ Char.toUpper = Char.toUpper := funext Text.toUpper_toUpper
  rw [hmethod, String.toUpper, String.toUpper, String.map_map, hupper]

/-! ## One route -/

/-- Whether a request fits a route: its method is that of the route, up to the case of ASCII
letters, and its path is that of the route with every parameter replaced. -/
structure Fits (route : Route) (method : String) (path : List Char) : Prop where
  method : route.method.toUpper = method.toUpper
  path : ∃ values, Pattern.Assigns route.pattern.names values ∧
    path = Pattern.replace values route.path.toList

variable {d : Delimiters} {definition : Definition} {route : Route} {method : String}
  {path : List Char} {params : Dictionary String}

theorem isSome_accept?_iff (h : compile d definition = .ok route) :
    (route.accept? method path).isSome ↔ route.Fits method path := by
  have hupper := toUpper_method h
  rw [accept?]
  by_cases hmethod : route.method = method.toUpper
  · rw [if_pos hmethod, Option.isSome_map, Pattern.isSome_captures?_iff (ofPath_of_compile h)]
    exact ⟨fun hpath => ⟨hupper.trans hmethod, hpath⟩, fun hfits => hfits.path⟩
  · rw [if_neg hmethod]
    exact ⟨nofun, fun hfits => absurd (hupper.symm.trans hfits.method) hmethod⟩

theorem accept?_of_captures? {values : String → List Char} (hmethod : route.method = method.toUpper)
    (h : route.pattern.captures? path = some (route.pattern.names.map values)) :
    ∃ params, route.accept? method path = some params ∧ ∀ name, params.get? name =
      if name ∈ route.pattern.names then some (String.ofList (Text.percentDecode (values name)))
      else none := by
  refine ⟨_, by rw [accept?, if_pos hmethod, h, Option.map_some], fun name => ?_⟩
  rw [List.map_map]
  exact Dictionary.get?_ofList_zip (fun name => String.ofList (Text.percentDecode (values name)))
    route.pattern.names name

/-- The parameters of a request are decoded from what they stand for in its path. -/
theorem exists_values_of_accept? (h : compile d definition = .ok route)
    (haccepted : route.accept? method path = some params) :
    ∃ values, Pattern.Assigns route.pattern.names values ∧
      path = Pattern.replace values route.path.toList ∧ ∀ name, params.get? name =
        if name ∈ route.pattern.names then some (String.ofList (Text.percentDecode (values name)))
        else none := by
  have hmethod : route.method = method.toUpper := by
    by_contra hne
    rw [accept?, if_neg hne] at haccepted
    cases haccepted
  have hcaptures := haccepted
  rw [accept?, if_pos hmethod] at hcaptures
  obtain ⟨captured, hcaptured, -⟩ := Option.map_eq_some_iff.mp hcaptures
  obtain ⟨values, hassigns, hpath, rfl⟩ :=
    Pattern.exists_replace_of_captures? (ofPath_of_compile h) hcaptured
  obtain ⟨params', haccepted', hparams⟩ := accept?_of_captures? hmethod hcaptured
  obtain rfl := Option.some.inj (haccepted.symm.trans haccepted')
  exact ⟨values, hassigns, hpath, hparams⟩

/-! ## Lists of routes -/

variable {routes : List Route}

theorem find?_eq_some_iff :
    find? routes method path = some (route, params) ↔
      ∃ before after, routes = before ++ route :: after ∧
        route.accept? method path = some params ∧
        ∀ other ∈ before, other.accept? method path = none := by
  rw [find?, List.findSome?_eq_some_iff]
  constructor
  · rintro ⟨before, first, after, hroutes, hfirst, hbefore⟩
    obtain ⟨params', haccepted, heq⟩ := Option.map_eq_some_iff.mp hfirst
    obtain ⟨rfl, rfl⟩ := Prod.mk.inj heq
    exact ⟨before, after, hroutes, haccepted,
      fun other hother => Option.map_eq_none_iff.mp (hbefore other hother)⟩
  · rintro ⟨before, after, hroutes, haccepted, hbefore⟩
    refine ⟨before, route, after, hroutes, by rw [haccepted, Option.map_some], ?_⟩
    exact fun other hother => Option.map_eq_none_iff.mpr (hbefore other hother)

/-- The route of a request is the first that fits it. -/
theorem exists_find?_iff
    (h : ∀ route ∈ routes, ∃ d definition, compile d definition = .ok route) (route : Route) :
    (∃ params, find? routes method path = some (route, params)) ↔
      ∃ before after, routes = before ++ route :: after ∧ route.Fits method path ∧
        ∀ other ∈ before, ¬other.Fits method path := by
  have hfits : ∀ other ∈ routes, ((other.accept? method path).isSome ↔ other.Fits method path) :=
    fun other hother => by
      obtain ⟨d, definition, hcompiled⟩ := h other hother
      exact isSome_accept?_iff hcompiled
  constructor
  · rintro ⟨params, hfound⟩
    obtain ⟨before, after, rfl, haccepted, hbefore⟩ := find?_eq_some_iff.mp hfound
    have hroute : (route.accept? method path).isSome := by rw [haccepted]; rfl
    refine ⟨before, after, rfl, (hfits route (by simp)).mp hroute, fun other hother hfit => ?_⟩
    have hother' := (hfits other (List.mem_append_left _ hother)).mpr hfit
    rw [hbefore other hother] at hother'
    cases hother'
  · rintro ⟨before, after, rfl, hfit, hbefore⟩
    obtain ⟨params, haccepted⟩ :=
      Option.isSome_iff_exists.mp ((hfits route (by simp)).mpr hfit)
    refine ⟨params, find?_eq_some_iff.mpr ⟨before, after, rfl, haccepted, fun other hother => ?_⟩⟩
    have hnot := mt (hfits other (List.mem_append_left _ hother)).mp (hbefore other hother)
    simpa using hnot

/-! ## Round trip -/

theorem pathOf_of_not_mem {path : List Char} (h : '?' ∉ path) :
    Request.pathOf (String.ofList path) = path := by
  rw [Request.pathOf, String.toList_ofList, List.takeWhile_eq_self_iff]
  intro c hc
  have hne : c ≠ '?' := by
    rintro rfl
    exact h hc
  simpa using hne

/-- The path of a route with every parameter replaced by its value, percent-encoded. -/
def encodedPath (e : Text.PercentEncoding) (values : String → String) (path : String) : String :=
  String.ofList (Pattern.replace (fun name => e.encode (values name).toList) path.toList)

theorem exists_find?_encodedPath (h : compile d definition = .ok route)
    (hquestion : '?' ∉ route.path.toList)
    (hone : ∀ segment ∈ Text.split '/' route.path.toList, segment.count '\x7b' ≤ 1)
    (e : Text.PercentEncoding) {values : String → String}
    (hvalues : ∀ name ∈ route.pattern.names, values name ≠ "") (rest : List Route) :
    ∃ params, find? (route :: rest) route.method
        (Request.pathOf (encodedPath e values route.path)) = some (route, params) ∧
      ∀ name, params.get? name =
        if name ∈ route.pattern.names then some (values name) else none := by
  have hpattern := ofPath_of_compile h
  have hassigns : Pattern.Assigns route.pattern.names fun name => e.encode (values name).toList :=
    fun name hname => ⟨e.encode_ne_nil (by simpa using hvalues name hname),
      e.slash_not_mem_encode _⟩
  have hpath : Request.pathOf (encodedPath e values route.path) =
      Pattern.replace (fun name => e.encode (values name).toList) route.path.toList := by
    refine pathOf_of_not_mem fun hmem => ?_
    rcases (Pattern.written_of_ofPath hpattern).mem_replace hmem with hplain | ⟨name, -, hvalue⟩
    · exact hquestion hplain
    · exact e.question_not_mem_encode _ hvalue
  obtain ⟨params, haccepted, hparams⟩ := accept?_of_captures? (toUpper_method h).symm
    (Pattern.captures?_replace hpattern hone hassigns)
  refine ⟨params, ?_, fun name => ?_⟩
  · rw [hpath]
    exact find?_eq_some_iff.mpr ⟨[], rest, rfl, haccepted, nofun⟩
  · rw [hparams, e.percentDecode_encode, String.ofList_toList]

/-- A path fits a template exactly if it is the template with its parameters replaced, and the
first route that a request fits is taken, with its parameters percent-decoded.  Where no segment
of a template has two parameters, values that are put into it percent-encoded are what it gives
back. -/
theorem find?_replaced {template : String} {pattern : Pattern}
    (h : Pattern.ofPath template = .ok pattern)
    (hroutes : ∀ route ∈ routes, ∃ d definition, compile d definition = .ok route)
    (method target : String) :
    let path := Request.pathOf target
    pattern.Written template.toList ∧
      (∀ s, (pattern.captures? s).isSome ↔
        ∃ values, Pattern.Assigns pattern.names values ∧
          s = Pattern.replace values template.toList) ∧
      (∀ s captured, pattern.captures? s = some captured →
        captured.length = pattern.names.length) ∧
      -- Lists of routes.
      (∀ route, (∃ params, find? routes method path = some (route, params)) ↔
        ∃ before after, routes = before ++ route :: after ∧ route.Fits method path ∧
          ∀ other ∈ before, ¬other.Fits method path) ∧
      (∀ route params, find? routes method path = some (route, params) →
        ∃ values, Pattern.Assigns route.pattern.names values ∧
          path = Pattern.replace values route.path.toList ∧ ∀ name, params.get? name =
            if name ∈ route.pattern.names then
              some (String.ofList (Text.percentDecode (values name)))
            else none) ∧
      -- Values that are put in.
      ('?' ∉ template.toList →
        (∀ segment ∈ Text.split '/' template.toList, segment.count '\x7b' ≤ 1) →
        ∀ (e : Text.PercentEncoding) (values : String → String),
          (∀ name ∈ pattern.names, values name ≠ "") →
          ∀ d definition route, compile d definition = .ok route → route.path = template →
            ∃ params, find? (route :: routes) route.method
                (Request.pathOf (encodedPath e values template)) = some (route, params) ∧
              ∀ name, params.get? name =
                if name ∈ pattern.names then some (values name) else none) := by
  intro path
  refine ⟨Pattern.written_of_ofPath h, Pattern.isSome_captures?_iff h, fun s captured hcaptured =>
    (Pattern.fills_of_captures? hcaptured).length_eq, exists_find?_iff hroutes,
    fun route params hfound => ?_, fun hquestion hone e values hvalues d definition route
    hcompiled htemplate => ?_⟩
  · obtain ⟨before, after, rfl, haccepted, -⟩ := find?_eq_some_iff.mp hfound
    obtain ⟨d, definition, hcompiled⟩ := hroutes route (by simp)
    exact exists_values_of_accept? hcompiled haccepted
  · subst htemplate
    obtain rfl := Except.ok.inj ((ofPath_of_compile hcompiled).symm.trans h)
    exact exists_find?_encodedPath hcompiled hquestion hone e hvalues routes

/-- Values with a slash, a percent sign, braces, a question mark and a letter that is not ASCII,
where a later route fits as well. -/
theorem find?_replaced_files :
    let definition : Definition := {
      method := "get", path := "/files/\x7bfolder\x7d/\x7bname\x7d.txt", query := .null }
    let later : Definition := {
      method := "GET", path := "/\x7ba\x7d/\x7bb\x7d/\x7bc\x7d", query := .null }
    let values (name : String) : String := if name = "folder" then "a/b" else "9%\x7bé\x7d?"
    let target := "/files/a%2Fb/9%25%7B%C3%A9%7D%3F.txt?x=1"
    ∃ route other, compile .standard definition = .ok route ∧
      compile .standard later = .ok other ∧
      Request.pathOf target =
        Request.pathOf (encodedPath .alphanumeric values definition.path) ∧
      (∀ segment ∈ Text.split '/' definition.path.toList, segment.count '\x7b' ≤ 1) ∧
      ∃ params, find? [route, other] "GET" (Request.pathOf target) = some (route, params) ∧
        params.get? "folder" = some "a/b" ∧ params.get? "name" = some "9%\x7bé\x7d?" := by
  intro definition later values target
  have hrun : ((compile .standard definition).toOption.any fun route =>
      (compile .standard later).toOption.isSome && (route.method == "GET" &&
        (route.path == definition.path && route.pattern.names == ["folder", "name"]))) = true := by
    decide +kernel +revert
  have hquestion : '?' ∉ definition.path.toList := by decide +kernel +revert
  have hone : ∀ segment ∈ Text.split '/' definition.path.toList, segment.count '\x7b' ≤ 1 := by
    decide +kernel +revert
  have hpath : Request.pathOf target =
      Request.pathOf (encodedPath .alphanumeric values definition.path) := by
    decide +kernel +revert
  have hvalues (name : String) : values name ≠ "" := by
    by_cases hname : name = "folder" <;> simp [values, hname]
  cases hcompiled : compile .standard definition with
  | error e =>
    rw [hcompiled] at hrun
    cases hrun
  | ok route =>
    rw [hcompiled, Except.toOption, Option.any_some] at hrun
    simp only [Bool.and_eq_true, beq_iff_eq] at hrun
    obtain ⟨hlater, hmethod, hroute, hnames⟩ := hrun
    cases hother : compile .standard later with
    | error e =>
      rw [hother] at hlater
      cases hlater
    | ok other =>
      have hpattern := ofPath_of_compile hcompiled
      rw [hroute] at hpattern
      have hroutes : ∀ r ∈ [other], ∃ d definition, compile d definition = .ok r := by
        intro r hr
        obtain rfl := List.mem_singleton.mp hr
        exact ⟨.standard, later, hother⟩
      obtain ⟨-, -, -, -, -, hback⟩ := find?_replaced hpattern hroutes "GET" target
      obtain ⟨params, hfound, hparams⟩ := hback hquestion hone .alphanumeric values
        (fun name _ => hvalues name) .standard definition route hcompiled hroute
      rw [hmethod, ← hpath] at hfound
      rw [hnames] at hparams
      exact ⟨route, other, rfl, rfl, hpath, hone, params, hfound, hparams "folder",
        hparams "name"⟩

end Route
end QueryGateway
