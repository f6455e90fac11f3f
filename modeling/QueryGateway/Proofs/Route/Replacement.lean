import Mathlib.Data.List.Nodup
import QueryGateway.Proofs.Route.Fitting
import QueryGateway.Proofs.Text.Split
import QueryGateway.Proofs.Traversal

/-!
Patterns and the paths they were read from.

A path fits a pattern exactly if it is the path of the pattern with every parameter replaced by
one or more characters that are no slashes (`isSome_captures?_iff`).  Where no segment has two
parameters, there is one way at most (`values_eq_of_replace_eq`).
-/

namespace QueryGateway.Route.Pattern

/-! ## Replacement -/

/-- Replaces the names in braces.  `name?` is what was read of a name whose brace is open. -/
def replaceFrom (values : String → List Char) : (name? : Option (List Char)) → List Char → List Char
  | _, [] => []
  | none, c :: s =>
    if c = '\x7b' then replaceFrom values (some []) s else c :: replaceFrom values none s
  | some name, c :: s =>
    if c = '\x7d' then values (String.ofList name) ++ replaceFrom values none s
    else replaceFrom values (some (name ++ [c])) s

/-- A path with every name in braces replaced by its value, the braces included. -/
def replace (values : String → List Char) (path : List Char) : List Char :=
  replaceFrom values none path

variable {values : String → List Char}

theorem replace_append {before : List Char} (h : '\x7b' ∉ before) (s : List Char) :
    replace values (before ++ s) = before ++ replace values s := by
  induction before with
  | nil => rfl
  | cons c before ih =>
    have hc : ¬c = '\x7b' := (List.ne_of_not_mem_cons h).symm
    rw [replace, List.cons_append, replaceFrom, if_neg hc]
    exact congrArg _ (ih (List.not_mem_of_not_mem_cons h))

theorem replace_of_not_mem {s : List Char} (h : '\x7b' ∉ s) : replace values s = s := by
  have happend : replace values (s ++ []) = s ++ replace values [] := replace_append h []
  rwa [List.append_nil, replace, replace, replaceFrom, List.append_nil] at happend

theorem replaceFrom_some {chars : List Char} (h : '\x7d' ∉ chars) (name s : List Char) :
    replaceFrom values (some name) (chars ++ '\x7d' :: s) =
      values (String.ofList (name ++ chars)) ++ replace values s := by
  induction chars generalizing name with
  | nil =>
    rw [List.nil_append, replaceFrom, if_pos rfl, List.append_nil]
    rfl
  | cons c chars ih =>
    have hc : ¬c = '\x7d' := (List.ne_of_not_mem_cons h).symm
    rw [List.cons_append, replaceFrom, if_neg hc, ih (List.not_mem_of_not_mem_cons h),
      List.append_assoc, List.singleton_append]

theorem replace_param {before chars : List Char} (hbefore : '\x7b' ∉ before)
    (hchars : '\x7d' ∉ chars) (s : List Char) :
    replace values (before ++ '\x7b' :: (chars ++ '\x7d' :: s)) =
      before ++ (values (String.ofList chars) ++ replace values s) := by
  rw [replace_append hbefore, replace, replaceFrom, if_pos rfl, replaceFrom_some hchars,
    List.nil_append]

/-! ## The paths of patterns -/

/-- Whether a path is written as a pattern says. -/
inductive Written : Pattern → List Char → Prop
  | text {s : List Char} (plain : '\x7b' ∉ s) : Written [.literal s] s
  | param {before chars rest : List Char} {pieces : Pattern} (plain : '\x7b' ∉ before)
    (identifier : isIdentifier chars = true) (fresh : String.ofList chars ∉ names pieces)
    (more : Written pieces rest) :
    Written (.literal before :: .param (String.ofList chars) :: pieces)
      (before ++ '\x7b' :: (chars ++ '\x7d' :: rest))

/-- No character of a name has a meaning in paths. -/
theorem not_mem_of_isIdentifier {chars : List Char} {c : Char} (h : isIdentifier chars = true)
    (hc : (c.isAlphanum || c == '_') = false) : c ∉ chars := by
  intro hmem
  cases chars with
  | nil => cases hmem
  | cons d rest =>
    rw [isIdentifier, Bool.and_eq_true] at h
    rcases List.mem_cons.mp hmem with rfl | hrest
    · rw [Bool.or_eq_false_iff, Char.isAlphanum, Bool.or_eq_false_iff] at hc
      rw [hc.1.1, hc.2] at h
      cases h.1
    · have hall := List.all_eq_true.mp h.2 c hrest
      rw [hc] at hall
      cases hall

theorem written_of_piecesOf {path : String} {seen : List String} {s : List Char}
    {pattern : Pattern} (h : piecesOf path seen s = .ok pattern) :
    Written pattern s ∧ ∀ name ∈ names pattern, name ∉ seen := by
  fun_induction piecesOf path seen s generalizing pattern with
  | case1 => cases h
  | case2 seen s hopen hplain =>
    obtain rfl := Except.ok.inj h
    exact ⟨.text (Text.not_mem_of_breakOn?_eq_none hopen), nofun⟩
  | case3 => cases h
  | case4 => cases h
  | case5 => cases h
  | case6 seen s before inside hopen chars rest hclose hlt name hidentifier hseen =>
    rename_i ih
    obtain ⟨pieces, hpieces, rfl⟩ := exists_of_map_eq_ok h
    obtain ⟨hwritten, hfresh⟩ := ih hpieces
    have hpath : s = before ++ '\x7b' :: (chars ++ '\x7d' :: rest) := by
      rw [Text.eq_of_breakOn? hopen, Text.eq_of_breakOn? hclose]
      simp only [List.append_assoc, List.cons_append, List.nil_append]
    have hname : name ∉ names pieces := fun hmem =>
      hfresh name hmem (List.mem_append_right seen List.mem_cons_self)
    rw [hpath]
    refine ⟨.param (Text.not_mem_of_breakOn? hopen) (by simpa using hidentifier) hname hwritten,
      fun other hmem => ?_⟩
    rcases List.mem_cons.mp hmem with rfl | hrest
    · simpa using hseen
    · exact fun hbefore => hfresh other hrest (List.mem_append_left _ hbefore)

theorem written_of_ofPath {path : String} {pattern : Pattern} (h : ofPath path = .ok pattern) :
    Written pattern path.toList := by
  rw [ofPath] at h
  split at h
  · exact (written_of_piecesOf h).1
  · cases h

namespace Written

variable {pattern : Pattern} {path : List Char}

theorem nodup (h : Written pattern path) : (names pattern).Nodup := by
  induction h with
  | text plain => exact List.nodup_nil
  | param plain identifier fresh more ih => exact List.nodup_cons.mpr ⟨fresh, ih⟩

/-- A character of a path with replaced names is one of the path or of a value. -/
theorem mem_replace (h : Written pattern path) {c : Char} (hc : c ∈ replace values path) :
    c ∈ path ∨ ∃ name ∈ names pattern, c ∈ values name := by
  induction h with
  | text plain =>
    rw [replace_of_not_mem plain] at hc
    exact .inl hc
  | @param before chars rest pieces plain identifier fresh more ih =>
    rw [replace_param plain (not_mem_of_isIdentifier identifier (by decide)), List.mem_append,
      List.mem_append] at hc
    rcases hc with hbefore | hvalue | hrest
    · exact .inl (List.mem_append_left _ hbefore)
    · exact .inr ⟨_, List.mem_cons_self, hvalue⟩
    · rcases ih hrest with hpath | ⟨name, hname, hvalue⟩
      · exact .inl (by simp [hpath])
      · exact .inr ⟨name, List.mem_cons_of_mem _ hname, hvalue⟩

end Written

/-! ## Fitting -/

/-- Whether every name has a value that can stand in a segment. -/
def Assigns (names : List String) (values : String → List Char) : Prop :=
  ∀ name ∈ names, values name ≠ [] ∧ '/' ∉ values name

namespace Written

variable {pattern : Pattern} {path s : List Char} {captured : List (List Char)}

theorem fills (h : Written pattern path) (hvalues : Assigns (names pattern) values) :
    Fills pattern ((names pattern).map values) (replace values path) := by
  induction h with
  | @text s plain =>
    have hfills : Fills [.literal s] [] (s ++ []) := .literal .nil
    rw [List.append_nil] at hfills
    rw [replace_of_not_mem plain]
    exact hfills
  | @param before chars rest pieces plain identifier fresh more ih =>
    obtain ⟨hnonempty, hwhole⟩ := hvalues _ List.mem_cons_self
    rw [replace_param plain (not_mem_of_isIdentifier identifier (by decide))]
    exact .literal (.param hnonempty hwhole
      (ih fun name hname => hvalues name (List.mem_cons_of_mem _ hname)))

theorem eq_replace (h : Written pattern path) (hfills : Fills pattern captured s)
    (hcaptured : (names pattern).map values = captured) :
    Assigns (names pattern) values ∧ s = replace values path := by
  induction h generalizing captured s with
  | @text text plain =>
    cases hfills with
    | literal rest =>
      cases rest
      rw [replace_of_not_mem plain, List.append_nil]
      exact ⟨nofun, rfl⟩
  | @param before chars rest pieces plain identifier fresh more ih =>
    cases hfills with
    | literal rest =>
      cases rest with
      | @param _ taken _ others s nonempty whole rest =>
        obtain ⟨htaken, hothers⟩ := List.cons.inj hcaptured
        obtain ⟨hvalues, rfl⟩ := ih rest hothers
        rw [replace_param plain (not_mem_of_isIdentifier identifier (by decide)), htaken]
        refine ⟨fun name hname => ?_, rfl⟩
        rcases List.mem_cons.mp hname with rfl | hrest
        · rw [htaken]
          exact ⟨nonempty, whole⟩
        · exact hvalues name hrest

end Written

theorem exists_map_eq {names : List String} {captured : List (List Char)} (hnames : names.Nodup)
    (hlength : captured.length = names.length) :
    ∃ values : String → List Char, names.map values = captured := by
  induction names generalizing captured with
  | nil => exact ⟨fun _ => [], (List.eq_nil_of_length_eq_zero hlength).symm⟩
  | cons name names ih =>
    cases captured with
    | nil => cases hlength
    | cons taken captured =>
      obtain ⟨hname, hrest⟩ := List.nodup_cons.mp hnames
      obtain ⟨values, hvalues⟩ := ih hrest (Nat.succ.inj hlength)
      refine ⟨fun other => if other = name then taken else values other, ?_⟩
      have hothers : names.map (fun other => if other = name then taken else values other) =
          names.map values :=
        List.map_congr_left fun other hmem => if_neg (by rintro rfl; exact hname hmem)
      rw [List.map_cons, if_pos rfl, hothers, hvalues]

variable {template : String} {pattern : Pattern} {s : List Char} {captured : List (List Char)}

/-- What the parameters are found to stand for is a way to replace them. -/
theorem exists_replace_of_captures? (h : ofPath template = .ok pattern)
    (hcaptured : pattern.captures? s = some captured) :
    ∃ values, Assigns pattern.names values ∧ s = replace values template.toList ∧
      captured = pattern.names.map values := by
  have hwritten := written_of_ofPath h
  have hfills := fills_of_captures? hcaptured
  obtain ⟨values, hvalues⟩ := exists_map_eq hwritten.nodup hfills.length_eq
  obtain ⟨hassigns, hs⟩ := hwritten.eq_replace hfills hvalues
  exact ⟨values, hassigns, hs, hvalues.symm⟩

theorem isSome_captures?_iff (h : ofPath template = .ok pattern) (s : List Char) :
    (pattern.captures? s).isSome ↔
      ∃ values, Assigns pattern.names values ∧ s = replace values template.toList := by
  constructor
  · intro hsome
    obtain ⟨captured, hcaptured⟩ := Option.isSome_iff_exists.mp hsome
    obtain ⟨values, hassigns, hs, -⟩ := exists_replace_of_captures? h hcaptured
    exact ⟨values, hassigns, hs⟩
  · rintro ⟨values, hassigns, rfl⟩
    exact ((written_of_ofPath h).fills hassigns).isSome_captures?

/-! ## Segments with one parameter -/

theorem eq_of_append_slash {a b s t : List Char} (ha : '/' ∉ a) (hb : '/' ∉ b)
    (h : a ++ '/' :: s = b ++ '/' :: t) : a = b := by
  have hsplit := congrArg (Text.split '/') h
  rw [Text.split_append_cons ha, Text.split_append_cons hb] at hsplit
  exact (List.cons.inj hsplit).1

/-- Between two parameters there is a slash, where a part without slashes has one brace at
most. -/
theorem slash_mem_of_count {before chars text rest : List Char}
    (hone : ∀ part, part <:+: before ++ '\x7b' :: (chars ++ '\x7d' :: (text ++ '\x7b' :: rest)) →
      '/' ∉ part → part.count '\x7b' ≤ 1) (hchars : '/' ∉ chars) : '/' ∈ text := by
  by_contra htext
  let part : List Char := '\x7b' :: (chars ++ '\x7d' :: (text ++ ['\x7b']))
  have hinfix :
      part <:+: before ++ '\x7b' :: (chars ++ '\x7d' :: (text ++ '\x7b' :: rest)) :=
    ⟨before, rest, by simp [part]⟩
  have hslash : '/' ∉ part := by simp [part, hchars, htext]
  have hcount : 2 ≤ part.count '\x7b' := by
    simp only [part, List.count_cons, List.count_append]
    simp
    omega
  have := hone part hinfix hslash
  omega

/-- Where no segment has two parameters, a path says what its parameters stand for. -/
theorem Written.values_eq {pattern : Pattern} {path : List Char} {values' : String → List Char}
    (h : Written pattern path)
    (hone : ∀ part, part <:+: path → '/' ∉ part → part.count '\x7b' ≤ 1)
    (hvalues : Assigns (names pattern) values) (hvalues' : Assigns (names pattern) values')
    (heq : replace values path = replace values' path) :
    ∀ name ∈ names pattern, values name = values' name := by
  induction h with
  | text plain => nofun
  | @param before chars rest pieces plain identifier fresh more ih =>
    have hchars : '\x7d' ∉ chars := not_mem_of_isIdentifier identifier (by decide)
    rw [replace_param plain hchars, replace_param plain hchars] at heq
    replace heq := List.append_cancel_left heq
    obtain ⟨hfirst, hrest⟩ := List.forall_mem_cons.mp hvalues
    obtain ⟨hfirst', hrest'⟩ := List.forall_mem_cons.mp hvalues'
    have hname : values (String.ofList chars) = values' (String.ofList chars) := by
      cases more with
      | text plain =>
        rw [replace_of_not_mem plain, replace_of_not_mem plain] at heq
        exact List.append_cancel_right heq
      | @param text chars' rest' pieces' plain' identifier' fresh' more' =>
        -- The value and the text after it end at the same slash.
        have hslash : '/' ∈ text :=
          slash_mem_of_count hone (not_mem_of_isIdentifier identifier (by decide))
        obtain ⟨front, back, rfl, hfront⟩ := List.eq_append_cons_of_mem hslash
        have hchars' : '\x7d' ∉ chars' := not_mem_of_isIdentifier identifier' (by decide)
        rw [replace_param plain' hchars', replace_param plain' hchars'] at heq
        simp only [List.append_assoc, List.cons_append] at heq
        rw [← List.append_assoc (values _), ← List.append_assoc (values' _)] at heq
        have hends : values (String.ofList chars) ++ front =
            values' (String.ofList chars) ++ front :=
          eq_of_append_slash (by simp [hfirst.2, hfront]) (by simp [hfirst'.2, hfront]) heq
        exact List.append_cancel_right hends
    rw [hname] at heq
    have hone' : ∀ part, part <:+: rest → '/' ∉ part → part.count '\x7b' ≤ 1 :=
      fun part hpart => hone part (hpart.trans ⟨before ++ '\x7b' :: (chars ++ ['\x7d']), [],
        by simp⟩)
    exact List.forall_mem_cons.mpr ⟨hname, ih hone' hrest hrest' (List.append_cancel_left heq)⟩

/-- So what is captured is what was put in. -/
theorem captures?_replace (h : ofPath template = .ok pattern)
    (hone : ∀ segment ∈ Text.split '/' template.toList, segment.count '\x7b' ≤ 1)
    (hvalues : Assigns pattern.names values) :
    pattern.captures? (replace values template.toList) = some (pattern.names.map values) := by
  have hwritten := written_of_ofPath h
  have hparts : ∀ part, part <:+: template.toList → '/' ∉ part → part.count '\x7b' ≤ 1 := by
    intro part hpart hslash
    obtain ⟨segment, hsegment, hwithin⟩ := Text.exists_infix_of_split hpart hslash
    exact Nat.le_trans (hwithin.sublist.count_le _) (hone segment hsegment)
  obtain ⟨captured, hcaptured⟩ :=
    Option.isSome_iff_exists.mp (hwritten.fills hvalues).isSome_captures?
  obtain ⟨values', hvalues', heq, rfl⟩ := exists_replace_of_captures? h hcaptured
  rw [hcaptured]
  exact congrArg _ (List.map_congr_left fun name hname =>
    (hwritten.values_eq hparts hvalues hvalues' heq name hname).symm)

end QueryGateway.Route.Pattern
