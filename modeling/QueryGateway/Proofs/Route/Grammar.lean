import QueryGateway.Proofs.Route.Replacement

/-!
Which paths are patterns.

A path is read piece by piece: texts in which no brace opens, and names in braces.  It is
accepted if it starts with a slash, its parameters have different names that are identifiers,
and no brace closes in the text after the last of them (`ofPath_accepts_iff`).  A text with
a parameter behind it is only searched for the brace that opens that parameter.  So a brace that
closes nothing is accepted there, and the paths without one are the accepted ones that have no
brace in their texts.
-/

namespace QueryGateway.Route.Pattern

/-- A path as texts and parameters, one after the other. -/
inductive Composed : List Char → Pattern → Prop
  | done : Composed [] []
  | text {t s : List Char} {pieces : Pattern} (plain : '\x7b' ∉ t) (more : Composed s pieces) :
    Composed (t ++ s) (.literal t :: pieces)
  | param {name : String} {s : List Char} {pieces : Pattern}
    (identifier : isIdentifier name.toList = true) (fresh : name ∉ names pieces)
    (more : Composed s pieces) :
    Composed ('\x7b' :: (name.toList ++ '\x7d' :: s)) (.param name :: pieces)

/-- A text in which a brace closes has a parameter behind it. -/
def Guarded : Pattern → Prop
  | [] => True
  | .literal text :: pieces => ('\x7d' ∈ text → names pieces ≠ []) ∧ Guarded pieces
  | .param _ :: pieces => Guarded pieces

/-- No brace closes in a text. -/
def Unbraced (pattern : Pattern) : Prop := ∀ text, .literal text ∈ pattern → '\x7d' ∉ text

theorem unbraced_literal {text : List Char} {pieces : Pattern} :
    Unbraced (.literal text :: pieces) ↔ '\x7d' ∉ text ∧ Unbraced pieces := by
  simp only [Unbraced, List.mem_cons, Piece.literal.injEq, forall_eq_or_imp]

theorem unbraced_param {name : String} {pieces : Pattern} :
    Unbraced (.param name :: pieces) ↔ Unbraced pieces := by
  simp only [Unbraced, List.mem_cons, reduceCtorEq, false_or]

theorem Unbraced.guarded {pattern : Pattern} (h : Unbraced pattern) : Guarded pattern := by
  induction pattern with
  | nil => trivial
  | cons piece pieces ih =>
    cases piece with
    | literal text =>
      obtain ⟨htext, hpieces⟩ := unbraced_literal.mp h
      exact ⟨fun hbrace => absurd hbrace htext, ih hpieces⟩
    | param name => exact ih (unbraced_param.mp h)

/-! ## Texts that are joined -/

/-- Joins texts that follow each other.  `before` is the text so far. -/
def joinTexts (before : List Char) : Pattern → Pattern
  | [] => [.literal before]
  | .literal text :: pieces => joinTexts (before ++ text) pieces
  | .param name :: pieces => .literal before :: .param name :: joinTexts [] pieces

theorem names_joinTexts (before : List Char) (pieces : Pattern) :
    names (joinTexts before pieces) = names pieces := by
  induction pieces generalizing before with
  | nil => rfl
  | cons piece pieces ih =>
    cases piece with
    | literal text => exact ih (before ++ text)
    | param name => exact congrArg (name :: ·) (ih [])

theorem unbraced_joinTexts {before : List Char} {pieces : Pattern} (hbefore : '\x7d' ∉ before)
    (h : Unbraced pieces) : Unbraced (joinTexts before pieces) := by
  induction pieces generalizing before with
  | nil => exact unbraced_literal.mpr ⟨hbefore, h⟩
  | cons piece pieces ih =>
    cases piece with
    | literal text =>
      obtain ⟨htext, hpieces⟩ := unbraced_literal.mp h
      exact ih (by simp [hbefore, htext]) hpieces
    | param name =>
      have hpieces := ih List.not_mem_nil (unbraced_param.mp h)
      exact unbraced_literal.mpr ⟨hbefore, unbraced_param.mpr hpieces⟩

/-! ## What is read -/

theorem piecesOf_text {s : List Char} (hopen : '\x7b' ∉ s) (hclose : '\x7d' ∉ s) (path : String)
    (seen : List String) : piecesOf path seen s = .ok [.literal s] := by
  have hnone := Text.breakOn?_char_eq_none hopen
  rw [piecesOf]
  split
  · simp [hclose]
  · simp_all only [reduceCtorEq]

theorem piecesOf_param {before chars : List Char} (hbefore : '\x7b' ∉ before)
    (hidentifier : isIdentifier chars = true) {seen : List String}
    (hseen : String.ofList chars ∉ seen) (path : String) (s : List Char) :
    piecesOf path seen (before ++ '\x7b' :: (chars ++ '\x7d' :: s)) =
      (piecesOf path (seen ++ [String.ofList chars]) s).map fun pieces =>
        .literal before :: .param (String.ofList chars) :: pieces := by
  have hchars : '\x7d' ∉ chars := not_mem_of_isIdentifier hidentifier (by decide)
  have hopen := Text.breakOn?_char hbefore (chars ++ '\x7d' :: s)
  have hclose := Text.breakOn?_char hchars s
  rw [piecesOf]
  split
  · simp_all only [reduceCtorEq]
  · rename_i before' inside hopen'
    obtain ⟨rfl, rfl⟩ := Prod.mk.inj (Option.some.inj (hopen.symm.trans hopen'))
    split
    · simp_all only [reduceCtorEq]
    · rename_i chars' rest hclose'
      obtain ⟨rfl, rfl⟩ := Prod.mk.inj (Option.some.inj (hclose.symm.trans hclose'))
      simp [hidentifier, hseen]

/-- What is composed is read, its texts joined. -/
theorem piecesOf_composed {s : List Char} {pieces : Pattern} (h : Composed s pieces)
    {before : List Char} {seen : List String} (path : String) (hbefore : '\x7b' ∉ before)
    (hseen : ∀ name ∈ names pieces, name ∉ seen) (hguarded : Guarded (.literal before :: pieces)) :
    piecesOf path seen (before ++ s) = .ok (joinTexts before pieces) := by
  induction h generalizing before seen with
  | done =>
    rw [List.append_nil]
    exact piecesOf_text hbefore (fun hbrace => hguarded.1 hbrace rfl) path seen
  | @text t s pieces plain more ih =>
    rw [← List.append_assoc]
    refine ih (by simp [hbefore, plain]) hseen ⟨fun hbrace => ?_, hguarded.2.2⟩
    rcases List.mem_append.mp hbrace with hmem | hmem
    · exact hguarded.1 hmem
    · exact hguarded.2.1 hmem
  | @param name s pieces identifier fresh more ih =>
    have hname : String.ofList name.toList ∉ seen := by
      rw [String.ofList_toList]
      exact hseen name List.mem_cons_self
    have hrest : ∀ other ∈ names pieces, other ∉ seen ++ [name] := by
      intro other hmem hother
      rcases List.mem_append.mp hother with hbefore | hsame
      · exact hseen other (List.mem_cons_of_mem _ hmem) hbefore
      · exact fresh (List.mem_singleton.mp hsame ▸ hmem)
    have hpieces := ih List.not_mem_nil hrest ⟨nofun, hguarded.2⟩
    rw [List.nil_append] at hpieces
    rw [piecesOf_param hbefore identifier hname, String.ofList_toList, hpieces]
    rfl

theorem guarded_of_piecesOf {path : String} {seen : List String} {s : List Char}
    {pattern : Pattern} (h : piecesOf path seen s = .ok pattern) : Guarded pattern := by
  fun_induction piecesOf path seen s generalizing pattern with
  | case1 => cases h
  | case2 seen s hopen hplain =>
    obtain rfl := Except.ok.inj h
    exact ⟨fun hbrace => absurd hbrace (by simpa using hplain), trivial⟩
  | case3 => cases h
  | case4 => cases h
  | case5 => cases h
  | case6 =>
    rename_i ih
    obtain ⟨pieces, hpieces, rfl⟩ := exists_of_map_eq_ok h
    have hrest : Guarded pieces := ih hpieces
    exact ⟨fun _ => List.cons_ne_nil _ _, hrest⟩

theorem Written.composed {pattern : Pattern} {s : List Char} (h : Written pattern s) :
    Composed s pattern := by
  induction h with
  | @text s plain =>
    have hdone := Composed.text plain .done
    rwa [List.append_nil] at hdone
  | @param before chars rest pieces plain identifier fresh more ih =>
    have hparam : Composed _ _ := .param (by rwa [String.toList_ofList]) fresh ih
    rw [String.toList_ofList] at hparam
    exact .text plain hparam

/-! ## What is accepted -/

theorem ofPath_eq_ok_iff {path : String} {pattern : Pattern} :
    ofPath path = .ok pattern ↔
      path.toList.head? = some '/' ∧ piecesOf path [] path.toList = .ok pattern := by
  rw [ofPath]
  by_cases hslash : path.toList.head? = some '/'
  · rw [if_pos hslash, and_iff_right hslash]
  · rw [if_neg hslash]
    refine ⟨fun h => ?_, fun h => absurd h.1 hslash⟩
    cases h

theorem ofPath_composed {path : String} {pieces : Pattern} (hslash : path.toList.head? = some '/')
    (h : Composed path.toList pieces) (hguarded : Guarded pieces) :
    ofPath path = .ok (joinTexts [] pieces) :=
  ofPath_eq_ok_iff.mpr ⟨hslash,
    piecesOf_composed h path List.not_mem_nil (fun _ _ => List.not_mem_nil) ⟨nofun, hguarded⟩⟩

theorem composed_of_ofPath {path : String} {pattern : Pattern} (h : ofPath path = .ok pattern) :
    path.toList.head? = some '/' ∧ Composed path.toList pattern ∧ Guarded pattern := by
  obtain ⟨hslash, hpieces⟩ := ofPath_eq_ok_iff.mp h
  exact ⟨hslash, (written_of_ofPath h).composed, guarded_of_piecesOf hpieces⟩

/-- A path is accepted with these parameters exactly if it starts with a slash and is composed
of texts and these parameters, and no brace closes in the text after the last one.  It is
accepted with a pattern in whose texts no brace closes exactly if it starts with a slash and is
composed of texts without braces and these parameters. -/
theorem ofPath_accepts_iff (path : String) (parameters : List String) :
    ((∃ pattern, ofPath path = .ok pattern ∧ names pattern = parameters) ↔
      path.toList.head? = some '/' ∧
        ∃ pieces, Composed path.toList pieces ∧ Guarded pieces ∧ names pieces = parameters) ∧
    ((∃ pattern, ofPath path = .ok pattern ∧ Unbraced pattern ∧ names pattern = parameters) ↔
      path.toList.head? = some '/' ∧
        ∃ pieces, Composed path.toList pieces ∧ Unbraced pieces ∧ names pieces = parameters) := by
  refine ⟨⟨?_, ?_⟩, ⟨?_, ?_⟩⟩
  · rintro ⟨pattern, hpattern, hnames⟩
    obtain ⟨hslash, hcomposed, hguarded⟩ := composed_of_ofPath hpattern
    exact ⟨hslash, pattern, hcomposed, hguarded, hnames⟩
  · rintro ⟨hslash, pieces, hcomposed, hguarded, hnames⟩
    exact ⟨joinTexts [] pieces, ofPath_composed hslash hcomposed hguarded,
      (names_joinTexts [] pieces).trans hnames⟩
  · rintro ⟨pattern, hpattern, hunbraced, hnames⟩
    obtain ⟨hslash, hcomposed, -⟩ := composed_of_ofPath hpattern
    exact ⟨hslash, pattern, hcomposed, hunbraced, hnames⟩
  · rintro ⟨hslash, pieces, hcomposed, hunbraced, hnames⟩
    exact ⟨joinTexts [] pieces, ofPath_composed hslash hcomposed hunbraced.guarded,
      unbraced_joinTexts List.not_mem_nil hunbraced, (names_joinTexts [] pieces).trans hnames⟩

-- The brace in the first text closes nothing.
example : (ofPath "/a\x7db/\x7bid\x7d").toOption =
    some [.literal "/a\x7db/".toList, .param "id", .literal []] := by
  decide +kernel

end QueryGateway.Route.Pattern
