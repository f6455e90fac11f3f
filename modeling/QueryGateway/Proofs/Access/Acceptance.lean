import QueryGateway.Access.Token
import QueryGateway.Proofs.Json.Equality
import QueryGateway.Proofs.Traversal

/-!
Which tokens are accepted.

A token is accepted exactly if it is signed with the secret of the rules and its claims pass
the checks (`claims_eq_ok_iff`).  The expiry has to be there.  An issuer or an audience that
the rules name has to be among the names that the claim gives, but a claim that gives none is
not held against the token, and neither is one that is missing.
-/

namespace QueryGateway.Access

open Json (Fields fields?_eq_some_iff)

/-! ## Names in claims -/

/-- Whether a claim is a name, or a list of names that holds it. -/
inductive Carries (name : String) : Option Json → Prop
  | alone : Carries name (some (.str name))
  | listed {names : List String} (mem : name ∈ names) :
    Carries name (some (.arr (names.map .str)))

/-- Whether a claim gives no names: it is missing, or neither a string nor a list of strings. -/
structure Silent (claim : Option Json) : Prop where
  not_name : ∀ name, claim ≠ some (.str name)
  not_names : ∀ names : List String, claim ≠ some (.arr (names.map .str))

theorem names?_eq_some_iff {value : Json} {names : List String} :
    names? value = some names ↔
      (∃ name, value = .str name ∧ names = [name]) ∨ value = .arr (names.map .str) := by
  cases value with
  | str name => simp [names?, eq_comm]
  | arr items => simp [names?, Json.mapM_str?_eq_some_iff]
  | null | bool _ | num _ | obj _ => simp [names?]

theorem silent_iff (claim : Option Json) : Silent claim ↔ claim.bind names? = none := by
  rw [Option.eq_none_iff_forall_ne_some]
  constructor
  · rintro ⟨hname, hnames⟩ names hgiven
    obtain ⟨value, rfl, hvalue⟩ := Option.bind_eq_some_iff.mp hgiven
    rcases names?_eq_some_iff.mp hvalue with ⟨name, rfl, -⟩ | rfl
    · exact hname name rfl
    · exact hnames names rfl
  · intro h
    refine ⟨fun name hclaim => h [name] ?_, fun names hclaim => h names ?_⟩
    · rw [hclaim]
      exact names?_eq_some_iff.mpr (.inl ⟨name, rfl, rfl⟩)
    · rw [hclaim]
      exact names?_eq_some_iff.mpr (.inr rfl)

theorem carries_iff (name : String) (claim : Option Json) :
    Carries name claim ↔ ∃ names, claim.bind names? = some names ∧ name ∈ names := by
  constructor
  · rintro (_ | @⟨names, hmem⟩)
    · exact ⟨[name], rfl, List.mem_singleton_self name⟩
    · exact ⟨names, names?_eq_some_iff.mpr (.inr rfl), hmem⟩
  · rintro ⟨names, hgiven, hmem⟩
    obtain ⟨value, rfl, hvalue⟩ := Option.bind_eq_some_iff.mp hgiven
    rcases names?_eq_some_iff.mp hvalue with ⟨other, rfl, rfl⟩ | rfl
    · rw [List.mem_singleton.mp hmem]
      exact .alone
    · exact .listed hmem

/-- A claim agrees with what is expected unless it gives names and the expected one is not
among them. -/
theorem agrees_iff (expected : Option String) (claim : Option Json) :
    agrees expected claim = true ↔
      ∀ name, expected = some name → Silent claim ∨ Carries name claim := by
  unfold agrees
  cases expected with
  | none => simp
  | some name =>
    cases hgiven : claim.bind names? with
    | none => simp [silent_iff, hgiven]
    | some names => simp [silent_iff, carries_iff, hgiven]

/-! ## Checks -/

namespace TokenRules

variable {rules : TokenRules} {now : Int} {claims : Fields}

theorem check_eq_ok_iff :
    rules.check now claims = .ok () ↔
      (∃ expiry, (claims.lookup "exp").bind second? = some expiry ∧
        now - leeway ≤ (expiry : Int)) ∧
      (∀ issuer, rules.issuer = some issuer →
        Silent (claims.lookup "iss") ∨ Carries issuer (claims.lookup "iss")) ∧
      ∀ audience, rules.audience = some audience →
        Silent (claims.lookup "aud") ∨ Carries audience (claims.lookup "aud") := by
  rw [← agrees_iff, ← agrees_iff, check]
  generalize now - (leeway : Int) = earliest
  cases hexpiry : (claims.lookup "exp").bind second? with
  | none => simp
  | some expiry =>
    by_cases hexpired : (expiry : Int) < earliest
    · have hlate : ¬earliest ≤ (expiry : Int) := by omega
      simp [hexpired, hlate]
    · have htimely : earliest ≤ (expiry : Int) := by omega
      cases hissuer : agrees rules.issuer (claims.lookup "iss") <;>
        cases haudience : agrees rules.audience (claims.lookup "aud") <;>
        simp [hexpired, htimely]

/-- What a token shows that is accepted with these claims. -/
structure Accepts (rules : TokenRules) (now : Int) (token : Token) (claims : Fields) : Prop where
  algorithm : (contents? token.header).bind algorithm? = some "HS256"
  signed : token.signature = token.signatureWith rules.secret
  payload : ∃ payload, contents? token.payload = some payload ∧
    payload.value? = some (.obj claims) ∧ registeredClaimsStand payload
  expiry : ∃ expiry, (claims.lookup "exp").bind second? = some expiry ∧
    now - leeway ≤ (expiry : Int)
  issuer : ∀ issuer, rules.issuer = some issuer →
    Silent (claims.lookup "iss") ∨ Carries issuer (claims.lookup "iss")
  audience : ∀ audience, rules.audience = some audience →
    Silent (claims.lookup "aud") ∨ Carries audience (claims.lookup "aud")

/-- The checks of a token, one after the other. -/
theorem claims_eq (rules : TokenRules) (now : Int) (text : String) :
    rules.claims now text =
      (Token.ofText? text).elim (.error .malformed) fun token =>
        ((contents? token.header).bind algorithm?).elim (.error .malformed) fun algorithm =>
          if algorithm ≠ "HS256" then .error .invalidAlgorithm
          else if token.signature ≠ token.signatureWith rules.secret then .error .invalidSignature
          else (contents? token.payload).elim (.error .malformed) fun payload =>
            (payload.value?.bind Json.fields?).elim (.error .malformed) fun claims =>
              if !registeredClaimsStand payload then .error .malformed
              else (rules.check now claims).map fun _ => claims := by
  unfold TokenRules.claims
  cases Token.ofText? text with
  | none => rfl
  | some token =>
    simp only [Option.elim_some]
    cases (contents? token.header).bind algorithm? with
    | none => rfl
    | some algorithm =>
      by_cases halgorithm : algorithm ≠ "HS256"
      · simp only [Option.elim_some, if_pos halgorithm]
        rfl
      · by_cases hforged : token.signature ≠ token.signatureWith rules.secret
        · simp only [Option.elim_some, if_neg halgorithm, if_pos hforged]
          rfl
        · simp only [Option.elim_some, if_neg halgorithm, if_neg hforged]
          cases contents? token.payload with
          | none => rfl
          | some payload =>
            simp only [Option.elim_some]
            cases payload.value?.bind Json.fields? with
            | none => rfl
            | some claims => cases registeredClaimsStand payload <;> rfl

theorem elim_error_eq_ok_iff {α β : Type} {x : Option α} {e : TokenError}
    {f : α → Except TokenError β} {b : β} :
    x.elim (.error e) f = .ok b ↔ ∃ a, x = some a ∧ f a = .ok b := by
  cases x <;> simp

theorem ite_error_eq_ok_iff {β : Type} {p : Prop} [Decidable p] {e : TokenError}
    {x : Except TokenError β} {b : β} :
    (if p then .error e else x) = .ok b ↔ ¬p ∧ x = .ok b := by
  by_cases hp : p <;> simp [hp]

/-- A token is accepted exactly if it is signed under the secret of the rules, names an expiry
that has not passed by more than the leeway, and gives no names as issuer or audience but those
that the rules ask for.  It may leave out both. -/
theorem claims_eq_ok_iff {text : String} :
    rules.claims now text = .ok claims ↔
      ∃ token, Token.ofText? text = some token ∧ rules.Accepts now token claims := by
  rw [claims_eq]
  simp only [elim_error_eq_ok_iff, ite_error_eq_ok_iff]
  refine exists_congr fun token => and_congr_right fun _ => ⟨?_, ?_⟩
  · rintro ⟨algorithm, halgorithm, hname, hsigned, payload, hpayload, found, hfound, hstand, hcheck⟩
    obtain ⟨value, hvalue, hfields⟩ := Option.bind_eq_some_iff.mp hfound
    obtain ⟨⟨⟩, hpassed, rfl⟩ := exists_of_map_eq_ok hcheck
    obtain ⟨hexpiry, hissuer, haudience⟩ := check_eq_ok_iff.mp hpassed
    rw [not_not.mp hname] at halgorithm
    rw [fields?_eq_some_iff.mp hfields] at hvalue
    exact ⟨halgorithm, not_not.mp hsigned, ⟨payload, hpayload, hvalue, by simpa using hstand⟩,
      hexpiry, hissuer, haudience⟩
  · rintro ⟨halgorithm, hsigned, ⟨payload, hpayload, hvalue, hstand⟩, hexpiry, hissuer, haudience⟩
    have hpassed := check_eq_ok_iff.mpr ⟨hexpiry, hissuer, haudience⟩
    refine ⟨"HS256", halgorithm, not_not.mpr rfl, not_not.mpr hsigned, payload, hpayload, claims,
      ?_, by simpa using hstand, ?_⟩
    · rw [hvalue]
      rfl
    · rw [hpassed]
      rfl

/-- A token with no more than a subject and an expiry, under rules that ask for an issuer and an
audience. -/
theorem claims_without_issuer :
    let rules : TokenRules :=
      { secret := "test-secret", issuer := some "aq", audience := some "api" }
    let text := "eyJ0eXAiOiJKV1QiLCJhbGciOiJIUzI1NiJ9." ++
      "eyJzdWIiOiJ1MSIsImV4cCI6NDEwMjQ0NDgwMH0._8o4JS0KUya1Zwyvu8cahdgwxNuX_DksdrWgf8iTKAg"
    ∃ claims, rules.claims 1750000000 text = .ok claims ∧ claims.lookup "iss" = none ∧
      claims.lookup "aud" = none ∧
      ∃ token, Token.ofText? text = some token ∧ rules.Accepts 1750000000 token claims := by
  intro rules text
  have hrun : ((rules.claims 1750000000 text).toOption.any fun claims =>
      (claims.lookup "iss").isNone && (claims.lookup "aud").isNone) = true := by
    decide +kernel +revert
  cases haccepted : rules.claims 1750000000 text with
  | error e =>
    rw [haccepted] at hrun
    cases hrun
  | ok claims =>
    rw [haccepted, Except.toOption, Option.any_some, Bool.and_eq_true, Option.isNone_iff_eq_none,
      Option.isNone_iff_eq_none] at hrun
    exact ⟨claims, rfl, hrun.1, hrun.2, claims_eq_ok_iff.mp haccepted⟩

end TokenRules
end QueryGateway.Access
