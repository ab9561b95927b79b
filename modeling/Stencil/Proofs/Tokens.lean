import Stencil.Proofs.Errors
/-!
# Texts cut at their tokens

A token begins where a name stands between two dollar signs. A text is cut at its tokens from the left: each one is
the first that begins behind the one before. `ofSegments_segments_iff` says that the pieces of a text are this cut and
that there is no other one. `substitute_eq_filled` is the statement about substitution: the tokens of declared
placeholders give way to their texts, all else stays in its place, and of several errors the first one is reported.
-/

namespace Stencil

namespace Token

/-! ## Cuts -/

/-- A text begins with a token. -/
def Begins (text : List Char) : Prop :=
  ∃ name rest, IsName name ∧ text = (Token.text name).toList ++ rest

/-- A text cut at tokens: what stands in front of each one and its name, and what stands behind the last one. -/
inductive Cut where
  | done (tail : List Char)
  | token (front : List Char) (name : String) (behind : Cut)
deriving DecidableEq

namespace Cut

/-- The text with something put in the place of each token. -/
def filled (put : String → String) : Cut → List Char
  | .done tail => tail
  | .token front name behind => front ++ (put name).toList ++ behind.filled put

/-- The text that was cut. -/
def text (cut : Cut) : List Char := cut.filled Token.text

/-- The names of the tokens, from the left. -/
def names : Cut → List String
  | .done _ => []
  | .token _ name behind => name :: behind.names

/-- No token begins in front of the first one or behind the last one; and where a token ends, the same holds of what is
behind it. -/
def Leftmost : Cut → Prop
  | .done tail => ∀ k, ¬ Begins (tail.drop k)
  | .token front name behind =>
    IsName name ∧ (∀ k < front.length, ¬ Begins ((token front name behind).text.drop k)) ∧ behind.Leftmost

/-- The cut at the tokens that a policy looks at. -/
def considered : SubstitutionPolicy → Cut → Cut
  | .all, cut => cut
  | .first, .done tail => .done tail
  | .first, .token front name behind => .token front name (.done behind.text)

/-- Puts a character in front. -/
def prepend (c : Char) : Cut → Cut
  | .done tail => .done (c :: tail)
  | .token front name behind => .token (c :: front) name behind

/-- The cut of a text into pieces. -/
def ofSegments : List Segment → Cut
  | [] => .done []
  | .char c :: rest => (ofSegments rest).prepend c
  | .token name :: rest => .token [] name (ofSegments rest)

@[simp] theorem filled_prepend (put : String → String) (c : Char) (cut : Cut) :
    (cut.prepend c).filled put = c :: cut.filled put := by
  cases cut <;> simp [prepend, filled]

@[simp] theorem text_prepend (c : Char) (cut : Cut) : (cut.prepend c).text = c :: cut.text := filled_prepend _ c cut

@[simp] theorem names_prepend (c : Char) (cut : Cut) : (cut.prepend c).names = cut.names := by
  cases cut <;> rfl

@[simp] theorem considered_prepend (policy : SubstitutionPolicy) (c : Char) (cut : Cut) :
    (cut.prepend c).considered policy = (cut.considered policy).prepend c := by
  cases policy <;> cases cut <;> rfl

theorem names_considered (policy : SubstitutionPolicy) (cut : Cut) :
    (cut.considered policy).names = policy.considered cut.names := by
  cases policy <;> cases cut <;> rfl

theorem names_ofSegments (segments : List Segment) : (ofSegments segments).names = tokens segments := by
  induction segments with
  | nil => rfl
  | cons segment rest ih => cases segment <;> simp [ofSegments, names, ih]

end Cut

/-! ## Where tokens begin -/

theorem segments_of_not_begins {c : Char} {rest : List Char} (h : ¬ Begins (c :: rest)) :
    segments (c :: rest) = .char c :: segments rest := by
  rw [segments, if_neg]
  rintro ⟨rfl, hne, hdollar⟩
  obtain ⟨behind, hbehind⟩ := List.head?_eq_some_iff.1 hdollar
  obtain ⟨hname, htext⟩ := token_of_takeWhile hne hbehind
  exact h ⟨_, behind, hname, htext⟩

/-! ## The one cut -/

theorem Cut.leftmost_prepend_iff {c : Char} {cut : Cut} :
    (cut.prepend c).Leftmost ↔ ¬ Begins (c :: cut.text) ∧ cut.Leftmost := by
  cases cut with
  | done tail =>
    refine ⟨fun h => ⟨h 0, fun k => h (k + 1)⟩, fun ⟨h₀, h⟩ k => ?_⟩
    cases k with
    | zero => exact h₀
    | succ k => exact h k
  | token front name behind =>
    refine ⟨fun ⟨hname, hfront, hbehind⟩ => ⟨hfront 0 (by simp), hname, fun k hk => ?_, hbehind⟩,
      fun ⟨h₀, hname, hfront, hbehind⟩ => ⟨hname, fun k hk => ?_, hbehind⟩⟩
    · exact hfront (k + 1) (by simpa using hk)
    · cases k with
      | zero => exact h₀
      | succ k => exact hfront k (by simpa using hk)

theorem Cut.text_ofSegments (segments : List Segment) : (ofSegments segments).text = Scope.verbatim segments := by
  induction segments with
  | nil => rfl
  | cons segment rest ih =>
    cases segment with
    | char c => simp [ofSegments, ih, Scope.verbatim, Segment.text]
    | token name => simpa [ofSegments, text, filled, Scope.verbatim, Segment.text] using ih

/-- The pieces of a text make it up again, and they are cut from the left. -/
theorem cut_segments (text : List Char) :
    (Cut.ofSegments (segments text)).text = text ∧ (Cut.ofSegments (segments text)).Leftmost := by
  -- by the length of the text: what is behind a token is shorter by more than one character
  induction hn : text.length using Nat.strongRecOn generalizing text with
  | ind n ih =>
  by_cases hb : Begins text
  · obtain ⟨name, rest, hname, rfl⟩ := hb
    obtain ⟨htext, hleft⟩ := ih rest.length (by simp [← hn, text_toList]; omega) rest rfl
    rw [segments_of_token hname]
    exact ⟨by simpa [Cut.ofSegments, Cut.text, Cut.filled] using htext, hname, by simp, hleft⟩
  · cases text with
    | nil => exact ⟨by rw [segments]; rfl, by rw [segments]; intro k; simpa using hb⟩
    | cons c rest =>
      obtain ⟨htext, hleft⟩ := ih rest.length (by simp [← hn]) rest rfl
      rw [segments_of_not_begins hb]
      exact ⟨by simp [Cut.ofSegments, htext], Cut.leftmost_prepend_iff.2 ⟨by rwa [htext], hleft⟩⟩

/-- Of a cut from the left the pieces can be read back: each of its tokens is the first that begins there. -/
theorem ofSegments_segments_text {cut : Cut} (h : cut.Leftmost) : Cut.ofSegments (segments cut.text) = cut := by
  -- along the cut, and in front of each token character by character
  induction cut with
  | done tail =>
    induction tail with
    | nil => rw [Cut.text, Cut.filled, segments]; rfl
    | cons c tail ih =>
      obtain ⟨hc, htail⟩ := (@Cut.leftmost_prepend_iff c (.done tail)).1 h
      change Cut.ofSegments (segments (c :: (Cut.done tail).text)) = _
      rw [segments_of_not_begins hc, Cut.ofSegments]
      exact congrArg (Cut.prepend c) (ih htail)
  | token front name behind ih =>
    induction front with
    | nil =>
      obtain ⟨hname, -, hbehind⟩ := h
      change Cut.ofSegments (segments ((Token.text name).toList ++ behind.text)) = _
      rw [segments_of_token hname, Cut.ofSegments, ih hbehind]
    | cons c front ihfront =>
      obtain ⟨hc, hrest⟩ := (@Cut.leftmost_prepend_iff c (.token front name behind)).1 h
      change Cut.ofSegments (segments (c :: (Cut.token front name behind).text)) = _
      rw [segments_of_not_begins hc, Cut.ofSegments, ihfront hrest]
      rfl

/-- The pieces of a text are its cut from the left, and it has no other one. -/
theorem eq_ofSegments_segments_iff {text : List Char} {cut : Cut} :
    cut = Cut.ofSegments (segments text) ↔ cut.text = text ∧ cut.Leftmost := by
  constructor
  · rintro rfl
    exact cut_segments text
  · rintro ⟨rfl, hleft⟩
    exact (ofSegments_segments_text hleft).symm

end Token

namespace Scope

open Token

variable {scope : Scope} {flavor : Flavor}

/-! ## Texts of placeholders -/

/-- The argument of a name gives a text for a flavor. -/
def Resolves (scope : Scope) (flavor : Flavor) (name text : String) : Prop :=
  ∃ a, scope.arguments.find? name = some a ∧ a.flavor? flavor = some text

/-- Why a name gives no text for a flavor, and the error that says so. -/
inductive Unresolved (scope : Scope) (flavor : Flavor) (name : String) : Error → Prop
  | missing (h : scope.arguments.find? name = none) : Unresolved scope flavor name (.missingArgument name)
  | undefined {a} (ha : scope.arguments.find? name = some a) (h : a.flavor? flavor = none) :
      Unresolved scope flavor name (.undefinedFlavor flavor)

theorem textOf_ok_iff {name text : String} : scope.textOf flavor name = .ok text ↔ scope.Resolves flavor name text := by
  simp only [textOf, Logged.except_bind_ok_iff, argument_ok_iff, Resolves]
  refine exists_congr fun a => and_congr_right fun _ => ?_
  unfold Argument.toText
  split <;> rename_i heq <;> simp [heq]

theorem textOf_error_iff {name : String} {e : Error} :
    scope.textOf flavor name = .error e ↔ scope.Unresolved flavor name e := by
  simp only [textOf, Logged.except_bind_error_iff, argument_ok_iff]
  constructor
  · rintro (h | ⟨a, ha, h⟩)
    · obtain ⟨rfl, hnone⟩ := argument_error h
      exact .missing hnone
    · obtain ⟨rfl, hnone⟩ := toText_error h
      exact .undefined ha hnone
  · rintro (h | ⟨ha, h⟩)
    · exact .inl (by simp [argument, h])
    · exact .inr ⟨_, ha, by simp [Argument.toText, h]⟩

/-- The texts of the names that have one. -/
theorem exists_texts (scope : Scope) (flavor : Flavor) :
    ∃ texts : String → String, ∀ name text, scope.Resolves flavor name text → scope.Resolves flavor name (texts name) :=
  ⟨fun name => ((scope.arguments.find? name).bind (·.flavor? flavor)).getD "",
    fun _ _ ⟨a, ha, ht⟩ => ⟨a, ha, by simp [ha, ht]⟩⟩

/-- The first declared one of some names that gives no text, and the error that says why. -/
def FirstUnresolved (scope : Scope) (flavor : Flavor) (names : List String) (e : Error) : Prop :=
  ∃ before name after, names = before ++ name :: after ∧ scope.registry.contains name = true ∧
    scope.Unresolved flavor name e ∧
    ∀ earlier ∈ before, scope.registry.contains earlier = true → ∃ text, scope.Resolves flavor earlier text

theorem failure?_eq_none_iff {name : String} :
    scope.failure? flavor name = none ↔
      (scope.registry.contains name = true → ∃ text, scope.Resolves flavor name text) := by
  simp only [← textOf_ok_iff, failure?]
  split
  · rename_i hname
    cases scope.textOf flavor name <;> simp [hname]
  · rename_i hname
    simp [hname]

theorem findSome?_failure?_iff {names : List String} {e : Error} :
    names.findSome? (scope.failure? flavor) = some e ↔ scope.FirstUnresolved flavor names e := by
  simp only [List.findSome?_eq_some_iff, failure?_eq_some_iff, failure?_eq_none_iff, textOf_error_iff, FirstUnresolved,
    and_assoc]

/-- If a declared name gives no text, then there is a first one. -/
theorem exists_firstUnresolved {names : List String}
    (h : ∃ name ∈ names, scope.registry.contains name = true ∧ ∀ text, ¬ scope.Resolves flavor name text) :
    ∃ e, scope.FirstUnresolved flavor names e := by
  obtain ⟨name, hm, hname, hno⟩ := h
  cases hfind : names.findSome? (scope.failure? flavor) with
  | some e => exact ⟨e, findSome?_failure?_iff.1 hfind⟩
  | none =>
    obtain ⟨text, htext⟩ := failure?_eq_none_iff.1 (List.findSome?_eq_none_iff.1 hfind name hm) hname
    exact absurd htext (hno text)

/-! ## Substitution along the cut -/

/-- What stands in the place of a token: the text of a declared placeholder, or the token itself. -/
def putting (scope : Scope) (texts : String → String) (name : String) : String :=
  if scope.registry.contains name then texts name else Token.text name

theorem substituteSegments_token_ok {texts : String → String} {name : String} {rest : List Segment}
    (h : scope.registry.contains name = true → scope.textOf flavor name = .ok (texts name)) :
    scope.substituteSegments flavor (.token name :: rest) =
      match scope.policy with
      | .all => do
        return (← scope.substituteSegments flavor rest).prepend (scope.putting texts name).toList
          (scope.registry.contains name)
      | .first => .ok (.prepend (scope.putting texts name).toList (scope.registry.contains name)
          ⟨verbatim rest, false⟩) := by
  rw [substituteSegments, putting]
  cases hdeclared : scope.registry.contains name with
  | false => rfl
  | true =>
    simp only [h hdeclared, if_true]
    rfl

/-- Where the declared tokens that the policy looks at have texts, these are put in their places along the cut. -/
theorem substituteSegments_of_textOf {texts : String → String} {segments : List Segment}
    (h : ∀ name ∈ scope.policy.considered (tokens segments), scope.registry.contains name = true →
      scope.textOf flavor name = .ok (texts name)) :
    scope.substituteSegments flavor segments = .ok ⟨((Cut.ofSegments segments).considered scope.policy).filled
      (scope.putting texts), (scope.policy.considered (tokens segments)).any scope.registry.contains⟩ := by
  induction segments with
  | nil => cases scope.policy <;> rfl
  | cons segment rest ih =>
    cases segment with
    | char c =>
      rw [substituteSegments, ih h, Cut.ofSegments, Cut.considered_prepend, Cut.filled_prepend]
      rfl
    | token name =>
      rw [substituteSegments_token_ok (h name (by cases scope.policy <;> simp [SubstitutionPolicy.considered]))]
      cases hpolicy : scope.policy with
      | all =>
        simp only [hpolicy, SubstitutionPolicy.considered, tokens_token, List.forall_mem_cons] at h ih
        simp only [ih h.2]
        rfl
      -- what is behind the token is copied as it stands, so nothing is asked of the names in it
      | first =>
        simp [Substituted.prepend, Cut.ofSegments, Cut.considered, Cut.filled, Cut.text_ofSegments,
          SubstitutionPolicy.considered]

theorem substitute_of_resolves {texts : String → String} {text : String}
    (h : ∀ name ∈ scope.policy.considered (Token.names text), scope.registry.contains name = true →
      scope.Resolves flavor name (texts name)) :
    scope.substitute flavor text =
      .ok (if (scope.policy.considered (Token.names text)).any scope.registry.contains then
        some (String.ofList (((Cut.ofSegments (segments text.toList)).considered scope.policy).filled
          (scope.putting texts)))
      else none) := by
  simp only [← textOf_ok_iff] at h
  simp only [substitute, substituteSegments_of_textOf h]
  rfl

theorem substitute_firstUnresolved {text : String} {e : Error}
    (h : scope.FirstUnresolved flavor (scope.policy.considered (Token.names text)) e) :
    scope.substitute flavor text = .error e :=
  substitute_error_iff.2 (findSome?_failure?_iff.2 h)

/-- A text stays only if no token in it that the policy looks at names a declared placeholder. -/
theorem substitute_none_iff {text : String} :
    scope.substitute flavor text = .ok none ↔
      ∀ name ∈ scope.policy.considered (Token.names text), scope.registry.contains name = false := by
  refine ⟨fun hnone => ?_, substitute_undeclared⟩
  have hresolved (name) (hm : name ∈ scope.policy.considered (Token.names text))
      (hname : scope.registry.contains name = true) : ∃ text, scope.Resolves flavor name text := by
    by_contra hno
    obtain ⟨e, he⟩ := exists_firstUnresolved ⟨name, hm, hname, not_exists.1 hno⟩
    rw [substitute_firstUnresolved he] at hnone
    cases hnone
  obtain ⟨texts, htexts⟩ := exists_texts scope flavor
  rw [substitute_of_resolves fun name hm hname => (hresolved name hm hname).elim (htexts name)] at hnone
  simpa [List.any_eq_true] using hnone

/-- Substitution goes along the cut of the text from the left, which is its only one. Where no token that the policy
looks at is declared, the text stays. Where the declared ones have texts, these and nothing else come in, and what
they hold is not looked at again. Otherwise the error is that of the first declared one without a text. -/
theorem substitute_eq_filled (scope : Scope) (flavor : Flavor) (text : String) :
    (∃! cut : Cut, cut.text = text.toList ∧ cut.Leftmost) ∧
    ∀ cut : Cut, cut.text = text.toList → cut.Leftmost →
      let looked := cut.considered scope.policy
      let declared := fun name => name ∈ looked.names ∧ scope.registry.contains name = true
      (scope.substitute flavor text = .ok none ↔ ∀ name, ¬ declared name) ∧
      (∀ texts, (∃ name, declared name) → (∀ name, declared name → scope.Resolves flavor name (texts name)) →
        scope.substitute flavor text = .ok (some (String.ofList (looked.filled (scope.putting texts))))) ∧
      ((∃ name, declared name ∧ ∀ text, ¬ scope.Resolves flavor name text) →
        ∃ e, scope.FirstUnresolved flavor looked.names e) ∧
      ∀ e, scope.FirstUnresolved flavor looked.names e → scope.substitute flavor text = .error e := by
  refine ⟨⟨Cut.ofSegments (segments text.toList), cut_segments _, fun cut h => eq_ofSegments_segments_iff.2 h⟩, ?_⟩
  intro cut htext hleft
  obtain rfl := eq_ofSegments_segments_iff.2 ⟨htext, hleft⟩
  have hnames : (Cut.ofSegments (segments text.toList)).names = Token.names text := Cut.names_ofSegments _
  simp only [Cut.names_considered, hnames]
  refine ⟨?_, fun texts ⟨name, hname⟩ h => ?_, fun ⟨name, hname, hno⟩ => ?_,
    fun _ => substitute_firstUnresolved⟩
  · simp [substitute_none_iff]
  · rw [substitute_of_resolves fun name hm hc => h name ⟨hm, hc⟩, if_pos (List.any_eq_true.2 ⟨name, hname⟩)]
  · exact exists_firstUnresolved ⟨name, hname.1, hname.2, hno⟩

/-- Two placeholders, and an argument for one whose text is the token of the other. -/
def insertedToken (policy : SubstitutionPolicy) : Scope := ⟨⟨[("A", ""), ("B", "")]⟩, [("A", .ofText "$B$")], policy⟩

theorem substitute_eq_filled_insertedToken :
    (Cut.token [] "Z" (.token ['A'] "A" (.done []))).Leftmost ∧
    (insertedToken .all).substitute .identifier "$Z$A$A$" = .ok (some "$Z$A$B$") ∧
    (insertedToken .first).substitute .identifier "$Z$A$A$" = .ok none ∧
    (insertedToken .all).substitute .literal "$A$$B$" = .error (.missingArgument "B") := by
  have hcut : Cut.token [] "Z" (.token ['A'] "A" (.done [])) = Cut.ofSegments (segments "$Z$A$A$".toList) := by
    decide +kernel
  obtain ⟨htext, hleft⟩ := eq_ofSegments_segments_iff.1 hcut
  have hadjacent : Cut.token [] "A" (.token [] "B" (.done [])) = Cut.ofSegments (segments "$A$$B$".toList) := by
    decide +kernel
  obtain ⟨hadjacentText, hadjacentLeft⟩ := eq_ofSegments_segments_iff.1 hadjacent
  have hresolves (flavor : Flavor) : (insertedToken .all).Resolves flavor "A" "$B$" :=
    ⟨.ofText "$B$", rfl, by cases flavor <;> rfl⟩
  have hfirst : (insertedToken .all).FirstUnresolved .literal ["A", "B"] (.missingArgument "B") := by
    refine ⟨["A"], "B", [], rfl, by decide +kernel, .missing rfl, fun earlier hm _ => ⟨"$B$", ?_⟩⟩
    obtain rfl : earlier = "A" := by simpa using hm
    exact hresolves .literal
  refine ⟨hleft, ?_, ?_, ?_⟩
  · refine ((substitute_eq_filled (insertedToken .all) .identifier _).2 _ htext hleft).2.1 (fun _ => "$B$")
      ⟨"A", by decide +kernel, by decide +kernel⟩ ?_
    rintro name ⟨hm, hname⟩
    rcases List.mem_pair.1 hm with rfl | rfl
    · cases hname
    · exact hresolves .identifier
  · refine ((substitute_eq_filled (insertedToken .first) .identifier _).2 _ htext hleft).1.2 ?_
    rintro name ⟨hm, hname⟩
    obtain rfl : name = "Z" := List.mem_singleton.1 hm
    cases hname
  · exact ((substitute_eq_filled (insertedToken .all) .literal _).2 _ hadjacentText hadjacentLeft).2.2.2 _ hfirst

end Scope

end Stencil
