import Stencil.Proofs.Journal
import Stencil.Replacer
/-!
# Tokens in names and literals

What a token is, what becomes of a text whose tokens are replaced, and where an error of that comes from. A policy looks at all tokens
of a text or at the first one. Where no token that it looks at names a declared placeholder, the text stays
(`substituteSegments_undeclared`); otherwise the error, if there is one, is that of the first declared placeholder
among them that gives no text (`substituteSegments_error_iff`). Names and literals are such texts.
-/

namespace Stencil

open Script

namespace Token

/-- The name of a piece that is a token. -/
def Segment.name? : Segment → Option String
  | .char _ => none
  | .token name => some name

/-- The names of the tokens among pieces of a text, from the left. -/
def tokens (segments : List Segment) : List String := segments.filterMap Segment.name?

/-- The names of the tokens in a text, from the left. -/
def names (text : String) : List String := tokens (segments text.toList)

@[simp] theorem tokens_nil : tokens [] = [] := rfl

@[simp] theorem tokens_char (c : Char) (rest : List Segment) : tokens (.char c :: rest) = tokens rest := rfl

@[simp] theorem tokens_token (name : String) (rest : List Segment) :
    tokens (.token name :: rest) = name :: tokens rest := rfl

theorem mem_of_mem_tokens {segments : List Segment} {name : String} (h : name ∈ tokens segments) :
    .token name ∈ segments := by
  obtain ⟨segment, hm, hname⟩ := List.mem_filterMap.1 h
  cases segment <;> cases hname
  exact hm

/-! ## Reading a token -/

/-- A name that a token may hold: one or more word characters. -/
def IsName (name : String) : Prop := name.toList ≠ [] ∧ ∀ c ∈ name.toList, Text.isWord c = true

theorem text_toList (name : String) : (Token.text name).toList = '$' :: (name.toList ++ ['$']) := by
  simp [Token.text]

/-- The name of a token ends at its second dollar sign, which is no word character. -/
theorem takeWhile_name {name : String} (h : IsName name) (rest : List Char) :
    (name.toList ++ '$' :: rest).takeWhile Text.isWord = name.toList := by
  have hdollar : Text.isWord '$' = false := by decide +kernel
  rw [List.takeWhile_append_of_pos h.2, List.takeWhile_cons_of_neg (by simp [hdollar]), List.append_nil]

theorem segments_of_token {name : String} (h : IsName name) (rest : List Char) :
    segments ((Token.text name).toList ++ rest) = .token name :: segments rest := by
  have htext : (Token.text name).toList ++ rest = '$' :: (name.toList ++ '$' :: rest) := by simp [text_toList]
  rw [htext, segments]
  simp only [takeWhile_name h]
  rw [if_pos ⟨trivial, h.1, by simp⟩]
  simp

/-- Word characters between two dollar signs are a token. -/
theorem token_of_takeWhile {rest behind : List Char} (hne : rest.takeWhile Text.isWord ≠ [])
    (hbehind : rest.drop (rest.takeWhile Text.isWord).length = '$' :: behind) :
    IsName (String.ofList (rest.takeWhile Text.isWord)) ∧
      '$' :: rest = (Token.text (String.ofList (rest.takeWhile Text.isWord))).toList ++ behind := by
  refine ⟨⟨by simpa using hne, ?_⟩, ?_⟩
  · rw [String.toList_ofList]
    exact List.all_eq_true.1 List.all_takeWhile
  · rw [text_toList, String.toList_ofList, List.cons_append, List.append_assoc, List.singleton_append, ← hbehind,
      List.prefix_iff_eq_append.1 (List.takeWhile_prefix _)]

/-- What is one token and nothing else: a name between two dollar signs. -/
theorem whole?_eq_some_iff {text name : String} : whole? text = some name ↔ IsName name ∧ text = Token.text name := by
  constructor
  · intro h
    unfold whole? at h
    split at h
    · cases h
    · rename_i c rest htext
      obtain ⟨⟨rfl, hne, hend⟩, heq⟩ := Option.ite_none_right_eq_some.1 h
      cases heq
      obtain ⟨hname, hrest⟩ := token_of_takeWhile hne hend
      rw [List.append_nil, ← htext] at hrest
      exact ⟨hname, String.toList_inj.1 hrest⟩
  · rintro ⟨hname, rfl⟩
    simp only [whole?, text_toList, takeWhile_name hname]
    rw [if_pos ⟨trivial, hname.1, by simp⟩, String.ofList_toList]

theorem segments_text {name : String} (h : IsName name) : segments (Token.text name).toList = [.token name] := by
  rw [← List.append_nil (Token.text name).toList, segments_of_token h, segments]

end Token

/-- The tokens of a text that a policy looks at. -/
def SubstitutionPolicy.considered : SubstitutionPolicy → List String → List String
  | .all, names => names
  | .first, names => names.take 1

theorem SubstitutionPolicy.mem_of_mem_considered {policy : SubstitutionPolicy} {names : List String} {name : String}
    (h : name ∈ policy.considered names) : name ∈ names := by
  cases policy with
  | all => exact h
  | first => exact List.mem_of_mem_take h

namespace Script.Node

/-- The name of an identifier, in whatever role it stands. -/
def identifier? : Node → Option String
  | .ref id | .binding id | .name id | .shorthand id => some id
  | _ => none

/-- The text of a leaf in which tokens are looked for: a name, or the value of a literal. -/
def writing? : Node → Option String
  | .text value _ => some value
  | tree => tree.identifier?

/-- A leaf in whose text the token of a name stands. -/
inductive HoldsToken : Node → String → Prop
  | identifier {leaf id name} (hid : leaf.identifier? = some id) (h : .token name ∈ Token.segments id.toList) :
      HoldsToken leaf name
  | literal {value raw name} (h : .token name ∈ Token.segments value.toList) : HoldsToken (.text value raw) name

end Script.Node

namespace Scope

variable {scope : Scope}

/-- A text that names a declared placeholder as a whole is its token and nothing else. -/
theorem segments_of_wholeToken? {r : Registry} {text name : String} (h : r.wholeToken? text = some name) :
    Token.segments text.toList = [.token name] ∧ r.contains name = true := by
  obtain ⟨hcontains, hwhole⟩ := Registry.wholeToken?_eq_some_iff.1 h
  obtain ⟨hname, rfl⟩ := Token.whole?_eq_some_iff.1 hwhole
  exact ⟨Token.segments_text hname, hcontains⟩

theorem token_mem_of_wholeToken? {r : Registry} {text name : String} (h : r.wholeToken? text = some name) :
    .token name ∈ Token.segments text.toList := by
  simp [(segments_of_wholeToken? h).1]

/-! ## Results -/

/-- A name stays, or becomes what replacing its tokens gives. -/
theorem rename_ok_cases {what id new : String} (h : (scope.rename what id).result = .ok new) :
    scope.substitute .identifier id = .ok none ∧ new = id ∨ scope.substitute .identifier id = .ok (some new) := by
  simp only [rename, Logged.bind_result, Logged.lift_result, Logged.except_bind_ok_iff] at h
  obtain ⟨result, hs, h⟩ := h
  cases result with
  | none =>
    cases h
    exact .inl ⟨hs, rfl⟩
  | some renamed =>
    simp only [Logged.bind_result, Logged.trace_result, Logged.except_ok_bind, Logged.pure_result,
      Except.ok.injEq] at h
    exact .inr (h ▸ hs)

theorem substituteSegments_undeclared (flavor : Flavor) {segments : List Token.Segment}
    (h : ∀ name ∈ scope.policy.considered (Token.tokens segments), scope.registry.contains name = false) :
    scope.substituteSegments flavor segments = .ok ⟨verbatim segments, false⟩ := by
  induction segments with
  | nil => rfl
  | cons segment rest ih =>
    cases segment with
    | char c =>
      rw [substituteSegments, ih h]
      rfl
    | token name =>
      cases hpolicy : scope.policy with
      | all =>
        simp only [hpolicy, SubstitutionPolicy.considered, Token.tokens_token, List.forall_mem_cons] at h ih
        simp only [substituteSegments, h.1, hpolicy, ih h.2]
        rfl
      | first =>
        have hname : scope.registry.contains name = false :=
          h name (by simp [hpolicy, SubstitutionPolicy.considered])
        simp only [substituteSegments, hname, hpolicy]
        rfl

/-- A text stays if no token in it that the policy looks at names a declared placeholder. -/
theorem substitute_undeclared {flavor : Flavor} {text : String}
    (h : ∀ name ∈ scope.policy.considered (Token.names text), scope.registry.contains name = false) :
    scope.substitute flavor text = .ok none := by
  simp [substitute, substituteSegments_undeclared flavor h]

/-- The token of a declared placeholder becomes what its argument gives, a text or an error, whatever the policy. -/
theorem substitute_eq_of_wholeToken? {flavor : Flavor} {id name : String}
    (h : scope.registry.wholeToken? id = some name) :
    scope.substitute flavor id = (scope.textOf flavor name).map some := by
  obtain ⟨hsegments, hname⟩ := segments_of_wholeToken? h
  cases ht : scope.textOf flavor name with
  | error e => simp [substitute, hsegments, substituteSegments, hname, ht, bind, Except.bind, Except.map]
  | ok text =>
    cases hpolicy : scope.policy <;>
      simp [substitute, hsegments, substituteSegments, hname, ht, hpolicy, Substituted.prepend, verbatim, Except.map]

theorem substitute_wholeToken {flavor : Flavor} {id name text : String}
    (h : scope.registry.wholeToken? id = some name) (ht : scope.textOf flavor name = .ok text) :
    scope.substitute flavor id = .ok (some text) := by
  rw [substitute_eq_of_wholeToken? h, ht]
  rfl

/-! ## Errors -/

/-- The error of a declared placeholder that gives no text. -/
def failure? (scope : Scope) (flavor : Flavor) (name : String) : Option Error :=
  if scope.registry.contains name then
    match scope.textOf flavor name with
    | .ok _ => none
    | .error e => some e
  else none

theorem failure?_eq_some_iff {flavor : Flavor} {name : String} {e : Error} :
    scope.failure? flavor name = some e ↔
      scope.registry.contains name = true ∧ scope.textOf flavor name = .error e := by
  unfold failure?
  split
  · rename_i hname
    cases scope.textOf flavor name <;> simp [hname]
  · rename_i hname
    simp [hname]

/-- An error is that of the first declared placeholder, among the tokens that the policy looks at, that gives no
text. -/
theorem substituteSegments_error_iff {flavor : Flavor} {segments : List Token.Segment} {e : Error} :
    scope.substituteSegments flavor segments = .error e ↔
      (scope.policy.considered (Token.tokens segments)).findSome? (scope.failure? flavor) = some e := by
  induction segments with
  | nil => cases scope.policy <;> simp [substituteSegments, SubstitutionPolicy.considered]
  | cons segment rest ih =>
    have hrest : ∀ f : Substituted → Substituted, (do return f (← scope.substituteSegments flavor rest)) = .error e ↔
        scope.substituteSegments flavor rest = .error e := by
      intro f
      simp [Logged.except_bind_error_iff, pure, Except.pure]
    cases segment with
    | char c => exact (hrest _).trans ih
    | token name =>
      simp only [substituteSegments]
      -- the token itself comes first, and under the policy `all` what is behind it follows
      cases hpolicy : scope.policy with
      | all =>
        simp only [hpolicy, SubstitutionPolicy.considered] at ih
        simp only [SubstitutionPolicy.considered, Token.tokens_token, List.findSome?_cons, failure?]
        split <;> rename_i hname
        · cases scope.textOf flavor name with
          | error e' => simp [bind, Except.bind]
          | ok text => exact (hrest _).trans ih
        · exact (hrest _).trans ih
      | first =>
        simp only [SubstitutionPolicy.considered, Token.tokens_token, List.take_succ_cons, List.take_zero,
          List.findSome?_cons, List.findSome?_nil, failure?]
        split <;> rename_i hname
        · cases scope.textOf flavor name <;> simp [bind, Except.bind, pure, Except.pure]
        · simp [bind, Except.bind, pure, Except.pure]

theorem substitute_error_iff {flavor : Flavor} {text : String} {e : Error} :
    scope.substitute flavor text = .error e ↔
      (scope.policy.considered (Token.names text)).findSome? (scope.failure? flavor) = some e := by
  rw [Token.names, ← substituteSegments_error_iff]
  simp [substitute, Logged.except_bind_error_iff, pure, Except.pure]

/-- The text of a declared placeholder is asked for only where its token stands. -/
theorem substitute_error {flavor : Flavor} {text : String} {e : Error} (h : scope.substitute flavor text = .error e) :
    ∃ name, .token name ∈ Token.segments text.toList ∧ scope.registry.contains name = true ∧
      scope.textOf flavor name = .error e := by
  obtain ⟨before, name, after, heq, hname, -⟩ := List.findSome?_eq_some_iff.1 (substitute_error_iff.1 h)
  have hm : name ∈ scope.policy.considered (Token.names text) := by simp [heq]
  exact ⟨name, Token.mem_of_mem_tokens (SubstitutionPolicy.mem_of_mem_considered hm), failure?_eq_some_iff.1 hname⟩

/-- Where every declared placeholder has a text, tokens can be replaced in all texts. -/
theorem substitute_ok_of_textOf {flavor : Flavor}
    (h : ∀ name ∈ scope.registry.names, ∃ text, scope.textOf flavor name = .ok text) (text : String) :
    ∃ new, scope.substitute flavor text = .ok new := by
  cases hs : scope.substitute flavor text with
  | ok new => exact ⟨new, rfl⟩
  | error e =>
    obtain ⟨name, -, hname, he⟩ := substitute_error hs
    obtain ⟨text', ht⟩ := h name (Registry.contains_iff.1 hname)
    rw [ht] at he
    cases he

theorem rename_error {what id : String} {e : Error} (h : (scope.rename what id).result = .error e) :
    scope.substitute .identifier id = .error e := by
  simp only [rename, Logged.bind_result, Logged.lift_result, Logged.except_bind_error_iff] at h
  rcases h with h | ⟨result, -, h⟩
  · exact h
  · cases result <;> cases h

theorem replaceInLiteral_error {value : String} {raw : Option String} {e : Error}
    (h : (scope.replaceInLiteral value raw).result = .error e) : scope.substitute .literal value = .error e := by
  simp only [replaceInLiteral, Logged.bind_result, Logged.lift_result, Logged.except_bind_error_iff] at h
  rcases h with h | ⟨result, -, h⟩
  · exact h
  · cases result with
    | none => cases h
    | some changed =>
      simp only at h
      split at h <;> cases h

end Scope

end Stencil
