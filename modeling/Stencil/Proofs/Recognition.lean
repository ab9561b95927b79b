import Stencil.Proofs.Declarations
import Stencil.Proofs.Duplicates
/-!
# Recognising tokens

A token is recognised in three places, each by a rule of its own. Where a whole expression or statement is wanted, the
text of an identifier must be one token; in names and literals tokens are looked for inside the text; and a comment
declares a name that is to stand in tokens. The three agree. A text is one token if and only if the first token found
in it spans it (`whole?_eq_some_iff_spans`), and every name that a comment declares makes a token that is recognised
(`isName_of_ofComments`). `wholeToken_iff_spans` puts this together for declared placeholders.
-/

namespace Stencil

namespace Token

/-! ## Tokens with their places -/

/-- A token that is found in a text: where it begins, where it ends, and its name. -/
structure Found where
  start : Nat
  stop : Nat
  name : String
deriving DecidableEq, Repr

namespace Found

/-- A token spans a text if it leaves nothing of it in front or behind. -/
def Spans (token : Found) (text : String) : Prop := token.start = 0 ∧ token.stop = text.length

instance (token : Found) (text : String) : Decidable (token.Spans text) := inferInstanceAs (Decidable (_ ∧ _))

/-- A token stands in a text at its place. -/
def Stands (token : Found) (text : List Char) : Prop :=
  ∃ before after, text = before ++ (Token.text token.name).toList ++ after ∧ token.start = before.length ∧
    token.stop = before.length + (Token.text token.name).length

end Found

/-- The tokens among pieces, with so many characters in front of these. -/
def foundFrom (start : Nat) : List Segment → List Found
  | [] => []
  | .char _ :: rest => foundFrom (start + 1) rest
  | .token name :: rest =>
    let stop := start + (text name).length
    ⟨start, stop, name⟩ :: foundFrom stop rest

/-- The tokens that are found in a text, from the left. -/
def found (text : String) : List Found := foundFrom 0 (segments text.toList)

/-- No token is passed over, and none comes in. -/
theorem map_name_foundFrom (start : Nat) (pieces : List Segment) :
    (foundFrom start pieces).map Found.name = tokens pieces := by
  induction pieces generalizing start with
  | nil => rfl
  | cons piece rest ih => cases piece <;> simp [foundFrom, ih]

theorem stands_of_mem_foundFrom {front : List Char} {pieces : List Segment} {token : Found}
    (h : token ∈ foundFrom front.length pieces) : token.Stands (front ++ Scope.verbatim pieces) := by
  -- along the pieces, each of which goes to what stands in front of the next one
  induction pieces generalizing front with
  | nil => cases h
  | cons piece rest ih =>
    have hfront : front ++ Scope.verbatim (piece :: rest) = front ++ piece.text ++ Scope.verbatim rest := by
      simp [Scope.verbatim]
    rw [hfront]
    cases piece with
    | char c => exact ih (by simpa [Segment.text, foundFrom] using h)
    | token name =>
      rcases List.mem_cons.1 h with rfl | hrest
      · exact ⟨front, Scope.verbatim rest, rfl, rfl, rfl⟩
      · exact ih (by simpa [Segment.text, String.length_toList] using hrest)

/-- Every token that is found stands in the text where it was found. -/
theorem stands_of_mem_found {text : String} {token : Found} (h : token ∈ found text) : token.Stands text.toList := by
  have hverbatim : Scope.verbatim (segments text.toList) = text.toList := by
    rw [← Cut.text_ofSegments, (cut_segments text.toList).1]
  have hstands : token.Stands ([] ++ Scope.verbatim (segments text.toList)) := stands_of_mem_foundFrom h
  rwa [List.nil_append, hverbatim] at hstands

theorem Cut.Leftmost.isName {cut : Cut} (h : cut.Leftmost) : ∀ name ∈ cut.names, IsName name := by
  induction cut with
  | done tail => exact fun _ hm => by cases hm
  | token front name behind ih =>
    obtain ⟨hname, -, hbehind⟩ := h
    exact List.forall_mem_cons.2 ⟨hname, ih hbehind⟩

theorem isName_of_mem_found {text : String} {token : Found} (h : token ∈ found text) : IsName token.name := by
  refine (cut_segments text.toList).2.isName _ ?_
  rw [Cut.names_ofSegments, ← map_name_foundFrom 0]
  exact List.mem_map_of_mem h

/-! ## A text that is one token -/

/-- A token that spans a text is all of it. -/
theorem Found.Spans.eq_text {text : String} {token : Found} (h : token.Spans text) (hm : token ∈ found text) :
    text = Token.text token.name := by
  obtain ⟨before, after, htext, hstart, hstop⟩ := stands_of_mem_found hm
  have hbefore : before = [] := List.length_eq_zero_iff.1 (hstart.symm.trans h.1)
  have hlength : text.length = (Token.text token.name).length + after.length := by
    rw [← String.length_toList, htext, hbefore, List.nil_append, List.length_append, String.length_toList]
  have hafter : after = [] := by
    rw [h.2, hbefore, List.length_nil] at hstop
    exact List.length_eq_zero_iff.1 (by omega)
  rw [hbefore, hafter, List.nil_append, List.append_nil] at htext
  exact String.toList_inj.1 htext

theorem found_text {name : String} (h : IsName name) :
    found (Token.text name) = [⟨0, (Token.text name).length, name⟩] := by
  simp [found, segments_text h, foundFrom]

/-- A text is one token and nothing else if and only if the first token that is found in it spans it. -/
theorem whole?_eq_some_iff_spans {text name : String} :
    whole? text = some name ↔ ∃ token, (found text).head? = some token ∧ token.Spans text ∧ token.name = name := by
  rw [whole?_eq_some_iff]
  constructor
  · rintro ⟨hname, rfl⟩
    rw [found_text hname]
    exact ⟨_, rfl, ⟨rfl, rfl⟩, rfl⟩
  · rintro ⟨token, hhead, hspans, rfl⟩
    have hm : token ∈ found text := List.mem_of_mem_head? hhead
    exact ⟨isName_of_mem_found hm, hspans.eq_text hm⟩

end Token

/-! ## Declared names -/

/-- Whatever the directive is, a declared name can stand in a token. -/
theorem Declaration.isName_of_ofComment? {directive comment : String} {d : Declaration}
    (h : ofComment? directive comment = some d) : Token.IsName d.name := by
  obtain ⟨count, -, hcount⟩ := List.exists_of_findSome?_eq_some h
  obtain ⟨rest, ⟨gap, tail, -, -, hname, -⟩, -⟩ := fromDirective?_eq_some_iff.1 hcount
  exact hname

namespace Registry

theorem isName_of_ofComments {r : Registry} {options : Options} {comments : List String} {name : String}
    (h : (ofComments options comments).result = .ok r) (hname : r.contains name = true) : Token.IsName name := by
  have hdeclared := ((listsLast_of_ofComments h).mem_names name).1 (contains_iff.1 hname)
  obtain ⟨d, hd, rfl⟩ := Declaration.mem_names_iff.1 hdeclared
  obtain ⟨comment, -, hcomment⟩ := List.mem_filterMap.1 hd
  exact Declaration.isName_of_ofComment? hcomment

/-- For every registry: a text is the token of a declared placeholder if and only if the name is declared and the first
token found in the text spans it and has that name. Then it is the only token in the text, and replacing the tokens of
the text gives what the argument gives for the flavor, a text or an error, under both policies. And every name that
comments declare is recognised between two dollar signs. -/
theorem wholeToken_iff_spans (r : Registry) :
    (∀ text name, r.wholeToken? text = some name ↔ r.contains name = true ∧
      ∃ token, (Token.found text).head? = some token ∧ token.Spans text ∧ token.name = name) ∧
    (∀ text name, r.wholeToken? text = some name →
      text = "$" ++ name ++ "$" ∧ Token.found text = [⟨0, text.length, name⟩] ∧
      ∀ arguments policy flavor, let scope : Scope := ⟨r, arguments, policy⟩
        scope.substitute flavor text = (scope.textOf flavor name).map some) ∧
    ∀ options comments, (ofComments options comments).result = .ok r →
      ∀ name, r.contains name = true → r.wholeToken? ("$" ++ name ++ "$") = some name := by
  refine ⟨fun text name => ?_, fun text name h => ?_, fun options comments h name hname => ?_⟩
  · rw [wholeToken?_eq_some_iff, Token.whole?_eq_some_iff_spans]
  · obtain ⟨hname, rfl⟩ := Token.whole?_eq_some_iff.1 (wholeToken?_eq_some_iff.1 h).2
    exact ⟨rfl, Token.found_text hname, fun _ _ _ => Scope.substitute_eq_of_wholeToken? h⟩
  · exact wholeToken?_eq_some_iff.2 ⟨hname, Token.whole?_eq_some_iff.2 ⟨isName_of_ofComments h hname, rfl⟩⟩

/-- A name of other letters than ASCII ones, and one whose argument gives its own token back. -/
def lettered : Registry := ⟨[("Δ_1", "delta"), ("A", "")]⟩

theorem wholeToken_iff_spans_lettered :
    (ofComments {} [" @ming Δ_1 delta", " @ming A"]).result = .ok lettered ∧
    lettered.wholeToken? "$Δ_1$" = some "Δ_1" ∧
    lettered.wholeToken? "$$A$" = none ∧ lettered.wholeToken? "$A$\n" = none ∧ lettered.wholeToken? "$B$" = none ∧
    (⟨lettered, [("A", .ofText "$A$")], .first⟩ : Scope).substitute .literal "$A$" = .ok (some "$A$") ∧
    (⟨lettered, [], .all⟩ : Scope).substitute .identifier "$A$" = .error (.missingArgument "A") := by
  have hcomments : (ofComments {} [" @ming Δ_1 delta", " @ming A"]).result = .ok lettered := by decide +kernel
  have hnone (text : String) (h : ∀ token ∈ Token.found text, lettered.contains token.name = true →
      ¬ token.Spans text) : lettered.wholeToken? text = none := by
    refine Option.eq_none_iff_forall_ne_some.2 fun name hname => ?_
    obtain ⟨hdeclared, token, hhead, hspans, rfl⟩ := ((wholeToken_iff_spans lettered).1 text name).1 hname
    exact h token (List.mem_of_mem_head? hhead) hdeclared hspans
  have hwhole := (wholeToken_iff_spans lettered).2.2 {} _ hcomments "A" (by decide +kernel)
  have hsubstitute := ((wholeToken_iff_spans lettered).2.1 _ _ hwhole).2.2
  exact ⟨hcomments, (wholeToken_iff_spans lettered).2.2 {} _ hcomments "Δ_1" (by decide +kernel),
    hnone _ (by decide +kernel), hnone _ (by decide +kernel), hnone _ (by decide +kernel),
    hsubstitute _ .first .literal, hsubstitute [] .all .identifier⟩

end Registry

end Stencil
