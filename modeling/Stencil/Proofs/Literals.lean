import Stencil.Proofs.Quoting
import Stencil.Proofs.Reading.Scripts
import Stencil.Proofs.Visits
import Stencil.Script.Print.Node
/-!
# Values and spellings of literals

The literals of a script that is read are coherent: the value of each is read back from its spelling. What is put in
the place of a token changes both, and `walk_coherent` says that they stay together. Indented output shows the spelling
and minified output quotes the value anew, so from both the value is read back, in minified output unless a backslash of
the value begins the escape of a surrogate (`render_coherent`). There the two outputs differ
(`render_surrogateEscape_not_readBack`).
-/

namespace Stencil

open Script

namespace Script.Node

/-- A literal is written as one from which a value is read back. -/
def PrintsAs (minify : Bool) (literal : Node) (value : String) : Prop :=
  ∃ text, literal.layout minify = .text text ∧ stringValue? text.toList = some value.toList

theorem printsAs_indented {value raw : String} (h : (Node.text value (some raw)).Coherent) :
    (Node.text value (some raw)).PrintsAs false value :=
  ⟨raw, rfl, h⟩

/-- Minified, a literal is quoted anew, but for one that makes code strict and is spelled with a backslash. -/
theorem printsAs_minified {value raw : String} (h : (Node.text value (some raw)).Coherent)
    (hplain : Quoted.Plain value.toList) : (Node.text value (some raw)).PrintsAs true value := by
  unfold PrintsAs
  simp only [layout, Print.string]
  split
  · exact ⟨raw, rfl, h⟩
  · exact ⟨_, rfl, Quoted.stringValue?_short hplain⟩

end Script.Node

namespace Scope

open Node

variable {scope : Scope}

/-! ## What the walk keeps -/

theorem coherent_replaceInLiteral {value : String} {raw : Option String} {new : String × Option String}
    (h : (scope.replaceInLiteral value raw).result = .ok new) (hcoherent : (Node.text value raw).Coherent) :
    (Node.text new.1 new.2).Coherent := by
  simp only [replaceInLiteral, Logged.bind_result, Logged.lift_result, Logged.except_bind_ok_iff] at h
  obtain ⟨result, -, h⟩ := h
  cases result with
  | none =>
    cases h
    exact hcoherent
  | some changed =>
    simp only at h
    split at h
    · cases h
      exact hcoherent
    · cases h
      exact Quoted.stringValue?_single changed

/-- Arguments are read as scripts. -/
theorem argumentScripts_coherent (scope : Scope) : scope.ArgumentScripts (Everywhere Coherent) :=
  fun _ _ _ _ _ _ _ _ => coherent_of_parse

theorem coherent_spliced {place : Place} {name : String} {r : Node} (h : scope.spliced place name = .ok r) :
    r.Everywhere Coherent := by
  obtain ⟨script, hscript, hcases⟩ := spliced_script scope.argumentScripts_coherent h
  have hparts : ∀ s ∈ script.parts, Everywhere Coherent s := fun s hm => hscript.part hm
  rcases hcases with ⟨-, rfl⟩ | ⟨-, rfl⟩
  · exact everywhere_asStatement hparts trivial
  · have hinvoked : (Argument.invoked script.parts).Everywhere Coherent := by
      refine everywhere_node.2 ⟨trivial, List.forall_mem_singleton.2 (everywhere_node.2 ⟨trivial, ?_⟩)⟩
      refine List.forall_mem_singleton.2 (everywhere_node.2 ⟨trivial, ?_⟩)
      simp only [List.mem_cons, List.not_mem_nil, or_false, forall_eq_or_imp, forall_eq]
      exact ⟨trivial, ⟨trivial, trivial⟩, everywhere_node.2 ⟨trivial, hparts⟩⟩
    exact everywhere_guardPrecedence (everywhere_asExpression hparts (fun _ _ h => h) hinvoked) trivial

/-- Whatever is put in, the spellings of all literals stay spellings of their values. -/
theorem walk_coherent {stack : List String} {tree out : Node} (h : (scope.walk stack tree).result = .ok out)
    (htree : tree.Everywhere Coherent) : out.Everywhere Coherent := by
  refine walk_ok_induction (P := fun _ tree out => tree.Everywhere Coherent → out.Everywhere Coherent)
    ?leaf ?splice ?ref ?binding ?name ?text ?split ?shorthand ?atom ?node h htree
  case leaf => exact fun _ _ _ _ _ _ _ hr _ _ => coherent_spliced hr
  case splice => exact fun _ _ _ _ _ _ _ _ hr _ _ ih _ => ih (coherent_spliced hr)
  case split => exact fun _ _ _ _ _ ih _ => ih ⟨trivial, trivial, trivial, trivial⟩
  case text => exact fun _ _ _ _ hn hcoherent => coherent_replaceInLiteral hn hcoherent
  case node =>
    intro stack kind parts outs _ hparts hcoherent
    refine (everywhere_reassemble fun _ _ _ _ _ => trivial).2 ⟨?_, fun out hm => ?_⟩
    · rcases reassemble_cases kind outs with heq | ⟨_, _, _, _, _, heq⟩ <;> rw [heq] <;> trivial
    · obtain ⟨part, hpart, -, ih⟩ := forall₂_mem_right hparts hm
      exact ih ((everywhere_node.1 hcoherent).2 part hpart)
  all_goals intros; trivial

/-- All literals of a script that is read are coherent, in a template as in an argument. If those of a script are, so
are those of what it is rendered to. From the indented output the value of each is read back, and from the minified
output too, unless a backslash of the value begins the escape of a surrogate. -/
theorem render_coherent (scope : Scope) :
    (∀ source allowsReturn parsed, Script.parse source allowsReturn = .ok parsed →
      parsed.script.Everywhere Coherent) ∧
    ∀ script out, script.Everywhere Coherent → (scope.render script).result = .ok out →
      out.Everywhere Coherent ∧
      out.Everywhere fun node => ∀ value raw, node = .text value (some raw) →
        node.PrintsAs false value ∧ (Quoted.Plain value.toList → node.PrintsAs true value) := by
  refine ⟨fun _ _ _ => coherent_of_parse, fun script out hscript h => ?_⟩
  have hout : out.Everywhere Coherent := walk_coherent h hscript
  refine ⟨hout, hout.imp ?_ out⟩
  rintro _ hnode value raw rfl
  exact ⟨printsAs_indented hnode, printsAs_minified hnode⟩

/-- A placeholder inside a literal and as an expression. -/
def greeting : Node :=
  .ofStatements [.statement (.node (.call .plain) [.ref "f", .text "to $L$" (some "\"to $L$\""), .ref "$L$"])]

/-- An argument with what a literal has to escape, and with a literal of its own. -/
def escapedArgument : Scope :=
  ⟨⟨[("L", "")]⟩, [("L", .ofFlavors [(.literal, "a\\'\n\u2028\x007"), (.default, "'it\\'s'")])], .all⟩

/-- The call that comes out. -/
def escapedGreeting : Node :=
  .ofStatements [.statement (.node (.call .plain) [.ref "f",
    .text "to a\\'\n\u2028\x007" (some "'to a\\\\\\'\\n\\u2028\\x007'"), .text "it's" (some "'it\\'s'")])]

theorem render_greeting :
    (∃ parsed, Script.parse "f(\"to $L$\", $L$);" false = .ok parsed ∧ parsed.script = greeting) ∧
    greeting.Everywhere Coherent ∧ (escapedArgument.render greeting).result = .ok escapedGreeting ∧
    escapedGreeting.Everywhere Coherent ∧ (Node.text "it's" (some "'it\\'s'")).PrintsAs false "it's" ∧
    (Node.text "it's" (some "'it\\'s'")).PrintsAs true "it's" := by
  obtain ⟨hparse, hwalk⟩ := render_coherent escapedArgument
  have hread : ∃ parsed, Script.parse "f(\"to $L$\", $L$);" false = .ok parsed ∧ parsed.script = greeting := by
    have hfound : (Script.parse "f(\"to $L$\", $L$);" false).toOption.map Parsed.script = some greeting := by
      decide +kernel
    cases hresult : Script.parse "f(\"to $L$\", $L$);" false with
    | error e =>
      rw [hresult] at hfound
      cases hfound
    | ok parsed =>
      rw [hresult] at hfound
      exact ⟨parsed, rfl, Option.some.inj hfound⟩
  obtain ⟨parsed, hparsed, heq⟩ := hread
  have hscript : greeting.Everywhere Coherent := heq ▸ hparse _ _ _ hparsed
  have hrender : (escapedArgument.render greeting).result = .ok escapedGreeting := by
    rw [render, walk_eq_iterate 10]
    decide +kernel
  obtain ⟨hout, hprints⟩ := hwalk greeting escapedGreeting hscript hrender
  obtain ⟨-, ⟨-, ⟨-, -, -, hliteral, -⟩, -⟩, -⟩ := hprints
  obtain ⟨hindented, hminified⟩ := hliteral _ _ rfl
  exact ⟨⟨parsed, hparsed, heq⟩, hscript, hrender, hout, hindented, hminified (by decide +kernel)⟩

/-- A text in which a backslash begins what looks like the escape of a surrogate. -/
def surrogateEscape : Scope := ⟨⟨[("L", "")]⟩, [("L", .ofText "\\u\x7bd83dx")], .all⟩

/-- A call with a placeholder inside a literal. -/
def literalCall (value raw : String) : Node :=
  .ofStatements [.statement (.node (.call .plain) [.ref "f", .text value (some raw)])]

theorem render_surrogateEscape_not_readBack :
    (literalCall "$L$" "'$L$'").Everywhere Coherent ∧ surrogateEscape.ArgumentScripts (Everywhere Coherent) ∧
    (surrogateEscape.render (literalCall "$L$" "'$L$'")).result =
      .ok (literalCall "\\u\x7bd83dx" "'\\\\u\x7bd83dx'") ∧
    (literalCall "\\u\x7bd83dx" "'\\\\u\x7bd83dx'").print false = "f('\\\\u\x7bd83dx');" ∧
    (literalCall "\\u\x7bd83dx" "'\\\\u\x7bd83dx'").print true = "f(\"\\u\x7bd83dx\");" ∧
    ¬ (Node.text "\\u\x7bd83dx" (some "'\\\\u\x7bd83dx'")).PrintsAs true "\\u\x7bd83dx" := by
  refine ⟨by decide +kernel, surrogateEscape.argumentScripts_coherent, ?_, by decide +kernel, by decide +kernel, ?_⟩
  · rw [render, walk_eq_iterate 10]
    decide +kernel
  · rintro ⟨text, hlayout, hvalue⟩
    -- quoted anew, the backslash stands as it is and begins an escape that does not end
    have hquoted : Quoted.short "\\u\x7bd83dx" = "\"\\u\x7bd83dx\"" := by decide +kernel
    simp only [layout, Print.string] at hlayout
    rw [if_neg (by decide +kernel), hquoted] at hlayout
    obtain rfl := Layout.text.inj hlayout
    exact absurd hvalue (by decide +kernel)

end Scope

end Stencil
