import Mathlib.Data.List.DropRight
import Stencil.Proofs.Reading.Returns
import Stencil.Script.Print.Node
/-!
# Texts that begin with a return

A text that begins with the word `return` has a `return` as its first statement, if it is read at all. Where that is
not allowed it is not read (`parse_error_of_leading_return`). A script whose first statement is a `return` is printed
as such a text (`print_leading_return`).
-/

namespace Stencil.Script

namespace Scan

/-- What is behind a word does not go on with it. -/
def EndsWord (rest : List Char) : Prop := ∀ c ∈ rest.head?, c ≠ '\\' ∧ Text.isIdentifierPart c = false

theorem wordBody_of_endsWord {rest : List Char} (h : EndsWord rest) : wordBody false rest = ⟨[], 0, false, true⟩ := by
  cases rest with
  | nil => simp [wordBody]
  | cons c rest =>
    obtain ⟨hescape, hpart⟩ := h c (by simp)
    rw [wordBody]
    · simp [hpart]
    · exact hescape

theorem wordBody_cons (first : Bool) {c : Char} (hescape : c ≠ '\\')
    (hc : (if first then Text.isIdentifierStart c else Text.isIdentifierPart c) = true) (rest : List Char) :
    wordBody first (c :: rest) = (wordBody false rest).prepend c 1 false := by
  rw [wordBody]
  · exact if_pos hc
  · exact hescape

/-- A word without escapes is read up to its end. -/
theorem wordBody_append {word rest : List Char} (hword : ∀ c ∈ word, c ≠ '\\' ∧ Text.isIdentifierPart c = true)
    (hrest : EndsWord rest) : wordBody false (word ++ rest) = ⟨word, word.length, false, true⟩ := by
  induction word with
  | nil => exact wordBody_of_endsWord hrest
  | cons c word ih =>
    obtain ⟨⟨hescape, hpart⟩, hword⟩ := List.forall_mem_cons.1 hword
    rw [List.cons_append, wordBody_cons false hescape hpart, ih hword]
    simp [WordBody.prepend, Nat.add_comm]

theorem lexeme_return {rest : List Char} (h : EndsWord rest) (strict afterLine : Bool) (offset : Nat) :
    (lexeme strict ⟨offset, "return".toList ++ rest⟩ afterLine).token = .word "return" false := by
  have hgap : gap ⟨offset, "return".toList ++ rest⟩ afterLine =
      ⟨⟨offset, "return".toList ++ rest⟩, afterLine, [], none⟩ := by
    simp [gap, gapFrom, Text.isLineEnd, Text.isScriptBlank, Text.isBlank]
  have hbody : wordBody true ("return".toList ++ rest) = ⟨"return".toList, 6, false, true⟩ := by
    have hword : ∀ c ∈ ['e', 't', 'u', 'r', 'n'], c ≠ '\\' ∧ Text.isIdentifierPart c = true := by
      simp [Text.isIdentifierPart]
    show wordBody true ('r' :: (['e', 't', 'u', 'r', 'n'] ++ rest)) = _
    rw [wordBody_cons true (by decide) rfl, wordBody_append hword h]
    rfl
  have htoken : tokenAt strict ⟨offset, "return".toList ++ rest⟩ = word ⟨offset, "return".toList ++ rest⟩ := by
    simp [tokenAt, Text.isIdentifierStart]
  simp only [lexeme, hgap, htoken, word, hbody]
  rfl

end Scan

namespace Grammar

variable {parse : Productions} {s s' : State}

/-! ## The first statement -/

theorem isLeft_of_token (h : s.current.token ≠ .done) : (do return !(← isDone) : Parse Bool) s = .ok true s := by
  have hdone : isDone s = .ok (decide (s.current.token = .done)) s := rfl
  rw [bind_of_ok hdone, decide_eq_false h]
  rfl

theorem returnStatement_ok {node : Node} (h : returnStatement parse s = .ok node s') :
    ∃ value, node = .node .returnStatement [value] := by
  have hend : ∀ {t} (start : Nat) (value : Node), (do
      expectSemicolon
      let c ← context
      if c.inStaticBlock || !(c.inFunction || c.allowsReturn) then record start .returnOutsideFunction
      return .node .returnStatement [value] : Parse Node) t = .ok node s' → node = .node .returnStatement [value] := by
    intro t start value h
    obtain ⟨_, _, -, h⟩ := bind_eq_ok_iff.1 h
    obtain ⟨c, _, -, h⟩ := bind_eq_ok_iff.1 h
    split at h
    · obtain ⟨_, _, -, h⟩ := bind_eq_ok_iff.1 h
      cases h
      rfl
    · cases h
      rfl
  unfold returnStatement at h
  obtain ⟨start, _, -, h⟩ := bind_eq_ok_iff.1 h
  obtain ⟨_, _, -, h⟩ := bind_eq_ok_iff.1 h
  obtain ⟨atEnd, _, -, h⟩ := bind_eq_ok_iff.1 h
  split at h
  · exact ⟨_, hend start _ h⟩
  · obtain ⟨value, _, -, h⟩ := bind_eq_ok_iff.1 h
    exact ⟨value, hend start value h⟩

theorem statement_eq_returnStatement (h : s.current.token = .word "return" false) (declares outermost : Bool) :
    statement parse declares outermost s = returnStatement parse s := by
  have hrequire : requireToken s = .ok (.word "return" false) s := by
    have htoken : token s = .ok (.word "return" false) s := by
      rw [← h]
      rfl
    rw [requireToken, bind_of_ok htoken]
    rfl
  rw [statement, bind_of_ok hrequire]
  rfl

/-- Where a body has statements, the first one is read from where the body begins. -/
theorem bodyStatements_first {test : Parse Bool} {statement : Parse Node} {statements : List Node}
    (htest : test s = .ok true s) (h : bodyStatements test statement s = .ok statements s') :
    ∃ first next, statement s = .ok first next ∧ first ∈ statements := by
  unfold bodyStatements at h
  rw [bind_of_ok htest, if_pos rfl] at h
  obtain ⟨start, _, hstart, h⟩ := bind_eq_ok_iff.1 h
  cases hstart
  obtain ⟨first, next, hfirst, h⟩ := bind_eq_ok_iff.1 h
  refine ⟨first, next, hfirst, ?_⟩
  have hrest : ∀ {t t' : State},
      (do return first :: (← many test statement) : Parse (List Node)) t = .ok statements t' →
        first ∈ statements := by
    intro t t' h
    obtain ⟨rest, _, -, h⟩ := bind_eq_ok_iff.1 h
    cases h
    exact List.mem_cons_self
  split at h
  · obtain ⟨_, h, -⟩ := within_ok h
    obtain ⟨_, _, -, h⟩ := bind_eq_ok_iff.1 h
    split at h
    · obtain ⟨_, _, -, h⟩ := bind_eq_ok_iff.1 h
      exact hrest h
    · exact hrest h
  · exact hrest h

end Grammar

/-! ## Scripts -/

open Grammar in
/-- A text that begins with a `return` is read as a script that returns, if it is read. -/
theorem returns_of_leading_return {source : String} {rest : List Char} {allowsReturn : Bool} {parsed : Parsed}
    (hsource : source.toList = "return".toList ++ rest) (hrest : Scan.EndsWord rest)
    (h : parse source allowsReturn = .ok parsed) : parsed.script.Returns id := by
  have hshebang : shebang? source.toList = none := by rw [hsource]; rfl
  have htoken : (State.initial source.toList 0 allowsReturn).current.token = .word "return" false := by
    rw [hsource]
    exact Scan.lexeme_return hrest false true 0
  simp only [parse, hshebang] at h
  split at h
  · cases h
  · rename_i statements final hrun
    have htest := isLeft_of_token (s := State.initial source.toList 0 allowsReturn) (by simp [htoken])
    obtain ⟨first, next, hfirst, hmem⟩ := bodyStatements_first htest hrun
    obtain ⟨value, rfl⟩ := returnStatement_ok ((statement_eq_returnStatement htoken true true).symm.trans hfirst)
    obtain ⟨i, hi⟩ := List.getElem?_of_mem hmem
    split at h <;> cases h
    exact .inside (List.mem_zipIdx_iff_getElem?.2 hi) rfl .here

/-- Where a `return` is not allowed, a text that begins with one is not read. -/
theorem parse_error_of_leading_return {source : String} {rest : List Char}
    (hsource : source.toList = "return".toList ++ rest) (hrest : Scan.EndsWord rest) :
    ∃ fault, parse source false = .error fault := by
  cases h : parse source false with
  | error fault => exact ⟨fault, rfl⟩
  | ok parsed => exact absurd (returns_of_leading_return hsource hrest h) (not_returns_of_parse h)

/-! ## What is printed -/

/-- Trimming leaves a word alone, and takes what is behind it from the end only. -/
theorem trimEnd_return {text : String} {tail : List Char} (h : text.toList = "return".toList ++ tail) :
    ∃ rest, (Text.trimEnd text).toList = "return".toList ++ rest ∧ rest <+: tail := by
  refine ⟨tail.rdropWhile Text.isBlank, ?_, List.rdropWhile_prefix Text.isBlank tail⟩
  have hword : "return".toList.reverse.dropWhile Text.isBlank = "return".toList.reverse := by decide
  rw [Text.trimEnd, String.toList_ofList, h, List.reverse_append, List.dropWhile_append, List.rdropWhile]
  split
  · rename_i hblank
    rw [List.isEmpty_iff.1 hblank, hword]
    simp
  · simp

/-- What is on a page stays at the front of it. -/
theorem Layout.write_prefix (l : Layout) (level : Nat) (page : Page) :
    page.written.toList <+: (l.write level page).written.toList := by
  induction l generalizing level page with
  | nothing => exact List.prefix_rfl
  | text s =>
    simp only [write, Page.put]
    split
    · exact List.prefix_rfl
    · split <;> simp
  | line =>
    simp only [write, Page.endLine]
    split <;> simp
  | nested inner ih => exact ih (level + 1) page
  | append first second ihFirst ihSecond => exact (ihFirst level page).trans (ihSecond level _)

/-- A space or a semicolon follows the word, unless minified text goes on with what is no word. -/
theorem write_jump_prefix {minify : Bool} {p : Print.Part}
    (h : minify = false ∨ p.isAbsent = true ∨ p.node.startsWord = true) :
    ∃ c ∈ [' ', ';'],
      "return".toList ++ [c] <+: ((Print.jump minify "return" p).write 0 ⟨"", true⟩).written.toList := by
  by_cases habsent : p.isAbsent = true
  · refine ⟨';', by simp, ?_⟩
    simp only [Print.jump, Print.optional, habsent, if_true]
    exact List.prefix_rfl
  · have hspace : Print.spaceBefore minify p = .text " " := by
      unfold Print.spaceBefore
      split
      · rfl
      · have hminify : minify = false := by tauto
        rw [hminify]
        rfl
    refine ⟨' ', by simp, ?_⟩
    simp only [Print.jump, Print.optional, habsent, hspace]
    exact (p.layout.write_prefix 0 ⟨"return ", false⟩).trans (Layout.write_prefix (.text ";") 0 _)

theorem print_leading_return {minify : Bool} {value : Node} (rest : List Node)
    (h : minify = false ∨ value.isAbsent = true ∨ value.startsWord = true) :
    ∃ tail, (Node.print minify (.node (.script none) (.node .returnStatement [value] :: rest))).toList =
      "return".toList ++ tail ∧ Scan.EndsWord tail := by
  obtain ⟨c, hc, hjump⟩ := write_jump_prefix (p := ⟨value, value.layout minify⟩) h
  obtain ⟨more, hmore⟩ := hjump.trans
    ((Layout.write_prefix (Print.newLine minify) 0 _).trans (Layout.write_prefix _ 0 _))
  rw [List.append_assoc] at hmore
  obtain ⟨tail, htail, behind, hbehind⟩ := trimEnd_return hmore.symm
  refine ⟨tail, htail, fun d hd => ?_⟩
  obtain rfl : d = c := by
    cases tail with
    | nil => cases hd
    | cons first tail => simp_all
  simp only [List.mem_cons, List.not_mem_nil, or_false] at hc
  rcases hc with rfl | rfl <;> decide

end Stencil.Script
