import Stencil.Proofs.Tokens
/-!
# The grammar of declarations

A comment declares a placeholder if it reads as blanks, the directive, blanks, a name and perhaps a description after
further blanks. Most comments can be cut in several ways, since blanks in front of a description may as well be its
first characters. All the cuts declare the same (`Reads.unique`), and what a comment declares is what the grammar says
(`ofComments_reads`). The directive stands for itself, whatever characters it is made of.
-/

namespace Stencil

/-! ## Blanks and word characters -/

namespace Text

theorem mem_of_covers {ranges : Ranges} {code : Nat} (h : ranges.covers code = true) :
    code ∈ ranges.flatMap fun range => List.range' range.1 (range.2 + 1 - range.1) := by
  obtain ⟨range, hm, hcode⟩ := List.any_eq_true.1 h
  simp only [Bool.and_eq_true, decide_eq_true_eq] at hcode
  exact List.mem_flatMap.2 ⟨range, hm, List.mem_range'_1.2 (by omega)⟩

/-- No blank is a word character. -/
theorem isWord_of_isBlank {c : Char} (h : isBlank c = true) : isWord c = false := by
  have hlow : ∀ n < 0x80, isBlank (Char.ofNat n) = true → isWord (Char.ofNat n) = false := by decide +kernel
  have hhigh : ∀ n ∈ blankRanges.flatMap fun range => List.range' range.1 (range.2 + 1 - range.1),
      isWord (Char.ofNat n) = false := by decide +kernel
  rw [← Char.ofNat_toNat c] at h ⊢
  by_cases hc : c.toNat < 0x80
  · exact hlow _ hc h
  · rw [Char.ofNat_toNat, isBlank, if_neg hc] at h
    exact hhigh _ (mem_of_covers h)

section Classes
variable {p : Char → Bool} {front rest : List Char}

/-- Characters of a class, up to one that is not in it. -/
theorem takeWhile_append_of_head (h : ∀ c ∈ front, p c = true) (hrest : (rest.head?).any p = false) :
    (front ++ rest).takeWhile p = front := by
  rw [List.takeWhile_append_of_pos h]
  cases rest with
  | nil => simp
  | cons c rest => rw [List.takeWhile_cons_of_neg (by simpa using hrest), List.append_nil]

theorem dropWhile_append_of_head (h : ∀ c ∈ front, p c = true) (hrest : (rest.head?).any p = false) :
    (front ++ rest).dropWhile p = rest := by
  rw [List.dropWhile_append_of_pos h]
  cases rest with
  | nil => rfl
  | cons c rest => exact List.dropWhile_cons_of_neg (by simpa using hrest)

theorem forall_mem_takeWhile (p : Char → Bool) (text : List Char) : ∀ c ∈ text.takeWhile p, p c = true :=
  List.all_eq_true.1 List.all_takeWhile

end Classes

/-- Blanks and nothing else. -/
def Blanks (text : List Char) : Prop := ∀ c ∈ text, isBlank c = true

instance : DecidablePred Blanks := fun _ => List.decidableBAll _ _

/-- The text without the blanks at both ends. -/
def trim (text : List Char) : String := trimEnd (String.ofList (text.dropWhile isBlank))

/-- Blanks in front do not matter. -/
theorem trim_append {blanks : List Char} (h : Blanks blanks) (text : List Char) : trim (blanks ++ text) = trim text := by
  rw [trim, List.dropWhile_append_of_pos h, trim]

end Text

namespace Declaration

open Text

/-! ## The grammar -/

/-- What stands behind the name, and the description that it gives: nothing, or blanks and a text in one line. -/
inductive Tail : List Char → String → Prop
  | nothing : Tail [] ""
  | described {blanks text : List Char} (hblanks : Blanks blanks) (hne : blanks ≠ []) (hline : '\n' ∉ text) :
      Tail (blanks ++ text) (trim text)

/-- What stands behind the directive: blanks, the name, and a tail. -/
def Names (rest : List Char) (d : Declaration) : Prop :=
  ∃ gap tail, Blanks gap ∧ gap ≠ [] ∧ Token.IsName d.name ∧ Tail tail d.description ∧
    rest = gap ++ (d.name.toList ++ tail)

/-- A comment reads as a declaration: blanks, the directive and what stands behind it. -/
def Reads (directive : String) (comment : List Char) (d : Declaration) : Prop :=
  ∃ blanks rest, Blanks blanks ∧ Names rest d ∧ comment = blanks ++ (directive.toList ++ rest)

/-! ## Reading by the grammar -/

theorem description?_cons (c : Char) (rest : List Char) :
    description? (c :: rest) =
      if isBlank c = true ∧ '\n' ∉ (c :: rest).dropWhile isBlank then some (trim (c :: rest)) else none := by
  simp only [description?, trim, List.contains_eq_mem, Bool.and_eq_true, Bool.not_eq_true', decide_eq_false_iff_not]

theorem description?_eq_some_iff {rest : List Char} {description : String} :
    description? rest = some description ↔ Tail rest description := by
  constructor
  · intro h
    cases rest with
    | nil =>
      cases h
      exact .nothing
    | cons c rest =>
      obtain ⟨⟨hc, hline⟩, heq⟩ := Option.ite_none_right_eq_some.1 (description?_cons c rest ▸ h)
      have hblanks : Blanks ((c :: rest).takeWhile isBlank) := forall_mem_takeWhile _ _
      have hne : (c :: rest).takeWhile isBlank ≠ [] := by simp [hc]
      have htail := Tail.described hblanks hne hline
      rw [← trim_append hblanks, List.takeWhile_append_dropWhile] at htail
      exact Option.some.inj heq ▸ htail
  · rintro (_ | ⟨hblanks, hne, hline⟩)
    · rfl
    · rename_i blanks text
      obtain ⟨c, blanks, rfl⟩ := List.exists_cons_of_ne_nil hne
      rw [List.cons_append, description?_cons, if_pos, ← List.cons_append, trim_append hblanks]
      refine ⟨hblanks c List.mem_cons_self, fun hm => hline ?_⟩
      rw [← List.cons_append, List.dropWhile_append_of_pos hblanks] at hm
      exact (List.dropWhile_sublist _).subset hm

/-- A name ends where its tail begins. -/
theorem Tail.head? {tail : List Char} {description : String} (h : Tail tail description) :
    (tail.head?).any isWord = false := by
  cases h with
  | nothing => rfl
  | described hblanks hne =>
    obtain ⟨c, blanks, rfl⟩ := List.exists_cons_of_ne_nil hne
    exact isWord_of_isBlank (hblanks c List.mem_cons_self)

theorem isName_head? {name : String} (h : Token.IsName name) (tail : List Char) :
    ((name.toList ++ tail).head?).any isBlank = false := by
  obtain ⟨c, rest, hname⟩ := List.exists_cons_of_ne_nil h.1
  have hword : isWord c = true := h.2 c (hname ▸ List.mem_cons_self)
  rw [hname]
  show isBlank c = false
  by_contra hblank
  rw [isWord_of_isBlank (by simpa using hblank)] at hword
  cases hword

theorem afterDirective?_eq_some_iff {rest : List Char} {d : Declaration} :
    afterDirective? rest = some d ↔ Names rest d := by
  constructor
  · intro h
    obtain ⟨hstart, h⟩ := Option.ite_none_right_eq_some.1 h
    obtain ⟨description, htail, rfl⟩ := Option.map_eq_some_iff.1 h
    simp only [Bool.and_eq_true, Bool.not_eq_true', List.isEmpty_eq_false_iff] at hstart
    have hgap : rest.takeWhile isBlank ≠ [] := by
      intro hnil
      cases rest with
      | nil => simp at hstart
      | cons c rest => simp_all
    refine ⟨rest.takeWhile isBlank, (rest.dropWhile isBlank).dropWhile isWord, forall_mem_takeWhile _ _, hgap,
      ⟨by simpa using hstart.2, ?_⟩, description?_eq_some_iff.1 htail, ?_⟩
    · rw [String.toList_ofList]
      exact forall_mem_takeWhile _ _
    · rw [String.toList_ofList, List.takeWhile_append_dropWhile, List.takeWhile_append_dropWhile]
  · rintro ⟨gap, tail, hgap, hne, hname, htail, rfl⟩
    obtain ⟨c, gap, rfl⟩ := List.exists_cons_of_ne_nil hne
    have hstart : (((c :: gap) ++ (d.name.toList ++ tail)).head?).any isBlank = true := hgap c List.mem_cons_self
    simp only [afterDirective?, dropWhile_append_of_head hgap (isName_head? hname tail),
      takeWhile_append_of_head hname.2 htail.head?, dropWhile_append_of_head hname.2 htail.head?, hstart,
      description?_eq_some_iff.2 htail, String.ofList_toList]
    simp [hname.1]

theorem fromDirective?_eq_some_iff {directive text : List Char} {d : Declaration} :
    fromDirective? directive text = some d ↔ ∃ rest, Names rest d ∧ text = directive ++ rest := by
  rw [fromDirective?, Option.ite_none_right_eq_some, List.isPrefixOf_iff_prefix, afterDirective?_eq_some_iff]
  constructor
  · rintro ⟨⟨rest, rfl⟩, h⟩
    exact ⟨rest, by simpa using h, rfl⟩
  · rintro ⟨rest, h, rfl⟩
    exact ⟨⟨rest, rfl⟩, by simpa using h⟩

/-- A word that can declare placeholders. -/
def IsDirective (directive : String) : Prop :=
  directive.toList ≠ [] ∧ ∀ c ∈ directive.toList, isBlank c = false

theorem isDirective_of_validate {options : Options} (h : options.validate = .ok ()) : IsDirective options.directive := by
  unfold Options.validate Options.defect? at h
  split at h
  · cases h
  · rename_i hnone
    split at hnone
    · cases hnone
    split at hnone
    · cases hnone
    rename_i hempty hblank
    exact ⟨by simpa using hempty, by simpa using hblank⟩

theorem IsDirective.head? {directive : String} (h : IsDirective directive) (rest : List Char) :
    ((directive.toList ++ rest).head?).any isBlank = false := by
  obtain ⟨c, more, heq⟩ := List.exists_cons_of_ne_nil h.1
  rw [heq]
  exact h.2 c (heq ▸ List.mem_cons_self)

/-- A directive is looked for behind all blanks in front of it: one that begins with no blank cannot stand earlier. -/
theorem ofComment?_eq {directive : String} (h : IsDirective directive) (comment : String) :
    ofComment? directive comment = fromDirective? directive.toList (comment.toList.dropWhile isBlank) := by
  have htext : comment.toList.takeWhile isBlank ++ comment.toList.dropWhile isBlank = comment.toList :=
    List.takeWhile_append_dropWhile
  have hlast : comment.toList.drop (comment.toList.takeWhile isBlank).length = comment.toList.dropWhile isBlank := by
    have hdrop : (comment.toList.takeWhile isBlank ++ comment.toList.dropWhile isBlank).drop
        (comment.toList.takeWhile isBlank).length = comment.toList.dropWhile isBlank := List.drop_left
    rwa [htext] at hdrop
  have hearlier : ((List.range (comment.toList.takeWhile isBlank).length).reverse.findSome? fun count =>
      fromDirective? directive.toList (comment.toList.drop count)) = none := by
    refine List.findSome?_eq_none_iff.2 fun count hcount => Option.eq_none_iff_forall_ne_some.2 fun d hd => ?_
    obtain ⟨rest, -, heq⟩ := fromDirective?_eq_some_iff.1 hd
    have hlt : count < (comment.toList.takeWhile isBlank).length := by simpa using hcount
    have hblank : isBlank (comment.toList.takeWhile isBlank)[count] = true :=
      forall_mem_takeWhile _ _ _ (List.getElem_mem hlt)
    have hhead := h.head? rest
    rw [← heq, List.head?_drop, ← htext, List.getElem?_append_left hlt, List.getElem?_eq_getElem hlt] at hhead
    rw [Option.any_some, hblank] at hhead
    cases hhead
  rw [ofComment?, List.range_succ, List.reverse_append, List.findSome?_append, hearlier, Option.or_none]
  simp [hlast]

theorem ofComment?_eq_some_iff {directive : String} (h : IsDirective directive) {comment : String} {d : Declaration} :
    ofComment? directive comment = some d ↔ Reads directive comment.toList d := by
  rw [ofComment?_eq h, fromDirective?_eq_some_iff]
  constructor
  · rintro ⟨rest, hnames, heq⟩
    exact ⟨_, rest, forall_mem_takeWhile _ _, hnames, by rw [← heq, List.takeWhile_append_dropWhile]⟩
  · rintro ⟨blanks, rest, hblanks, hnames, heq⟩
    exact ⟨rest, hnames, by rw [heq, dropWhile_append_of_head hblanks (h.head? rest)]⟩

/-- However a comment is cut, it declares the same. -/
theorem Reads.unique {directive : String} (h : IsDirective directive) {comment : List Char} {d d' : Declaration}
    (hd : Reads directive comment d) (hd' : Reads directive comment d') : d = d' := by
  have hread (d) (hd : Reads directive comment d) : ofComment? directive (String.ofList comment) = some d :=
    (ofComment?_eq_some_iff h).2 (by rwa [String.toList_ofList])
  exact Option.some.inj ((hread d hd).symm.trans (hread d' hd'))

end Declaration

namespace Registry

open Declaration

variable {options : Options} {comment : String} {d : Declaration}

/-! ## Comments that are read -/

theorem addComment_of_reads (h : IsDirective options.directive) (hd : Reads options.directive comment.toList d)
    (r : Registry) : addComment options r comment = declare options.duplicates r d := by
  rw [addComment, (ofComment?_eq_some_iff h).2 hd]

theorem addComment_of_not_reads (h : IsDirective options.directive)
    (hno : ∀ d, ¬ Reads options.directive comment.toList d) (r : Registry) :
    addComment options r comment = pure r := by
  have hnone : ofComment? options.directive comment = none :=
    Option.eq_none_iff_forall_ne_some.2 fun d hd => hno d ((ofComment?_eq_some_iff h).1 hd)
  rw [addComment, hnone]

theorem ofComments_singleton (options : Options) (comment : String) :
    ofComments options [comment] = addComment options {} comment := by
  simp [ofComments]

/-- Under options that a template can have, a comment declares what it reads as by the grammar, and if it does not read as
a declaration, it declares nothing. It never reads as two declarations. -/
theorem ofComments_reads (h : options.validate = .ok ()) (comment : String) :
    (∀ name description, (ofComments options [comment]).result = .ok ⟨[(name, description)]⟩ ↔
      Reads options.directive comment.toList ⟨name, description⟩) ∧
    ((ofComments options [comment]).result = .ok {} ↔ ∀ d, ¬ Reads options.directive comment.toList d) ∧
    (∀ d d', Reads options.directive comment.toList d → Reads options.directive comment.toList d' → d = d') ∧
    (∀ r d, Reads options.directive comment.toList d →
      addComment options r comment = declare options.duplicates r d) ∧
    ∀ r, (∀ d, ¬ Reads options.directive comment.toList d) → addComment options r comment = pure r := by
  have hdirective := isDirective_of_validate h
  have hread (d) (hd : Reads options.directive comment.toList d) :
      (ofComments options [comment]).result = .ok ⟨[(d.name, d.description)]⟩ := by
    rw [ofComments_singleton, addComment_of_reads hdirective hd]
    rfl
  have hnone (hno : ∀ d, ¬ Reads options.directive comment.toList d) :
      (ofComments options [comment]).result = .ok {} := by
    rw [ofComments_singleton, addComment_of_not_reads hdirective hno]
    rfl
  refine ⟨fun name description => ⟨fun hresult => ?_, hread _⟩, ⟨fun hresult d hd => ?_, hnone⟩,
    fun d d' hd hd' => hd.unique hdirective hd', fun r d hd => addComment_of_reads hdirective hd r,
    fun r hno => addComment_of_not_reads hdirective hno r⟩
  · by_cases hex : ∃ d, Reads options.directive comment.toList d
    · obtain ⟨d, hd⟩ := hex
      rw [hread d hd] at hresult
      cases hresult
      exact hd
    · rw [hnone (not_exists.1 hex)] at hresult
      cases hresult
  · rw [hread d hd] at hresult
    cases hresult

/-- Options with a directive of characters that mean something in a pattern. -/
def patternDirective : Options := { directive := "a.+" }

theorem ofComments_reads_patternDirective :
    patternDirective.validate = .ok () ∧
    (ofComments patternDirective ["\t a.+\n x \n b  c "]).result = .ok ⟨[("x", "b  c")]⟩ ∧
    (ofComments patternDirective ["abb x b  c"]).result = .ok {} := by
  have hvalid : patternDirective.validate = .ok () := by decide +kernel
  have hname : Token.IsName "x" := ⟨by decide +kernel, List.all_eq_true.1 (by decide +kernel)⟩
  have htail : Tail ([' ', '\n'] ++ [' ', 'b', ' ', ' ', 'c', ' ']) "b  c" :=
    .described (by decide +kernel) (by decide) (by decide)
  have hreads : Reads "a.+" "\t a.+\n x \n b  c ".toList ⟨"x", "b  c"⟩ :=
    ⟨['\t', ' '], _, by decide +kernel,
      ⟨['\n', ' '], _, by decide +kernel, by decide, hname, htail, rfl⟩, by decide +kernel⟩
  have hnone : Declaration.ofComment? "a.+" "abb x b  c" = none := by decide +kernel
  refine ⟨hvalid, ((ofComments_reads hvalid _).1 _ _).2 hreads, (ofComments_reads hvalid _).2.1.2 fun d hd => ?_⟩
  rw [← ofComment?_eq_some_iff (isDirective_of_validate hvalid)] at hd
  exact absurd hd (by rw [show patternDirective.directive = "a.+" from rfl, hnone]; simp)

end Registry

end Stencil
