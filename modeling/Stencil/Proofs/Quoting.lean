import Mathlib.Data.List.Basic
import Stencil.Script.Quoted
/-!
# Quoted texts read back

A character is spelled by what is read as that character alone. Both ways of quoting spell each character of a text,
so the text is read back from them (`stringValue?_single`, `stringValue?_short`). The one with the shorter quotes lets a
backslash stand where it begins the escape of a surrogate, and there the text may be another one or none.
-/

namespace Stencil.Script

/-! ## Characters spelled -/

namespace StringBody

theorem read_quote (quote : Char) (more : List Char) : read quote (quote :: more) = ⟨[], 1, .closed, false⟩ := by
  rw [read, if_pos rfl]

/-- What is written is read as one character, whatever is behind it. -/
def Spells (quote : Char) (written : List Char) (c : Char) (more : List Char) : Prop :=
  read quote (written ++ more) = prepend [c] written.length false (read quote more)

variable {quote c : Char} {more : List Char}

theorem spells_plain (hq : c ≠ quote) (hn : c ≠ '\n') (hr : c ≠ '\r') (hb : c ≠ '\\') : Spells quote [c] c more := by
  rw [Spells, List.singleton_append, read, if_neg hq, if_neg (by simp [hn, hr]), if_neg hb]
  rfl

theorem spells_escape {code : List Char} (hq : quote ≠ '\\')
    (h : Escape.read? (code ++ more) = some ⟨[c], code.length, false⟩) : Spells quote ('\\' :: code) c more := by
  rw [Spells, List.cons_append, read, if_neg (Ne.symm hq), if_neg (by decide), if_pos rfl, h]
  simp

end StringBody

namespace Quoted

open StringBody

/-- A control character is written with two hexadecimal digits. -/
theorem hexEscape_control {c : Char} (h : c < ' ') :
    ∃ a b, hexEscape c = ['\\', 'x', a, b] ∧ hexNumber? [a, b] = some c.toNat := by
  have hdigits : ∀ n < 32, (twoDigits n).length = 2 ∧ hexNumber? (twoDigits n) = some n := by decide
  obtain ⟨hlength, hnumber⟩ := hdigits c.toNat h
  obtain ⟨a, b, hab⟩ := List.length_eq_two.1 hlength
  exact ⟨a, b, by rw [hexEscape, hab], by rw [← hab, hnumber]⟩

theorem spells_hexEscape {quote c : Char} (hq : quote ≠ '\\') (h : c < ' ') (more : List Char) :
    Spells quote (hexEscape c) c more := by
  obtain ⟨a, b, hab, hnumber⟩ := hexEscape_control h
  rw [hab]
  refine spells_escape hq ?_
  simp [Escape.read?, hnumber]

theorem not_isOctalDigit {c : Char} (h : c.isDigit = false) : Escape.isOctalDigit c = false := by
  simp only [Escape.isOctalDigit, Char.isDigit, Char.le_def, UInt32.le_iff_toNat_le, Bool.and_eq_false_iff,
    decide_eq_false_iff_not, ge_iff_le] at h ⊢
  have hzero : '0'.val.toNat = 48 := rfl
  have hseven : '7'.val.toNat = 55 := rfl
  have hnine : '9'.val.toNat = 57 := rfl
  omega

/-- A zero behind a backslash is the character of that code if no digit follows. -/
theorem read?_nul {more : List Char} (h : (more.head?).any Char.isDigit = false) :
    Escape.read? ('0' :: more) = some ⟨['\x00'], 1, false⟩ := by
  have hoctal : Escape.octal ('0' :: more) = ⟨['\x00'], 1, false⟩ := by
    cases more with
    | nil => rfl
    | cons d rest =>
      have hd : Escape.isOctalDigit d = false := not_isOctalDigit h
      have hdigits : Escape.octalDigits ('0' :: d :: rest) = ['0'] := by
        cases rest <;> simp [Escape.octalDigits, hd]
      have hdigit : d.isDigit = false := h
      simp [Escape.octal, hdigits, hdigit]
  have hzero : Escape.read? ('0' :: more) = some (Escape.octal ('0' :: more)) := rfl
  rw [hzero, hoctal]

theorem spells_escapeSingle (c : Char) (more : List Char) : Spells '\'' (escapeSingle c) c more := by
  have hquote : '\'' ≠ '\\' := by decide
  unfold escapeSingle
  split
  · next h => exact spells_escape hquote (by rw [h]; rfl)
  split
  · next h => exact spells_escape hquote (by rw [h]; rfl)
  split
  · next h => exact spells_escape hquote (by rw [h]; rfl)
  split
  · next h => exact spells_escape hquote (by rw [h]; rfl)
  split
  · next h => exact spells_escape hquote (by rw [h]; rfl)
  split
  · next h => exact spells_escape hquote (by rw [h]; rfl)
  split
  · next h => exact spells_hexEscape hquote h more
  · exact spells_plain ‹_› ‹_› ‹_› ‹_›

theorem spells_escapeAny {quote c : Char} {rest more : List Char} (hquote : quote ≠ '\\') (hc : c ≠ quote)
    (hnul : c = '\x00' → (rest.head?).any Char.isDigit = (more.head?).any Char.isDigit)
    (hsurrogate : c = '\\' → beginsSurrogate rest = false) : Spells quote (escapeAny c rest) c more := by
  by_cases hnamed : c ∈ ['\x08', '\x0c', '\n', '\r', '\x0b', '\u2028', '\u2029', '\ufeff']
  · simp only [List.mem_cons, List.not_mem_nil, or_false] at hnamed
    rcases hnamed with rfl | rfl | rfl | rfl | rfl | rfl | rfl | rfl
    all_goals exact spells_escape hquote rfl
  -- of the rest only control characters, quotes and backslashes are escaped
  simp only [List.mem_cons, List.not_mem_nil, or_false, not_or] at hnamed
  obtain ⟨hb, hf, hn, hr, hv, hl, hp, hmark⟩ := hnamed
  simp only [escapeAny, if_neg hb, if_neg hf, if_neg hn, if_neg hr, if_neg hv, if_neg hl, if_neg hp, if_neg hmark]
  split
  · next h =>
    subst h
    rw [hnul rfl]
    split
    · exact spells_hexEscape hquote (by decide) more
    · next hdigit => exact spells_escape hquote (read?_nul (by simpa using hdigit))
  split
  · next h =>
    subst h
    exact spells_plain hc hn hr (by decide)
  split
  · next h =>
    rw [hsurrogate h]
    exact spells_escape hquote (by rw [h]; rfl)
  split
  · next h => exact spells_hexEscape hquote h more
  · exact spells_plain hc hn hr ‹_›

/-! ## Texts read back -/

/-- What is read up to the closing quote is the value of the whole literal. -/
theorem stringValue?_of_read {quote : Char} {written value : List Char} (hq : quote = '\'' ∨ quote = '"')
    (h : read quote (written ++ [quote]) = ⟨value, written.length + 1, .closed, false⟩) :
    stringValue? (quote :: (written ++ [quote])) = some value := by
  simp [stringValue?, h, hq]

theorem read_single (value more : List Char) :
    read '\'' (value.flatMap escapeSingle ++ '\'' :: more) =
      ⟨value, (value.flatMap escapeSingle).length + 1, .closed, false⟩ := by
  induction value with
  | nil => exact read_quote _ _
  | cons c rest ih =>
    rw [List.flatMap_cons, List.append_assoc, spells_escapeSingle c, ih, List.length_append]
    simp [prepend, Nat.add_assoc]

/-- A text between single quotes is read back. -/
theorem stringValue?_single (value : String) : stringValue? (single value).toList = some value.toList := by
  have h := stringValue?_of_read (.inl rfl) (read_single value.toList [])
  simpa [single] using h

/-- No backslash in a text begins the escape of a surrogate. -/
def Plain : List Char → Prop
  | [] => True
  | c :: rest => (c = '\\' → beginsSurrogate rest = false) ∧ Plain rest

/-- Looks behind every backslash. -/
def decidePlain : (value : List Char) → Decidable (Plain value)
  | [] => .isTrue trivial
  | c :: rest =>
    have := decidePlain rest
    inferInstanceAs (Decidable ((c = '\\' → beginsSurrogate rest = false) ∧ Plain rest))

instance : DecidablePred Plain := decidePlain

/-- A character as it stands, or something behind a backslash. -/
def Written (c : Char) (written : List Char) : Prop := written = [c] ∨ ∃ code, written = '\\' :: code

theorem written_escape (c : Char) (code : List Char) : Written c ('\\' :: code) := .inr ⟨code, rfl⟩

theorem written_ite {c : Char} {p : Prop} [Decidable p] {a b : List Char} (ha : p → Written c a) (hb : Written c b) :
    Written c (if p then a else b) := by
  split
  · exact ha ‹_›
  · exact hb

theorem written_escapeAny (c : Char) (rest : List Char) : Written c (escapeAny c rest) := by
  have escape {p : Prop} {code : List Char} : p → Written c ('\\' :: code) := fun _ => written_escape c code
  have tab (h : c = '\t') : Written c ['\t'] := .inl (by rw [h])
  unfold escapeAny
  refine written_ite (fun _ => written_ite escape (written_escape ..)) ?_
  refine written_ite escape <| written_ite escape <| written_ite escape <| written_ite escape <| written_ite escape ?_
  refine written_ite tab <| written_ite (fun _ => written_ite escape (written_escape ..)) ?_
  exact written_ite escape <| written_ite escape <| written_ite escape <| written_ite escape (.inl rfl)

theorem escapeAny_digit {c : Char} (h : c.isDigit = true) (rest : List Char) : escapeAny c rest = [c] := by
  have hne (d : Char) (hd : d.isDigit = false) : c ≠ d := by
    rintro rfl
    rw [h] at hd
    cases hd
  have hcontrol : ¬ c < ' ' := by
    simp only [Char.isDigit, Bool.and_eq_true, decide_eq_true_eq, ge_iff_le, UInt32.le_iff_toNat_le] at h
    simp only [Char.lt_def, UInt32.lt_iff_toNat_lt]
    have hzero : '0'.val.toNat = 48 := rfl
    have hblank : ' '.val.toNat = 32 := rfl
    omega
  simp only [escapeAny, if_neg (hne '\x00' rfl), if_neg (hne '\x08' rfl), if_neg (hne '\x0c' rfl),
    if_neg (hne '\n' rfl), if_neg (hne '\r' rfl), if_neg (hne '\x0b' rfl), if_neg (hne '\t' rfl),
    if_neg (hne '\\' rfl), if_neg hcontrol, if_neg (hne '\u2028' rfl), if_neg (hne '\u2029' rfl),
    if_neg (hne '\ufeff' rfl)]

/-- What is written for a character begins with a digit only if the character is one. -/
theorem escapeAny_head? (c : Char) (rest more : List Char) :
    ((escapeAny c rest ++ more).head?).any Char.isDigit = c.isDigit := by
  cases h : c.isDigit with
  | true =>
    rw [escapeAny_digit h]
    exact h
  | false =>
    rcases written_escapeAny c rest with heq | ⟨code, heq⟩ <;> rw [heq]
    · exact h
    · rfl

theorem escapeBetween_head? {quote : Char} (hq : quote = '\'' ∨ quote = '"') (rest : List Char) :
    ((escapeBetween quote rest ++ [quote]).head?).any Char.isDigit = (rest.head?).any Char.isDigit := by
  have hdigit : quote.isDigit = false := by rcases hq with rfl | rfl <;> rfl
  cases rest with
  | nil => exact hdigit
  | cons c rest =>
    rw [escapeBetween]
    split
    · next hc =>
      subst hc
      exact hdigit.symm
    · rw [List.append_assoc, escapeAny_head?]
      rfl

theorem read_between {quote : Char} (hq : quote = '\'' ∨ quote = '"') {value : List Char} (h : Plain value) :
    read quote (escapeBetween quote value ++ [quote]) =
      ⟨value, (escapeBetween quote value).length + 1, .closed, false⟩ := by
  have hquote : quote ≠ '\\' := by rcases hq with rfl | rfl <;> decide
  induction value with
  | nil => exact read_quote _ _
  | cons c rest ih =>
    have hspells : Spells quote (if c = quote then ['\\', c] else escapeAny c rest) c
        (escapeBetween quote rest ++ [quote]) := by
      split
      · next hc =>
        subst hc
        exact spells_escape hquote (by rcases hq with rfl | rfl <;> rfl)
      -- whether `\0` is read as octal depends on what is written behind it, which begins as the text does
      · next hc => exact spells_escapeAny hquote hc (fun _ => (escapeBetween_head? hq rest).symm) h.1
    rw [escapeBetween, List.append_assoc, hspells, ih h.2, List.length_append]
    simp [prepend, Nat.add_assoc]

/-- A text between the shorter quotes is read back, unless a backslash in it begins the escape of a surrogate. -/
theorem stringValue?_short {value : String} (h : Plain value.toList) :
    stringValue? (short value).toList = some value.toList := by
  unfold short
  simp only [String.toList_ofList]
  split
  · exact stringValue?_of_read (.inl rfl) (read_between (.inl rfl) h)
  · exact stringValue?_of_read (.inr rfl) (read_between (.inr rfl) h)

end Quoted

end Stencil.Script
