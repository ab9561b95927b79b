import Mathlib.Data.List.Induction
import Mathlib.Logic.Function.Defs
import Stencil.Proofs.Quoting
import Stencil.Script.Scan.Token
/-!
# Single quotes in strict code

The grammar of string literals of strict code, which has no octal escapes: `Literal` relates a text that begins with a
literal to the code units that it stands for and to what is behind it. A text begins with one literal at most
(`Literal.unique`). `single_literal` says that a text between single quotes is one whatever follows it, that it stands for
the text, and that no character of the text ends it early.
-/

namespace Stencil.Script

/-! ## Hexadecimal digits -/

theorem hexNumber?_concat (digits : List Char) (d : Char) :
    hexNumber? (digits ++ [d]) = do return (← hexNumber? digits) * 16 + (← hexValue? d) := by
  rw [hexNumber?, List.foldl_append]
  rfl

/-- Only hexadecimal digits make a number. -/
theorem isSome_hexValue? {digits : List Char} {n : Nat} (h : hexNumber? digits = some n) :
    ∀ d ∈ digits, (hexValue? d).isSome := by
  induction digits using List.reverseRecOn generalizing n with
  | nil => simp
  | append_singleton digits d ih =>
    simp only [hexNumber?_concat, bind, Option.bind_eq_some_iff, pure] at h
    obtain ⟨front, hfront, last, hlast, -⟩ := h
    intro d' hd'
    rcases List.mem_append.1 hd' with hd' | hd'
    · exact ih hfront d' hd'
    · rw [List.mem_singleton.1 hd', hlast]
      rfl

theorem not_mem_of_hexNumber? {digits : List Char} {n : Nat} {c : Char} (h : hexNumber? digits = some n)
    (hc : hexValue? c = none) : c ∉ digits := by
  intro hm
  have hsome := isSome_hexValue? h c hm
  rw [hc] at hsome
  cases hsome

namespace Strict

/-! ## Code units -/

/-- The code units of a code point. -/
def codeUnits (code : Nat) : List Nat :=
  if code < 0x10000 then [code] else [0xD800 + (code - 0x10000) / 0x400, 0xDC00 + (code - 0x10000) % 0x400]

theorem codeUnits_of_lt {code : Nat} (h : code < 0x10000) : codeUnits code = [code] := if_pos h

/-- The code units of a text. -/
def utf16 (value : String) : List Nat := value.toList.flatMap fun c => codeUnits c.toNat

/-- The code units of a character are no beginning of those of another one. -/
theorem codeUnits_append {c d : Char} {more more' : List Nat}
    (h : codeUnits c.toNat ++ more = codeUnits d.toNat ++ more') : c = d ∧ more = more' := by
  have hc : c.toNat < 0xD800 ∨ 0xDFFF < c.toNat ∧ c.toNat < 0x110000 := c.valid
  have hd : d.toNat < 0xD800 ∨ 0xDFFF < d.toNat ∧ d.toNat < 0x110000 := d.valid
  suffices hcode : c.toNat = d.toNat ∧ more = more' from ⟨Char.toNat_inj.1 hcode.1, hcode.2⟩
  unfold codeUnits at h
  split at h <;> split at h <;> simp only [List.cons_append, List.nil_append, List.cons.injEq] at h
  · exact h
  · omega
  · omega
  · obtain ⟨hhigh, hlow, hmore⟩ := h
    exact ⟨by omega, hmore⟩

theorem utf16_injective : Function.Injective utf16 := by
  have hne (c : Char) (more : List Nat) : codeUnits c.toNat ++ more ≠ [] := by
    unfold codeUnits
    split <;> simp
  have hlist (cs : List Char) : ∀ ds : List Char,
      cs.flatMap (fun c => codeUnits c.toNat) = ds.flatMap (fun c => codeUnits c.toNat) → cs = ds := by
    induction cs with
    | nil =>
      intro ds h
      cases ds with
      | nil => rfl
      | cons d ds => exact absurd h.symm (hne _ _)
    | cons c cs ih =>
      intro ds h
      cases ds with
      | nil => exact absurd h (hne _ _)
      | cons d ds =>
        obtain ⟨rfl, hrest⟩ := codeUnits_append h
        rw [ih ds hrest]
  intro a b h
  exact String.toList_inj.1 (hlist _ _ h)

/-! ## The grammar -/

/-- The escapes of one letter or sign, with the code that each stands for. -/
def namedEscapes : List (Char × Nat) :=
  [('\'', 39), ('"', 34), ('\\', 92), ('b', 8), ('f', 12), ('n', 10), ('r', 13), ('t', 9), ('v', 11)]

/-- What is behind a backslash: the text, the code units of the escape that it begins with and the text behind that. -/
inductive Escapes : List Char → List Nat → List Char → Prop
  /-- A letter or sign with a code of its own. -/
  | named {c : Char} {n : Nat} {rest : List Char} (h : namedEscapes.lookup c = some n) : Escapes (c :: rest) [n] rest
  /-- Any other character that is no digit. -/
  | itself {c : Char} {rest : List Char} (hnamed : namedEscapes.lookup c = none) (hdigit : c.isDigit = false)
      (hx : c ≠ 'x') (hu : c ≠ 'u') (hline : Text.isLineEnd c = false) : Escapes (c :: rest) (codeUnits c.toNat) rest
  | nul {rest : List Char} (h : (rest.head?).any Char.isDigit = false) : Escapes ('0' :: rest) [0] rest
  | hex {a b : Char} {n : Nat} {rest : List Char} (h : hexNumber? [a, b] = some n) :
      Escapes ('x' :: a :: b :: rest) [n] rest
  | four {a b c d : Char} {n : Nat} {rest : List Char} (h : hexNumber? [a, b, c, d] = some n) :
      Escapes ('u' :: a :: b :: c :: d :: rest) [n] rest
  | braces {digits text rest : List Char} {n : Nat} (htext : text = digits ++ '\x7d' :: rest) (hne : digits ≠ [])
      (h : hexNumber? digits = some n) (hmax : n ≤ 0x10FFFF) : Escapes ('u' :: '\x7b' :: text) (codeUnits n) rest
  /-- The end of a line, which stands for nothing. -/
  | lineEnd {c : Char} {rest : List Char} (h : Text.isLineEnd c = true) (hpair : c = '\r' → rest.head? ≠ some '\n') :
      Escapes (c :: rest) [] rest
  | pair {rest : List Char} : Escapes ('\r' :: '\n' :: rest) [] rest

/-- What is behind the opening quote. -/
inductive Body : List Char → List Nat → List Char → Prop
  | close {rest : List Char} : Body ('\'' :: rest) [] rest
  | plain {c : Char} {text rest : List Char} {units : List Nat} (hq : c ≠ '\'') (hb : c ≠ '\\') (hn : c ≠ '\n')
      (hr : c ≠ '\r') (h : Body text units rest) : Body (c :: text) (codeUnits c.toNat ++ units) rest
  | escape {text between rest : List Char} {units more : List Nat} (hcode : Escapes text units between)
      (h : Body between more rest) : Body ('\\' :: text) (units ++ more) rest

/-- A text that begins with a string literal between single quotes, the code units that it stands for and the text
behind it. -/
inductive Literal : List Char → List Nat → List Char → Prop
  | quoted {text rest : List Char} {units : List Nat} (h : Body text units rest) : Literal ('\'' :: text) units rest

variable {text rest rest' : List Char} {units units' : List Nat}

theorem lookup_of_isLineEnd {c : Char} (h : Text.isLineEnd c = true) : namedEscapes.lookup c = none := by
  simp only [Text.isLineEnd, Bool.or_eq_true, beq_iff_eq] at h
  rcases h with ((rfl | rfl) | rfl) | rfl <;> rfl

/-- Digits end at the first brace. -/
theorem digits_unique {digits digits' : List Char} {n n' : Nat} (h : hexNumber? digits = some n)
    (h' : hexNumber? digits' = some n') (heq : digits ++ '\x7d' :: rest = digits' ++ '\x7d' :: rest') :
    digits = digits' ∧ rest = rest' := by
  have hrun {ds more : List Char} {n : Nat} (h : hexNumber? ds = some n) :
      (ds ++ '\x7d' :: more).takeWhile (· ≠ '\x7d') = ds := by
    have hbrace : '\x7d' ∉ ds := not_mem_of_hexNumber? h (by decide)
    rw [List.takeWhile_append_of_pos fun d hd => by simpa using ne_of_mem_of_not_mem hd hbrace]
    simp
  obtain rfl : digits = digits' := by rw [← hrun h, heq, hrun h']
  exact ⟨rfl, List.cons_injective (List.append_cancel_left heq)⟩

/-- A text begins with one escape at most. -/
theorem Escapes.unique (h : Escapes text units rest) (h' : Escapes text units' rest') :
    units = units' ∧ rest = rest' := by
  have hopening {b c d : Char} {n : Nat} : hexNumber? ['\x7b', b, c, d] ≠ some n := fun h =>
    not_mem_of_hexNumber? h (by decide : hexValue? '\x7b' = none) List.mem_cons_self
  -- escapes of two forms begin with different characters, but for those with `u`
  cases h with
  | named h =>
    cases h' with
    | lineEnd hline => simp [lookup_of_isLineEnd hline] at h
    | _ => simp_all [namedEscapes, List.lookup_cons]
  | lineEnd hline =>
    cases h' with
    | named h' => simp [lookup_of_isLineEnd hline] at h'
    | _ => simp_all [Text.isLineEnd]
  | four h =>
    cases h' with
    | braces => exact absurd h hopening
    | _ => simp_all [namedEscapes, List.lookup_cons, Text.isLineEnd]
  | braces htext _ h =>
    cases h' with
    | four h' => exact absurd h' hopening
    | braces htext' _ h' =>
      obtain ⟨rfl, rfl⟩ := digits_unique h h' (htext.symm.trans htext')
      rw [Option.some.inj (h.symm.trans h')]
      exact ⟨rfl, rfl⟩
    | _ => simp_all [namedEscapes, List.lookup_cons, Text.isLineEnd]
  | _ => cases h' <;> simp_all [namedEscapes, List.lookup_cons, Text.isLineEnd]

theorem Body.unique (h : Body text units rest) (h' : Body text units' rest') : units = units' ∧ rest = rest' := by
  induction h generalizing units' with
  | close =>
    cases h' with
    | close => exact ⟨rfl, rfl⟩
    | plain hq => exact absurd rfl hq
  | plain hq hb _ _ _ ih =>
    cases h' with
    | close => exact absurd rfl hq
    | plain _ _ _ _ h' =>
      obtain ⟨rfl, rfl⟩ := ih h'
      exact ⟨rfl, rfl⟩
    | escape => exact absurd rfl hb
  | escape hcode _ ih =>
    cases h' with
    | plain _ hb => exact absurd rfl hb
    | escape hcode' h' =>
      obtain ⟨rfl, rfl⟩ := hcode.unique hcode'
      obtain ⟨rfl, rfl⟩ := ih h'
      exact ⟨rfl, rfl⟩

/-- A text begins with one literal at most. -/
theorem Literal.unique (h : Literal text units rest) (h' : Literal text units' rest') :
    units = units' ∧ rest = rest' := by
  obtain ⟨hbody⟩ := h
  obtain ⟨hbody'⟩ := h'
  exact hbody.unique hbody'

/-! ## Escaped characters -/

/-- Each character with whether it is escaped: it follows a backslash that is not escaped itself. -/
def marked (escaped : Bool) : List Char → List (Char × Bool)
  | [] => []
  | c :: rest => (c, escaped) :: marked (!escaped && c == '\\') rest

/-- Without backslashes nothing more is escaped. -/
theorem marked_append {cs : List Char} (h : '\\' ∉ cs) (more : List Char) :
    marked false (cs ++ more) = cs.map (·, false) ++ marked false more := by
  induction cs with
  | nil => rfl
  | cons c cs ih =>
    rw [List.mem_cons, not_or] at h
    have hc : (c == '\\') = false := by simpa using Ne.symm h.1
    simp [marked, hc, ih h.2]

end Strict

namespace Quoted

open Strict

/-! ## Single quotes -/

/-- A character is written as it stands or with an escape, whose letter is no digit. -/
inductive Single (c : Char) : List Char → Prop
  | plain (h : c ∉ ['\\', '\'', '\n', '\r', '\u2028', '\u2029']) : Single c [c]
  | escape {letter : Char} {digits : List Char} (hletter : letter ∈ ['\\', '\'', 'n', 'r', 'u', 'x'])
      (hdigits : (hexNumber? digits).isSome)
      (h : ∀ more, Escapes (letter :: (digits ++ more)) (codeUnits c.toNat) more) : Single c ('\\' :: letter :: digits)

theorem single_escapeSingle (c : Char) : Single c (escapeSingle c) := by
  have named {letter : Char} (hletter : letter ∈ ['\\', '\'', 'n', 'r', 'u', 'x'])
      (h : namedEscapes.lookup letter = some c.toNat) (hc : c.toNat < 0x10000) : Single c ['\\', letter] := by
    refine .escape hletter rfl fun more => ?_
    rw [codeUnits_of_lt hc]
    exact .named h
  unfold escapeSingle
  split
  · next h => exact named (by decide) (by rw [h]; rfl) (by rw [h]; decide)
  split
  · next h => exact named (by decide) (by rw [h]; rfl) (by rw [h]; decide)
  split
  · next h => exact named (by decide) (by rw [h]; rfl) (by rw [h]; decide)
  split
  · next h => exact named (by decide) (by rw [h]; rfl) (by rw [h]; decide)
  split
  · next h => exact .escape (by decide) rfl fun more => by rw [h]; exact .four rfl
  split
  · next h => exact .escape (by decide) rfl fun more => by rw [h]; exact .four rfl
  split
  · next h =>
    obtain ⟨a, b, hab, hnumber⟩ := hexEscape_control h
    rw [hab]
    have hc : c.toNat < 0x10000 := Nat.lt_trans (show c.toNat < 32 from h) (by decide)
    refine .escape (by decide) (by rw [hnumber]; rfl) fun more => ?_
    rw [codeUnits_of_lt hc]
    exact .hex hnumber
  · exact .plain (by simp_all)

/-- What is written for a character goes on with the rest of the literal. -/
theorem body_escapeSingle {text rest : List Char} {units : List Nat} (c : Char) (h : Body text units rest) :
    Body (escapeSingle c ++ text) (codeUnits c.toNat ++ units) rest := by
  have hsingle := single_escapeSingle c
  generalize escapeSingle c = written at hsingle ⊢
  cases hsingle with
  | plain hplain => exact .plain (by simp_all) (by simp_all) (by simp_all) (by simp_all) h
  | escape _ _ hcode => exact .escape (hcode text) h

theorem toList_single_append (value : String) (more : List Char) :
    (single value).toList ++ more = '\'' :: (value.toList.flatMap escapeSingle ++ '\'' :: more) := by
  simp [single]

theorem literal_single (value : String) (more : List Char) :
    Literal ((single value).toList ++ more) (utf16 value) more := by
  have hbody (cs : List Char) :
      Body (cs.flatMap escapeSingle ++ '\'' :: more) (cs.flatMap fun c => codeUnits c.toNat) more := by
    induction cs with
    | nil => exact .close
    | cons c cs ih =>
      rw [List.flatMap_cons, List.flatMap_cons, List.append_assoc]
      exact body_escapeSingle c ih
  rw [toList_single_append]
  exact .quoted (hbody value.toList)

/-- A character inside the quotes: a quote is escaped, an escape begins with no digit and no line ends. -/
def Contained (m : Char × Bool) : Prop :=
  (m.1 = '\'' → m.2 = true) ∧ (m.2 = true → m.1.isDigit = false) ∧ m.1 ∉ ['\n', '\r', '\u2028', '\u2029']

instance : DecidablePred Contained := fun _ => inferInstanceAs (Decidable (_ ∧ _ ∧ _))

/-- What is written for a character is contained, and escapes nothing behind it. -/
theorem marked_escapeSingle (c : Char) (more : List Char) :
    ∃ inner, marked false (escapeSingle c ++ more) = inner ++ marked false more ∧ ∀ m ∈ inner, Contained m := by
  have hsingle := single_escapeSingle c
  generalize escapeSingle c = written at hsingle ⊢
  cases hsingle with
  | plain hplain =>
    have hne : '\\' ∉ [c] := fun hm => hplain (List.mem_singleton.1 hm ▸ List.mem_cons_self)
    refine ⟨_, marked_append hne more, ?_⟩
    simp_all [Contained]
  | @escape letter digits hletter hdigits _ =>
    obtain ⟨n, hnumber⟩ := Option.isSome_iff_exists.1 hdigits
    have hdigit (d : Char) (hd : hexValue? d = none) : d ∉ digits := not_mem_of_hexNumber? hnumber hd
    refine ⟨('\\', false) :: (letter, true) :: digits.map (·, false), ?_, ?_⟩
    · simp [marked, marked_append (hdigit '\\' (by decide))]
    · have hescaped : ['\\', '\'', 'n', 'r', 'u', 'x'].all fun l => Contained (l, true) := by decide
      have hletter : Contained (letter, true) := by simpa using List.all_eq_true.1 hescaped letter hletter
      refine List.forall_mem_cons.2 ⟨by decide, List.forall_mem_cons.2 ⟨hletter, fun m hm => ?_⟩⟩
      obtain ⟨d, hd, rfl⟩ := List.mem_map.1 hm
      have hne (e : Char) (he : hexValue? e = none) : d ≠ e := ne_of_mem_of_not_mem hd (hdigit e he)
      have hends : ['\n', '\r', '\u2028', '\u2029'].all fun e => hexValue? e = none := by decide
      exact ⟨fun h => absurd h (hne '\'' (by decide)), nofun, fun h =>
        hne d (by simpa using List.all_eq_true.1 hends d h) rfl⟩

/-- The quotes around a text are the only ones that are not escaped. -/
theorem marked_single (value : String) :
    ∃ inner, marked false (single value).toList = ('\'', false) :: inner ++ [('\'', false)] ∧
      ∀ m ∈ inner, Contained m := by
  have hbody (cs : List Char) : ∃ inner, marked false (cs.flatMap escapeSingle ++ ['\'']) = inner ++ [('\'', false)] ∧
      ∀ m ∈ inner, Contained m := by
    induction cs with
    | nil => exact ⟨[], rfl, by simp⟩
    | cons c cs ih =>
      obtain ⟨later, hlater, hcontained⟩ := ih
      obtain ⟨first, hfirst, hcontained'⟩ := marked_escapeSingle c (cs.flatMap escapeSingle ++ ['\''])
      refine ⟨first ++ later, ?_, List.forall_mem_append.2 ⟨hcontained', hcontained⟩⟩
      rw [List.flatMap_cons, List.append_assoc, hfirst, hlater, List.append_assoc]
  obtain ⟨inner, hinner, hcontained⟩ := hbody value.toList
  refine ⟨inner, ?_, hcontained⟩
  simpa [single, marked] using hinner

/-! ## Tokens -/

/-- The scanner reads a text between single quotes up to its own closing quote, without a flaw. -/
theorem tokenAt_single (value : String) (more : List Char) (offset : Nat) (strict : Bool) :
    Scan.tokenAt strict ⟨offset, (single value).toList ++ more⟩ =
      (.string value (single value), ⟨offset + (single value).length, more⟩, []) := by
  have hstring : Scan.tokenAt strict ⟨offset, (single value).toList ++ more⟩ =
      Scan.string strict '\'' ⟨offset, (single value).toList ++ more⟩ := by
    rw [toList_single_append]
    rfl
  have hread : StringBody.read '\'' (((single value).toList ++ more).drop 1) =
      ⟨value.toList, (value.toList.flatMap escapeSingle).length + 1, .closed, false⟩ := by
    rw [toList_single_append]
    exact read_single _ _
  have hlength : 1 + ((value.toList.flatMap escapeSingle).length + 1) = (single value).length := by
    simp [single, ← String.length_toList]
    omega
  have hstop : Cursor.forward ⟨offset, (single value).toList ++ more⟩ (single value).length =
      ⟨offset + (single value).length, more⟩ := by
    rw [Cursor.forward, List.drop_left' String.length_toList]
  have hraw : Cursor.slice ⟨offset, (single value).toList ++ more⟩ ⟨offset + (single value).length, more⟩ =
      (single value).toList := by
    rw [Cursor.slice, Nat.add_sub_cancel_left, List.take_left' String.length_toList]
  simp only [hstring, Scan.string, hread, hlength, hstop, hraw, String.ofList_toList]
  simp

/-- Nothing is passed over in front of it, and so no comment either. -/
theorem lexeme_single (value : String) (more : List Char) (offset : Nat) (strict afterLine : Bool) :
    Scan.lexeme strict ⟨offset, (single value).toList ++ more⟩ afterLine =
      ⟨.string value (single value), ⟨offset, (single value).toList ++ more⟩,
        ⟨offset + (single value).length, more⟩, afterLine, [], []⟩ := by
  have hgap : Scan.gap ⟨offset, (single value).toList ++ more⟩ afterLine =
      ⟨⟨offset, (single value).toList ++ more⟩, afterLine, [], none⟩ := by
    rw [toList_single_append]
    rfl
  simp only [Scan.lexeme, hgap, tokenAt_single]

theorem single_injective : Function.Injective single := by
  intro a b h
  have ha := literal_single a []
  rw [h] at ha
  exact utf16_injective (ha.unique (literal_single b [])).1

/-- For all texts: between single quotes they are one literal of strict code, whatever follows it, which stands for the
text; its own quotes are the only ones that are not escaped, no escape in it begins with a digit, no line ends in it, and
the scanner finds it as one token with nothing else in front. Different texts are quoted differently. -/
theorem single_literal :
    (∀ (value : String) (more : List Char) (units : List Nat) (rest : List Char),
      Literal ((single value).toList ++ more) units rest ↔ units = utf16 value ∧ rest = more) ∧
    (∀ value : String, ∃ inner, marked false (single value).toList = ('\'', false) :: inner ++ [('\'', false)] ∧
      ∀ m ∈ inner, Contained m) ∧
    (∀ (value : String) (more : List Char) (offset : Nat) (strict afterLine : Bool),
      Scan.lexeme strict ⟨offset, (single value).toList ++ more⟩ afterLine =
        ⟨.string value (single value), ⟨offset, (single value).toList ++ more⟩,
          ⟨offset + (single value).length, more⟩, afterLine, [], []⟩) ∧
    Function.Injective single := by
  refine ⟨fun value more units rest => ⟨fun h => h.unique (literal_single value more), ?_⟩, marked_single,
    lexeme_single, single_injective⟩
  rintro ⟨rfl, rfl⟩
  exact literal_single value rest

/-- The escape of a control character before digits, and a backslash before a quote and a comment. -/
theorem single_literal_controlBeforeDigits :
    Literal ("'\\x0012'".toList ++ "; f()".toList) [0, 49, 50] "; f()".toList ∧
      Literal ("'\\\\\\'; // x'".toList ++ " + 4".toList) [92, 39, 59, 32, 47, 47, 32, 120] " + 4".toList := by
  have hcontrol : single "\x0012" = "'\\x0012'" := by decide
  have hquote : single "\\'; // x" = "'\\\\\\'; // x'" := by decide
  rw [← hcontrol, ← hquote]
  refine ⟨(single_literal.1 _ _ _ _).2 ⟨by decide, rfl⟩, (single_literal.1 _ _ _ _).2 ⟨by decide, rfl⟩⟩

end Quoted

end Stencil.Script
