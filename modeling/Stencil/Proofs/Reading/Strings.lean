import Mathlib.Data.List.Basic
import Stencil.Script.Scan.Token
/-!
# Scanned string literals

The token of a string literal carries a value and a spelling. What was read looks no further than to the closing
quote, or behind an escape to one character that still is part of the literal, so the spelling alone is read with the
same value (`read_of_closed`). A token that is scanned without a flaw is therefore `Coherent` (`coherent_lexeme`),
also when it is read again (`coherent_rescan`).
-/

namespace Stencil.Script

/-! ## Escapes without what is behind them -/

namespace Escape

variable {a b : List Char} {e : Escape}

theorem octalDigits_append (h : (octalDigits (a ++ b)).length < a.length) : octalDigits (a ++ b) = octalDigits a := by
  match a, b with
  | [], _ => simp at h
  | a, [] => rw [List.append_nil]
  | [x], [y] =>
    simp only [List.singleton_append, octalDigits] at h
    split at h <;> simp at h
  | [x], y :: z :: b =>
    simp only [List.singleton_append, octalDigits] at h
    split at h
    · split at h <;> simp at h
    · simp at h
  | [x, y], z :: b =>
    simp only [List.cons_append, List.nil_append, octalDigits] at h ⊢
    split
    · rename_i hy
      rw [if_pos hy] at h
      split at h <;> simp at h
    · rfl
  | x :: y :: z :: a, b => rfl

theorem octal_append (h : (octal (a ++ b)).length < a.length) : octal (a ++ b) = octal a := by
  have hdigits : octalDigits (a ++ b) = octalDigits a := octalDigits_append h
  -- a zero alone is told from an octal number by the character behind it, which is part of `a`
  have hnext : octalDigits a = ['0'] → (a ++ b)[1]? = a[1]? := by
    intro hzero
    have hlength : 1 < a.length := by simpa [octal, hdigits, hzero] using h
    exact List.getElem?_append_left hlength
  simp only [octal, hdigits]
  by_cases hzero : octalDigits a = ['0']
  · rw [hnext hzero]
  · simp [hzero]

/-- A run that ends inside a text is the same whatever is behind the text. -/
theorem takeWhile_append_of_length_lt {p : Char → Bool} (h : ((a ++ b).takeWhile p).length < a.length) :
    (a ++ b).takeWhile p = a.takeWhile p := by
  rw [List.takeWhile_append] at h ⊢
  split
  · rename_i hall
    rw [if_pos hall, List.length_append] at h
    omega
  · rfl

theorem codePoint?_append {n length : Nat} (h : codePoint? (a ++ b) = some (n, length)) (ha : length < a.length) :
    codePoint? a = some (n, length) := by
  unfold codePoint? at h
  split at h
  · rename_i rest heq
    match a with
    | [] => simp at ha
    | c :: a =>
      obtain ⟨rfl, hrest⟩ := List.cons.inj heq
      change a ++ b = rest at hrest
      subst hrest
      simp only at h
      split at h
      · cases h
      · rename_i hdigits
        obtain ⟨m, hm, h⟩ := Option.bind_eq_some_iff.1 h
        split at h <;> cases h
        rename_i hmax
        have hsame : (a ++ b).takeWhile (· != '\x7d') = a.takeWhile (· != '\x7d') :=
          takeWhile_append_of_length_lt (by simp at ha; omega)
        rw [hsame] at hm hdigits ha ⊢
        have hshort : ¬ ((a.takeWhile (· != '\x7d')).isEmpty = true ∨
            (a.takeWhile (· != '\x7d')).length = a.length) := by
          rw [not_or] at hdigits ⊢
          exact ⟨hdigits.1, by simp at ha; omega⟩
        simp only [codePoint?, if_neg hshort, hm, Option.bind_some, if_pos hmax]
  · rename_i hbrace heq
    obtain ⟨m, hm, h⟩ := Option.map_eq_some_iff.1 h
    cases h
    match a with
    | [] | [_] | [_, _] | [_, _, _] => simp at ha
    | _ :: _ :: _ :: _ :: a =>
      cases heq
      rw [codePoint?.eq_2 _ _ _ _ _ hbrace, hm, Option.map_some]
  · cases h

/-- An escape is the same without what follows the character behind it. -/
theorem read?_append (h : read? (a ++ b) = some e) (ha : e.length < a.length) : read? a = some e := by
  match a with
  | [] => simp at ha
  | c :: a =>
    rw [List.cons_append] at h
    unfold read? at h
    split at h
    case h_1 heq => cases heq
    case h_2 heq | h_3 heq | h_4 heq | h_5 heq | h_6 heq | h_7 heq =>
      cases heq
      exact h
    case h_8 heq =>
      cases h
      match a with
      | [] => simp at ha
      | _ :: a =>
        cases heq
        rfl
    -- the digits are all in `a`, which is longer than the escape
    case h_9 heq =>
      obtain ⟨m, hm, h⟩ := Option.map_eq_some_iff.1 h
      cases h
      match a with
      | [] | [_] => simp at ha
      | _ :: _ :: a =>
        cases heq
        rw [read?, hm, Option.map_some]
    case h_10 => cases h
    case h_11 rest heq =>
      obtain ⟨rfl, hrest⟩ := List.cons.inj heq
      change a ++ b = rest at hrest
      subst hrest
      obtain ⟨⟨n, length⟩, hn, h⟩ := Option.map_eq_some_iff.1 h
      simp only at h
      have hlength : length < a.length := by
        split at h <;> cases h <;> simpa using ha
      rw [List.take_append_of_le_length (Nat.le_of_lt hlength)] at h
      rw [read?, codePoint?_append hn hlength, Option.map_some]
      exact congrArg some h
    case h_12 hn hr ht hb hv hf hline hx hx' hu heq =>
      obtain ⟨rfl, hrest⟩ := List.cons.inj heq
      change a ++ b = _ at hrest
      subst hrest
      rw [read?.eq_12 _ _ hn hr ht hb hv hf _ _ hx' hu]
      · split at h <;> rename_i hend
        · rwa [if_pos hend]
        · rw [if_neg hend]
          split at h <;> rename_i hoctal
          · rw [if_pos hoctal, ← h]
            cases h
            exact congrArg some (octal_append (a := c :: a) ha).symm
          · rwa [if_neg hoctal]
      · rintro rest rfl rfl
        exact hline _ rfl rfl
      · rintro _ _ _ rfl
        exact absurd rfl hx'

end Escape

/-! ## Literals without what is behind them -/

namespace StringBody

variable {quote : Char} {a b : List Char}

theorem length_pos_of_closed {cs : List Char} (h : (read quote cs).ending = .closed) : 0 < (read quote cs).length := by
  fun_induction read quote cs with
  | case1 | case3 | case5 => cases h
  | case2 => exact Nat.one_pos
  | case4 | case6 =>
    simp only [prepend]
    omega

theorem length_le_of_closed {cs : List Char} (h : (read quote cs).ending = .closed) :
    (read quote cs).length ≤ cs.length := by
  fun_induction read quote cs with
  | case1 | case3 | case5 => cases h
  | case2 => simp
  | case4 rest e _ _ _ ih =>
    have hle := ih h
    have hpos := length_pos_of_closed h
    simp only [prepend, List.length_cons, List.length_drop] at hle ⊢
    omega
  | case6 c rest _ _ _ ih =>
    have hle := ih h
    simp only [prepend, List.length_cons]
    omega

/-- A literal that is closed is read the same way without what is behind it. -/
theorem read_of_closed (h : (read quote (a ++ b)).ending = .closed) (ha : (read quote (a ++ b)).length = a.length) :
    read quote a = read quote (a ++ b) := by
  generalize hcs : a ++ b = cs at h ha ⊢
  -- what is read takes a character at least, so `a` begins as the whole text does
  have hpos : 0 < a.length := ha ▸ length_pos_of_closed h
  fun_induction read quote cs generalizing a with
  | case1 | case3 | case5 => cases h
  | case2 rest =>
    obtain ⟨c, rfl⟩ := List.length_eq_one_iff.1 ha.symm
    obtain ⟨rfl, -⟩ := List.cons.inj hcs
    rw [read, if_pos rfl]
  | case4 rest e he hquote hend ih =>
    obtain ⟨c, a, rfl⟩ := List.exists_cons_of_length_pos hpos
    obtain ⟨rfl, hrest⟩ := List.cons.inj hcs
    change a ++ b = rest at hrest
    subst hrest
    have hinside := length_pos_of_closed h
    simp only [prepend, List.length_cons] at ha
    have hescape : e.length < a.length := by omega
    rw [List.drop_append_of_le_length (Nat.le_of_lt hescape)] at h ha hinside ih ⊢
    have hlength : (read quote (a.drop e.length ++ b)).length = (a.drop e.length).length := by
      rw [List.length_drop]
      omega
    rw [read, if_neg hquote, if_neg hend, if_pos rfl, Escape.read?_append he hescape]
    simp only
    rw [ih rfl h hlength (by omega)]
  | case6 c rest hquote hend hbackslash ih =>
    obtain ⟨_, a, rfl⟩ := List.exists_cons_of_length_pos hpos
    obtain ⟨rfl, hrest⟩ := List.cons.inj hcs
    have hinside := length_pos_of_closed h
    simp only [prepend, List.length_cons] at ha
    have hlength : (read quote rest).length = a.length := by omega
    rw [read, if_neg hquote, if_neg hend, if_neg hbackslash, ih hrest h hlength (by omega)]

/-- What stands up to the closing quote is a whole literal. -/
theorem stringValue?_of_closed {rest : List Char} (hquote : quote = '\'' ∨ quote = '"')
    (h : (read quote rest).ending = .closed) :
    stringValue? (quote :: rest.take (read quote rest).length) = some (read quote rest).value := by
  have hlength : (rest.take (read quote rest).length).length = (read quote rest).length :=
    List.length_take_of_le (length_le_of_closed h)
  have hwhole := List.take_append_drop (read quote rest).length rest
  have hread : read quote (rest.take (read quote rest).length) = read quote rest := by
    have hsame := read_of_closed (by rwa [hwhole]) (by rw [hwhole, hlength])
    rwa [hwhole] at hsame
  simp [stringValue?, hread, hquote, h, hlength]

end StringBody

/-! ## Tokens -/

/-- The value of a string literal is read back from its spelling. -/
def Token.Coherent : Token → Prop
  | .string value raw => stringValue? raw.toList = some value.toList
  | _ => True

namespace Scan

/-- What is scanned without a flaw is coherent. -/
def Reliable (scanned : Token × Cursor × List Flaw) : Prop := scanned.2.2 = [] → scanned.1.Coherent

theorem reliable_string {strict : Bool} {quote : Char} {cur : Cursor} {rest : List Char}
    (hquote : quote = '\'' ∨ quote = '"') (hrest : cur.rest = quote :: rest) : Reliable (string strict quote cur) := by
  intro h
  have hbody : cur.rest.drop 1 = rest := by rw [hrest]; rfl
  have hslice : cur.slice (cur.forward (1 + (StringBody.read quote rest).length)) =
      quote :: rest.take (StringBody.read quote rest).length := by
    simp [Cursor.slice, Cursor.forward, hrest, Nat.add_comm 1]
  unfold string at h ⊢
  simp only [hbody, hslice] at h ⊢
  split at h <;> rename_i hending
  · simpa [Token.Coherent] using StringBody.stringValue?_of_closed hquote hending
  · simp at h
  · trivial

theorem reliable_number (strict : Bool) (cur : Cursor) : Reliable (number strict cur) := by
  intro _
  unfold number
  simp only
  split
  · trivial
  split
  · trivial
  · cases (numberExtent cur.rest).isBig <;> trivial

theorem reliable_word (cur : Cursor) : Reliable (word cur) := by
  intro _
  unfold word
  simp only
  split <;> trivial

theorem reliable_privateName (cur : Cursor) : Reliable (privateName cur) := by
  have hword := reliable_word (cur.forward 1)
  unfold privateName
  split
  · exact fun _ => trivial
  · exact fun _ => trivial
  · exact hword

theorem reliable_punctuator (c : Char) (cur : Cursor) : Reliable (punctuator c cur) := by
  intro _
  unfold punctuator
  split <;> trivial

theorem reliable_tokenAt (strict : Bool) (cur : Cursor) : Reliable (tokenAt strict cur) := by
  unfold tokenAt
  split
  · exact fun _ => trivial
  split
  · exact reliable_number strict cur
  split
  · exact reliable_string (by simp_all [or_comm]) ‹_›
  split
  · exact reliable_privateName cur
  split
  · exact reliable_word cur
  · exact reliable_punctuator _ cur

theorem coherent_lexeme {strict afterLine : Bool} {cur : Cursor} (h : (lexeme strict cur afterLine).flaws = []) :
    (lexeme strict cur afterLine).token.Coherent := by
  generalize hnext : lexeme strict cur afterLine = next at h ⊢
  unfold lexeme at hnext
  simp only at hnext
  split at hnext <;> subst hnext
  · trivial
  · exact reliable_tokenAt strict _ h

/-- A token that was coherent is so when it is read again without a flaw. -/
theorem coherent_rescan {strict : Bool} {lexeme : Lexeme} (hcoherent : lexeme.token.Coherent)
    (h : (rescan strict lexeme).flaws = []) : (rescan strict lexeme).token.Coherent := by
  generalize hnext : rescan strict lexeme = next at h ⊢
  unfold rescan at hnext
  split at hnext <;> subst hnext
  · exact hcoherent
  · exact reliable_tokenAt strict lexeme.start h

end Scan

end Stencil.Script
