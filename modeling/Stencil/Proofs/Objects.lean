import Mathlib.Data.String.Basic
import Stencil.Json.Reader
/-!
# Members in order

An object keeps its members in ascending order of names, and so has one for each name; `Ordered` asks that of all objects
in a value. Names are compared by their characters, which is the order of their bytes (`lt_iff_bytes_lt`). Whatever the
reader gives is ordered (`ordered_of_parse`).
-/

namespace Stencil.Json

/-! ## The order of names -/

/-- The UTF-8 bytes of a name. -/
def bytes (name : String) : List UInt8 := name.toUTF8.data.toList

theorem bytes_eq_flatMap (name : String) : bytes name = name.toList.flatMap String.utf8EncodeChar := by
  rw [bytes, String.toUTF8_eq_toByteArray, ← String.utf8Encode_toList, List.utf8Encode, List.toList_data_toByteArray]

/-- The bytes of a smaller character come before those of a greater one, whatever is behind them. -/
theorem utf8EncodeChar_lt {c d : Char} (h : c < d) (more more' : List UInt8) :
    String.utf8EncodeChar c ++ more < String.utf8EncodeChar d ++ more' := by
  have hlt : c.val.toNat < d.val.toNat := h
  have hbound : d.val.toNat < 0x110000 := by
    rcases d.valid with hlow | ⟨-, hhigh⟩
    · exact Nat.lt_trans hlow (by decide)
    · exact hhigh
  have hdigits (n : Nat) : n / 4096 = n / 64 / 64 ∧ n / 262144 = n / 64 / 64 / 64 := by omega
  unfold String.utf8EncodeChar
  simp only [(hdigits _).1, (hdigits _).2]
  clear hdigits
  -- by the number of bytes of each: more bytes begin with a greater one, as many are digits of the code
  split_ifs <;>
    simp only [List.cons_append, List.nil_append, List.cons_lt_cons_iff, UInt8.lt_iff_toNat_lt, ← UInt8.toNat_inj,
      UInt8.toNat_ofNat'] <;>
    omega

theorem flatMap_utf8EncodeChar_lt {cs ds : List Char} (h : cs < ds) :
    cs.flatMap String.utf8EncodeChar < ds.flatMap String.utf8EncodeChar := by
  induction cs generalizing ds with
  | nil =>
    cases ds with
    | nil => cases h
    | cons d ds =>
      obtain ⟨first, more, heq⟩ := List.exists_cons_of_ne_nil (@String.utf8EncodeChar_ne_nil d)
      rw [List.flatMap_cons, heq]
      exact List.nil_lt_cons _ _
  | cons c cs ih =>
    cases ds with
    | nil => cases h
    | cons d ds =>
      rw [List.flatMap_cons, List.flatMap_cons]
      rcases List.cons_lt_cons_iff.1 h with hlt | ⟨rfl, hrest⟩
      · exact utf8EncodeChar_lt hlt _ _
      · exact List.append_left_lt (ih hrest)

/-- Names are in the order of their bytes. -/
theorem lt_iff_bytes_lt {a b : String} : a < b ↔ bytes a < bytes b := by
  have hbytes {a b : String} (h : a < b) : bytes a < bytes b := by
    rw [bytes_eq_flatMap, bytes_eq_flatMap]
    exact flatMap_utf8EncodeChar_lt (String.lt_iff.1 h)
  refine ⟨hbytes, fun h => ?_⟩
  rcases lt_trichotomy a b with hlt | rfl | hgt
  · exact hlt
  · exact absurd h (List.lt_irrefl _)
  · exact absurd h (List.lt_asymm (hbytes hgt))

/-! ## Ordered values -/

/-- Every object in a value keeps its members in ascending order of names. -/
inductive Ordered : Json → Prop
  | null : Ordered .null
  | bool (value : Bool) : Ordered (.bool value)
  | number (value : Number) : Ordered (.number value)
  | string (value : String) : Ordered (.string value)
  | array {items : List Json} (h : ∀ item ∈ items, Ordered item) : Ordered (.array items)
  | object {members : List (String × Json)} (ascending : members.Pairwise fun a b => a.1 < b.1)
      (h : ∀ member ∈ members, Ordered member.2) : Ordered (.object members)

theorem mem_insertMember {name : String} {value : Json} {members : List (String × Json)} {m : String × Json}
    (h : m ∈ insertMember name value members) : m = (name, value) ∨ m ∈ members := by
  induction members with
  | nil => exact .inl (List.mem_singleton.1 h)
  | cons first rest ih =>
    rw [insertMember] at h
    split at h
    · exact (List.mem_cons.1 h).imp id (List.mem_cons_of_mem _)
    split at h
    · exact List.mem_cons.1 h
    · rcases List.mem_cons.1 h with rfl | hrest
      · exact .inr List.mem_cons_self
      · exact (ih hrest).imp id (List.mem_cons_of_mem _)

theorem pairwise_insertMember {members : List (String × Json)} (h : members.Pairwise fun a b => a.1 < b.1)
    (name : String) (value : Json) : (insertMember name value members).Pairwise fun a b => a.1 < b.1 := by
  induction members with
  | nil => exact List.pairwise_singleton _ _
  | cons first rest ih =>
    obtain ⟨hfirst, hrest⟩ := List.pairwise_cons.1 h
    rw [insertMember]
    split
    · next heq => exact List.pairwise_cons.2 ⟨fun m hm => heq ▸ hfirst m hm, hrest⟩
    · next hne =>
      split
      · next hbefore =>
        have hlt : name < first.1 := by simpa [nameBefore] using hbefore
        exact List.pairwise_cons.2 ⟨List.forall_mem_cons.2 ⟨hlt, fun m hm => lt_trans hlt (hfirst m hm)⟩, h⟩
      · next hafter =>
        have hlt : first.1 < name :=
          lt_of_le_of_ne (not_lt.1 (by simpa [nameBefore] using hafter)) hne
        refine List.pairwise_cons.2 ⟨fun m hm => ?_, ih hrest⟩
        rcases mem_insertMember hm with rfl | hm
        · exact hlt
        · exact hfirst m hm

/-- However the members come, the object is ordered. -/
theorem ordered_ofMembers {members : List (String × Json)} (h : ∀ member ∈ members, Ordered member.2) :
    Ordered (ofMembers members) := by
  have hfold : ∀ sorted : List (String × Json), Ordered (.object sorted) →
      Ordered (.object (members.foldl (fun sorted m => insertMember m.1 m.2 sorted) sorted)) := by
    induction members with
    | nil => exact fun _ => id
    | cons first rest ih =>
      obtain ⟨hfirst, hrest⟩ := List.forall_mem_cons.1 h
      rintro sorted (_ | _ | _ | _ | _ | ⟨ascending, hsorted⟩)
      refine ih hrest _ (.object (pairwise_insertMember ascending _ _) fun m hm => ?_)
      rcases mem_insertMember hm with rfl | hm
      · exact hfirst
      · exact hsorted m hm
  exact hfold [] (.object .nil (by simp))

/-! ## The reader -/

namespace Read

variable {α β : Type} {P : α → Prop} {Q : β → Prop}

/-- What a step gives has a property. -/
def Gives (step : Read α) (P : α → Prop) : Prop :=
  ∀ cur result, step.run cur = .ok result → P result.1

theorem Gives.pure {a : α} (h : P a) : Gives (pure a) P := by
  rintro cur result hrun
  cases hrun
  exact h

theorem Gives.bind {step : Read β} {next : β → Read α} (h : Gives step Q) (hnext : ∀ b, Q b → Gives (next b) P) :
    Gives (step >>= next) P := by
  intro cur result hrun
  rw [StateT.run_bind] at hrun
  cases hstep : step.run cur with
  | error fault =>
    rw [hstep] at hrun
    cases hrun
  | ok between =>
    rw [hstep] at hrun
    exact hnext _ (h _ _ hstep) _ _ hrun

/-- Nothing has to be known of what a step gives. -/
theorem Gives.after {step : Read β} {next : β → Read α} (hnext : ∀ b, Gives (next b) P) : Gives (step >>= next) P :=
  .bind (Q := fun _ => True) (fun _ _ _ => trivial) fun b _ => hnext b

theorem Gives.choice {p : Prop} [Decidable p] {step other : Read α} (h : Gives step P) (hother : Gives other P) :
    Gives (if p then step else other) P := by
  split
  · exact h
  · exact hother

theorem Gives.failNext (cause : Cause) : Gives (failNext cause : Read α) P := by
  intro cur result hrun
  cases hrun

/-- What follows the comma behind an earlier item, or follows at once. -/
theorem Gives.separated {step : Read α} (h : Gives step P) (first : Bool) (c closing : Char) (missing : Cause) :
    Gives (do
      if !first then
        if c != ',' then Read.failNext missing
        skip
        if (← next) = some closing then Read.failNext .trailingComma
      step) P := by
  have hbehind : Gives (do
      if (← next) = some closing then Read.failNext .trailingComma
      step) P := .after fun _ => .choice (.after fun _ => h) h
  exact .choice (.choice (.after fun _ => .after fun _ => hbehind) (.after fun _ => hbehind)) h

theorem gives_elements {depth : Nat} (h : Gives (value depth) Ordered) (steps : Nat) (first : Bool) :
    Gives (value.elements depth steps first) fun items => ∀ item ∈ items, Ordered item := by
  induction steps generalizing first with
  | zero =>
    rw [value.elements]
    exact .failNext _
  | succ steps ih =>
    have hitem : Gives (do
        let item ← value depth
        return item :: (← value.elements depth steps false)) fun items => ∀ item ∈ items, Ordered item :=
      .bind h fun item hitem => .bind (ih false) fun items hitems => .pure (List.forall_mem_cons.2 ⟨hitem, hitems⟩)
    rw [value.elements]
    refine .after fun c? => ?_
    split
    · exact .failNext _
    · exact .after fun _ => .pure (by simp)
    · exact .separated hitem _ _ _ _

theorem gives_entries {depth : Nat} (h : Gives (value depth) Ordered) (steps : Nat) (first : Bool) :
    Gives (value.entries depth steps first) fun members => ∀ member ∈ members, Ordered member.2 := by
  induction steps generalizing first with
  | zero =>
    rw [value.entries]
    exact .failNext _
  | succ steps ih =>
    rw [value.entries]
    refine .after fun c? => ?_
    split
    · exact .failNext _
    · exact .after fun _ => .pure (by simp)
    · refine .separated (.after fun quote? => ?_) _ _ _ _
      split
      · exact .failNext _
      · exact .after fun name => .after fun _ => .bind h fun item hitem =>
          .bind (ih false) fun members hmembers => .pure (List.forall_mem_cons.2 ⟨hitem, hmembers⟩)
      · exact .failNext _

theorem gives_value (depth : Nat) : Gives (value depth) Ordered := by
  induction depth with
  | zero =>
    rw [value]
    exact .failNext _
  | succ depth ih =>
    rw [value]
    refine .after fun c? => ?_
    split
    · exact .failNext _
    · exact .after fun _ => .after fun _ => .pure .null
    · exact .after fun _ => .after fun _ => .pure (.bool true)
    · exact .after fun _ => .after fun _ => .pure (.bool false)
    · exact .after fun text => .pure (.string text)
    · exact .after fun _ => .after fun _ => .bind (gives_elements ih _ _) fun items h => .pure (.array h)
    · exact .after fun _ => .after fun _ => .bind (gives_entries ih _ _) fun members h => .pure (ordered_ofMembers h)
    · exact .choice (.after fun number => .pure (.number number)) (.failNext _)

end Read

/-- Every value that a text holds is ordered. -/
theorem ordered_of_parse {text : String} {value : Json} (h : parse text = .ok value) : Ordered value := by
  unfold parse at h
  cases hrun : (Read.value ((Cursor.start text).rest.length + 1)).run (Cursor.start text) with
  | error fault =>
    simp only [hrun] at h
    cases h
  | ok result =>
    simp only [hrun] at h
    cases hfinish : Read.finish.run result.2 with
    | error fault =>
      simp only [bind, Except.bind, hfinish] at h
      cases h
    | ok _ =>
      simp only [bind, Except.bind, hfinish] at h
      cases h
      exact Read.gives_value _ _ _ hrun

end Stencil.Json
