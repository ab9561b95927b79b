import Stencil.Proofs.Agreement
import Stencil.Proofs.Objects
/-!
# Prepared arguments

A template is rendered with a JSON value, or with arguments that were prepared one by one. The entries of a mapping are
set in the order of their names and prepared ones in any order, but each flavor has one entry, so the order is out of
sight (`ofFlavors_of_perm`). `render_prepared` is the statement about templates: values that can be no arguments are
refused before anything else happens, and the first one in the order of bytes is reported; where mappings give texts
only, the others render as prepared arguments do.
-/

namespace Stencil

namespace Json

/-! ## Values -/

/-- A value that can be an argument: a text or a mapping. -/
def IsArgument : Json → Prop
  | .string _ | .object _ => True
  | _ => False

/-- A value that gives a text or nothing for a flavor. -/
def IsTextOrNull : Json → Prop
  | .string _ | .null => True
  | _ => False

instance : DecidablePred IsArgument
  | .string _ | .object _ => .isTrue trivial
  | .null | .bool _ | .number _ | .array _ => .isFalse id

instance : DecidablePred IsTextOrNull
  | .string _ | .null => .isTrue trivial
  | .object _ | .bool _ | .number _ | .array _ => .isFalse id

/-- What a value is for a flavor. -/
def supplied? : Json → Option Argument.Entry
  | .null => none
  | .string text => some (.text text)
  | _ => some .other

/-- The text of a string value by flavor, if its name is one. -/
def flavorText? (member : String × Json) : Option (Flavor × String) := do
  return (← Flavor.ofName? member.1, ← member.2.string?)

/-- The value without those members of a mapping that name no flavor or are null. -/
def pruned : Json → Json
  | .object members =>
    .object (members.filter fun member => (Flavor.ofName? member.1).isSome && !(member.2 matches .null))
  | value => value

/-- What a value is for a flavor, if its name is one. -/
def flavored? (member : String × Json) : Option (Flavor × Argument.Entry) := do
  return (← Flavor.ofName? member.1, ← member.2.supplied?)

theorem mem_of_member? {members : List (String × Json)} {name : String} {value : Json}
    (h : (Json.object members).member? name = some value) : (name, value) ∈ members := by
  obtain ⟨member, hfind, rfl⟩ := Option.map_eq_some_iff.1 h
  have hname : member.1 = name := by simpa using List.find?_some hfind
  exact hname ▸ List.mem_of_find?_eq_some hfind

end Json

open Json

namespace Argument

/-! ## One argument -/

/-- The argument with entries that are set one after the other. -/
def ofEntries (entries : List (Flavor × Entry)) : Argument :=
  entries.foldl (fun a entry => a.set entry.1 entry.2) empty

theorem addMember_result (name : String) (a : Argument) (member : String × Json) :
    (addMember name a member).result = .ok ((flavored? member).elim a fun entry => a.set entry.1 entry.2) := by
  obtain ⟨key, value⟩ := member
  unfold addMember flavored?
  cases Flavor.ofName? key with
  | none => rfl
  | some flavor => cases value <;> rfl

/-- A mapping is the argument of its entries. -/
theorem ofValue_object (name : String) (members : List (String × Json)) :
    (ofValue name (.object members)).result = .ok (ofEntries (members.filterMap flavored?)) := by
  have hfold := Logged.foldlM_result_ok (fun a member (_ : member ∈ members) => addMember_result name a member) empty
  refine hfold.trans ?_
  rw [ofEntries, List.foldl_filterMap]
  congr 2
  funext a member
  cases flavored? member <;> rfl

theorem ofFlavors_eq (texts : List (Flavor × String)) :
    ofFlavors texts = ofEntries (texts.map fun text => (text.1, .text text.2)) := by
  rw [ofEntries, List.foldl_map]
  rfl

@[simp] theorem entry?_set (a : Argument) (flavor : Flavor) (entry : Entry) (f : Flavor) :
    entry? (a.set flavor entry) f = if f = flavor then some entry else a.entry? f := rfl

theorem set_comm {a : Argument} {flavor flavor' : Flavor} (h : flavor ≠ flavor') (entry entry' : Entry) :
    (a.set flavor entry).set flavor' entry' = (a.set flavor' entry').set flavor entry := by
  refine congrArg mk (funext fun f => ?_)
  by_cases hf : f = flavor
  · subst hf
    simp [h]
  · simp [hf]

/-- Where each flavor has one entry, their order does not matter. -/
theorem ofEntries_of_perm {entries entries' : List (Flavor × Entry)} (h : entries.Perm entries')
    (hnodup : (entries.map Prod.fst).Nodup) : ofEntries entries = ofEntries entries' := by
  refine h.foldl_eq' (fun entry hm entry' hm' a => ?_) empty
  by_cases heq : entry.1 = entry'.1
  · rw [List.inj_on_of_nodup_map hnodup hm hm' heq]
  · exact set_comm heq _ _

theorem entry?_foldl_of_not_mem {entries : List (Flavor × Entry)} {flavor : Flavor}
    (h : flavor ∉ entries.map Prod.fst) (a : Argument) :
    entry? (entries.foldl (fun a entry => a.set entry.1 entry.2) a) flavor = a.entry? flavor := by
  induction entries generalizing a with
  | nil => rfl
  | cons first rest ih =>
    rw [List.map_cons, List.mem_cons, not_or] at h
    rw [List.foldl_cons, ih h.2, entry?_set, if_neg h.1]

theorem entry?_ofEntries {entries : List (Flavor × Entry)} {flavor : Flavor} {entry : Entry}
    (h : (flavor, entry) ∈ entries) (hnodup : (entries.map Prod.fst).Nodup) :
    entry? (ofEntries entries) flavor = some entry := by
  obtain ⟨before, after, rfl⟩ := List.append_of_mem h
  rw [List.map_append, List.map_cons] at hnodup
  have hafter : flavor ∉ after.map Prod.fst := (List.nodup_cons.1 hnodup.of_append_right).1
  rw [ofEntries, List.foldl_append, List.foldl_cons, entry?_foldl_of_not_mem hafter, entry?_set, if_pos rfl]

/-! ## Mappings -/

theorem flavored?_eq_some_iff {member : String × Json} {flavor : Flavor} {entry : Entry} :
    flavored? member = some (flavor, entry) ↔ member.1 = flavor.name ∧ member.2.supplied? = some entry := by
  have hname : Flavor.ofName? flavor.name = some flavor := by cases flavor <;> rfl
  simp only [flavored?, bind, Option.bind_eq_some_iff, pure, Option.some.injEq, Prod.mk.injEq]
  constructor
  · rintro ⟨f, hf, e, he, rfl, rfl⟩
    have hfound : f.name = member.1 := by simpa using List.find?_some hf
    exact ⟨hfound.symm, he⟩
  · rintro ⟨hmember, hentry⟩
    exact ⟨flavor, hmember ▸ hname, entry, hentry, rfl, rfl⟩

variable {members : List (String × Json)}

/-- An object has one member for each name, and so a mapping has one entry for each flavor. -/
theorem nodup_flavorEntries (h : members.Pairwise fun a b => a.1 < b.1) :
    ((members.filterMap flavored?).map Prod.fst).Nodup := by
  refine List.pairwise_map.2 (h.filterMap _ fun m m' hlt entry hentry entry' hentry' heq => ?_)
  have hm := (flavored?_eq_some_iff.1 hentry).1
  have hm' := (flavored?_eq_some_iff.1 hentry').1
  rw [hm, hm', heq] at hlt
  exact lt_irrefl _ hlt

/-- A mapping in which every entry with a known name is a text or null. -/
def OnlyTexts (members : List (String × Json)) : Prop :=
  ∀ member ∈ members, (Flavor.ofName? member.1).isSome → member.2.IsTextOrNull

instance : DecidablePred OnlyTexts := fun _ => List.decidableBAll _ _

theorem flavorEntries_of_onlyTexts (h : OnlyTexts members) :
    members.filterMap flavored? = (members.filterMap flavorText?).map fun text => (text.1, .text text.2) := by
  rw [List.map_filterMap]
  refine List.filterMap_congr fun member hm => ?_
  have htext := h member hm
  obtain ⟨name, value⟩ := member
  unfold flavored? flavorText?
  cases hname : Flavor.ofName? name with
  | none => rfl
  | some flavor =>
    have hvalue : value.IsTextOrNull := htext (by simp [hname])
    cases value with
    | null | string => rfl
    | _ => cases hvalue

/-- Prepared texts of a mapping make the same argument in any order. -/
theorem ofFlavors_of_perm {texts : List (Flavor × String)} (hascending : members.Pairwise fun a b => a.1 < b.1)
    (honly : OnlyTexts members) (h : texts.Perm (members.filterMap flavorText?)) :
    ofFlavors texts = ofEntries (members.filterMap flavored?) := by
  have hentries := flavorEntries_of_onlyTexts honly
  have hnodup := nodup_flavorEntries hascending
  rw [hentries] at hnodup ⊢
  rw [ofFlavors_eq]
  exact ofEntries_of_perm (h.map _) (((h.map _).map _).nodup_iff.2 hnodup)

/-- An entry that is neither text nor null hides the default. -/
theorem flavor?_of_not_textOrNull {flavor : Flavor} {value : Json} (hascending : members.Pairwise fun a b => a.1 < b.1)
    (hm : (flavor.name, value) ∈ members) (hvalue : ¬ value.IsTextOrNull) :
    (ofEntries (members.filterMap flavored?)).flavor? flavor = none := by
  have hother : value.supplied? = some .other := by
    cases value with
    | null | string => exact absurd trivial hvalue
    | _ => rfl
  have hentry : (flavor, Entry.other) ∈ members.filterMap flavored? :=
    List.mem_filterMap.2 ⟨_, hm, flavored?_eq_some_iff.2 ⟨rfl, hother⟩⟩
  rw [flavor?, entry?_ofEntries hentry (nodup_flavorEntries hascending)]
  rfl

/-- The argument of a text or a mapping. -/
def ofJson : Json → Argument
  | .string text => ofText text
  | .object members => ofEntries (members.filterMap flavored?)
  | _ => empty

theorem ofValue_of_isArgument {value : Json} (h : value.IsArgument) (name : String) :
    (ofValue name value).result = .ok (ofJson value) := by
  cases value with
  | string text => rfl
  | object members => exact ofValue_object name members
  | _ => cases h

theorem ofValue_of_not_isArgument {value : Json} (h : ¬ value.IsArgument) (name : String) :
    (ofValue name value).result = .error (.illegalArgument name value.describe) := by
  cases value with
  | string | object => exact absurd trivial h
  | _ => rfl

/-- Members that name no flavor and null ones may be left out. -/
theorem ofValue_pruned (name : String) (value : Json) :
    (ofValue name value.pruned).result = (ofValue name value).result := by
  cases value with
  | object members =>
    rw [pruned, ofValue_object, ofValue_object, List.filterMap_filter]
    refine congrArg (fun entries => Except.ok (ofEntries entries)) (List.filterMap_congr fun member _ => ?_)
    obtain ⟨key, value⟩ := member
    unfold flavored?
    cases Flavor.ofName? key with
    | none => rfl
    | some flavor => cases value <;> rfl
  | _ => rfl

/-- Prepared from a value, or absent with it: the text of a string, or texts of a mapping in any order. -/
inductive Prepared : Option Json → Option Argument → Prop
  | absent : Prepared none none
  | text (text : String) : Prepared (some (.string text)) (some (ofText text))
  | flavors {members : List (String × Json)} {texts : List (Flavor × String)}
      (h : texts.Perm (members.filterMap flavorText?)) : Prepared (some (.object members)) (some (ofFlavors texts))

theorem Prepared.eq {value? : Option Json} {a? : Option Argument} (h : Prepared value? a?)
    (hvalue : ∀ members, value? = some (.object members) →
      (members.Pairwise fun a b => a.1 < b.1) ∧ OnlyTexts members) : a? = value?.map ofJson := by
  cases h with
  | absent => rfl
  | text text => rfl
  | flavors htexts =>
    obtain ⟨hascending, honly⟩ := hvalue _ rfl
    exact congrArg some (ofFlavors_of_perm hascending honly htexts)

end Argument

namespace Arguments

open Argument

/-! ## All arguments -/

theorem find?_insert (arguments : Arguments) (name : String) (argument : Argument) (other : String) :
    (arguments.insert name argument).find? other =
      if other = name then some argument else arguments.find? other := by
  unfold find? insert
  split
  · next heq => simp [heq]
  · next hne =>
    rw [List.find?_cons_of_neg (by simpa using Ne.symm hne), List.find?_filter]
    congr 2
    funext entry
    by_cases hentry : entry.1 = other
    · simp [hentry, hne]
    · simp [hentry]

/-- The arguments of members that can be some. -/
def ofJson (members : List (String × Json)) : Arguments :=
  members.foldl (fun arguments member => arguments.insert member.1 (Argument.ofJson member.2)) []

variable {members : List (String × Json)}

theorem ofMembers_of_isArgument (h : ∀ member ∈ members, member.2.IsArgument) :
    (ofMembers members).result = .ok (ofJson members) := by
  refine Logged.foldlM_result_ok (fun arguments member hm => ?_) []
  rw [Logged.bind_result, ofValue_of_isArgument (h member hm)]
  rfl

/-- The first member that can be no argument is reported. -/
theorem ofMembers_of_not_isArgument {before after : List (String × Json)} {member : String × Json}
    (hbefore : ∀ earlier ∈ before, earlier.2.IsArgument) (h : ¬ member.2.IsArgument) :
    (ofMembers (before ++ member :: after)).result = .error (.illegalArgument member.1 member.2.describe) := by
  have hok : (ofMembers before).result = .ok (ofJson before) := ofMembers_of_isArgument hbefore
  unfold ofMembers at hok ⊢
  rw [List.foldlM_append, Logged.bind_result, hok, Logged.except_ok_bind, List.foldlM_cons, Logged.bind_result,
    Logged.bind_result, ofValue_of_not_isArgument h]
  rfl

theorem find?_foldl_insert (h : members.Pairwise fun a b => a.1 < b.1) (arguments : Arguments) (name : String) :
    (members.foldl (fun arguments member => arguments.insert member.1 (Argument.ofJson member.2)) arguments).find?
        name = (((Json.object members).member? name).map Argument.ofJson).or (arguments.find? name) := by
  induction members generalizing arguments with
  | nil => rfl
  | cons first rest ih =>
    obtain ⟨hfirst, hrest⟩ := List.pairwise_cons.1 h
    rw [List.foldl_cons, ih hrest, find?_insert]
    by_cases heq : name = first.1
    · subst heq
      have hlater : rest.find? (fun m => m.1 = first.1) = none :=
        List.find?_eq_none.2 fun m hm => by simpa using (hfirst m hm).ne'
      simp [member?, hlater]
    · simp [member?, heq, Ne.symm heq]

theorem find?_ofJson (h : members.Pairwise fun a b => a.1 < b.1) (name : String) :
    (ofJson members).find? name = ((Json.object members).member? name).map Argument.ofJson := by
  rw [ofJson, find?_foldl_insert h, show Arguments.find? [] name = none from rfl, Option.or_none]

/-- Members that nothing looks at may be left out of the mappings. -/
theorem ofMembers_pruned (members : List (String × Json)) :
    (ofMembers (members.map fun member => (member.1, member.2.pruned))).result = (ofMembers members).result := by
  have hstep : ∀ (arguments : Arguments) (member : String × Json),
      (do return arguments.insert member.1 (← Argument.ofValue member.1 member.2.pruned) : Logged Arguments).result =
        (do return arguments.insert member.1 (← Argument.ofValue member.1 member.2) : Logged Arguments).result := by
    intro arguments member
    rw [Logged.bind_result, Logged.bind_result, ofValue_pruned]
  rw [ofMembers, ofMembers, List.foldlM_map]
  exact Logged.foldlM_result_congr hstep members []

end Arguments

namespace Template

open Arguments

variable {members : List (String × Json)}

/-! ## Rendering -/

/-- Rendering looks up arguments by name, and sees nothing else of them. -/
theorem renderWith_congr (template : Template) {arguments arguments' : Arguments}
    (h : ∀ name, arguments.find? name = arguments'.find? name) :
    template.renderWith arguments = template.renderWith arguments' := by
  have hagree : Scope.Agree (template.scope arguments) (template.scope arguments') := by
    refine ⟨rfl, fun _ => Iff.rfl, fun name _ => ?_⟩
    show Option.Rel _ (arguments.find? name) (arguments'.find? name)
    rw [h]
    cases arguments'.find? name with
    | none => exact .none
    | some argument => exact .some fun _ _ => rfl
  unfold renderWith Scope.render
  rw [Scope.walk_eq_of_agree hagree]

theorem render_result (template : Template) (value : Json) :
    (template.render value).result =
      (Arguments.ofValue value).result >>= fun arguments => (template.renderWith arguments).result :=
  Logged.bind_result _ _

/-- Of the members that can be no argument one comes before the others. -/
theorem exists_least (hascending : members.Pairwise fun a b => a.1 < b.1)
    (h : ∃ member ∈ members, ¬ member.2.IsArgument) :
    ∃ before member after, members = before ++ member :: after ∧ (∀ earlier ∈ before, earlier.2.IsArgument) ∧
      ¬ member.2.IsArgument ∧ ∀ other ∈ members, ¬ other.2.IsArgument → member.1 ≤ other.1 := by
  have hfound : (members.find? fun member => ¬ member.2.IsArgument).isSome := List.find?_isSome.2 (by simpa using h)
  obtain ⟨member, hfind⟩ := Option.isSome_iff_exists.1 hfound
  obtain ⟨hmember, before, after, rfl, hbefore⟩ := List.find?_eq_some_iff_append.1 hfind
  have hbefore : ∀ earlier ∈ before, earlier.2.IsArgument := fun earlier hm => by simpa using hbefore earlier hm
  refine ⟨before, member, after, rfl, hbefore, by simpa using hmember, fun other hother hnot => ?_⟩
  rcases List.mem_append.1 hother with hearlier | hlater
  · exact absurd (hbefore other hearlier) hnot
  · obtain ⟨hfirst, -⟩ := List.pairwise_cons.1 (List.pairwise_append.1 hascending).2.1
    rcases List.mem_cons.1 hlater with rfl | hlater
    · exact le_rfl
    · exact (hfirst other hlater).le

/-- For all templates: a value that is no object is refused, and so is an object with a member that can be no argument;
the first such name in the order of bytes is reported. Any other object whose mappings give texts only renders as
arguments that were prepared from its members do, however they came together. Unknown flavors and null may be left
out, and a flavor with something else has no text, whatever the default is. -/
theorem render_prepared (template : Template) :
    (∀ value : Json, (∀ members, value ≠ .object members) →
      (template.render value).result = .error (.illegalArguments value.describe)) ∧
    (∀ members, (Json.object members).Ordered → (∃ member ∈ members, ¬ member.2.IsArgument) →
      ∃ member ∈ members, ¬ member.2.IsArgument ∧
        (∀ other ∈ members, ¬ other.2.IsArgument → bytes member.1 ≤ bytes other.1) ∧
        (template.render (.object members)).result = .error (.illegalArgument member.1 member.2.describe)) ∧
    (∀ members, (Json.object members).Ordered → (∀ member ∈ members, member.2.IsArgument) →
      (∀ name texts, (name, .object texts) ∈ members → Argument.OnlyTexts texts) →
      ∀ arguments : Arguments,
        (∀ name, Argument.Prepared ((Json.object members).member? name) (arguments.find? name)) →
        (template.render (.object members)).result = (template.renderWith arguments).result) ∧
    (∀ members, (template.render (.object (members.map fun member => (member.1, member.2.pruned)))).result =
      (template.render (.object members)).result) ∧
    (∀ name members flavor value, (Json.object members).Ordered → (Flavor.name flavor, value) ∈ members →
      ¬ value.IsTextOrNull →
      ∃ a, (Argument.ofValue name (.object members)).result = .ok a ∧ a.flavor? flavor = none) := by
  refine ⟨fun value hvalue => ?_, ?_, ?_, fun members => ?_, ?_⟩
  · cases value with
    | object members => exact absurd rfl (hvalue members)
    | _ => rfl
  · rintro members ⟨⟩ h
    next hascending _ =>
    obtain ⟨before, member, after, rfl, hbefore, hnot, hleast⟩ := exists_least hascending h
    refine ⟨member, by simp, hnot, fun other hother hother' => ?_, ?_⟩
    · exact List.not_lt.1 (mt lt_iff_bytes_lt.2 (hleast other hother hother').not_gt)
    · rw [render_result, Arguments.ofValue, ofMembers_of_not_isArgument hbefore hnot]
      rfl
  · rintro members ⟨⟩ harguments honly arguments hprepared
    next hascending hordered =>
    rw [render_result, Arguments.ofValue, ofMembers_of_isArgument harguments, Logged.except_ok_bind]
    refine congrArg _ (renderWith_congr template fun name => ?_)
    rw [find?_ofJson hascending, (hprepared name).eq]
    intro texts htexts
    have hm := mem_of_member? htexts
    obtain ⟨⟩ := hordered _ hm
    next hascending _ => exact ⟨hascending, honly name texts hm⟩
  · rw [render_result, render_result, Arguments.ofValue, Arguments.ofValue, ofMembers_pruned]
  · rintro name members flavor value ⟨⟩ hm hvalue
    next hascending _ =>
    exact ⟨_, Argument.ofValue_object name members, Argument.flavor?_of_not_textOrNull hascending hm hvalue⟩

/-- A mapping with an unknown name and null. -/
def mapping : List (String × Json) :=
  [("default", .string "b"), ("expression", .string "c + 1"), ("note", .bool true), ("statement", .null)]

/-- Arguments as a mapping and as a text. -/
def mapped : List (String × Json) := [("A", .object mapping), ("B", .string "Width")]

/-- The same arguments, set one by one and backwards. -/
def prepared : Arguments :=
  Arguments.insert (Arguments.insert [] "B" (.ofText "Width")) "A"
    (.ofFlavors [(.expression, "c + 1"), (.default, "b")])

/-- Members that can be no arguments. -/
def refused : List (String × Json) := [("A", .string "b"), ("B", .null), ("C", .array [])]

/-- A flavor with a number, and a default. -/
def numbered : List (String × Json) := [("default", .string "d"), ("expression", .number (.integer 42))]

theorem render_prepared_backwards :
    let template : Template := ⟨Scope.product, ⟨[("A", "a factor"), ("B", "a name")]⟩, {}⟩
    (template.render .null).result = .error (.illegalArguments "null") ∧
      (template.render (.object refused)).result = .error (.illegalArgument "B" "null") ∧
      (template.render (.object mapped)).result = (template.renderWith prepared).result ∧
      (template.renderWith prepared).result = .ok "(c + 1) * getWidth('Width');" ∧
      ∃ a, (Argument.ofValue "A" (.object numbered)).result = .ok a ∧ a.flavor? .expression = none := by
  intro template
  obtain ⟨hvalue, hrefused, hmapped, -, hnumbered⟩ := render_prepared template
  refine ⟨hvalue .null (by simp), ?_, ?_, ?_, ?_⟩
  · have hordered : (Json.object refused).Ordered :=
      .object (by decide +kernel) (by simp [refused, Ordered.string, Ordered.null, Ordered.array])
    obtain ⟨member, hm, hnot, hleast, hresult⟩ :=
      hrefused refused hordered ⟨("B", .null), by simp [refused], id⟩
    have hle := hleast ("B", .null) (by simp [refused]) id
    simp only [refused, List.mem_cons, List.not_mem_nil, or_false] at hm
    rcases hm with rfl | rfl | rfl
    · exact absurd trivial hnot
    · exact hresult
    · exact absurd hle (by decide +kernel)
  · have hmapping : ∀ name texts, (name, Json.object texts) ∈ mapped → texts = mapping := by simp [mapped]
    have hordered : (Json.object mapped).Ordered := by
      refine .object (by decide +kernel) (List.forall_mem_cons.2 ⟨.object (by decide +kernel) ?_, ?_⟩)
      · simp [mapping, Ordered.string, Ordered.bool, Ordered.null]
      · simp [Ordered.string]
    refine hmapped mapped hordered (by decide) (fun name texts hm => ?_) prepared fun name => ?_
    · rw [hmapping name texts hm]
      decide +kernel
    · rw [prepared, find?_insert, find?_insert]
      by_cases hA : name = "A"
      · subst hA
        exact .flavors (by decide +kernel)
      by_cases hB : name = "B"
      · subst hB
        exact .text "Width"
      · have hnone : (Json.object mapped).member? name = none := by simp [mapped, member?, Ne.symm hA, Ne.symm hB]
        rw [hnone, if_neg hA, if_neg hB]
        exact .absent
  · rw [Template.renderWith, Scope.render, Scope.walk_eq_iterate 20]
    decide +kernel
  · have hordered : (Json.object numbered).Ordered :=
      .object (by decide +kernel) (by simp [numbered, Ordered.string, Ordered.number])
    exact hnumbered "A" numbered .expression (.number (.integer 42)) hordered (by simp [numbered, Flavor.name]) id

end Template

end Stencil
