import Mathlib.Data.List.Induction
import Mathlib.Data.List.Nodup
import Stencil.Proofs.Journal
import Stencil.Registry
/-!
# Names declared again

The comments of a template make a list of declarations, in which a name may come again. Where the last one wins, the
registry has each name once, in the place of its first declaration and with the description of its last one
(`ListsLast`). Where a second declaration is an error, the first name that comes again is reported; if none does, the
registry is the list itself. `ofComments_duplicates` says so for all comments, and that without repeated names their
order does not matter.
-/

namespace Stencil

namespace Declaration

/-- The name with its description. -/
def entry (d : Declaration) : String × String := (d.name, d.description)

/-- The declarations that comments make, in their order. -/
def ofComments (directive : String) (comments : List String) : List Declaration :=
  comments.filterMap (ofComment? directive)

/-- The names that are declared, each as often as it is. -/
def names (ds : List Declaration) : List String := ds.map name

theorem mem_names_iff {ds : List Declaration} {name : String} : name ∈ names ds ↔ ∃ d ∈ ds, d.name = name := List.mem_map

@[simp] theorem names_append (ds ds' : List Declaration) : names (ds ++ ds') = names ds ++ names ds' := List.map_append

@[simp] theorem names_singleton (d : Declaration) : names [d] = [d.name] := rfl

/-- If a name comes again, one of those that do is the first. -/
theorem exists_first_repeated {ds : List Declaration} (h : ¬ (names ds).Nodup) :
    ∃ before d after, ds = before ++ d :: after ∧ (names before).Nodup ∧ d.name ∈ names before := by
  induction ds using List.reverseRecOn with
  | nil => exact absurd List.nodup_nil h
  | append_singleton ds d ih =>
    by_cases hds : (names ds).Nodup
    · refine ⟨ds, d, [], rfl, hds, ?_⟩
      by_contra hd
      refine h ?_
      have hconcat := hds.concat hd
      rwa [List.concat_eq_append, ← names_singleton, ← names_append] at hconcat
    · obtain ⟨before, d', after, rfl, hbefore, hd'⟩ := ih hds
      exact ⟨before, d', after ++ [d], by simp, hbefore, hd'⟩

end Declaration

namespace Registry

open Declaration (entry)

variable {r : Registry} {d : Declaration} {ds : List Declaration}

/-! ## One more declaration -/

theorem names_insert_of_mem (h : d.name ∈ r.names) : (r.insert d).names = r.names := by
  obtain ⟨entries⟩ := r
  simp only [names, insert] at h ⊢
  induction entries with
  | nil => cases h
  | cons first rest ih =>
    rw [setEntry]
    split
    · next heq => rw [List.map_cons, List.map_cons, heq]
    · next hne =>
      rw [List.map_cons, List.map_cons, ih]
      exact (List.mem_cons.1 h).resolve_left (Ne.symm hne)

theorem insert_of_not_mem (h : d.name ∉ r.names) : r.insert d = ⟨r.entries ++ [d.entry]⟩ := by
  obtain ⟨entries⟩ := r
  simp only [names, insert, mk.injEq] at h ⊢
  induction entries with
  | nil => rfl
  | cons first rest ih =>
    rw [List.map_cons, List.mem_cons, not_or] at h
    rw [setEntry, if_neg (Ne.symm h.1), ih h.2, List.cons_append]

theorem entry_mem_insert (r : Registry) (d : Declaration) : d.entry ∈ (r.insert d).entries := by
  obtain ⟨entries⟩ := r
  simp only [insert]
  induction entries with
  | nil => exact List.mem_singleton.2 rfl
  | cons first rest ih =>
    rw [setEntry]
    split
    · exact List.mem_cons_self
    · exact List.mem_cons_of_mem _ ih

/-- The entries of other names stay. -/
theorem mem_insert_of_ne {e : String × String} (he : e ∈ r.entries) (hne : e.1 ≠ d.name) : e ∈ (r.insert d).entries := by
  obtain ⟨entries⟩ := r
  simp only [insert] at he ⊢
  induction entries with
  | nil => cases he
  | cons first rest ih =>
    rw [setEntry]
    split
    · next heq =>
      rcases List.mem_cons.1 he with rfl | hrest
      · exact absurd heq hne
      · exact List.mem_cons_of_mem _ hrest
    · rcases List.mem_cons.1 he with rfl | hrest
      · exact List.mem_cons_self
      · exact List.mem_cons_of_mem _ (ih hrest)

/-! ## All declarations -/

/-- The registry in which the last declaration of each name wins. -/
def ofDeclarations (ds : List Declaration) : Registry := ds.foldl insert {}

theorem ofDeclarations_concat (ds : List Declaration) (d : Declaration) :
    ofDeclarations (ds ++ [d]) = (ofDeclarations ds).insert d := by
  simp [ofDeclarations]

/-- A registry lists declarations: each name once, in the order of the first declarations, and with the description of
its last one. -/
structure ListsLast (ds : List Declaration) (r : Registry) : Prop where
  nodup : r.names.Nodup
  mem_names : ∀ name, name ∈ r.names ↔ name ∈ Declaration.names ds
  ordered : r.names.Pairwise fun a b => (Declaration.names ds).idxOf a < (Declaration.names ds).idxOf b
  last : ∀ before d after, ds = before ++ d :: after → d.name ∉ Declaration.names after → d.entry ∈ r.entries

theorem ListsLast.insert (h : ListsLast ds r) (d : Declaration) : ListsLast (ds ++ [d]) (r.insert d) := by
  have hlast : ∀ before d' after, ds ++ [d] = before ++ d' :: after → d'.name ∉ Declaration.names after →
      d'.entry ∈ (r.insert d).entries := by
    intro before d' after heq hafter
    rcases List.eq_nil_or_concat after with rfl | ⟨after, final, rfl⟩
    · obtain ⟨-, hd⟩ := List.append_inj' heq rfl
      cases hd
      exact entry_mem_insert r d
    · rw [List.concat_eq_append] at heq hafter
      rw [← List.cons_append, ← List.append_assoc] at heq
      obtain ⟨hds, hfinal⟩ := List.append_inj' heq rfl
      cases hfinal
      rw [Declaration.names_append, List.mem_append, not_or] at hafter
      exact mem_insert_of_ne (h.last before d' after hds hafter.1) fun hname => hafter.2 (List.mem_singleton.2 hname)
  -- where the names of the earlier declarations stand does not change
  have hkeep : ∀ name ∈ r.names,
      (Declaration.names (ds ++ [d])).idxOf name = (Declaration.names ds).idxOf name := by
    intro name hname
    rw [Declaration.names_append, List.idxOf_append_of_mem ((h.mem_names name).1 hname)]
  have hordered : r.names.Pairwise fun a b =>
      (Declaration.names (ds ++ [d])).idxOf a < (Declaration.names (ds ++ [d])).idxOf b :=
    h.ordered.imp_of_mem fun ha hb hab => by rwa [hkeep _ ha, hkeep _ hb]
  by_cases hd : d.name ∈ r.names
  · have hnames := names_insert_of_mem hd
    refine ⟨hnames ▸ h.nodup, fun name => ?_, hnames ▸ hordered, hlast⟩
    rw [hnames, h.mem_names, Declaration.names_append, List.mem_append, Declaration.names_singleton, List.mem_singleton]
    refine ⟨.inl, fun hname => hname.elim id ?_⟩
    rintro rfl
    exact (h.mem_names _).1 hd
  · have hnames : (r.insert d).names = r.names ++ [d.name] := by
      rw [insert_of_not_mem hd, names, List.map_append]
      rfl
    have hnew : (Declaration.names (ds ++ [d])).idxOf d.name = (Declaration.names ds).length := by
      rw [Declaration.names_append, List.idxOf_append_of_notMem fun hm => hd ((h.mem_names _).2 hm)]
      simp
    refine ⟨?_, fun name => ?_, ?_, hlast⟩
    · rw [hnames, ← List.concat_eq_append]
      exact h.nodup.concat hd
    · rw [hnames, Declaration.names_append, List.mem_append, List.mem_append, h.mem_names, Declaration.names_singleton]
    · rw [hnames]
      refine List.pairwise_append.2 ⟨hordered, List.pairwise_singleton _ _, fun a ha b hb => ?_⟩
      rw [List.mem_singleton.1 hb, hnew, hkeep a ha]
      exact List.idxOf_lt_length_of_mem ((h.mem_names a).1 ha)

theorem listsLast_ofDeclarations (ds : List Declaration) : ListsLast ds (ofDeclarations ds) := by
  induction ds using List.reverseRecOn with
  | nil => exact ⟨.nil, fun _ => Iff.rfl, .nil, fun before d after h => by simp at h⟩
  | append_singleton ds d ih =>
    rw [ofDeclarations_concat]
    exact ih.insert d

theorem not_mem_ofDeclarations (h : (Declaration.names (ds ++ [d])).Nodup) : d.name ∉ (ofDeclarations ds).names := by
  rw [Declaration.names_append] at h
  rw [(listsLast_ofDeclarations ds).mem_names]
  exact fun hm => List.disjoint_of_nodup_append h hm (List.mem_singleton.2 rfl)

/-- If no name comes again, the registry is the list of declarations. -/
theorem ofDeclarations_of_nodup (h : (Declaration.names ds).Nodup) : ofDeclarations ds = ⟨ds.map entry⟩ := by
  induction ds using List.reverseRecOn with
  | nil => rfl
  | append_singleton ds d ih =>
    have hds : (Declaration.names ds).Nodup := (Declaration.names_append ds [d] ▸ h).of_append_left
    rw [ofDeclarations_concat, insert_of_not_mem (not_mem_ofDeclarations h), ih hds, List.map_append]
    rfl

/-! ## The two policies -/

/-- Only the comments that declare something matter. -/
theorem ofComments_eq (options : Options) (comments : List String) :
    ofComments options comments =
      (Declaration.ofComments options.directive comments).foldlM (declare options.duplicates) {} := by
  rw [ofComments, Declaration.ofComments, List.foldlM_filterMap]
  congr 1
  funext r comment
  rw [addComment]
  cases Declaration.ofComment? options.directive comment <;> rfl

/-- Declaring a name gives the registry with it, whatever the policy, or an error. -/
theorem declare_ok {policy : DuplicatePolicy} {r r' : Registry} {d : Declaration}
    (h : (declare policy r d).result = .ok r') : r' = r.insert d := by
  simp only [declare] at h
  split at h
  · cases policy with
    | lastWins =>
      cases h
      rfl
    | error => cases h
  · cases h
    rfl

theorem declare_result_of_lastWins (r : Registry) (d : Declaration) :
    (declare .lastWins r d).result = .ok (r.insert d) := by
  unfold declare
  split <;> rfl

theorem declare_result_of_not_mem (policy : DuplicatePolicy) (h : d.name ∉ r.names) :
    (declare policy r d).result = .ok (r.insert d) := by
  unfold declare
  rw [if_neg (mt contains_iff.1 h)]
  rfl

theorem declare_result_of_mem (h : d.name ∈ r.names) :
    (declare .error r d).result = .error (.duplicateDeclaration d.name) := by
  unfold declare
  rw [if_pos (contains_iff.2 h)]
  rfl

/-- Steps that each give the registry with one more declaration give the registry of all of them. -/
theorem foldlM_declare_concat {policy : DuplicatePolicy} {d : Declaration}
    (h : (ds.foldlM (declare policy) {}).result = .ok (ofDeclarations ds)) :
    ((ds ++ [d]).foldlM (declare policy) {}).result = (declare policy (ofDeclarations ds) d).result := by
  simp only [List.foldlM_append, List.foldlM_cons, List.foldlM_nil, bind_pure, Logged.bind_result, h,
    Logged.except_ok_bind]

theorem foldlM_declare_lastWins (ds : List Declaration) :
    (ds.foldlM (declare .lastWins) {}).result = .ok (ofDeclarations ds) :=
  Logged.foldlM_result_ok (fun r d _ => declare_result_of_lastWins r d) {}

theorem foldlM_declare_of_nodup (policy : DuplicatePolicy) (h : (Declaration.names ds).Nodup) :
    (ds.foldlM (declare policy) {}).result = .ok (ofDeclarations ds) := by
  induction ds using List.reverseRecOn with
  | nil => rfl
  | append_singleton ds d ih =>
    have hds : (Declaration.names ds).Nodup := (Declaration.names_append ds [d] ▸ h).of_append_left
    rw [foldlM_declare_concat (ih hds), declare_result_of_not_mem policy (not_mem_ofDeclarations h),
      ofDeclarations_concat]

/-- Whatever the policy, a registry that comments make lists their declarations. -/
theorem listsLast_of_ofComments {options : Options} {comments : List String}
    (h : (ofComments options comments).result = .ok r) :
    ListsLast (Declaration.ofComments options.directive comments) r := by
  rw [ofComments_eq] at h
  have hr : r = ofDeclarations (Declaration.ofComments options.directive comments) :=
    Logged.foldlM_result_eq (fun _ _ _ => declare_ok) h
  exact hr ▸ listsLast_ofDeclarations _

/-- Under the policy `error` the first name that comes again ends it. -/
theorem foldlM_declare_error {before after : List Declaration} {d : Declaration}
    (hbefore : (Declaration.names before).Nodup) (hd : d.name ∈ Declaration.names before) :
    ((before ++ d :: after).foldlM (declare .error) {}).result = .error (.duplicateDeclaration d.name) := by
  rw [List.foldlM_append, Logged.bind_result, foldlM_declare_of_nodup .error hbefore, Logged.except_ok_bind,
    List.foldlM_cons, Logged.bind_result, declare_result_of_mem, Logged.except_error_bind]
  exact ((listsLast_ofDeclarations before).mem_names _).2 hd

/-! ## The order of the comments -/

theorem description?_eq_some_iff {name description : String} (h : r.names.Nodup) :
    r.description? name = some description ↔ (name, description) ∈ r.entries := by
  rw [description?, Option.map_eq_some_iff]
  constructor
  · rintro ⟨e, he, rfl⟩
    have hname : e.1 = name := by simpa using List.find?_some he
    exact hname ▸ List.mem_of_find?_eq_some he
  · intro hm
    cases hfind : r.entries.find? fun entry => entry.1 = name with
    | none => exact absurd (List.find?_eq_none.1 hfind _ hm) (by simp)
    | some e =>
      have hname : e.1 = name := by simpa using List.find?_some hfind
      rw [List.inj_on_of_nodup_map h (List.mem_of_find?_eq_some hfind) hm hname]
      exact ⟨_, rfl, rfl⟩

/-- The same entries in another order make the same registry. -/
theorem sameAs_of_perm {s : Registry} (h : s.names.Nodup) (hperm : r.entries.Perm s.entries) : r.sameAs s = true := by
  rw [sameAs, Bool.and_eq_true, List.all_eq_true]
  refine ⟨by simpa using hperm.length_eq, fun e he => ?_⟩
  rw [decide_eq_true_eq, description?_eq_some_iff h]
  exact hperm.subset he

/-- For all comments: where the last declaration wins, the registry lists the declarations, each name with the last one.
Where a second declaration is an error, it is the list of declarations if no name comes again, and else the error names
the first one that does. Without repeated names any order of the comments gives the same registry. -/
theorem ofComments_duplicates (options : Options) (comments : List String) :
    let ds := Declaration.ofComments options.directive comments
    let under := fun policy comments => (ofComments { options with duplicates := policy } comments).result
    (∃ r, under .lastWins comments = .ok r ∧ ListsLast ds r) ∧
    ((∃ r, under .error comments = .ok r) ↔ (Declaration.names ds).Nodup) ∧
    ((Declaration.names ds).Nodup →
      under .error comments = .ok ⟨ds.map entry⟩ ∧ under .lastWins comments = .ok ⟨ds.map entry⟩) ∧
    (¬ (Declaration.names ds).Nodup → ∃ before d after, ds = before ++ d :: after ∧
      (Declaration.names before).Nodup ∧ d.name ∈ Declaration.names before ∧
      under .error comments = .error (.duplicateDeclaration d.name)) ∧
    ((Declaration.names ds).Nodup → ∀ comments', comments.Perm comments' → ∀ policy, ∃ r r',
      under policy comments = .ok r ∧ under policy comments' = .ok r' ∧ r.sameAs r' = true) := by
  intro ds under
  have hunder (policy comments) : under policy comments =
      ((Declaration.ofComments options.directive comments).foldlM (declare policy) {}).result := by
    simp only [under, ofComments_eq]
  have hnodup (policy) (h : (Declaration.names ds).Nodup) : under policy comments = .ok ⟨ds.map entry⟩ := by
    rw [hunder, foldlM_declare_of_nodup policy h, ofDeclarations_of_nodup h]
  have hrepeated (h : ¬ (Declaration.names ds).Nodup) : ∃ before d after, ds = before ++ d :: after ∧
      (Declaration.names before).Nodup ∧ d.name ∈ Declaration.names before ∧
      under .error comments = .error (.duplicateDeclaration d.name) := by
    obtain ⟨before, d, after, heq, hbefore, hd⟩ := Declaration.exists_first_repeated h
    refine ⟨before, d, after, heq, hbefore, hd, ?_⟩
    rw [hunder, show Declaration.ofComments options.directive comments = ds from rfl, heq]
    exact foldlM_declare_error hbefore hd
  refine ⟨⟨ofDeclarations ds, ?_, listsLast_ofDeclarations ds⟩, ⟨fun ⟨r, hr⟩ => ?_, fun h => ⟨_, hnodup .error h⟩⟩,
    fun h => ⟨hnodup .error h, hnodup .lastWins h⟩, hrepeated, fun h comments' hperm policy => ?_⟩
  · rw [hunder, foldlM_declare_lastWins]
  · by_contra h
    obtain ⟨-, d, -, -, -, -, he⟩ := hrepeated h
    rw [hr] at he
    cases he
  · have hds : ds.Perm (Declaration.ofComments options.directive comments') := hperm.filterMap _
    have h' : (Declaration.names (Declaration.ofComments options.directive comments')).Nodup :=
      (hds.map _).nodup_iff.1 h
    refine ⟨_, _, hnodup policy h, ?_, sameAs_of_perm ?_ (hds.map entry)⟩
    · rw [hunder, foldlM_declare_of_nodup policy h', ofDeclarations_of_nodup h']
    · rwa [names, List.map_map]

/-- A name that comes again behind another one, and a comment that declares nothing. -/
def interleaved : List String := [" @ming A first", " note", " @ming B other", " @ming A second"]

theorem ofComments_duplicates_interleaved :
    (∃ r, (ofComments {} interleaved).result = .ok r ∧ ListsLast [⟨"A", "first"⟩, ⟨"B", "other"⟩, ⟨"A", "second"⟩] r) ∧
    (ofComments { duplicates := .error } interleaved).result = .error (.duplicateDeclaration "A") ∧
    (∀ policy, ∃ r r', (ofComments { duplicates := policy } [" @ming A x", " @ming B y"]).result = .ok r ∧
      (ofComments { duplicates := policy } [" @ming B y", " @ming A x"]).result = .ok r' ∧ r.sameAs r' = true) := by
  have hds : Declaration.ofComments "@ming" interleaved = [⟨"A", "first"⟩, ⟨"B", "other"⟩, ⟨"A", "second"⟩] := by
    decide +kernel
  refine ⟨?_, ?_, fun policy => ?_⟩
  · obtain ⟨r, hr, hlists⟩ := (ofComments_duplicates {} interleaved).1
    exact ⟨r, hr, hds ▸ hlists⟩
  · obtain ⟨before, d, after, heq, -, hd, herror⟩ := (ofComments_duplicates {} interleaved).2.2.2.1 (by decide +kernel)
    have hname : d.name = "A" := by
      rw [show ({} : Options).directive = "@ming" from rfl, hds] at heq
      rcases before with _ | ⟨_, _ | ⟨_, _ | ⟨_, before⟩⟩⟩
      · cases hd
      · cases heq
        exact absurd hd (by decide)
      · cases heq
        rfl
      · simp at heq
    exact hname ▸ herror
  · exact (ofComments_duplicates {} [" @ming A x", " @ming B y"]).2.2.2.2 (by decide +kernel) _ (.swap ..) policy

end Registry

end Stencil
