import Mathlib.Data.List.Forall2
import Stencil.Journal
/-!
# Results of journals

What a computation that writes a journal gives, without the records: `result` turns steps of a journal into steps
that may fail, so a proof about results never looks at records. `mapM_result_ok_iff` is what a list of steps
gives: all of its results, in order.
-/

namespace Stencil

/-! ## Lists that agree element by element -/

section Lists
variable {α β : Type} {R : α → β → Prop} {xs : List α} {ys : List β}

theorem forall₂_mem_left (h : List.Forall₂ R xs ys) {x : α} (hx : x ∈ xs) : ∃ y ∈ ys, R x y := by
  induction h with
  | nil => cases hx
  | cons hr _ ih =>
    rcases List.mem_cons.1 hx with rfl | hx
    · exact ⟨_, List.mem_cons_self, hr⟩
    · obtain ⟨y, hy, h⟩ := ih hx
      exact ⟨y, List.mem_cons_of_mem _ hy, h⟩

theorem forall₂_mem_right (h : List.Forall₂ R xs ys) {y : β} (hy : y ∈ ys) : ∃ x ∈ xs, R x y :=
  forall₂_mem_left h.flip hy

/-- What elements that agree have in common, all of them have in both lists. -/
theorem forall_mem_congr (h : List.Forall₂ R xs ys) {A : α → Prop} {B : β → Prop}
    (hR : ∀ x y, R x y → (A x ↔ B y)) : (∀ x ∈ xs, A x) ↔ ∀ y ∈ ys, B y := by
  constructor
  · intro ha y hy
    obtain ⟨x, hx, hr⟩ := forall₂_mem_right h hy
    exact (hR x y hr).1 (ha x hx)
  · intro hb x hx
    obtain ⟨y, hy, hr⟩ := forall₂_mem_left h hx
    exact (hR x y hr).2 (hb y hy)

theorem map_eq_of_forall₂ {γ : Type} {f : α → γ} {g : β → γ} (h : List.Forall₂ (fun x y => f x = g y) xs ys) :
    xs.map f = ys.map g := by
  induction h with
  | nil => rfl
  | cons hr _ ih => rw [List.map_cons, List.map_cons, hr, ih]

/-- What agrees with the elements in the same place of both lists, together. -/
theorem forall₂_exists {γ : Type} {S : α → γ → Prop} {T : β → γ → Prop}
    (h : List.Forall₂ (fun x y => ∃ z, S x z ∧ T y z) xs ys) :
    ∃ zs, List.Forall₂ S xs zs ∧ List.Forall₂ T ys zs := by
  induction h with
  | nil => exact ⟨[], .nil, .nil⟩
  | cons hr _ ih =>
    obtain ⟨z, hS, hT⟩ := hr
    obtain ⟨zs, hSs, hTs⟩ := ih
    exact ⟨z :: zs, .cons hS hSs, .cons hT hTs⟩

/-- Elements in the same place agree. -/
theorem forall₂_zipIdx (h : List.Forall₂ R xs ys) {p : β × Nat} {k : Nat} (hp : p ∈ ys.zipIdx k) :
    ∃ x, (x, p.2) ∈ xs.zipIdx k ∧ R x p.1 := by
  induction h generalizing k with
  | nil => cases hp
  | cons hr _ ih =>
    rw [List.zipIdx_cons] at hp ⊢
    rcases List.mem_cons.1 hp with rfl | hp
    · exact ⟨_, List.mem_cons_self, hr⟩
    · obtain ⟨x, hx, h⟩ := ih hp
      exact ⟨x, List.mem_cons_of_mem _ hx, h⟩

/-- What lists that agree hold in certain places. -/
theorem exists_zipIdx_congr (h : List.Forall₂ R xs ys) (c : Nat → Prop) {A : α → Prop} {B : β → Prop}
    (hR : ∀ x y, R x y → (A x ↔ B y)) : (∃ p ∈ xs.zipIdx, c p.2 ∧ A p.1) ↔ ∃ p ∈ ys.zipIdx, c p.2 ∧ B p.1 := by
  constructor
  · rintro ⟨p, hp, hc, ha⟩
    obtain ⟨y, hy, hr⟩ := forall₂_zipIdx h.flip hp
    exact ⟨(y, p.2), hy, hc, (hR _ _ hr).1 ha⟩
  · rintro ⟨p, hp, hc, hb⟩
    obtain ⟨x, hx, hr⟩ := forall₂_zipIdx h hp
    exact ⟨(x, p.2), hx, hc, (hR _ _ hr).2 hb⟩

theorem forall_zipIdx_congr (h : List.Forall₂ R xs ys) (c : Nat → Prop) {A : α → Prop} {B : β → Prop}
    (hR : ∀ x y, R x y → (A x ↔ B y)) : (∀ p ∈ xs.zipIdx, c p.2 → A p.1) ↔ ∀ p ∈ ys.zipIdx, c p.2 → B p.1 := by
  constructor
  · intro ha p hp hc
    obtain ⟨x, hx, hr⟩ := forall₂_zipIdx h hp
    exact (hR _ _ hr).1 (ha (x, p.2) hx hc)
  · intro hb p hp hc
    obtain ⟨y, hy, hr⟩ := forall₂_zipIdx h.flip hp
    exact (hR _ _ hr).2 (hb (y, p.2) hy hc)

end Lists

namespace Logged

attribute [ext] Logged

variable {α β : Type}

/-! ## One step after the other -/

@[simp] theorem pure_result (a : α) : (pure a : Logged α).result = .ok a := rfl

@[simp] theorem fail_result (e : Error) : (fail e : Logged α).result = .error e := rfl

@[simp] theorem lift_result (r : Except Error α) : (lift r).result = r := rfl

@[simp] theorem trace_result (text : String) : (trace text).result = .ok () := rfl

@[simp] theorem debug_result (text : String) : (debug text).result = .ok () := rfl

@[simp] theorem warn_result (text : String) : (warn text).result = .ok () := rfl

@[simp] theorem bind_result (x : Logged α) (f : α → Logged β) :
    (x >>= f).result = x.result >>= fun a => (f a).result := by
  show (andThen x f).result = _
  unfold andThen
  cases x.result <;> rfl

instance : LawfulMonad Logged := LawfulMonad.mk' Logged
  (by
    intro α x
    show andThen x ok = x
    rcases x with ⟨_ | _, _⟩ <;> simp [andThen, ok])
  (by
    intro α β a f
    show andThen (ok a) f = f a
    simp [andThen, ok])
  (by
    intro α β γ x f g
    show andThen (andThen x f) g = andThen x fun a => andThen (f a) g
    rcases x with ⟨_ | a, _⟩
    · rfl
    · simp only [andThen]
      cases (f a).result <;> simp)

/-- What follows a step matters only for the result that the step gives. -/
theorem bind_congr_of_result {x : Logged α} {f g : α → Logged β} (h : ∀ a, x.result = .ok a → f a = g a) :
    x >>= f = x >>= g := by
  show andThen x f = andThen x g
  unfold andThen
  split
  · rfl
  · rename_i a ha
    rw [h a ha]

/-- A list of steps depends on those only that have no failing step before them. -/
theorem mapM_congr {f g : α → Logged β} {xs : List α}
    (h : ∀ before x after, xs = before ++ x :: after → (∀ y ∈ before, ∃ b, (f y).result = .ok b) → f x = g x) :
    xs.mapM f = xs.mapM g := by
  induction xs with
  | nil => rfl
  | cons x xs ih =>
    rw [List.mapM_cons, List.mapM_cons, ← h [] x xs rfl (by simp)]
    refine bind_congr_of_result fun b hb => ?_
    rw [ih fun before y after heq hbefore => h (x :: before) y after (by rw [heq]; rfl) ?_]
    exact List.forall_mem_cons.2 ⟨⟨b, hb⟩, hbefore⟩

/-! ## Results -/

@[simp] theorem except_ok_bind (a : α) (f : α → Except Error β) : Except.ok a >>= f = f a := rfl

@[simp] theorem except_error_bind (e : Error) (f : α → Except Error β) : Except.error e >>= f = .error e := rfl

theorem except_bind_ok_iff {x : Except Error α} {f : α → Except Error β} {b : β} :
    x >>= f = .ok b ↔ ∃ a, x = .ok a ∧ f a = .ok b := by
  cases x with
  | error e => simp [bind, Except.bind]
  | ok a => simp [bind, Except.bind]

theorem except_bind_error_iff {x : Except Error α} {f : α → Except Error β} {e : Error} :
    x >>= f = .error e ↔ x = .error e ∨ ∃ a, x = .ok a ∧ f a = .error e := by
  cases x with
  | error e => simp [bind, Except.bind]
  | ok a => simp [bind, Except.bind]

/-- The result of a step that only puts the result of another one into something. -/
theorem result_bind_pure {x : Logged α} {f : α → β} {a : α} (h : x.result = .ok a) :
    (x >>= fun a => pure (f a)).result = .ok (f a) := by
  rw [bind_result, h]
  rfl

/-- The error of a step stays where its result would only be put into something. -/
theorem error_bind_pure {x : Logged α} {f : α → β} {e : Error} (h : x.result = .error e) :
    (x >>= fun a => pure (f a)).result = .error e := by
  rw [bind_result, h]
  rfl

/-- A list of steps gives the list of their results. -/
theorem mapM_result_ok_iff (f : α → Logged β) (xs : List α) (ys : List β) :
    (xs.mapM f).result = .ok ys ↔ List.Forall₂ (fun x y => (f x).result = .ok y) xs ys := by
  induction xs generalizing ys with
  | nil => simp [eq_comm]
  | cons x xs ih =>
    rw [List.mapM_cons, List.forall₂_cons_left_iff]
    simp only [bind_result, except_bind_ok_iff, pure_result, Except.ok.injEq, ih]
    constructor
    · rintro ⟨y, hy, rest, hrest, rfl⟩
      exact ⟨y, rest, hy, hrest, rfl⟩
    · rintro ⟨y, rest, hy, hrest, rfl⟩
      exact ⟨y, hy, rest, hrest, rfl⟩

/-- An error of a list of steps is the error of one of them, and all before it give something. -/
theorem mapM_result_error {f : α → Logged β} {xs : List α} {e : Error} (h : (xs.mapM f).result = .error e) :
    ∃ before x after, xs = before ++ x :: after ∧ (∀ y ∈ before, ∃ b, (f y).result = .ok b) ∧
      (f x).result = .error e := by
  induction xs with
  | nil => simp at h
  | cons x xs ih =>
    rw [List.mapM_cons] at h
    simp only [bind_result, except_bind_error_iff, pure_result, reduceCtorEq, and_false, exists_false, or_false] at h
    rcases h with h | ⟨b, hb, h⟩
    · exact ⟨[], x, xs, rfl, by simp, h⟩
    · obtain ⟨before, x', after, rfl, hbefore, h'⟩ := ih h
      exact ⟨x :: before, x', after, rfl, List.forall_mem_cons.2 ⟨⟨b, hb⟩, hbefore⟩, h'⟩

/-- An error of steps that each go on with the result of the one before is the error of one of them. -/
theorem foldlM_result_error {f : β → α → Logged β} {xs : List α} {b : β} {e : Error}
    (h : (xs.foldlM f b).result = .error e) : ∃ b', ∃ x ∈ xs, (f b' x).result = .error e := by
  induction xs generalizing b with
  | nil => simp at h
  | cons x xs ih =>
    simp only [List.foldlM_cons, bind_result, except_bind_error_iff] at h
    rcases h with h | ⟨b', -, h⟩
    · exact ⟨b, x, by simp, h⟩
    · obtain ⟨b'', x', hx', h'⟩ := ih h
      exact ⟨b'', x', by simp [hx'], h'⟩

/-- Steps that each give a result, one after the other, give what the results make together. -/
theorem foldlM_result_ok {f : β → α → Logged β} {g : β → α → β} {xs : List α}
    (h : ∀ b, ∀ x ∈ xs, (f b x).result = .ok (g b x)) (b : β) : (xs.foldlM f b).result = .ok (xs.foldl g b) := by
  induction xs generalizing b with
  | nil => rfl
  | cons x xs ih =>
    rw [List.foldlM_cons, bind_result, h b x List.mem_cons_self, except_ok_bind, List.foldl_cons]
    exact ih (fun b x hx => h b x (List.mem_cons_of_mem _ hx)) _

/-- If all that a step can give is one result, then all that the steps can give is what these make together. -/
theorem foldlM_result_eq {f : β → α → Logged β} {g : β → α → β}
    (h : ∀ b x b', (f b x).result = .ok b' → b' = g b x) {xs : List α} {b b' : β}
    (hresult : (xs.foldlM f b).result = .ok b') : b' = xs.foldl g b := by
  induction xs generalizing b with
  | nil =>
    cases hresult
    rfl
  | cons x xs ih =>
    simp only [List.foldlM_cons, bind_result, except_bind_ok_iff] at hresult
    obtain ⟨next, hnext, hrest⟩ := hresult
    rw [List.foldl_cons, ← h b x next hnext]
    exact ih hrest

/-- Steps with the same results, one after the other, give the same. -/
theorem foldlM_result_congr {f g : β → α → Logged β} (h : ∀ b x, (f b x).result = (g b x).result) (xs : List α) (b : β) :
    (xs.foldlM f b).result = (xs.foldlM g b).result := by
  induction xs generalizing b with
  | nil => rfl
  | cons x xs ih => simp only [List.foldlM_cons, bind_result, h, ih]

end Logged

end Stencil
