/-
# Computations that may fail

What is asked again and again of computations in `Except`: when a step followed by others succeeds
(`bind_eq_ok_iff`), and when all elements of a list can be dealt with one after the other
(`mapM_eq_ok_iff`, `mapM_eq_error_iff`, `exists_foldlM_eq_ok_iff`).  What comes of that are
lists whose elements are related one by one.
-/

import Mathlib.Control.Monad.Basic
import Mathlib.Data.List.Forall2

namespace Boilerplate

variable {α β ε : Type}

/-- One computation behind another succeeds if both do. -/
theorem bind_eq_ok_iff {x : Except ε α} {f : α → Except ε β} {b : β} :
    x >>= f = .ok b ↔ ∃ a, x = .ok a ∧ f a = .ok b := by
  cases x with
  | error e => simp [bind, Except.bind]
  | ok a => simp [bind, Except.bind]

/-- When a computation with its result changed succeeds. -/
theorem map_eq_ok_iff {x : Except ε α} {f : α → β} {b : β} :
    x.map f = .ok b ↔ ∃ a, x = .ok a ∧ f a = b := by
  cases x <;> simp [Except.map]

/-- A computation with its failure changed succeeds as it did. -/
theorem mapError_eq_ok_iff {ζ : Type} {x : Except ε α} {f : ε → ζ} {a : α} :
    x.mapError f = .ok a ↔ x = .ok a := by
  cases x <;> simp [Except.mapError]

/-- What can be told of a result tells that there is one. -/
theorem exists_eq_ok_of_toOption {x : Except ε α} {f : α → β} {b : β}
    (h : x.toOption.map f = some b) : ∃ a, x = .ok a ∧ f a = b := by
  cases x with
  | error e => cases h
  | ok a => exact ⟨a, rfl, Option.some.inj h⟩

/-- What does not fail succeeds. -/
theorem exists_eq_ok_iff {x : Except ε α} : (∃ a, x = .ok a) ↔ ¬ ∃ e, x = .error e := by
  cases x <;> simp

/-- Elements are dealt with one by one. -/
theorem mapM_eq_ok_iff {f : α → Except ε β} {xs : List α} {ys : List β} :
    xs.mapM f = .ok ys ↔ List.Forall₂ (fun x y => f x = .ok y) xs ys := by
  induction xs generalizing ys with
  | nil =>
    rw [List.mapM_nil, List.forall₂_nil_left_iff]
    exact ⟨fun h => (Except.ok.inj h).symm, fun h => h ▸ rfl⟩
  | cons x xs ih =>
    rw [List.mapM_cons, List.forall₂_cons_left_iff, bind_eq_ok_iff]
    constructor
    · rintro ⟨y, hy, h⟩
      obtain ⟨rest, hrest, heq⟩ := bind_eq_ok_iff.1 h
      exact ⟨y, rest, hy, ih.1 hrest, (Except.ok.inj heq).symm⟩
    · rintro ⟨y, rest, hy, hrest, rfl⟩
      exact ⟨y, hy, bind_eq_ok_iff.2 ⟨rest, ih.2 hrest, rfl⟩⟩

/-- All elements can be dealt with unless one of them fails. -/
theorem exists_mapM_eq_error_iff {f : α → Except ε β} {xs : List α} :
    (∃ e, xs.mapM f = .error e) ↔ ∃ x ∈ xs, ∃ e, f x = .error e := by
  induction xs with
  | nil => simp [pure, Except.pure]
  | cons x xs ih =>
    simp only [List.mapM_cons, List.mem_cons, exists_eq_or_imp, ← ih]
    cases hx : f x with
    | error e => simp [bind, Except.bind]
    | ok y =>
      cases xs.mapM f with
      | error e => simp [bind, Except.bind]
      | ok ys => simp [bind, Except.bind, pure, Except.pure]

/-- Elements are dealt with up to the first that fails. -/
theorem mapM_eq_error_iff {f : α → Except ε β} {xs : List α} {e : ε} :
    xs.mapM f = .error e ↔ ∃ before x behind, xs = before ++ x :: behind ∧ f x = .error e ∧
      ∀ y ∈ before, ∃ z, f y = .ok z := by
  induction xs with
  | nil => simp [pure, Except.pure]
  | cons x xs ih =>
    rw [List.mapM_cons]
    cases hx : f x with
    | error e' =>
      constructor
      · rintro ⟨⟩
        exact ⟨[], x, xs, rfl, hx, nofun⟩
      · rintro ⟨before, x', behind, hxs, hx', hbefore⟩
        cases before with
        | nil =>
          obtain ⟨rfl, rfl⟩ := List.cons.inj hxs
          cases hx.symm.trans hx'
          rfl
        | cons y before =>
          obtain ⟨rfl, rfl⟩ := List.cons.inj hxs
          obtain ⟨z, hz⟩ := hbefore x List.mem_cons_self
          rw [hx] at hz
          cases hz
    | ok y =>
      have hrest : (do let ys ← xs.mapM f; pure (y :: ys) : Except ε (List β)) = .error e ↔
          xs.mapM f = .error e := by
        cases xs.mapM f <;> simp [bind, Except.bind, pure, Except.pure]
      refine hrest.trans (ih.trans ⟨?_, ?_⟩)
      · rintro ⟨before, x', behind, rfl, hx', hbefore⟩
        exact ⟨x :: before, x', behind, rfl, hx', List.forall_mem_cons.2 ⟨⟨y, hx⟩, hbefore⟩⟩
      · rintro ⟨before, x', behind, hxs, hx', hbefore⟩
        cases before with
        | nil =>
          obtain ⟨rfl, rfl⟩ := List.cons.inj hxs
          rw [hx] at hx'
          cases hx'
        | cons w before =>
          obtain ⟨rfl, rfl⟩ := List.cons.inj hxs
          exact ⟨before, x', behind, rfl, hx', (List.forall_mem_cons.1 hbefore).2⟩

/-- A run comes to an end if each of its steps does, whatever the state it is taken in. -/
theorem exists_foldlM_eq_ok_iff {f : β → α → Except ε β} {P : α → Prop}
    (h : ∀ b a, (∃ b', f b a = .ok b') ↔ P a) {as : List α} {b : β} :
    (∃ b', as.foldlM f b = .ok b') ↔ ∀ a ∈ as, P a := by
  induction as generalizing b with
  | nil => exact iff_of_true ⟨b, rfl⟩ nofun
  | cons a as ih =>
    simp only [List.foldlM_cons, bind_eq_ok_iff]
    rw [List.forall_mem_cons, ← h b]
    constructor
    · rintro ⟨b', b₁, hb₁, hrest⟩
      exact ⟨⟨b₁, hb₁⟩, ih.1 ⟨b', hrest⟩⟩
    · rintro ⟨⟨b₁, hb₁⟩, hrest⟩
      obtain ⟨b', hb'⟩ := ih.2 hrest
      exact ⟨b', b₁, hb₁, hb'⟩

/-- A run goes the same way if each of its steps does. -/
theorem foldlM_eq_ok_of_steps {f g : β → α → Except ε β}
    (h : ∀ b a b', f b a = .ok b' → g b a = .ok b') {as : List α} {b b' : β}
    (hrun : as.foldlM f b = .ok b') : as.foldlM g b = .ok b' := by
  induction as generalizing b with
  | nil => exact hrun
  | cons a as ih =>
    rw [List.foldlM_cons, bind_eq_ok_iff] at hrun ⊢
    obtain ⟨b₁, hb₁, hrest⟩ := hrun
    exact ⟨b₁, h b a b₁ hb₁, ih hrest⟩

/-- What every step keeps, a run keeps. -/
theorem foldlM_invariant {f : β → α → Except ε β} {I : β → Prop}
    (h : ∀ b a b', I b → f b a = .ok b' → I b') {as : List α} {b b' : β} (hb : I b)
    (hrun : as.foldlM f b = .ok b') : I b' := by
  induction as generalizing b with
  | nil =>
    cases hrun
    exact hb
  | cons a as ih =>
    rw [List.foldlM_cons, bind_eq_ok_iff] at hrun
    obtain ⟨b₁, hb₁, hrest⟩ := hrun
    exact ih (h b a b₁ hb hb₁) hrest

/-- Lists are related in the same way if their elements are. -/
theorem forall₂_congr_of_mem {R S : α → β → Prop} {as : List α} {bs : List β}
    (h : ∀ a ∈ as, ∀ b, R a b ↔ S a b) : List.Forall₂ R as bs ↔ List.Forall₂ S as bs := by
  have hof : ∀ {R S : α → β → Prop}, (∀ a ∈ as, ∀ b, R a b → S a b) →
      List.Forall₂ R as bs → List.Forall₂ S as bs := fun hRS hR =>
    ((List.forall₂_and_left as bs).2 ⟨fun _ ha => ha, hR⟩).imp fun a b ⟨ha, hab⟩ => hRS a ha b hab
  exact ⟨hof fun a ha b => (h a ha b).1, hof fun a ha b => (h a ha b).2⟩

/-- If every element is related to something, the list is related to a list. -/
theorem exists_forall₂ {R : α → β → Prop} {as : List α} (h : ∀ a ∈ as, ∃ b, R a b) :
    ∃ bs, List.Forall₂ R as bs := by
  induction as with
  | nil => exact ⟨[], .nil⟩
  | cons a as ih =>
    obtain ⟨b, hb⟩ := h a List.mem_cons_self
    obtain ⟨bs, hbs⟩ := ih fun a' ha' => h a' (List.mem_cons_of_mem _ ha')
    exact ⟨b :: bs, .cons hb hbs⟩

/-- Every element of the one list is related to some element of the other. -/
theorem exists_mem_of_forall₂ {R : α → β → Prop} {as : List α} {bs : List β}
    (h : List.Forall₂ R as bs) {a : α} (ha : a ∈ as) : ∃ b ∈ bs, R a b := by
  induction h with
  | nil => cases ha
  | cons hab _ ih =>
    rcases List.mem_cons.1 ha with rfl | ha
    · exact ⟨_, List.mem_cons_self, hab⟩
    · obtain ⟨b, hb, hR⟩ := ih ha
      exact ⟨b, List.mem_cons_of_mem _ hb, hR⟩

/-- What stands at a place of the one list is related to what stands there in the other. -/
theorem exists_getElem?_of_forall₂ {R : α → β → Prop} {as : List α} {bs : List β}
    (h : List.Forall₂ R as bs) {i : Nat} {a : α} (ha : as[i]? = some a) :
    ∃ b, bs[i]? = some b ∧ R a b := by
  induction h generalizing i with
  | nil => cases ha
  | @cons a' b' _ _ hab _ ih =>
    cases i with
    | zero =>
      obtain rfl := Option.some.inj ha
      exact ⟨b', rfl, hab⟩
    | succ i => exact ih ha

end Boilerplate
