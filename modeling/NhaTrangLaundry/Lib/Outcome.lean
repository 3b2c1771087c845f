import Mathlib.Data.List.Forall2
import Mathlib.Tactic.Common

/-! Computations that stop at their first failure: how a successful run of
`Except` splits into the successful runs of its parts. -/

namespace NhaTrangLaundry.Lib.Outcome

variable {ε α β : Type}

@[simp] lemma bind_ok {x : Except ε α} {f : α → Except ε β} {b : β} :
    (x >>= f) = .ok b ↔ ∃ a, x = .ok a ∧ f a = .ok b := by
  cases x with
  | error e => simp [bind, Except.bind]
  | ok a => simp [bind, Except.bind]

lemma bind_error {x : Except ε α} {f : α → Except ε β} {e : ε} :
    (x >>= f) = .error e ↔ x = .error e ∨ ∃ a, x = .ok a ∧ f a = .error e := by
  cases x with
  | error e => simp [bind, Except.bind]
  | ok a => simp [bind, Except.bind]

@[simp] lemma ok_bind (a : α) (f : α → Except ε β) : ((Except.ok a : Except ε α) >>= f) = f a :=
  rfl

@[simp] lemma error_bind (e : ε) (f : α → Except ε β) :
    ((Except.error e : Except ε α) >>= f) = .error e :=
  rfl

@[simp] lemma pure_ok {a b : α} : (pure a : Except ε α) = .ok b ↔ a = b := by
  simp [pure, Except.pure]

@[simp] lemma map_ok {x : Except ε α} {f : α → β} {b : β} :
    (f <$> x) = .ok b ↔ ∃ a, x = .ok a ∧ f a = b := by
  cases x with
  | error e => simp [Functor.map, Except.map]
  | ok a => simp [Functor.map, Except.map]

@[simp] lemma mapError_ok {ε' : Type} {x : Except ε α} {f : ε → ε'} {a : α} :
    x.mapError f = .ok a ↔ x = .ok a := by
  cases x <;> simp [Except.mapError]

@[simp] lemma mapError_error {ε' : Type} {x : Except ε α} {f : ε → ε'} {e : ε'} :
    x.mapError f = .error e ↔ ∃ e', x = .error e' ∧ f e' = e := by
  cases x <;> simp [Except.mapError]

lemma exists_ok {x : Except ε α} (h : x.isOk = true) : ∃ a, x = .ok a := by
  cases x with
  | error e => cases h
  | ok a => exact ⟨a, rfl⟩

/-- Stop with `e` unless the condition holds. -/
def require (c : Prop) [Decidable c] (e : ε) : Except ε Unit :=
  if c then .ok () else .error e

@[simp] lemma require_ok {c : Prop} [Decidable c] {e : ε} {u : Unit} :
    require c e = .ok u ↔ c := by
  by_cases h : c <;> simp [require, h]

lemma require_true {c : Prop} [Decidable c] (h : c) (e : ε) : require c e = .ok () := by
  simp [h]

lemma require_false {c : Prop} [Decidable c] (h : ¬ c) (e : ε) : require c e = .error e := by
  simp [require, h]

@[simp] lemma require_error {c : Prop} [Decidable c] {e e' : ε} :
    require c e = .error e' ↔ ¬ c ∧ e = e' := by
  by_cases h : c <;> simp [require, h]

/-- A missing value stops with `e`. -/
def ofOption (e : ε) : Option α → Except ε α
  | some a => .ok a
  | none => .error e

@[simp] lemma ofOption_ok {e : ε} {x : Option α} {a : α} : ofOption e x = .ok a ↔ x = some a := by
  cases x <;> simp [ofOption]

lemma mapM_ok {f : α → Except ε β} {l : List α} {bs : List β} :
    l.mapM f = .ok bs ↔ List.Forall₂ (fun a b => f a = .ok b) l bs := by
  induction l generalizing bs with
  | nil =>
    rw [List.mapM_nil, pure_ok]
    cases bs <;> simp
  | cons a l ih =>
    rw [List.mapM_cons]
    constructor
    · intro h
      obtain ⟨b, hb, h⟩ := bind_ok.mp h
      obtain ⟨bs', hbs, h⟩ := bind_ok.mp h
      cases pure_ok.mp h
      exact .cons hb (ih.mp hbs)
    · rintro (_ | ⟨hb, hbs⟩)
      exact bind_ok.mpr ⟨_, hb, bind_ok.mpr ⟨_, ih.mpr hbs, rfl⟩⟩

lemma forM_ok {f : α → Except ε Unit} {l : List α} {u : Unit} :
    l.forM f = .ok u ↔ ∀ a ∈ l, f a = .ok () := by
  induction l with
  | nil => simp [pure, Except.pure]
  | cons a l ih =>
    rw [List.forM, bind_ok]
    constructor
    · rintro ⟨⟨⟩, ha, hl⟩
      exact List.forall_mem_cons.mpr ⟨ha, ih.mp hl⟩
    · intro h
      exact ⟨(), h a List.mem_cons_self, ih.mpr fun b hb => h b (List.mem_cons_of_mem _ hb)⟩

lemma mapM_flatMap {γ : Type} {f : α → Except ε β} {g : γ → List α} {l : List γ} :
    (l.flatMap g).mapM f = List.flatten <$> l.mapM fun c => (g c).mapM f := by
  induction l with
  | nil => rfl
  | cons c l ih =>
    rw [List.flatMap_cons, List.mapM_append, ih, List.mapM_cons]
    simp only [map_bind, bind_map_left, map_pure, List.flatten_cons]

lemma forall₂_mem_right {R : α → β → Prop} {l : List α} {l' : List β} (h : List.Forall₂ R l l')
    {b : β} (hb : b ∈ l') : ∃ a ∈ l, R a b := by
  induction h with
  | nil => simp at hb
  | cons hab _ ih =>
    rcases List.mem_cons.mp hb with rfl | hb
    · exact ⟨_, List.mem_cons_self, hab⟩
    · obtain ⟨a, ha, hr⟩ := ih hb
      exact ⟨a, List.mem_cons_of_mem _ ha, hr⟩

end NhaTrangLaundry.Lib.Outcome
