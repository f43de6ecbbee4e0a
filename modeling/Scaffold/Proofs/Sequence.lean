import Mathlib.Data.List.Forall2
/-!
# Proofs.Sequence — results one after the other

Doing something for every element of a list gives a result for each of them (`mapM_eq_ok_iff`), or the refusal of the
first that is refused (`mapM_eq_error_iff`).
-/
namespace Scaffold
namespace Sequence

variable {α β ε ε' : Type}

theorem bind_eq_ok_iff {x : Except ε α} {f : α → Except ε β} {b : β} :
    x >>= f = .ok b ↔ ∃ a, x = .ok a ∧ f a = .ok b := by
  cases x <;> simp [Bind.bind, Except.bind]

theorem bind_eq_error_iff {x : Except ε α} {f : α → Except ε β} {e : ε} :
    x >>= f = .error e ↔ x = .error e ∨ ∃ a, x = .ok a ∧ f a = .error e := by
  cases x <;> simp [Bind.bind, Except.bind]

theorem map_eq_ok_iff {x : Except ε α} {f : α → β} {b : β} : x.map f = .ok b ↔ ∃ a, x = .ok a ∧ f a = b := by
  cases x <;> simp [Except.map]

theorem map_eq_error_iff {x : Except ε α} {f : α → β} {e : ε} : x.map f = .error e ↔ x = .error e := by
  cases x <;> simp [Except.map]

theorem mapError_eq_ok_iff {x : Except ε α} {f : ε → ε'} {a : α} : x.mapError f = .ok a ↔ x = .ok a := by
  cases x <;> simp [Except.mapError]

theorem mapError_eq_error_iff {x : Except ε α} {f : ε → ε'} {e : ε'} :
    x.mapError f = .error e ↔ ∃ d, x = .error d ∧ f d = e := by
  cases x <;> simp [Except.mapError]

theorem toOption_eq_some_iff {x : Except ε α} {a : α} : x.toOption = some a ↔ x = .ok a := by
  cases x <;> simp [Except.toOption]

def thrown? : Except ε α → Option ε
  | .ok _ => none
  | .error e => some e

theorem thrown?_eq_some_iff {x : Except ε α} {e : ε} : thrown? x = some e ↔ x = .error e := by
  cases x <;> simp [thrown?]

theorem thrown?_eq_none_iff {x : Except ε α} : thrown? x = none ↔ ∃ a, x = .ok a := by
  cases x <;> simp [thrown?]

@[simp] theorem thrown?_map (x : Except ε α) (f : α → β) : thrown? (x.map f) = thrown? x := by
  cases x <;> rfl

theorem forM_eq_ok_iff (f : α → Except ε Unit) :
    ∀ (l : List α), l.forM f = .ok () ↔ ∀ a ∈ l, f a = .ok ()
  | [] => by simp [List.forM, pure, Except.pure]
  | a :: l => by
    simp only [List.forM, bind_eq_ok_iff, forM_eq_ok_iff f l, List.forall_mem_cons]
    exact ⟨fun ⟨_, h⟩ => h, fun h => ⟨(), h⟩⟩

theorem exists_of_forM_eq_error {f : α → Except ε Unit} {e : ε} :
    ∀ {l : List α}, l.forM f = .error e → ∃ a ∈ l, f a = .error e
  | [], h => by cases h
  | a :: l, h => by
    rcases bind_eq_error_iff.1 h with ha | ⟨-, -, hl⟩
    · exact ⟨a, List.mem_cons_self, ha⟩
    · obtain ⟨b, hb, hf⟩ := exists_of_forM_eq_error hl
      exact ⟨b, List.mem_cons_of_mem a hb, hf⟩

theorem mapM_eq_ok_iff (f : α → Except ε β) :
    ∀ (l : List α) (r : List β), l.mapM f = .ok r ↔ List.Forall₂ (fun a b => f a = .ok b) l r
  | [], r => by cases r <;> simp [pure, Except.pure]
  | a :: l, r => by
    simp only [List.mapM_cons, bind_eq_ok_iff, mapM_eq_ok_iff f l, pure, Except.pure, Except.ok.injEq]
    constructor
    · rintro ⟨b, hb, bs, hbs, rfl⟩
      exact .cons hb hbs
    · rintro (_ | ⟨hb, hbs⟩)
      exact ⟨_, hb, _, hbs, rfl⟩

theorem exists_mapM_eq_ok_iff (f : α → Except ε β) :
    ∀ (l : List α), (∃ r, l.mapM f = .ok r) ↔ ∀ a ∈ l, ∃ b, f a = .ok b
  | [] => by simp [pure, Except.pure]
  | a :: l => by
    simp only [List.mapM_cons, bind_eq_ok_iff, List.forall_mem_cons, ← exists_mapM_eq_ok_iff f l]
    constructor
    · rintro ⟨_, b, hb, bs, hbs, -⟩
      exact ⟨⟨b, hb⟩, ⟨bs, hbs⟩⟩
    · rintro ⟨⟨b, hb⟩, ⟨bs, hbs⟩⟩
      exact ⟨b :: bs, b, hb, bs, hbs, rfl⟩

/-- **The refusal is that of the first element that is refused.** -/
theorem mapM_eq_error_iff (f : α → Except ε β) (e : ε) :
    ∀ (l : List α), l.mapM f = .error e ↔
      ∃ pre a post, l = pre ++ a :: post ∧ (∀ p ∈ pre, ∃ b, f p = .ok b) ∧ f a = .error e
  | [] => by simp [pure, Except.pure]
  | a :: l => by
    simp only [List.mapM_cons, bind_eq_error_iff, mapM_eq_error_iff f e l, pure, Except.pure, reduceCtorEq, and_false,
      exists_false, or_false]
    constructor
    · rintro (ha | ⟨b, hb, pre, x, post, rfl, hpre, hx⟩)
      · exact ⟨[], a, l, rfl, by simp, ha⟩
      · exact ⟨a :: pre, x, post, rfl, List.forall_mem_cons.2 ⟨⟨b, hb⟩, hpre⟩, hx⟩
    · rintro ⟨pre, x, post, hl, hpre, hx⟩
      cases pre with
      | nil =>
        obtain ⟨rfl, rfl⟩ := List.cons.inj hl
        exact .inl hx
      | cons p pre =>
        obtain ⟨rfl, rfl⟩ := List.cons.inj hl
        obtain ⟨⟨b, hb⟩, hpre⟩ := List.forall_mem_cons.1 hpre
        exact .inr ⟨b, hb, pre, x, post, rfl, hpre, hx⟩

theorem forall_mem_of_forall₂ {R : α → β → Prop} {P : β → Prop} (h : ∀ a b, R a b → P b) : ∀ {l : List α} {r : List β},
    List.Forall₂ R l r → ∀ b ∈ r, P b
  | _, _, .nil => List.forall_mem_nil P
  | _, _, .cons hr hrs => List.forall_mem_cons.2 ⟨h _ _ hr, forall_mem_of_forall₂ h hrs⟩

theorem exists_of_mem_mapM {f : α → Except ε β} {l : List α} {r : List β} (h : l.mapM f = .ok r) {b : β} (hb : b ∈ r) :
    ∃ a ∈ l, f a = .ok b := by
  have hboth := (List.forall₂_and_left _ _).2 ⟨fun a (ha : a ∈ l) => ha, (mapM_eq_ok_iff f l r).1 h⟩
  have hone : ∀ a b, a ∈ l ∧ f a = .ok b → ∃ a ∈ l, f a = .ok b := fun a _ hab => ⟨a, hab.1, hab.2⟩
  exact forall_mem_of_forall₂ hone hboth b hb

theorem mem_of_mapM {f : α → Except ε β} {l : List α} {r : List β} (h : l.mapM f = .ok r) {a : α} (ha : a ∈ l) {b : β}
    (hb : f a = .ok b) : b ∈ r := by
  have hall := (mapM_eq_ok_iff f l r).1 h
  clear h
  induction hall with
  | nil => cases ha
  | cons hx _ ih =>
    rcases List.mem_cons.1 ha with rfl | ha
    · rw [hx] at hb
      exact Except.ok.inj hb ▸ List.mem_cons_self
    · exact List.mem_cons_of_mem _ (ih ha)

theorem forall₂_zip {γ : Type} {R : α → β → Prop} {S : α → γ → Prop} {T : α → β → γ → Prop}
    (h : ∀ a b c, R a b → S a c → T a b c) : ∀ {l : List α} {r : List β} {u : List γ},
    List.Forall₂ R l r → List.Forall₂ S l u → List.Forall₂ (fun p c => T p.1 p.2 c) (l.zip r) u
  | _, _, _, .nil, .nil => .nil
  | _, _, _, .cons hr hrs, .cons hu hus => .cons (h _ _ _ hr hu) (forall₂_zip h hrs hus)

end Sequence
end Scaffold
