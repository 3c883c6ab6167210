import Mathlib.Logic.Basic

/-!
# A heap of cells

Addresses are natural numbers that are never handed out twice, so an address
whose cell was erased stays dangling. Reading through it gives `none`, and
writing through it changes nothing.
-/

/-- A partial map from addresses to cells. -/
def Heap (α : Type*) := Nat → Option α

namespace Heap

variable {α : Type*}

def empty : Heap α := fun _ => none

def set (h : Heap α) (p : Nat) (a : α) : Heap α := fun q => if q = p then some a else h q

def erase (h : Heap α) (p : Nat) : Heap α := fun q => if q = p then none else h q

def modify (h : Heap α) (p : Nat) (f : α → α) : Heap α :=
  fun q => if q = p then (h q).map f else h q

@[simp] theorem empty_apply (q : Nat) : (empty : Heap α) q = none := rfl

@[simp] theorem set_self (h : Heap α) (p : Nat) (a : α) : h.set p a p = some a := by simp [set]

theorem set_of_ne {h : Heap α} {p q : Nat} {a : α} (ne : q ≠ p) : h.set p a q = h q := by
  simp [set, ne]

theorem set_apply (h : Heap α) (p q : Nat) (a : α) :
    h.set p a q = if q = p then some a else h q := rfl

@[simp] theorem erase_self (h : Heap α) (p : Nat) : h.erase p p = none := by simp [erase]

theorem erase_of_ne {h : Heap α} {p q : Nat} (ne : q ≠ p) : h.erase p q = h q := by
  simp [erase, ne]

theorem erase_apply (h : Heap α) (p q : Nat) :
    h.erase p q = if q = p then none else h q := rfl

@[simp] theorem modify_self (h : Heap α) (p : Nat) (f : α → α) :
    h.modify p f p = (h p).map f := by simp [modify]

theorem modify_of_ne {h : Heap α} {p q : Nat} {f : α → α} (ne : q ≠ p) :
    h.modify p f q = h q := by
  simp [modify, ne]

theorem modify_apply (h : Heap α) (p q : Nat) (f : α → α) :
    h.modify p f q = if q = p then (h q).map f else h q := rfl

theorem modify_dead {h : Heap α} {p : Nat} {f : α → α} (dead : h p = none) :
    h.modify p f = h := by
  funext q
  by_cases same : q = p <;> simp [modify, same, dead]

/-- A cell after a write is the old cell, or the written one. -/
theorem modify_eq_some {h : Heap α} {p q : Nat} {f : α → α} {b : α} :
    h.modify p f q = some b ↔ ∃ a, h q = some a ∧ b = if q = p then f a else a := by
  by_cases same : q = p
  · simp [modify, same, eq_comm]
  · simp [modify, same]

/-- A write to a live cell, as the value it leaves. -/
theorem modify_live {h : Heap α} {p : Nat} {a : α} (live : h p = some a) (f : α → α) :
    h.modify p f = h.set p (f a) := by
  funext q
  by_cases same : q = p <;> simp [modify, set, same, live]

@[simp] theorem set_modify (h : Heap α) (p : Nat) (a : α) (f : α → α) :
    (h.set p a).modify p f = h.set p (f a) := by
  funext q
  by_cases same : q = p <;> simp [modify, set, same]

/-- Writing does not bring a cell to life, and erases none. -/
@[simp] theorem isSome_modify (h : Heap α) (p q : Nat) (f : α → α) :
    (h.modify p f q).isSome = (h q).isSome := by
  by_cases same : q = p <;> simp [modify, same]

/-! ## Cells that change in place -/

/-- Every cell of `h'` is one of `h`, changed as `R` allows. -/
def Evolves (R : α → α → Prop) (h h' : Heap α) : Prop :=
  ∀ p b, h' p = some b → ∃ a, h p = some a ∧ R a b

namespace Evolves
variable {R : α → α → Prop} {h h' h'' : Heap α}

theorem refl (same : ∀ a, R a a) : Evolves R h h := fun _ b live => ⟨b, live, same b⟩

theorem trans (compose : ∀ a b c, R a b → R b c → R a c) (first : Evolves R h h')
    (second : Evolves R h' h'') : Evolves R h h'' := by
  intro p c live
  obtain ⟨b, live', rest⟩ := second p c live
  obtain ⟨a, live'', start⟩ := first p b live'
  exact ⟨a, live'', compose a b c start rest⟩

theorem modify (same : ∀ a, R a a) (p : Nat) {f : α → α} (changed : ∀ a, R a (f a)) :
    Evolves R h (h.modify p f) := by
  intro q b live
  obtain ⟨a, old, rfl⟩ := modify_eq_some.mp live
  refine ⟨a, old, ?_⟩
  split
  · exact changed a
  · exact same a

theorem erase (same : ∀ a, R a a) (p : Nat) : Evolves R h (h.erase p) := by
  intro q b live
  by_cases gone : q = p
  · simp [gone] at live
  · exact ⟨b, by rwa [erase_of_ne gone] at live, same b⟩

end Evolves

/-- Every cell of `h'` is one of `h`, and agrees with it on a field. -/
def Retains {γ : Type*} (field : α → γ) (h h' : Heap α) : Prop :=
  Evolves (fun a b => field b = field a) h h'

namespace Retains
variable {γ : Type*} {field : α → γ} {h h' h'' : Heap α}

theorem refl : Retains field h h := Evolves.refl fun _ => rfl

theorem of_eq (same : h' = h) : Retains field h h' := same ▸ refl

theorem trans (first : Retains field h h') (second : Retains field h' h'') :
    Retains field h h'' :=
  Evolves.trans (fun _ _ _ ab bc => bc.trans ab) first second

theorem modify (p : Nat) {f : α → α} (same : ∀ a, field (f a) = field a) :
    Retains field h (h.modify p f) :=
  Evolves.modify (R := fun a b => field b = field a) (fun _ => rfl) p same

theorem erase (p : Nat) : Retains field h (h.erase p) :=
  Evolves.erase (R := fun a b => field b = field a) (fun _ => rfl) p

/-- What holds of the field in all cells still does. -/
theorem all {P : γ → Prop} (retains : Retains field h h') (ok : ∀ p a, h p = some a → P (field a)) :
    ∀ p b, h' p = some b → P (field b) := by
  intro p b live
  obtain ⟨a, old, same⟩ := retains p b live
  rw [same]
  exact ok p a old

end Retains
end Heap
