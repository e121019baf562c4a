import RuleGate.Rule.Error

/-!
# Steps that may fail

When a step that may fail, followed by another, gives a value or an error. `Stuck` says that
compiling comes upon a number that is no integer, which nothing recovers from; of two steps in a
row the second can be stuck only if the first gives a value. Two steps are `Similar` if they come to
the same value, the same such number, or each to an error of the rule.
-/

namespace Except

variable {ε α β : Type}

@[simp] theorem ok_bind (a : α) (f : α → Except ε β) : (.ok a : Except ε α) >>= f = f a := rfl

@[simp] theorem error_bind (e : ε) (f : α → Except ε β) :
    (.error e : Except ε α) >>= f = .error e := rfl

@[simp] theorem pure_eq_ok (a : α) : (pure a : Except ε α) = .ok a := rfl

theorem bind_eq_ok_iff {x : Except ε α} {f : α → Except ε β} {b : β} :
    x >>= f = .ok b ↔ ∃ a, x = .ok a ∧ f a = .ok b := by
  cases x <;> simp

theorem bind_eq_error_iff {x : Except ε α} {f : α → Except ε β} {e : ε} :
    x >>= f = .error e ↔ x = .error e ∨ ∃ a, x = .ok a ∧ f a = .error e := by
  cases x <;> simp

theorem map_eq_ok_iff {x : Except ε α} {f : α → β} {b : β} :
    x.map f = .ok b ↔ ∃ a, x = .ok a ∧ f a = b := by
  cases x <;> simp [Except.map]

theorem map_eq_error_iff {x : Except ε α} {f : α → β} {e : ε} :
    x.map f = .error e ↔ x = .error e := by
  cases x <;> simp [Except.map]

theorem mapError_eq_ok_iff {ε' : Type} {x : Except ε α} {f : ε → ε'} {a : α} :
    x.mapError f = .ok a ↔ x = .ok a := by
  cases x with
  | error e => exact iff_of_false (fun h => nomatch h) fun h => nomatch h
  | ok b => exact ⟨fun h => congrArg _ (ok.inj h), fun h => congrArg _ (ok.inj h)⟩

theorem exists_eq_error_iff {x : Except ε α} : (∃ e, x = .error e) ↔ ¬ ∃ a, x = .ok a := by
  cases x <;> simp

end Except

namespace RuleGate.Failure

variable {α β : Type}

/-- A number that is no integer has been met. -/
def Stuck (x : Except Failure α) : Prop := ∃ f, x = .error (.number f)

@[simp] theorem not_stuck_ok (a : α) : ¬ Stuck (.ok a : Except Failure α) := by
  rintro ⟨f, hf⟩
  cases hf

@[simp] theorem not_stuck_compile (e : CompileError) :
    ¬ Stuck (.error (.compile e) : Except Failure α) := by
  rintro ⟨f, hf⟩
  cases hf

@[simp] theorem stuck_number (f : NumberFault) :
    Stuck (.error (.number f) : Except Failure α) := ⟨f, rfl⟩

theorem stuck_bind {x : Except Failure α} {g : α → Except Failure β} :
    Stuck (x >>= g) ↔ Stuck x ∨ ∃ a, x = .ok a ∧ Stuck (g a) := by
  simp only [Stuck, Except.bind_eq_error_iff]
  constructor
  · rintro ⟨f, hf | ⟨a, ha, hg⟩⟩
    · exact .inl ⟨f, hf⟩
    · exact .inr ⟨a, ha, f, hg⟩
  · rintro (⟨f, hf⟩ | ⟨a, ha, f, hg⟩)
    · exact ⟨f, .inl hf⟩
    · exact ⟨f, .inr ⟨a, ha, hg⟩⟩

theorem stuck_map {x : Except Failure α} {g : α → β} : Stuck (x.map g) ↔ Stuck x := by
  simp only [Stuck, Except.map_eq_error_iff]

theorem stuck_ofFault {x : Except NumberFault α} :
    Stuck (ofFault x) ↔ ∃ f, x = .error f := by
  cases x <;> simp [ofFault, Stuck]

theorem ofFault_eq_ok_iff {x : Except NumberFault α} {a : α} :
    ofFault x = .ok a ↔ x = .ok a := by
  cases x <;> simp [ofFault]

/-- The same but for what an error of the rule says. -/
inductive Similar : Except Failure α → Except Failure α → Prop
  | ok (a : α) : Similar (.ok a) (.ok a)
  | compile (e e' : CompileError) : Similar (.error (.compile e)) (.error (.compile e'))
  | number (f : NumberFault) : Similar (.error (.number f)) (.error (.number f))

namespace Similar

theorem refl (x : Except Failure α) : Similar x x := by
  rcases x with (e | f) | a
  · exact .compile e e
  · exact .number f
  · exact .ok a

theorem iff_forall {x y : Except Failure α} : Similar x y ↔
    (∀ {a}, x = .ok a → y = .ok a) ∧
      (∀ {e}, x = .error (.compile e) → ∃ e', y = .error (.compile e')) ∧
      ∀ {f}, x = .error (.number f) → y = .error (.number f) := by
  constructor
  · rintro (a | ⟨e, e'⟩ | f)
    · simp
    · simp
    · simp
  · rintro ⟨hok, hcompile, hnumber⟩
    rcases x with (e | f) | a
    · obtain ⟨e', rfl⟩ := hcompile rfl
      exact .compile e e'
    · obtain rfl := hnumber rfl
      exact .number f
    · obtain rfl := hok rfl
      exact .ok a

theorem bind {x y : Except Failure α} {f g : α → Except Failure β} (h : Similar x y)
    (hfg : ∀ a, Similar (f a) (g a)) : Similar (x >>= f) (y >>= g) := by
  cases h with
  | ok a => exact hfg a
  | compile e e' => exact .compile e e'
  | number n => exact .number n

theorem map {x y : Except Failure α} (h : Similar x y) (f : α → β) :
    Similar (x.map f) (y.map f) := by
  cases h with
  | ok a => exact .ok (f a)
  | compile e e' => exact .compile e e'
  | number n => exact .number n

end Similar
end RuleGate.Failure
