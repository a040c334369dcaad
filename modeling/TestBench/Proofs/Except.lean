/-! Results that may be faults. A chain of steps has a result if all of its steps have one. -/
namespace TestBench

variable {α β ε : Type}

@[simp] theorem ok_bind (a : α) (next : α → Except ε β) : (Except.ok a >>= next) = next a := rfl

theorem eq_ok_of_bind {check : Except ε α} {next : α → Except ε β} {b : β}
    (h : check >>= next = .ok b) :
    ∃ a, check = .ok a ∧ next a = .ok b := by
  cases check with
  | error e => cases h
  | ok a => exact ⟨a, rfl, h⟩

theorem error_of_bind {check : Except ε α} {next : α → Except ε β} {e : ε}
    (h : check >>= next = .error e) :
    check = .error e ∨ ∃ a, check = .ok a ∧ next a = .error e := by
  cases check with
  | error e' => exact .inl (congrArg Except.error (Except.error.inj h))
  | ok a => exact .inr ⟨a, rfl, h⟩

theorem error_of_mapError {δ : Type} {check : Except ε α} {g : ε → δ} {e : δ}
    (h : check.mapError g = .error e) :
    ∃ f, e = g f := by
  cases check with
  | error f => exact ⟨f, (Except.error.inj h).symm⟩
  | ok a => cases h

theorem eq_ok_of_map {check : Except ε α} {g : α → β} {b : β} (h : check.map g = .ok b) :
    ∃ a, check = .ok a ∧ g a = b := by
  cases check with
  | error e => cases h
  | ok a => exact ⟨a, rfl, Except.ok.inj h⟩

theorem eq_ok_of_mapError {δ : Type} {check : Except ε α} {g : ε → δ} {a : α}
    (h : check.mapError g = .ok a) :
    check = .ok a := by
  cases check with
  | error e => cases h
  | ok a' => rw [Except.ok.inj h]

theorem eq_ok_of_toOption {check : Except ε α} {a : α} (h : check.toOption = some a) :
    check = .ok a := by
  cases check with
  | error e => cases h
  | ok a' => rw [Option.some_inj.mp h]

end TestBench
