import TestBench.Proofs.Except
import TestBench.Run.Action

/-! Actions one after the other, and what single actions do to the disk. -/
namespace TestBench
namespace Action

variable {α β : Type} {a : Action α} {f : α → Action β} {d d' : Disk} {e : Error} {P : Error → Prop}

theorem bind_eq (a : Action α) (f : α → Action β) (d : Disk) :
    (a >>= f) d = ExceptT.bindCont f (a d).1 (a d).2 := rfl

theorem bind_of_ok {x : α} (h : a d = (.ok x, d')) : (a >>= f) d = f x d' := by
  rw [bind_eq, h]
  rfl

theorem eq_ok_of_bind {y : β} (h : (a >>= f) d = (.ok y, d')) :
    ∃ x d₁, a d = (.ok x, d₁) ∧ f x d₁ = (.ok y, d') := by
  rw [bind_eq] at h
  generalize a d = result at h ⊢
  obtain ⟨e | x, d₁⟩ := result
  · cases h
  · exact ⟨x, d₁, rfl, h⟩

theorem eq_ok_of_lift {check : Except Error α} {x : α}
    (h : (liftM check : Action α) d = (.ok x, d')) :
    check = .ok x ∧ d = d' := Prod.mk.inj h

@[simp] theorem lift_ok (x : α) (d : Disk) :
    (liftM (.ok x : Except Error α) : Action α) d = (.ok x, d) :=
  rfl

@[simp] theorem bind_get (f : Disk → Action β) (d : Disk) : ((get : Action Disk) >>= f) d = f d d :=
  rfl

@[simp] theorem bind_set (d d' : Disk) (f : PUnit → Action β) :
    ((set d' : Action PUnit) >>= f) d = f ⟨⟩ d' := rfl

theorem bind_of_error (h : a d = (.error e, d')) : (a >>= f) d = (.error e, d') := by
  rw [bind_eq, h]
  rfl

theorem error_of_bind (h : (a >>= f) d = (.error e, d')) :
    a d = (.error e, d') ∨ ∃ x d₁, a d = (.ok x, d₁) ∧ f x d₁ = (.error e, d') := by
  cases ha : a d with
  | mk result d₁ =>
    cases result with
    | ok x =>
      rw [bind_of_ok ha] at h
      exact .inr ⟨x, d₁, rfl, h⟩
    | error e₁ =>
      rw [bind_of_error ha] at h
      cases h
      exact .inl rfl

theorem fst_bind_eq_ok_iff {y : β} :
    ((a >>= f) d).1 = .ok y ↔ ∃ x d₁, a d = (.ok x, d₁) ∧ (f x d₁).1 = .ok y := by
  constructor
  · intro h
    have hpair : (a >>= f) d = (.ok y, ((a >>= f) d).2) := Prod.ext h rfl
    obtain ⟨x, d₁, ha, hf⟩ := eq_ok_of_bind hpair
    exact ⟨x, d₁, ha, by rw [hf]⟩
  · rintro ⟨x, d₁, ha, hf⟩
    rwa [bind_of_ok ha]

@[simp] theorem fst_bind_lift (a : Action α) (g : α → Except Error β) (d : Disk) :
    ((a >>= fun x => liftM (g x)) d).1 = (a d).1 >>= g := by
  rw [bind_eq]
  cases (a d).1 <;> rfl

theorem bind_disk (ha : (a d).2 = d') (hf : ∀ x, (f x d').2 = d') : ((a >>= f) d).2 = d' := by
  rw [bind_eq]
  generalize a d = result at ha ⊢
  obtain ⟨e | x, d₁⟩ := result
  · exact ha
  · dsimp only at ha
    subst ha
    exact hf x

@[simp] theorem lift_disk (check : Except Error α) (d : Disk) :
    ((liftM check : Action α) d).2 = d := rfl

@[simp] theorem readText_disk (cwd : Location) (p : Path) (onFault : DiskFault → Error) (d : Disk) :
    (readText cwd p onFault d).2 = d := by
  rw [readText, bind_get]
  cases d.readText cwd p <;> rfl

theorem change_eq (f : Disk → Except DiskFault Disk) (d : Disk) :
    change f d = match f d with
      | .ok d' => (.ok (), d')
      | .error fault => (.error (.io fault.message), d) := by
  rw [change, bind_get]
  cases f d <;> rfl

theorem ensureDirectory_eq (cwd : Location) (p : Path) (d : Disk) :
    ensureDirectory cwd p d = if d.contains cwd p then (.ok (), d) else
      ((d.createDirectories cwd p).1.mapError fun fault => .io fault.message,
        (d.createDirectories cwd p).2) := by
  rw [ensureDirectory, bind_get]
  cases d.contains cwd p with
  | true => rfl
  | false =>
    obtain ⟨result, d'⟩ := d.createDirectories cwd p
    cases result <;> rfl

/-- Every error of an action has a property. -/
def ThrowsOnly (P : Error → Prop) (a : Action α) : Prop :=
  ∀ d e, (a d).1 = .error e → P e

theorem throwsOnly_bind (ha : a.ThrowsOnly P) (hf : ∀ x, (f x).ThrowsOnly P) :
    (a >>= f).ThrowsOnly P := by
  intro d e he
  rw [bind_eq] at he
  cases hr : a d with
  | mk result d₁ =>
    rw [hr] at he
    cases result with
    | ok x => exact hf x d₁ e he
    | error e₁ =>
      cases he
      exact ha d e (by rw [hr])

@[simp] theorem throwsOnly_pure (x : α) : (pure x : Action α).ThrowsOnly P :=
  fun _ _ he => nomatch he

@[simp] theorem throwsOnly_get : (get : Action Disk).ThrowsOnly P := fun _ _ he => nomatch he

@[simp] theorem throwsOnly_set (d : Disk) : (set d : Action Unit).ThrowsOnly P :=
  fun _ _ he => nomatch he

@[simp] theorem throwsOnly_throw : (throw e : Action α).ThrowsOnly P ↔ P e := by
  constructor
  · exact fun h => h ⟨[], fun _ => none⟩ e rfl
  · intro he d e' he'
    cases he'
    exact he

theorem throwsOnly_lift {check : Except Error α} (h : ∀ e, check = .error e → P e) :
    (liftM check : Action α).ThrowsOnly P := fun _ => h

theorem throwsOnly_change (hio : ∀ reason, P (.io reason)) (f : Disk → Except DiskFault Disk) :
    (change f).ThrowsOnly P := by
  refine throwsOnly_bind throwsOnly_get fun d => ?_
  cases f d <;> simp [hio]

theorem throwsOnly_readText (cwd : Location) (p : Path) {onFault : DiskFault → Error}
    (h : ∀ fault, P (onFault fault)) : (readText cwd p onFault).ThrowsOnly P := by
  refine throwsOnly_bind throwsOnly_get fun d => ?_
  cases d.readText cwd p <;> simp [h]

theorem throwsOnly_ensureDirectory (hio : ∀ reason, P (.io reason)) (cwd : Location) (p : Path) :
    (ensureDirectory cwd p).ThrowsOnly P := by
  intro d e he
  rw [ensureDirectory_eq] at he
  split at he
  · cases he
  · obtain ⟨fault, rfl⟩ := error_of_mapError he
    exact hio _

theorem throwsOnly_onError (ha : a.ThrowsOnly P) (f : Disk → Disk) :
    (onError a f).ThrowsOnly P := by
  intro d e he
  refine ha d e ?_
  rw [onError] at he
  split at he
  · cases he
  · next h =>
    cases he
    rw [h]

end Action
end TestBench
