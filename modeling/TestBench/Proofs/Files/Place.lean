import TestBench.Files.Disk
import TestBench.Proofs.Except
import TestBench.Proofs.Text.Basic

/-! Paths and the places they lead to. A name read from a path leads one level below the place of
the path. -/
namespace TestBench

namespace Text

theorem byteLength_from (n : Nat) (t : Text) :
    t.foldl (fun n c => n + c.utf8Size) n = n + byteLength t := by
  induction t generalizing n with
  | nil => rfl
  | cons c t ih =>
    rw [byteLength, List.foldl_cons, List.foldl_cons, ih, ih (0 + c.utf8Size)]
    omega

@[simp] theorem byteLength_nil : byteLength [] = 0 := rfl

@[simp] theorem byteLength_append (s t : Text) :
    byteLength (s ++ t) = byteLength s + byteLength t := by
  rw [byteLength, List.foldl_append, byteLength_from]
  rfl

@[simp] theorem byteLength_cons (c : Char) (t : Text) :
    byteLength (c :: t) = c.utf8Size + byteLength t := by
  rw [byteLength, List.foldl_cons, byteLength_from, Nat.zero_add]

end Text

namespace Path

/-- A name that leads one level down. -/
structure IsName (n : Text) : Prop where
  nonempty : n ≠ []
  notCurrent : n ≠ current
  notParent : n ≠ parent
  noSlash : '/' ∉ n
  noNul : Char.ofNat 0 ∉ n

instance (n : Text) : Decidable (IsName n) :=
  decidable_of_iff (n ≠ [] ∧ n ≠ current ∧ n ≠ parent ∧ '/' ∉ n ∧ Char.ofNat 0 ∉ n)
    ⟨fun ⟨h₁, h₂, h₃, h₄, h₅⟩ => ⟨h₁, h₂, h₃, h₄, h₅⟩,
      fun ⟨h₁, h₂, h₃, h₄, h₅⟩ => ⟨h₁, h₂, h₃, h₄, h₅⟩⟩

variable {n : Text} {p : Path}

theorem IsName.enter (h : IsName n) (l : Location) : enter l n = l ++ [n] := by
  simp [Path.enter, h.nonempty, h.notCurrent, h.notParent]

theorem IsName.isAbsolute_eq (h : IsName n) : isAbsolute n = false := by
  cases n with
  | nil => rfl
  | cons c t =>
    have hc : c ≠ '/' := fun hc => h.noSlash (by simp [hc])
    simpa [isAbsolute] using hc

theorem IsName.pieces (h : IsName n) : Text.pieces '/' n = [n] := Text.pieces_of_not_mem h.noSlash

theorem join_cases (hp : p ≠ []) (h : IsName n) :
    (∃ q, p = q ++ ['/'] ∧ join p n = q ++ '/' :: n) ∨
    (p.getLast? ≠ some '/' ∧ join p n = p ++ '/' :: n) := by
  have hempty : p.isEmpty = false := by simpa using hp
  by_cases hlast : p.getLast? = some '/'
  · obtain ⟨q, rfl⟩ := List.getLast?_eq_some_iff.mp hlast
    refine .inl ⟨q, rfl, ?_⟩
    simp [join, h.isAbsolute_eq]
  · exact .inr ⟨hlast, by simp [join, h.isAbsolute_eq, hempty, hlast]⟩

theorem join_ne_nil (h : IsName n) : join p n ≠ [] := by
  by_cases hp : p = []
  · subst hp
    simpa [join] using h.nonempty
  · rcases join_cases hp h with ⟨q, -, hj⟩ | ⟨-, hj⟩ <;> simp [hj]

@[simp] theorem isAbsolute_join (h : IsName n) : isAbsolute (join p n) = isAbsolute p := by
  by_cases hp : p = []
  · subst hp
    simpa [join, isAbsolute] using h.isAbsolute_eq
  · obtain ⟨c, t, rfl⟩ := List.exists_cons_of_ne_nil hp
    rcases join_cases hp h with ⟨q, hq, hj⟩ | ⟨-, hj⟩
    · cases q <;> simp_all [isAbsolute]
    · simp [hj, isAbsolute]

@[simp] theorem start_concat_slash (hp : p ≠ []) (cwd : Location) :
    start cwd (p ++ ['/']) = start cwd p := by
  obtain ⟨c, t, rfl⟩ := List.exists_cons_of_ne_nil hp
  rfl

@[simp] theorem start_join (h : IsName n) (cwd : Location) :
    start cwd (join p n) = start cwd p := by
  rw [start, start, isAbsolute_join h]

theorem not_mem_join {c : Char} (hc : c ≠ '/') (hp : c ∉ p) (hn : c ∉ n) : c ∉ join p n := by
  rw [join]
  split
  · exact hn
  · split
    · simp [hp, hn]
    · simp [hp, hn, hc]

@[simp] theorem locate_join (h : IsName n) (cwd : Location) :
    locate cwd (join p n) = locate cwd p ++ [n] := by
  rw [locate, locate, start_join h]
  by_cases hp : p = []
  · subst hp
    simp [join, h.pieces, h.enter, Text.pieces]
  · rcases join_cases hp h with ⟨q, rfl, hj⟩ | ⟨-, hj⟩
    · rw [hj, Text.pieces_append, Text.pieces_append, h.pieces, List.foldl_append,
        List.foldl_append]
      simp [Text.pieces, h.enter]
    · rw [hj, Text.pieces_append, h.pieces, List.foldl_append]
      simp [h.enter]

theorem byteLength_join_le {m : Text} (hn : IsName n) (hm : IsName m)
    (h : Text.byteLength n ≤ Text.byteLength m) :
    Text.byteLength (join p n) ≤ Text.byteLength (join p m) := by
  rw [join, join, hn.isAbsolute_eq, hm.isAbsolute_eq]
  split
  · exact h
  · split <;> simp only [Text.byteLength_append, Text.byteLength_cons] <;> omega

theorem byteLength_le_join (hn : IsName n) : Text.byteLength p ≤ Text.byteLength (join p n) := by
  by_cases hp : p = []
  · simp [hp]
  · rcases join_cases hp hn with ⟨q, rfl, hj⟩ | ⟨-, hj⟩ <;> rw [hj] <;>
      simp only [Text.byteLength_append, Text.byteLength_cons, Text.byteLength_nil] <;> omega

end Path

namespace Disk

variable {d d' : Disk} {cwd l : Location} {p : Path} {n : Text}

theorem step_eq_ok_iff {m : Location} :
    d.step l n = .ok m ↔ d.entry? l = some .directory ∧ Text.byteLength n ≤ nameLimit ∧
    m = Path.enter l n := by
  rw [step]
  split
  · next h => simp [h]
  · next h => simp [h]
  · next h =>
    rw [h]
    split
    · next hn => simp [Nat.not_le.mpr hn]
    · next hn => simp [Nat.not_lt.mp hn, eq_comm]

theorem resolve_eq_ok_iff :
    d.resolve cwd p = .ok l ↔ Char.ofNat 0 ∉ p ∧ p ≠ [] ∧ Text.byteLength p < pathLimit ∧
      (Text.pieces '/' p).foldlM d.step (Path.start cwd p) = .ok l := by
  rw [resolve]
  split
  · next hnul => simp [hnul]
  · next hnul =>
    split
    · next hp => simp [List.isEmpty_iff.mp hp]
    · next hp =>
      have hne : p ≠ [] := by simpa using hp
      split
      · next hlen => simp [Nat.not_lt.mpr hlen]
      · next hlen => simp [hnul, hne, Nat.not_le.mp hlen]

theorem eq_foldl_of_walk {ns : List Text} {m : Location} (h : ns.foldlM d.step l = .ok m) :
    m = ns.foldl Path.enter l := by
  induction ns generalizing l with
  | nil => exact (Except.ok.inj h).symm
  | cons n ns ih =>
    rw [List.foldlM_cons] at h
    obtain ⟨k, hk, h⟩ := eq_ok_of_bind h
    obtain ⟨-, -, rfl⟩ := step_eq_ok_iff.mp hk
    exact ih h

theorem eq_locate_of_resolve (h : d.resolve cwd p = .ok l) : l = Path.locate cwd p :=
  eq_foldl_of_walk (resolve_eq_ok_iff.mp h).2.2.2

theorem walk_mono (h : ∀ k, d.entry? k = some .directory → d'.entry? k = some .directory)
    {ns : List Text} {m : Location} (hw : ns.foldlM d.step l = .ok m) :
    ns.foldlM d'.step l = .ok m := by
  induction ns generalizing l with
  | nil => exact hw
  | cons n ns ih =>
    rw [List.foldlM_cons] at hw ⊢
    obtain ⟨k, hk, hw⟩ := eq_ok_of_bind hw
    obtain ⟨hdir, hlen, rfl⟩ := step_eq_ok_iff.mp hk
    rw [step_eq_ok_iff.mpr ⟨h l hdir, hlen, rfl⟩, ok_bind]
    exact ih hw

theorem resolve_mono (h : ∀ k, d.entry? k = some .directory → d'.entry? k = some .directory)
    (hp : d.resolve cwd p = .ok l) : d'.resolve cwd p = .ok l := by
  obtain ⟨hnul, hne, hlen, hw⟩ := resolve_eq_ok_iff.mp hp
  exact resolve_eq_ok_iff.mpr ⟨hnul, hne, hlen, walk_mono h hw⟩

/-- A name that is read from the path of a directory leads below the directory. -/
theorem resolve_join (hp : d.resolve cwd p = .ok l) (hl : d.entry? l = some .directory)
    (hn : Path.IsName n) (hname : Text.byteLength n ≤ nameLimit)
    (hlen : Text.byteLength (Path.join p n) < pathLimit) :
    d.resolve cwd (Path.join p n) = .ok (l ++ [n]) := by
  obtain ⟨hnul, hne, -, hw⟩ := resolve_eq_ok_iff.mp hp
  refine resolve_eq_ok_iff.mpr ⟨Path.not_mem_join (by decide) hnul hn.noNul,
    Path.join_ne_nil hn, hlen, ?_⟩
  have hlast : d.step l n = .ok (l ++ [n]) := step_eq_ok_iff.mpr ⟨hl, hname, (hn.enter l).symm⟩
  rw [Path.start_join hn]
  rcases Path.join_cases hne hn with ⟨q, rfl, hj⟩ | ⟨-, hj⟩
  · -- The slash at the end of the path is a step that stays in the directory.
    rw [Text.pieces_append, List.foldlM_append] at hw
    obtain ⟨m, hm, hw⟩ := eq_ok_of_bind hw
    obtain rfl : l = m := eq_foldl_of_walk hw
    rw [hj, Text.pieces_append, hn.pieces, List.foldlM_append, hm, ok_bind, List.foldlM_cons, hlast]
    rfl
  · rw [hj, Text.pieces_append, hn.pieces, List.foldlM_append, hw, ok_bind, List.foldlM_cons, hlast]
    rfl

end Disk
end TestBench
