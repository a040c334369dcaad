import TestBench.Proofs.Files.Place

/-! What stands where after a disk has changed. Every operation that succeeds changes one place, or
removes one place with everything below it. -/
namespace TestBench
namespace Disk

variable {d d' : Disk} {cwd k l : Location} {p : Path} {n : Text} {e : Entry}

theorem lookup_filter {β : Type} (keep : Location → Bool) (es : List (Location × β))
    (k : Location) :
    (es.filter fun x => keep x.1).lookup k = if keep k then es.lookup k else none := by
  induction es with
  | nil => simp
  | cons x es ih =>
    obtain ⟨l, e⟩ := x
    rw [List.filter_cons, List.lookup_cons]
    by_cases hk : k = l
    · subst hk
      cases hkeep : keep k <;> simp [ih, hkeep]
    · have hbeq : (k == l) = false := by simpa using hk
      cases keep l <;> simp [List.lookup_cons, ih, hbeq]

theorem entry?_put (hl : l ≠ []) (e : Entry) (k : Location) :
    entry? (d.put l e) k = if k = l then some e else d.entry? k := by
  rcases Decidable.em (k = []) with rfl | hroot
  · simp [hl.symm]
  · rw [entry?_of_ne hroot, entry?_of_ne hroot, put, List.lookup_cons,
      lookup_filter (fun m => decide (m ≠ l))]
    by_cases hk : k = l
    · simp [hk]
    · have hbeq : (k == l) = false := by simpa using hk
      simp [hk, hbeq]

theorem entry?_erase (hl : l ≠ []) (k : Location) :
    entry? (d.erase l) k = if l <+: k then none else d.entry? k := by
  rcases Decidable.em (k = []) with rfl | hroot
  · simp [hl]
  · rw [entry?_of_ne hroot, entry?_of_ne hroot, erase, lookup_filter (fun m => !l.isPrefixOf m)]
    by_cases hk : l <+: k
    · simp [hk, List.isPrefixOf_iff_prefix.mpr hk]
    · have hnot : l.isPrefixOf k = false := by
        rw [← Bool.not_eq_true, List.isPrefixOf_iff_prefix]
        exact hk
      simp [hk, hnot]

theorem ne_nil_of_free (h : d.entry? l = none) : l ≠ [] := by
  rintro rfl
  cases h

@[simp] theorem find_eq_ok_iff : d.find cwd p = .ok e ↔
    ∃ l, d.resolve cwd p = .ok l ∧ d.entry? l = some e := by
  rw [find]
  cases d.resolve cwd p with
  | error f => simp [bind, Except.bind]
  | ok l =>
    rw [ok_bind]
    cases he : d.entry? l <;> simp [he, pure, Except.pure]

@[simp] theorem isFile_iff : d.isFile cwd p = true ↔
    ∃ l content x, d.resolve cwd p = .ok l ∧ d.entry? l = some (.file content x) := by
  have hfile : d.isFile cwd p = true ↔ ∃ content x, d.find cwd p = .ok (.file content x) := by
    rw [isFile]
    rcases d.find cwd p with f | _ | _ <;> simp
  simp only [hfile, find_eq_ok_iff]
  exact ⟨fun ⟨content, x, l, h⟩ => ⟨l, content, x, h⟩, fun ⟨l, content, x, h⟩ => ⟨content, x, l, h⟩⟩

@[simp] theorem readText_eq_ok_iff {t : Text} : d.readText cwd p = .ok t ↔
    ∃ l content x, d.resolve cwd p = .ok l ∧ d.entry? l = some (.file content x) ∧
      Text.Utf8.decode? content = some t := by
  have hfile : d.readText cwd p = .ok t ↔
      ∃ content x, d.find cwd p = .ok (.file content x) ∧ Text.Utf8.decode? content = some t := by
    rw [readText, read]
    rcases d.find cwd p with f | _ | ⟨content, x⟩
    · simp [bind, Except.bind]
    · simp [bind, Except.bind]
    · simp only [bind, Except.bind, pure, Except.pure]
      cases ht : Text.Utf8.decode? content <;> simp [ht]
  simp only [hfile, find_eq_ok_iff]
  exact ⟨fun ⟨content, x, ⟨l, hl, he⟩, ht⟩ => ⟨l, content, x, hl, he, ht⟩,
    fun ⟨l, content, x, hl, he, ht⟩ => ⟨content, x, ⟨l, hl, he⟩, ht⟩⟩

theorem find_of_resolve (hp : d.resolve cwd p = .ok l) (he : d.entry? l = some e) :
    d.find cwd p = .ok e := by
  rw [find, hp, ok_bind, he]
  rfl

theorem contains_of_resolve (hp : d.resolve cwd p = .ok l) (he : d.entry? l = some e) :
    d.contains cwd p = true := by
  rw [contains, find_of_resolve hp he]
  rfl

/-- A slash is taken off the end of a path, unless the path is made of slashes. -/
theorem withoutSlashes_concat (p : Path) (c : Char) : withoutSlashes (p ++ [c]) = p ++ [c] ∨
    c = '/' ∧ p ≠ [] ∧ withoutSlashes (p ++ [c]) = withoutSlashes p := by
  by_cases hc : c = '/'
  · subst hc
    cases hslashes : p.reverse.dropWhile (· = '/') with
    | nil => exact .inl (by simp [withoutSlashes, hslashes])
    | cons a t =>
      refine .inr ⟨rfl, ?_, by simp [withoutSlashes, hslashes]⟩
      rintro rfl
      cases hslashes
  · exact .inl (by simp [withoutSlashes, hc])

@[simp] theorem withoutSlashes_join (hn : Path.IsName n) :
    withoutSlashes (Path.join p n) = Path.join p n := by
  obtain ⟨q, hq⟩ : ∃ q, Path.join p n = q ++ n := by
    by_cases hp : p = []
    · exact ⟨[], by simp [hp, Path.join]⟩
    · rcases Path.join_cases hp hn with ⟨q, -, hj⟩ | ⟨-, hj⟩
      · exact ⟨q ++ ['/'], by simp [hj]⟩
      · exact ⟨p ++ ['/'], by simp [hj]⟩
  obtain ⟨m, c, hm⟩ := List.eq_nil_or_concat n |>.resolve_left hn.nonempty
  have hc : c ≠ '/' := fun hc => hn.noSlash (by simp [hm, hc])
  rw [hq, hm, List.concat_eq_append, ← List.append_assoc]
  exact (withoutSlashes_concat (q ++ m) c).resolve_right fun h => hc h.1

theorem createDirectory_of_resolve (hp : d.resolve cwd (withoutSlashes p) = .ok l)
    (he : d.entry? l = none) :
    d.createDirectory cwd p = .ok (d.put l .directory) := by
  rw [createDirectory, hp, ok_bind, he]
  rfl

theorem createDirectory_of_exists (hp : d.resolve cwd (withoutSlashes p) = .ok l)
    (he : d.entry? l = some e) :
    d.createDirectory cwd p = .error .alreadyExists := by
  rw [createDirectory, hp, ok_bind, he]

theorem write_new (hp : d.resolve cwd p = .ok l) (hrefuses : d.refuses l = none)
    (he : d.entry? l = none) (content : Text.Utf8.Bytes) :
    d.write cwd p content = .ok (d.put l (.file content false)) := by
  rw [write, hp, ok_bind, hrefuses]
  simp only [he]
  rfl

theorem write_over {old : Text.Utf8.Bytes} {x : Bool} (hp : d.resolve cwd p = .ok l)
    (hrefuses : d.refuses l = none) (he : d.entry? l = some (.file old x))
    (content : Text.Utf8.Bytes) :
    d.write cwd p content = .ok (d.put l (.file content x)) := by
  rw [write, hp, ok_bind, hrefuses]
  simp only [he]
  rfl

theorem removeTree_of_resolve (hp : d.resolve cwd p = .ok l) (he : d.entry? l = some .directory) :
    d.removeTree cwd p = d.erase l := by
  rw [removeTree, hp]
  simp [he]

theorem eq_put_of_createDirectory (h : d.createDirectory cwd p = .ok d') :
    ∃ l, d.resolve cwd (withoutSlashes p) = .ok l ∧ d.entry? l = none ∧
    d' = d.put l .directory := by
  rw [createDirectory] at h
  obtain ⟨l, hl, h⟩ := eq_ok_of_bind h
  split at h
  · cases h
  · next he => exact ⟨l, hl, he, (Except.ok.inj h).symm⟩

/-- Nothing that stands on a disk is changed on the other one. -/
def Keeps (d d' : Disk) : Prop :=
  d'.refuses = d.refuses ∧ ∀ k e, d.entry? k = some e → d'.entry? k = some e

theorem Keeps.refl (d : Disk) : Keeps d d := ⟨rfl, fun _ _ h => h⟩

theorem Keeps.trans {d₁ d₂ d₃ : Disk} (h : Keeps d₁ d₂) (h' : Keeps d₂ d₃) : Keeps d₁ d₃ :=
  ⟨h'.1.trans h.1, fun k e he => h'.2 k e (h.2 k e he)⟩

/-- A path that leads to a directory. -/
structure LeadsTo (d : Disk) (cwd : Location) (p : Path) : Prop where
  resolve : d.resolve cwd p = .ok (Path.locate cwd p)
  directory : d.entry? (Path.locate cwd p) = some .directory

theorem LeadsTo.contains (h : d.LeadsTo cwd p) : d.contains cwd p = true :=
  contains_of_resolve h.resolve h.directory

theorem LeadsTo.keeps (h : d.LeadsTo cwd p) (hkeeps : Keeps d d') : d'.LeadsTo cwd p :=
  ⟨resolve_mono (fun k => hkeeps.2 k _) h.resolve, hkeeps.2 _ _ h.directory⟩

theorem keeps_put (h : d.entry? l = none) (e : Entry) : Keeps d (d.put l e) := by
  refine ⟨rfl, fun k e' he => ?_⟩
  rw [entry?_put (ne_nil_of_free h), if_neg]
  · exact he
  · rintro rfl
    rw [h] at he
    cases he

theorem keeps_createDirectory (h : d.createDirectory cwd p = .ok d') : Keeps d d' := by
  obtain ⟨l, -, he, rfl⟩ := eq_put_of_createDirectory h
  exact keeps_put he _

theorem createWithParents_invariant {P : Disk → Prop} {above : List Path}
    (hstep : ∀ q ∈ p :: above, ∀ d d' : Disk, P d → d.createDirectory cwd q = .ok d' → P d')
    (h : P d) :
    P (createWithParents cwd p above d).2 := by
  induction above generalizing p d with
  | nil =>
    rw [createWithParents]
    split
    · next hd => exact hstep p (by simp) _ _ h hd
    · exact h
    · exact h
  | cons q above ih =>
    rw [createWithParents]
    split
    · next hd => exact hstep p (by simp) _ _ h hd
    · have hq := ih (p := q) (fun q' hq' => hstep q' (List.mem_cons_of_mem _ hq')) h
      split
      · next hd => rwa [hd] at hq
      · next d₁ hd =>
        rw [hd] at hq
        split
        · next hd => exact hstep p (by simp) _ _ hq hd
        · exact hq
    · exact h

theorem createDirectories_invariant {P : Disk → Prop}
    (hstep : ∀ q ∈ p :: Path.above p, ∀ d d' : Disk, P d → d.createDirectory cwd q = .ok d' → P d')
    (h : P d) :
    P (d.createDirectories cwd p).2 := by
  rw [createDirectories]
  split
  · exact h
  · exact createWithParents_invariant hstep h

theorem keeps_createDirectories (d : Disk) (cwd : Location) (p : Path) :
    Keeps d (d.createDirectories cwd p).2 :=
  createDirectories_invariant (fun _ _ _ _ h hd => h.trans (keeps_createDirectory hd)) (.refl d)

end Disk
end TestBench
