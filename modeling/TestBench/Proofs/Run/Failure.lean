import TestBench.Proofs.Files.Making
import TestBench.Proofs.Run.Housed

/-! Sessions that cannot be made. Whatever goes wrong, the directory of the session is not there
afterwards unless it was made and is to be kept, or making the root has made it. -/
namespace TestBench

namespace Disk

variable {d d' : Disk} {cwd k l m place : Location} {p : Path} {n : Text} {ns : List Text}

theorem contains_iff : d.contains cwd p = true ↔
    ∃ l, d.resolve cwd p = .ok l ∧ d.entry? l ≠ none := by
  rw [contains, find]
  cases hl : d.resolve cwd p with
  | error f => simp [bind, Except.bind, Except.toOption]
  | ok l =>
    rw [ok_bind]
    cases he : d.entry? l with
    | none => simp [Except.toOption, he]
    | some e => simp [Except.toOption, he, pure, Except.pure]

theorem step_ne_alreadyExists : d.step l n ≠ .error .alreadyExists := by
  rw [step]
  split
  · simp
  · simp
  · split <;> simp

theorem walk_ne_alreadyExists : ns.foldlM d.step l ≠ .error .alreadyExists := by
  induction ns generalizing l with
  | nil => simp [pure, Except.pure]
  | cons n ns ih =>
    rw [List.foldlM_cons]
    cases hstep : d.step l n with
    | error f =>
      intro h
      cases h
      exact step_ne_alreadyExists hstep
    | ok k => exact ih

theorem resolve_ne_alreadyExists : d.resolve cwd p ≠ .error .alreadyExists := by
  rw [resolve]
  split
  · simp
  · split
    · simp
    · split
      · simp
      · exact walk_ne_alreadyExists

theorem createDirectory_join_iff (hn : Path.IsName n) :
    d.createDirectory cwd (Path.join p n) = .error .alreadyExists ↔
    d.contains cwd (Path.join p n) = true := by
  rw [createDirectory, withoutSlashes_join hn, contains_iff]
  cases hl : d.resolve cwd (Path.join p n) with
  | error f =>
    have hf : f ≠ .alreadyExists := fun hf => resolve_ne_alreadyExists (hf ▸ hl)
    simpa [bind, Except.bind] using hf
  | ok l =>
    rw [ok_bind]
    cases he : d.entry? l <;> simp [he, pure, Except.pure]

theorem prefix_of_walk (hplace : d.entry? place ≠ some .directory) (hl : place <+: l)
    (hw : ns.foldlM d.step l = .ok m) : place <+: m := by
  induction ns generalizing l with
  | nil =>
    cases hw
    exact hl
  | cons n ns ih =>
    obtain ⟨k, hk, hw⟩ := eq_ok_of_bind hw
    obtain ⟨hdir, -, rfl⟩ := step_eq_ok_iff.mp hk
    refine ih ?_ hw
    obtain ⟨t, rfl⟩ := hl
    have ht : t ≠ [] := by
      rintro rfl
      exact hplace (by simpa using hdir)
    rw [Path.enter]
    split
    · exact List.prefix_append ..
    · split
      · rw [List.dropLast_append_of_ne_nil ht]
        exact List.prefix_append ..
      · rw [List.append_assoc]
        exact List.prefix_append ..

theorem walk_outside (hplace : d.entry? place ≠ some .directory) (hsame : SameOutside place d d')
    (hm : ¬place <+: m) (hw : ns.foldlM d.step l = .ok m) : ns.foldlM d'.step l = .ok m := by
  induction ns generalizing l with
  | nil => exact hw
  | cons n ns ih =>
    have hl : ¬place <+: l := fun hl => hm (prefix_of_walk hplace hl hw)
    rw [List.foldlM_cons] at hw ⊢
    obtain ⟨k, hk, hw⟩ := eq_ok_of_bind hw
    obtain ⟨hdir, hlen, rfl⟩ := step_eq_ok_iff.mp hk
    rw [step_eq_ok_iff.mpr ⟨(hsame l hl).trans hdir, hlen, rfl⟩, ok_bind]
    exact ih hw

theorem LeadsTo.outside (h : d.LeadsTo cwd p) (hplace : d.entry? place ≠ some .directory)
    (hsame : SameOutside place d d') (hp : ¬place <+: Path.locate cwd p) : d'.LeadsTo cwd p := by
  obtain ⟨hnul, hne, hlen, hw⟩ := resolve_eq_ok_iff.mp h.resolve
  exact ⟨resolve_eq_ok_iff.mpr ⟨hnul, hne, hlen, walk_outside hplace hsame hp hw⟩,
    (hsame _ hp).trans h.directory⟩

theorem eq_put_of_write {content : Text.Utf8.Bytes} (h : d.write cwd p content = .ok d') :
    ∃ l x, d.resolve cwd p = .ok l ∧ d.entry? l ≠ some .directory ∧
    d' = d.put l (.file content x) := by
  rw [write] at h
  obtain ⟨l, hl, h⟩ := eq_ok_of_bind h
  cases hrefuses : d.refuses l with
  | some f =>
    rw [hrefuses] at h
    cases h
  | none =>
    rw [hrefuses] at h
    cases he : d.entry? l with
    | none =>
      simp only [he] at h
      cases h
      exact ⟨l, false, hl, by simp [he], rfl⟩
    | some e =>
      cases e with
      | directory =>
        simp only [he] at h
        cases h
      | file old x =>
        simp only [he] at h
        cases h
        exact ⟨l, x, hl, by simp [he], rfl⟩

end Disk

namespace Session

variable {d d' : Disk} {cwd : Location} {root : Path} {id : Text} {p : Program} {keep : Bool}
  {e : Error} {s : Session}

/-- How making a session of a valid id fails: the root or its own directory cannot be made, or its
files. -/
inductive Failure (cwd : Location) (root : Path) (id : Text) (p : Program) (keep : Bool)
    (d : Disk) : Error → Disk → Prop
  | root {fault : DiskFault} {d' : Disk} (absent : d.contains cwd root = false)
      (stopped : d.createDirectories cwd root = (.error fault, d')) :
        Failure cwd root id p keep d (.io fault.message) d'
  | taken {d' : Disk} (rooted : Action.ensureDirectory cwd root d = (.ok (), d'))
      (stopped : d'.createDirectory cwd (Path.join root id) = .error .alreadyExists) :
    Failure cwd root id p keep d (.sessionExists id) d'
  | directory {fault : DiskFault} {d' : Disk}
      (rooted : Action.ensureDirectory cwd root d = (.ok (), d'))
      (stopped : d'.createDirectory cwd (Path.join root id) = .error fault)
        (other : fault ≠ .alreadyExists) :
    Failure cwd root id p keep d (.io fault.message) d'
  | files {fault : DiskFault} {d₁ d₂ d₃ : Disk}
      (rooted : Action.ensureDirectory cwd root d = (.ok (), d₁))
      (made : d₁.createDirectory cwd (Path.join root id) = .ok d₂)
      (stopped : Session.writeFiles cwd ⟨id, Path.join root id, p.units, keep⟩ p d₂ =
        (.error (.io fault.message), d₃)) :
    Failure cwd root id p keep d (.io fault.message)
      (Session.release cwd ⟨id, Path.join root id, p.units, keep⟩ d₃)

theorem error_of_change {f : Disk → Except DiskFault Disk}
    (h : Action.change f d = (.error e, d')) :
    ∃ fault, f d = .error fault ∧ e = .io fault.message ∧ d' = d := by
  rw [Action.change_eq] at h
  cases hf : f d with
  | ok d₁ =>
    rw [hf] at h
    cases h
  | error fault =>
    rw [hf] at h
    cases h
    exact ⟨fault, rfl, rfl, rfl⟩

theorem error_of_writeFiles (h : s.writeFiles cwd p d = (.error e, d')) :
    (∃ fault : DiskFault, e = .io fault.message) ∧
    (d' = d ∨ d.writeText cwd s.testFile p.source = .ok d') := by
  rcases Action.error_of_bind h with htest | ⟨x, d₁, htest, hconfig⟩
  · obtain ⟨fault, -, rfl, rfl⟩ := error_of_change htest
    exact ⟨⟨fault, rfl⟩, .inl rfl⟩
  · obtain ⟨fault, -, rfl, rfl⟩ := error_of_change hconfig
    refine ⟨⟨fault, rfl⟩, .inr ?_⟩
    rw [Action.change_eq] at htest
    cases hwrite : d.writeText cwd s.testFile p.source with
    | ok d₂ =>
      rw [hwrite] at htest
      cases htest
      rfl
    | error fault =>
      rw [hwrite] at htest
      cases htest

theorem error_of_ensureDirectory (h : Action.ensureDirectory cwd root d = (.error e, d')) :
    d.contains cwd root = false ∧ ∃ fault, d.createDirectories cwd root = (.error fault, d') ∧
    e = .io fault.message := by
  rw [Action.ensureDirectory_eq] at h
  cases habsent : d.contains cwd root with
  | true =>
    rw [habsent] at h
    cases h
  | false =>
    rw [habsent, if_neg Bool.false_ne_true] at h
    cases hcreate : d.createDirectories cwd root with
    | mk result d₁ =>
      rw [hcreate] at h
      cases result with
      | ok x => cases h
      | error fault =>
        cases h
        exact ⟨rfl, fault, rfl, rfl⟩

theorem ok_of_makeDirectory {x : Unit} (h : s.makeDirectory cwd d = (.ok x, d')) :
    d.createDirectory cwd s.directory = .ok d' := by
  rw [makeDirectory_eq] at h
  split at h
  · next hmade =>
    cases h
    exact hmade
  · cases h
  · cases h

theorem error_of_makeDirectory (h : s.makeDirectory cwd d = (.error e, d')) :
    d' = d ∧ ((d.createDirectory cwd s.directory = .error .alreadyExists ∧
      e = .sessionExists s.id) ∨
      ∃ fault, d.createDirectory cwd s.directory = .error fault ∧ fault ≠ .alreadyExists ∧
      e = .io fault.message) := by
  rw [makeDirectory_eq] at h
  split at h
  · cases h
  · next hexists =>
    cases h
    exact ⟨rfl, .inl ⟨hexists, rfl⟩⟩
  · next fault hother hfault =>
    cases h
    exact ⟨rfl, .inr ⟨fault, hfault, hother, rfl⟩⟩

theorem failure_of_create (hid : SessionId.isValid id = true)
    (h : create cwd root id p keep d = (.error e, d')) :
    Failure cwd root id p keep d e d' := by
  rw [create, hid] at h
  rcases Action.error_of_bind h with hroot | ⟨x, d₁, hroot, h⟩
  · obtain ⟨habsent, fault, hcreate, rfl⟩ := error_of_ensureDirectory hroot
    exact .root habsent hcreate
  rcases Action.error_of_bind h with hmake | ⟨x, d₂, hmake, h⟩
  · obtain ⟨rfl, ⟨hexists, rfl⟩ | ⟨fault, hfault, hother, rfl⟩⟩ := error_of_makeDirectory hmake
    · exact .taken hroot hexists
    · exact .directory hroot hfault hother
  rcases Action.error_of_bind h with hfiles | ⟨x, d₃, hfiles, h⟩
  · rw [Action.onError] at hfiles
    split at hfiles
    · cases hfiles
    · next e' d₃ hwrite =>
      cases hfiles
      obtain ⟨⟨fault, rfl⟩, -⟩ := error_of_writeFiles hwrite
      exact .files hroot (ok_of_makeDirectory hmake) hwrite
  · cases h

/-- A directory that has been made stands at its place, whichever of its files could be written. -/
structure Left (cwd : Location) (root : Path) (id : Text) (d d' : Disk) : Prop where
  free : d.entry? (place cwd root id) = none
  resolve : d.resolve cwd (Path.join root id) = .ok (place cwd root id)
  outside : d.SameOutside (place cwd root id) d'
  directory : d'.entry? (place cwd root id) = some .directory
  resolve' : d'.resolve cwd (Path.join root id) = .ok (place cwd root id)

theorem left_of_writeFiles {units : List Text} (hid : SessionId.isValid id = true) {d₁ d₂ d₃ : Disk}
    (hmade : d₁.createDirectory cwd (Path.join root id) = .ok d₂)
    (hstopped : writeFiles cwd ⟨id, Path.join root id, units, keep⟩ p d₂ = (.error e, d₃)) :
    Left cwd root id d₁ d₃ := by
  have hname := SessionId.isName_of_isValid hid
  obtain ⟨l, hl, hfree, rfl⟩ := Disk.eq_put_of_createDirectory hmade
  rw [Disk.withoutSlashes_join hname] at hl
  have hplace : l = place cwd root id := by
    rw [Disk.eq_locate_of_resolve hl, Path.locate_join hname, place]
  subst hplace
  have hne : place cwd root id ≠ [] := Disk.ne_nil_of_free hfree
  have hkeeps := Disk.keeps_put hfree .directory
  have hdirectory : Disk.entry? (d₁.put (place cwd root id) .directory) (place cwd root id) =
      some .directory := by
    simp [Disk.entry?_put hne]
  have hresolve := Disk.resolve_mono (fun k => hkeeps.2 k _) hl
  have hput : d₁.SameOutside (place cwd root id) (d₁.put (place cwd root id) .directory) := by
    have hself := Disk.sameOutside_put (d := d₁) hne [] .directory
    rwa [List.append_nil] at hself
  rcases (error_of_writeFiles hstopped).2 with rfl | hwrite
  · exact ⟨hfree, hl, hput, hdirectory, hresolve⟩
  · obtain ⟨k, x, hk, hfile, rfl⟩ := Disk.eq_put_of_write hwrite
    obtain rfl : k = place cwd root id ++ [testFileName] := by
      rw [Disk.eq_locate_of_resolve hk, testFile, Path.locate_join isName_testFileName,
        Path.locate_join hname, place]
    have hnil : place cwd root id ++ [testFileName] ≠ [] := by simp
    have hmono : ∀ k, Disk.entry? (d₁.put (place cwd root id) .directory) k = some .directory →
        Disk.entry? ((d₁.put (place cwd root id) .directory).put
          (place cwd root id ++ [testFileName])
          (.file (Text.Utf8.encode p.source) x)) k = some .directory := by
      intro k hdir
      rw [Disk.entry?_put hnil, if_neg]
      · exact hdir
      · rintro rfl
        exact hfile hdir
    refine ⟨hfree, hl, fun k hk => ?_, hmono _ hdirectory, Disk.resolve_mono hmono hresolve⟩
    rw [Disk.sameOutside_put hne [testFileName] _ k hk, hput k hk]

variable {units : List Text}

theorem Left.release (h : Left cwd root id d d') :
    release cwd ⟨id, Path.join root id, units, keep⟩ d' = if keep then
      d' else d'.erase (place cwd root id) := by
  rw [Session.release, Disk.removeTree_of_resolve h.resolve' h.directory]

theorem Left.contains_release (h : Left cwd root id d d') :
    (Session.release cwd ⟨id, Path.join root id, units, keep⟩ d').contains cwd (Path.join root id) =
      keep := by
  rw [h.release]
  cases keep with
  | true => exact Disk.contains_of_resolve h.resolve' h.directory
  | false =>
    rw [← Bool.not_eq_true, if_neg Bool.false_ne_true, Disk.contains_iff]
    rintro ⟨l, hl, hne⟩
    refine hne ?_
    rw [Disk.eq_locate_of_resolve hl, ← Disk.eq_locate_of_resolve h.resolve,
      Disk.entry?_erase (Disk.ne_nil_of_free h.free), if_pos (List.prefix_refl _)]

theorem Left.leadsTo_release (h : Left cwd root id d d') (hroot : d.LeadsTo cwd root) :
    (Session.release cwd ⟨id, Path.join root id, units, keep⟩ d').LeadsTo cwd root := by
  have houtside : ¬place cwd root id <+: Path.locate cwd root := fun hprefix => by
    have hlen := hprefix.length_le
    simp [place] at hlen
  refine hroot.outside (by simp [h.free]) (fun k hk => ?_) houtside
  rw [h.release]
  cases keep with
  | true => exact h.outside k hk
  | false => exact (Disk.sameOutside_erase (Disk.ne_nil_of_free h.free) k hk).trans (h.outside k hk)

theorem ensureDirectory_of_contains (h : d.contains cwd root = true) :
    Action.ensureDirectory cwd root d = (.ok (), d) := by
  rw [Action.ensureDirectory_eq, if_pos h]

@[simp] theorem ensureDirectory_nil (cwd : Location) (d : Disk) :
    Action.ensureDirectory cwd [] d = (.ok (), d) := by
  rw [Action.ensureDirectory_eq]
  split <;> rfl

theorem createDirectories_of_ensureDirectory (habsent : d.contains cwd root = false)
    (h : Action.ensureDirectory cwd root d = (.ok (), d')) :
    d.createDirectories cwd root = (.ok (), d') := by
  rw [Action.ensureDirectory_eq, habsent, if_neg Bool.false_ne_true] at h
  obtain ⟨hresult, hdisk⟩ := Prod.mk.inj h
  refine Prod.ext ?_ hdisk
  cases hc : (d.createDirectories cwd root).1 with
  | ok x => rfl
  | error fault =>
    rw [hc] at hresult
    cases hresult

theorem ensureDirectory_again (hlen : Text.byteLength root < Disk.pathLimit)
    (h : Action.ensureDirectory cwd root d = (.ok (), d')) :
    Action.ensureDirectory cwd root d' = (.ok (), d') := by
  by_cases hroot : root = []
  · subst hroot
    exact ensureDirectory_nil cwd d'
  · cases habsent : d.contains cwd root with
    | true =>
      rw [ensureDirectory_of_contains habsent] at h
      cases h
      exact ensureDirectory_of_contains habsent
    | false =>
      have hmade := createDirectories_of_ensureDirectory habsent h
      exact ensureDirectory_of_contains
        (Disk.leadsTo_of_createDirectories hroot hlen hmade).contains

theorem short_of_contains (hid : SessionId.isValid id = true)
    (h : d.contains cwd (Path.join root id) = true) :
    Text.byteLength root < Disk.pathLimit := by
  obtain ⟨l, hl, -⟩ := Disk.contains_iff.mp h
  exact Nat.lt_of_le_of_lt (Path.byteLength_le_join (SessionId.isName_of_isValid hid))
    (Disk.resolve_eq_ok_iff.mp hl).2.2.1

theorem leadsTo_of_contains (hid : SessionId.isValid id = true) (hroot : root ≠ [])
    (h : d.contains cwd (Path.join root id) = true) : d.LeadsTo cwd root := by
  obtain ⟨l, hl, -⟩ := Disk.contains_iff.mp h
  exact Disk.leadsTo_of_resolve_join hroot (SessionId.isName_of_isValid hid) hl

theorem create_exists_iff (hid : SessionId.isValid id = true) :
    (create cwd root id p keep d).1 = .error (.sessionExists id) ↔
      ∃ d₁, Action.ensureDirectory cwd root d = (.ok (), d₁) ∧
      d₁.contains cwd (Path.join root id) = true := by
  have hname := SessionId.isName_of_isValid hid
  constructor
  · intro h
    have hpair :
        create cwd root id p keep d =
        (.error (.sessionExists id), (create cwd root id p keep d).2) :=
      Prod.ext h rfl
    generalize (create cwd root id p keep d).2 = d₁ at hpair
    cases failure_of_create hid hpair with
    | taken rooted stopped => exact ⟨d₁, rooted, (Disk.createDirectory_join_iff hname).mp stopped⟩
  · rintro ⟨d₁, hrooted, hcontains⟩
    rw [create_of_valid hid hrooted]
    dsimp only
    rw [Action.bind_eq, makeDirectory_eq, (Disk.createDirectory_join_iff hname).mpr hcontains]
    rfl

/-- After a failure the root is there or cannot be made; in any case a second attempt does not
change it. -/
theorem Failure.eq_of_ensureDirectory (h : Failure cwd root id p keep d e d')
    (hid : SessionId.isValid id = true) (hlen : Text.byteLength root < Disk.pathLimit) {d₁ : Disk}
    (hagain : Action.ensureDirectory cwd root d' = (.ok (), d₁)) : d₁ = d' := by
  by_cases hroot : root = []
  · subst hroot
    rw [ensureDirectory_nil] at hagain
    exact (Prod.mk.inj hagain).2.symm
  · suffices hsame : Action.ensureDirectory cwd root d' = (.ok (), d') by
      rw [hsame] at hagain
      exact (Prod.mk.inj hagain).2.symm
    cases h with
    | root absent stopped =>
      obtain ⟨-, -, f, hf⟩ := Disk.createDirectories_of_error stopped
      cases habsent : d'.contains cwd root with
      | true => exact ensureDirectory_of_contains habsent
      | false =>
        rw [createDirectories_of_ensureDirectory habsent hagain] at hf
        cases hf
    | taken rooted stopped => exact ensureDirectory_again hlen rooted
    | directory rooted stopped other => exact ensureDirectory_again hlen rooted
    | files rooted made stopped =>
      have hleft := left_of_writeFiles hid made stopped
      have hleads :=
        Disk.leadsTo_of_resolve_join hroot (SessionId.isName_of_isValid hid) hleft.resolve
      exact ensureDirectory_of_contains (hleft.leadsTo_release hleads).contains

def MakesDirectory (cwd : Location) (root : Path) (id : Text) (d : Disk) : Prop :=
  ∃ d₁ d₂, Action.ensureDirectory cwd root d = (.ok (), d₁) ∧
    d₁.createDirectory cwd (Path.join root id) = .ok d₂

theorem Failure.contains_iff (h : Failure cwd root id p keep d e d')
    (hid : SessionId.isValid id = true) :
    d'.contains cwd (Path.join root id) = true ↔ e = .sessionExists id ∨ keep = true ∧
    MakesDirectory cwd root id d := by
  have hname := SessionId.isName_of_isValid hid
  cases h with
  | root absent stopped =>
    obtain ⟨hroot, hno, -⟩ := Disk.createDirectories_of_error stopped
    constructor
    · exact fun hcontains => absurd (leadsTo_of_contains hid hroot hcontains) hno
    · rintro (heq | ⟨-, d₁, d₂, hrooted, -⟩)
      · cases heq
      · rw [createDirectories_of_ensureDirectory absent hrooted] at stopped
        cases stopped
  | taken rooted stopped => simp [(Disk.createDirectory_join_iff hname).mp stopped]
  | directory rooted stopped other =>
    constructor
    · intro hcontains
      rw [(Disk.createDirectory_join_iff hname).mpr hcontains] at stopped
      exact absurd (Except.error.inj stopped).symm other
    · rintro (heq | ⟨-, d₁, d₂, hrooted, hmade⟩)
      · cases heq
      · rw [rooted] at hrooted
        cases hrooted
        rw [stopped] at hmade
        cases hmade
  | files rooted made stopped =>
    rw [(left_of_writeFiles hid made stopped).contains_release]
    constructor
    · exact fun hkeep => .inr ⟨hkeep, _, _, rooted, made⟩
    · rintro (heq | ⟨hkeep, -⟩)
      · cases heq
      · exact hkeep

theorem create_exists_again (h : Failure cwd root id p keep d e d')
    (hid : SessionId.isValid id = true) (p' : Program) (keep' : Bool) :
    (create cwd root id p' keep' d').1 = .error (.sessionExists id) ↔
      d'.contains cwd (Path.join root id) = true := by
  rw [create_exists_iff hid]
  constructor
  · rintro ⟨d₁, hrooted, hcontains⟩
    rwa [h.eq_of_ensureDirectory hid (short_of_contains hid hcontains) hrooted] at hcontains
  · intro hcontains
    refine ⟨d', ?_, hcontains⟩
    by_cases hroot : root = []
    · subst hroot
      exact ensureDirectory_nil cwd d'
    · exact ensureDirectory_of_contains (leadsTo_of_contains hid hroot hcontains).contains

/-- A session whose name is free is refused as existing only if making the root has made its
directory, which takes a path that leads up. -/
theorem made_by_root (hid : SessionId.isValid id = true)
    (hnew : d.contains cwd (Path.join root id) = false)
    (h : Failure cwd root id p keep d (.sessionExists id) d') :
    d.contains cwd root = false ∧ d.createDirectories cwd root = (.ok (), d') ∧
      ¬(d.Tree ∧ Path.parent ∉ Text.pieces '/' root) := by
  have hname := SessionId.isName_of_isValid hid
  cases h with
  | taken rooted stopped =>
    have hcontains := (Disk.createDirectory_join_iff hname).mp stopped
    have hother : d' ≠ d := by
      rintro rfl
      rw [hnew] at hcontains
      cases hcontains
    have habsent : d.contains cwd root = false := by
      rw [← Bool.not_eq_true]
      intro hroot
      rw [ensureDirectory_of_contains hroot] at rooted
      exact hother (Prod.mk.inj rooted).2.symm
    have hroot : root ≠ [] := by
      rintro rfl
      rw [ensureDirectory_nil] at rooted
      exact hother (Prod.mk.inj rooted).2.symm
    have hcreated := createDirectories_of_ensureDirectory habsent rooted
    refine ⟨habsent, hcreated, fun ⟨htree, hparent⟩ => ?_⟩
    have hmakes : d.MakesRoot cwd root d' :=
      ⟨htree, hroot, short_of_contains hid hcontains, habsent, hcreated⟩
    obtain ⟨l, hl, hne⟩ := Disk.contains_iff.mp hcontains
    rw [Disk.eq_locate_of_resolve hl, Path.locate_join hname] at hne
    exact hne (hmakes.empty hparent id [])

/-- What is left of a session that cannot be made although its name was free. Its directory is there
afterwards exactly if it was made and is to be kept, or making the root has made it, which takes a
path that leads up; and exactly then the id is refused as existing from now on. -/
theorem left_by_failed_create (hid : SessionId.isValid id = true)
    (h : create cwd root id p keep d = (.error e, d'))
    (hnew : d.contains cwd (Path.join root id) = false) :
    (d'.contains cwd (Path.join root id) = true ↔
        e = .sessionExists id ∨ keep = true ∧ MakesDirectory cwd root id d) ∧
      (e = .sessionExists id → d.contains cwd root = false ∧
        d.createDirectories cwd root = (.ok (), d') ∧
        ¬(d.Tree ∧ Path.parent ∉ Text.pieces '/' root)) ∧
      ∀ (p' : Program) (keep' : Bool),
        (create cwd root id p' keep' d').1 = .error (.sessionExists id) ↔
        d'.contains cwd (Path.join root id) = true := by
  have hfailure := failure_of_create hid h
  refine ⟨hfailure.contains_iff hid, ?_, create_exists_again hfailure hid⟩
  rintro rfl
  exact made_by_root hid hnew hfailure

/-- A root in which the test program of the session `a` cannot be written. -/
def lockedDisk : Disk :=
  ⟨[([['s']], .directory)], fun l => if l = [['s'], ['a'], testFileName] then
    some .permissionDenied else none⟩

/-- A session that is not kept leaves nothing. -/
theorem left_by_failed_create_of_unkept :
    let result := create [] "/s".toList ['a'] ⟨[], []⟩ false lockedDisk
    SessionId.isValid ['a'] = true ∧ result.1 = .error (.io DiskFault.permissionDenied.message) ∧
      lockedDisk.contains [] "/s/a".toList = false ∧ result.2.contains [] "/s/a".toList = false ∧
      (create [] "/s".toList ['a'] ⟨[], []⟩ false result.2).1 ≠ .error (.sessionExists ['a']) := by
  intro result
  have hfailed : create [] "/s".toList ['a'] ⟨[], []⟩ false lockedDisk =
      (.error (.io DiskFault.permissionDenied.message), result.2) := Prod.ext rfl rfl
  obtain ⟨hleft, -, hagain⟩ := left_by_failed_create rfl hfailed rfl
  have hgone : result.2.contains [] "/s/a".toList = false := by
    rw [← Bool.not_eq_true]
    intro hcontains
    rcases hleft.mp hcontains with heq | ⟨hkeep, -⟩
    · cases heq
    · cases hkeep
  refine ⟨rfl, rfl, rfl, hgone, fun hexists => ?_⟩
  have hcontains := (hagain ⟨[], []⟩ false).mp hexists
  exact Bool.false_ne_true (hgone.symm.trans hcontains)

/-- A session that is to be kept leaves its directory, and its id cannot be used again. -/
theorem failed_create_keeps_directory :
    let result := create [] "/s".toList ['a'] ⟨[], []⟩ true lockedDisk
    SessionId.isValid ['a'] = true ∧ result.1 = .error (.io DiskFault.permissionDenied.message) ∧
      lockedDisk.contains [] "/s/a".toList = false ∧ result.2.contains [] "/s/a".toList = true ∧
      (create [] "/s".toList ['a'] ⟨[], []⟩ false result.2).1 = .error (.sessionExists ['a']) :=
  ⟨rfl, rfl, rfl, rfl, rfl⟩

end Session
end TestBench
