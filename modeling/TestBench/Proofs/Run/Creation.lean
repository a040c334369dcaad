import TestBench.Proofs.Files.Entries
import TestBench.Proofs.Run.Action
import TestBench.Run.Session

/-! Making sessions. In a root that is there, a session of a valid id is made exactly if nothing has
its name, and then only its own directory is new; otherwise the disk stays as it is. -/
namespace TestBench

namespace SessionId

/-- A name of letters, digits and a few marks that is neither of the two dot names. -/
def Proper (id : Text) : Prop :=
  id ≠ [] ∧ id ≠ ['.'] ∧ id ≠ ['.', '.'] ∧ ∀ c ∈ id, c.isAlphanum = true ∨ c ∈ ['_', '.', '-']

@[simp] theorem isValid_iff (id : Text) : isValid id = true ↔ Proper id := by
  simp only [isValid, Bool.and_eq_true, decide_eq_true_eq, Bool.not_eq_true',
    List.isEmpty_eq_false_iff, List.all_eq_true, and_assoc]
  refine and_congr_right' (and_congr_right' (and_congr_right' (forall₂_congr fun c _ => ?_)))
  simp [isIdChar, or_assoc, or_comm, or_left_comm]

theorem isName_of_isValid {id : Text} (h : isValid id = true) : Path.IsName id := by
  obtain ⟨hne, hcurrent, hparent, hchars⟩ := (isValid_iff id).mp h
  refine ⟨hne, hcurrent, hparent, fun hc => ?_, fun hc => ?_⟩
  · exact absurd (hchars _ hc) (by decide)
  · exact absurd (hchars _ hc) (by decide)

end SessionId

theorem isName_testFileName : Path.IsName testFileName := by decide

theorem isName_configFileName : Path.IsName configFileName := by decide

theorem isName_reportFileName : Path.IsName reportFileName := by decide

namespace Disk

/-- The disk with the directory of a new session and its two files. -/
def withSession (d : Disk) (place : Location) (source : Text) : Disk :=
  ((d.put place .directory).put (place ++ [testFileName])
    (.file (Text.Utf8.encode source) false)).put
    (place ++ [configFileName]) (.file (Text.Utf8.encode runnerConfig) false)

variable {d : Disk} {place : Location}

theorem entry?_withSession (hplace : place ≠ []) (source : Text) (k : Location) :
    Disk.entry? (d.withSession place source) k =
      if k = place ++ [configFileName] then some (.file (Text.Utf8.encode runnerConfig) false)
      else if k = place ++ [testFileName] then some (.file (Text.Utf8.encode source) false)
      else if k = place then some .directory
      else d.entry? k := by
  rw [withSession, entry?_put (by simp), entry?_put (by simp), entry?_put hplace]

end Disk

namespace Session

/-- The names of a session's directory and of its files are within the limits of a disk. -/
structure Fits (root : Path) (id : Text) : Prop where
  name : Text.byteLength id ≤ Disk.nameLimit
  path : Text.byteLength (Path.join (Path.join root id) configFileName) < Disk.pathLimit

def place (cwd : Location) (root : Path) (id : Text) : Location := Path.locate cwd root ++ [id]

variable {d : Disk} {cwd : Location} {root : Path} {id : Text} {p : Program} {keep : Bool}

theorem resolve_directory (hroot : d.LeadsTo cwd root) (hid : SessionId.isValid id = true)
    (hfits : Fits root id) :
    d.resolve cwd (Path.join root id) = .ok (place cwd root id) := by
  have hlen := Path.byteLength_le_join (p := Path.join root id) isName_configFileName
  exact Disk.resolve_join hroot.resolve hroot.directory (SessionId.isName_of_isValid hid) hfits.name
    (Nat.lt_of_le_of_lt hlen hfits.path)

theorem resolve_withoutSlashes (hroot : d.LeadsTo cwd root) (hid : SessionId.isValid id = true)
    (hfits : Fits root id) :
    d.resolve cwd (Disk.withoutSlashes (Path.join root id)) = .ok (place cwd root id) := by
  rw [Disk.withoutSlashes_join (SessionId.isName_of_isValid hid)]
  exact resolve_directory hroot hid hfits

theorem resolve_file (hroot : d.LeadsTo cwd root) (hid : SessionId.isValid id = true)
    (hfits : Fits root id) (hdir : d.entry? (place cwd root id) = some .directory) {name : Text}
    (hname : Path.IsName name) (hlen : Text.byteLength name ≤ Text.byteLength configFileName) :
    d.resolve cwd (Path.join (Path.join root id) name) = .ok (place cwd root id ++ [name]) := by
  have hconfig : Text.byteLength configFileName ≤ Disk.nameLimit := by decide
  have hpath := Path.byteLength_join_le (p := Path.join root id) hname isName_configFileName hlen
  exact Disk.resolve_join (resolve_directory hroot hid hfits) hdir hname (Nat.le_trans hlen hconfig)
    (Nat.lt_of_le_of_lt hpath hfits.path)

theorem makeDirectory_eq (s : Session) :
    s.makeDirectory cwd d = match d.createDirectory cwd s.directory with
    | .ok d' => (.ok (), d')
    | .error .alreadyExists => (.error (.sessionExists s.id), d)
    | .error fault => (.error (.io fault.message), d) := by
  rw [makeDirectory, Action.bind_get]
  rcases d.createDirectory cwd s.directory with fault | d'
  · cases fault <;> rfl
  · rfl

theorem create_of_invalid (hid : SessionId.isValid id = false) :
    create cwd root id p keep d = (.error (.invalidSession id), d) := by
  rw [create, hid]
  rfl

/-- What making a session of a valid id does once the root is there. -/
theorem create_of_valid (hid : SessionId.isValid id = true) {d' : Disk}
    (hroot : Action.ensureDirectory cwd root d = (.ok (), d')) :
    create cwd root id p keep d = (do
      let s : Session := ⟨id, Path.join root id, p.units, keep⟩
      s.makeDirectory cwd
      Action.onError (s.writeFiles cwd p) (s.release cwd)
      return s : Action Session) d' := by
  rw [create, hid]
  exact Action.bind_of_ok hroot

theorem ensureDirectory_of_leadsTo (hroot : d.LeadsTo cwd root) :
    Action.ensureDirectory cwd root d = (.ok (), d) := by
  rw [Action.ensureDirectory_eq, hroot.contains, if_pos rfl]

theorem create_of_exists (hroot : d.LeadsTo cwd root) (hid : SessionId.isValid id = true)
    (hfits : Fits root id) {e : Entry} (he : d.entry? (place cwd root id) = some e) :
    create cwd root id p keep d = (.error (.sessionExists id), d) := by
  have hdir : d.createDirectory cwd (Path.join root id) = .error .alreadyExists :=
    Disk.createDirectory_of_exists (resolve_withoutSlashes hroot hid hfits) he
  rw [create_of_valid hid (ensureDirectory_of_leadsTo hroot)]
  dsimp only
  rw [Action.bind_eq, makeDirectory_eq, hdir]
  rfl

theorem writeText_of_free (hroot : d.LeadsTo cwd root) (hid : SessionId.isValid id = true)
    (hfits : Fits root id) (hdir : d.entry? (place cwd root id) = some .directory) {name : Text}
    (hname : Path.IsName name) (hlen : Text.byteLength name ≤ Text.byteLength configFileName)
    (hfree : d.entry? (place cwd root id ++ [name]) = none) (hrefuses : ∀ l, d.refuses l = none)
    (t : Text) :
    d.writeText cwd (Path.join (Path.join root id) name) t =
      .ok (d.put (place cwd root id ++ [name]) (.file (Text.Utf8.encode t) false)) :=
  Disk.write_new (resolve_file hroot hid hfits hdir hname hlen) (hrefuses _) hfree _

theorem writeFiles_of_ok {s : Session} {d₁ d₂ : Disk}
    (htest : d.writeText cwd s.testFile p.source = .ok d₁)
    (hconfig : d₁.writeText cwd s.configFile runnerConfig = .ok d₂) :
    Action.onError (s.writeFiles cwd p) (s.release cwd) d = (.ok (), d₂) := by
  have hfirst : Action.change (fun d => d.writeText cwd s.testFile p.source) d = (.ok (), d₁) := by
    rw [Action.change_eq, htest]
  have hboth : s.writeFiles cwd p d = (.ok (), d₂) := by
    rw [writeFiles, Action.bind_of_ok hfirst, Action.change_eq, hconfig]
  rw [Action.onError, hboth]

/-- A session whose name is free gets its directory with the two files, and nothing else changes. -/
theorem create_of_free (hroot : d.LeadsTo cwd root) (hid : SessionId.isValid id = true)
    (hfits : Fits root id) (hfree : ∀ l, d.entry? (place cwd root id ++ l) = none)
    (hrefuses : ∀ l, d.refuses l = none) :
    create cwd root id p keep d =
      (.ok ⟨id, Path.join root id, p.units, keep⟩, d.withSession (place cwd root id) p.source) := by
  have hplace : place cwd root id ≠ [] := by simp [place]
  have hnone : d.entry? (place cwd root id) = none := by simpa using hfree []
  -- The directory is made, and both files are new in it.
  have hdirectory :
      d.createDirectory cwd (Path.join root id) = .ok (d.put (place cwd root id) .directory) :=
    Disk.createDirectory_of_resolve (resolve_withoutSlashes hroot hid hfits) hnone
  have hentry₁ := Disk.entry?_put (d := d) hplace .directory
  have hroot₁ := hroot.keeps (Disk.keeps_put hnone .directory)
  have hfree₁ :
      Disk.entry? (d.put (place cwd root id) .directory) (place cwd root id ++ [testFileName]) =
      none := by
    simp [hentry₁, hfree]
  have htest :=
    writeText_of_free hroot₁ hid hfits (by simp [hentry₁]) isName_testFileName (by decide) hfree₁
    hrefuses p.source
  have hentry₂ :=
    Disk.entry?_put (d := d.put (place cwd root id) .directory)
    (l := place cwd root id ++ [testFileName])
    (by simp) (.file (Text.Utf8.encode p.source) false)
  have hroot₂ := hroot₁.keeps (Disk.keeps_put hfree₁ (.file (Text.Utf8.encode p.source) false))
  have hnames : configFileName ≠ testFileName := by decide
  have hconfig :=
    writeText_of_free hroot₂ hid hfits (by simp [hentry₂, hentry₁]) isName_configFileName
    (Nat.le_refl _)
    (by simp [hentry₂, hentry₁, hfree, hnames]) hrefuses runnerConfig
  have hmake : makeDirectory cwd ⟨id, Path.join root id, p.units, keep⟩ d =
      (.ok (), d.put (place cwd root id) .directory) := by
    rw [makeDirectory_eq, hdirectory]
  rw [create_of_valid hid (ensureDirectory_of_leadsTo hroot)]
  dsimp only
  rw [Action.bind_of_ok hmake, Action.bind_of_ok (writeFiles_of_ok htest hconfig)]
  rfl

/-- A valid id that nothing stands under, below a root that is there or has been made. -/
structure Unused (cwd : Location) (root : Path) (id : Text) (d d' : Disk) : Prop where
  made : Action.ensureDirectory cwd root d = (.ok (), d')
  leads : d'.LeadsTo cwd root
  refuses : ∀ l, d'.refuses l = none
  valid : SessionId.isValid id = true
  fits : Fits root id
  free : ∀ l, d'.entry? (place cwd root id ++ l) = none

theorem Unused.create {d' : Disk} (h : Unused cwd root id d d') :
    create cwd root id p keep d =
      (.ok ⟨id, Path.join root id, p.units, keep⟩,
        d'.withSession (place cwd root id) p.source) := by
  rw [create_of_valid h.valid h.made,
    ← create_of_valid h.valid (ensureDirectory_of_leadsTo h.leads),
    create_of_free h.leads h.valid h.fits h.free h.refuses]

theorem entry?_testFile_withSession (source : Text) :
    Disk.entry? (d.withSession (place cwd root id) source) (place cwd root id ++ [testFileName]) =
      some (.file (Text.Utf8.encode source) false) := by
  have hnames : testFileName ≠ configFileName := by decide
  rw [Disk.entry?_withSession (by simp [place])]
  simp [hnames]

end Session
end TestBench
