import TestBench.Proofs.Files.Tree
import TestBench.Proofs.Run.Creation

/-! Sessions on one disk. The disk holds the directories of some sessions below the root and is
elsewhere as it was when the root was made; making, ending or reporting a session changes the list
of these sessions and nothing else. -/
namespace TestBench

/-- A session, and the source of the program in its directory. -/
structure Tenant where
  session : Session
  source : Text
deriving DecidableEq

namespace Tenant

def make (root : Path) (id : Text) (p : Program) (keep : Bool) : Tenant :=
  ⟨⟨id, Path.join root id, p.units, keep⟩, p.source⟩

def place (cwd : Location) (root : Path) (t : Tenant) : Location :=
  Session.place cwd root t.session.id

end Tenant

namespace Disk

/-- The directory of a session with its files, and nothing else but a report. -/
structure Holds (d : Disk) (place : Location) (source : Text) : Prop where
  directory : d.entry? place = some .directory
  test : d.entry? (place ++ [testFileName]) = some (.file (Text.Utf8.encode source) false)
  config : d.entry? (place ++ [configFileName]) = some (.file (Text.Utf8.encode runnerConfig) false)
  report : ∀ e, d.entry? (place ++ [reportFileName]) = some e → ∃ content x, e = .file content x
  only : ∀ l, d.entry? (place ++ l) ≠ none →
    l ∈ [[], [testFileName], [configFileName], [reportFileName]]

/-- Two disks that differ at most at a place and below it. -/
def SameOutside (place : Location) (d d' : Disk) : Prop :=
  ∀ k, ¬place <+: k → d'.entry? k = d.entry? k

/-- A root that was not there has been made, with the directories on its path. -/
structure MakesRoot (d : Disk) (cwd : Location) (root : Path) (made : Disk) : Prop where
  tree : d.Tree
  nonempty : root ≠ []
  short : Text.byteLength root < pathLimit
  absent : d.contains cwd root = false
  created : d.createDirectories cwd root = (.ok (), made)

variable {d d' : Disk} {base : Location} {source : Text} {m n : Text}

theorem not_prefix_of_ne (h : m ≠ n) (l : Location) : ¬base ++ [m] <+: base ++ [n] ++ l := by
  rw [List.append_assoc, List.prefix_append_right_inj]
  simpa using h

theorem Holds.sameOutside (h : d.Holds (base ++ [n]) source)
    (hsame : SameOutside (base ++ [m]) d d') (hne : m ≠ n) :
    d'.Holds (base ++ [n]) source := by
  have hentry : ∀ l, d'.entry? (base ++ [n] ++ l) = d.entry? (base ++ [n] ++ l) := fun l =>
    hsame _ (not_prefix_of_ne hne l)
  have hdirectory := hentry []
  rw [List.append_nil] at hdirectory
  exact ⟨hdirectory.trans h.directory, (hentry _).trans h.test, (hentry _).trans h.config,
    fun e he => h.report e ((hentry _).symm.trans he), fun l hl => h.only l (by rwa [← hentry])⟩

theorem sameOutside_withSession (hplace : base ≠ []) (source : Text) :
    SameOutside base d (d.withSession base source) := by
  intro k hk
  have hother : ∀ l, k ≠ base ++ l := fun l hl => hk ⟨l, hl.symm⟩
  have hself := hother []
  rw [List.append_nil] at hself
  rw [entry?_withSession hplace, if_neg (hother _), if_neg (hother _), if_neg hself]

theorem sameOutside_erase (hplace : base ≠ []) : SameOutside base d (d.erase base) := fun k hk => by
  rw [entry?_erase hplace, if_neg hk]

theorem sameOutside_put (hplace : base ≠ []) (l : Location) (e : Entry) :
    SameOutside base d (d.put (base ++ l) e) := by
  intro k hk
  rw [entry?_put (by simp [hplace]), if_neg]
  rintro rfl
  exact hk (List.prefix_append _ _)

theorem holds_withSession (hplace : base ≠ []) (hfree : ∀ l, d.entry? (base ++ l) = none)
    (source : Text) : (d.withSession base source).Holds base source := by
  have hnames : testFileName ≠ configFileName ∧ reportFileName ≠ configFileName ∧
      reportFileName ≠ testFileName := by
    decide
  constructor
  · rw [entry?_withSession hplace]
    simp
  · rw [entry?_withSession hplace]
    simp [hnames]
  · rw [entry?_withSession hplace]
    simp
  · intro e he
    rw [entry?_withSession hplace] at he
    simp [hnames, hfree] at he
  · intro l hl
    by_contra hnot
    simp only [List.mem_cons, List.not_mem_nil, or_false, not_or] at hnot
    obtain ⟨hself, htest, hconfig, -⟩ := hnot
    exact hl (by simp [entry?_withSession hplace, hfree, hself, htest, hconfig])

theorem Holds.put_report (h : d.Holds base source) (content : Text.Utf8.Bytes) (x : Bool) :
    (d.put (base ++ [reportFileName]) (.file content x)).Holds base source := by
  have hnames : testFileName ≠ reportFileName ∧ configFileName ≠ reportFileName := by decide
  constructor
  · simp [entry?_put, h.directory]
  · simp [entry?_put, hnames, h.test]
  · simp [entry?_put, hnames, h.config]
  · intro e he
    rw [entry?_put (by simp), if_pos rfl] at he
    exact ⟨content, x, (Option.some.inj he).symm⟩
  · intro l hl
    by_cases hreport : l = [reportFileName]
    · simp [hreport]
    · rw [entry?_put (by simp), if_neg (by simpa using hreport)] at hl
      exact h.only l hl

namespace MakesRoot

variable {made : Disk} {cwd : Location} {root : Path}

theorem keeps (h : d.MakesRoot cwd root made) : d.Keeps made := by
  have hkeeps := keeps_createDirectories d cwd root
  rwa [h.created] at hkeeps

theorem made_tree (h : d.MakesRoot cwd root made) : made.Tree := by
  have htree := h.tree.createDirectories cwd root
  rwa [h.created] at htree

theorem leadsTo (h : d.MakesRoot cwd root made) : made.LeadsTo cwd root :=
  leadsTo_of_createDirectories h.nonempty h.short h.created

theorem ensureDirectory_eq (h : d.MakesRoot cwd root made) :
    Action.ensureDirectory cwd root d = (.ok (), made) := by
  rw [Action.ensureDirectory_eq, h.absent, if_neg Bool.false_ne_true, h.created]
  rfl

theorem empty (h : d.MakesRoot cwd root made) (hroot : Path.parent ∉ Text.pieces '/' root)
    (n : Text) (l : Location) :
    made.entry? (Path.locate cwd root ++ n :: l) = none := by
  by_contra hne
  have hold :=
    entry?_createDirectories hroot d (Path.locate cwd root ++ n :: l) (by rwa [h.created])
  rcases hold with hold | ⟨t, ht⟩
  · -- Below the root there can be something only if the root was there.
    have hdir := h.tree.directory_above (by simp) hold
    have hthere := contains_of_directory h.tree hroot h.leadsTo.resolve hdir
    rw [h.absent] at hthere
    cases hthere
  · have hlen := congrArg List.length ht
    simp only [List.length_append, List.length_cons] at hlen
    omega

end MakesRoot
end Disk

/-- The disk holds exactly these sessions below the root, and is as it was when the root was made
elsewhere. -/
structure Housed (cwd : Location) (root : Path) (made d : Disk) (ts : List Tenant) : Prop where
  refuses : ∀ l, d.refuses l = none
  elsewhere : ∀ k, (∀ t ∈ ts, ¬t.place cwd root <+: k) → d.entry? k = made.entry? k
  free : ∀ t ∈ ts, ∀ l, made.entry? (t.place cwd root ++ l) = none
  distinct : (ts.map fun t => t.session.id).Nodup
  valid : ∀ t ∈ ts, SessionId.isValid t.session.id = true
  fits : ∀ t ∈ ts, Session.Fits root t.session.id
  named : ∀ t ∈ ts, t.session.directory = Path.join root t.session.id
  holds : ∀ t ∈ ts, d.Holds (t.place cwd root) t.source

namespace Housed

variable {cwd : Location} {root : Path} {made d d' : Disk} {ts ts' : List Tenant} {t : Tenant}
  {id : Text} {p : Program} {keep : Bool}

theorem empty (hrefuses : ∀ l, made.refuses l = none) : Housed cwd root made made [] where
  refuses := hrefuses
  elsewhere _ _ := rfl
  free _ ht := absurd ht List.not_mem_nil
  distinct := .nil
  valid _ ht := absurd ht List.not_mem_nil
  fits _ ht := absurd ht List.not_mem_nil
  named _ ht := absurd ht List.not_mem_nil
  holds _ ht := absurd ht List.not_mem_nil

theorem perm (h : Housed cwd root made d ts) (hperm : ts.Perm ts') :
    Housed cwd root made d ts' where
  refuses := h.refuses
  elsewhere k hk := h.elsewhere k fun t ht => hk t (hperm.mem_iff.mp ht)
  free t ht := h.free t (hperm.mem_iff.mpr ht)
  distinct := (hperm.map _).nodup_iff.mp h.distinct
  valid t ht := h.valid t (hperm.mem_iff.mpr ht)
  fits t ht := h.fits t (hperm.mem_iff.mpr ht)
  named t ht := h.named t (hperm.mem_iff.mpr ht)
  holds t ht := h.holds t (hperm.mem_iff.mpr ht)

theorem keeps (h : Housed cwd root made d ts) {k : Location} {e : Entry}
    (hk : made.entry? k = some e) :
    d.entry? k = some e := by
  rw [h.elsewhere k, hk]
  rintro t ht ⟨l, rfl⟩
  rw [h.free t ht] at hk
  cases hk

theorem leadsTo (h : Housed cwd root made d ts) (hmade : made.LeadsTo cwd root) :
    d.LeadsTo cwd root :=
  ⟨Disk.resolve_mono (fun _ => h.keeps) hmade.resolve, h.keeps hmade.directory⟩

theorem ne_of_mem (h : Housed cwd root made d (t :: ts)) {t' : Tenant} (ht' : t' ∈ ts) :
    t.session.id ≠ t'.session.id :=
  fun heq => (List.nodup_cons.mp h.distinct).1 (List.mem_map.mpr ⟨t', ht', heq.symm⟩)

theorem holds_of_sameOutside (h : Housed cwd root made d (t :: ts))
    (hsame : Disk.SameOutside (t.place cwd root) d d') :
    ∀ t' ∈ ts, d'.Holds (t'.place cwd root) t'.source := fun t' ht' =>
  (h.holds t' (List.mem_cons_of_mem _ ht')).sameOutside hsame (h.ne_of_mem ht')

theorem ne_of_free (h : Housed cwd root made d ts)
    (hfree : d.entry? (Session.place cwd root id) = none) :
    ∀ t ∈ ts, t.session.id ≠ id := by
  rintro t ht rfl
  have hdir := (h.holds t ht).directory
  rw [Tenant.place, hfree] at hdir
  cases hdir

theorem elsewhere_of_ne (h : Housed cwd root made d ts) (hne : ∀ t ∈ ts, t.session.id ≠ id)
    (l : Location) :
    d.entry? (Session.place cwd root id ++ l) = made.entry? (Session.place cwd root id ++ l) :=
  h.elsewhere _ fun t ht => Disk.not_prefix_of_ne (hne t ht) l

theorem made_none_below (h : Housed cwd root made d ts) (htree : made.Tree)
    (hfree : d.entry? (Session.place cwd root id) = none) (l : Location) :
    made.entry? (Session.place cwd root id ++ l) = none := by
  refine htree.none_below ?_ l
  have hplace := h.elsewhere_of_ne (h.ne_of_free hfree) []
  rwa [List.append_nil, hfree, eq_comm] at hplace

theorem none_below (h : Housed cwd root made d ts) (htree : made.Tree)
    (hfree : d.entry? (Session.place cwd root id) = none) (l : Location) :
    d.entry? (Session.place cwd root id ++ l) = none :=
  (h.elsewhere_of_ne (h.ne_of_free hfree) l).trans (h.made_none_below htree hfree l)

theorem withSession (h : Housed cwd root made d ts) (htree : made.Tree)
    (hid : SessionId.isValid id = true) (hfits : Session.Fits root id)
    (hfree : d.entry? (Session.place cwd root id) = none) :
    Housed cwd root made (d.withSession (Session.place cwd root id) p.source)
      (Tenant.make root id p keep :: ts) := by
  have hplace : Session.place cwd root id ≠ [] := by simp [Session.place]
  have hsame := Disk.sameOutside_withSession (d := d) hplace p.source
  exact
    { refuses := h.refuses
      elsewhere := fun k hk => by
        obtain ⟨hnew, hold⟩ := List.forall_mem_cons.mp hk
        exact (hsame k hnew).trans (h.elsewhere k hold)
      free := List.forall_mem_cons.mpr ⟨h.made_none_below htree hfree, h.free⟩
      distinct := by
        refine List.nodup_cons.mpr ⟨fun hmem => ?_, h.distinct⟩
        obtain ⟨t, ht, heq⟩ := List.mem_map.mp hmem
        exact h.ne_of_free hfree t ht heq
      valid := List.forall_mem_cons.mpr ⟨hid, h.valid⟩
      fits := List.forall_mem_cons.mpr ⟨hfits, h.fits⟩
      named := List.forall_mem_cons.mpr ⟨rfl, h.named⟩
      holds := List.forall_mem_cons.mpr
        ⟨Disk.holds_withSession hplace (h.none_below htree hfree) p.source,
        fun t ht => (h.holds t ht).sameOutside hsame (h.ne_of_free hfree t ht).symm⟩ }

/-- A session of a valid id is made if nothing has its name; otherwise nothing happens. -/
theorem create (h : Housed cwd root made d ts) (hmade : made.LeadsTo cwd root) (htree : made.Tree)
    (hid : SessionId.isValid id = true) (hfits : Session.Fits root id) (p : Program) (keep : Bool) :
    (d.entry? (Session.place cwd root id) = none ∧ ∃ d', Session.create cwd root id p keep d =
      (.ok (Tenant.make root id p keep).session, d') ∧
      Housed cwd root made d' (Tenant.make root id p keep :: ts)) ∨
    (d.entry? (Session.place cwd root id) ≠ none ∧
      Session.create cwd root id p keep d = (.error (.sessionExists id), d)) := by
  have hleads := h.leadsTo hmade
  cases hentry : d.entry? (Session.place cwd root id) with
  | none =>
    refine .inl ⟨rfl, _, Session.create_of_free hleads hid hfits (h.none_below htree hentry)
      h.refuses, ?_⟩
    exact h.withSession htree hid hfits hentry
  | some e => exact .inr ⟨by simp, Session.create_of_exists hleads hid hfits hentry⟩

theorem release_eq (h : Housed cwd root made d ts) (hmade : made.LeadsTo cwd root) (ht : t ∈ ts) :
    t.session.release cwd d = if t.session.keep then d else d.erase (t.place cwd root) := by
  have hdir := Session.resolve_directory (h.leadsTo hmade) (h.valid t ht) (h.fits t ht)
  rw [Session.release, h.named t ht, Disk.removeTree_of_resolve hdir (h.holds t ht).directory]
  rfl

theorem erase (h : Housed cwd root made d (t :: ts)) :
    Housed cwd root made (d.erase (t.place cwd root)) ts := by
  have hplace : t.place cwd root ≠ [] := by simp [Tenant.place, Session.place]
  exact
    { refuses := h.refuses
      elsewhere := fun k hk => by
        rw [Disk.entry?_erase hplace]
        split
        · next hbelow =>
          obtain ⟨l, rfl⟩ := hbelow
          exact (h.free t (by simp) l).symm
        · next hnot => exact h.elsewhere k (List.forall_mem_cons.mpr ⟨hnot, hk⟩)
      free := (List.forall_mem_cons.mp h.free).2
      distinct := (List.nodup_cons.mp h.distinct).2
      valid := (List.forall_mem_cons.mp h.valid).2
      fits := (List.forall_mem_cons.mp h.fits).2
      named := (List.forall_mem_cons.mp h.named).2
      holds := h.holds_of_sameOutside (Disk.sameOutside_erase hplace) }

theorem put_report (h : Housed cwd root made d (t :: ts)) (content : Text.Utf8.Bytes) (x : Bool) :
    Housed cwd root made (d.put (t.place cwd root ++ [reportFileName]) (.file content x))
      (t :: ts) := by
  have hplace : t.place cwd root ≠ [] := by simp [Tenant.place, Session.place]
  have hsame := Disk.sameOutside_put (d := d) hplace [reportFileName] (.file content x)
  exact
    { refuses := h.refuses
      elsewhere := fun k hk => (hsame k (List.forall_mem_cons.mp hk).1).trans (h.elsewhere k hk)
      free := h.free
      distinct := h.distinct
      valid := h.valid
      fits := h.fits
      named := h.named
      holds := List.forall_mem_cons.mpr ⟨(h.holds t (by simp)).put_report content x,
        h.holds_of_sameOutside hsame⟩ }

theorem write_report (h : Housed cwd root made d (t :: ts)) (hmade : made.LeadsTo cwd root)
    (content : Text.Utf8.Bytes) :
    ∃ d', d.write cwd t.session.reportFile content = .ok d' ∧
    Housed cwd root made d' (t :: ts) := by
  have hfile : d.resolve cwd t.session.reportFile = .ok (t.place cwd root ++ [reportFileName]) := by
    rw [Session.reportFile, h.named t (by simp)]
    exact Session.resolve_file (h.leadsTo hmade) (h.valid t (by simp)) (h.fits t (by simp))
      (h.holds t (by simp)).directory isName_reportFileName (by decide)
  cases hentry : d.entry? (t.place cwd root ++ [reportFileName]) with
  | none => exact ⟨_, Disk.write_new hfile (h.refuses _) hentry content, h.put_report content false⟩
  | some e =>
    obtain ⟨old, x, rfl⟩ := (h.holds t (by simp)).report e hentry
    exact ⟨_, Disk.write_over hfile (h.refuses _) hentry content, h.put_report content x⟩

end Housed
end TestBench
