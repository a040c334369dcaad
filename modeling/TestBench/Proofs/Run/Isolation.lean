import TestBench.Proofs.Run.Housed

/-! Runs of sessions that are made, reported and ended in any order. After every step the
directories below the root are those of the sessions that are open or were kept, and none has been
touched on behalf of another. -/
namespace TestBench

/-- What happens to sessions: one is made, the open one of an id ends, or its runner writes a
report. -/
inductive SessionEvent where
  | create (id : Text) (program : Program) (keep : Bool)
  | drop (id : Text)
  | report (id : Text) (content : Text.Utf8.Bytes)

/-- A disk with its sessions: those that are open, and those that were kept when they ended. -/
structure Sessions where
  disk : Disk
  opened : List Tenant
  kept : List Tenant

namespace Sessions

def start (d : Disk) : Sessions := ⟨d, [], []⟩

def openOne? (s : Sessions) (id : Text) : Option Tenant := s.opened.find? fun t => t.session.id = id

/-- One event further. An event that fails has no effect but the one on the disk. -/
def step (cwd : Location) (root : Path) (s : Sessions) : SessionEvent → Sessions
  | .create id p keep =>
    match Session.create cwd root id p keep s.disk with
    | (.ok x, d) => { s with disk := d, opened := ⟨x, p.source⟩ :: s.opened }
    | (.error _, d) => { s with disk := d }
  | .drop id =>
    match s.openOne? id with
    | some t =>
      { disk := t.session.release cwd s.disk
        opened := s.opened.erase t
        kept := if t.session.keep then t :: s.kept else s.kept }
    | none => s
  | .report id content =>
    match s.openOne? id with
    | some t =>
      { s with disk := ((s.disk.write cwd t.session.reportFile content).toOption).getD s.disk }
    | none => s

/-- All events, one after the other. -/
def run (cwd : Location) (root : Path) (s : Sessions) (events : List SessionEvent) : Sessions :=
  events.foldl (step cwd root) s

def present (s : Sessions) : List Tenant := s.opened ++ s.kept

/-- Every session was asked for, and the disk holds the directories of all. Before the first session
the root may not be there. -/
structure Sound (cwd : Location) (root : Path) (d₀ made : Disk) (events : List SessionEvent)
    (s : Sessions) : Prop where
  housed : s = start d₀ ∨ Housed cwd root made s.disk s.present
  asked : ∀ t ∈ s.present, ∃ id p keep, .create id p keep ∈ events ∧ t = Tenant.make root id p keep
  kept : ∀ t ∈ s.kept, t.session.keep = true

variable {cwd : Location} {root : Path} {d₀ made : Disk} {events : List SessionEvent} {s : Sessions}
  {t : Tenant} {id : Text}

theorem mem_of_openOne? (h : s.openOne? id = some t) : t ∈ s.opened := List.mem_of_find?_eq_some h

theorem present_perm (ht : t ∈ s.opened) : s.present.Perm (t :: (s.opened.erase t ++ s.kept)) :=
  (List.perm_cons_erase ht).append_right _

namespace Sound

theorem of_start (d₀ made : Disk) : Sound cwd root d₀ made events (start d₀) where
  housed := .inl rfl
  asked _ ht := absurd ht List.not_mem_nil
  kept _ ht := absurd ht List.not_mem_nil

section
variable (hroot : d₀.MakesRoot cwd root made) (hrefuses : ∀ l, d₀.refuses l = none)
include hroot hrefuses

theorem ensured (h : Sound cwd root d₀ made events s) (hid : SessionId.isValid id = true) :
    ∃ d, Housed cwd root made d s.present ∧ s.disk.Keeps d ∧ (d = made ∨ d = s.disk) ∧
      ∀ p keep, Session.create cwd root id p keep s.disk = Session.create cwd root id p keep d := by
  rcases h.housed with rfl | hhoused
  · refine ⟨made, .empty fun l => by rw [hroot.keeps.1, hrefuses], hroot.keeps, .inl rfl,
      fun p keep => ?_⟩
    rw [start, Session.create_of_valid hid hroot.ensureDirectory_eq,
      Session.create_of_valid hid (Session.ensureDirectory_of_leadsTo hroot.leadsTo)]
  · exact ⟨s.disk, hhoused, .refl _, .inr rfl, fun _ _ => rfl⟩

theorem create (h : Sound cwd root d₀ made events s) {p : Program} {keep : Bool}
    (he : .create id p keep ∈ events) (hfits : SessionId.isValid id = true → Session.Fits root id) :
    Sound cwd root d₀ made events (s.step cwd root (.create id p keep)) := by
  cases hid : SessionId.isValid id with
  | false =>
    rw [step, Session.create_of_invalid hid]
    exact h
  | true =>
    obtain ⟨d, hd, -, -, hcreate⟩ := h.ensured hroot hrefuses hid
    rw [step, hcreate]
    rcases hd.create hroot.leadsTo hroot.made_tree hid (hfits hid) p keep with
      ⟨-, d', hmake, hd'⟩ | ⟨-, hmake⟩
    · rw [hmake]
      exact ⟨.inr hd', List.forall_mem_cons.mpr ⟨⟨id, p, keep, he, rfl⟩, h.asked⟩, h.kept⟩
    · rw [hmake]
      exact ⟨.inr hd, h.asked, h.kept⟩

end

theorem opened_housed (h : Sound cwd root d₀ made events s) (ht : t ∈ s.opened) :
    Housed cwd root made s.disk s.present := by
  refine h.housed.resolve_left ?_
  rintro rfl
  cases ht

theorem drop (h : Sound cwd root d₀ made events s) (hroot : d₀.MakesRoot cwd root made)
    (id : Text) :
    Sound cwd root d₀ made events (s.step cwd root (.drop id)) := by
  rw [step]
  cases hopen : s.openOne? id with
  | none => exact h
  | some t =>
    have ht := mem_of_openOne? hopen
    have hpresent := present_perm ht
    have hd := (h.opened_housed ht).perm hpresent
    have hrelease := hd.release_eq hroot.leadsTo List.mem_cons_self
    cases hkeep : t.session.keep with
    | true =>
      -- The session goes from the open ones to the kept ones, and its directory stays.
      have hmoved : (t :: (s.opened.erase t ++ s.kept)).Perm (s.opened.erase t ++ t :: s.kept) :=
        List.perm_middle.symm
      rw [hkeep, if_pos rfl] at hrelease
      simp only [hrelease, hkeep, if_true]
      refine ⟨.inr (hd.perm hmoved), fun t' ht' => ?_, List.forall_mem_cons.mpr ⟨hkeep, h.kept⟩⟩
      exact h.asked t' ((hpresent.trans hmoved).mem_iff.mpr ht')
    | false =>
      rw [hkeep, if_neg Bool.false_ne_true] at hrelease
      simp only [hrelease, hkeep, Bool.false_eq_true, if_false]
      exact ⟨.inr hd.erase,
        fun t' ht' => h.asked t' (hpresent.mem_iff.mpr (List.mem_cons_of_mem _ ht')), h.kept⟩

theorem report (h : Sound cwd root d₀ made events s) (hroot : d₀.MakesRoot cwd root made)
    (id : Text) (content : Text.Utf8.Bytes) :
    Sound cwd root d₀ made events (s.step cwd root (.report id content)) := by
  rw [step]
  cases hopen : s.openOne? id with
  | none => exact h
  | some t =>
    have ht := mem_of_openOne? hopen
    have hpresent := present_perm ht
    obtain ⟨d', hwrite, hd'⟩ :=
      ((h.opened_housed ht).perm hpresent).write_report hroot.leadsTo content
    simp only [hwrite]
    exact ⟨.inr (hd'.perm hpresent.symm), h.asked, h.kept⟩

/-- One event keeps the sessions sound, and so do all. -/
theorem run (hroot : d₀.MakesRoot cwd root made) (hrefuses : ∀ l, d₀.refuses l = none)
    (hfits : ∀ id p keep, .create id p keep ∈ events → SessionId.isValid id = true →
      Session.Fits root id) :
    Sound cwd root d₀ made events ((start d₀).run cwd root events) := by
  suffices hall : ∀ es : List SessionEvent, (∀ e ∈ es, e ∈ events) →
    ∀ s, Sound cwd root d₀ made events s →
      Sound cwd root d₀ made events (s.run cwd root es) from hall events (fun _ he => he)
        _ (of_start d₀ made)
  intro es hes
  induction es with
  | nil => exact fun s h => h
  | cons e es ih =>
    obtain ⟨he, hes⟩ := List.forall_mem_cons.mp hes
    intro s h
    refine ih hes _ ?_
    cases e with
    | create id p keep => exact h.create hroot hrefuses he (hfits id p keep he)
    | drop id => exact h.drop hroot id
    | report id content => exact h.report hroot id content

/-- Off the directories of the sessions there is what was there when the root was made. -/
theorem only (h : Sound cwd root d₀ made events s) (hroot : d₀.MakesRoot cwd root made) {n : Text}
    {l : Location} (hne : s.disk.entry? (Path.locate cwd root ++ n :: l) ≠ none) :
    (∃ t ∈ s.present, t.session.id = n) ∨ made.entry? (Path.locate cwd root ++ n :: l) ≠ none := by
  rcases h.housed with rfl | hhoused
  · obtain ⟨e, he⟩ := Option.ne_none_iff_exists'.mp hne
    exact .inr (by simp [hroot.keeps.2 _ e he])
  · by_cases hname : ∃ t ∈ s.present, t.session.id = n
    · exact .inl hname
    · have hsame : s.disk.entry? (Session.place cwd root n ++ l) =
          made.entry? (Session.place cwd root n ++ l) :=
        hhoused.elsewhere_of_ne (fun t ht heq => hname ⟨t, ht, heq⟩) l
      rw [Session.place, List.append_assoc, List.singleton_append] at hsame
      exact .inr (hsame ▸ hne)

theorem distinct (h : Sound cwd root d₀ made events s) :
    (s.present.map fun t => t.session.id).Nodup := by
  rcases h.housed with rfl | hhoused
  · exact .nil
  · exact hhoused.distinct

theorem holds (h : Sound cwd root d₀ made events s) (ht : t ∈ s.present) :
    s.disk.Holds (t.place cwd root) t.source := by
  rcases h.housed with rfl | hhoused
  · cases ht
  · exact hhoused.holds t ht

theorem release_sameOutside (h : Sound cwd root d₀ made events s)
    (hroot : d₀.MakesRoot cwd root made) (ht : t ∈ s.opened) :
    Disk.SameOutside (t.place cwd root) s.disk (t.session.release cwd s.disk) := by
  rw [(h.opened_housed ht).release_eq hroot.leadsTo (List.mem_append_left _ ht)]
  split
  · exact fun _ _ => rfl
  · exact Disk.sameOutside_erase (by simp [Tenant.place, Session.place])

section
variable (hroot : d₀.MakesRoot cwd root made) (hrefuses : ∀ l, d₀.refuses l = none) {p : Program}
  {keep : Bool}
include hroot hrefuses

/-- A session is made exactly if its id is proper and nothing of that name is there, also not from
making the root. -/
theorem create_iff (h : Sound cwd root d₀ made events s)
    (hfits : SessionId.isValid id = true → Session.Fits root id) :
    (∃ x, (Session.create cwd root id p keep s.disk).1 = .ok x) ↔
      SessionId.Proper id ∧ s.disk.entry? (Session.place cwd root id) = none ∧
        made.entry? (Session.place cwd root id) = none := by
  rw [← SessionId.isValid_iff]
  cases hid : SessionId.isValid id with
  | false => simp [Session.create_of_invalid hid]
  | true =>
    obtain ⟨d, hd, hkeeps, hdisk, hcreate⟩ := h.ensured hroot hrefuses hid
    have hfree : d.entry? (Session.place cwd root id) = none ↔
      s.disk.entry? (Session.place cwd root id) = none ∧
        made.entry? (Session.place cwd root id) = none := by
      constructor
      · intro hnone
        refine ⟨Option.eq_none_iff_forall_ne_some.mpr fun e he => ?_, ?_⟩
        · rw [hkeeps.2 _ e he] at hnone
          cases hnone
        · simpa using hd.made_none_below hroot.made_tree hnone []
      · rintro ⟨hnow, hmade⟩
        rcases hdisk with rfl | rfl
        · exact hmade
        · exact hnow
    rw [hcreate, ← hfree]
    rcases hd.create hroot.leadsTo hroot.made_tree hid (hfits hid) p keep with
      ⟨hnone, d', hmake, -⟩ | ⟨hsome, hmake⟩
    · simp [hmake, hnone]
    · simp [hmake, hsome]

theorem create_keeps (h : Sound cwd root d₀ made events s)
    (hfits : SessionId.isValid id = true → Session.Fits root id) {e : Error}
    (he : (Session.create cwd root id p keep s.disk).1 = .error e) :
    s.disk.Keeps (Session.create cwd root id p keep s.disk).2 ∧
      (SessionId.isValid id = false → (Session.create cwd root id p keep s.disk).2 = s.disk) := by
  cases hid : SessionId.isValid id with
  | false => simp [Session.create_of_invalid hid, Disk.Keeps.refl]
  | true =>
    obtain ⟨d, hd, hkeeps, -, hcreate⟩ := h.ensured hroot hrefuses hid
    rw [hcreate] at he ⊢
    rcases hd.create hroot.leadsTo hroot.made_tree hid (hfits hid) p keep with
      ⟨-, d', hmake, -⟩ | ⟨-, hmake⟩
    · rw [hmake] at he
      cases he
    · rw [hmake]
      exact ⟨hkeeps, fun h => by cases h⟩

end

theorem keeps_made (h : Sound cwd root d₀ made events s) :
    s = start d₀ ∨ ∀ k e, made.entry? k = some e → s.disk.entry? k = some e :=
  h.housed.imp_right fun hhoused _ _ hk => hhoused.keeps hk

end Sound

/-- Sessions that keep to their own directories, whatever is done next. Besides them there is below
the root only what was there when it was made. -/
structure Apart (cwd : Location) (root : Path) (d₀ made : Disk) (events : List SessionEvent)
    (s : Sessions) : Prop where
  exclusive : (s.opened.map fun t => t.session.id).Nodup
  asked : ∀ t ∈ s.present, ∃ id p keep, .create id p keep ∈ events ∧ t = Tenant.make root id p keep
  kept : ∀ t ∈ s.kept, t.session.keep = true
  holds : ∀ t ∈ s.present, s.disk.Holds (t.place cwd root) t.source
  only : ∀ n l, s.disk.entry? (Path.locate cwd root ++ n :: l) ≠ none →
    (∃ t ∈ s.present, t.session.id = n) ∨ made.entry? (Path.locate cwd root ++ n :: l) ≠ none
  unchanged : s = start d₀ ∨ ∀ k e, made.entry? k = some e → s.disk.entry? k = some e
  creates : ∀ id p keep, (SessionId.isValid id = true → Session.Fits root id) →
    ((∃ x, (Session.create cwd root id p keep s.disk).1 = .ok x) ↔
      SessionId.Proper id ∧ s.disk.entry? (Session.place cwd root id) = none ∧
        made.entry? (Session.place cwd root id) = none)
  refuses : ∀ id p keep e, (SessionId.isValid id = true → Session.Fits root id) →
    (Session.create cwd root id p keep s.disk).1 = .error e →
      s.disk.Keeps (Session.create cwd root id p keep s.disk).2 ∧
        (SessionId.isValid id = false → (Session.create cwd root id p keep s.disk).2 = s.disk)
  drops : ∀ t ∈ s.opened, Disk.SameOutside (t.place cwd root) s.disk (t.session.release cwd s.disk)

/-- Sessions stay apart in every run that begins without the root. A root whose path does not lead
up is empty when it is made, so that nothing but the sessions is ever below it. -/
theorem apart_run (hroot : d₀.MakesRoot cwd root made) (hrefuses : ∀ l, d₀.refuses l = none)
    (hfits : ∀ id p keep, .create id p keep ∈ events → SessionId.isValid id = true →
      Session.Fits root id) :
    Apart cwd root d₀ made events ((start d₀).run cwd root events) ∧
      (Path.parent ∉ Text.pieces '/' root →
        ∀ n l, made.entry? (Path.locate cwd root ++ n :: l) = none) := by
  have h : Sound cwd root d₀ made events ((start d₀).run cwd root events) :=
    .run hroot hrefuses hfits
  have hopened :
      ((start d₀).run cwd root events).opened.Sublist ((start d₀).run cwd root events).present :=
    List.sublist_append_left _ _
  refine ⟨?_, hroot.empty⟩
  exact
    { exclusive := h.distinct.sublist (hopened.map _)
      asked := h.asked
      kept := h.kept
      holds := fun t ht => h.holds ht
      only := fun n l hne => h.only hroot hne
      unchanged := h.keeps_made
      creates := fun id p keep hfits => h.create_iff hroot hrefuses hfits
      refuses := fun id p keep e hfits he => h.create_keeps hroot hrefuses hfits he
      drops := fun t ht => h.release_sameOutside hroot ht }

/-- One session is kept, one has a report, and an id in use is refused. -/
theorem apart_run_of_two :
    let d : Disk := ⟨[], fun _ => none⟩
    let made : Disk := d.put [['s']] .directory
    let events : List SessionEvent :=
      [.create ['a'] ⟨['x'], []⟩ true, .create ['b'] ⟨['y'], []⟩ false,
      .report ['b'] [], .create ['a'] ⟨['z'], []⟩ false, .drop ['a']]
    let s := (start d).run [] ['s'] events
    d.MakesRoot [] ['s'] made ∧ (∀ l, d.refuses l = none) ∧
      (∀ id p keep, .create id p keep ∈ events → SessionId.isValid id = true →
        Session.Fits ['s'] id) ∧
      s.present = [Tenant.make ['s'] ['b'] ⟨['y'], []⟩ false,
        Tenant.make ['s'] ['a'] ⟨['x'], []⟩ true] ∧
      Apart [] ['s'] d made events s ∧ ∀ n l, made.entry? ([['s']] ++ n :: l) = none := by
  intro d made events s
  have hroot : d.MakesRoot [] ['s'] made :=
    { tree := fun k n h => absurd (by simp [d, Disk.entry?]) h
      nonempty := by decide
      short := by decide
      absent := rfl
      created := rfl }
  have hfits : ∀ id p keep, .create id p keep ∈ events → SessionId.isValid id = true →
      Session.Fits ['s'] id := by
    intro id p keep hmem _
    simp only [events, List.mem_cons, SessionEvent.create.injEq, reduceCtorEq, false_or,
      List.not_mem_nil, or_false] at hmem
    rcases hmem with ⟨rfl, -⟩ | ⟨rfl, -⟩ | ⟨rfl, -⟩ <;> exact ⟨by decide, by decide⟩
  have happly := apart_run hroot (fun _ => rfl) hfits
  exact ⟨hroot, fun _ => rfl, hfits, by decide +kernel, happly.1, happly.2 (by decide)⟩

/-- A root that leads up may have a directory below it as soon as it is made, and no session can
have its name. -/
theorem refused_without_session :
    let d : Disk := ⟨[], fun _ => none⟩
    let root : Path := "c/d/..".toList
    let s := (start d).run [] root [.create ['d'] ⟨[], []⟩ false]
    d.contains [] root = false ∧ SessionId.Proper ['d'] ∧
    d.entry? (Session.place [] root ['d']) = none ∧
      (Session.create [] root ['d'] ⟨[], []⟩ false d).1 = .error (.sessionExists ['d']) ∧
      s.disk.entry? (Session.place [] root ['d']) = some .directory ∧ s.present = [] :=
  ⟨rfl, (SessionId.isValid_iff _).mp rfl, rfl, rfl, rfl, rfl⟩

end Sessions
end TestBench
