import Mathlib.Data.List.Induction
import TestBench.Proofs.Files.Entries

/-! Disks on which everything stands in a directory. Directories are made with those above them
along their path, so that nothing stands below a directory that its path alone has made. -/
namespace TestBench

namespace Path

variable {cwd l : Location} {p q : Path}

def downward (ns : List Text) : List Text := ns.filter fun n => n ≠ [] ∧ n ≠ current

@[simp] theorem downward_append (ms ns : List Text) :
    downward (ms ++ ns) = downward ms ++ downward ns :=
  List.filter_append ..

theorem foldl_enter {ns : List Text} (h : parent ∉ ns) (l : Location) :
    ns.foldl enter l = l ++ downward ns := by
  induction ns generalizing l with
  | nil => simp [downward]
  | cons n ns ih =>
    rw [List.mem_cons, not_or] at h
    rw [List.foldl_cons, ih h.2, enter, downward, downward]
    by_cases hn : n = [] ∨ n = current
    · rcases hn with rfl | rfl <;> simp
    · rw [not_or] at hn
      simp [hn, Ne.symm h.1]

theorem locate_eq (h : parent ∉ Text.pieces '/' p) (cwd : Location) :
    locate cwd p = start cwd p ++ downward (Text.pieces '/' p) := foldl_enter h _

theorem locate_congr {a b : Location} (h : isAbsolute p = true ∨ a = b) :
    locate a p = locate b p := by
  rw [locate, locate]
  rcases h with h | rfl
  · rw [start, start, if_pos h, if_pos h]
  · rfl

theorem locate_eq_locate_iff (hp : parent ∉ Text.pieces '/' p) {a b : Location} :
    locate a p = locate b p ↔ isAbsolute p = true ∨ a = b := by
  refine ⟨fun h => ?_, locate_congr⟩
  by_cases habs : isAbsolute p = true
  · exact .inl habs
  · rw [locate_eq hp, locate_eq hp, List.append_left_inj, start, start, if_neg habs,
      if_neg habs] at h
    exact .inr h

@[simp] theorem locate_concat_slash (hp : p ≠ []) (cwd : Location) :
    locate cwd (p ++ ['/']) = locate cwd p := by
  rw [locate, locate, start_concat_slash hp, Text.pieces_append, List.foldl_append]
  simp [Text.pieces]

@[simp] theorem locate_withoutSlashes (cwd : Location) (p : Path) :
    locate cwd (Disk.withoutSlashes p) = locate cwd p := by
  induction p using List.reverseRecOn with
  | nil => rfl
  | append_singleton p c ih =>
    rcases Disk.withoutSlashes_concat p c with hsame | ⟨rfl, hp, hshorter⟩
    · rw [hsame]
    · rw [hshorter, ih, locate_concat_slash hp]

theorem mem_pieces_of_mem_names {n : Text} (h : n ∈ names p) : n ∈ Text.pieces '/' p ∧ n ≠ [] := by
  suffices hfilter : n ∈ (Text.pieces '/' p).filter fun n => !n.isEmpty by simpa using hfilter
  rw [names] at h
  split at h
  · cases h
  · next m ms heq =>
    rw [heq]
    rcases List.mem_append.mp h with h | h
    · split at h
      · cases h
      · exact List.mem_cons.mpr (.inl (List.mem_singleton.mp h))
    · exact List.mem_cons_of_mem _ ((List.mem_filter.mp h).1)

@[simp] theorem downward_names (p : Path) : downward (names p) = downward (Text.pieces '/' p) := by
  have hfilter :
      downward (Text.pieces '/' p) = downward ((Text.pieces '/' p).filter fun n => !n.isEmpty) := by
    rw [downward, downward, List.filter_filter]
    refine List.filter_congr fun n _ => ?_
    cases n <;> simp
  have hcurrent : ∀ ns : List Text, downward (ns.filter (· ≠ current)) = downward ns := fun ns => by
    rw [downward, downward, List.filter_filter]
    refine List.filter_congr fun n _ => ?_
    by_cases hn : n = current <;> simp [hn]
  rw [hfilter, names]
  split
  · next heq => rw [heq]
  · next m ms heq =>
    rw [heq, downward_append, hcurrent]
    change _ = downward ([m] ++ ms)
    rw [downward_append]
    split
    · next hm =>
      have hm : m = current := by simp_all
      simp [hm, downward]
    · rfl

theorem isAbsolute_joinWith {ms : List Text} (hne : ms ≠ []) (h : ∀ m ∈ ms, m ≠ [] ∧ '/' ∉ m) :
    isAbsolute (Text.joinWith ['/'] ms) = false := by
  obtain ⟨m, ms, rfl⟩ := List.exists_cons_of_ne_nil hne
  obtain ⟨hm, hslash⟩ := h m (by simp)
  obtain ⟨c, m, rfl⟩ := List.exists_cons_of_ne_nil hm
  have hc : c ≠ '/' := fun hc => hslash (by simp [hc])
  cases ms with
  | nil => simpa [isAbsolute] using hc
  | cons n ms => simpa [isAbsolute] using hc

/-- The path of names, from the root or from where it is read. -/
def ofNames (absolute : Bool) (ns : List Text) : Path :=
  (if absolute then ['/'] else []) ++ Text.joinWith ['/'] ns

/-- Names that are not empty and have no slash. -/
def Plain (ns : List Text) : Prop := ∀ n ∈ ns, n ≠ [] ∧ '/' ∉ n

variable {absolute : Bool} {ns : List Text}

theorem above_eq (p : Path) : above p =
    (List.range (names p).dropLast.length).reverse.map fun k => ofNames (isAbsolute p)
    ((names p).dropLast.take (k + 1)) :=
  rfl

theorem plain_names (p : Path) : Plain (names p) := fun _ hn =>
  ⟨(mem_pieces_of_mem_names hn).2, Text.not_mem_of_mem_pieces (mem_pieces_of_mem_names hn).1⟩

theorem isAbsolute_ofNames (h : Plain ns) (hne : ns ≠ []) :
    isAbsolute (ofNames absolute ns) = absolute := by
  cases absolute with
  | true => rfl
  | false => exact isAbsolute_joinWith hne h

theorem pieces_ofNames (absolute : Bool) (h : Plain ns) (hne : ns ≠ []) :
    Text.pieces '/' (ofNames absolute ns) = if absolute then [] :: ns else ns := by
  have hns := Text.pieces_joinWith hne fun n hn => (h n hn).2
  cases absolute with
  | true => simp [ofNames, Text.pieces, hns]
  | false => simp [ofNames, hns]

/-- The directories above a path without names that lead up stand along the way of the path. -/
theorem locate_above (h : parent ∉ Text.pieces '/' p) (hq : q ∈ above p) (cwd : Location) :
    locate cwd q <+: locate cwd p := by
  simp only [above_eq, List.mem_map, List.mem_reverse, List.mem_range] at hq
  obtain ⟨k, hk, rfl⟩ := hq
  have htake : (names p).dropLast.take (k + 1) <+: names p :=
    (List.take_prefix _ _).trans (List.dropLast_prefix _)
  have hne : (names p).dropLast.take (k + 1) ≠ [] := fun hnil => by
    have hlen := congrArg List.length hnil
    simp only [List.length_take, List.length_nil] at hlen
    omega
  generalize (names p).dropLast.take (k + 1) = ms at htake hne ⊢
  have hplain : Plain ms := fun m hm => plain_names p m (htake.subset hm)
  have hparent : parent ∉ ms := fun hm => h (mem_pieces_of_mem_names (htake.subset hm)).1
  have hpieces := pieces_ofNames (isAbsolute p) hplain hne
  have hdown : downward ms <+: downward (Text.pieces '/' p) := downward_names p ▸ htake.filter _
  have habove : parent ∉ Text.pieces '/' (ofNames (isAbsolute p) ms) := by
    rw [hpieces]
    split
    · simpa [parent] using hparent
    · exact hparent
  rw [locate_eq h, locate_eq habove, start, start, isAbsolute_ofNames hplain hne, hpieces]
  cases isAbsolute p with
  | true => exact hdown
  | false => exact (List.prefix_append_right_inj _).mpr hdown

end Path

namespace Disk

/-- Whatever stands somewhere stands in a directory. -/
def Tree (d : Disk) : Prop := ∀ k n, d.entry? (k ++ [n]) ≠ none → d.entry? k = some .directory

variable {d d' : Disk} {cwd k l : Location} {p q : Path}

theorem Tree.directory_above (h : d.Tree) (hl : l ≠ []) (hne : d.entry? (k ++ l) ≠ none) :
    d.entry? k = some .directory := by
  induction l generalizing k with
  | nil => exact absurd rfl hl
  | cons n l ih =>
    rw [List.append_cons] at hne
    refine h k n ?_
    cases l with
    | nil => simpa using hne
    | cons m l => simp [ih (by simp) hne]

theorem Tree.none_below (h : d.Tree) (hk : d.entry? k = none) (l : Location) :
    d.entry? (k ++ l) = none := by
  by_contra hne
  cases l with
  | nil => exact hne (by simpa using hk)
  | cons n l =>
    rw [h.directory_above (by simp) hne] at hk
    cases hk

theorem Tree.dropLast (h : d.Tree) (hl : d.entry? l ≠ none) :
    d.entry? l.dropLast = some .directory := by
  rcases List.eq_nil_or_concat l with rfl | ⟨k, n, rfl⟩
  · rfl
  · rw [List.concat_eq_append] at hl ⊢
    rw [List.dropLast_concat]
    exact h k n hl

theorem Tree.dropLast_of_resolve (h : d.Tree) (hp : d.resolve cwd p = .ok l) :
    d.entry? l.dropLast = some .directory := by
  obtain ⟨-, -, -, hw⟩ := resolve_eq_ok_iff.mp hp
  obtain ⟨ns, n, hns⟩ := (List.eq_nil_or_concat _).resolve_left (Text.pieces_ne_nil '/' p)
  rw [hns, List.concat_eq_append, List.foldlM_append] at hw
  obtain ⟨k, -, hw⟩ := eq_ok_of_bind hw
  obtain ⟨m, hm, hw⟩ := eq_ok_of_bind hw
  obtain ⟨hk, -, rfl⟩ := step_eq_ok_iff.mp hm
  obtain rfl : Path.enter k n = l := Except.ok.inj hw
  have habove := h.dropLast (l := k) (by simp [hk])
  rw [Path.enter]
  split
  · exact habove
  · split
    · exact h.dropLast (by simp [habove])
    · rwa [List.dropLast_concat]

theorem Tree.put (h : d.Tree) (hparent : d.entry? l.dropLast = some .directory)
    (hl : d.entry? l = none) : (d.put l .directory).Tree := by
  intro k n hk
  rw [entry?_put (ne_nil_of_free hl)] at hk ⊢
  split
  · rfl
  · split at hk
    · next heq => simpa [← heq] using hparent
    · exact h k n hk

theorem Tree.createDirectory (h : d.Tree) (hd : d.createDirectory cwd p = .ok d') : d'.Tree := by
  obtain ⟨l, hl, he, rfl⟩ := eq_put_of_createDirectory hd
  exact h.put (h.dropLast_of_resolve hl) he

theorem Tree.createDirectories (h : d.Tree) (cwd : Location) (p : Path) :
    (d.createDirectories cwd p).2.Tree :=
  createDirectories_invariant (fun _ _ _ _ h hd => h.createDirectory hd) h

theorem resolve_concat_slash (hp : d.resolve cwd p = .ok l) (hl : d.entry? l = some .directory)
    (hlen : Text.byteLength (p ++ ['/']) < pathLimit) : d.resolve cwd (p ++ ['/']) = .ok l := by
  obtain ⟨hnul, hne, -, hw⟩ := resolve_eq_ok_iff.mp hp
  have hstay : d.step l [] = .ok l :=
    step_eq_ok_iff.mpr ⟨hl, Nat.zero_le _, (Path.enter_nil l).symm⟩
  refine resolve_eq_ok_iff.mpr ⟨by simp [hnul], by simp, hlen, ?_⟩
  rw [Path.start_concat_slash hne, Text.pieces_append, List.foldlM_append, hw, ok_bind, Text.pieces,
    List.foldlM_cons, hstay]
  rfl

theorem resolve_of_withoutSlashes (hp : d.resolve cwd (withoutSlashes p) = .ok l)
    (hl : d.entry? l = some .directory) (hlen : Text.byteLength p < pathLimit) :
    d.resolve cwd p = .ok l := by
  induction p using List.reverseRecOn with
  | nil => exact hp
  | append_singleton p c ih =>
    rcases withoutSlashes_concat p c with hsame | ⟨rfl, -, hshorter⟩
    · rwa [hsame] at hp
    · rw [hshorter] at hp
      have hshort : Text.byteLength p < pathLimit := by
        rw [Text.byteLength_append] at hlen
        omega
      exact resolve_concat_slash (ih hp hshort) hl hlen

theorem leadsTo_of_createDirectory (h : d.createDirectory cwd p = .ok d')
    (hlen : Text.byteLength p < pathLimit) :
    d'.LeadsTo cwd p := by
  have hkeeps := keeps_createDirectory h
  obtain ⟨l, hl, he, rfl⟩ := eq_put_of_createDirectory h
  have hdir : entry? (d.put l .directory) l = some .directory := by
    rw [entry?_put (ne_nil_of_free he), if_pos rfl]
  have hp := resolve_of_withoutSlashes (resolve_mono (fun k => hkeeps.2 k _) hl) hdir hlen
  exact ⟨eq_locate_of_resolve hp ▸ hp, eq_locate_of_resolve hp ▸ hdir⟩

theorem leadsTo_of_isDirectory (h : d.isDirectory cwd p = true) : d.LeadsTo cwd p := by
  rw [isDirectory] at h
  split at h
  · next hfind =>
    rw [find] at hfind
    obtain ⟨l, hl, hfind⟩ := eq_ok_of_bind hfind
    split at hfind
    · next he =>
      cases hfind
      exact ⟨eq_locate_of_resolve hl ▸ hl, eq_locate_of_resolve hl ▸ he⟩
    · cases hfind
  · cases h

theorem leadsTo_of_createWithParents {above : List Path} (hlen : Text.byteLength p < pathLimit)
    (h : createWithParents cwd p above d = (.ok (), d')) : d'.LeadsTo cwd p := by
  have hthere : ∀ (f : DiskFault) (d₁ : Disk),
      ((if d₁.isDirectory cwd p then .ok () else .error f, d₁) : Except DiskFault Unit × Disk) =
        (.ok (), d') →
        d'.LeadsTo cwd p := by
    intro f d₁ h
    split at h
    · next hdir => exact (Prod.mk.inj h).2 ▸ leadsTo_of_isDirectory hdir
    · cases h
  rw [createWithParents.eq_def] at h
  dsimp only at h
  split at h
  · next hd => exact (Prod.mk.inj h).2 ▸ leadsTo_of_createDirectory hd hlen
  · split at h
    · cases h
    · split at h
      · cases h
      · split at h
        · next hd => exact (Prod.mk.inj h).2 ▸ leadsTo_of_createDirectory hd hlen
        · exact hthere _ _ h
  · exact hthere _ _ h

theorem leadsTo_of_createDirectories (hp : p ≠ []) (hlen : Text.byteLength p < pathLimit)
    (h : d.createDirectories cwd p = (.ok (), d')) : d'.LeadsTo cwd p := by
  rw [createDirectories, if_neg (by simpa using hp)] at h
  exact leadsTo_of_createWithParents hlen h

theorem entry?_createDirectories (hp : Path.parent ∉ Text.pieces '/' p) (d : Disk) (k : Location)
    (hk : entry? (d.createDirectories cwd p).2 k ≠ none) :
    d.entry? k ≠ none ∨ k <+: Path.locate cwd p := by
  refine createDirectories_invariant (P := fun d' => d'.entry? k ≠ none → d.entry? k ≠ none ∨
    k <+: Path.locate cwd p)
    ?_ .inl hk
  intro q hq d₁ d₂ ih hd hk
  obtain ⟨l, hl, he, rfl⟩ := eq_put_of_createDirectory hd
  rw [entry?_put (ne_nil_of_free he)] at hk
  split at hk
  · next hkl =>
    rw [hkl, eq_locate_of_resolve hl, Path.locate_withoutSlashes]
    rcases List.mem_cons.mp hq with rfl | hq
    · exact .inr (List.prefix_refl _)
    · exact .inr (Path.locate_above hp hq cwd)
  · exact ih hk

theorem walk_of_directory (h : d.Tree) {ns : List Text} (hns : Path.parent ∉ ns) {m : Location}
    (hw : ns.foldlM d'.step l = .ok m) (hm : d.entry? m = some .directory) :
    ns.foldlM d.step l = .ok m := by
  induction ns generalizing l with
  | nil => exact hw
  | cons n ns ih =>
    have hend := eq_foldl_of_walk hw
    rw [Path.foldl_enter hns] at hend
    have hl : d.entry? l = some .directory := by
      cases hdown : Path.downward (n :: ns) with
      | nil => rwa [hend, hdown, List.append_nil] at hm
      | cons a t =>
        exact h.directory_above (List.cons_ne_nil a t) (by rw [← hdown, ← hend, hm]; simp)
    rw [List.foldlM_cons] at hw ⊢
    obtain ⟨k, hk, hw⟩ := eq_ok_of_bind hw
    obtain ⟨-, hlen, rfl⟩ := step_eq_ok_iff.mp hk
    rw [step_eq_ok_iff.mpr ⟨hl, hlen, rfl⟩, ok_bind]
    exact ih (fun hmem => hns (List.mem_cons_of_mem _ hmem)) hw

theorem contains_of_directory (h : d.Tree) (hp : Path.parent ∉ Text.pieces '/' p)
    (hl : d'.resolve cwd p = .ok l) (hdir : d.entry? l = some .directory) :
    d.contains cwd p = true := by
  obtain ⟨hnul, hne, hlen, hw⟩ := resolve_eq_ok_iff.mp hl
  exact contains_of_resolve
    (resolve_eq_ok_iff.mpr ⟨hnul, hne, hlen, walk_of_directory h hp hw hdir⟩) hdir

end Disk
end TestBench
