import Mathlib.Algebra.Order.BigOperators.Group.List
import Mathlib.Algebra.Order.Ring.Nat
import TestBench.Proofs.Files.Tree
import TestBench.Proofs.Text.Ansi

/-! Directories that cannot be made. A path leads nowhere unless it does so from one directory above
to the next, and so what fails for one of those above fails for the path, now and when it is tried
again. -/
namespace TestBench

namespace Text

theorem byteLength_le_of_prefix {s t : Text} (h : s <+: t) : byteLength s ≤ byteLength t := by
  obtain ⟨u, rfl⟩ := h
  simp

theorem byteLength_joinWith {sep : Char} (hsep : sep.utf8Size = 1) {ts : List Text} (h : ts ≠ []) :
    byteLength (joinWith [sep] ts) + 1 = (ts.map fun t => byteLength t + 1).sum := by
  induction ts with
  | nil => exact absurd rfl h
  | cons t ts ih =>
    cases ts with
    | nil => simp
    | cons u us =>
      rw [joinWith_cons_cons, List.map_cons, List.sum_cons, ← ih (by simp)]
      simp [hsep]
      omega

theorem joinWith_prefix {sep : Text} {ss ts : List Text} (h : ss <+: ts) :
    joinWith sep ss <+: joinWith sep ts := by
  obtain ⟨us, rfl⟩ := h
  induction ss with
  | nil => simp [joinWith]
  | cons s ss ih =>
    cases ss with
    | nil =>
      cases us with
      | nil => simp
      | cons u us => simp
    | cons s' ss => simpa using ih

end Text

namespace Path

variable {absolute : Bool} {ms ns : List Text} {p q : Path} {l : Location} {n : Text}

theorem ofNames_ne_nil (h : Plain ns) (hne : ns ≠ []) : ofNames absolute ns ≠ [] := by
  intro hnil
  have hpieces := pieces_ofNames absolute h hne
  rw [hnil] at hpieces
  cases absolute with
  | true => exact hne (List.cons.inj hpieces).2.symm
  | false =>
    have hns : ns = [[]] := hpieces.symm
    exact (h [] (by simp [hns])).1 rfl

theorem ofNames_prefix (absolute : Bool) (h : ms <+: ns) :
    ofNames absolute ms <+: ofNames absolute ns :=
  (List.prefix_append_right_inj _).mpr (Text.joinWith_prefix h)

theorem names_sublist (p : Path) :
    (names p).Sublist ((Text.pieces '/' p).filter fun n => !n.isEmpty) := by
  rw [names]
  cases (Text.pieces '/' p).filter fun n => !n.isEmpty with
  | nil => simp
  | cons n ns =>
    dsimp only
    split
    · exact List.filter_sublist.trans (List.sublist_cons_self n ns)
    · exact List.filter_sublist.cons_cons n

theorem byteLength_joinWith_le {ms ns : List Text} (h : ms.Sublist ns) :
    Text.byteLength (Text.joinWith ['/'] ms) ≤ Text.byteLength (Text.joinWith ['/'] ns) := by
  have hslash : ('/' : Char).utf8Size = 1 := by decide
  by_cases hms : ms = []
  · simp [hms, Text.joinWith]
  · have hns : ns ≠ [] := by
      rintro rfl
      exact hms (List.sublist_nil.mp h)
    have hsum := (h.map fun n => Text.byteLength n + 1).sum_le_sum fun _ _ => Nat.zero_le _
    rw [← Text.byteLength_joinWith hslash hms, ← Text.byteLength_joinWith hslash hns] at hsum
    omega

@[simp] theorem names_concat_slash (hp : p ≠ []) : names (p ++ ['/']) = names p := by
  have habs : isAbsolute (p ++ ['/']) = isAbsolute p := by
    obtain ⟨c, t, rfl⟩ := List.exists_cons_of_ne_nil hp
    rfl
  rw [names, names, Text.pieces_append, List.filter_append, habs]
  simp [Text.pieces]

theorem withoutSlashes_same (p : Path) :
    names (Disk.withoutSlashes p) = names p ∧
    isAbsolute (Disk.withoutSlashes p) = isAbsolute p := by
  induction p using List.reverseRecOn with
  | nil => exact ⟨rfl, rfl⟩
  | append_singleton p c ih =>
    rcases Disk.withoutSlashes_concat p c with hsame | ⟨rfl, hp, hshorter⟩
    · rw [hsame]
      exact ⟨rfl, rfl⟩
    · rw [hshorter, ih.1, ih.2, names_concat_slash hp]
      obtain ⟨c, t, rfl⟩ := List.exists_cons_of_ne_nil hp
      exact ⟨rfl, rfl⟩

theorem withoutSlashes_ofNames (absolute : Bool) (h : Plain ns) (hne : ns ≠ []) :
    Disk.withoutSlashes (ofNames absolute ns) = ofNames absolute ns := by
  have hpieces := pieces_ofNames absolute h hne
  obtain ⟨q, c, hq⟩ :=
    (List.eq_nil_or_concat (ofNames absolute ns)).resolve_left (ofNames_ne_nil h hne)
  rw [List.concat_eq_append] at hq
  rw [hq] at hpieces ⊢
  refine (Disk.withoutSlashes_concat q c).resolve_right ?_
  rintro ⟨rfl, -, -⟩
  obtain ⟨ms, n, rfl⟩ := (List.eq_nil_or_concat ns).resolve_left hne
  have hn := (h n (by simp)).1
  have hnil : Text.pieces '/' [] = [[]] := rfl
  rw [Text.pieces_append, List.concat_eq_append, hnil] at hpieces
  have hlast : [[]] = [n] := by
    cases absolute with
    | true => exact (List.append_inj' (show _ ++ _ = ([] :: ms) ++ [n] from hpieces) rfl).2
    | false => exact (List.append_inj' (show _ ++ _ = ms ++ [n] from hpieces) rfl).2
  exact hn (List.cons.inj hlast).1.symm

theorem byteLength_ofNames_le (p : Path) :
    Text.byteLength (ofNames (isAbsolute p) (names p)) ≤ Text.byteLength p := by
  have hnames := names_sublist p
  by_cases habs : isAbsolute p = true
  · obtain ⟨q, rfl⟩ : ∃ q, p = '/' :: q := by
      cases p with
      | nil => cases habs
      | cons c q => exact ⟨q, by simpa [isAbsolute] using habs⟩
    have hpieces : Text.pieces '/' ('/' :: q) = [] :: Text.pieces '/' q := by simp [Text.pieces]
    rw [hpieces, List.filter_cons_of_neg (by simp)] at hnames
    have hle := byteLength_joinWith_le (hnames.trans List.filter_sublist)
    rw [Text.joinWith_pieces] at hle
    simpa [ofNames, habs] using hle
  · have hle := byteLength_joinWith_le (hnames.trans List.filter_sublist)
    rw [Text.joinWith_pieces] at hle
    simpa [ofNames, habs] using hle

theorem nul_not_mem_ofNames (absolute : Bool) (h : ∀ n ∈ ns, Char.ofNat 0 ∉ n) :
    Char.ofNat 0 ∉ ofNames absolute ns := by
  have hslash : Char.ofNat 0 ∉ ['/'] := by decide
  have hjoin := Text.not_mem_joinWith hslash h
  cases absolute with
  | true => simpa [ofNames] using hjoin
  | false => simpa [ofNames] using hjoin

end Path

namespace Disk

variable {d d' : Disk} {cwd k l : Location} {p q : Path} {absolute : Bool} {ms ns : List Text}

theorem walk_filter (keep : Text → Bool) (hkeep : ∀ n, keep n = false → n = [] ∨ n = Path.current)
    (h : ns.foldlM d.step l = .ok k) : (ns.filter keep).foldlM d.step l = .ok k := by
  induction ns generalizing l with
  | nil => exact h
  | cons n ns ih =>
    rw [List.foldlM_cons] at h
    obtain ⟨m, hm, h⟩ := eq_ok_of_bind h
    cases hn : keep n with
    | true =>
      rw [List.filter_cons_of_pos hn, List.foldlM_cons, hm, ok_bind]
      exact ih h
    | false =>
      obtain ⟨-, -, rfl⟩ := step_eq_ok_iff.mp hm
      rw [Path.enter, if_pos (hkeep n hn)] at h
      rw [List.filter_cons_of_neg (by simp [hn])]
      exact ih h

theorem walk_names (h : (Text.pieces '/' p).foldlM d.step l = .ok k) :
    (Path.names p).foldlM d.step l = .ok k := by
  have hpieces := walk_filter (fun n => !n.isEmpty) (by simp) h
  rw [Path.names]
  cases hfilter : (Text.pieces '/' p).filter fun n => !n.isEmpty with
  | nil => rwa [hfilter] at hpieces
  | cons n ns =>
    rw [hfilter, List.foldlM_cons] at hpieces
    obtain ⟨m, hm, hrest⟩ := eq_ok_of_bind hpieces
    have hns := walk_filter (fun n => n ≠ Path.current) (by simp) hrest
    dsimp only
    split
    · next hn =>
      obtain ⟨-, -, rfl⟩ := step_eq_ok_iff.mp hm
      rw [Bool.and_eq_true, decide_eq_true_eq] at hn
      rwa [Path.enter, if_pos (.inr hn.1)] at hns
    · rw [List.singleton_append, List.foldlM_cons, hm, ok_bind]
      exact hns

/-- Names that can be walked, in a path that is not too long. -/
structure Reaches (d : Disk) (cwd : Location) (absolute : Bool) (ns : List Text) : Prop where
  noNul : ∀ n ∈ ns, Char.ofNat 0 ∉ n
  short : Text.byteLength (Path.ofNames absolute ns) < pathLimit
  walk : ∃ l, ns.foldlM d.step (if absolute then [] else cwd) = .ok l

theorem reaches_names (h : d.resolve cwd p = .ok l) :
    d.Reaches cwd (Path.isAbsolute p) (Path.names p) := by
  obtain ⟨hnul, -, hlen, hwalk⟩ := resolve_eq_ok_iff.mp h
  refine ⟨fun n hn hmem => ?_, Nat.lt_of_le_of_lt (Path.byteLength_ofNames_le p) hlen, l,
    walk_names hwalk⟩
  exact hnul ((Text.isInfix_of_mem_pieces (Path.mem_pieces_of_mem_names hn).1).subset hmem)

theorem walk_ofNames (hns : Path.Plain ns) (hne : ns ≠ []) :
    (Text.pieces '/' (Path.ofNames absolute ns)).foldlM d.step
      (Path.start cwd (Path.ofNames absolute ns)) =
      ns.foldlM d.step (if absolute then [] else cwd) := by
  rw [Path.pieces_ofNames absolute hns hne, Path.start, Path.isAbsolute_ofNames hns hne]
  cases absolute with
  | true => rfl
  | false => rfl

theorem Reaches.of_resolve (hns : Path.Plain ns) (hne : ns ≠ [])
    (h : d.resolve cwd (Path.ofNames absolute ns) = .ok l) :
    d.Reaches cwd absolute ns := by
  obtain ⟨hnul, -, hlen, hwalk⟩ := resolve_eq_ok_iff.mp h
  rw [walk_ofNames hns hne] at hwalk
  refine ⟨fun n hn hmem => hnul ?_, hlen, _, hwalk⟩
  have hpiece : n ∈ Text.pieces '/' (Path.ofNames absolute ns) := by
    rw [Path.pieces_ofNames absolute hns hne]
    cases absolute <;> simp [hn]
  exact (Text.isInfix_of_mem_pieces hpiece).subset hmem

/-- Where a path is walked to its end, there is a directory at every name on the way. -/
theorem Reaches.leadsTo (h : d.Reaches cwd absolute ns) (hns : Path.Plain ns) (hms : ms <+: ns)
    (hne : ms ≠ []) (hproper : ms ≠ ns) : d.LeadsTo cwd (Path.ofNames absolute ms) := by
  obtain ⟨rest, rfl⟩ := hms
  obtain ⟨n, rest, rfl⟩ :=
    List.exists_cons_of_ne_nil (fun hnil => hproper (by simp [hnil]) : rest ≠ [])
  obtain ⟨l, hwalk⟩ := h.walk
  rw [List.foldlM_append] at hwalk
  obtain ⟨k, hk, hwalk⟩ := eq_ok_of_bind hwalk
  obtain ⟨m, hm, -⟩ := eq_ok_of_bind hwalk
  have hplain : Path.Plain ms := fun n hn => hns n (List.mem_append_left _ hn)
  obtain ⟨hdir, -, -⟩ := step_eq_ok_iff.mp hm
  have hlen :=
    Text.byteLength_le_of_prefix (Path.ofNames_prefix absolute (List.prefix_append ms (n :: rest)))
  have hnul := Path.nul_not_mem_ofNames absolute fun n hn => h.noNul n (List.mem_append_left _ hn)
  have hresolve : d.resolve cwd (Path.ofNames absolute ms) = .ok k :=
    resolve_eq_ok_iff.mpr ⟨hnul, Path.ofNames_ne_nil hplain hne,
      Nat.lt_of_le_of_lt hlen h.short, by rwa [walk_ofNames hplain hne]⟩
  exact ⟨eq_locate_of_resolve hresolve ▸ hresolve, eq_locate_of_resolve hresolve ▸ hdir⟩

/-- The first path leads nowhere, and no directory can be made there, unless the second one leads to
a directory. -/
structure Past (cwd : Location) (p q : Path) : Prop where
  leads : ∀ (d : Disk) (l : Location), d.resolve cwd (withoutSlashes p) = .ok l → d.LeadsTo cwd q
  short : Text.byteLength q ≤ Text.byteLength (withoutSlashes p)

theorem past_ofNames (absolute : Bool) (hns : Path.Plain ns) (hms : ms <+: ns) (hne : ms ≠ [])
    (hproper : ms ≠ ns) :
    Past cwd (Path.ofNames absolute ns) (Path.ofNames absolute ms) := by
  have hsome : ns ≠ [] := by
    rintro rfl
    exact hne (List.prefix_nil.mp hms)
  have hslashes := Path.withoutSlashes_ofNames absolute hns hsome
  refine ⟨fun d l hl => ?_, ?_⟩
  · rw [hslashes] at hl
    exact (Reaches.of_resolve hns hsome hl).leadsTo hns hms hne hproper
  · rw [hslashes]
    exact Text.byteLength_le_of_prefix (Path.ofNames_prefix absolute hms)

theorem past_names (hms : ms <+: Path.names p) (hne : ms ≠ []) (hproper : ms ≠ Path.names p) :
    Past cwd p (Path.ofNames (Path.isAbsolute p) ms) := by
  obtain ⟨hnames, habsolute⟩ := Path.withoutSlashes_same p
  refine ⟨fun d l hl => ?_, ?_⟩
  · have hreaches := reaches_names hl
    rw [hnames, habsolute] at hreaches
    exact hreaches.leadsTo (Path.plain_names p) hms hne hproper
  · have hle := Path.byteLength_ofNames_le (withoutSlashes p)
    rw [hnames, habsolute] at hle
    exact (Text.byteLength_le_of_prefix (Path.ofNames_prefix _ hms)).trans hle

theorem pairwise_above (cwd : Location) (p : Path) : (p :: Path.above p).Pairwise (Past cwd) := by
  set ns := (Path.names p).dropLast with hns
  have hlength : ∀ k < ns.length, (ns.take (k + 1)).length = k + 1 := fun k hk => by
    rw [List.length_take]
    omega
  have hne : ∀ k < ns.length, ns.take (k + 1) ≠ [] := fun k hk =>
    List.ne_nil_of_length_pos (by rw [hlength k hk]; omega)
  rw [Path.above_eq, ← hns, List.pairwise_cons]
  constructor
  · intro q hq
    simp only [List.mem_map, List.mem_reverse, List.mem_range] at hq
    obtain ⟨k, hk, rfl⟩ := hq
    refine past_names ((List.take_prefix _ _).trans (List.dropLast_prefix _)) (hne k hk)
      fun heq => ?_
    have hlen := congrArg List.length heq
    rw [hlength k hk] at hlen
    rw [hns, List.length_dropLast] at hk
    omega
  · rw [List.pairwise_map, List.pairwise_reverse]
    refine List.pairwise_lt_range.imp_of_mem fun {j k} hj hk hjk => ?_
    rw [List.mem_range] at hj hk
    have hplain : Path.Plain (ns.take (k + 1)) := fun n hn =>
      Path.plain_names p n (List.mem_of_mem_dropLast (List.mem_of_mem_take hn))
    refine past_ofNames _ hplain (List.take_prefix_take_left (by omega)) (hne j hj) fun heq => ?_
    have hlen := congrArg List.length heq
    rw [hlength j hj, hlength k hk] at hlen
    omega

theorem resolve_of_concat_slash (hp : p ≠ []) (h : d.resolve cwd (p ++ ['/']) = .ok l) :
    d.resolve cwd p = .ok l := by
  obtain ⟨hnul, -, hlen, hwalk⟩ := resolve_eq_ok_iff.mp h
  rw [Path.start_concat_slash hp, Text.pieces_append, List.foldlM_append] at hwalk
  obtain ⟨m, hm, hwalk⟩ := eq_ok_of_bind hwalk
  obtain rfl : l = m := eq_foldl_of_walk hwalk
  rw [Text.byteLength_append] at hlen
  exact resolve_eq_ok_iff.mpr ⟨fun hmem => hnul (List.mem_append_left _ hmem), hp, by omega, hm⟩

theorem resolve_withoutSlashes (h : d.resolve cwd p = .ok l) :
    d.resolve cwd (withoutSlashes p) = .ok l := by
  induction p using List.reverseRecOn with
  | nil => exact h
  | append_singleton p c ih =>
    rcases withoutSlashes_concat p c with hsame | ⟨rfl, hp, hshorter⟩
    · rwa [hsame]
    · rw [hshorter]
      exact ih (resolve_of_concat_slash hp h)

theorem LeadsTo.createDirectory (h : d.LeadsTo cwd p) :
    d.createDirectory cwd p = .error .alreadyExists :=
  createDirectory_of_exists (resolve_withoutSlashes h.resolve) h.directory

theorem LeadsTo.isDirectory (h : d.LeadsTo cwd p) : d.isDirectory cwd p = true := by
  rw [Disk.isDirectory, find_of_resolve h.resolve h.directory]

theorem LeadsTo.createWithParents (h : d.LeadsTo cwd p) (above : List Path) :
    Disk.createWithParents cwd p above d = (.ok (), d) := by
  rw [createWithParents.eq_def]
  simp [h.createDirectory, h.isDirectory]

theorem short_of_notFound (h : d.createDirectory cwd p = .error .notFound) :
    Text.byteLength (withoutSlashes p) < pathLimit := by
  by_contra hlen
  have hresolve : d.resolve cwd (withoutSlashes p) ≠ .error .notFound := by
    have hne : withoutSlashes p ≠ [] := by
      intro hnil
      rw [hnil] at hlen
      exact hlen (by decide)
    rw [resolve]
    simp [hne, Nat.not_lt.mp hlen]
    split <;> simp
  rw [createDirectory] at h
  cases hl : d.resolve cwd (withoutSlashes p) with
  | error f =>
    rw [hl] at h
    cases h
    exact hresolve hl
  | ok l => exact hlen (resolve_eq_ok_iff.mp hl).2.2.1

theorem not_leadsTo_of_createDirectory {f : DiskFault} (h : d.createDirectory cwd p = .error f)
    (hf : f ≠ .alreadyExists) :
    ¬d.LeadsTo cwd p := fun hleads => by
  rw [hleads.createDirectory] at h
  exact hf (Except.error.inj h).symm

theorem stop_of_isDirectory {f f' : DiskFault}
    (h : ((if d.isDirectory cwd p then .ok () else .error f : Except DiskFault Unit), d) =
      (.error f', d')) :
    d = d' ∧ ¬d'.LeadsTo cwd p := by
  by_cases hdir : d.isDirectory cwd p = true
  · rw [if_pos hdir] at h
    cases h
  · rw [if_neg hdir] at h
    cases h
    exact ⟨rfl, fun hleads => hdir hleads.isDirectory⟩

/-- Where making a directory stops: at the path itself, or at those above it. -/
theorem stop_of_createWithParents {above : List Path} {f : DiskFault}
    (h : createWithParents cwd p above d = (.error f, d')) :
    (∃ f', d'.createDirectory cwd p = .error f' ∧ ¬d'.LeadsTo cwd p ∧
      ((d' = d ∧ (f' = .notFound → above = [])) ∨
        ∃ q ps, above = q :: ps ∧ d.createDirectory cwd p = .error .notFound ∧
        createWithParents cwd q ps d = (.ok (), d'))) ∨
    ∃ q ps, above = q :: ps ∧ createWithParents cwd q ps d = (.error f, d') := by
  rw [createWithParents.eq_def] at h
  dsimp only at h
  split at h
  · cases h
  · next hd =>
    have hno := not_leadsTo_of_createDirectory hd (by decide)
    split at h
    · cases h
      exact .inl ⟨_, hd, hno, .inl ⟨rfl, fun _ => rfl⟩⟩
    · next q ps =>
      split at h
      · next hq =>
        cases h
        exact .inr ⟨q, ps, rfl, hq⟩
      · next hq =>
        split at h
        · cases h
        · next hd' =>
          obtain ⟨rfl, hno'⟩ := stop_of_isDirectory h
          exact .inl ⟨_, hd', hno', .inr ⟨q, ps, rfl, hd, hq⟩⟩
  · next hother hd =>
    obtain ⟨rfl, hno⟩ := stop_of_isDirectory h
    exact .inl ⟨_, hd, hno, .inl ⟨rfl, fun hnone => absurd hnone hother⟩⟩

/-- Nothing is made where no directory can be, if nothing is made above it. -/
theorem createWithParents_stuck {above : List Path} {f : DiskFault}
    (hd : d.createDirectory cwd p = .error f) (hno : ¬d.LeadsTo cwd p)
    (habove : f = .notFound → ∀ q ps, above = q :: ps → (createWithParents cwd q ps d).2 = d) :
    ∃ f', createWithParents cwd p above d = (.error f', d) := by
  have hdir : d.isDirectory cwd p ≠ true := fun hdir => hno (leadsTo_of_isDirectory hdir)
  rw [createWithParents.eq_def]
  dsimp only
  rw [hd]
  split
  · next heq => cases heq
  · next heq =>
    obtain rfl : f = .notFound := Except.error.inj heq
    cases above with
    | nil => exact ⟨_, rfl⟩
    | cons q ps =>
      have hq := habove rfl q ps rfl
      dsimp only
      split
      · next hq' =>
        rw [hq'] at hq
        exact ⟨_, by rw [← hq]⟩
      · next d₁ hq' =>
        rw [hq'] at hq
        obtain rfl : d₁ = d := hq
        rw [hd]
        dsimp only
        exact ⟨_, by rw [if_neg hdir]⟩
  · exact ⟨_, by rw [if_neg hdir]⟩

/-- A directory that cannot be made is not there afterwards, and cannot be made in a second attempt,
which changes nothing. -/
theorem createWithParents_of_error {above : List Path} {f : DiskFault}
    (hpast : (p :: above).Pairwise (Past cwd))
    (h : createWithParents cwd p above d = (.error f, d')) :
    ¬d'.LeadsTo cwd p ∧ ∃ f', createWithParents cwd p above d' = (.error f', d') := by
  induction above generalizing p d f with
  | nil =>
    obtain ⟨f', hd, hno, -⟩ | ⟨q, ps, hnil, -⟩ := stop_of_createWithParents h
    · exact ⟨hno, createWithParents_stuck hd hno fun _ _ _ hnil => nomatch hnil⟩
    · cases hnil
  | cons q above ih =>
    obtain ⟨hp, habove⟩ := List.pairwise_cons.mp hpast
    have hq := hp q (by simp)
    obtain ⟨f', hd, hno, hfrom⟩ | ⟨q', ps, habove', hstop⟩ := stop_of_createWithParents h
    · refine ⟨hno, createWithParents_stuck hd hno fun hnone' q' ps heq => ?_⟩
      obtain ⟨rfl, rfl⟩ := List.cons.inj heq
      rcases hfrom with ⟨-, hnil⟩ | ⟨q', ps, heq, hnone, hmade⟩
      · cases hnil hnone'
      · obtain ⟨rfl, rfl⟩ := List.cons.inj heq
        have hshort := Nat.lt_of_le_of_lt hq.short (short_of_notFound hnone)
        rw [(leadsTo_of_createWithParents hshort hmade).createWithParents]
    · obtain ⟨rfl, rfl⟩ := List.cons.inj habove'
      obtain ⟨hnoq, f', hagain⟩ := ih habove hstop
      have hno : ¬d'.LeadsTo cwd p := fun hleads =>
        hnoq (hq.leads d' _ (resolve_withoutSlashes hleads.resolve))
      refine ⟨hno, ?_⟩
      cases hd : d'.createDirectory cwd p with
      | ok d₁ =>
        obtain ⟨l, hl, -⟩ := eq_put_of_createDirectory hd
        exact absurd (hq.leads d' l hl) hnoq
      | error f₁ =>
        refine createWithParents_stuck hd hno fun _ q' ps heq => ?_
        obtain ⟨rfl, rfl⟩ := List.cons.inj heq
        rw [hagain]

theorem createDirectories_of_error {f : DiskFault}
    (h : d.createDirectories cwd p = (.error f, d')) :
    p ≠ [] ∧ ¬d'.LeadsTo cwd p ∧ ∃ f', d'.createDirectories cwd p = (.error f', d') := by
  rw [createDirectories] at h ⊢
  by_cases hp : p = []
  · subst hp
    cases h
  · have hempty : p.isEmpty = false := by simpa using hp
    rw [hempty] at h ⊢
    exact ⟨hp, createWithParents_of_error (pairwise_above cwd p) h⟩

/-- A name below a path can only be reached if the path leads to a directory. -/
theorem leadsTo_of_resolve_join {n : Text} (hp : p ≠ []) (hn : Path.IsName n)
    (h : d.resolve cwd (Path.join p n) = .ok l) : d.LeadsTo cwd p := by
  obtain ⟨hnul, -, hlen, hwalk⟩ := resolve_eq_ok_iff.mp h
  have hshort := Nat.lt_of_le_of_lt (Path.byteLength_le_join (p := p) hn) hlen
  suffices hleads : Char.ofNat 0 ∉ p ∧
    ∃ k, (Text.pieces '/' p).foldlM d.step (Path.start cwd p) = .ok k ∧
      d.entry? k = some .directory by
    obtain ⟨hnul, k, hk, hdir⟩ := hleads
    have hresolve : d.resolve cwd p = .ok k := resolve_eq_ok_iff.mpr ⟨hnul, hp, hshort, hk⟩
    exact ⟨eq_locate_of_resolve hresolve ▸ hresolve, eq_locate_of_resolve hresolve ▸ hdir⟩
  have hlast : ∀ {ms : List Text}, (ms ++ [n]).foldlM d.step (Path.start cwd p) = .ok l →
      ∃ k, ms.foldlM d.step (Path.start cwd p) = .ok k ∧ d.entry? k = some .directory := by
    intro ms hw
    rw [List.foldlM_append] at hw
    obtain ⟨k, hk, hw⟩ := eq_ok_of_bind hw
    obtain ⟨m, hm, -⟩ := eq_ok_of_bind hw
    exact ⟨k, hk, (step_eq_ok_iff.mp hm).1⟩
  rw [Path.start_join hn] at hwalk
  rcases Path.join_cases hp hn with ⟨q, rfl, hj⟩ | ⟨-, hj⟩
  · rw [hj] at hnul hwalk
    rw [Text.pieces_append, hn.pieces] at hwalk
    obtain ⟨k, hk, hdir⟩ := hlast hwalk
    refine ⟨by simp_all, k, ?_, hdir⟩
    have hstay : d.step k [] = .ok k :=
      step_eq_ok_iff.mpr ⟨hdir, Nat.zero_le _, (Path.enter_nil k).symm⟩
    rw [Text.pieces_append, List.foldlM_append, hk, ok_bind, Text.pieces, List.foldlM_cons, hstay]
    rfl
  · rw [hj] at hnul hwalk
    rw [Text.pieces_append, hn.pieces] at hwalk
    obtain ⟨k, hk, hdir⟩ := hlast hwalk
    exact ⟨fun hmem => hnul (List.mem_append_left _ hmem), k, hk, hdir⟩

end Disk
end TestBench
