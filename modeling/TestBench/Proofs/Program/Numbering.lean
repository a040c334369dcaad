import TestBench.Proofs.Program.Titles

/-! How titles are numbered. The search for a title that is not taken runs through the numbers from
two on and ends within as many rounds as there are titles taken; what a title becomes depends on the
titles before it only. -/
namespace TestBench
namespace Titles

variable {taken earlier : List Text} {title result : Text}

/-- The search for a title that is not taken, from a candidate on, with the number of the next
candidate, the rounds that are made and the candidate at which it ends. -/
inductive Search (taken : List Text) (title : Text) : Text → Nat → Nat → Text → Prop
  | done {t : Text} {n : Nat} : t ∉ taken → Search taken title t n 0 t
  | next {t found : Text} {n rounds : Nat} :
      t ∈ taken → Search taken title (numbered title n) (n + 1) rounds found →
      Search taken title t n (rounds + 1) found

theorem search_numbered {n rounds : Nat}
    (hpassed : ∀ k, n ≤ k → k < n + rounds → numbered title k ∈ taken)
    (hfree : numbered title (n + rounds) ∉ taken) :
    Search taken title (numbered title n) (n + 1) rounds (numbered title (n + rounds)) := by
  induction rounds generalizing n with
  | zero => exact .done hfree
  | succ rounds ih =>
    have hnext : n + (rounds + 1) = n + 1 + rounds := by omega
    rw [hnext] at hpassed hfree ⊢
    exact .next (hpassed n (by omega) (by omega)) (ih (fun k hk => hpassed k (by omega)) hfree)

/-- What becomes of a title behind earlier ones: it stays as it is unless it is taken, and else it
gets the least number from two on that makes it new. -/
def Becomes (earlier : List Text) (title result : Text) : Prop :=
  (title ∉ earlier ∧ result = title) ∨
  (title ∈ earlier ∧ ∃ n, 2 ≤ n ∧ n ≤ earlier.length + 1 ∧ result = numbered title n ∧
    numbered title n ∉ earlier ∧ ∀ k, 2 ≤ k → k < n → numbered title k ∈ earlier)

theorem Becomes.search (h : Becomes earlier title result) :
    ∃ rounds ≤ earlier.length, Search earlier title title 2 rounds result := by
  rcases h with ⟨hfree, rfl⟩ | ⟨htitle, n, hn, hle, rfl, hfree, hpassed⟩
  · exact ⟨0, Nat.zero_le _, .done hfree⟩
  · obtain ⟨passed, rfl⟩ := Nat.exists_eq_add_of_le hn
    exact ⟨passed + 1, by omega, .next htitle (search_numbered hpassed hfree)⟩

theorem becomes_free (hmem : ∀ t, t ∈ taken ↔ t ∈ earlier) (hlength : taken.length = earlier.length)
    (title : Text) :
    Becomes earlier title (free taken title) := by
  have hcases := free_cases taken title
  simp only [hmem, hlength] at hcases
  exact hcases

theorem getElem?_distinctFrom (taken ts : List Text) (i : Nat) : (distinctFrom taken ts)[i]? =
    ts[i]?.map (free (((distinctFrom taken ts).take i).reverse ++ taken)) := by
  induction ts generalizing taken i with
  | nil => rfl
  | cons t ts ih =>
    cases i with
    | zero => rfl
    | succ i => simp [distinctFrom, ih]

theorem exists_becomes {ts : List Text} {i : Nat} (h : ts[i]? = some title) :
    ∃ result, (distinct ts)[i]? = some result ∧ Becomes ((distinct ts).take i) title result := by
  have hresult := getElem?_distinctFrom [] ts i
  rw [h, Option.map_some, List.append_nil] at hresult
  exact ⟨_, hresult, becomes_free (by simp [distinct]) (by simp [distinct]) title⟩

@[simp] theorem distinctFrom_append (taken ts us : List Text) : distinctFrom taken (ts ++ us) =
    distinctFrom taken ts ++ distinctFrom ((distinctFrom taken ts).reverse ++ taken) us := by
  induction ts generalizing taken with
  | nil => rfl
  | cons t ts ih => simp [distinctFrom, ih]

theorem distinctFrom_eq_self {ts : List Text} (hnodup : ts.Nodup) (h : ∀ t ∈ ts, t ∉ taken) :
    distinctFrom taken ts = ts := by
  induction ts generalizing taken with
  | nil => rfl
  | cons t ts ih =>
    obtain ⟨hnew, hnodup⟩ := List.nodup_cons.mp hnodup
    obtain ⟨ht, hts⟩ := List.forall_mem_cons.mp h
    have hfree : free taken t = t := by simp [free, ht]
    rw [distinctFrom, hfree, ih hnodup]
    intro u hu hmem
    rcases List.mem_cons.mp hmem with rfl | hmem
    · exact hnew hu
    · exact hts u hu hmem

/-- There are as many titles as before, all different. The search at each position ends, within as
many rounds as there are earlier titles: with the title if none of these is the same, or with the
least number that is new. Later titles change nothing of it, and titles that are made distinct stay
as they are. -/
theorem titles_made_distinct (ts : List Text) :
    (distinct ts).length = ts.length ∧ (distinct ts).Nodup ∧
    (∀ i title, ts[i]? = some title → ∃ result, (distinct ts)[i]? = some result ∧
      (∃ rounds ≤ i, Search ((distinct ts).take i) title title 2 rounds result) ∧
      ((title ∉ (distinct ts).take i ∧ result = title) ∨
       (title ∈ (distinct ts).take i ∧ ∃ n, 2 ≤ n ∧ n ≤ i + 1 ∧ result = numbered title n ∧
        numbered title n ∉ (distinct ts).take i ∧
        ∀ k, 2 ≤ k → k < n → numbered title k ∈ (distinct ts).take i))) ∧
    (∀ us, distinct ts <+: distinct (ts ++ us)) ∧
    distinct (distinct ts) = distinct ts := by
  refine ⟨length_distinct ts, nodup_distinct ts, fun i title h => ?_, fun us => ?_, ?_⟩
  · obtain ⟨result, hresult, hbecomes⟩ := exists_becomes h
    have hearlier : ((distinct ts).take i).length = i := by
      rw [List.length_take, length_distinct]
      have hi := (List.getElem?_eq_some_iff.mp h).1
      omega
    have hsearch := hbecomes.search
    rw [Becomes] at hbecomes
    rw [hearlier] at hsearch hbecomes
    exact ⟨result, hresult, hsearch, hbecomes⟩
  · rw [distinct, distinct, distinctFrom_append]
    exact List.prefix_append _ _
  · exact distinctFrom_eq_self (nodup_distinct ts) fun t _ => List.not_mem_nil

def lookalikes : List Text := ["a (#2)".toList, ['a'], ['a'], "a (#2)".toList]

/-- The number two of a title is another title already, and that title is found twice itself. -/
theorem titles_made_distinct_of_lookalikes :
    lookalikes[2]? = some ['a'] ∧
    distinct lookalikes = ["a (#2)".toList, ['a'], "a (#3)".toList, "a (#2) (#2)".toList] ∧
    ∃ rounds ≤ 2, Search ["a (#2)".toList, ['a']] ['a'] ['a'] 2 rounds "a (#3)".toList := by
  have hdistinct :
      distinct lookalikes = ["a (#2)".toList, ['a'], "a (#3)".toList, "a (#2) (#2)".toList] := by
    decide +kernel
  obtain ⟨result, hresult, hsearch, -⟩ := (titles_made_distinct lookalikes).2.2.1 2 ['a'] rfl
  rw [hdistinct] at hresult hsearch
  obtain rfl : "a (#3)".toList = result := Option.some.inj hresult
  exact ⟨rfl, hdistinct, hsearch⟩

end Titles
end TestBench
