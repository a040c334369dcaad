import TestBench.Json.Printer
import TestBench.Proofs.Text.Basic

/-! The characters that numbers are written with: digits, a point, a sign, and the marks of an
exponent. So a property of these holds all through the text of a number. -/
namespace TestBench

namespace Binary64

variable {p : Char → Prop} {layout : Layout} {ds : Text}

theorem forall_mem_dropZeros (hds : ∀ c ∈ ds, p c) (e : Int) : ∀ c ∈ (dropZeros ds e).1, p c := by
  intro c hc
  rw [dropZeros, List.mem_reverse] at hc
  exact hds c (List.mem_reverse.mp (List.dropWhile_subset _ hc))

theorem forall_mem_plainText (hdigit : ∀ c : Char, c.isDigit = true → p c) (hpoint : p '.')
    (hds : ∀ c ∈ ds, p c) (e : Int) : ∀ c ∈ plainText ds e, p c := by
  have hzero : p '0' := hdigit '0' rfl
  rw [plainText]
  split
  · have hend : ∀ c ∈ ".0".toList, p c := by simp [hpoint, hzero]
    simp only [List.forall_mem_append]
    exact ⟨⟨hds, Text.forall_mem_zeros hdigit _⟩, hend⟩
  · dsimp only
    split
    · simp only [List.forall_mem_append, List.forall_mem_cons]
      exact ⟨fun c hc => hds c (List.take_subset _ _ hc), hpoint,
        fun c hc => hds c (List.drop_subset _ _ hc)⟩
    · have hstart : ∀ c ∈ "0.".toList, p c := by simp [hpoint, hzero]
      simp only [List.forall_mem_append]
      exact ⟨⟨hstart, Text.forall_mem_zeros hdigit _⟩, hds⟩

theorem forall_mem_scientificText (hdigit : ∀ c : Char, c.isDigit = true → p c) (hpoint : p '.')
    (hmark : ∀ c ∈ layout.mark, p c) (hneg : ∀ c ∈ layout.negativeMark, p c) (hds : ∀ c ∈ ds, p c)
    (leading : Int) : ∀ c ∈ scientificText layout ds leading, p c := by
  have hrest : ∀ c ∈ ds.drop 1, p c := fun c hc => hds c (List.drop_subset _ _ hc)
  rw [scientificText]
  simp only [List.forall_mem_append]
  refine ⟨⟨fun c hc => hds c (List.take_subset _ _ hc), ?_⟩, ?_⟩
  · split
    · simp
    · exact List.forall_mem_cons.mpr ⟨hpoint, hrest⟩
  · split
    · exact List.forall_mem_append.mpr ⟨hmark, Text.forall_mem_ofNat hdigit _⟩
    · exact List.forall_mem_append.mpr ⟨hneg, Text.forall_mem_ofNat hdigit _⟩

theorem forall_mem_toText (hdigit : ∀ c : Char, c.isDigit = true → p c) (hpoint : p '.')
    (hsign : p '-') (hmark : ∀ c ∈ layout.mark, p c) (hneg : ∀ c ∈ layout.negativeMark, p c)
    (x : Binary64) :
    ∀ c ∈ x.toText layout, p c := by
  have hzero : p '0' := hdigit '0' rfl
  have hminus : ∀ c ∈ (if x.negative = true then ['-'] else []), p c := by
    split <;> simp [hsign]
  rw [toText]
  dsimp only
  split
  · have hend : ∀ c ∈ "0.0".toList, p c := by simp [hpoint, hzero]
    exact List.forall_mem_append.mpr ⟨hminus, hend⟩
  · have hds : ∀ c ∈ (dropZeros (Text.ofNat (shortest x).digits) (shortest x).exponent).1, p c :=
      forall_mem_dropZeros (Text.forall_mem_ofNat hdigit _) _
    refine List.forall_mem_append.mpr ⟨hminus, ?_⟩
    split
    · exact forall_mem_plainText hdigit hpoint hds _
    · exact forall_mem_scientificText hdigit hpoint hmark hneg hds _

end Binary64

theorem Json.forall_mem_numberText {p : Char → Prop} (hdigit : ∀ c : Char, c.isDigit = true → p c)
    (hother : ∀ c ∈ ['.', '-', '+', 'e'], p c) (n : Number) : ∀ c ∈ Json.numberText n, p c := by
  have hmark : Json.numberLayout.mark ⊆ ['.', '-', '+', 'e'] := by decide
  have hneg : Json.numberLayout.negativeMark ⊆ ['.', '-', '+', 'e'] := by decide
  cases n with
  | integer i _ => exact Text.forall_mem_ofInt hdigit (hother '-' (by simp)) i
  | real x =>
    exact x.forall_mem_toText hdigit (hother '.' (by simp)) (hother '-' (by simp))
      (fun c hc => hother c (hmark hc)) (fun c hc => hother c (hneg hc))

theorem Json.not_mem_numberText {c : Char} (hdigit : c.isDigit = false)
    (hother : c ∉ ['.', '-', '+', 'e']) (n : Number) : c ∉ Json.numberText n := by
  intro h
  have hne : c ≠ c := by
    refine Json.forall_mem_numberText (p := (· ≠ c)) (fun d hd => ?_) (fun d hd => ?_) n c h
    · rintro rfl
      exact Bool.noConfusion (hdigit.symm.trans hd)
    · rintro rfl
      exact hother hd
  exact hne rfl

end TestBench
