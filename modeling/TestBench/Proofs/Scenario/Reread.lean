import TestBench.Proofs.Json.Reread
import TestBench.Proofs.Scenario.Stable

/-! Checks whose JSON form is printed and read again. Scenarios and headers come back as they are,
and requests with the bodies that are read from the texts of theirs. -/
namespace TestBench

open Json (Within)

theorem forall_mem_presentMembers {p : Json → Prop} {fields : List (String × Option Json)}
    (h : ∀ f ∈ fields, ∀ v ∈ f.2, p v) : ∀ m ∈ presentMembers fields, p m.2 := by
  intro m hm
  obtain ⟨⟨k, v⟩, hf, hv⟩ := List.mem_filterMap.mp hm
  obtain ⟨w, hw, rfl⟩ := Option.map_eq_some_iff.mp hv
  exact h _ hf w hw

namespace Step

theorem forall_mem_members {p : Json → Prop} (htext : ∀ t, p (.string t))
    (htime : ∀ n, p (.ofUInt64 n)) (s : Step) :
    ∀ m ∈ s.members, p m.2 := by
  cases s with
  | waitFor selector ms =>
    exact forall_mem_presentMembers (by cases selector <;> cases ms <;> simp [htext, htime])
  | _ => exact forall_mem_presentMembers (by simp [htext])

theorem within_toJson (depth : Nat) (s : Step) : Within (depth + 1) s.toJson :=
  .ofMembers (List.forall_mem_cons.mpr
    ⟨.string .., forall_mem_members (p := Within depth) (fun _ => .string ..)
      (fun _ => .number ..) s⟩)

theorem stable_toJson (s : Step) : s.toJson.Stable := by
  refine Json.forall_numbers_ofMembers (List.forall_mem_cons.mpr ⟨fun _ h => (nomatch h), ?_⟩)
  refine forall_mem_members (p := Json.Stable) (fun _ _ h => (nomatch h)) (fun n m hm => ?_) s
  rw [List.mem_singleton.mp hm]
  exact Number.reread_integer ..

end Step

namespace Scenario

theorem within_toJson (depth : Nat) (s : Scenario) : Within (depth + 3) s.toJson := by
  refine .ofMembers ?_
  simp only [List.forall_mem_cons]
  exact ⟨.string .., .string ..,
    .array (List.forall_mem_map.mpr fun step _ => step.within_toJson depth), by simp⟩

theorem stable_toJson (s : Scenario) : s.toJson.Stable := by
  refine Json.forall_numbers_ofMembers ?_
  simp only [List.forall_mem_cons]
  refine ⟨fun _ h => (nomatch h), fun _ h => (nomatch h), ?_, by simp⟩
  exact Json.forall_numbers_array.mpr (List.forall_mem_map.mpr fun step _ => step.stable_toJson)

theorem parse_toJson (ss : List Scenario) (k : Nat) :
    Json.parse (Json.indented k (CheckSet.toJson (.ui ss))) = .ok (CheckSet.toJson (.ui ss)) := by
  have hwithin : Within Json.depthLimit (CheckSet.toJson (.ui ss)) :=
    .array (List.forall_mem_map.mpr fun s _ => s.within_toJson 123)
  have hstable : (CheckSet.toJson (.ui ss)).Stable :=
    Json.forall_numbers_array.mpr (List.forall_mem_map.mpr fun s _ => s.stable_toJson)
  rw [Json.parse_indented hwithin, Json.mapNumbers_eq_self hwithin hstable]

end Scenario

namespace Headers

theorem within_toJson (depth : Nat) (hs : Headers) : Within (depth + 1) hs.toJson :=
  .ofMembers (List.forall_mem_map.mpr fun _ _ => .string ..)

theorem stable_toJson (hs : Headers) : hs.toJson.Stable :=
  Json.forall_numbers_ofMembers (List.forall_mem_map.mpr fun _ _ _ h => (nomatch h))

theorem parse_toJson (hs : Headers) (k : Nat) :
    Json.parse (Json.indented k hs.toJson) = .ok hs.toJson := by
  have hwithin : Within Json.depthLimit hs.toJson := hs.within_toJson 126
  rw [Json.parse_indented hwithin, Json.mapNumbers_eq_self hwithin hs.stable_toJson]

theorem sorted_names {depth : Nat} {v : Json} {hs : Headers} (hv : Within depth v)
    (h : validate v = .ok hs) : (names hs).Pairwise (· < ·) := by
  cases hv with
  | null =>
    cases h
    exact .nil
  | object hkeys =>
    rw [names_of_validate h]
    exact hkeys
  | _ => cases h

end Headers

namespace Request

/-- The request with the body that is read from the text of its body. -/
def reread (r : Request) : Request := { r with body := r.body.map (·.mapNumbers Number.reread) }

@[simp] theorem mapNumbers_toJson (r : Request) :
    r.toJson.mapNumbers Number.reread = r.reread.toJson := by
  obtain ⟨method, path, body⟩ := r
  cases body <;> rfl

@[simp] theorem isNull_mapNumbers (f : Number → Number) (v : Json) :
    (v.mapNumbers f).isNull = v.isNull := by
  cases v <;> rfl

theorem Settled.reread {r : Request} (h : r.Settled) : r.reread.Settled where
  path := h.path
  trimmed := h.trimmed
  nonempty := h.nonempty
  body := by
    have hbody := h.body
    cases hr : r.body with
    | none => rw [Request.reread, hr]; rfl
    | some v =>
      rw [hr] at hbody
      have hnull : v.isNull = false := by simpa using hbody
      simp [Request.reread, hr, Option.filter, hnull]

theorem reread_eq_self {r : Request} {depth : Nat} (hwithin : ∀ b ∈ r.body, Within depth b)
    (h : ∀ b ∈ r.body, b.Stable) : r.reread = r := by
  obtain ⟨method, path, body⟩ := r
  cases body with
  | none => rfl
  | some b => rw [reread, Option.map_some, Json.mapNumbers_eq_self (hwithin b rfl) (h b rfl)]

theorem within_toJson {depth : Nat} {r : Request} (h : ∀ b ∈ r.body, Within depth b) :
    Within (depth + 1) r.toJson := by
  refine .ofMembers ?_
  simp only [List.forall_mem_cons]
  refine ⟨.string .., .string .., ?_, by simp⟩
  cases hb : r.body with
  | none => exact .null _
  | some b => exact h b hb

theorem within_body_of_validate {depth index : Nat} {item : Json} {r : Request}
    (hitem : Within (depth + 1) item) (h : validate index item = .ok r) :
    ∀ b ∈ r.body, Within depth b := by
  cases hitem with
  | object _ hvalues =>
    rw [validate] at h
    split at h
    · cases h
    · split at h
      · cases h
      · cases h
        intro b hb
        obtain ⟨m, hm, rfl⟩ := Json.mem_of_lookup (Option.filter_eq_some_iff.mp hb).1
        exact hvalues m hm
  | _ => cases h

theorem within_body_of_validateAll {depth : Nat} {v : Json} {rs : List Request}
    (hv : Within (depth + 2) v) (h : validateAll v = .ok rs) :
    ∀ r ∈ rs, ∀ b ∈ r.body, Within depth b := by
  obtain ⟨item, items, rfl, h⟩ := exists_items h
  cases hv with
  | array hitems =>
    intro r hr
    obtain ⟨i, item, hitem, hvalid⟩ := exists_of_mem_mapNumbered h r hr
    exact within_body_of_validate (hitems item hitem) hvalid

theorem parse_toJson {rs : List Request} (h : ∀ r ∈ rs, ∀ b ∈ r.body, Within 125 b) (k : Nat) :
    Json.parse (Json.indented k (.array (rs.map toJson))) =
      .ok (.array ((rs.map reread).map toJson)) := by
  have hwithin : Within Json.depthLimit (.array (rs.map toJson)) :=
    .array (List.forall_mem_map.mpr fun r hr => within_toJson (h r hr))
  rw [Json.parse_indented hwithin, Json.mapNumbers, Json.mapNumbersOfItems_eq, List.map_map,
    List.map_map]
  exact congrArg (fun vs => Except.ok (Json.array vs))
    (List.map_congr_left fun r _ => r.mapNumbers_toJson)

end Request
end TestBench
