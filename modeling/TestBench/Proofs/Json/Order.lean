import Mathlib.Data.Char
import Mathlib.Data.List.Dedup
import Mathlib.Data.List.Induction
import Mathlib.Data.List.Lex
import TestBench.Json.Basic

/-! The order of keys. Members put into a map stand in the order of their keys, each key once. -/
namespace TestBench

theorem Text.before_iff (s t : Text) : Text.before s t = true ↔ s < t := by
  induction s generalizing t with
  | nil => cases t <;> simp [Text.before]
  | cons a s ih =>
    cases t with
    | nil => simp [Text.before]
    | cons b t => simp [Text.before, List.cons_lt_cons_iff, ih]

namespace Json

def keys (ms : List (Text × Json)) : List Text := ms.map Prod.fst

@[simp] theorem keys_cons (k : Text) (v : Json) (ms : List (Text × Json)) :
    keys ((k, v) :: ms) = k :: keys ms :=
  rfl

variable {key : Text} {value : Json} {ms : List (Text × Json)}

@[simp] theorem mem_keys_putMember {a : Text} : a ∈ keys (putMember key value ms) ↔
    a = key ∨ a ∈ keys ms := by
  induction ms with
  | nil => simp [putMember, keys]
  | cons m ms ih =>
    obtain ⟨k, v⟩ := m
    rw [putMember]
    split
    · next h => simp [h]
    · split
      · simp
      · simp [ih, or_left_comm]

theorem sorted_putMember (h : (keys ms).Pairwise (· < ·)) :
    (keys (putMember key value ms)).Pairwise (· < ·) := by
  induction ms with
  | nil => simp [putMember, keys]
  | cons m ms ih =>
    obtain ⟨k, v⟩ := m
    obtain ⟨hfirst, hrest⟩ := List.pairwise_cons.mp h
    rw [putMember]
    split
    · next heq => exact heq ▸ h
    · next hne =>
      split
      · next hbefore =>
        rw [Text.before_iff] at hbefore
        refine List.pairwise_cons.mpr ⟨fun a ha => ?_, h⟩
        rcases List.mem_cons.mp ha with rfl | ha
        · exact hbefore
        · exact hbefore.trans (hfirst a ha)
      · next hafter =>
        have hk : k < key := by
          rw [Text.before_iff] at hafter
          exact lt_of_le_of_ne (not_lt.mp hafter) (Ne.symm hne)
        refine List.pairwise_cons.mpr ⟨fun a ha => ?_, ih hrest⟩
        rcases mem_keys_putMember.mp ha with rfl | ha
        · exact hk
        · exact hfirst a ha

theorem forall_mem_putMember {p : Json → Prop} (hv : p value) (h : ∀ m ∈ ms, p m.2) :
    ∀ m ∈ putMember key value ms, p m.2 := by
  induction ms with
  | nil => simpa [putMember] using hv
  | cons m ms ih =>
    obtain ⟨hm, hms⟩ := List.forall_mem_cons.mp h
    rw [putMember]
    split
    · exact List.forall_mem_cons.mpr ⟨hv, hms⟩
    · split
      · exact List.forall_mem_cons.mpr ⟨hv, h⟩
      · exact List.forall_mem_cons.mpr ⟨hm, ih hms⟩

theorem sortMembers_concat (ms : List (Text × Json)) (m : Text × Json) :
    sortMembers (ms ++ [m]) = putMember m.1 m.2 (sortMembers ms) := by
  rw [sortMembers, List.foldl_append]
  rfl

@[simp] theorem mem_keys_sortMembers {a : Text} : a ∈ keys (sortMembers ms) ↔ a ∈ keys ms := by
  induction ms using List.reverseRecOn with
  | nil => rfl
  | append_singleton ms m ih =>
    rw [sortMembers_concat, mem_keys_putMember, ih]
    simp [keys, or_comm, eq_comm]

theorem sorted_sortMembers (ms : List (Text × Json)) :
    (keys (sortMembers ms)).Pairwise (· < ·) := by
  induction ms using List.reverseRecOn with
  | nil => exact List.Pairwise.nil
  | append_singleton ms m ih =>
    rw [sortMembers_concat]
    exact sorted_putMember ih

@[simp] theorem length_sortMembers (ms : List (Text × Json)) :
    (sortMembers ms).length = (keys ms).dedup.length := by
  have hnodup : (keys (sortMembers ms)).Nodup := (sorted_sortMembers ms).imp fun h => ne_of_lt h
  have hperm : (keys (sortMembers ms)).Perm (keys ms).dedup := by
    rw [List.perm_ext_iff_of_nodup hnodup (List.nodup_dedup _)]
    intro a
    rw [mem_keys_sortMembers, List.mem_dedup]
  have hlen := hperm.length_eq
  rwa [keys, List.length_map] at hlen

theorem forall_mem_sortMembers {p : Json → Prop} (h : ∀ m ∈ ms, p m.2) :
    ∀ m ∈ sortMembers ms, p m.2 := by
  induction ms using List.reverseRecOn with
  | nil => exact h
  | append_singleton ms m ih =>
    obtain ⟨hms, hm⟩ := List.forall_mem_append.mp h
    rw [sortMembers_concat]
    exact forall_mem_putMember (hm m (by simp)) (ih hms)

end Json
end TestBench
