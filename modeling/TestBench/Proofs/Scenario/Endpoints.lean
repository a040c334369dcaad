import TestBench.Proofs.Program.Structure
import TestBench.Proofs.Scenario.Stable

/-! A list of paths is short for a list of requests: one request with nothing but a path for each
piece between commas that is not blank. -/
namespace TestBench

theorem Text.filterMap_trimmed?_eq (ts : List Text) :
    ts.filterMap trimmed? = (ts.filter fun t => !isBlankText t).map trim := by
  induction ts with
  | nil => rfl
  | cons t ts ih =>
    cases hblank : isBlankText t with
    | true =>
      rw [List.filterMap_cons_none (trimmed?_eq_none_iff.mpr hblank), ih,
        List.filter_cons_of_neg (by simp [hblank])]
    | false =>
      rw [List.filterMap_cons_some (trimmed?_eq_some_iff.mpr ⟨hblank, rfl⟩), ih,
        List.filter_cons_of_pos (by simp [hblank]), List.map_cons]

namespace Request

def endpointPaths (list : Text) : List Text :=
  (Text.pieces ',' list).filter fun p => !Text.isBlankText p

def pathItem (path : Text) : Json := .object [("path".toList, .string path)]

theorem validate_pathItem (index : Nat) {path : Text} (h : Text.isBlankText path = false) :
    validate index (pathItem path) = .ok ⟨.get, Address.normalizePath (Text.trim path), none⟩ := by
  have hpath : [("path".toList, Json.string path)].lookup "path".toList = some (.string path) := rfl
  have hmethod : [("path".toList, Json.string path)].lookup "method".toList = none := rfl
  have hbody : [("path".toList, Json.string path)].lookup "body".toList = none := rfl
  have hget : Method.ofName? (rawMethod none) = some .get := Method.ofName?_name .get
  have hne : (Text.trim path).isEmpty = false := by
    rw [List.isEmpty_eq_false_iff]
    exact (Text.trim_ne_nil_iff path).mpr h
  rw [pathItem, validate]
  simp only [hpath, hmethod, hbody, hget, rawPath, hne]
  rfl

theorem ofEndpoints_eq (list : Text) : ofEndpoints list =
    if endpointPaths list = [] then .error .noEndpoints
    else .ok ((endpointPaths list).map fun p => ⟨.get, Address.normalizePath (Text.trim p),
      none⟩) := by
  have hpaths :
      (Text.pieces ',' list).filterMap Text.trimmed? = (endpointPaths list).map Text.trim :=
    Text.filterMap_trimmed?_eq _
  rw [ofEndpoints, hpaths]
  cases endpointPaths list with
  | nil => rfl
  | cons p ps => simp

theorem validateAll_endpointPaths (list : Text) :
    validateAll (.array ((endpointPaths list).map pathItem)) =
    if endpointPaths list = [] then .error .notList
    else .ok ((endpointPaths list).map fun p => ⟨.get, Address.normalizePath (Text.trim p),
      none⟩) := by
  have hvalid : mapNumbered validate 1 ((endpointPaths list).map pathItem) =
      .ok ((endpointPaths list).map fun p => ⟨.get, Address.normalizePath (Text.trim p), none⟩) :=
    mapNumbered_map_map (fun i p hp => validate_pathItem i
      (by simpa using (List.mem_filter.mp hp).2)) 1
  cases hpaths : endpointPaths list with
  | nil => rfl
  | cons p ps =>
    rw [hpaths] at hvalid
    rw [if_neg (List.cons_ne_nil p ps), ← hvalid]
    rfl

theorem ofEndpoints_eq_ok_iff (list : Text) (requests : List Request) :
    ofEndpoints list = .ok requests ↔
    validateAll (.array ((endpointPaths list).map pathItem)) = .ok requests := by
  rw [ofEndpoints_eq, validateAll_endpointPaths]
  split <;> simp

/-- A list of paths is valid exactly if the raw requests are that it is short for. Then they are the
same requests, so that they make the same program with any base address, headers and options. -/
theorem endpoints_are_requests (list : Text) :
    ((∃ requests, ofEndpoints list = .ok requests) ↔
      ∃ requests, validateAll (.array ((endpointPaths list).map pathItem)) = .ok requests) ∧
    ∀ requests requests', ofEndpoints list = .ok requests →
      validateAll (.array ((endpointPaths list).map pathItem)) = .ok requests' →
      requests = requests' ∧ ∀ timeout base headers, ∃ program,
        Program.compile timeout base (.api ⟨requests, headers⟩) = .ok program ∧
        Program.compile timeout base (.api ⟨requests', headers⟩) = .ok program := by
  refine ⟨exists_congr (ofEndpoints_eq_ok_iff list), fun requests requests' h h' => ?_⟩
  have hsame : requests = requests' := by
    rw [ofEndpoints_eq_ok_iff, h'] at h
    exact (Except.ok.inj h).symm
  subst hsame
  refine ⟨rfl, fun timeout base headers => ?_⟩
  have hcompile : Program.compile timeout base (.api ⟨requests, headers⟩) = .ok _ :=
    Program.compile_api timeout base (ne_nil_of_validateAll h')
  exact ⟨_, hcompile, hcompile⟩

end Request
end TestBench
