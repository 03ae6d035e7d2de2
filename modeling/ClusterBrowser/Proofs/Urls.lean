import ClusterBrowser.Master.Endpoint
import Mathlib.Algebra.BigOperators.Group.List.Basic
import Mathlib.Data.List.TakeDrop
import Mathlib.Tactic.SplitIfs

/-!
# Which URLs are refused

* `Url.asking`: the same URL with other parameters.
* **`Endpoint.locate_eq`**: whether a resource can be asked for depends on the length of the query alone.
* `Query.not_fits`: a value may be too long for any query.
-/

namespace ClusterBrowser

theorem Url.ofParts_query {scheme authority path : List Char} {query : Option (List Char)} {u : Url}
    (h : Url.ofParts scheme authority path query = .ok u) (query' : Option (List Char)) :
    Url.ofParts scheme authority path query' = .ok { u with query := query'.map (Percent.encodeBy Url.staysInQuery) } := by
  unfold Url.ofParts at h ⊢
  revert h
  dsimp only
  rcases Host.encode? (Url.splitHost (Url.splitUser authority).2).1 with _ | host
  · exact fun h => nomatch h
  simp only [bind, Except.bind]
  rcases Url.readPort scheme _ with e | port
  · exact fun h => nomatch h
  dsimp only
  split_ifs
  · exact fun h => nomatch h
  · exact fun h => nomatch h
  all_goals
    intro h
    obtain rfl := Except.ok.inj h
    rfl

/-- The query of some parameters, if there are any. -/
def Query.ofParameters (parameters : List (String × String)) : Option (List Char) :=
  if parameters.isEmpty then none else some (Query.encode parameters)

theorem Query.getD_ofParameters (parameters : List (String × String)) :
    (ofParameters parameters).getD [] = encode parameters := by
  cases parameters <;> rfl

/-- The URL with other parameters, however long. -/
def Url.asking (u : Url) (parameters : List (String × String)) : Url :=
  { u with query := (Query.ofParameters parameters).map (Percent.encodeBy Url.staysInQuery) }

theorem Url.withParameters_eq {u v : Url} {parameters : List (String × String)} (h : u.withParameters parameters = .ok v)
    (others : List (String × String)) :
    u.withParameters others = if fits (Query.encode others) then .ok (v.asking others) else .error .tooLong := by
  rw [withParameters, ← Query.ofParameters, withPathAndQuery, Query.getD_ofParameters] at h ⊢
  split_ifs at h with hfits
  simp only [Bool.and_eq_true] at hfits
  simp only [hfits.1, Bool.and_self, Bool.true_and, ofParts_query h]
  rfl

/-- **Whether a resource can be asked for depends on the length of the query alone.** -/
theorem Endpoint.locate_eq {e : Endpoint} {resource : String} {parameters : List (String × String)} {url : Url}
    (h : e.locate resource (some parameters) = .ok url) (others : List (String × String)) :
    e.locate resource (some others) =
      if Url.fits (Query.encode others) then .ok (url.asking others) else .error .tooLong := by
  rw [locate] at h ⊢
  simp only [bind, Except.bind] at h ⊢
  rcases hr : e.base.resolve resource.toList with err | u
  · rw [hr] at h
    exact nomatch h
  rcases hu : u.withParameters parameters with err | v
  · simp only [hr, hu] at h
    exact nomatch h
  rcases hv : v.checkHost with err | _
  · simp only [hr, hu, hv] at h
    exact nomatch h
  obtain rfl : v = url := by
    simp only [hr, hu, hv] at h
    exact Except.ok.inj h
  have hhost : (v.asking others).checkHost = .ok () := hv
  dsimp only
  rw [Url.withParameters_eq hu others]
  split_ifs
  · simp only [hhost]
    rfl
  · rfl

theorem Percent.encodeChar_ne_nil (safe : Char → Bool) (c : Char) : encodeChar safe c ≠ [] := by
  rw [encodeChar]
  split_ifs
  · exact List.cons_ne_nil _ _
  · rcases hbytes : String.utf8EncodeChar c with _ | ⟨b, rest⟩
    · exact absurd hbytes String.utf8EncodeChar_ne_nil
    · exact List.cons_ne_nil _ _

theorem Query.length_le_encodePart (s : String) : s.toList.length ≤ (encodePart s).length := by
  rw [encodePart, List.length_flatMap, ← List.length_map]
  refine List.length_le_sum_of_one_le _ fun n hn => ?_
  obtain ⟨c, -, rfl⟩ := List.mem_map.mp hn
  rw [Nat.one_le_iff_ne_zero, Ne, List.length_eq_zero_iff]
  split_ifs
  · exact not_false
  · exact Percent.encodeChar_ne_nil _ _

theorem Query.not_fits {name value : String} (others : List (String × String)) (h : Url.maxLength < value.toList.length) :
    Url.fits (encode ((name, value) :: others)) = false := by
  have hvalue := length_le_encodePart value
  rw [Url.fits, decide_eq_false_iff_not, encode, List.map_cons]
  rcases others with _ | ⟨other, others⟩
  · rw [List.map_nil, List.intercalate_singleton, List.length_append, List.length_cons]
    omega
  · rw [List.map_cons, List.intercalate_cons_cons]
    simp only [List.length_append, List.length_cons]
    omega

end ClusterBrowser
