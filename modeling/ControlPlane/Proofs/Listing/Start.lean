import ControlPlane.Listing
import ControlPlane.Proofs.Data.Dict

namespace ControlPlane.Listing

def askedLimit? (s : Schema) (params : Dict Value) : Option Nat :=
  ((queryParams s params).get? "limit").bind pageLimit?

def askedMarker? (s : Schema) (params : Dict Value) : Option String :=
  ((queryParams s params).get? "marker").bind Value.text?

def filterParams (s : Schema) (params : Dict Value) : Dict Value :=
  ((queryParams s params).erase "limit").erase "marker"

theorem start_eq_ok_iff {s : Schema} {params : Dict Value} {paginated : Bool} {l : Listing} :
    start s params paginated = .ok l ↔
      s.permits .list = true ∧ s.collectionPath (uriParams s params) = .ok l.path ∧
      s.query.transpose (filterParams s params) = .ok l.filters ∧
      l = { schema := s, path := l.path, filters := l.filters, uri := uriParams s params,
            paginated := paginated, limit := askedLimit? s params,
            marker := askedMarker? s params } := by
  constructor
  · intro h
    simp only [start, Schema.require, bind, Except.bind] at h
    split at h
    · simp at h
    · rename_i hallow
      split at hallow
      · rename_i hp
        split at h
        · simp at h
        · rename_i path hpath
          split at h
          · simp at h
          · rename_i filters hfilters
            simp only [Except.ok.injEq] at h
            subst h
            exact ⟨hp, hpath, hfilters, rfl⟩
      · simp at hallow
  · rintro ⟨hp, hpath, hfilters, hl⟩
    rw [hl]
    change s.query.transpose (((queryParams s params).erase "limit").erase "marker") = _ at hfilters
    simp only [start, Schema.require, bind, Except.bind, hp, hpath, hfilters, if_true]
    rfl

theorem filterParams_eq_empty {s : Schema} {params : Dict Value}
    (h : ∀ name value, (queryParams s params).get? name = some value →
      name = "limit" ∨ name = "marker") : filterParams s params = .empty := by
  refine Dict.ext_get? fun name => ?_
  rw [filterParams, Dict.get?_erase, Dict.get?_erase, Dict.get?_empty]
  by_cases hm : "marker" = name
  · rw [if_pos hm]
  · by_cases hl : "limit" = name
    · rw [if_neg hm, if_pos hl]
    · rw [if_neg hm, if_neg hl]
      cases hv : (queryParams s params).get? name with
      | none => rfl
      | some value =>
          rcases h name value hv with rfl | rfl
          · exact absurd rfl hl
          · exact absurd rfl hm

end ControlPlane.Listing
