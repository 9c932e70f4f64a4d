import ControlPlane.Proofs.Attribute.Declaration
import ControlPlane.Proofs.Data.Gathered
import ControlPlane.Resource

namespace ControlPlane

namespace Schema

variable {s t : Schema} {f : Field} {location : Location} {key name first last : String}
  {attrs : Dict Value} {v : Value}

theorem lookup?_of_field? (h : s.field? name = some f) : s.lookup? name = some f := by
  rw [lookup?, h]
  rfl

theorem route_of_field? (h : s.field? name = some f) : s.route name = (f.location, f.wire) := by
  rw [route, lookup?_of_field? h]

theorem route_of_unknown (h : s.lookup? key = none) : s.route key = (.body, key) := by
  rw [route, h]

theorem get?_gather : (s.gather location attrs).get? key = some v ↔
    ∃ name, attrs.get? name = some v ∧ s.route name = (location, key) ∧
      ∀ other w, attrs.get? other = some w → s.route other = (location, key) → other ≤ name := by
  have hpick : ∀ name (w u : Value),
      (if (s.route name).1 = location then some ((s.route name).2, w) else none) = some (key, u) ↔
        s.route name = (location, key) ∧ w = u := by
    intro name w u
    rw [Option.ite_none_right_eq_some, Option.some.injEq, Prod.mk.injEq, Prod.ext_iff, and_assoc]
  refine Dict.get?_gathered.trans ?_
  simp only [hpick]
  constructor
  · rintro ⟨name, w, hw, ⟨hroute, rfl⟩, hlast⟩
    exact ⟨name, hw, hroute, fun other u hu hother => hlast other u hu u ⟨hother, rfl⟩⟩
  · rintro ⟨name, hv, hroute, hlast⟩
    exact ⟨name, v, hv, ⟨hroute, rfl⟩, fun other u hu _ hother => hlast other u hu hother.1⟩

theorem get?_gather_of_sole (hroute : s.route name = (location, key))
    (hsole : ∀ other, attrs.contains other = true → s.route other = (location, key) → other = name) :
    (s.gather location attrs).get? key = attrs.get? name := by
  refine Option.ext fun v => get?_gather.trans ?_
  constructor
  · rintro ⟨other, hv, hother, -⟩
    rwa [← hsole other (Dict.contains_of_get? hv) hother]
  · intro hv
    refine ⟨name, hv, hroute, fun other w hw hother => ?_⟩
    obtain rfl := hsole other (Dict.contains_of_get? hw) hother
    exact String.le_refl other

end Schema

theorem Resource.stored?_build (s : Schema) (attrs : Dict Value) (synchronized : Bool) (f : Field) :
    (build s attrs synchronized).stored? f = (s.gather f.location attrs).get? f.wire := by
  rw [stored?]
  cases f.location <;> rfl

end ControlPlane
