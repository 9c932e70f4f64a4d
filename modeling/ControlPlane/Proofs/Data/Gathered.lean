import ControlPlane.Proofs.Data.Dict
import Mathlib.Data.List.Induction

namespace ControlPlane.Dict

variable {α β : Type} {d : Dict α} {key : String} {v : β} {pick : String × α → Option (String × β)}

theorem getLast?_picked {l : List (String × α)} : l.Pairwise (fun a b => a.1 < b.1) →
    (((l.filterMap pick).filter (·.1 == key)).getLast?.map (·.2) = some v ↔
      ∃ e ∈ l, pick e = some (key, v) ∧ ∀ e' ∈ l, ∀ w, pick e' = some (key, w) → e'.1 ≤ e.1) := by
  refine List.reverseRecOn l (by simp) fun l last ih ho => ?_
  obtain ⟨hl, -, hlast⟩ := List.pairwise_append.mp ho
  have hbelow : ∀ e ∈ l, e.1 < last.1 := fun e he => hlast e he last (List.mem_singleton.mpr rfl)
  by_cases hp : ∃ w, pick last = some (key, w)
  · obtain ⟨w, hw⟩ := hp
    rw [List.filterMap_append, List.filter_append, List.filterMap_cons_some hw, List.filterMap_nil,
      List.filter_cons_of_pos (by simp), List.filter_nil, List.getLast?_concat, Option.map_some,
      Option.some.injEq]
    constructor
    · rintro rfl
      refine ⟨last, by simp, hw, fun e he u _ => ?_⟩
      rcases List.mem_append.mp he with he | he
      · exact String.not_lt.mp (String.lt_asymm (hbelow e he))
      · obtain rfl := List.mem_singleton.mp he
        exact String.le_refl _
    · rintro ⟨e, he, hpick, hmax⟩
      rcases List.mem_append.mp he with he | he
      · exact absurd (hbelow e he) (String.not_lt.mpr (hmax last (by simp) w hw))
      · rw [List.mem_singleton.mp he, hw] at hpick
        simpa using hpick
  · have hnot : ∀ w, pick last ≠ some (key, w) := not_exists.mp hp
    have hskip : ([last].filterMap pick).filter (·.1 == key) = [] := by
      rw [List.filter_eq_nil_iff]
      intro pair hpair hkey
      obtain ⟨e, he, hpick⟩ := List.mem_filterMap.mp hpair
      rw [List.mem_singleton.mp he] at hpick
      exact hnot pair.2 (by rw [hpick, ← eq_of_beq hkey])
    rw [List.filterMap_append, List.filter_append, hskip, List.append_nil, ih hl]
    constructor
    · rintro ⟨e, he, hpick, hmax⟩
      refine ⟨e, by simp [he], hpick, fun e' he' w hw => ?_⟩
      rcases List.mem_append.mp he' with he' | he'
      · exact hmax e' he' w hw
      · rw [List.mem_singleton.mp he'] at hw
        exact absurd hw (hnot w)
    · rintro ⟨e, he, hpick, hmax⟩
      rcases List.mem_append.mp he with he | he
      · exact ⟨e, he, hpick, fun e' he' => hmax e' (by simp [he'])⟩
      · rw [List.mem_singleton.mp he] at hpick
        exact absurd hpick (hnot v)

theorem get?_gathered : (ofList (d.entries.filterMap pick)).get? key = some v ↔
    ∃ name w, d.get? name = some w ∧ pick (name, w) = some (key, v) ∧
      ∀ other u, d.get? other = some u → ∀ v', pick (other, u) = some (key, v') → other ≤ name := by
  rw [get?_ofList, getLast?_picked d.ordered]
  simp only [Prod.exists, Prod.forall, mem_entries_iff]

end ControlPlane.Dict
