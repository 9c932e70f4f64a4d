import Mathlib
import ControlPlane.Proofs.Reference
import ControlPlane.Service.Volume

namespace ControlPlane

structure Schema.NamesBody (s : Schema) (attrs : Dict Value) : Prop where
  declared : ∀ name, attrs.contains name = true → ∃ f, s.field? name = some f ∧ f.location = .body
  apart : ∀ name other f g, attrs.contains name = true → attrs.contains other = true →
    s.field? name = some f → s.field? other = some g → f.wire = g.wire → name = other

namespace Resource

variable {r r' : Resource} {name : String} {v : Value} {attrs : Dict Value} {es : List Edit}
  {response : Response}

def Holds (r : Resource) (name : String) (v : Value) : Prop :=
  ∃ f w stored, r.schema.lookup? name = some f ∧ f.write v = .ok w ∧
    r.stored? f = some stored ∧ stored.same w = true

theorem holds_of_set (h : r.set name v = .ok r') : r'.Holds name v := by
  have hschema : r'.schema = r.schema := schema_edit (e := .set name v) h
  rw [set] at h
  cases hf : r.schema.lookup? name with
  | none => simp [hf] at h
  | some f =>
      cases hw : f.write v with
      | error e => simp [hf, hw] at h
      | ok w =>
          simp only [hf, hw, Except.ok.injEq] at h
          obtain ⟨stored, hstored, hsame⟩ := Component.get?_set (r.component f.location) f.wire w
          refine ⟨f, w, stored, by rw [hschema, hf], hw, ?_, hsame⟩
          rw [← h, stored?, component_withComponent, if_pos rfl, hstored]

theorem set_eq_self_iff : r.set name v = .ok r ↔ r.Holds name v := by
  refine ⟨holds_of_set, ?_⟩
  rintro ⟨f, w, stored, hf, hw, hstored, hsame⟩
  rw [set, hf]
  dsimp only
  rw [hw, Except.ok.injEq, withComponent_eq_iff]
  exact (Component.set_eq_iff hstored).mpr hsame

theorem update_of_holds (h : ∀ name v, attrs.get? name = some v → r.Holds name v) :
    r.update attrs = (.ok (), r) := by
  have hassign : ∀ entries : List (String × Value), (∀ e ∈ entries, r.Holds e.1 e.2) →
      r.assign entries = (.ok (), r) := by
    intro entries hall
    induction entries with
    | nil => rfl
    | cons e rest ih =>
        rw [assign, set_eq_self_iff.mpr (hall e (List.mem_cons_self ..))]
        exact ih fun e he => hall e (List.mem_cons_of_mem _ he)
  exact hassign _ fun e he => h e.1 e.2 (Dict.mem_entries_iff.mp he)

theorem holds_of_edits_elsewhere (hr : r.Holds name v) (h : r.edits es = .ok r')
    (hne : ∀ e ∈ es, r.schema.route e.name ≠ r.schema.route name) : r'.Holds name v := by
  obtain ⟨f, w, stored, hf, hw, hstored, hsame⟩ := hr
  rw [route_eq hf] at hne
  refine ⟨f, w, stored, by rw [schema_edits h, hf], hw, ?_, hsame⟩
  exact (get?_edits_elsewhere h hne).trans hstored

theorem route_of_namesBody {s : Schema} (h : s.NamesBody attrs) (hname : attrs.contains name = true) :
    ∃ f, s.field? name = some f ∧ s.route name = (.body, f.wire) := by
  obtain ⟨f, hf, hbody⟩ := h.declared name hname
  exact ⟨f, hf, by rw [Schema.route_of_field? hf, hbody]⟩

theorem contains_of_mem {e : String × Value} (h : e ∈ attrs.entries) : attrs.contains e.1 = true :=
  Dict.contains_of_get? (Dict.mem_entries_iff.mp h)

theorem route_ne_of_namesBody {s : Schema} (h : s.NamesBody attrs) {other : String}
    (hname : attrs.contains name = true) (hother : attrs.contains other = true)
    (hne : other ≠ name) : s.route other ≠ s.route name := by
  obtain ⟨f, hf, hroute⟩ := route_of_namesBody h hname
  obtain ⟨g, hg, hroute'⟩ := route_of_namesBody h hother
  rw [hroute, hroute']
  exact fun he => hne (h.apart other name g f hother hname hg hf (Prod.mk.inj he).2)

theorem holds_of_update (hnames : r.schema.NamesBody attrs) (h : r.update attrs = (.ok (), r'))
    (hv : attrs.get? name = some v) : r'.Holds name v := by
  have hmem := Dict.mem_entries_iff.mpr hv
  obtain ⟨earlier, later, hsplit, -, hlater⟩ := Dict.entries_split hmem
  have hedits := edits_of_update h
  rw [hsplit, List.map_append, List.map_cons] at hedits
  obtain ⟨before, hbefore, hrest⟩ := edits_append_eq_ok hedits
  obtain ⟨given, hgiven, hafter⟩ := edits_cons_eq_ok hrest
  have hschema : given.schema = r.schema := (schema_edit hgiven).trans (schema_edits hbefore)
  refine holds_of_edits_elsewhere (holds_of_set hgiven) hafter fun e he => ?_
  obtain ⟨pair, hpair, rfl⟩ := List.mem_map.mp he
  rw [hschema]
  exact route_ne_of_namesBody hnames (contains_of_mem hmem)
    (contains_of_mem (hsplit ▸ by simp [hpair])) (hlater pair hpair)

def replied? (r : Resource) (response : Response) (key : String) : Option Value :=
  ((response.body.map r.unwrap).bind Value.record?).bind (·.get? key)

def Confirms (r : Resource) (attrs : Dict Value) (response : Response) : Prop :=
  ∀ name f u, attrs.contains name = true → r.schema.field? name = some f →
    r.replied? response f.wire = some u → ∃ held, r.stored? f = some held ∧ u.same held = true

theorem get?_absorbBody (r : Resource) (response : Response) (key : String) :
    (r.absorbBody response).get? key = (r.replied? response key).or (r.body.get? key) := by
  rw [absorbBody, replied?]
  cases (response.body.map r.unwrap).bind Value.record? with
  | none => rfl
  | some fields => exact Dict.get?_overlay

theorem holds_absorb (hnames : r.schema.NamesBody attrs) (hreply : r.Confirms attrs response)
    (hname : attrs.contains name = true) (hr : r.Holds name v) :
    (r.absorb .commit response).Holds name v := by
  obtain ⟨f, w, stored, hf, hw, hstored, hsame⟩ := hr
  obtain ⟨g, hg, hbody⟩ := hnames.declared name hname
  obtain rfl : g = f := Option.some.inj ((Schema.lookup?_of_field? hg).symm.trans hf)
  have hget : (r.absorb .commit response).stored? g =
      (r.replied? response g.wire).or (r.stored? g) := by
    rw [stored?, stored?, hbody]
    exact get?_absorbBody r response g.wire
  cases hu : r.replied? response g.wire with
  | none => exact ⟨g, w, stored, hf, hw, by rw [hget, hu, Option.none_or, hstored], hsame⟩
  | some u =>
      obtain ⟨held, hheld, husame⟩ := hreply name g u hname hg hu
      rw [hstored, Option.some.injEq] at hheld
      refine ⟨g, w, u, hf, hw, by rw [hget, hu]; rfl, ?_⟩
      exact Value.same_trans u (hheld ▸ husame) hsame

theorem not_pending_absorb (r : Resource) (response : Response) :
    ¬(r.absorb .commit response).Pending :=
  not_pending_of_clean (dirty_absorbBody r response) rfl

end Resource

namespace Reference

variable {σ : Type} {s : Session σ} {schema : Schema} {ref : Reference} {r r' : Resource}
  {attrs : Dict Value} {c c' : Conversation σ}

theorem update_of_holds (h : ∀ name v, attrs.get? name = some v → r.Holds name v) (hp : ¬r.Pending)
    (d : Conversation σ) : (Reference.known r).update s schema attrs d = (.ok r, d) := by
  have hresolve : (Reference.known r).resolve schema attrs = .ok r := by
    rw [resolve_of_standsFor (.known r), Resource.update_of_holds h]
    rfl
  rw [update, withResource, hresolve]
  dsimp only
  rw [Resource.perform, Resource.plan_of_idle fun hw => hp (hw rfl)]

theorem update_eq_ok (h : ref.update s schema attrs c = (.ok r', c')) :
    ∃ held, ref.resolve schema attrs = .ok held ∧
      (held.plan .commit = .ok none ∧ r' = held ∨ ∃ q response, held.plan .commit = .ok (some q) ∧
        (s.request q c).1 = .ok response ∧ r' = held.absorb .commit response) := by
  rw [update, withResource] at h
  cases hresolve : ref.resolve schema attrs with
  | error e => simp [hresolve] at h
  | ok held =>
      simp only [hresolve, Resource.perform] at h
      refine ⟨held, rfl, ?_⟩
      cases hplan : held.plan .commit with
      | error e => simp [hplan] at h
      | ok request? =>
          cases request? with
          | none =>
              simp only [hplan, Prod.mk.injEq, Except.ok.injEq] at h
              exact .inl ⟨rfl, h.1.symm⟩
          | some q =>
              rcases hq : s.request q c with ⟨e | response, d⟩
              · simp [hplan, hq] at h
              · simp only [hplan, hq, Prod.mk.injEq, Except.ok.injEq] at h
                exact .inr ⟨q, response, rfl, by rw [hq], h.1.symm⟩

theorem update_again_is_silent (h : ref.StandsFor schema r) (hs : r.schema = schema)
    (hnames : schema.NamesBody attrs) (hupdate : ref.update s schema attrs c = (.ok r', c'))
    (hreply : ∀ held q response, ref.resolve schema attrs = .ok held →
      held.plan .commit = .ok (some q) → (s.request q c).1 = .ok response →
      held.Confirms attrs response) (d : Conversation σ) :
    (Reference.known r').update s schema attrs d = (.ok r', d) := by
  subst hs
  obtain ⟨held, hresolve, hcases⟩ := update_eq_ok hupdate
  have hassigned := resolve_eq_ok h hresolve
  have hschema : held.schema = r.schema := Resource.schema_edits (Resource.edits_of_update hassigned)
  have hholds : ∀ name v, attrs.get? name = some v → held.Holds name v := fun _ _ =>
    Resource.holds_of_update hnames hassigned
  rcases hcases with ⟨hplan, rfl⟩ | ⟨q, response, hplan, hq, rfl⟩
  · refine update_of_holds hholds (fun hp => ?_) d
    exact Resource.plan_eq_ok_none_iff.mp hplan fun _ => hp
  · -- the reply settles every change, and keeps what was stored or says the same
    refine update_of_holds (fun name v hv => ?_) (Resource.not_pending_absorb held response) d
    have hname : attrs.contains name = true := Dict.contains_of_get? hv
    exact Resource.holds_absorb (hschema ▸ hnames) (hreply held q response hresolve hplan hq) hname
      (hholds name v hv)

def growth : Dict Value := .ofList [("is_bootable", .bool true), ("size", .text " 3")]

def smallVolume : Resource :=
  { schema := Volume.schema
    body := { values := .ofList [("id", .text "v1"), ("size", .integer 1)]
              dirty := .ofList [("description", ())] } }

def largeVolume : Resource :=
  { smallVolume with
    body := { values := .ofList [("bootable", .text "true"), ("id", .text "v1"), ("size", .integer 3)]
              dirty := .ofList [("bootable", ()), ("description", ()), ("size", ())] } }

def grownReply : Response :=
  { status := 200
    body := some (.record [("volume", .record [("bootable", .text "true"), ("id", .text "v1"),
      ("status", .text "extending")])]) }

def growing : Conversation (List Reply) := { peer := [.success grownReply] }

theorem mem_growth {name : String} (h : growth.contains name = true) :
    name = "is_bootable" ∨ name = "size" := by
  have hkeys : growth.keys = ["is_bootable", "size"] := by cbv
  simpa [hkeys] using Dict.mem_keys_iff.mpr h

theorem namesBody_growth : Volume.schema.NamesBody growth where
  declared name h := by
    rcases mem_growth h with rfl | rfl <;> exact ⟨_, by cbv, rfl⟩
  apart name other f g h h' hf hg hwire := by
    have hbootable : (Volume.schema.field? "is_bootable").map (·.wire) = some "bootable" := by cbv
    have hsize : (Volume.schema.field? "size").map (·.wire) = some "size" := by cbv
    rcases mem_growth h with rfl | rfl <;> rcases mem_growth h' with rfl | rfl
    · rfl
    · simp only [hf, hg, Option.map_some, Option.some.injEq] at hbootable hsize
      exact absurd (hbootable.symm.trans (hwire.trans hsize)) (by decide)
    · simp only [hf, hg, Option.map_some, Option.some.injEq] at hbootable hsize
      exact absurd (hbootable.symm.trans (hwire.symm.trans hsize)) (by decide)
    · rfl

theorem confirms_grownReply : largeVolume.Confirms growth grownReply := by
  intro name f u hname hf hu
  rcases mem_growth hname with rfl | rfl
  · have hwire : f = (Field.renamed "is_bootable" "bootable").as (.format .boolText) :=
      Option.some.inj (hf.symm.trans (by cbv))
    subst hwire
    have hword : u = .text "true" := Option.some.inj (hu.symm.trans (by cbv))
    exact ⟨.text "true", by cbv, by rw [hword]; rfl⟩
  · have hwire : f = (Field.plain "size").as .integer := Option.some.inj (hf.symm.trans (by cbv))
    subst hwire
    have hnone : largeVolume.replied? grownReply "size" = none := by cbv
    exact absurd (hu.symm.trans hnone) (by simp)

theorem growing_again_is_silent :
    StandsFor Volume.schema (.known smallVolume) smallVolume ∧
    smallVolume.schema = Volume.schema ∧ Volume.schema.NamesBody growth ∧
    (∃ c', (Reference.known smallVolume).update .replay Volume.schema growth growing =
      (.ok (largeVolume.absorb .commit grownReply), c')) ∧
    (∀ held q response, (Reference.known smallVolume).resolve Volume.schema growth = .ok held →
      held.plan .commit = .ok (some q) → (Session.replay.request q growing).1 = .ok response →
      held.Confirms growth response) ∧
    ∀ d, (Reference.known (largeVolume.absorb .commit grownReply)).update .replay Volume.schema growth d =
      (.ok (largeVolume.absorb .commit grownReply), d) := by
  have hresolve : (Reference.known smallVolume).resolve Volume.schema growth = .ok largeVolume := by cbv
  have hupdate : (Reference.known smallVolume).update .replay Volume.schema growth growing =
      (.ok (largeVolume.absorb .commit grownReply),
        ((Reference.known smallVolume).update .replay Volume.schema growth growing).2) := by
    cbv
  have hreply : ∀ held q response,
      (Reference.known smallVolume).resolve Volume.schema growth = .ok held →
      held.plan .commit = .ok (some q) → (Session.replay.request q growing).1 = .ok response →
      held.Confirms growth response := by
    intro held q response hheld _ hq
    obtain rfl : largeVolume = held := Except.ok.inj (hresolve.symm.trans hheld)
    obtain rfl : grownReply = response := Except.ok.inj hq
    exact confirms_grownReply
  exact ⟨.known smallVolume, rfl, namesBody_growth, ⟨_, hupdate⟩, hreply,
    update_again_is_silent (.known smallVolume) rfl namesBody_growth hupdate hreply⟩

end Reference

end ControlPlane
