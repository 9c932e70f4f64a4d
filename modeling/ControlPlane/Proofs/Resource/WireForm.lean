import Mathlib
import ControlPlane.Proofs.Reference
import ControlPlane.Proofs.Resource.Synchronization

namespace ControlPlane

structure Field.Formatted (f : Field) (format : Format) : Prop where
  inBody : f.location = .body
  coerced : f.coercion = some (.format format)
  bare : f.fallback = .null

theorem Format.encode_text {format : Format} {v w : Value} (h : format.encode v = .ok w) :
    ∃ text, w = .text text := by
  cases format with
  | boolText =>
      rw [encode] at h
      cases hb : readBool v with
      | error e => simp [hb, Except.map] at h
      | ok b =>
          rw [hb] at h
          exact ⟨_, (Except.ok.inj h).symm⟩
  | timestamp =>
      rw [encode, readTimestamp] at h
      split at h
      · exact ⟨_, (Except.ok.inj h).symm⟩
      · simp at h

def Format.OnWire (format : Format) (v : Value) : Prop := format.encode v = .ok v

def Value.told? (key : String) : Value → Option Value
  | .list steps =>
      (steps.find? fun step => step.member? "path" == some (.text ("/" ++ key))).bind
        (·.member? "value")
  | v => v.member? key

def Dict.assignments (attrs : Dict Value) : List Edit := attrs.entries.map fun e => .set e.1 e.2

def Schema.Settles (s : Schema) (e : Edit) (es : List Edit) (place : Location × String) : Prop :=
  ∃ earlier later, es = earlier ++ e :: later ∧ ∀ e' ∈ later, s.route e'.name ≠ place

variable {σ : Type} {schema : Schema} {f : Field} {format : Format} {key : String} {v w x : Value}
  {attrs : Dict Value} {es : List Edit}

theorem Field.Formatted.write_eq (h : f.Formatted format) (hv : v ≠ .null) :
    f.write v = format.encode v :=
  write_format h.coerced hv (by rw [h.bare]; exact hv)

theorem Schema.gather_eq (schema : Schema) (location : Location) (attrs : Dict Value) :
    schema.gather location attrs = .ofList (attrs.entries.filterMap fun e =>
      if (schema.route e.1).1 = location then some ((schema.route e.1).2, e.2) else none) := rfl

theorem Schema.get?_gather_of_settles {location : Location} {wire : String}
    (hroute : schema.route key = (location, wire))
    (h : schema.Settles (.set key v) attrs.assignments (location, wire)) :
    (schema.gather location attrs).get? wire = some v := by
  obtain ⟨earlier, later, hsplit, hlater⟩ := h
  obtain ⟨before, rest, hentries, -, hrest⟩ := List.map_eq_append_iff.mp hsplit
  obtain ⟨⟨name, value⟩, after, rfl, hgiven, hafter⟩ := List.map_eq_cons_iff.mp hrest
  obtain ⟨rfl, rfl⟩ : name = key ∧ value = v := by simpa using hgiven
  have hnone : (after.filterMap fun e => if (schema.route e.1).1 = location then
      some ((schema.route e.1).2, e.2) else none).filter (·.1 == wire) = [] := by
    rw [List.filter_eq_nil_iff]
    intro pair hpair hwire
    obtain ⟨e, he, hpick⟩ := List.mem_filterMap.mp hpair
    obtain ⟨hgroup, hsome⟩ := Option.ite_none_right_eq_some.mp hpick
    obtain rfl : _ = pair := Option.some.inj hsome
    exact hlater (.set e.1 e.2) (hafter ▸ List.mem_map_of_mem he)
      (Prod.ext hgroup (eq_of_beq hwire))
  rw [gather_eq, Dict.get?_ofList, hentries, List.filterMap_append,
    List.filterMap_cons_some (b := (wire, value)) (by rw [hroute, if_pos rfl]), List.filter_append,
    List.filter_cons_of_pos (by simp), hnone, List.getLast?_concat]
  rfl

namespace Resource

variable {s : Session σ} {c : Conversation σ} {r r' : Resource} {q : Request} {op : Operation}
  {location : Location}

def tells? (r : Resource) (q : Request) (key : String) : Option Value :=
  q.body.bind fun body => (r.unwrap body).told? key

def SendsAs (r : Resource) (key : String) (value : Value) : Prop :=
  ∀ op q, op = .create ∨ op = .commit → r.plan op = .ok (some q) → ∀ x,
    r.tells? q key = some x ↔ x = value ∧ r.isDirtyAt .body key ∧ ¬r.Withheld op .body key

theorem find?_map_of_key {α : Type} {g : String → α} {p : α → Bool}
    (hp : ∀ k, p (g k) = (k == key)) (keys : List String) :
    (keys.map g).find? p = if key ∈ keys then some (g key) else none := by
  induction keys with
  | nil => rfl
  | cons k rest ih =>
      rw [List.map_cons, List.find?_cons, hp, ih]
      by_cases hk : k = key
      · simp [hk]
      · rw [beq_eq_false_iff_ne.mpr hk]
        simp [Ne.symm hk]

theorem told?_changes (hw : r.body.get? key = some w) :
    (Value.ofDict r.body.changes).told? key =
      if r.body.dirty.contains key then some w else none := by
  change r.body.changes.get? key = _
  rw [Component.get?_changes, hw]
  rfl

theorem told?_updateAbout (hw : r.body.get? key = some w) (keys : List String)
    (style : UpdateStyle) :
    (r.unwrap (r.updateAbout keys style)).told? key = if key ∈ keys then some w else none := by
  have hmembers : (r.unwrap (r.envelope (keys.map r.memberAt))).told? key =
      if key ∈ keys then some w else none := by
    rw [unwrap_envelope]
    change (((keys.map r.memberAt).find? fun e => e.1 == key).map (·.2)) = _
    rw [find?_map_of_key fun k => rfl]
    split
    · simp [memberAt, hw]
    · rfl
  cases style with
  | put => exact hmembers
  | patchMerge => exact hmembers
  | patchJson =>
      have hpath : ∀ k, ((r.stepAt k).member? "path" == some (.text ("/" ++ key))) =
          (k == key) := by
        intro k
        simp [path_stepAt]
      rw [updateAbout, unwrap_list, Value.told?, find?_map_of_key hpath]
      split
      · simp [stepAt, hw, Value.member?]
      · rfl

theorem sendsAs_of_stored (hw : r.body.get? key = some w) : r.SendsAs key w := by
  intro op q hop hplan x
  obtain ⟨-, uri, -, rfl⟩ := plan_eq_ok_some hplan
  rcases hop with rfl | rfl
  · have hnot : ¬r.Withheld .create .body key := fun h => absurd h.1 (by simp)
    change (r.unwrap (r.wrap true r.body.changes)).told? key = some x ↔ _
    rw [unwrap_wrap, told?_changes hw, Option.ite_none_right_eq_some, Option.some.injEq]
    exact ⟨fun h => ⟨h.2.symm, h.1, hnot⟩, fun h => ⟨h.2.1, h.1.symm⟩⟩
  · change (r.unwrap r.updateBody).told? key = some x ↔ _
    rw [updateBody_eq, told?_updateAbout hw, Option.ite_none_right_eq_some, mem_keys_updates,
      Option.some.injEq]
    exact ⟨fun h => ⟨h.2.symm, h.1.1, fun hw => h.1.2 hw.2.2⟩,
      fun h => ⟨⟨h.2.1, fun hk => h.2.2 ⟨rfl, rfl, hk⟩⟩, h.1.symm⟩⟩

theorem isDirtyAt_edits (h : r.edits es = .ok r') (hd : r.isDirtyAt location key) :
    r'.isDirtyAt location key :=
  kept_edits (P := fun c => c.dirty.contains key = true)
    ⟨fun _ _ _ hc => Component.dirty_set_iff.mpr (.inl hc),
      fun _ _ hc => Component.dirty_remove_iff.mpr (.inl hc)⟩ h location hd

theorem isDirtyAt_of_changed (h : r.edits es = .ok r')
    (hne : (r'.component location).get? key ≠ (r.component location).get? key) :
    r'.isDirtyAt location key :=
  kept_edits (kept_deltaFrom (r.component location).values) h location
    (fun _ hne => absurd rfl hne) key hne

structure SendsOrHas (r r' : Resource) (key : String) (value : Value) : Prop where
  sends : r'.SendsAs key value
  kept : ¬r'.isDirtyAt .body key → ¬r.isDirtyAt .body key ∧ r.body.get? key = some value

theorem sendsOrHas_of_settles (hf : r.schema.lookup? key = some f) (hform : f.Formatted format)
    (hw : f.write v = .ok w) (htext : ∃ text, w = .text text) (h : r.edits es = .ok r')
    (hlast : r.schema.Settles (.set key v) es (.body, f.wire)) : SendsOrHas r r' f.wire w := by
  obtain ⟨text, rfl⟩ := htext
  obtain ⟨earlier, later, rfl, hlater⟩ := hlast
  have hstored : r'.body.get? f.wire = some (.text text) := by
    have := stored_of_last_set hf hw h (by rw [hform.inBody]; exact hlater)
    rwa [stored?, hform.inBody] at this
  refine ⟨sendsAs_of_stored hstored, fun hd => ⟨fun hr => hd (isDirtyAt_edits h hr), ?_⟩⟩
  apply Classical.byContradiction
  intro hne
  exact hd (isDirtyAt_of_changed h fun he => hne (he.symm.trans hstored))

theorem isDirtyAt_new (h : (schema.gather .body attrs).get? key = some v) :
    (new schema attrs).isDirtyAt .body key := by
  change ((schema.gather .body attrs).map fun _ _ => ()).contains key = true
  rw [Dict.contains_eq_isSome, Dict.get?_map, h]
  rfl

theorem sendsAs_of_made (hroute : schema.route key = (.body, f.wire))
    (hlast : schema.Settles (.set key v) attrs.assignments (.body, f.wire))
    (h : (new schema attrs).edits es = .ok r')
    (helse : ∀ e ∈ es, schema.route e.name ≠ (.body, f.wire)) :
    r'.SendsAs f.wire v ∧ r'.isDirtyAt .body f.wire := by
  have hgathered := Schema.get?_gather_of_settles hroute hlast
  have hkept : (r'.component .body).get? f.wire = ((new schema attrs).component .body).get? f.wire :=
    get?_edits_elsewhere h helse
  have hstored : r'.body.get? f.wire = some v := hkept.trans hgathered
  exact ⟨sendsAs_of_stored hstored, isDirtyAt_edits h (isDirtyAt_new hgathered)⟩

theorem wire_of_id (schema : Schema) (id wire : String)
    (h : schema.route "id" = (.body, wire)) : (withId schema id).idKey = wire := by
  have hschema : (withId schema id).schema = schema := rfl
  rw [Schema.route, Schema.lookup?] at h
  rw [idKey, hschema]
  cases hf : schema.field? "id" with
  | some g =>
      rw [hf] at h
      exact congrArg Prod.snd h
  | none =>
      rw [hf, Option.none_or] at h
      cases hg : schema.fields.find? (·.wire == "id") with
      | none =>
          rw [hg] at h
          exact congrArg Prod.snd h
      | some g =>
          rw [hg] at h
          have hwire : g.wire = "id" := by simpa using List.find?_some hg
          exact hwire.symm.trans (congrArg Prod.snd h)

theorem get?_withId {id : String} (h : key ≠ (withId schema id).idKey) :
    (withId schema id).body.get? key = none := by
  change (schema.gather .body (.ofList [("id", .text id)])).get? key = none
  have hentries : (Dict.ofList [("id", Value.text id)]).entries = [("id", .text id)] := rfl
  rw [Schema.gather_eq, Dict.get?_ofList, hentries, List.filterMap_cons, List.filterMap_nil]
  dsimp only
  split
  · rfl
  · rename_i pair hsome
    obtain ⟨hgroup, hpair⟩ := Option.ite_none_right_eq_some.mp hsome
    have hroute : schema.route "id" = (.body, pair.1) :=
      Prod.ext hgroup (congrArg Prod.fst (Option.some.inj hpair))
    rw [List.filter_cons_of_neg, List.filter_nil]
    · rfl
    · rw [beq_iff_eq, ← wire_of_id schema id pair.1 hroute]
      exact Ne.symm h

theorem tells?_of_withId {id : String} (h : SendsOrHas (withId schema id) r' key w)
    (hschema : r'.schema = schema) (hplan : r'.plan .commit = .ok (some q)) :
    r'.tells? q key = some x ↔ x = w ∧ key ≠ r'.idKey := by
  have hid : r'.idKey = (withId schema id).idKey := by
    rw [idKey, idKey, hschema]
    rfl
  rw [h.sends .commit q (.inr rfl) hplan x]
  refine and_congr_right fun _ => ⟨fun hsent hk => hsent.2 ⟨rfl, rfl, hk⟩, fun hk => ⟨?_, ?_⟩⟩
  · apply Classical.byContradiction
    intro hd
    have hheld := (h.kept hd).2
    rw [get?_withId (hid ▸ hk)] at hheld
    simp at hheld
  · exact fun hw => hk hw.2.2

end Resource

open Resource (SendsOrHas)

structure Schema.SendsFormatted (s : Session σ) (schema : Schema) (f : Field) (format : Format)
    (key : String) (v w : Value) : Prop where
  encoded : format.encode v = .ok w
  assigned : ∀ r r' es, r.schema = schema → schema.Settles (.set key v) es (.body, f.wire) →
    r.edits es = .ok r' → SendsOrHas r r' f.wire w
  updated : ∀ r r' attrs, r.schema = schema →
    schema.Settles (.set key v) attrs.assignments (.body, f.wire) →
    r.update attrs = (.ok (), r') → SendsOrHas r r' f.wire w
  byId : ∀ id attrs r' c, schema.Settles (.set key v) attrs.assignments (.body, f.wire) →
    (Reference.byId id).resolve schema attrs = .ok r' → r'.Ready .commit →
    ∃ q, ((Reference.byId id).update s schema attrs c).2 = (s.request q c).2 ∧
      ∀ x, r'.tells? q f.wire = some x ↔ x = w ∧ f.wire ≠ r'.idKey
  made : ∀ attrs es r', schema.Settles (.set key v) attrs.assignments (.body, f.wire) →
    (Resource.new schema attrs).edits es = .ok r' →
    (∀ e ∈ es, schema.route e.name ≠ (.body, f.wire)) →
    r'.SendsAs f.wire v ∧ r'.isDirtyAt .body f.wire
  created : ∀ attrs c, schema.Settles (.set key v) attrs.assignments (.body, f.wire) →
    (Resource.new schema attrs).Ready .create →
    ∃ q, (Reference.create s schema attrs c).2 = (s.request q c).2 ∧
      (Resource.new schema attrs).tells? q f.wire = some v
  agree_iff : v = w ↔ format.OnWire v

theorem Schema.sendsFormatted (s : Session σ) (hf : schema.lookup? key = some f)
    (hform : f.Formatted format) (hv : v ≠ .null) (hw : f.write v = .ok w) :
    schema.SendsFormatted s f format key v w := by
  have hencode : format.encode v = .ok w := (hform.write_eq hv).symm.trans hw
  have hroute : schema.route key = (.body, f.wire) := by rw [Resource.route_eq hf, hform.inBody]
  have hassigned : ∀ r r' es, r.schema = schema →
      schema.Settles (.set key v) es (.body, f.wire) → r.edits es = .ok r' →
      SendsOrHas r r' f.wire w := by
    rintro r r' es rfl hlast h
    exact Resource.sendsOrHas_of_settles hf hform hw (format.encode_text hencode) h hlast
  exact {
    encoded := hencode
    assigned := hassigned
    updated := fun r r' attrs hs hlast h =>
      hassigned r r' attrs.assignments hs hlast (Resource.edits_of_update h)
    byId := by
      intro id attrs r' c hlast hresolve hready
      have hupdate := Reference.resolve_eq_ok (.byId id) hresolve
      have hsends := hassigned (.withId schema id) r' _ rfl hlast (Resource.edits_of_update hupdate)
      obtain ⟨uri, hu⟩ := Resource.path_of_ready hready
      refine ⟨r'.requestTo .commit uri, ?_, fun x => ?_⟩
      · rw [Reference.update, Reference.withResource, hresolve]
        exact Resource.perform_of_ready hready hu
      · exact Resource.tells?_of_withId hsends
          (Resource.schema_edits (Resource.edits_of_update hupdate))
          (Resource.plan_of_ready hready hu)
    made := fun attrs es r' hlast h helse => Resource.sendsAs_of_made hroute hlast h helse
    created := by
      intro attrs c hlast hready
      obtain ⟨uri, hu⟩ := Resource.path_of_ready hready
      refine ⟨_, Resource.perform_of_ready hready hu, ?_⟩
      have hmade : (Resource.new schema attrs).edits [] = .ok (.new schema attrs) := rfl
      obtain ⟨hsends, hdirty⟩ := Resource.sendsAs_of_made hroute hlast hmade (by simp)
      rw [hsends .create _ (.inl rfl) (Resource.plan_of_ready hready hu) v]
      exact ⟨rfl, hdirty, fun h => absurd h.1 (by simp)⟩
    agree_iff := by
      rw [Format.OnWire, hencode, Except.ok.injEq]
      exact eq_comm }

def bootable : Field :=
  { name := "is_bootable", wire := "bootable", coercion := some (.format .boolText) }

def disk : Schema :=
  { kind := "lab.disk", service := "lab", basePath := "/disks"
    fields := FieldTable.base ++ [bootable] }

theorem disk_sendsFormatted :
    disk.lookup? "is_bootable" = some bootable ∧ bootable.Formatted .boolText ∧
    Value.bool true ≠ .null ∧ bootable.write (.bool true) = .ok (.text "true") ∧
    disk.SendsFormatted Session.replay bootable .boolText "is_bootable" (.bool true) (.text "true") :=
  have hf : disk.lookup? "is_bootable" = some bootable := by cbv
  have hform : bootable.Formatted .boolText := ⟨rfl, rfl, rfl⟩
  have hw : bootable.write (.bool true) = .ok (.text "true") := rfl
  ⟨hf, hform, by simp, hw, Schema.sendsFormatted Session.replay hf hform (by simp) hw⟩

def bootableDisk : Dict Value := .ofList [("is_bootable", .bool true)]

theorem bootableDisk_sends_flag :
    ¬∀ attrs q, disk.Settles (.set "is_bootable" (.bool true)) attrs.assignments (.body, "bootable") →
      (Resource.new disk attrs).plan .create = .ok (some q) →
      ∃ w, bootable.write (.bool true) = .ok w ∧
        (Resource.new disk attrs).tells? q "bootable" = some w := by
  intro h
  have hplan : (Resource.new disk bootableDisk).plan .create = .ok (some
      { disk.request .post "/disks" with body := some (.record [("bootable", .bool true)]) }) := by
    cbv
  obtain ⟨w, hw, hsent⟩ := h bootableDisk _ ⟨[], [], by cbv, by simp⟩ hplan
  rw [← Except.ok.inj hw] at hsent
  have hflag : some (Value.bool true) = some (.text "true") := hsent
  simp at hflag

end ControlPlane
