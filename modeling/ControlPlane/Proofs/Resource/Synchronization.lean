import Mathlib
import ControlPlane.Proofs.Resource.Edit
import ControlPlane.Proofs.Resource.Update

namespace ControlPlane

inductive Move where
  | edit (e : Edit)
  | call (op : Operation)
  deriving DecidableEq, Repr

def Operation.refreshes (op : Operation) : Location → Bool
  | .body => Resource.carriesBody op
  | .header => true
  | .uri => false

namespace Resource

variable {σ : Type} {s : Session σ} {r r' : Resource} {p : Resource × Conversation σ} {m : Move}
  {e : Edit} {op : Operation} {location : Location} {key : String}

def moved (s : Session σ) (p : Resource × Conversation σ) : Move → Resource × Conversation σ
  | .edit e =>
      match p.1.edit e with
      | .ok r => (r, p.2)
      | .error _ => p
  | .call op => ((p.1.settle s op p.2).1.2, (p.1.settle s op p.2).2)

def play (s : Session σ) (p : Resource × Conversation σ) (moves : List Move) :
    Resource × Conversation σ :=
  moves.foldl (moved s) p

theorem play_concat (p : Resource × Conversation σ) (moves : List Move) (m : Move) :
    play s p (moves ++ [m]) = moved s (play s p moves) m := by
  simp [play]

def isDirtyAt (r : Resource) (location : Location) (key : String) : Prop :=
  (r.component location).dirty.contains key = true

def Changes (r : Resource) (e : Edit) (location : Location) (key : String) : Prop :=
  ∃ r', r.edit e = .ok r' ∧ (r'.component location).get? key ≠ (r.component location).get? key

structure Exchanges (s : Session σ) (p : Resource × Conversation σ) (m : Move) (op : Operation)
    (q : Request) (response : Response) : Prop where
  call : m = .call op
  asked : p.1.plan op = .ok (some q)
  answered : (s.request q p.2).1 = .ok response

def Synchronizes (s : Session σ) (location : Location) (p : Resource × Conversation σ) (m : Move) :
    Prop :=
  ∃ op q response, Exchanges s p m op q response ∧ op.refreshes location = true

def Quiet (s : Session σ) (location : Location) (p : Resource × Conversation σ) : List Move → Prop
  | [] => True
  | m :: rest => ¬Synchronizes s location p m ∧ Quiet s location (moved s p m) rest

theorem not_synchronizes_edit : ¬Synchronizes s location p (.edit e) := by
  rintro ⟨op, q, response, hx, -⟩
  exact absurd hx.call (by simp)

theorem isDirtyAt_edit_iff (h : r.edit e = .ok r') :
    r'.isDirtyAt location key ↔ r.isDirtyAt location key ∨ r.Changes e location key := by
  have hchanges : r.Changes e location key ↔
      (r'.component location).get? key ≠ (r.component location).get? key := by
    constructor
    · rintro ⟨found, hf, hne⟩
      rw [h, Except.ok.injEq] at hf
      exact hf ▸ hne
    · exact fun hne => ⟨r', h, hne⟩
  rw [hchanges]
  obtain ⟨f, c, -, rfl, hc⟩ := edit_eq_ok h
  simp only [isDirtyAt, component_withComponent]
  split
  · rename_i hf
    subst hf
    rcases hc with ⟨value, rfl⟩ | rfl
    · exact Component.dirty_set_iff
    · exact Component.dirty_remove_iff
  · simp

theorem isDirtyAt_edits_elsewhere {es : List Edit} (h : r.edits es = .ok r')
    {place : Location × String} (hne : ∀ e ∈ es, r.schema.route e.name ≠ place) :
    r'.isDirtyAt place.1 place.2 ↔ r.isDirtyAt place.1 place.2 := by
  refine iff_of_eq (edits_frame (f := fun r => r.isDirtyAt place.1 place.2)
    (Q := fun s key => s.route key ≠ place) (fun r e r' he hne => propext ?_) h hne)
  rw [isDirtyAt_edit_iff he, or_iff_left]
  rintro ⟨found, hfound, hchanged⟩
  rw [he, Except.ok.injEq] at hfound
  exact hchanged (hfound ▸ get?_edit_elsewhere he hne)

theorem isDirtyAt_absorb (response : Response) :
    (r.absorb op response).isDirtyAt location key ↔
      op.refreshes location = false ∧ r.isDirtyAt location key := by
  cases location with
  | body =>
      simp only [isDirtyAt, component, absorb, Operation.refreshes]
      cases hb : carriesBody op with
      | true =>
          rw [if_pos rfl, dirty_absorbBody]
          simp [Dict.contains_eq_isSome]
      | false => simp
  | header => simp [isDirtyAt, component, absorb, Operation.refreshes, Component.merge,
      Dict.contains_eq_isSome]
  | uri => simp [isDirtyAt, component, absorb, Operation.refreshes]

theorem moved_call_cases (s : Session σ) (p : Resource × Conversation σ) (op : Operation) :
    (∃ q response, Exchanges s p (.call op) op q response ∧
      (moved s p (.call op)).1 = p.1.absorb op response) ∨
    ((∀ q response, ¬Exchanges s p (.call op) op q response) ∧
      (moved s p (.call op)).1 = p.1) := by
  simp only [moved]
  cases hplan : p.1.plan op with
  | error e =>
      refine .inr ⟨fun q response hx => ?_, by rw [settle_of_error hplan]⟩
      exact absurd (hx.asked.symm.trans hplan) (by simp)
  | ok request? =>
      cases request? with
      | none =>
          refine .inr ⟨fun q response hx => ?_, by rw [settle_of_none hplan]⟩
          exact absurd (hx.asked.symm.trans hplan) (by simp)
      | some q =>
          rw [settle_of_some hplan]
          cases hanswer : (s.request q p.2).1 with
          | ok response => exact .inl ⟨q, response, ⟨rfl, hplan, hanswer⟩, rfl⟩
          | error e =>
              refine .inr ⟨fun q' response hx => ?_, rfl⟩
              obtain rfl : q' = q := by simpa using hx.asked.symm.trans hplan
              exact absurd (hx.answered.symm.trans hanswer) (by simp)

theorem synchronizes_call_iff : Synchronizes s location p (.call op) ↔
    op.refreshes location = true ∧ ∃ q response, Exchanges s p (.call op) op q response := by
  constructor
  · rintro ⟨op', q, response, hx, hr⟩
    obtain rfl : op = op' := by simpa using hx.call
    exact ⟨hr, q, response, hx⟩
  · rintro ⟨hr, q, response, hx⟩
    exact ⟨op, q, response, hx, hr⟩

theorem isDirtyAt_call_iff : (moved s p (.call op)).1.isDirtyAt location key ↔
    ¬Synchronizes s location p (.call op) ∧ p.1.isDirtyAt location key := by
  rw [synchronizes_call_iff]
  rcases moved_call_cases s p op with ⟨q, response, hx, he⟩ | ⟨hno, he⟩
  · have hanswered : ∃ q response, Exchanges s p (.call op) op q response := ⟨q, response, hx⟩
    rw [he, isDirtyAt_absorb]
    simp [hanswered]
  · rw [he]
    simp [hno]

theorem isDirtyAt_moved_iff : (moved s p m).1.isDirtyAt location key ↔
    ¬Synchronizes s location p m ∧
      (p.1.isDirtyAt location key ∨ ∃ e, m = .edit e ∧ p.1.Changes e location key) := by
  cases m with
  | edit e =>
      simp only [moved, not_synchronizes_edit, not_false_eq_true, true_and]
      cases he : p.1.edit e with
      | error failure =>
          have hno : ¬p.1.Changes e location key := by
            rintro ⟨r', hr, -⟩
            rw [he] at hr
            simp at hr
          simp [hno]
      | ok r =>
          rw [isDirtyAt_edit_iff he]
          simp
  | call op =>
      rw [isDirtyAt_call_iff]
      simp

theorem isDirtyAt_play_iff (s : Session σ) (p : Resource × Conversation σ) (moves : List Move) :
    (play s p moves).1.isDirtyAt location key ↔
      (p.1.isDirtyAt location key ∧ Quiet s location p moves) ∨
      ∃ earlier e later, moves = earlier ++ .edit e :: later ∧
        (play s p earlier).1.Changes e location key ∧
        Quiet s location (play s p (earlier ++ [.edit e])) later := by
  induction moves generalizing p with
  | nil => simp [play, Quiet]
  | cons m rest ih =>
      change (play s (moved s p m) rest).1.isDirtyAt location key ↔ _
      rw [ih, isDirtyAt_moved_iff, Quiet]
      constructor
      · rintro (⟨⟨hm, hd | ⟨e, rfl, hc⟩⟩, hq⟩ | ⟨earlier, e, later, rfl, hc, hq⟩)
        · exact .inl ⟨hd, hm, hq⟩
        · exact .inr ⟨[], e, rest, rfl, hc, hq⟩
        · exact .inr ⟨m :: earlier, e, later, rfl, hc, hq⟩
      · rintro (⟨hd, hm, hq⟩ | ⟨earlier, e, later, hsplit, hc, hq⟩)
        · exact .inl ⟨⟨hm, .inl hd⟩, hq⟩
        · cases earlier with
          | nil =>
              obtain ⟨rfl, rfl⟩ : m = .edit e ∧ rest = later := by simpa using hsplit
              exact .inl ⟨⟨not_synchronizes_edit, .inr ⟨e, rfl, hc⟩⟩, hq⟩
          | cons first earlier =>
              obtain ⟨rfl, rfl⟩ : m = first ∧ rest = earlier ++ .edit e :: later := by
                simpa using hsplit
              exact .inr ⟨earlier, e, later, rfl, hc, hq⟩

def namesKey (key : String) : Value → Bool
  | .record entries => entries.any fun e => e.1 == key
  | .list steps => steps.any fun step => step.member? "path" == some (.text ("/" ++ key))
  | _ => false

def Carries (r : Resource) (q : Request) : Location → String → Prop
  | .body, key => ∃ body, q.body = some body ∧ namesKey key (r.unwrap body) = true
  | .header, name => q.headers.contains name = true
  | .uri, _ => False

def Withheld (r : Resource) (op : Operation) (location : Location) (key : String) : Prop :=
  op = .commit ∧ location = .body ∧ key = r.idKey

theorem unwrap_wrap (fields : Dict Value) : r.unwrap (r.wrap true fields) = .ofDict fields := by
  rw [unwrap, wrap]
  cases r.schema.resourceKey with
  | none => rfl
  | some name => simp [Value.member?]

theorem namesKey_changes : namesKey key (r.unwrap (r.wrap true r.body.changes)) = true ↔
    r.body.dirty.contains key = true := by
  have hnames : namesKey key (.ofDict r.body.changes) = r.body.changes.contains key := rfl
  rw [unwrap_wrap, hnames, Dict.contains_eq_isSome, Component.get?_changes]
  cases r.body.dirty.contains key <;> simp

theorem unwrap_envelope (fields : List (String × Value)) :
    r.unwrap (r.envelope fields) = .record fields := by
  rw [unwrap, envelope]
  cases r.schema.resourceKey with
  | none => rfl
  | some name => simp [Value.member?]

theorem unwrap_list (items : List Value) : r.unwrap (.list items) = .list items := by
  rw [unwrap]
  cases r.schema.resourceKey <;> rfl

theorem path_stepAt (key : String) :
    (r.stepAt key).member? "path" = some (.text ("/" ++ key)) := by
  rw [stepAt]
  cases r.body.get? key <;> rfl

theorem namesKey_updateAbout {keys : List String} (style : UpdateStyle) :
    namesKey key (r.unwrap (r.updateAbout keys style)) = true ↔ key ∈ keys := by
  have hmembers : namesKey key (r.unwrap (r.envelope (keys.map r.memberAt))) = true ↔ key ∈ keys := by
    rw [unwrap_envelope, namesKey, List.any_map]
    simp [memberAt, Function.comp_def]
  cases style with
  | put => exact hmembers
  | patchMerge => exact hmembers
  | patchJson =>
      rw [updateAbout, unwrap_list, namesKey, List.any_map]
      simp [Function.comp_def, path_stepAt]

theorem contains_headerTexts {name : String} :
    r.headerTexts.contains name = true ↔ r.header.dirty.contains name = true := by
  rw [Dict.contains_eq_isSome, get?_headerTexts, headerUpdate]
  cases r.header.dirty.contains name <;> simp

theorem carries_of_plan {q : Request} (hop : op = .create ∨ op = .commit)
    (hplan : r.plan op = .ok (some q)) (hloc : location ≠ .uri) (hd : r.isDirtyAt location key)
    (hw : ¬r.Withheld op location key) : r.Carries q location key := by
  obtain ⟨-, uri, -, rfl⟩ := plan_eq_ok_some hplan
  cases location with
  | uri => exact absurd rfl hloc
  | header => rcases hop with rfl | rfl <;> exact contains_headerTexts.mpr hd
  | body =>
      rcases hop with rfl | rfl
      · exact ⟨_, rfl, namesKey_changes.mpr hd⟩
      · refine ⟨_, rfl, ?_⟩
        rw [updateBody_eq, namesKey_updateAbout, mem_keys_updates]
        exact ⟨hd, fun hk => hw ⟨rfl, rfl, hk⟩⟩

theorem isDirtyAt_of_carries {q : Request} (hop : op = .create ∨ op = .commit)
    (hplan : r.plan op = .ok (some q)) (h : r.Carries q location key) : r.isDirtyAt location key := by
  obtain ⟨-, uri, -, rfl⟩ := plan_eq_ok_some hplan
  cases location with
  | uri => exact h.elim
  | header => rcases hop with rfl | rfl <;> exact contains_headerTexts.mp h
  | body =>
      obtain ⟨body, hbody, hnames⟩ := h
      rcases hop with rfl | rfl
      · obtain rfl : r.wrap true r.body.changes = body := Option.some.inj hbody
        exact namesKey_changes.mp hnames
      · obtain rfl : r.updateBody = body := Option.some.inj hbody
        rw [updateBody_eq, namesKey_updateAbout, mem_keys_updates] at hnames
        exact hnames.1

def Unsent (s : Session σ) (location : Location) (key : String) (p : Resource × Conversation σ) :
    List Move → Prop
  | [] => True
  | m :: rest =>
      (∀ op q response, Exchanges s p m op q response → op.refreshes location = true →
        (op = .create ∨ op = .commit) ∧ ¬p.1.Carries q location key) ∧
      Unsent s location key (moved s p m) rest

theorem schema_moved : (moved s p m).1.schema = p.1.schema := by
  cases m with
  | edit e =>
      rw [moved]
      cases he : p.1.edit e with
      | error failure => rfl
      | ok r => exact schema_edit he
  | call op =>
      rcases moved_call_cases s p op with ⟨q, response, -, he⟩ | ⟨-, he⟩
      · rw [he]
        rfl
      · rw [he]

theorem idKey_moved : (moved s p m).1.idKey = p.1.idKey := by
  rw [idKey, idKey, schema_moved]

theorem idKey_play {moves : List Move} : (play s p moves).1.idKey = p.1.idKey := by
  induction moves generalizing p with
  | nil => rfl
  | cons m rest ih =>
      change (play s (moved s p m) rest).1.idKey = p.1.idKey
      rw [ih, idKey_moved]

theorem isDirtyAt_play_of_unsent (hloc : location ≠ .uri) {moves : List Move} :
    ∀ {p : Resource × Conversation σ}, (location = .body → key ≠ p.1.idKey) →
      p.1.isDirtyAt location key → Unsent s location key p moves →
      (play s p moves).1.isDirtyAt location key := by
  induction moves with
  | nil => exact fun _ hd _ => hd
  | cons m rest ih =>
      intro p hid hd hun
      have hquiet : ¬Synchronizes s location p m := by
        rintro ⟨op, q, response, hx, hr⟩
        obtain ⟨hop, hnot⟩ := hun.1 op q response hx hr
        exact hnot (carries_of_plan hop hx.asked hloc hd fun hw => hid hw.2.1 hw.2.2)
      refine ih ?_ (isDirtyAt_moved_iff.mpr ⟨hquiet, .inl hd⟩) hun.2
      rw [idKey_moved]
      exact hid

theorem pending_of_isDirtyAt (hloc : location ≠ .uri) (hd : r.isDirtyAt location key)
    (hw : ¬r.Withheld .commit location key) : r.Pending := by
  cases location with
  | uri => exact absurd rfl hloc
  | header =>
      refine .inl fun hempty => ?_
      rw [isDirtyAt, component, hempty] at hd
      exact absurd hd Bool.false_ne_true
  | body => exact .inr ⟨key, hd, fun hk => hw ⟨rfl, rfl, hk⟩⟩

structure KeepsChanges (s : Session σ) (p : Resource × Conversation σ) (moves : List Move) :
    Prop where
  dirty_iff : ∀ location key, (play s p moves).1.isDirtyAt location key ↔
    (p.1.isDirtyAt location key ∧ Quiet s location p moves) ∨
    ∃ earlier e later, moves = earlier ++ .edit e :: later ∧
      (play s p earlier).1.Changes e location key ∧
      Quiet s location (play s p (earlier ++ [.edit e])) later
  kept : ∀ earlier e later, moves = earlier ++ .edit e :: later →
    ∀ location key, location ≠ .uri → (location = .body → key ≠ p.1.idKey) →
      (play s p earlier).1.Changes e location key →
      Unsent s location key (play s p (earlier ++ [.edit e])) later →
      (play s p moves).1.isDirtyAt location key
  carried : ∀ op q, op = .create ∨ op = .commit → (play s p moves).1.plan op = .ok (some q) →
    ∀ location key, location ≠ .uri → (play s p moves).1.isDirtyAt location key →
      ¬(play s p moves).1.Withheld op location key → (play s p moves).1.Carries q location key
  committed : ∀ location key, location ≠ .uri → (play s p moves).1.isDirtyAt location key →
    ¬(play s p moves).1.Withheld .commit location key →
    (play s p moves).1.schema.permits .commit = true → (play s p moves).1.Located →
    (play s p moves).1.id? ≠ none →
    ∃ q, (play s p moves).1.plan .commit = .ok (some q) ∧
      (play s p moves).1.Carries q location key

theorem run_keeps_changes (s : Session σ) (p : Resource × Conversation σ) (moves : List Move) :
    KeepsChanges s p moves where
  dirty_iff _ _ := isDirtyAt_play_iff s p moves
  kept earlier e later hsplit location key hloc hid hc hun := by
    have hplay : play s p moves = play s (play s p (earlier ++ [.edit e])) later := by
      simp [hsplit, play]
    have hd : (play s p (earlier ++ [.edit e])).1.isDirtyAt location key := by
      rw [play_concat]
      exact isDirtyAt_moved_iff.mpr ⟨not_synchronizes_edit, .inr ⟨e, rfl, hc⟩⟩
    rw [hplay]
    refine isDirtyAt_play_of_unsent hloc ?_ hd hun
    rw [idKey_play]
    exact hid
  carried _ _ hop hplan _ _ := carries_of_plan hop hplan
  committed location key hloc hd hw hp hl hid := by
    have hready : (play s p moves).1.Ready .commit :=
      ⟨fun _ => pending_of_isDirtyAt hloc hd hw, hp, hl, fun _ => hid⟩
    obtain ⟨uri, hu⟩ := path_of_ready hready
    have hplan := plan_of_ready hready hu
    exact ⟨_, hplan, carries_of_plan (.inr rfl) hplan hloc hd hw⟩

def Answers (r : Resource) (response : Response) : Location → String → Prop
  | .body, key => ∃ body, response.body = some body ∧ (r.unwrap body).member? key ≠ none
  | .header, name => response.header? name ≠ none
  | .uri, _ => False

def Untold (s : Session σ) (f : Field) (p : Resource × Conversation σ) : List Move → Prop
  | [] => True
  | m :: rest =>
      (∀ op q response, Exchanges s p m op q response →
        ¬p.1.Carries q f.location f.wire ∧ ¬p.1.Answers response f.location f.wire) ∧
      Untold s f (moved s p m) rest

def StaysPending (s : Session σ) (p : Resource × Conversation σ) (e : Edit) (later : List Move) :
    Prop :=
  ∀ f r', p.1.schema.lookup? e.name = some f → f.location ≠ .uri → p.1.edit e = .ok r' →
    p.1.Changes e f.location f.wire →
    (play s (r', p.2) later).1.stored? f = r'.stored? f → Untold s f (r', p.2) later →
    (play s (r', p.2) later).1.isDirtyAt f.location f.wire

def lamp : Schema :=
  { kind := "lab.lamp", service := "lab", basePath := "/lamps", allow := .head :: Capability.crud
    fields := FieldTable.base ++ [{ name := "etag", wire := "ETag", location := .header }] }

def oldLamp : Resource := existing lamp (.ofList [("id", .text "l1"), ("name", .text "old")])

def renamedLamp : Resource :=
  { oldLamp with
    body :=
      { values := .ofList [("id", .text "l1"), ("name", .text "new")]
        dirty := .ofList [("name", ())] } }

def taggedLamp : Resource :=
  { oldLamp with
    header := { values := .ofList [("ETag", .text "t1")], dirty := .ofList [("ETag", ())] } }

def lampReply : Response := { status := 200, body := some (.record [("id", .text "l1")]) }

def lampServer (response : Response) : Conversation (List Reply) := { peer := [.success response] }

theorem untold_of_call {f : Field} {q : Request} {response : Response}
    (hplan : r.plan op = .ok (some q)) (hc : ¬r.Carries q f.location f.wire)
    (ha : ¬r.Answers response f.location f.wire) :
    Untold Session.replay f (r, lampServer response) [.call op] := by
  refine ⟨fun op' q' response' hx => ?_, trivial⟩
  obtain rfl : op = op' := by simpa using hx.call
  obtain rfl : q = q' := by simpa [hplan] using hx.asked
  obtain rfl : response = response' := by
    simpa [Session.request, Session.replay, replayAnswer, lampServer] using hx.answered
  exact ⟨hc, ha⟩

theorem fetch_forgets_name : ¬StaysPending Session.replay (oldLamp, lampServer lampReply)
    (.set "name" (.text "new")) [.call .fetch] := by
  intro h
  have hedit : oldLamp.edit (.set "name" (.text "new")) = .ok renamedLamp := by cbv
  have hplan : renamedLamp.plan .fetch = .ok (some (lamp.request .get "/lamps/l1")) := by cbv
  have huntold : Untold Session.replay { name := "name" } (renamedLamp, lampServer lampReply)
      [.call .fetch] := by
    refine untold_of_call hplan ?_ ?_
    · rintro ⟨body, hbody, -⟩
      exact absurd hbody (by simp [Schema.request])
    · rintro ⟨body, hbody, hmember⟩
      obtain rfl : .record [("id", .text "l1")] = body := by simpa [lampReply] using hbody
      exact hmember (by cbv)
  have hdirty := h { name := "name" } renamedLamp (by cbv) (by simp) hedit
    ⟨renamedLamp, hedit, by decide +kernel⟩ (by cbv) huntold
  rw [isDirtyAt] at hdirty
  exact absurd hdirty (by decide +kernel)

theorem head_forgets_tag : ¬StaysPending Session.replay (oldLamp, lampServer { status := 200 })
    (.set "etag" (.text "t1")) [.call .head] := by
  intro h
  have hedit : oldLamp.edit (.set "etag" (.text "t1")) = .ok taggedLamp := by cbv
  have hplan : taggedLamp.plan .head =
      .ok (some (withoutAccept (lamp.request .head "/lamps/l1"))) := by cbv
  have huntold : Untold Session.replay { name := "etag", wire := "ETag", location := .header }
      (taggedLamp, lampServer { status := 200 }) [.call .head] := by
    refine untold_of_call hplan ?_ ?_
    · rw [Carries]
      decide +kernel
    · rw [Answers]
      decide +kernel
  have hdirty := h { name := "etag", wire := "ETag", location := .header } taggedLamp (by cbv)
    (by simp) hedit ⟨taggedLamp, hedit, by decide +kernel⟩ (by cbv) huntold
  rw [isDirtyAt] at hdirty
  exact absurd hdirty (by decide +kernel)

theorem fetch_and_head_forget_unsent_changes :
    ¬StaysPending Session.replay (oldLamp, lampServer lampReply) (.set "name" (.text "new"))
      [.call .fetch] ∧
    ¬StaysPending Session.replay (oldLamp, lampServer { status := 200 }) (.set "etag" (.text "t1"))
      [.call .head] :=
  ⟨fetch_forgets_name, head_forgets_tag⟩

end Resource

end ControlPlane
