import ControlPlane.Proofs.Resource.ReadBack
import ControlPlane.Proofs.Time.Printing

namespace ControlPlane.Timestamp

open Resource (schema_withComponent stored_of_set tryGet_of_field)

variable {s t : String} {i j : Instant}

def FourDigitYear (i : Instant) : Prop := 0 ≤ i.toMoment.year ∧ i.toMoment.year ≤ 9999

theorem read?_write (h : InCalendar i) (hyear : FourDigitYear i) : read? (write i) = some i := by
  rw [write, read?_momentText h.onCalendar.valid hyear.1 hyear.2,
    Instant.toInstant_toMoment h.onClock]

theorem read?_write_of_year (h : InCalendar i) (hyear : ¬FourDigitYear i) :
    read? (write i) = none := read?_momentText_of_year h.onCalendar.valid hyear

theorem read?_bare (h : InCalendar i) :
    read? (String.ofList (write i).toList.dropLast) = some i := by
  rw [write, String.toList_ofList, momentText_eq, List.dropLast_concat, read?_bareText h.onCalendar,
    Instant.toInstant_toMoment h.onClock]

theorem write_inj (hi : InCalendar i) (hj : InCalendar j) : write i = write j ↔ i = j := by
  constructor
  · intro h
    have hbare := read?_bare hi
    rw [h, read?_bare hj] at hbare
    exact (Option.some.inj hbare).symm
  · rintro rfl
    rfl

theorem normalize?_eq_some : normalize? s = some t ↔ ∃ i, read? s = some i ∧ write i = t :=
  Option.map_eq_some_iff

theorem normalize?_write_iff (h : InCalendar i) :
    normalize? (write i) = some (write i) ↔ FourDigitYear i := by
  constructor
  · intro ht
    obtain ⟨j, hj, -⟩ := normalize?_eq_some.mp ht
    by_contra hyear
    rw [read?_write_of_year h hyear] at hj
    simp at hj
  · intro hyear
    exact normalize?_eq_some.mpr ⟨i, read?_write h hyear, rfl⟩

section

variable {f : Field} (hc : f.coercion = some (.format .timestamp))

include hc

theorem write_timestamp (hf : .text s ≠ f.fallback.toValue) (h : normalize? s = some t) :
    f.write (.text s) = .ok (.text t) := by
  have hbind : (Value.text s).text?.bind normalize? = some t := h
  rw [Field.write_format hc (by simp) hf, Format.encode, Format.readTimestamp, hbind]

theorem readPresent_timestamp (h : normalize? s = some t) :
    f.readPresent (.text s) = .ok (.text t) := by
  have hbind : (Value.text s).text?.bind normalize? = some t := h
  rw [Field.readPresent_of_not_admits hc (by simp) rfl, Coercion.convert, Format.decode,
    Format.readTimestamp, hbind]
  rfl

theorem readPresent_of_no_timestamp (h : normalize? s = none) :
    ∃ e, f.readPresent (.text s) = .error e := by
  have hbind : (Value.text s).text?.bind normalize? = none := h
  rw [Field.readPresent_of_not_admits hc (by simp) rfl, Coercion.convert, Format.decode,
    Format.readTimestamp, hbind]
  exact ⟨_, rfl⟩

theorem set_timestamp {r : Resource} {name : String} (hf : r.schema.field? name = some f)
    (hfallback : .text s ≠ f.fallback.toValue) (h : normalize? s = some t) :
    ∃ r', r.set name (.text s) = .ok r' ∧ r'.tryGet name = f.readPresent (.text t) := by
  have hw := write_timestamp hc hfallback h
  have hset : r.set name (.text s) = .ok (r.withComponent f.location
      ((r.component f.location).set f.wire (.text t))) := by
    rw [Resource.set_eq hf, hw]
    rfl
  have hlookup : r.schema.lookup? name = some f := by
    rw [Schema.lookup?, hf]
    rfl
  refine ⟨_, hset, ?_⟩
  rw [tryGet_of_field (by rw [schema_withComponent, hf]), stored_of_set hlookup hw hset]
  rfl

end

structure Normalizes (s t : String) (i : Instant) : Prop where
  read : read? s = some i
  given : ∃ m offset, Gives s.toList m offset ∧ OnCalendar m ∧ i = m.toInstant offset
  only : ∀ m offset, Gives s.toList m offset → OnCalendar m → i = m.toInstant offset
  printed : t.toList = momentText i.toMoment
  denotes : i.toMoment.isValid = true ∧ i.toMoment.toInstant 0 = i
  again_iff : normalize? t = some t ↔ FourDigitYear i
  back : FourDigitYear i → read? t = some i
  lost : ¬FourDigitYear i → read? t = none
  bare : read? (String.ofList t.toList.dropLast) = some i
  same : ∀ s' t' m offset, normalize? s' = some t' → Gives s'.toList m offset → OnCalendar m →
    (t' = t ↔ m.toInstant offset = i)
  stored : ∀ (r : Resource) name f, r.schema.field? name = some f →
    f.coercion = some (.format .timestamp) → .text s ≠ f.fallback.toValue →
    ∃ r', r.set name (.text s) = .ok r' ∧
      (FourDigitYear i → r'.tryGet name = .ok (.text t)) ∧
      (¬FourDigitYear i → ∃ e, r'.tryGet name = .error e)

theorem normalizes (h : normalize? s = some t) : ∃ i, Normalizes s t i := by
  obtain ⟨i, hread, rfl⟩ := normalize?_eq_some.mp h
  obtain ⟨m, offset, hgives, hm, hi⟩ := gives_of_read? hread
  have hcalendar : InCalendar i := hi ▸ inCalendar_of_gives hgives hm
  refine ⟨i, ?_⟩
  exact {
    read := hread
    given := ⟨m, offset, hgives, hm, hi⟩
    only := fun m' offset' hgives' hm' => Option.some.inj (hread.symm.trans (read?_of_gives hgives' hm'))
    printed := String.toList_ofList
    denotes := ⟨hcalendar.onCalendar.valid, Instant.toInstant_toMoment hcalendar.onClock⟩
    again_iff := normalize?_write_iff hcalendar
    back := read?_write hcalendar
    lost := read?_write_of_year hcalendar
    bare := read?_bare hcalendar
    same := by
      intro s' t' m' offset' h' hgives' hm'
      obtain ⟨j, hj, rfl⟩ := normalize?_eq_some.mp h'
      obtain rfl : m'.toInstant offset' = j :=
        Option.some.inj ((read?_of_gives hgives' hm').symm.trans hj)
      exact write_inj (inCalendar_of_gives hgives' hm') hcalendar
    stored := by
      intro r name f hf hc hfallback
      obtain ⟨r', hset, hget⟩ := set_timestamp hc hf hfallback h
      refine ⟨r', hset, fun hyear => ?_, fun hyear => ?_⟩
      · rw [hget]
        exact readPresent_timestamp hc ((normalize?_write_iff hcalendar).mpr hyear)
      · rw [hget]
        refine readPresent_of_no_timestamp hc ?_
        rw [normalize?, read?_write_of_year hcalendar hyear]
        rfl }

theorem afternoon_normalizes :
    normalize? "2024-02-29t23:30:00.5-01:00" = some "2024-03-01T00:30:00.500Z" ∧
      ∃ i, Normalizes "2024-02-29t23:30:00.5-01:00" "2024-03-01T00:30:00.500Z" i :=
  have h : normalize? "2024-02-29t23:30:00.5-01:00" = some "2024-03-01T00:30:00.500Z" := by
    decide +kernel
  ⟨h, normalizes h⟩

theorem carried_years_get_lost :
    ¬∀ s t, normalize? s = some t → normalize? t = some t := by
  intro h
  have hlate : normalize? "9999-12-31T23:59:59-01:00" = some "+10000-01-01T00:59:59Z" := by
    decide +kernel
  have hagain : normalize? "+10000-01-01T00:59:59Z" = none := by
    decide +kernel
  have hfails := h _ _ hlate
  rw [hagain] at hfails
  simp at hfails

end ControlPlane.Timestamp
