import ControlPlane.Proofs.Text.Bytes
import ControlPlane.Text.Encoding

namespace ControlPlane.Text

theorem hexValue?_hexDigit {n : Nat} (hn : n < 16) : hexValue? (hexDigit n) = some n := by
  have h : ∀ i : Fin 16, hexValue? (hexDigit i) = some i.val := by decide
  exact h ⟨n, hn⟩

theorem isUnreserved_hexDigit {n : Nat} (hn : n < 16) : isUnreserved (hexDigit n) = true := by
  have h : ∀ i : Fin 16, isUnreserved (hexDigit i) = true := by decide
  exact h ⟨n, hn⟩

theorem unescape_escapeByte (b : UInt8) (rest : List Char) :
    unescape (escapeByte b ++ rest) = b :: unescape rest := by
  have hb : b.toNat < 256 := b.toNat_lt
  have hhigh : hexValue? (hexDigit (b.toNat / 16)) = some (b.toNat / 16) :=
    hexValue?_hexDigit (by omega)
  have hlow : hexValue? (hexDigit (b.toNat % 16)) = some (b.toNat % 16) :=
    hexValue?_hexDigit (by omega)
  have hsum : b.toNat / 16 * 16 + b.toNat % 16 = b.toNat := by omega
  simp only [escapeByte, List.cons_append, List.nil_append, unescape, hhigh, hlow, hsum,
    UInt8.ofNat_toNat]

theorem unescape_escapeBytes (bs : List UInt8) (rest : List Char) :
    unescape (bs.flatMap escapeByte ++ rest) = bs ++ unescape rest := by
  induction bs with
  | nil => rfl
  | cons b bs ih =>
      rw [List.flatMap_cons, List.append_assoc, unescape_escapeByte, ih]
      rfl

theorem unescape_cons {c : Char} (h : c ≠ '%') (rest : List Char) :
    unescape (c :: rest) = String.utf8EncodeChar c ++ unescape rest := by
  rw [unescape]
  intro a b rest' hc _
  exact absurd hc h

theorem unescape_percentEncodeWith {keep : Char → Bool} (hk : keep '%' = false) (cs : List Char) :
    unescape (percentEncodeWith keep cs) = cs.flatMap String.utf8EncodeChar := by
  induction cs with
  | nil => rfl
  | cons c rest ih =>
      change unescape ((if keep c then [c] else escapeChar c) ++ percentEncodeWith keep rest) = _
      rw [List.flatMap_cons, ← ih]
      by_cases hc : keep c = true
      · have hne : c ≠ '%' := by
          rintro rfl
          rw [hk] at hc
          exact absurd hc (by simp)
        rw [if_pos hc]
        exact unescape_cons hne _
      · rw [if_neg hc]
        exact unescape_escapeBytes _ _

theorem fromUTF8?_bytes (s : String) :
    String.fromUTF8? (ByteArray.mk (bytes s).toArray) = some s := by
  have hs : ByteArray.mk (bytes s).toArray = s.toByteArray := by
    simp [bytes]
  rw [hs, String.fromUTF8?, dif_pos s.isValidUTF8]
  rfl

theorem percentDecode_percentEncode (s : String) : percentDecode (percentEncode s) = some s := by
  rw [percentDecode, percentEncode, String.toList_ofList, unescape_percentEncodeWith (by decide),
    ← bytes_eq]
  exact fromUTF8?_bytes s

theorem eq_of_unescape {s t : String}
    (h : unescape (percentEncode s).toList = unescape (percentEncode t).toList) : s = t := by
  have hs := percentDecode_percentEncode s
  rw [percentDecode, h, ← percentDecode, percentDecode_percentEncode, Option.some.injEq] at hs
  exact hs.symm

theorem percentEncode_injective {s t : String} (h : percentEncode s = percentEncode t) : s = t :=
  eq_of_unescape (by rw [h])

theorem percentEncodeWith_of_kept {keep : Char → Bool} {cs : List Char} (h : ∀ c ∈ cs, keep c = true) :
    percentEncodeWith keep cs = cs := by
  induction cs with
  | nil => rfl
  | cons c rest ih =>
      have hrest : percentEncodeWith keep rest = rest :=
        ih fun d hd => h d (List.mem_cons_of_mem _ hd)
      rw [percentEncodeWith] at hrest ⊢
      rw [List.flatMap_cons, if_pos (h c (List.mem_cons_self ..)), hrest]
      rfl

theorem isAlnum_lt {c : Char} (h : isAlnum c = true) : c.toNat < 128 := by
  have hranges : (decide (c.val ≥ 'A'.val ∧ c.val ≤ 'Z'.val) ||
      c.val ≥ 'a'.val && c.val ≤ 'z'.val || c.val ≥ '0'.val && c.val ≤ '9'.val) = true := h
  simp only [Bool.or_eq_true, Bool.and_eq_true, decide_eq_true_eq] at hranges
  have hbelow (d : Char) (hd : c.val ≤ d.val) (hlt : d.toNat < 128) : c.toNat < 128 :=
    Nat.lt_of_le_of_lt (UInt32.le_iff_toNat_le.mp hd) hlt
  rcases hranges with (⟨-, h⟩ | ⟨-, h⟩) | ⟨-, h⟩
  · exact hbelow 'Z' h (by decide)
  · exact hbelow 'z' h (by decide)
  · exact hbelow '9' h (by decide)

theorem isUnreserved_lt {c : Char} (h : isUnreserved c = true) : c.toNat < 128 := by
  simp only [isUnreserved, Bool.or_eq_true, beq_iff_eq] at h
  rcases h with (((h | rfl) | rfl) | rfl) | rfl
  · exact isAlnum_lt h
  all_goals decide

theorem isUnreserved_cases {P : Char → Prop}
    (h : ∀ i : Fin 128, isUnreserved (Char.ofNat i) = true → P (Char.ofNat i)) {c : Char}
    (hc : isUnreserved c = true) : P c := by
  have heq : Char.ofNat c.toNat = c := Char.ofNat_toNat c
  rw [← heq] at hc ⊢
  exact h ⟨c.toNat, isUnreserved_lt (heq ▸ hc)⟩ hc

def IsEscaped (cs : List Char) : Prop := ∀ c ∈ cs, isUnreserved c = true ∨ c = '%'

theorem IsEscaped.forall {P : Char → Prop} {cs : List Char} (h : IsEscaped cs)
    (hu : ∀ i : Fin 128, isUnreserved (Char.ofNat i) = true → P (Char.ofNat i)) (hp : P '%') :
    ∀ c ∈ cs, P c := by
  intro c hc
  rcases h c hc with hc | rfl
  · exact isUnreserved_cases hu hc
  · exact hp

theorem isEscaped_escapeByte (b : UInt8) : IsEscaped (escapeByte b) := by
  have hb : b.toNat < 256 := b.toNat_lt
  intro c hc
  simp only [escapeByte, List.mem_cons, List.not_mem_nil, or_false] at hc
  rcases hc with rfl | rfl | rfl
  · exact .inr rfl
  · exact .inl (isUnreserved_hexDigit (by omega))
  · exact .inl (isUnreserved_hexDigit (by omega))

theorem isEscaped_percentEncode (s : String) : IsEscaped (percentEncode s).toList := by
  intro c hc
  rw [percentEncode, String.toList_ofList, percentEncodeWith, List.mem_flatMap] at hc
  obtain ⟨d, -, hd⟩ := hc
  split at hd
  · rename_i hk
    rw [List.mem_singleton] at hd
    exact .inl (hd ▸ hk)
  · obtain ⟨b, -, hb⟩ := List.mem_flatMap.mp hd
    exact isEscaped_escapeByte b c hb

-- A segment that stands for a text: nothing in it is reserved, and it decodes to the text.
structure Escapes (text segment : String) : Prop where
  escaped : IsEscaped segment.toList
  decoded : percentDecode segment = some text

theorem escapes_percentEncode (s : String) : Escapes s (percentEncode s) :=
  ⟨isEscaped_percentEncode s, percentDecode_percentEncode s⟩

theorem slash_notMem_percentEncode (s : String) : '/' ∉ (percentEncode s).toList := by
  intro h
  exact absurd (isEscaped_percentEncode s '/' h) (by decide)

theorem percentEncode_eq_empty {s : String} (h : percentEncode s = "") : s = "" :=
  percentEncode_injective (h.trans rfl)

end ControlPlane.Text
