import ControlPlane.Error
import Mathlib.Data.String.Basic

namespace ControlPlane

namespace Text

variable {cs front : List Char} {c : Char} {limit : Nat}

def Printable (c : Char) : Prop := 0x20 ≤ c.toNat ∧ c.toNat ≤ 0x7E

theorem isPrintable_iff : isPrintable c = true ↔ Printable c := by
  simp [isPrintable, Printable]

theorem byteCount_eq_utf8Len (cs : List Char) : byteCount cs = String.utf8Len cs := by
  induction cs with
  | nil => rfl
  | cons c rest ih =>
      rw [String.utf8Len_cons, ← ih, Nat.add_comm]
      rfl

theorem byteCount_toList (s : String) : byteCount s.toList = s.utf8ByteSize := by
  rw [byteCount_eq_utf8Len, ← String.utf8ByteSize_ofList, String.ofList_toList]

theorem utf8Size_of_printable (h : Printable c) : c.utf8Size = 1 := by
  rw [Char.utf8Size_eq_one_iff, UInt32.le_iff_toNat_le]
  exact Nat.le_succ_of_le h.2

theorem byteCount_of_printable (h : ∀ c ∈ cs, Printable c) : byteCount cs = cs.length := by
  induction cs with
  | nil => rfl
  | cons c rest ih =>
      have hrest := ih fun d hd => h d (List.mem_cons_of_mem _ hd)
      have hone := utf8Size_of_printable (h c (List.mem_cons_self ..))
      rw [byteCount, List.foldr_cons, hone, List.length_cons, ← hrest, Nat.add_comm]
      rfl

theorem length_le_byteCount (cs : List Char) : cs.length ≤ byteCount cs := by
  induction cs with
  | nil => exact Nat.le_refl _
  | cons c rest ih =>
      have hpos := c.utf8Size_pos
      change rest.length + 1 ≤ c.utf8Size + byteCount rest
      omega

theorem takeBytes_prefix (limit : Nat) (cs : List Char) : takeBytes limit cs <+: cs := by
  induction cs generalizing limit with
  | nil => exact List.prefix_rfl
  | cons c rest ih =>
      rw [takeBytes]
      split
      · exact (List.prefix_cons_inj c).mpr (ih _)
      · exact List.nil_prefix

theorem byteCount_takeBytes (limit : Nat) (cs : List Char) :
    byteCount (takeBytes limit cs) ≤ limit := by
  induction cs generalizing limit with
  | nil => exact Nat.zero_le _
  | cons c rest ih =>
      rw [takeBytes]
      split
      · rename_i hfits
        have hrest := ih (limit - c.utf8Size)
        change c.utf8Size + byteCount (takeBytes _ rest) ≤ limit
        omega
      · exact Nat.zero_le _

theorem prefix_takeBytes (h : front <+: cs) (hfits : byteCount front ≤ limit) :
    front <+: takeBytes limit cs := by
  induction front generalizing limit cs with
  | nil => exact List.nil_prefix
  | cons c rest ih =>
      obtain ⟨back, rfl⟩ := h
      have hc : c.utf8Size + byteCount rest ≤ limit := hfits
      rw [List.cons_append, takeBytes, if_pos (by omega)]
      exact (List.prefix_cons_inj c).mpr (ih (List.prefix_append ..) (by omega))

theorem byteCount_prefix (h : front <+: cs) : byteCount front ≤ byteCount cs := by
  rw [byteCount_eq_utf8Len, byteCount_eq_utf8Len]
  exact String.utf8Len_le_of_prefix h

def printed (s : String) : String := String.ofList (s.toList.filter isPrintable)

theorem printed_of_printable {s : String} (h : ∀ c ∈ s.toList, Printable c) : printed s = s := by
  rw [printed, List.filter_eq_self.mpr fun c hc => isPrintable_iff.mpr (h c hc), String.ofList_toList]

theorem printed_append (s t : String) : printed (s ++ t) = printed s ++ printed t := by
  rw [printed, String.toList_append, List.filter_append, String.ofList_append]
  rfl

theorem printable_of_isDigit (h : c.isDigit = true) : Printable c := by
  simp only [Char.isDigit, Bool.and_eq_true, decide_eq_true_eq, UInt32.le_iff_toNat_le] at h
  have hlow : 48 ≤ c.toNat := h.1
  have hhigh : c.toNat ≤ 57 := h.2
  exact ⟨by omega, by omega⟩

theorem printed_toString (n : Nat) : printed (toString n) = toString n := by
  refine printed_of_printable fun c hc => printable_of_isDigit ?_
  have hdigits : (toString n).toList = Nat.toDigits 10 n := String.toList_ofList
  rw [hdigits] at hc
  exact Nat.isDigit_of_mem_toDigits (by simp) (by simp) hc

theorem printed_note (bytes : Nat) : printed ("... [truncated, " ++ toString bytes ++ " bytes total]") =
    "... [truncated, " ++ toString bytes ++ " bytes total]" := by
  have hopens : printed "... [truncated, " = "... [truncated, " := by rfl
  have hcloses : printed " bytes total]" = " bytes total]" := by rfl
  rw [printed_append, printed_append, hopens, printed_toString, hcloses]

structure Starts (limit : Nat) (front s : String) : Prop where
  aligned : ∃ back, s = front ++ back
  fits : front.utf8ByteSize ≤ limit
  longest : ∀ start back, s = start ++ back → start.utf8ByteSize ≤ limit →
    start.utf8ByteSize ≤ front.utf8ByteSize

theorem starts_takeBytes (limit : Nat) (s : String) :
    Starts limit (String.ofList (takeBytes limit s.toList)) s where
  aligned := by
    obtain ⟨back, hback⟩ := takeBytes_prefix limit s.toList
    refine ⟨String.ofList back, ?_⟩
    rw [← String.ofList_append, hback, String.ofList_toList]
  fits := by
    rw [← byteCount_toList, String.toList_ofList]
    exact byteCount_takeBytes limit s.toList
  longest start back hs hfits := by
    have hstart : start.toList <+: s.toList := ⟨back.toList, by rw [hs, String.toList_append]⟩
    rw [← byteCount_toList] at hfits ⊢
    rw [← byteCount_toList, String.toList_ofList]
    exact byteCount_prefix (prefix_takeBytes hstart hfits)

example : String.ofList (takeBytes 4 "aéé".toList) = "aé" := by decide

structure LogLine (body line : String) : Prop where
  printable : ∀ c ∈ line.toList, Printable c
  whole : body.utf8ByteSize ≤ 200 → line = printed body
  cut : 200 < body.utf8ByteSize → ∃ front, Starts 200 front body ∧
    line = printed front ++
      ("... [truncated, " ++ toString body.utf8ByteSize ++ " bytes total]")

theorem sanitizeForLog_of_long {body : String} (h : 200 < body.utf8ByteSize) :
    sanitizeForLog body = printed (String.ofList (takeBytes 200 body.toList)) ++
      ("... [truncated, " ++ toString body.utf8ByteSize ++ " bytes total]") := by
  have hshown : (String.ofList (takeBytes 200 body.toList) ++
      ("... [truncated, " ++ toString body.utf8ByteSize ++ " bytes total]")).toList =
      takeBytes 200 body.toList ++
        ("... [truncated, " ++ toString (byteCount body.toList) ++ " bytes total]").toList := by
    rw [String.toList_append, String.toList_ofList, byteCount_toList]
  have hlong : logLimit < byteCount body.toList := (byteCount_toList body).symm ▸ h
  have hline : sanitizeForLog body = printed (String.ofList (takeBytes 200 body.toList) ++
      ("... [truncated, " ++ toString body.utf8ByteSize ++ " bytes total]")) := by
    rw [printed, hshown]
    exact congrArg (fun shown => String.ofList (List.filter isPrintable shown)) (if_pos hlong)
  -- the note is cut off by nothing and passes the filter whole
  rw [hline, printed_append, printed_note]

theorem sanitizeForLog_of_short {body : String} (h : body.utf8ByteSize ≤ 200) :
    sanitizeForLog body = printed body := by
  have hshort : ¬logLimit < byteCount body.toList := by
    rw [byteCount_toList]
    exact Nat.not_lt.mpr h
  exact congrArg (fun shown => String.ofList (List.filter isPrintable shown)) (if_neg hshort)

theorem logLine_sanitizeForLog (body : String) : LogLine body (sanitizeForLog body) where
  printable c hc := by
    rw [sanitizeForLog, String.toList_ofList] at hc
    exact isPrintable_iff.mp (List.mem_filter.mp hc).2
  whole := sanitizeForLog_of_short
  cut h := ⟨_, starts_takeBytes 200 body, sanitizeForLog_of_long h⟩

structure Showable (s : String) : Prop where
  printable : ∀ c ∈ s.toList, Printable c
  short : s.length ≤ 160

def opening (s : String) : String := String.ofList ((s.toList.filter isPrintable).take 160)

theorem opening_of_showable {s : String} (h : Showable s) : opening s = s := by
  have hfilter : s.toList.filter isPrintable = s.toList :=
    List.filter_eq_self.mpr fun c hc => isPrintable_iff.mpr (h.printable c hc)
  have hlength : s.toList.length ≤ 160 := String.length_toList ▸ h.short
  rw [opening, hfilter, List.take_of_length_le hlength, String.ofList_toList]

theorem showable_opening (s : String) : Showable (opening s) where
  printable c hc := by
    rw [opening, String.toList_ofList] at hc
    exact isPrintable_iff.mp (List.mem_filter.mp (List.mem_of_mem_take hc)).2
  short := by
    rw [opening, String.length_ofList, List.length_take]
    exact Nat.min_le_left ..

theorem length_opening_lt_iff {s : String} :
    (opening s).length < byteCount s.toList ↔ ¬Showable s := by
  constructor
  · intro h hshow
    rw [opening_of_showable hshow, byteCount_of_printable hshow.printable, String.length_toList] at h
    exact Nat.lt_irrefl _ h
  · intro h
    have hsublist : (opening s).toList.Sublist s.toList := by
      rw [opening, String.toList_ofList]
      exact (List.take_sublist ..).trans List.filter_sublist
    have hle : (opening s).length ≤ s.toList.length := String.length_toList ▸ hsublist.length_le
    refine Nat.lt_of_lt_of_le (Nat.lt_of_le_of_ne hle fun hlength => ?_) (length_le_byteCount _)
    have hsame : opening s = s :=
      String.toList_inj.mp (hsublist.eq_of_length (String.length_toList.trans hlength))
    exact h (hsame ▸ showable_opening s)

theorem sanitizeMessage_eq (s : String) : sanitizeMessage s =
    if (opening s).length < byteCount s.toList then opening s ++ "..." else opening s := by
  have hlength : ((s.toList.filter isPrintable).take messageLimit).length = (opening s).length :=
    String.length_ofList.symm
  rw [sanitizeMessage]
  simp only [hlength]
  split
  · exact String.ofList_append
  · rfl

theorem sanitizeMessage_of_showable {s : String} (h : Showable s) : sanitizeMessage s = s := by
  rw [sanitizeMessage_eq, if_neg fun hlt => length_opening_lt_iff.mp hlt h, opening_of_showable h]

theorem sanitizeMessage_of_not_showable {s : String} (h : ¬Showable s) :
    sanitizeMessage s = opening s ++ "..." := by
  rw [sanitizeMessage_eq, if_pos (length_opening_lt_iff.mpr h)]

structure Bounded (line : String) : Prop where
  printable : ∀ c ∈ line.toList, Printable c
  short : line.utf8ByteSize ≤ 163

theorem bounded_of_length {line : String} (h : ∀ c ∈ line.toList, Printable c)
    (hlength : line.length ≤ 163) : Bounded line := by
  refine ⟨h, ?_⟩
  rw [← byteCount_toList, byteCount_of_printable h, String.length_toList]
  exact hlength

theorem bounded_sanitizeMessage (s : String) : Bounded (sanitizeMessage s) := by
  by_cases h : Showable s
  · rw [sanitizeMessage_of_showable h]
    exact bounded_of_length h.printable (Nat.le_trans h.short (by simp))
  · rw [sanitizeMessage_of_not_showable h]
    have hopening := showable_opening s
    refine bounded_of_length (fun c hc => ?_) ?_
    · rw [String.toList_append, List.mem_append] at hc
      rcases hc with hc | hc
      · exact hopening.printable c hc
      · obtain rfl : c = '.' := by simpa using hc
        exact ⟨by decide, by decide⟩
    · rw [String.length_append]
      exact Nat.add_le_add_right hopening.short 3

end Text

open Text (Bounded LogLine Showable opening)

theorem bounded_statusSummary {status : Nat} {text : String} (h : statusSummary? status = some text) :
    Bounded text := by
  have hall : ∀ s : String, s.toList.all Text.isPrintable = true → s.length ≤ 163 → Bounded s :=
    fun s hs => Text.bounded_of_length fun c hc => Text.isPrintable_iff.mp (List.all_eq_true.mp hs c hc)
  unfold statusSummary? at h
  split at h
  all_goals first
    | exact Option.some.inj h ▸ hall _ rfl (by decide)
    | exact absurd h (by simp)

structure TerminalLine (e : Error) (shown line : String) : Prop where
  bounded : Bounded line
  fixed : ∀ text, e.status?.bind statusSummary? = some text → line = text
  whole : e.status?.bind statusSummary? = none → Showable shown → line = shown
  shortened : e.status?.bind statusSummary? = none → ¬Showable shown → line = opening shown ++ "..."

theorem terminalLine_line (e : Error) (shown : String) : TerminalLine e shown (e.line shown) := by
  rw [Error.line]
  cases hfixed : e.status?.bind statusSummary? with
  | some text =>
      obtain ⟨status, -, hstatus⟩ := Option.bind_eq_some_iff.mp hfixed
      exact ⟨bounded_statusSummary hstatus, by simp [hfixed], by simp [hfixed], by simp [hfixed]⟩
  | none =>
      exact ⟨Text.bounded_sanitizeMessage shown, by simp [hfixed],
        fun _ => Text.sanitizeMessage_of_showable, fun _ => Text.sanitizeMessage_of_not_showable⟩

theorem foreign_text_neutralized (body : String) (e : Error) (shown : String) :
    LogLine body (Text.sanitizeForLog body) ∧ TerminalLine e shown (e.line shown) ∧
      TerminalLine e e.message e.summary :=
  ⟨Text.logLine_sanitizeForLog body, terminalLine_line e shown, terminalLine_line e e.message⟩

end ControlPlane
