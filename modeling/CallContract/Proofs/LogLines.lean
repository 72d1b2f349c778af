import CallContract.Proofs.JsonReadBack
import CallContract.Proofs.Tally
import Mathlib.Data.List.Basic

/-!
# Log lines

**Theorem (`log_tells`).** With a library that escapes what it quotes, a line of the log is one JSON
object, and what it was made of is read back from it: the event, the severity, and the fields in the
order of their names. There is no line feed in it, whatever texts it was made of, so the text of the
log tells its lines apart, and the diagnostics that were written to it.

What a text is in JSON is said by the reader of this project, whatever library has quoted it. A line
consists of the texts of its members (`Log.toList_line`), from which they are read. Whatever stands
between quotes has no control character, hence no line feed (`Log.printable_of_mem_line`).
-/

namespace CallContract

theorem Severity.name_injective : Function.Injective Severity.name := by
  rintro (_ | _ | _ | _) (_ | _ | _ | _) h <;> first | rfl | exact absurd h (by decide)

namespace Log

/-! ## The order of the fields -/

/-- The second list has the fields of the first one in the order of their names, and fields of one
name in the given order. -/
structure StablySorted (fields sorted : List (String × String)) : Prop where
  ordered : sorted.Pairwise fun a b => a.1 ≤ b.1
  perm : sorted.Perm fields
  stable : ∀ name, (sorted.filter fun f => f.1 = name) = fields.filter fun f => f.1 = name

theorem stablySorted_sorted (fields : List (String × String)) :
    StablySorted fields (sorted fields) := by
  have htrans (a b c : String × String) (hab : decide (a.1 ≤ b.1) = true)
      (hbc : decide (b.1 ≤ c.1) = true) : decide (a.1 ≤ c.1) = true :=
    decide_eq_true (String.le_trans (of_decide_eq_true hab) (of_decide_eq_true hbc))
  have htotal (a b : String × String) : (decide (a.1 ≤ b.1) || decide (b.1 ≤ a.1)) = true := by
    simpa using String.le_total a.1 b.1
  have hperm : (sorted fields).Perm fields := List.mergeSort_perm fields _
  refine ⟨(List.pairwise_mergeSort htrans htotal fields).imp of_decide_eq_true, hperm,
    fun name => ?_⟩
  -- fields of one name are in order already, so the sort keeps them as they stand
  have hsame : (fields.filter fun f => f.1 = name).Pairwise
      fun a b => decide (a.1 ≤ b.1) = true := by
    refine List.pairwise_filter.2 (List.pairwise_of_forall fun a b ha hb => ?_)
    simp_all
  have hsublist : (fields.filter fun f => f.1 = name).Sublist (sorted fields) :=
    List.sublist_mergeSort htrans htotal hsame List.filter_sublist
  have hfilter := hsublist.filter fun f => f.1 = name
  rw [List.filter_filter] at hfilter
  simp only [Bool.and_self] at hfilter
  exact (hfilter.eq_of_length ((hperm.filter _).length_eq.symm)).symm

/-- Fields of distinct names are sorted in the same way, whatever their order. -/
theorem sorted_eq_of_perm {fields fields' : List (String × String)} (hperm : fields.Perm fields')
    (hnames : (fields.map Prod.fst).Nodup) : sorted fields = sorted fields' := by
  obtain ⟨hordered, hsorted, -⟩ := stablySorted_sorted fields
  obtain ⟨hordered', hsorted', -⟩ := stablySorted_sorted fields'
  refine List.Perm.eq_of_pairwise (fun a b ha hb hab hba => ?_) hordered hordered'
    (hsorted.trans (hperm.trans hsorted'.symm))
  exact List.inj_on_of_nodup_map hnames (hsorted.mem_iff.1 ha)
    (hperm.mem_iff.2 (hsorted'.mem_iff.1 hb)) (String.le_antisymm hab hba)

/-! ## A line as a document -/

/-- The entries of a line. -/
def entries (severity : Severity) (event : String) (fields : List (String × String)) :
    List (String × String) :=
  ("event", event) :: ("severity", severity.name) :: sorted fields

/-- Texts under names, as the members of an object. -/
def toMembers (entries : List (String × String)) : List (String × Json) :=
  entries.map fun e => (e.1, .string e.2)

theorem toMembers_injective : Function.Injective toMembers := by
  refine List.map_injective_iff.2 fun e e' h => ?_
  obtain ⟨hname, hvalue⟩ := Prod.mk.inj h
  exact Prod.ext hname (Json.string.inj hvalue)

theorem printable_of_mem_joined {parts : List (List Char)} {c : Char}
    (hparts : ∀ part ∈ parts, ∀ c ∈ part, 0x20 ≤ c.toNat) (h : c ∈ Json.joined parts) :
    0x20 ≤ c.toNat := by
  induction parts with
  | nil => cases h
  | cons part parts ih =>
    obtain ⟨hpart, hmore⟩ := List.forall_mem_cons.1 hparts
    cases parts with
    | nil => exact hpart c (by simpa [Json.joined] using h)
    | cons next parts =>
      rw [Json.joined_cons_cons, List.mem_append, List.mem_cons] at h
      rcases h with h | rfl | h
      · exact hpart c h
      · decide
      · exact ih hmore h

section Line

variable [JsonLibrary] (severity : Severity) (event : String) (fields : List (String × String))

/-- The text of a member, given the text of its name. -/
def memberText (quoted : List Char) (value : String) : List Char :=
  quoted ++ ':' :: (JsonLibrary.quote value).toList

/-- The texts of the members of a line. -/
def memberTexts : List (List Char) :=
  memberText "\"event\"".toList event :: memberText "\"severity\"".toList severity.name ::
    (sorted fields).map fun f => memberText (JsonLibrary.quote f.1).toList f.2

theorem toList_line :
    (line severity event fields).toList =
      '\x7b' :: (Json.joined (memberTexts severity event fields) ++ ['\x7d']) := by
  have hfields : (String.join ((sorted fields).map fun f => entry f.1 f.2)).toList =
      ((sorted fields).map fun f => memberText (JsonLibrary.quote f.1).toList f.2).flatMap
        (',' :: ·) := by
    rw [String.toList_join, List.flatMap_map, List.flatMap_map]
    refine List.flatMap_congr fun f _ => ?_
    simp [entry, memberText]
  rw [memberTexts, Json.joined_cons, List.flatMap_cons, ← hfields, line]
  simp [memberText]

variable (hlibrary : JsonLibrary.Escapes)
include hlibrary

theorem isMemberText {name : String} {quoted : List Char} (h : Json.IsQuoted name quoted)
    (value : String) :
    Json.MemberText (fun _ => Json.inner) (name, .string value) (memberText quoted value) :=
  ⟨quoted, _, h, Json.readsFrom_string rfl (hlibrary value), rfl⟩

theorem forall₂_memberTexts :
    List.Forall₂ (Json.MemberText fun _ => Json.inner) (toMembers (entries severity event fields))
      (memberTexts severity event fields) := by
  have hevent := isMemberText hlibrary (Json.isQuoted_quoteChars "event") event
  have hseverity := isMemberText hlibrary (Json.isQuoted_quoteChars "severity") severity.name
  refine .cons hevent (.cons hseverity ?_)
  generalize sorted fields = fields
  induction fields with
  | nil => exact .nil
  | cons f fields ih => exact .cons (isMemberText hlibrary (hlibrary f.1) f.2) ih

/-- **The entries of a line are read back** one by one. -/
theorem readObject?_line :
    Json.readObject? (fun _ => Json.inner) (line severity event fields) =
      some (toMembers (entries severity event fields)) :=
  Json.readObject?_of_memberTexts (forall₂_memberTexts severity event fields hlibrary)
    (toList_line severity event fields)

theorem read?_line :
    Json.read? (line severity event fields) =
      some (.object (Json.lastFields (toMembers (entries severity event fields)))) :=
  Json.read?_of_memberTexts (forall₂_memberTexts severity event fields hlibrary)
    (toList_line severity event fields)

/-- A line tells its event, its severity and its sorted fields. -/
theorem eq_of_line_eq {severity severity' : Severity} {event event' : String}
    {fields fields' : List (String × String)}
    (h : line severity event fields = line severity' event' fields') :
    event = event' ∧ severity = severity' ∧ sorted fields = sorted fields' := by
  have hread := readObject?_line severity event fields hlibrary
  rw [h, readObject?_line _ _ _ hlibrary, Option.some.injEq, toMembers_injective.eq_iff] at hread
  simp only [entries, List.cons.injEq, Prod.mk.injEq, true_and] at hread
  obtain ⟨hevent, hseverity, hfields⟩ := hread
  exact ⟨hevent.symm, (Severity.name_injective hseverity).symm, hfields.symm⟩

/-! ## Line feeds -/

theorem printable_of_mem_memberText {name value : String} {quoted : List Char} {c : Char}
    (h : Json.IsQuoted name quoted) (hc : c ∈ memberText quoted value) : 0x20 ≤ c.toNat := by
  rw [memberText, List.mem_append, List.mem_cons] at hc
  rcases hc with hc | rfl | hc
  · exact h.printable hc
  · decide
  · exact (hlibrary value).printable hc

/-- **A line has no control character in it.** -/
theorem printable_of_mem_line {c : Char} (h : c ∈ (line severity event fields).toList) :
    0x20 ≤ c.toNat := by
  rw [toList_line, List.mem_cons, List.mem_append, List.mem_singleton] at h
  rcases h with rfl | h | rfl
  · decide
  · refine printable_of_mem_joined (fun part hpart c hc => ?_) h
    simp only [memberTexts, List.mem_cons, List.mem_map] at hpart
    rcases hpart with rfl | rfl | ⟨f, -, rfl⟩
    · exact printable_of_mem_memberText hlibrary (Json.isQuoted_quoteChars "event") hc
    · exact printable_of_mem_memberText hlibrary (Json.isQuoted_quoteChars "severity") hc
    · exact printable_of_mem_memberText hlibrary (hlibrary f.1) hc
  · decide

theorem lineFeed_notMem_line : '\n' ∉ (line severity event fields).toList := fun h =>
  absurd (printable_of_mem_line severity event fields hlibrary h) (by decide)

end Line

end Log

/-! ## Diagnostics in the log -/

section Diagnostics

variable [JsonLibrary] (hlibrary : JsonLibrary.Escapes)

section Line

include hlibrary

/-- **A line tells the guard and the field** of its diagnostic. -/
theorem Diagnostic.logLine_injective : Function.Injective Diagnostic.logLine := by
  rintro ⟨guard, field⟩ ⟨guard', field'⟩ h
  obtain ⟨-, -, hsorted⟩ := Log.eq_of_line_eq hlibrary h
  have hfields (name : String) := congrArg (List.filter fun f => f.1 = name) hsorted
  simp only [(Log.stablySorted_sorted _).stable] at hfields
  have hfield : field = field' := by simpa [Diagnostic.logEvent] using hfields "field"
  have hguard : guard = guard' := by simpa [Diagnostic.logEvent] using hfields "guard"
  rw [hfield, hguard]

theorem Diagnostic.lineFeed_notMem_logLine (d : Diagnostic) : '\n' ∉ d.logLine.toList :=
  Log.lineFeed_notMem_line .warn event [("field", d.field), ("guard", d.guard)] hlibrary

/-- A line is cut off at its line feed. -/
theorem Diagnostic.span_logLine (d : Diagnostic) (rest : List Char) :
    (d.logLine.toList ++ '\n' :: rest).takeWhile (· ≠ '\n') = d.logLine.toList ∧
      (d.logLine.toList ++ '\n' :: rest).dropWhile (· ≠ '\n') = '\n' :: rest := by
  refine span_boundary (fun c hc => ?_) (by simp)
  exact decide_eq_true fun hfeed => d.lineFeed_notMem_logLine hlibrary (hfeed ▸ hc)

end Line

namespace Ledger

variable (l : Ledger) (ds : List Diagnostic)

/-- The text of the log, each line with its line feed. -/
def logText : List Char := l.logLines.flatMap fun line => line.toList ++ ['\n']

theorem logLines_deliverAll :
    (l.deliverAll .log ds).logLines = l.logLines ++ ds.map Diagnostic.logLine := by
  induction ds generalizing l with
  | nil => exact (List.append_nil _).symm
  | cons d ds ih =>
    show ((l.deliver .log d).deliverAll .log ds).logLines = _
    rw [ih, deliver, logLines, List.map_append, List.append_assoc]
    rfl

theorem logText_deliverAll :
    (l.deliverAll .log ds).logText =
      l.logText ++ ds.flatMap fun d => d.logLine.toList ++ ['\n'] := by
  rw [logText, logLines_deliverAll, List.flatMap_append, List.flatMap_map, logText]

include hlibrary

/-- **The diagnostics that were written can be told from the text of the log.** -/
theorem deliverAll_injective {ds ds' : List Diagnostic}
    (h : (l.deliverAll .log ds).logText = (l.deliverAll .log ds').logText) : ds = ds' := by
  rw [logText_deliverAll, logText_deliverAll, List.append_cancel_left_eq] at h
  induction ds generalizing ds' with
  | nil =>
    cases ds' with
    | nil => rfl
    | cons d' ds' => simp at h
  | cons d ds ih =>
    cases ds' with
    | nil => simp at h
    | cons d' ds' =>
      rw [List.flatMap_cons, List.flatMap_cons, List.append_assoc, List.append_assoc,
        List.singleton_append, List.singleton_append] at h
      have hline := congrArg (List.takeWhile (· ≠ '\n')) h
      have hmore := congrArg (List.dropWhile (· ≠ '\n')) h
      rw [(d.span_logLine hlibrary _).1, (d'.span_logLine hlibrary _).1, String.toList_inj] at hline
      rw [(d.span_logLine hlibrary _).2, (d'.span_logLine hlibrary _).2, List.cons.injEq] at hmore
      rw [Diagnostic.logLine_injective hlibrary hline, ih hmore.2]

/-- Each diagnostic adds one line feed to the text of the log. -/
theorem count_lineFeed_deliverAll :
    (l.deliverAll .log ds).logText.count '\n' = l.logText.count '\n' + ds.length := by
  have hline (d : Diagnostic) : (d.logLine.toList ++ ['\n']).count '\n' = 1 := by
    rw [List.count_append, List.count_eq_zero_of_not_mem (d.lineFeed_notMem_logLine hlibrary),
      List.count_singleton_self]
  rw [logText_deliverAll, List.count_append, List.count_flatMap]
  simp only [Function.comp_def, hline, List.map_const', List.sum_replicate_nat, Nat.mul_one]

end Ledger

end Diagnostics

/-! ## The theorem -/

namespace Log

/-- The text is the line of an event, without its line feed. -/
structure IsLine (severity : Severity) (event : String) (fields : List (String × String))
    (text : String) : Prop where
  /-- There is no other line feed. -/
  single : '\n' ∉ text.toList
  /-- The text is one object. Its entries, read back, are the event, the severity, and the fields as
  they were given, sorted by their names. -/
  entries : ∃ sorted, StablySorted fields sorted ∧
    let entries := toMembers (("event", event) :: ("severity", severity.name) :: sorted)
    Json.readObject? (fun _ => Json.inner) text = some entries ∧
      Json.read? text = some (.object (Json.lastFields entries))

end Log

/-- What can be told from the lines of the log. -/
structure LogTells [JsonLibrary] : Prop where
  /-- An event is written as its line with a line feed at the end. -/
  line : ∀ severity event fields, ∃ text,
    Log.formatted severity event fields = text ++ "\n" ∧ Log.IsLine severity event fields text
  /-- The order of fields of distinct names does not matter. -/
  unordered : ∀ severity event (fields fields' : List (String × String)),
    (fields.map Prod.fst).Nodup → fields.Perm fields' →
    Log.formatted severity event fields = Log.formatted severity event fields'
  /-- Diagnostics are written to the log as one line each, … -/
  lines : ∀ (l : Ledger) (ds : List Diagnostic),
    (l.deliverAll .log ds).logLines = l.logLines ++ ds.map Diagnostic.logLine ∧
      (l.deliverAll .log ds).logText = l.logText ++ ds.flatMap (fun d =>
        (Log.formatted .warn Diagnostic.event [("field", d.field), ("guard", d.guard)]).toList) ∧
      (l.deliverAll .log ds).logText.count '\n' = l.logText.count '\n' + ds.length
  /-- … different ones as different lines … -/
  distinct : ∀ d d' : Diagnostic, d.guard ≠ d'.guard ∨ d.field ≠ d'.field → d.logLine ≠ d'.logLine
  /-- … so that they can be told from the text of the log. -/
  told : ∀ (l : Ledger) (ds ds' : List Diagnostic),
    (l.deliverAll .log ds).logText = (l.deliverAll .log ds').logText → ds = ds'

/-- **A line of the log tells what it was made of**, whatever texts it was made of, if the library
escapes them. -/
theorem log_tells [JsonLibrary] (hlibrary : JsonLibrary.Escapes) : LogTells where
  line severity event fields := by
    refine ⟨Log.line severity event fields, rfl,
      Log.lineFeed_notMem_line severity event fields hlibrary, Log.sorted fields,
      Log.stablySorted_sorted fields, ?_, ?_⟩
    · exact Log.readObject?_line severity event fields hlibrary
    · exact Log.read?_line severity event fields hlibrary
  unordered severity event fields fields' hnames hperm := by
    rw [Log.formatted, Log.formatted, Log.line, Log.line, Log.sorted_eq_of_perm hperm hnames]
  lines l ds := by
    refine ⟨l.logLines_deliverAll ds, ?_, l.count_lineFeed_deliverAll hlibrary ds⟩
    simp only [l.logText_deliverAll ds, Log.formatted, Diagnostic.logLine, LogEvent.line,
      String.toList_append]
    rfl
  distinct d d' h hline := by
    cases Diagnostic.logLine_injective hlibrary hline
    simp at h
  told l _ _ h := l.deliverAll_injective hlibrary h

open scoped Json.Plain

/-- The quoting of this project escapes, so its lines tell what they were made of. -/
theorem log_tells_plain : JsonLibrary.Escapes ∧ LogTells :=
  ⟨Json.Plain.escapes, log_tells Json.Plain.escapes⟩

end CallContract
