import CallContract.Pattern.Meaning
import CallContract.Proofs.Grammar

/-!
# The texts of descriptors

**Theorem (`descriptor_texts`).** What a text names has this text, so that no two texts name one
descriptor. In the other direction the text of a kind names it, and the text of a pattern names what
the compiler makes of its source, whatever the source is; if the source does not compile, that is
the error. Texts of kinds and patterns in a list stand for the union of what each of them names, in
their order. No other descriptor can be written down by its text.

So a pattern is read back from its text, with the same source, just if its source compiles. A
pattern that was compiled elsewhere, under other settings, need not have such a source
(`octal_pattern_not_reread`).

The grammar says of each name what it stands for (`Grammar.Name`). Turned around, it says that a
text names the descriptors of this text that are read back from it (`Grammar.name_iff`).
-/

namespace CallContract

namespace Descriptor

/-- The descriptors that are written by name. -/
inductive Named : Descriptor → Prop
  | kind (k : Kind) : Named (.kind k)
  | pattern (p : Pattern) : Named (.pattern p)

/-- The second descriptor is what the text of the first one is read as: the same kind, or the
pattern that is compiled from the same source. -/
inductive Rereads [PatternCompiler] : Descriptor → Descriptor → Prop
  | kind (k : Kind) : Rereads (.kind k) (.kind k)
  | pattern {p q : Pattern} (compiles : Pattern.ofSource? p.source = some q) :
      Rereads (.pattern p) (.pattern q)

end Descriptor

namespace Grammar

variable [PatternCompiler] {text : String} {d d' : Descriptor} {members ds : List Descriptor}

/-- **A text names what has this text and is read back from it.** -/
theorem name_iff : Name text d ↔ d.Rereads d ∧ d.text = text := by
  constructor
  · intro h
    cases h with
    | kind k => exact ⟨.kind k, rfl⟩
    | pattern compiles =>
      obtain rfl := Pattern.source_of_ofSource? compiles
      exact ⟨.pattern compiles, rfl⟩
  · rintro ⟨hrereads, rfl⟩
    cases hrereads with
    | kind k => exact .kind k
    | pattern compiles => exact .pattern compiles

theorem ofName_text_self_iff : Descriptor.ofName d.text = .ok d ↔ d.Rereads d := by
  rw [ofName_ok_iff, name_iff, and_iff_left rfl]

/-- Between slashes anything is the source of a pattern, slashes too. -/
theorem ofName_slashes (source : String) :
    Descriptor.ofName ("/" ++ source ++ "/") =
      match Pattern.ofSource? source with
      | some p => .ok (.pattern p)
      | none => .error (.invalidPattern source) := by
  have hsource : Descriptor.patternSource? ("/" ++ source ++ "/") = some source :=
    patternSource?_eq_some_iff.2 rfl
  unfold Descriptor.ofName
  split
  case h_1 hfound =>
    cases hfound.symm.trans hsource
    rfl
  case h_2 hnone => cases hnone.symm.trans hsource

/-- The text of a kind or a pattern is read as the grammar of names says. -/
theorem ofName_text_iff (hd : d.Named) : Descriptor.ofName d.text = .ok d' ↔ d.Rereads d' := by
  cases hd with
  | kind k =>
    have htext : Descriptor.ofName (Descriptor.kind k).text = .ok (.kind k) :=
      ofName_ok_iff.2 (.kind k)
    rw [htext]
    constructor
    · rintro ⟨⟩
      exact .kind k
    · rintro ⟨⟩
      rfl
  | pattern p =>
    have htext := ofName_slashes p.source
    constructor
    · intro h
      split at htext
      case h_1 q hq =>
        cases htext.symm.trans h
        exact .pattern hq
      case h_2 => cases htext.symm.trans h
    · rintro ⟨⟩
      case pattern q compiles =>
        rw [compiles] at htext
        exact htext

/-- The texts of some descriptors are members of a list that are read one by one. -/
theorem forall₂_member_texts_iff (hmembers : ∀ d ∈ members, d.Named) :
    List.Forall₂ Member (members.map fun d => .name d.text) ds ↔
      List.Forall₂ Descriptor.Rereads members ds := by
  have hmember {d d' : Descriptor} (hd : d.Named) : Member (.name d.text) d' ↔ d.Rereads d' := by
    rw [← ofName_text_iff hd, ofName_ok_iff]
    constructor
    · rintro ⟨named⟩
      exact named
    · exact .name
  induction members generalizing ds with
  | nil => simp
  | cons d members ih =>
    obtain ⟨hd, hmembers⟩ := List.forall_mem_cons.1 hmembers
    simp only [List.map_cons, List.forall₂_cons_left_iff, hmember hd, ih hmembers]

theorem toDescriptor_texts_iff (hmembers : ∀ d ∈ members, d.Named) :
    (RawSchema.list (members.map fun d => .name d.text)).toDescriptor = .ok d ↔
      members ≠ [] ∧ ∃ ds, List.Forall₂ Descriptor.Rereads members ds ∧ d = .union ds := by
  rw [RawSchema.toDescriptor, toDescriptorOf_ok_iff]
  constructor
  · intro h
    cases h with
    | union nonempty each =>
      exact ⟨mt (fun h => by rw [h, List.map_nil]) nonempty, _,
        (forall₂_member_texts_iff hmembers).1 each, rfl⟩
  · rintro ⟨hnonempty, ds, heach, rfl⟩
    exact .union (mt List.map_eq_nil_iff.1 hnonempty) ((forall₂_member_texts_iff hmembers).2 heach)

end Grammar

/-- How names in schemas and the texts of descriptors belong together. -/
structure DescriptorTexts [PatternCompiler] : Prop where
  /-- What a text names has this text. -/
  text_eq : ∀ {text d}, Descriptor.ofName text = .ok d → d.text = text
  /-- Different texts name different descriptors. -/
  ne_of_ne : ∀ {text text' d d'}, Descriptor.ofName text = .ok d →
    Descriptor.ofName text' = .ok d' → text ≠ text' → d ≠ d'
  /-- A kind is named by its text. -/
  kind : ∀ k : Kind, Descriptor.ofName (Descriptor.kind k).text = .ok (.kind k)
  /-- A pattern whose source compiles has a text that names a pattern of the same source, … -/
  pattern : ∀ p q : Pattern, Pattern.ofSource? p.source = some q →
    Descriptor.ofName (Descriptor.pattern p).text = .ok (.pattern q) ∧ q.source = p.source
  /-- … and the text of any other pattern is refused for its source. -/
  noPattern : ∀ p : Pattern, Pattern.ofSource? p.source = none →
    Descriptor.ofName (Descriptor.pattern p).text = .error (.invalidPattern p.source)
  /-- Nothing else is named by its text. -/
  ofName_text_self_iff : ∀ d : Descriptor, Descriptor.ofName d.text = .ok d ↔ d.Rereads d
  /-- A text between slashes is a source, also if it is empty or has slashes in it or at an end. -/
  ofName_slashes : ∀ source, Descriptor.ofName ("/" ++ source ++ "/") =
    match Pattern.ofSource? source with
    | some p => .ok (.pattern p)
    | none => .error (.invalidPattern source)
  /-- The texts of kinds and patterns stand for the union of what they name, in their order, if
  there are any and each names something, and not otherwise. -/
  toDescriptor_texts_iff : ∀ members : List Descriptor, (∀ d ∈ members, d.Named) → ∀ d,
    (RawSchema.list (members.map fun d => .name d.text)).toDescriptor = .ok d ↔
      members ≠ [] ∧ ∃ ds, List.Forall₂ Descriptor.Rereads members ds ∧ d = .union ds

/-- **Texts and names are inverse**, for patterns as far as their sources compile. -/
theorem descriptor_texts [PatternCompiler] : DescriptorTexts where
  text_eq h := (Grammar.name_iff.1 (Grammar.ofName_ok_iff.1 h)).2
  ne_of_ne h h' hne heq := by
    subst heq
    rw [Grammar.ofName_ok_iff, Grammar.name_iff] at h h'
    exact hne (h.2.symm.trans h'.2)
  kind k := Grammar.ofName_ok_iff.2 (.kind k)
  pattern p q hq :=
    ⟨(Grammar.ofName_text_iff (.pattern p)).2 (.pattern hq), Pattern.source_of_ofSource? hq⟩
  noPattern p hp := by
    have htext := Grammar.ofName_slashes p.source
    rw [hp] at htext
    exact htext
  ofName_text_self_iff _ := Grammar.ofName_text_self_iff
  ofName_slashes := Grammar.ofName_slashes
  toDescriptor_texts_iff _ hmembers _ := Grammar.toDescriptor_texts_iff hmembers

/-- Two slashes enclose the empty source; one slash encloses nothing. -/
example [PatternCompiler] :
    Descriptor.patternSource? "//" = some "" ∧
      Descriptor.ofName "/" = .error (.unknownKind "/") :=
  ⟨rfl, rfl⟩

open scoped Pattern.Regex

/-- A pattern that was compiled with octal escapes switched on, which are no escapes otherwise. -/
theorem octal_pattern_not_reread :
    let octal : Pattern := { source := "\\141", isMatch := fun text => text.contains 'a' }
    (Descriptor.pattern octal).text = "/\\141/" ∧
      Descriptor.ofName "/\\141/" = .error (.invalidPattern "\\141") := by
  have hrefused : (Pattern.ofSource? "\\141").isNone = true := by decide +kernel
  refine ⟨rfl, ?_⟩
  have htext := Grammar.ofName_slashes "\\141"
  rw [Option.isNone_iff_eq_none.1 hrefused] at htext
  exact htext

end CallContract
