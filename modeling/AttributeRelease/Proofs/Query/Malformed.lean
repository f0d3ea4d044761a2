import AttributeRelease.Proofs.Query.Spelling

/-!
Which texts are no templates.

A text is refused for the first placeholder that is not complete, at the byte where it starts: for
want of a name if it is closed, and as unterminated if it is not. Everything before that placeholder
is a template by itself.
-/

namespace AttributeRelease.Proofs.Malformed

open QueryTemplate TemplateSegment
open AttributeRelease.Proofs.Spelling

/-- A text goes up to the end of a complete placeholder, unless nothing is in it. -/
def EndsComplete (s : List Char) : Prop :=
  ∃ raw, Legible raw ∧ (∀ x ∈ raw.getLast?, isLiteral x = false) ∧ spell raw = s

/-- The first opening behind the last complete placeholder divides a source, in what is before it,
a template by itself, and what is after it. -/
structure OpensBetween (before after source : String) : Prop where
  source_eq : source = before ++ .ofList opening ++ after
  template : ∃ t, ofText before = .ok t
  first : ∃ done gap, EndsComplete done ∧ ¬ opening <:+: gap ∧ before.toList = done ++ gap

/-- At a byte starts the first placeholder that is not complete, and nothing closes it. -/
def UnclosedAt (source : String) (n : ℕ) : Prop :=
  ∃ before after, OpensBetween before after source ∧ before.utf8ByteSize = n ∧
    closing ∉ after.toList

/-- At a byte starts the first placeholder that is not complete, and up to where it is closed there
is nothing but white space. -/
def UnnamedAt (source : String) (n : ℕ) : Prop :=
  ∃ before name after, OpensBetween before (name ++ .singleton closing ++ after) source ∧
    before.utf8ByteSize = n ∧ closing ∉ name.toList ∧ Text.isBlank name = true

/-- Behind the last placeholder of some segments there is at most a literal text. -/
lemma exists_gap {raw : List TemplateSegment} (h : Legible raw) :
    ∃ done gap, EndsComplete done ∧ ¬ opening <:+: gap ∧ spell raw = done ++ gap := by
  have hnone : ¬ opening <:+: [] := fun h => by cases List.infix_nil.1 h
  rcases List.eq_nil_or_concat' raw with rfl | ⟨init, s, rfl⟩
  · exact ⟨[], [], ⟨[], h, by simp, rfl⟩, hnone, rfl⟩
  · cases s with
    | param name => exact ⟨_, [], ⟨_, h, by simp [isLiteral], rfl⟩, hnone, by simp⟩
    | literal text =>
      obtain ⟨hinit, -, hmeet⟩ := List.isChain_append.1 h.apart
      have hlegible : Legible init :=
        ⟨⟨fun t ht => h.literals t (List.mem_append_left _ ht), hinit⟩,
          fun name hname => h.names name (List.mem_append_left _ hname)⟩
      have hlast : ∀ x ∈ init.getLast?, isLiteral x = false := by
        intro x hx
        have hx' := hmeet x hx _ rfl
        simpa [isLiteral] using hx'
      refine ⟨spell init, text, ⟨init, hlegible, hlast, rfl⟩, ?_, by simp [spelled]⟩
      exact (h.literals text (by simp)).2

lemma opensBetween_print {raw : List TemplateSegment} (h : Legible raw) (after : List Char) :
    OpensBetween (print raw) (.ofList after) (.ofList (spell raw ++ (opening ++ after))) where
  source_eq := by rw [String.ofList_append, String.ofList_append, print, String.append_assoc]
  template := ⟨_, ofText_print h⟩
  first := by
    rw [print, String.toList_ofList]
    exact exists_gap h

/-- What is before such an opening spells segments out. -/
lemma OpensBetween.exists_legible {before after source : String}
    (h : OpensBetween before after source) : ∃ raw, Legible raw ∧
      before.utf8ByteSize = String.utf8Len (spell raw) ∧
      source = .ofList (spell raw ++ (opening ++ after.toList)) := by
  obtain ⟨t, ht⟩ := h.template
  obtain ⟨raw, hraw, rfl, -⟩ := print_of_ofText_eq_ok ht
  refine ⟨raw, hraw, String.utf8ByteSize_ofList _, ?_⟩
  rw [h.source_eq, String.ofList_append, String.ofList_append, String.ofList_toList, print,
    String.append_assoc]

lemma unclosedAt_iff {source : String} {n : ℕ} :
    UnclosedAt source n ↔ ∃ raw after, Legible raw ∧ closing ∉ after ∧
      String.utf8Len (spell raw) = n ∧ source = .ofList (spell raw ++ (opening ++ after)) := by
  constructor
  · rintro ⟨before, after, hopens, rfl, hclosing⟩
    obtain ⟨raw, hraw, hsize, hsource⟩ := hopens.exists_legible
    exact ⟨raw, after.toList, hraw, hclosing, hsize.symm, hsource⟩
  · rintro ⟨raw, after, hraw, hclosing, rfl, rfl⟩
    exact ⟨print raw, .ofList after, opensBetween_print hraw after,
      String.utf8ByteSize_ofList _, by rwa [String.toList_ofList]⟩

lemma unnamedAt_iff {source : String} {n : ℕ} :
    UnnamedAt source n ↔ ∃ raw name after, Legible raw ∧ closing ∉ name ∧
      name.all Text.isWhite = true ∧ String.utf8Len (spell raw) = n ∧
      source = .ofList (spell raw ++ (opening ++ (name ++ closing :: after))) := by
  constructor
  · rintro ⟨before, name, after, hopens, rfl, hclosing, hblank⟩
    obtain ⟨raw, hraw, hsize, hsource⟩ := hopens.exists_legible
    refine ⟨raw, name.toList, after.toList, hraw, hclosing, hblank, hsize.symm, ?_⟩
    rw [hsource]
    simp
  · rintro ⟨raw, name, after, hraw, hclosing, hblank, rfl, rfl⟩
    have hopens := opensBetween_print hraw (name ++ closing :: after)
    have hafter : String.ofList (name ++ closing :: after) =
        .ofList name ++ .singleton closing ++ .ofList after := by
      rw [String.singleton_eq_ofList, ← String.ofList_append, ← String.ofList_append,
        List.append_assoc]
      rfl
    rw [hafter] at hopens
    exact ⟨print raw, .ofList name, .ofList after, hopens, String.utf8ByteSize_ofList _,
      by rwa [String.toList_ofList], by rwa [Text.isBlank, String.toList_ofList]⟩

variable {source : String} {n : ℕ}

lemma UnclosedAt.ofText (h : UnclosedAt source n) :
    ofText source = .error (.unterminated n) := by
  obtain ⟨raw, after, hraw, hclosing, rfl, rfl⟩ := unclosedAt_iff.1 h
  exact ofText_unclosed hraw hclosing

lemma UnnamedAt.ofText (h : UnnamedAt source n) : ofText source = .error (.emptyName n) := by
  obtain ⟨raw, name, after, hraw, hclosing, hblank, rfl, rfl⟩ := unnamedAt_iff.1 h
  exact ofText_unnamed hraw hclosing hblank after

/-- A text is a template, or one of its placeholders is the first that is not complete. -/
lemma template_or_fault (source : String) : (∃ t, ofText source = .ok t) ∨
    (∃ n, UnclosedAt source n) ∨ ∃ n, UnnamedAt source n := by
  obtain ⟨raw, rest, hraw, hrest, hsource⟩ := exists_legible source.toList
  obtain rfl : source = .ofList (spell raw ++ rest) := by
    rw [← hsource, String.ofList_toList]
  cases hrest with
  | complete =>
    rw [List.append_nil]
    exact .inl ⟨_, ofText_print hraw⟩
  | unclosed hclosing =>
    exact .inr (.inl ⟨_, unclosedAt_iff.2 ⟨raw, _, hraw, hclosing, rfl, rfl⟩⟩)
  | unnamed hclosing hblank after =>
    exact .inr (.inr ⟨_, unnamedAt_iff.2 ⟨raw, _, after, hraw, hclosing, hblank, rfl, rfl⟩⟩)

/-- **What is reported of a text that is no template**, and at which byte. -/
theorem ofText_reports (source : String) :
    (∀ n, ofText source = .error (.unterminated n) ↔ UnclosedAt source n) ∧
    (∀ n, ofText source = .error (.emptyName n) ↔ UnnamedAt source n) ∧
    ((∃ t, ofText source = .ok t) ↔ ∀ n, ¬ UnclosedAt source n ∧ ¬ UnnamedAt source n) := by
  have hfate := template_or_fault source
  refine ⟨fun n => ⟨fun h => ?_, UnclosedAt.ofText⟩, fun n => ⟨fun h => ?_, UnnamedAt.ofText⟩,
    ⟨?_, fun h => ?_⟩⟩
  · rcases hfate with ⟨t, ht⟩ | ⟨m, hm⟩ | ⟨m, hm⟩
    · exact absurd (h.symm.trans ht) nofun
    · cases h.symm.trans hm.ofText
      exact hm
    · exact absurd (h.symm.trans hm.ofText) nofun
  · rcases hfate with ⟨t, ht⟩ | ⟨m, hm⟩ | ⟨m, hm⟩
    · exact absurd (h.symm.trans ht) nofun
    · exact absurd (h.symm.trans hm.ofText) nofun
    · cases h.symm.trans hm.ofText
      exact hm
  · rintro ⟨t, ht⟩ n
    exact ⟨fun hn => absurd (ht.symm.trans hn.ofText) nofun,
      fun hn => absurd (ht.symm.trans hn.ofText) nofun⟩
  · rcases hfate with htemplate | ⟨m, hm⟩ | ⟨m, hm⟩
    · exact htemplate
    · exact absurd hm (h m).1
    · exact absurd hm (h m).2

/-- The first of two faults is reported, at a byte and not at a character. -/
example : ofText "é$\x7b x \x7d$\x7b \x7d$\x7by" = .error (.emptyName 8) := rfl

end AttributeRelease.Proofs.Malformed
