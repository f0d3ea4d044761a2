import AttributeRelease.Resolution.Template
import Mathlib.Data.List.Chain
import Mathlib.Data.String.Basic

/-!
How templates are spelled.

Every text is literal text and complete placeholders one after the other, up to its end or up to a
placeholder that is left open or has no name. Reading follows that division, so that nothing of a
text is lost, and printing the segments that were read is the way back.
-/

namespace AttributeRelease.Proofs.Spelling

open QueryTemplate TemplateSegment

/-- What a placeholder starts with. -/
def opening : List Char := ['$', '\x7b']

/-- What a placeholder ends with. -/
def closing : Char := '\x7d'

def isLiteral : TemplateSegment → Bool
  | literal _ => true
  | param _ => false

def spelled : TemplateSegment → List Char
  | literal text => text
  | param name => opening ++ (name ++ [closing])

def spell (segments : List TemplateSegment) : List Char := segments.flatMap spelled

def print (segments : List TemplateSegment) : String := .ofList (spell segments)

@[simp] lemma spell_nil : spell [] = [] := rfl

@[simp] lemma spell_cons (s : TemplateSegment) (rest : List TemplateSegment) :
    spell (s :: rest) = spelled s ++ spell rest := rfl

@[simp] lemma spell_append (l l' : List TemplateSegment) : spell (l ++ l') = spell l ++ spell l' :=
  List.flatMap_append

/-- Takes the white space around a name away. -/
def trimmed : TemplateSegment → TemplateSegment
  | literal text => literal text
  | param name => param (Text.trimChars name)

/-- Literal texts say something, hold no opening, and have a placeholder between them. -/
structure Divided (segments : List TemplateSegment) : Prop where
  literals : ∀ text, literal text ∈ segments → text ≠ [] ∧ ¬ opening <:+: text
  apart : segments.IsChain fun s t => ¬ (isLiteral s = true ∧ isLiteral t = true)

/-- Segments with names that have nothing around them. -/
structure Canonical (segments : List TemplateSegment) : Prop extends Divided segments where
  names : ∀ name, param name ∈ segments → name ≠ [] ∧ closing ∉ name ∧
    (∀ c ∈ name.head?, Text.isWhite c = false) ∧ ∀ c ∈ name.getLast?, Text.isWhite c = false

/-- Segments with names as they may stand in a text, with white space around them. -/
structure Legible (segments : List TemplateSegment) : Prop extends Divided segments where
  names : ∀ name, param name ∈ segments → closing ∉ name ∧ name.all Text.isWhite = false

/-- Trimming leaves alone what has no white space at its ends. -/
lemma trimChars_eq_self {name : List Char} (hhead : ∀ c ∈ name.head?, Text.isWhite c = false)
    (hlast : ∀ c ∈ name.getLast?, Text.isWhite c = false) : Text.trimChars name = name := by
  have hdrop : ∀ l : List Char, (∀ c ∈ l.head?, Text.isWhite c = false) →
      l.dropWhile Text.isWhite = l := by
    intro l hl
    cases l with
    | nil => rfl
    | cons c l => rw [List.dropWhile_cons_of_neg (by simp [hl c rfl])]
  rw [Text.trimChars, hdrop name hhead, hdrop name.reverse (by simpa using hlast),
    List.reverse_reverse]

lemma trimChars_dropWhile (name : List Char) :
    Text.trimChars name <+: name.dropWhile Text.isWhite := by
  have hends := (name.dropWhile Text.isWhite).reverse.dropWhile_suffix Text.isWhite
  rwa [← List.reverse_prefix, List.reverse_reverse] at hends

lemma trimChars_subset (name : List Char) : Text.trimChars name ⊆ name :=
  List.Subset.trans (trimChars_dropWhile name).subset (name.dropWhile_suffix _).subset

lemma isWhite_of_mem_head?_dropWhile {s : List Char} {c : Char}
    (h : c ∈ (s.dropWhile Text.isWhite).head?) : Text.isWhite c = false := by
  have hnot := List.head?_dropWhile_not Text.isWhite s
  rwa [Option.mem_def.1 h] at hnot

lemma isWhite_of_mem_head?_trimChars {name : List Char} {c : Char}
    (h : c ∈ (Text.trimChars name).head?) : Text.isWhite c = false := by
  obtain ⟨after, hafter⟩ := trimChars_dropWhile name
  refine isWhite_of_mem_head?_dropWhile (s := name) ?_
  rw [← hafter, List.head?_append, Option.mem_def.1 h]
  rfl

lemma isWhite_of_mem_getLast?_trimChars {name : List Char} {c : Char}
    (h : c ∈ (Text.trimChars name).getLast?) : Text.isWhite c = false := by
  rw [Text.trimChars, List.getLast?_reverse] at h
  exact isWhite_of_mem_head?_dropWhile h

lemma Divided.map_trimmed {segments : List TemplateSegment} (h : Divided segments) :
    Divided (segments.map trimmed) := by
  have hliteral : ∀ s, isLiteral (trimmed s) = isLiteral s := fun s => by cases s <;> rfl
  refine ⟨fun text htext => ?_, ?_⟩
  · obtain ⟨s, hs, heq⟩ := List.mem_map.1 htext
    cases s with
    | literal text' =>
      obtain rfl := TemplateSegment.literal.inj heq
      exact h.literals _ hs
    | param name => cases heq
  · rw [List.isChain_map]
    simpa only [hliteral] using h.apart

/-- Without the white space around names, segments that may stand in a text are canonical. -/
lemma Legible.canonical {raw : List TemplateSegment} (h : Legible raw) :
    Canonical (raw.map trimmed) := by
  refine ⟨h.toDivided.map_trimmed, fun name hname => ?_⟩
  obtain ⟨s, hs, heq⟩ := List.mem_map.1 hname
  cases s with
  | literal text => cases heq
  | param written =>
    obtain rfl := TemplateSegment.param.inj heq
    obtain ⟨hclosing, hblank⟩ := h.names _ hs
    refine ⟨fun hnil => ?_, fun hmem => hclosing (trimChars_subset _ hmem),
      fun c => isWhite_of_mem_head?_trimChars, fun c => isWhite_of_mem_getLast?_trimChars⟩
    rw [Text.trimChars_eq_nil_iff, hblank] at hnil
    cases hnil

lemma Canonical.map_trimmed {segments : List TemplateSegment} (h : Canonical segments) :
    segments.map trimmed = segments := by
  have hall : ∀ s ∈ segments, trimmed s = s := by
    intro s hs
    cases s with
    | literal text => rfl
    | param name =>
      obtain ⟨-, -, hhead, hlast⟩ := h.names name hs
      rw [trimmed, trimChars_eq_self hhead hlast]
  rw [List.map_congr_left hall, List.map_id']

lemma Canonical.legible {segments : List TemplateSegment} (h : Canonical segments) :
    Legible segments := by
  refine ⟨h.toDivided, fun name hname => ?_⟩
  obtain ⟨hne, hclosing, hhead, -⟩ := h.names name hname
  refine ⟨hclosing, ?_⟩
  cases name with
  | nil => exact absurd rfl hne
  | cons c name => simp [hhead c rfl]

/-! ### What reading makes of the parts of a text -/

variable {pos : ℕ}

lemma readText_opening (pos : ℕ) (rest : List Char) :
    readText pos (opening ++ rest) = readName pos (pos + 2) [] rest := rfl

lemma readText_cons {c : Char} {rest : List Char} (h : ¬ opening <+: c :: rest) :
    readText pos (c :: rest) = (readText (pos + c.utf8Size) rest).map (consChar c) := by
  rw [readText.eq_def]
  split
  · next heq => cases heq
  · next heq => exact absurd ⟨_, heq.symm⟩ h
  · next heq =>
    obtain ⟨rfl, rfl⟩ := List.cons.inj heq
    rfl

lemma readName_cons {start : ℕ} {name rest : List Char} {c : Char} (h : c ≠ closing) :
    readName start pos name (c :: rest) = readName start (pos + c.utf8Size) (c :: name) rest := by
  rw [readName.eq_def]
  split
  · next heq => cases heq
  · next heq => exact absurd (List.cons.inj heq).1 h
  · next heq =>
    obtain ⟨rfl, rfl⟩ := List.cons.inj heq
    rfl

/-- A placeholder that nothing closes is reported where it starts. -/
lemma readName_open {start : ℕ} {name rest : List Char} (h : closing ∉ rest) :
    readName start pos name rest = .error (.unterminated start) := by
  induction rest generalizing pos name with
  | nil => rfl
  | cons c rest ih =>
    obtain ⟨hc, hrest⟩ := not_or.1 (mt List.mem_cons.2 h)
    rw [readName_cons (Ne.symm hc), ih hrest]

/-- A placeholder goes up to the first closing. -/
lemma readName_closed {start : ℕ} {before name rest : List Char} (h : closing ∉ name) :
    readName start pos before (name ++ closing :: rest) =
      match Text.trimChars (before.reverse ++ name) with
      | [] => .error (.emptyName start)
      | t => (readText (pos + String.utf8Len name + 1) rest).map (param t :: ·) := by
  induction name generalizing pos before with
  | nil => rw [List.append_nil]; rfl
  | cons c name ih =>
    obtain ⟨hc, hname⟩ := not_or.1 (mt List.mem_cons.2 h)
    have hpos : pos + c.utf8Size + String.utf8Len name + 1 =
        pos + String.utf8Len (c :: name) + 1 := by
      rw [String.utf8Len_cons]; omega
    rw [List.cons_append, readName_cons (Ne.symm hc), ih hname, hpos, List.reverse_cons,
      List.append_assoc]
    rfl

lemma readText_open {rest : List Char} (h : closing ∉ rest) :
    readText pos (opening ++ rest) = .error (.unterminated pos) := by
  rw [readText_opening, readName_open h]

lemma readText_blank {name : List Char} (hclosing : closing ∉ name)
    (hblank : name.all Text.isWhite = true) (rest : List Char) :
    readText pos (opening ++ (name ++ closing :: rest)) = .error (.emptyName pos) := by
  rw [readText_opening, readName_closed hclosing, List.reverse_nil, List.nil_append,
    Text.trimChars_eq_nil_iff.2 hblank]

lemma readText_param {name : List Char} (hclosing : closing ∉ name)
    (hblank : name.all Text.isWhite = false) (rest : List Char) :
    readText pos (spelled (param name) ++ rest) =
      (readText (pos + String.utf8Len (spelled (param name))) rest).map (trimmed (param name) :: ·)
    := by
  have hpos : pos + 2 + String.utf8Len name + 1 =
      pos + String.utf8Len (spelled (param name)) := by
    have hopening : String.utf8Len opening = 2 := rfl
    have hend : String.utf8Len [closing] = 1 := rfl
    rw [spelled, String.utf8Len_append, String.utf8Len_append, hopening, hend]
    omega
  have hassoc : spelled (param name) ++ rest = opening ++ (name ++ closing :: rest) := by
    simp [spelled]
  rw [hassoc, readText_opening, readName_closed hclosing, hpos, List.reverse_nil,
    List.nil_append, trimmed]
  split
  · next hnil =>
    rw [Text.trimChars_eq_nil_iff, hblank] at hnil
    cases hnil
  · rfl

/-- No literal text begins at the end of a text or at an opening. -/
lemma readText_consChar {rest : List Char} (h : rest = [] ∨ opening <+: rest) (c : Char) :
    (readText pos rest).map (consChar c) = (readText pos rest).map (literal [c] :: ·) := by
  rcases h with rfl | ⟨rest, rfl⟩
  · rfl
  · by_cases hclosing : closing ∈ rest
    · obtain ⟨name, rest, rfl, hname⟩ := List.eq_append_cons_of_mem hclosing
      rw [readText_opening, readName_closed hname]
      split
      · rfl
      · cases readText (pos + 2 + String.utf8Len name + 1) rest <;> rfl
    · rw [readText_open hclosing]
      rfl

/-- No opening lies across the end of a literal text. -/
lemma not_opening_append {c : Char} {text rest : List Char} (h : ¬ opening <+: c :: text)
    (hrest : rest = [] ∨ opening <+: rest) : ¬ opening <+: c :: (text ++ rest) := by
  rintro ⟨after, hafter⟩
  obtain ⟨rfl, hnext⟩ := List.cons.inj hafter
  cases text with
  | nil =>
    rcases hrest with rfl | ⟨rest, rfl⟩
    · cases hnext
    · have hbrace : '\x7b' = '$' := (List.cons.inj hnext).1
      exact absurd hbrace (by decide)
  | cons c' text =>
    obtain ⟨rfl, -⟩ := List.cons.inj hnext
    exact h ⟨text, rfl⟩

/-- A literal text goes up to the next opening. -/
lemma readText_literal {text rest : List Char} (hne : text ≠ []) (hopening : ¬ opening <:+: text)
    (hrest : rest = [] ∨ opening <+: rest) : readText pos (text ++ rest) =
      (readText (pos + String.utf8Len text) rest).map (literal text :: ·) := by
  induction text generalizing pos with
  | nil => exact absurd rfl hne
  | cons c text ih =>
    have hstart := not_opening_append (fun h => hopening h.isInfix) hrest
    rw [List.cons_append, readText_cons hstart]
    cases text with
    | nil => rw [List.nil_append, readText_consChar hrest, String.utf8Len_cons,
        String.utf8Len_nil, Nat.zero_add]
    | cons c' text =>
      have hpos : pos + c.utf8Size + String.utf8Len (c' :: text) =
          pos + String.utf8Len (c :: c' :: text) := by
        simp only [String.utf8Len_cons]; omega
      rw [ih (List.cons_ne_nil _ _) fun h => hopening (List.infix_cons h), hpos]
      cases readText (pos + String.utf8Len (c :: c' :: text)) rest <;> rfl

lemma Divided.of_cons {s : TemplateSegment} {rest : List TemplateSegment}
    (h : Divided (s :: rest)) : Divided rest :=
  ⟨fun text htext => h.literals text (List.mem_cons_of_mem _ htext), h.apart.of_cons⟩

lemma Legible.of_cons {s : TemplateSegment} {rest : List TemplateSegment}
    (h : Legible (s :: rest)) : Legible rest :=
  ⟨h.toDivided.of_cons, fun name hname => h.names name (List.mem_cons_of_mem _ hname)⟩

/-- Behind a literal text comes a placeholder, if anything. -/
lemma Divided.after_literal {text : List Char} {raw : List TemplateSegment}
    (h : Divided (literal text :: raw)) {rest : List Char}
    (hrest : rest = [] ∨ opening <+: rest) :
    spell raw ++ rest = [] ∨ opening <+: spell raw ++ rest := by
  cases raw with
  | nil => exact hrest
  | cons s raw =>
    cases s with
    | literal text' => exact absurd ⟨rfl, rfl⟩ ((List.isChain_cons.1 h.apart).1 _ rfl)
    | param name =>
      refine .inr ?_
      rw [spell_cons, spelled, List.append_assoc, List.append_assoc]
      exact List.prefix_append _ _

/-- What is spelled out is read segment by segment. -/
lemma readText_spell {raw : List TemplateSegment} (h : Legible raw) {rest : List Char}
    (hrest : rest = [] ∨ opening <+: rest) : readText pos (spell raw ++ rest) =
      (readText (pos + String.utf8Len (spell raw)) rest).map (raw.map trimmed ++ ·) := by
  induction raw generalizing pos with
  | nil =>
    show readText pos rest = (readText pos rest).map id
    cases readText pos rest <;> rfl
  | cons s raw ih =>
    have hpos : pos + String.utf8Len (spelled s) + String.utf8Len (spell raw) =
        pos + String.utf8Len (spell (s :: raw)) := by
      rw [spell_cons, String.utf8Len_append, Nat.add_assoc]
    have hhead : readText pos (spelled s ++ (spell raw ++ rest)) =
        (readText (pos + String.utf8Len (spelled s)) (spell raw ++ rest)).map (trimmed s :: ·) := by
      cases s with
      | literal text =>
        obtain ⟨hne, hopening⟩ := h.literals text List.mem_cons_self
        exact readText_literal hne hopening (h.after_literal hrest)
      | param name =>
        obtain ⟨hclosing, hblank⟩ := h.names name List.mem_cons_self
        exact readText_param hclosing hblank _
    have hassoc : spell (s :: raw) ++ rest = spelled s ++ (spell raw ++ rest) := by
      rw [spell_cons, List.append_assoc]
    rw [hassoc, hhead, ih h.of_cons, hpos]
    cases readText (pos + String.utf8Len (spell (s :: raw))) rest <;> rfl

/-- What is left of a text where it goes no further. -/
inductive Ending : List Char → Prop
  | complete : Ending []
  | unclosed {after : List Char} (h : closing ∉ after) : Ending (opening ++ after)
  | unnamed {name : List Char} (hclosing : closing ∉ name)
      (hblank : name.all Text.isWhite = true) (after : List Char) :
      Ending (opening ++ (name ++ closing :: after))

lemma Ending.eq_nil_or {rest : List Char} (h : Ending rest) : rest = [] ∨ opening <+: rest := by
  cases h with
  | complete => exact .inl rfl
  | unclosed h => exact .inr (List.prefix_append _ _)
  | unnamed _ _ after => exact .inr (List.prefix_append _ _)

/-- The segment that a literal text makes, unless there is no text. -/
def literalOf (text : List Char) : List TemplateSegment :=
  if text = [] then [] else [literal text]

@[simp] lemma spell_literalOf (text : List Char) : spell (literalOf text) = text := by
  unfold literalOf
  split
  · next h => rw [h]; rfl
  · simp [spelled]

lemma legible_literalOf {text : List Char} (h : ¬ opening <:+: text) :
    Legible (literalOf text) := by
  unfold literalOf
  split
  · exact ⟨⟨by simp, List.isChain_nil⟩, by simp⟩
  · next hne => exact ⟨⟨by simp [hne, h], List.isChain_singleton _⟩, by simp⟩

lemma legible_param {name : List Char} (hclosing : closing ∉ name)
    (hblank : name.all Text.isWhite = false) : Legible [param name] := by
  refine ⟨⟨by simp, List.isChain_singleton _⟩, fun name' hname => ?_⟩
  obtain rfl := TemplateSegment.param.inj (List.mem_singleton.1 hname)
  exact ⟨hclosing, hblank⟩

lemma Legible.append {l l' : List TemplateSegment} (h : Legible l) (h' : Legible l')
    (hmeet : ∀ s ∈ l.getLast?, ∀ t ∈ l'.head?, ¬ (isLiteral s = true ∧ isLiteral t = true)) :
    Legible (l ++ l') where
  literals text htext := (List.mem_append.1 htext).elim (h.literals text) (h'.literals text)
  apart := List.isChain_append.2 ⟨h.apart, h'.apart, hmeet⟩
  names name hname := (List.mem_append.1 hname).elim (h.names name) (h'.names name)

/-- Where an opening comes first in a text. -/
lemma first_opening (s : List Char) : ¬ opening <:+: s ∨
    ∃ text rest, s = text ++ (opening ++ rest) ∧ ¬ opening <:+: text := by
  induction s with
  | nil => exact .inl fun h => by cases List.infix_nil.1 h
  | cons c s ih =>
    by_cases hstart : opening <+: c :: s
    · obtain ⟨rest, hrest⟩ := hstart
      exact .inr ⟨[], rest, hrest.symm, fun h => by cases List.infix_nil.1 h⟩
    · rcases ih with hnone | ⟨text, rest, rfl, htext⟩
      · exact .inl fun h => (List.infix_cons_iff.1 h).elim hstart hnone
      · refine .inr ⟨c :: text, rest, rfl, fun h => ?_⟩
        rcases List.infix_cons_iff.1 h with hbegins | hinfix
        · exact hstart (hbegins.trans (List.prefix_append (c :: text) _))
        · exact htext hinfix

/-- **Every text is segments**, one after the other, and an ending. -/
theorem exists_legible (source : List Char) :
    ∃ raw rest, Legible raw ∧ Ending rest ∧ source = spell raw ++ rest := by
  induction hlength : source.length using Nat.strong_induction_on generalizing source with
  | h n ih =>
    rcases first_opening source with hnone | ⟨text, rest, rfl, htext⟩
    · exact ⟨literalOf source, [], legible_literalOf hnone, .complete, by simp⟩
    · have hlegible := legible_literalOf htext
      by_cases hclosing : closing ∈ rest
      · obtain ⟨name, rest, rfl, hname⟩ := List.eq_append_cons_of_mem hclosing
        cases hblank : name.all Text.isWhite with
        | true => exact ⟨literalOf text, _, hlegible, .unnamed hname hblank rest, by simp⟩
        | false =>
          -- the placeholder is complete, and the rest of the text is shorter
          have hshorter : rest.length < n := by
            rw [← hlength]; simp only [List.length_append, List.length_cons]; omega
          obtain ⟨raw, ending, hraw, hending, rfl⟩ := ih _ hshorter rest rfl
          have hparam : Legible (param name :: raw) :=
            (legible_param hname hblank).append hraw (by simp [isLiteral])
          refine ⟨literalOf text ++ param name :: raw, ending,
            hlegible.append hparam (by simp [isLiteral]), hending, ?_⟩
          simp [spelled]
      · exact ⟨literalOf text, _, hlegible, .unclosed hclosing, by simp⟩

lemma ofText_eq (source : String) :
    ofText source = (readText 0 source.toList).map (⟨source, ·⟩) := by
  unfold ofText
  cases readText 0 source.toList <;> rfl

variable {raw : List TemplateSegment}

/-- Segments are followed by the outcome of what is left. -/
lemma ofText_spell (h : Legible raw) {rest : List Char} (hrest : Ending rest) :
    ofText (.ofList (spell raw ++ rest)) =
      (readText (String.utf8Len (spell raw)) rest).map fun segments =>
        ⟨.ofList (spell raw ++ rest), raw.map trimmed ++ segments⟩ := by
  rw [ofText_eq, String.toList_ofList, readText_spell h hrest.eq_nil_or, Nat.zero_add]
  cases readText (String.utf8Len (spell raw)) rest <;> rfl

lemma ofText_print (h : Legible raw) :
    ofText (print raw) = .ok ⟨print raw, raw.map trimmed⟩ := by
  have hspell := ofText_spell h .complete
  rw [List.append_nil] at hspell
  rw [print, hspell]
  simp [readText, Except.map]

lemma ofText_unclosed (h : Legible raw) {after : List Char} (hclosing : closing ∉ after) :
    ofText (.ofList (spell raw ++ (opening ++ after))) =
      .error (.unterminated (String.utf8Len (spell raw))) := by
  rw [ofText_spell h (.unclosed hclosing), readText_open hclosing]
  rfl

lemma ofText_unnamed (h : Legible raw) {name : List Char} (hclosing : closing ∉ name)
    (hblank : name.all Text.isWhite = true) (after : List Char) :
    ofText (.ofList (spell raw ++ (opening ++ (name ++ closing :: after)))) =
      .error (.emptyName (String.utf8Len (spell raw))) := by
  rw [ofText_spell h (.unnamed hclosing hblank after), readText_blank hclosing hblank]
  rfl

/-- What is read as a template is spelled out by segments alone. -/
lemma print_of_ofText_eq_ok {source : String} {t : QueryTemplate} (h : ofText source = .ok t) :
    ∃ raw, Legible raw ∧ print raw = source ∧ t = ⟨source, raw.map trimmed⟩ := by
  obtain ⟨raw, rest, hraw, hrest, hsource⟩ := exists_legible source.toList
  obtain rfl : source = .ofList (spell raw ++ rest) := by
    rw [← hsource, String.ofList_toList]
  cases hrest with
  | complete =>
    rw [List.append_nil] at h ⊢
    exact ⟨raw, hraw, rfl, Except.ok.inj (h.symm.trans (ofText_print hraw))⟩
  | unclosed hclosing => exact absurd (h.symm.trans (ofText_unclosed hraw hclosing)) nofun
  | unnamed hclosing hblank after =>
    exact absurd (h.symm.trans (ofText_unnamed hraw hclosing hblank after)) nofun

/-- **Reading and printing are inverse.** Printed segments are read back as they are, if they are
canonical, and all that is read is canonical. It spells out the text that it was read from once
names have the white space around them again. -/
theorem reading_inverts_printing :
    (∀ segments, Canonical segments →
      ofText (print segments) = .ok ⟨print segments, segments⟩) ∧
    ∀ source t, ofText source = .ok t → t.source = source ∧ Canonical t.segments ∧
      ∃ raw, Legible raw ∧ raw.map trimmed = t.segments ∧ print raw = source := by
  refine ⟨fun segments h => ?_, fun source t h => ?_⟩
  · rw [ofText_print h.legible, h.map_trimmed]
  · obtain ⟨raw, hraw, hprint, rfl⟩ := print_of_ofText_eq_ok h
    exact ⟨rfl, hraw.canonical, raw, hraw, rfl, hprint⟩

/-- A dollar sign in front of a placeholder is text. -/
def dollars : List TemplateSegment := [literal ['$'], param ['x']]

theorem dollars_inverted : Canonical dollars ∧
    ofText (print dollars) = .ok ⟨print dollars, dollars⟩ ∧
    ofText "$$\x7b x \x7d" = .ok ⟨"$$\x7b x \x7d", dollars⟩ ∧
    ∃ raw, Legible raw ∧ raw.map trimmed = dollars ∧ print raw = "$$\x7b x \x7d" := by
  have hread : ofText "$$\x7b x \x7d" = .ok ⟨"$$\x7b x \x7d", dollars⟩ := rfl
  obtain ⟨-, hcanonical, hraw⟩ := reading_inverts_printing.2 _ _ hread
  exact ⟨hcanonical, reading_inverts_printing.1 dollars hcanonical, hread, hraw⟩

end AttributeRelease.Proofs.Spelling
