import AttributeRelease.Json.Reader
import AttributeRelease.Proofs.Query.Rendering

/-!
Values in search filters.

A search filter is read as tokens: marks that give it its structure, and bytes of data, each of
which may be written as a backslash with two hexadecimal digits. An escaped value gives nothing but
data, and since no escape goes on across its end, that holds wherever a template puts it.
-/

namespace AttributeRelease.Proofs.Escaping

open TemplateSegment
open AttributeRelease.Proofs.Rendering

/-- A part of a search filter: a mark of its structure, or a byte of data. -/
inductive FilterToken where
  | mark (c : Char)
  | data (b : UInt8)
deriving DecidableEq, Repr

/-- The byte that two hexadecimal digits write. -/
def byteOf? (a b : Char) : Option UInt8 := do
  return .ofNat (16 * (← Json.hexValue? a) + (← Json.hexValue? b))

def plain (c : Char) : List FilterToken :=
  if c = '(' ∨ c = ')' ∨ c = '*' then [.mark c] else (String.utf8EncodeChar c).map .data

/-- Reads a filter. A backslash that starts no escape is data. -/
def tokens : List Char → List FilterToken
  | '\\' :: a :: b :: rest =>
    match byteOf? a b with
    | some x => .data x :: tokens rest
    | none => plain '\\' ++ tokens (a :: b :: rest)
  | c :: rest => plain c ++ tokens rest
  | [] => []

/-- What a token says, be it a mark or not. -/
def FilterToken.bytes : FilterToken → List UInt8
  | mark c => String.utf8EncodeChar c
  | data b => [b]

/-- The text that a filter value writes, if its bytes are the encoding of one. -/
def unescape? (s : String) : Option String :=
  String.fromUTF8? ((tokens s.toList).flatMap FilterToken.bytes).toByteArray

/-- Every backslash starts an escape that is complete. -/
def Complete (s : List Char) : Prop :=
  ∀ before after, s = before ++ '\\' :: after →
    ∃ a b rest, after = a :: b :: rest ∧ (byteOf? a b).isSome = true

lemma Complete.of_append {s t : List Char} (h : Complete (s ++ t)) : Complete t := by
  intro before after hafter
  exact h (s ++ before) after (by rw [hafter, List.append_assoc])

lemma Complete.append {s t : List Char} (hs : Complete s) (ht : Complete t) :
    Complete (s ++ t) := by
  intro before after h
  rcases List.append_eq_append_iff.1 h with ⟨l, rfl, hl⟩ | ⟨l, rfl, hl⟩
  · exact ht l after hl
  · cases l with
    | nil => exact ht [] after hl.symm
    | cons c l =>
      obtain ⟨rfl, rfl⟩ := List.cons.inj hl
      obtain ⟨a, b, rest, rfl, hbyte⟩ := hs before l rfl
      exact ⟨a, b, rest ++ t, rfl, hbyte⟩

lemma tokens_cons {c : Char} (h : c ≠ '\\') (s : List Char) :
    tokens (c :: s) = plain c ++ tokens s := by
  rw [tokens.eq_def]
  split
  · next heq => exact absurd (List.cons.inj heq).1 h
  · next heq => rw [(List.cons.inj heq).1, (List.cons.inj heq).2]
  · next heq => cases heq

lemma tokens_escape {a b : Char} {x : UInt8} (h : byteOf? a b = some x) (s : List Char) :
    tokens ('\\' :: a :: b :: s) = .data x :: tokens s := by
  rw [tokens, h]

/-- After complete escapes, reading starts anew. -/
lemma tokens_append {s : List Char} (h : Complete s) (t : List Char) :
    tokens (s ++ t) = tokens s ++ tokens t := by
  fun_induction tokens s with
  | case1 a b rest x hx ih =>
    have hrest : Complete rest := @Complete.of_append ['\\', a, b] rest h
    rw [List.cons_append, List.cons_append, List.cons_append, tokens_escape hx, ih hrest,
      List.cons_append]
  | case2 a b rest hnone =>
    obtain ⟨_, _, _, heq, hbyte⟩ := h [] (a :: b :: rest) rfl
    cases heq
    rw [hnone] at hbyte
    cases hbyte
  | case3 c rest hne ih =>
    have hc : c ≠ '\\' := by
      rintro rfl
      obtain ⟨a, b, rest', rfl, -⟩ := h [] rest rfl
      exact hne a b rest' rfl rfl
    have hrest : Complete rest := @Complete.of_append [c] rest h
    rw [List.cons_append, tokens_cons hc, ih hrest, List.append_assoc]
  | case4 => rfl

/-- The characters that are never written as they are in a value. -/
def isSpecial (c : Char) : Bool := c = '*' || c = '(' || c = ')' || c = '\x00'

/-- Nothing in a text is a mark, and no escape goes on behind it. -/
structure Inert (s : List Char) : Prop where
  not_special : ∀ c ∈ s, isSpecial c = false
  complete : Complete s

lemma Inert.append {s t : List Char} (hs : Inert s) (ht : Inert t) : Inert (s ++ t) where
  not_special c hc := (List.mem_append.1 hc).elim (hs.not_special c) (ht.not_special c)
  complete := hs.complete.append ht.complete

/-- The encoding of a text. -/
def encoding (s : List Char) : List UInt8 := s.flatMap String.utf8EncodeChar

lemma inert_nil : Inert [] where
  not_special _ h := absurd h List.not_mem_nil
  complete before after h := by simp at h

lemma inert_escape {a b : Char} (ha : isSpecial a = false) (hb : isSpecial b = false)
    (ha' : a ≠ '\\') (hb' : b ≠ '\\') (h : (byteOf? a b).isSome = true) : Inert ['\\', a, b] where
  not_special c hc := by
    simp only [List.mem_cons, List.not_mem_nil, or_false] at hc
    rcases hc with rfl | rfl | rfl
    · rfl
    · exact ha
    · exact hb
  complete before after hafter := by
    match before with
    | [] =>
      obtain ⟨-, rfl⟩ := List.cons.inj hafter
      exact ⟨a, b, [], rfl, h⟩
    | [_] =>
      obtain ⟨-, hafter⟩ := List.cons.inj hafter
      exact absurd (List.cons.inj hafter).1 ha'
    | [_, _] =>
      obtain ⟨-, hafter⟩ := List.cons.inj (List.cons.inj hafter).2
      exact absurd (List.cons.inj hafter).1 hb'
    | _ :: _ :: _ :: _ => simp at hafter

lemma inert_plain {c : Char} (h : isSpecial c = false) (h' : c ≠ '\\') : Inert [c] where
  not_special d hd := by rwa [List.mem_singleton.1 hd]
  complete before after hafter := by
    match before with
    | [] => exact absurd (List.cons.inj hafter).1 h'
    | _ :: _ => simp at hafter

/-- An escaped character is data wherever it stands. -/
lemma escapeFilterChar_spec (c : Char) : Inert (escapeFilterChar c) ∧
    tokens (escapeFilterChar c) = (String.utf8EncodeChar c).map .data := by
  unfold escapeFilterChar
  split
  · exact ⟨inert_escape rfl rfl (by decide) (by decide) rfl, rfl⟩
  · exact ⟨inert_escape rfl rfl (by decide) (by decide) rfl, rfl⟩
  · exact ⟨inert_escape rfl rfl (by decide) (by decide) rfl, rfl⟩
  · exact ⟨inert_escape rfl rfl (by decide) (by decide) rfl, rfl⟩
  · exact ⟨inert_escape rfl rfl (by decide) (by decide) rfl, rfl⟩
  · next hstar hopen hclose hescape hnul =>
    have hspecial : isSpecial c = false := by
      simp only [isSpecial, Bool.or_eq_false_iff, decide_eq_false_iff_not]
      exact ⟨⟨⟨hstar, hopen⟩, hclose⟩, hnul⟩
    have hmark : ¬(c = '(' ∨ c = ')' ∨ c = '*') := by
      rintro (h | h | h)
      exacts [hopen h, hclose h, hstar h]
    exact ⟨inert_plain hspecial hescape,
      by rw [tokens_cons hescape, plain, if_neg hmark, tokens, List.append_nil]⟩

lemma escaped_spec (s : List Char) : Inert (s.flatMap escapeFilterChar) ∧
    tokens (s.flatMap escapeFilterChar) = (encoding s).map .data := by
  induction s with
  | nil => exact ⟨inert_nil, rfl⟩
  | cons c s ih =>
    obtain ⟨hinert, htokens⟩ := escapeFilterChar_spec c
    rw [encoding, List.flatMap_cons, List.flatMap_cons, List.map_append]
    exact ⟨hinert.append ih.1, by rw [tokens_append hinert.complete, htokens, ih.2, encoding]⟩

lemma toList_escapeFilterValue (s : String) :
    (escapeFilterValue s).toList = s.toList.flatMap escapeFilterChar := String.toList_ofList

lemma fromUTF8?_encoding (s : String) :
    String.fromUTF8? (encoding s.toList).toByteArray = some s := by
  have h : (encoding s.toList).toByteArray = s.toByteArray := by
    rw [encoding, ← List.utf8Encode, ← String.toByteArray_ofList, String.ofList_toList]
  rw [h, String.fromUTF8?, dif_pos s.isValidUTF8]
  rfl

lemma unescape?_escapeFilterValue (s : String) : unescape? (escapeFilterValue s) = some s := by
  have hbytes (l : List UInt8) : (l.map .data).flatMap FilterToken.bytes = l := by
    rw [List.flatMap_map]
    exact List.flatMap_singleton' l
  rw [unescape?, toList_escapeFilterValue, (escaped_spec s.toList).2, hbytes, fromUTF8?_encoding]

/-! ### Filters with values in them -/

/-- The text of a template without its placeholders. -/
def literals (segments : List TemplateSegment) : List Char :=
  segments.flatMap fun
    | literal text => text
    | param _ => []

/-- Escaped values add none of the special characters. -/
lemma filter_weave (segments : List TemplateSegment) {texts : List String} {source : String}
    (h : texts.length = (QueryTemplate.placeholders ⟨source, segments⟩).length) :
    (weave id (fun s => (escapeFilterValue s).toList) segments texts).filter isSpecial =
      (literals segments).filter isSpecial := by
  induction segments generalizing texts with
  | nil => rfl
  | cons segment rest ih =>
    rw [literals, List.flatMap_cons, List.filter_append]
    cases segment with
    | literal text => rw [weave_literal, List.filter_append, ih h]; rfl
    | param name =>
      cases texts with
      | nil => cases h
      | cons s texts =>
        have hnone : (escapeFilterValue s).toList.filter isSpecial = [] := by
          rw [List.filter_eq_nil_iff, toList_escapeFilterValue]
          intro c hc
          rw [(escaped_spec s.toList).1.not_special c hc]
          exact Bool.false_ne_true
        rw [weave_param, List.filter_append, hnone, ih (Nat.succ.inj h)]
        rfl

/-- Between texts whose escapes are complete, escaped values are data. -/
lemma tokens_weave {segments : List TemplateSegment}
    (h : ∀ text, literal text ∈ segments → Complete text) (texts : List String) :
    tokens (weave id (fun s => (escapeFilterValue s).toList) segments texts) =
      weave tokens (fun s => (encoding s.toList).map .data) segments texts := by
  induction segments generalizing texts with
  | nil => rfl
  | cons segment rest ih =>
    have hrest := ih fun text htext => h text (List.mem_cons_of_mem _ htext)
    cases segment with
    | literal text =>
      rw [weave_literal, weave_literal, id, tokens_append (h text List.mem_cons_self), hrest]
    | param name =>
      cases texts with
      | nil => rfl
      | cons s texts =>
        obtain ⟨hinert, htokens⟩ := escaped_spec s.toList
        rw [weave_param, weave_param, toList_escapeFilterValue, tokens_append hinert.complete,
          htokens, hrest]

/-- What a filter keeps of its template when escaped values are put into it. -/
structure Keeps (t : QueryTemplate) (v : TemplateValues) (out : String) : Prop where
  specials : out.toList.filter isSpecial = (literals t.segments).filter isSpecial
  tokens : (∀ text, literal text ∈ t.segments → Complete text) →
    ∃ texts, List.Forall₂ (Stands v) t.placeholders texts ∧ tokens out.toList =
      weave Escaping.tokens (fun s => (encoding s.toList).map .data) t.segments texts

/-- **No value changes the structure of a search filter.** An escaped value reads back as itself,
and in a filter it is data between the tokens of the template. -/
theorem escaped_values_inert (value : String) {t : QueryTemplate} {v : TemplateValues}
    {out : String} (h : t.render v escapeFilterValue = .ok out) :
    unescape? (escapeFilterValue value) = some value ∧ Inert (escapeFilterValue value).toList ∧
      Keeps t v out := by
  refine ⟨unescape?_escapeFilterValue value, ?_, ?_⟩
  · rw [toList_escapeFilterValue]
    exact (escaped_spec value.toList).1
  · obtain ⟨texts, htexts, rfl⟩ := render_eq_ok_iff.1 h
    refine ⟨?_, fun hcomplete => ⟨texts, htexts, ?_⟩⟩
    · have hlength : texts.length = t.placeholders.length := htexts.length_eq.symm
      rw [String.toList_ofList, filter_weave t.segments hlength]
    · rw [String.toList_ofList, tokens_weave hcomplete]

def byPrincipal : QueryTemplate where
  source := "(uid=$\x7bprincipal\x7d)"
  segments := [literal "(uid=".toList, param "principal".toList, literal ")".toList]

def intruder : TemplateValues where
  request := { principal := some "*)(uid=*" }
  attributes := .empty

theorem intruder_inert : QueryTemplate.ofText "(uid=$\x7bprincipal\x7d)" = .ok byPrincipal ∧
    byPrincipal.render intruder escapeFilterValue = .ok "(uid=\\2a\\29\\28uid=\\2a)" ∧
    (∀ text, literal text ∈ byPrincipal.segments → Complete text) ∧
    unescape? (escapeFilterValue "*)(uid=*") = some "*)(uid=*" ∧
    Inert (escapeFilterValue "*)(uid=*").toList ∧
    Keeps byPrincipal intruder "(uid=\\2a\\29\\28uid=\\2a)" := by
  have hrender : byPrincipal.render intruder escapeFilterValue =
      .ok "(uid=\\2a\\29\\28uid=\\2a)" := rfl
  refine ⟨rfl, hrender, fun text htext => ?_, escaped_values_inert "*)(uid=*" hrender⟩
  have hnone : '\\' ∉ text := by
    have : text = "(uid=".toList ∨ text = ")".toList := by simpa [byPrincipal] using htext
    rcases this with rfl | rfl <;> decide
  intro before after h
  exact absurd (h ▸ List.mem_append_right before List.mem_cons_self) hnone

end AttributeRelease.Proofs.Escaping
