import AttributeRelease.Proofs.Checks
import AttributeRelease.Resolution.Template
import Mathlib.Data.List.Forall2

/-!
What a template makes of the values of its placeholders.

The values are looked up in order, and the first name without one settles the failure. What they
are put into is the text of the template alone, so whatever becomes of a value on the way, escaped
or handed over beside the text, one way of weaving texts and values describes the outcome.
-/

namespace AttributeRelease.Proofs.Rendering

open QueryTemplate TemplateSegment
open AttributeRelease.Proofs.Checks

/-- The names that stand for a part of the request, with that part. -/
inductive Reserved : String → (Request → Option String) → Prop
  | principal : Reserved "principal" (·.principal)
  | issuer : Reserved "issuer" (·.issuer)
  | recipient : Reserved "recipient" (·.recipient)
  | method : Reserved "authn_method" (·.authenticationMethod)

/-- The text that a name stands for. Attributes are looked at only if the name is not reserved, and
then it is the first value that counts. -/
inductive Stands (v : TemplateValues) (name : String) : String → Prop
  | request {field s} (hname : Reserved name field) (hs : field v.request = some s) :
      Stands v name s
  | plain {a s rest} (hname : ∀ field, ¬Reserved name field)
      (ha : v.attributes.find? name = some a) (hs : a.values = .string s :: rest) : Stands v name s
  | withScope {a s scope rest} (hname : ∀ field, ¬Reserved name field)
      (ha : v.attributes.find? name = some a) (hs : a.values = .withScope s scope :: rest) :
      Stands v name s

/-- Why a name stands for nothing. -/
inductive Lacks (v : TemplateValues) (name : String) : PluginError → Prop
  | request {field} (hname : Reserved name field) (hs : field v.request = none) :
      Lacks v name (.missingTemplateValue name)
  | absent (hname : ∀ field, ¬Reserved name field) (ha : v.attributes.find? name = none) :
      Lacks v name (.missingTemplateValue name)
  | empty {a} (hname : ∀ field, ¬Reserved name field) (ha : v.attributes.find? name = some a)
      (hs : a.values = []) : Lacks v name (.missingTemplateValue name)
  | bytes {a b rest} (hname : ∀ field, ¬Reserved name field)
      (ha : v.attributes.find? name = some a) (hs : a.values = .bytes b :: rest) :
      Lacks v name (.unsupportedValueType .bytes)
  | structured {a j rest} (hname : ∀ field, ¬Reserved name field)
      (ha : v.attributes.find? name = some a) (hs : a.values = .structured j :: rest) :
      Lacks v name (.unsupportedValueType .structured)

variable {v : TemplateValues} {name s : String} {e : PluginError}

lemma reserved?_of_reserved {q : Request} {field : Request → Option String}
    (h : Reserved name field) : TemplateValues.reserved? q name = some (field q) := by
  cases h <;> rfl

lemma reserved?_eq_none_iff {q : Request} :
    TemplateValues.reserved? q name = none ↔ ∀ field, ¬Reserved name field := by
  constructor
  · intro h field hfield
    rw [reserved?_of_reserved hfield] at h
    cases h
  · intro h
    unfold TemplateValues.reserved?
    split
    · exact absurd .principal (h _)
    · exact absurd .issuer (h _)
    · exact absurd .recipient (h _)
    · exact absurd .method (h _)
    · rfl

lemma reserved_or (name : String) :
    (∃ field, Reserved name field) ∨ ∀ field, ¬Reserved name field := by
  by_cases h : ∃ field, Reserved name field
  · exact .inl h
  · exact .inr fun field hfield => h ⟨field, hfield⟩

/-- An attribute stands for its first value, if that is a text. -/
lemma get_of_not_reserved (hname : ∀ field, ¬Reserved name field) :
    v.get name = match (v.attributes.find? name).bind (·.values.head?) with
      | none => .error (.missingTemplateValue name)
      | some value =>
        match value.text? with
        | some s => .ok s
        | none => .error (.unsupportedValueType value.kind) := by
  have hnone : TemplateValues.reserved? v.request name = none := reserved?_eq_none_iff.2 hname
  unfold TemplateValues.get
  exact hnone ▸ rfl

lemma Stands.get (h : Stands v name s) : v.get name = .ok s := by
  cases h with
  | request hname hs => rw [TemplateValues.get, reserved?_of_reserved hname, hs]
  | plain hname ha hs => rw [get_of_not_reserved hname, ha, Option.bind_some, hs]; rfl
  | withScope hname ha hs => rw [get_of_not_reserved hname, ha, Option.bind_some, hs]; rfl

lemma Lacks.get (h : Lacks v name e) : v.get name = .error e := by
  cases h with
  | request hname hs => rw [TemplateValues.get, reserved?_of_reserved hname, hs]
  | absent hname ha => rw [get_of_not_reserved hname, ha]; rfl
  | empty hname ha hs => rw [get_of_not_reserved hname, ha, Option.bind_some, hs]; rfl
  | bytes hname ha hs => rw [get_of_not_reserved hname, ha, Option.bind_some, hs]; rfl
  | structured hname ha hs => rw [get_of_not_reserved hname, ha, Option.bind_some, hs]; rfl

/-- A name stands for a text or lacks one. -/
lemma stands_or_lacks (v : TemplateValues) (name : String) :
    (∃ s, Stands v name s) ∨ ∃ e, Lacks v name e := by
  rcases reserved_or name with ⟨field, hname⟩ | hname
  · cases hs : field v.request with
    | some s => exact .inl ⟨s, .request hname hs⟩
    | none => exact .inr ⟨_, .request hname hs⟩
  · cases ha : v.attributes.find? name with
    | none => exact .inr ⟨_, .absent hname ha⟩
    | some a =>
      match hs : a.values with
      | [] => exact .inr ⟨_, .empty hname ha hs⟩
      | .string s :: rest => exact .inl ⟨s, .plain hname ha hs⟩
      | .withScope s scope :: rest => exact .inl ⟨s, .withScope hname ha hs⟩
      | .bytes b :: rest => exact .inr ⟨_, .bytes hname ha hs⟩
      | .structured j :: rest => exact .inr ⟨_, .structured hname ha hs⟩

lemma get_eq_ok_iff : v.get name = .ok s ↔ Stands v name s := by
  refine ⟨fun h => ?_, Stands.get⟩
  rcases stands_or_lacks v name with ⟨s', hs'⟩ | ⟨e, he⟩
  · rwa [Except.ok.inj (h.symm.trans hs'.get)]
  · exact absurd (h.symm.trans he.get) nofun

lemma get_eq_error_iff : v.get name = .error e ↔ Lacks v name e := by
  refine ⟨fun h => ?_, Lacks.get⟩
  rcases stands_or_lacks v name with ⟨s, hs⟩ | ⟨e', he'⟩
  · exact absurd (h.symm.trans hs.get) nofun
  · rwa [Except.error.inj (h.symm.trans he'.get)]

/-- The first of several names that lacks a text, with the reason. -/
def FirstLack (v : TemplateValues) (names : List String) (e : PluginError) : Prop :=
  ∃ before name after, names = before ++ name :: after ∧
    (∀ n ∈ before, ∃ s, Stands v n s) ∧ Lacks v name e

lemma mapM_get_eq_ok_iff {names texts : List String} :
    names.mapM v.get = .ok texts ↔ List.Forall₂ (Stands v) names texts := by
  simp only [mapM_eq_ok_iff, get_eq_ok_iff]

lemma mapM_get_eq_error_iff {names : List String} :
    names.mapM v.get = .error e ↔ FirstLack v names e := by
  simp only [mapM_eq_error_iff, get_eq_ok_iff, get_eq_error_iff, FirstLack]

lemma exists_mapM_get_iff {names : List String} :
    (∃ texts, names.mapM v.get = .ok texts) ↔ ∀ name ∈ names, ∃ s, Stands v name s := by
  simp only [exists_mapM_eq_ok_iff, get_eq_ok_iff]

/-- Puts together what is made of the literal texts and, at the placeholders, of the values. -/
def weave {α β : Type} (text : List Char → List β) (value : α → List β) :
    List TemplateSegment → List α → List β
  | literal s :: rest, values => text s ++ weave text value rest values
  | param _ :: rest, x :: values => value x ++ weave text value rest values
  | _, _ => []

lemma weave_literal {α β : Type} {text : List Char → List β} {value : α → List β} (s : List Char)
    (rest : List TemplateSegment) (values : List α) :
    weave text value (literal s :: rest) values = text s ++ weave text value rest values := rfl

lemma weave_param {α β : Type} {text : List Char → List β} {value : α → List β} (name : List Char)
    (rest : List TemplateSegment) (x : α) (values : List α) :
    weave text value (param name :: rest) (x :: values) =
      value x ++ weave text value rest values := rfl

lemma placeholders_literal (source : String) (text : List Char) (rest : List TemplateSegment) :
    placeholders ⟨source, literal text :: rest⟩ = placeholders ⟨source, rest⟩ := rfl

lemma placeholders_param (source : String) (name : List Char) (rest : List TemplateSegment) :
    placeholders ⟨source, param name :: rest⟩ = .ofList name :: placeholders ⟨source, rest⟩ := rfl

/-- A template puts the escaped values between its texts. -/
lemma render_eq (t : QueryTemplate) (v : TemplateValues) (escape : String → String) :
    t.render v escape = (t.placeholders.mapM v.get).map fun texts =>
      .ofList (weave id (fun s => (escape s).toList) t.segments texts) := by
  obtain ⟨source, segments⟩ := t
  show renderSegments v escape segments = _
  induction segments with
  | nil => rfl
  | cons segment rest ih =>
    cases segment with
    | literal text =>
      rw [renderSegments, ih, placeholders_literal]
      cases (placeholders ⟨source, rest⟩).mapM v.get with
      | error e => rfl
      | ok texts =>
        show Except.ok _ = Except.ok _
        simp only [weave_literal, String.ofList_append, id]
    | param name =>
      rw [renderSegments, ih, placeholders_param, List.mapM_cons]
      cases v.get (.ofList name) with
      | error e => rfl
      | ok s =>
        cases (placeholders ⟨source, rest⟩).mapM v.get with
        | error e => rfl
        | ok texts =>
          show Except.ok _ = Except.ok _
          simp only [weave_param, String.ofList_append, String.ofList_toList]

/-- A template sees nothing but what its placeholders stand for. -/
lemma render_congr {t : QueryTemplate} {v v' : TemplateValues}
    (h : ∀ name ∈ t.placeholders, v.get name = v'.get name) (escape : String → String) :
    t.render v escape = t.render v' escape := by
  rw [render_eq, render_eq, mapM_congr h]

lemma render_eq_ok_iff {t : QueryTemplate} {escape : String → String} {out : String} :
    t.render v escape = .ok out ↔ ∃ texts, List.Forall₂ (Stands v) t.placeholders texts ∧
      out = .ofList (weave id (fun s => (escape s).toList) t.segments texts) := by
  rw [render_eq, map_eq_ok_iff]
  exact exists_congr fun texts => and_congr mapM_get_eq_ok_iff eq_comm

/-! ### Values beside the text -/

/-- The text with a question mark for each placeholder. -/
def sqlOfSegments : List TemplateSegment → String
  | [] => ""
  | literal text :: rest => .ofList text ++ sqlOfSegments rest
  | param _ :: rest => "?" ++ sqlOfSegments rest

/-- The one pass comes to two: the text does not look at the values, nor they at the text. -/
lemma renderParameterized_eq (t : QueryTemplate) (v : TemplateValues) :
    t.renderParameterized v = (t.placeholders.mapM v.get).map fun texts =>
      (sqlOfSegments t.segments, texts.map .text) := by
  obtain ⟨source, segments⟩ := t
  show parameterizeSegments v segments = _
  induction segments with
  | nil => rfl
  | cons segment rest ih =>
    cases segment with
    | literal text =>
      rw [parameterizeSegments, ih, placeholders_literal]
      cases (placeholders ⟨source, rest⟩).mapM v.get <;> rfl
    | param name =>
      rw [parameterizeSegments, ih, placeholders_param, List.mapM_cons]
      cases v.get (.ofList name) with
      | error e => rfl
      | ok s => cases (placeholders ⟨source, rest⟩).mapM v.get <;> rfl

lemma renderParameterized_congr {t : QueryTemplate} {v v' : TemplateValues}
    (h : ∀ name ∈ t.placeholders, v.get name = v'.get name) :
    t.renderParameterized v = t.renderParameterized v' := by
  rw [renderParameterized_eq, renderParameterized_eq, mapM_congr h]

/-- The places of the placeholders in a text that has one character for each of them. -/
def places (place : ℕ) : List TemplateSegment → List ℕ
  | [] => []
  | literal text :: rest => places (place + text.length) rest
  | param _ :: rest => place :: places (place + 1) rest

/-- Puts texts in the stead of the characters at some places of a text, which starts at a place of
its own. -/
def putBack (place : ℕ) : List Char → List ℕ → List String → List Char
  | [], _, _ => []
  | c :: rest, p :: ps, s :: texts =>
    if p = place then s.toList ++ putBack (place + 1) rest ps texts
    else c :: putBack (place + 1) rest (p :: ps) (s :: texts)
  | c :: rest, ps, texts => c :: putBack (place + 1) rest ps texts

lemma le_of_mem_places {place p : ℕ} {segments : List TemplateSegment}
    (h : p ∈ places place segments) : place ≤ p := by
  induction segments generalizing place with
  | nil => cases h
  | cons segment rest ih =>
    cases segment with
    | literal text => exact Nat.le_trans (Nat.le_add_right _ _) (ih h)
    | param name =>
      rcases List.mem_cons.1 h with rfl | h
      · exact Nat.le_refl _
      · exact Nat.le_trans (Nat.le_succ _) (ih h)

lemma length_places (source : String) (place : ℕ) (segments : List TemplateSegment) :
    (places place segments).length = (placeholders ⟨source, segments⟩).length := by
  induction segments generalizing place with
  | nil => rfl
  | cons segment rest ih =>
    cases segment with
    | literal text => exact ih _
    | param name => exact congrArg (· + 1) (ih _)

/-- There is a question mark at every place. -/
lemma getElem?_of_mem_places {place p : ℕ} {segments : List TemplateSegment}
    (h : p ∈ places place segments) : (sqlOfSegments segments).toList[p - place]? = some '?' := by
  induction segments generalizing place with
  | nil => cases h
  | cons segment rest ih =>
    cases segment with
    | literal text =>
      have hle : place + text.length ≤ p := le_of_mem_places h
      rw [sqlOfSegments, String.toList_append, String.toList_ofList,
        List.getElem?_append_right (by omega), ← ih h]
      congr 1
      omega
    | param name =>
      rw [sqlOfSegments, String.toList_append]
      rcases List.mem_cons.1 h with rfl | h
      · rw [Nat.sub_self]; rfl
      · have hle : place + 1 ≤ p := le_of_mem_places h
        have hlast : p - place = p - (place + 1) + 1 := by omega
        rw [hlast, ← ih h]; rfl

/-- Text before the first place stays. -/
lemma putBack_append {place : ℕ} {ps : List ℕ} (text rest : List Char) (texts : List String)
    (h : ∀ p ∈ ps, place + text.length ≤ p) : putBack place (text ++ rest) ps texts =
      text ++ putBack (place + text.length) rest ps texts := by
  induction text generalizing place with
  | nil => rfl
  | cons c text ih =>
    have hrest := @ih (place + 1) fun p hp => by
      have := h p hp
      rw [List.length_cons] at this
      omega
    have hplace : place + (c :: text).length = place + 1 + text.length := by
      rw [List.length_cons]; omega
    rw [hplace, List.cons_append, List.cons_append, ← hrest]
    match ps, texts with
    | [], _ => rw [putBack.eq_def]
    | _ :: _, [] => rw [putBack.eq_def]
    | p :: ps, s :: texts =>
      have hne : p ≠ place := by
        have := h p List.mem_cons_self
        rw [hplace] at this
        omega
      rw [putBack, if_neg hne]

/-- Put back at the question marks, the values give the text with the values in it. -/
lemma putBack_places (source : String) {place : ℕ} {segments : List TemplateSegment}
    {texts : List String} (h : texts.length = (placeholders ⟨source, segments⟩).length) :
    putBack place (sqlOfSegments segments).toList (places place segments) texts =
      weave id String.toList segments texts := by
  induction segments generalizing place texts with
  | nil => rfl
  | cons segment rest ih =>
    cases segment with
    | literal text =>
      rw [sqlOfSegments, String.toList_append, String.toList_ofList, places, weave_literal, id,
        putBack_append _ _ _ fun p hp => le_of_mem_places hp, ih h]
    | param name =>
      cases texts with
      | nil => cases h
      | cons s texts =>
        rw [sqlOfSegments, String.toList_append, weave_param, ← ih (Nat.succ.inj h)]
        show putBack place ('?' :: (sqlOfSegments rest).toList) (place :: _) (s :: texts) = _
        rw [putBack, if_pos rfl]

/-- How rendering into the text and rendering beside it go together, where the text of the statement
is given. -/
structure Agrees (t : QueryTemplate) (sql : String) (v : TemplateValues) : Prop where
  render_ok : ∀ escape, (∃ out, t.render v escape = .ok out) ↔
    ∀ name ∈ t.placeholders, ∃ s, Stands v name s
  parameterized_ok : (∃ out, t.renderParameterized v = .ok out) ↔
    ∀ name ∈ t.placeholders, ∃ s, Stands v name s
  render_error : ∀ escape e, t.render v escape = .error e ↔ FirstLack v t.placeholders e
  parameterized_error : ∀ e, t.renderParameterized v = .error e ↔ FirstLack v t.placeholders e
  result : ∀ sql' params, t.renderParameterized v = .ok (sql', params) → sql' = sql ∧
    params.length = t.placeholders.length ∧
    ∃ texts, params = texts.map .text ∧ List.Forall₂ (Stands v) t.placeholders texts ∧
      t.render v id = .ok (.ofList (putBack 0 sql'.toList (places 0 t.segments) texts))

/-- **Values never reach the text of a statement**: it is there before any value is known, with a
question mark for each placeholder, and takes the values in exactly when they can be spliced in. -/
theorem renderings_agree (t : QueryTemplate) :
    ∃ sql : String, (∀ p ∈ places 0 t.segments, sql.toList[p]? = some '?') ∧
      (places 0 t.segments).length = t.placeholders.length ∧ ∀ v, Agrees t sql v := by
  refine ⟨sqlOfSegments t.segments, fun p hp => getElem?_of_mem_places hp,
    length_places t.source 0 t.segments, fun v => ?_⟩
  refine ⟨fun escape => ?_, ?_, fun escape e => ?_, fun e => ?_, fun sql' params h => ?_⟩
  · rw [render_eq, exists_map_eq_ok_iff, exists_mapM_get_iff]
  · rw [renderParameterized_eq, exists_map_eq_ok_iff, exists_mapM_get_iff]
  · rw [render_eq, map_eq_error_iff, mapM_get_eq_error_iff]
  · rw [renderParameterized_eq, map_eq_error_iff, mapM_get_eq_error_iff]
  · rw [renderParameterized_eq, map_eq_ok_iff] at h
    obtain ⟨texts, htexts, hout⟩ := h
    obtain ⟨rfl, rfl⟩ := Prod.mk.inj hout
    have hstands := mapM_get_eq_ok_iff.1 htexts
    have hlength := hstands.length_eq
    refine ⟨rfl, by rw [List.length_map, hlength], texts, rfl, hstands, ?_⟩
    rw [render_eq_ok_iff]
    exact ⟨texts, hstands, by rw [putBack_places t.source hlength.symm]; rfl⟩

end AttributeRelease.Proofs.Rendering
