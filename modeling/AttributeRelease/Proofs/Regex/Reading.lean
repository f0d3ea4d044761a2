import AttributeRelease.Regex.Reader
import Mathlib.Tactic.Common
import Mathlib.Data.List.Basic

/-!
What comes after a pattern does not change how the pattern is read.

A pattern is read once by itself and once with a closing parenthesis and more text put after it.
Where the first reading succeeds, the second one finds the same and has the same text left, with
what was put after it. The one exception is a comment that is still open at the end: it hides what
comes after it.
-/

namespace AttributeRelease.Proofs.Reading

open Regex Text

variable {α β : Type} {q : Prop} {t s k rest : List Char} {n m : ℕ} {f : Flags}

/-- What a reader has left, by itself and with a closing parenthesis and more put after the text: a
comment that is still open at the end hides what is put there. Without the proposition the text has
no number sign and so no comment. -/
inductive Carries (q : Prop) (t : List Char) : List Char → List Char → Prop
  | on (s : List Char) (h : '#' ∈ s → q) : Carries q t s (s ++ ')' :: t)
  | hidden (h : q) : Carries q t [] []

lemma Carries.of_cons {c : Char} (h : Carries q t (c :: s) k) :
    ∃ k', k = c :: k' ∧ Carries q t s k' := by
  cases h with
  | on _ h => exact ⟨_, rfl, .on s fun hs => h (List.mem_cons_of_mem _ hs)⟩

lemma Carries.of_nil (h : Carries q t [] k) : q ∧ k = [] ∨ k = ')' :: t := by
  cases h with
  | on => exact .inr rfl
  | hidden h => exact .inl ⟨h, rfl⟩

lemma Carries.length_le (h : Carries q t s k) : s.length ≤ k.length := by
  cases h <;> simp

lemma cons_or (c : Char) (s : List Char) : (∃ rest, s = c :: rest) ∨ ∀ rest, s ≠ c :: rest := by
  by_cases h : ∃ rest, s = c :: rest
  · exact .inl h
  · exact .inr fun rest hs => h ⟨rest, hs⟩

lemma Carries.ne_cons {c : Char} (h : Carries q t s k) (hc : c ≠ ')') (hs : ∀ rest, s ≠ c :: rest)
    (rest : List Char) : k ≠ c :: rest := by
  rintro rfl
  cases s with
  | nil =>
    rcases h.of_nil with ⟨-, hk⟩ | hk
    · cases hk
    · exact hc (List.cons.inj hk).1
  | cons c' s =>
    obtain ⟨k', hk, -⟩ := h.of_cons
    obtain ⟨rfl, rfl⟩ := List.cons.inj hk
    exact hs s rfl

lemma cons_or₂ (c d : Char) (s : List Char) :
    (∃ rest, s = c :: d :: rest) ∨ ∀ rest, s ≠ c :: d :: rest := by
  by_cases h : ∃ rest, s = c :: d :: rest
  · exact .inl h
  · exact .inr fun rest hs => h ⟨rest, hs⟩

lemma Carries.ne_cons₂ {c d : Char} (h : Carries q t s k) (hc : c ≠ ')') (hd : d ≠ ')')
    (hs : ∀ rest, s ≠ c :: d :: rest) (rest : List Char) : k ≠ c :: d :: rest := by
  rintro rfl
  rcases cons_or c s with ⟨s', rfl⟩ | hne
  · obtain ⟨k', hk, hcarries⟩ := h.of_cons
    obtain rfl := (List.cons.inj hk).2
    exact hcarries.ne_cons hd (fun r hr => hs r (by rw [hr])) rest rfl
  · exact h.ne_cons hc hne _ rfl

lemma Carries.head?_eq_iff {c : Char} (h : Carries q t s k) (hc : c ≠ ')') :
    k.head? = some c ↔ s.head? = some c := by
  cases h with
  | hidden => rfl
  | on =>
    cases s with
    | nil => exact ⟨fun h => absurd (Option.some.inj h).symm hc, nofun⟩
    | cons => rfl

lemma Carries.dropWhile {p : Char → Bool} (hp : p ')' = false) (h : Carries q t s k) :
    Carries q t (s.dropWhile p) (k.dropWhile p) := by
  cases h with
  | hidden h => exact .hidden h
  | on _ h =>
    rw [List.dropWhile_append]
    split
    · next hempty =>
      rw [List.isEmpty_iff.1 hempty, List.dropWhile_cons_of_neg (by simp [hp])]
      exact .on [] nofun
    · exact .on _ fun hs => h ((List.dropWhile_sublist p).subset hs)

lemma length_dropWhile_le (p : Char → Bool) (s : List Char) : (s.dropWhile p).length ≤ s.length :=
  (List.dropWhile_suffix p).length_le

/-- What is put after the text ends no comment and names no class. -/
structure Quiet (t : List Char) : Prop where
  newline : '\n' ∉ t
  colon : ':' ∉ t

lemma dropComments_hidden {l : List Char} (h : '\n' ∉ l) : dropComments true l = [] := by
  induction l with
  | nil => rfl
  | cons c l ih =>
    rw [List.mem_cons, not_or] at h
    have hc : (c != '\n') = true := bne_iff_ne.2 (Ne.symm h.1)
    rw [dropComments, if_pos rfl, hc, ih h.2]

lemma length_dropComments_le (inComment : Bool) (s : List Char) :
    (dropComments inComment s).length ≤ s.length := by
  fun_induction dropComments inComment s with
  | case1 => exact Nat.le_refl _
  | case2 c rest ih => exact Nat.le_succ_of_le ih
  | case3 => exact Nat.le_succ_of_le ‹_›
  | case4 => exact Nat.le_succ_of_le ‹_›
  | case5 => exact Nat.le_refl _

lemma dropComments_carries (ht : Quiet t) (inComment : Bool) (s : List Char) (h : '#' ∈ s → q)
    (hc : inComment = true → q) :
    Carries q t (dropComments inComment s) (dropComments inComment (s ++ ')' :: t)) := by
  induction s generalizing inComment with
  | nil =>
    cases inComment with
    | false => exact .on [] nofun
    | true =>
      have hclose : '\n' ∉ ')' :: t := by
        rw [List.mem_cons, not_or]
        exact ⟨by decide, ht.newline⟩
      rw [List.nil_append, dropComments_hidden hclose]
      exact .hidden (hc rfl)
  | cons c rest ih =>
    have hrest : '#' ∈ rest → q := fun hs => h (List.mem_cons_of_mem _ hs)
    rw [List.cons_append, dropComments, dropComments]
    split
    · next hin => exact ih _ hrest fun _ => hc hin
    · split
      · exact ih _ hrest nofun
      · split
        · next hsign => exact ih _ hrest fun _ => h (hsign ▸ List.mem_cons_self)
        · exact .on (c :: rest) h

lemma skip_carries (ht : Quiet t) (f : Flags) (h : Carries q t s k) :
    Carries q t (f.skip s) (f.skip k) := by
  unfold Flags.skip
  split
  · cases h with
    | on _ h => exact dropComments_carries ht false s h nofun
    | hidden h => exact .hidden h
  · exact h

lemma length_skip_le (f : Flags) (s : List Char) : (f.skip s).length ≤ s.length := by
  unfold Flags.skip
  split
  · exact length_dropComments_le false s
  · exact Nat.le_refl _

/-- A text that does not end at once goes on with the same character. -/
lemma skip_cons (ht : Quiet t) (h : Carries q t s k) {c : Char} (hs : f.skip s = c :: rest) :
    rest.length + 1 ≤ s.length ∧ ∃ k', f.skip k = c :: k' ∧ Carries q t (c :: rest) (c :: k') ∧
      Carries q t rest k' := by
  have hlength := length_skip_le f s
  have hskip := skip_carries ht f h
  rw [hs] at hlength hskip
  obtain ⟨k', hk, hrest⟩ := hskip.of_cons
  exact ⟨hlength, k', hk, hk ▸ hskip, hrest⟩

/-- A character that a range would go on with, if it is no blank and no number sign. -/
lemma peek?_eq_some_iff {c : Char} (hc : isWhite c = false) (hne : c ≠ '#') :
    f.peek? s = some c ↔ if f.verbose then (s.dropWhile isWhite).head? = some c ∨
        ∃ rest, s.dropWhile isWhite = '#' :: rest ∧ (rest.dropWhile isWhite).head? = some c
      else s.head? = some c := by
  have hhead (hs : (s.dropWhile isWhite).head? ≠ some c) : s.head? ≠ some c := by
    intro h
    cases s with
    | nil => cases h
    | cons c' rest =>
      obtain rfl := Option.some.inj h
      rw [List.dropWhile_cons_of_neg (by simp [hc])] at hs
      exact hs rfl
  unfold Flags.peek?
  cases f.verbose with
  | false => rfl
  | true =>
    simp only [Bool.not_true, Bool.false_eq_true, if_false, if_true]
    split
    · next hs => simp [hs, hhead]
    · next rest hs =>
      split
      · next hrest => simp [hs, hrest, hhead, Ne.symm hne]
      · next c' _ hrest => simp [hs, hrest, Ne.symm hne]
    · next c' rest hnone hs =>
      have hne' : c' ≠ '#' := hnone
      simp [hs, hne']

lemma peek?_carries {c : Char} (h : Carries q t s k) (hc : isWhite c = false) (hne : c ≠ '#')
    (hclose : c ≠ ')') : f.peek? k = some c ↔ f.peek? s = some c := by
  have hdrop : Carries q t (s.dropWhile isWhite) (k.dropWhile isWhite) := h.dropWhile (by decide)
  rw [peek?_eq_some_iff hc hne, peek?_eq_some_iff hc hne, h.head?_eq_iff hclose,
    hdrop.head?_eq_iff hclose]
  rcases cons_or '#' (s.dropWhile isWhite) with ⟨rest, hs⟩ | hs
  · rw [hs] at hdrop
    obtain ⟨k', hk, hrest⟩ := hdrop.of_cons
    have hdrop' := hrest.dropWhile (p := isWhite) (by decide)
    simp [hs, hk, hdrop'.head?_eq_iff hclose]
  · have hk := hdrop.ne_cons (by decide) hs
    simp [hs, hk]

/-! ### Results -/

/-- Where one reader succeeds the other one does, with a result that goes with the first one's. -/
def Follows (R : α → α → Prop) (x y : Except SyntaxError α) : Prop :=
  ∀ a, x = .ok a → ∃ b, y = .ok b ∧ R a b

/-- Same findings, and no more left than there was. -/
inductive Ends (q : Prop) (t : List Char) (n : ℕ) : α × List Char → α × List Char → Prop
  | mk {a rest k} (hn : rest.length ≤ n) (h : Carries q t rest k) : Ends q t n (a, rest) (a, k)

/-- Same findings of two kinds, and no more left than there was. -/
inductive Ends₂ (q : Prop) (t : List Char) (n : ℕ) : α × β × List Char → α × β × List Char → Prop
  | mk {a b rest k} (hn : rest.length ≤ n) (h : Carries q t rest k) :
      Ends₂ q t n (a, b, rest) (a, b, k)

variable {R : α → α → Prop} {S : β → β → Prop}

lemma Follows.error {e : SyntaxError} {y : Except SyntaxError α} : Follows R (.error e) y := nofun

lemma Follows.ok {a b : α} (h : R a b) : Follows R (.ok a) (.ok b) :=
  fun _ ha => ⟨b, rfl, Except.ok.inj ha ▸ h⟩

lemma Follows.bind {x y : Except SyntaxError α} {g g' : α → Except SyntaxError β}
    (h : Follows R x y) (hg : ∀ a b, R a b → Follows S (g a) (g' b)) :
    Follows S (x >>= g) (y >>= g') := by
  intro c hc
  cases x with
  | error e => cases hc
  | ok a =>
    obtain ⟨b, rfl, hab⟩ := h a rfl
    exact hg a b hab c hc

/-- Something found out before without reading. -/
lemma Follows.bind_same {x : Except SyntaxError α} {g g' : α → Except SyntaxError β}
    (hg : ∀ a, Follows S (g a) (g' a)) : Follows S (x >>= g) (x >>= g') := by
  cases x with
  | error e => exact .error
  | ok a => exact hg a

lemma Follows.mono {R' : α → α → Prop} {x y : Except SyntaxError α} (h : Follows R x y)
    (hR : ∀ a b, R a b → R' a b) : Follows R' x y := by
  intro a ha
  obtain ⟨b, hb, hab⟩ := h a ha
  exact ⟨b, hb, hR a b hab⟩

lemma Follows.longer {x y : Except SyntaxError (α × List Char)} (h : Follows (Ends q t n) x y)
    (hn : n ≤ m) : Follows (Ends q t m) x y :=
  h.mono fun _ _ ⟨hl, hc⟩ => ⟨Nat.le_trans hl hn, hc⟩

lemma Follows.longer₂ {x y : Except SyntaxError (α × β × List Char)}
    (h : Follows (Ends₂ q t n) x y) (hn : n ≤ m) : Follows (Ends₂ q t m) x y :=
  h.mono fun _ _ ⟨hl, hc⟩ => ⟨Nat.le_trans hl hn, hc⟩

lemma readHexDigits_follows (ht : Quiet t) {v d : ℕ} (h : Carries q t s k) :
    Follows (Ends q t s.length) (readHexDigits f v d s) (readHexDigits f v d k) := by
  induction d generalizing v s k with
  | zero => exact Follows.bind_same fun c => .ok ⟨Nat.le_refl _, h⟩
  | succ d ih =>
    cases s with
    | nil => exact .error
    | cons c rest =>
      obtain ⟨k', rfl, hk⟩ := h.of_cons
      rw [readHexDigits, readHexDigits]
      cases hexDigit? c with
      | none => exact .error
      | some x =>
        have hlength := length_skip_le f rest
        exact (ih (skip_carries ht f hk)).longer (Nat.le_succ_of_le hlength)

lemma readHexBraced_follows (ht : Quiet t) {digits : Option ℕ} (hm : n ≤ m) (h : Carries q t s k) :
    Follows (Ends q t s.length) (readHexBraced f digits n s) (readHexBraced f digits m k) := by
  induction n generalizing m digits s k with
  | zero => exact .error
  | succ n ih =>
    obtain ⟨m, rfl⟩ := Nat.exists_eq_add_one_of_ne_zero (by omega : m ≠ 0)
    rw [readHexBraced, readHexBraced]
    cases hs : f.skip s with
    | nil => exact .error
    | cons c rest =>
      obtain ⟨hlength, k', hk, -, hcarries⟩ := skip_cons ht h hs
      rw [hk]
      by_cases hc : c = '}'
      · subst hc
        cases digits with
        | none => exact .error
        | some v =>
          have hlength' := length_skip_le f rest
          exact Follows.bind_same fun c => .ok ⟨by omega, skip_carries ht f hcarries⟩
      · simp only
        cases hexDigit? c with
        | none => exact .error
        | some x => exact (ih (by omega) hcarries).longer (by omega)

lemma readHex_follows (ht : Quiet t) {d : ℕ} (h : Carries q t s k) :
    Follows (Ends q t s.length) (readHex f d s) (readHex f d k) := by
  have hskip := skip_carries ht f h
  rw [readHex, readHex]
  rcases cons_or '{' (f.skip s) with ⟨rest, hs⟩ | hs
  · obtain ⟨hlength, k', hk, -, hcarries⟩ := skip_cons ht h hs
    have hfuel := Nat.succ_le_succ hcarries.length_le
    rw [hs, hk]
    exact (readHexBraced_follows ht hfuel hcarries).longer (by omega)
  · have hk := hskip.ne_cons (by decide) hs
    -- neither text has the brace that the first case asks for
    simp only
    exact (readHexDigits_follows ht hskip).longer (length_skip_le f s)

lemma readBracedName_follows (ht : Quiet t) {name : List Char} (hm : n ≤ m) (h : Carries q t s k) :
    Follows (Ends q t s.length) (readBracedName f name n s) (readBracedName f name m k) := by
  induction n generalizing m name s k with
  | zero => exact .error
  | succ n ih =>
    obtain ⟨m, rfl⟩ := Nat.exists_eq_add_one_of_ne_zero (by omega : m ≠ 0)
    rw [readBracedName, readBracedName]
    cases hs : f.skip s with
    | nil => exact .error
    | cons c rest =>
      obtain ⟨hlength, k', hk, -, hcarries⟩ := skip_cons ht h hs
      rw [hk]
      by_cases hc : c = '}'
      · subst hc
        exact .ok ⟨by omega, hcarries⟩
      · simp only
        exact (ih (by omega) hcarries).longer (by omega)

lemma readProperty_follows (ht : Quiet t) {negated : Bool} (h : Carries q t s k) :
    Follows (Ends q t s.length) (readProperty f negated s) (readProperty f negated k) := by
  rw [readProperty, readProperty]
  cases hs : f.skip s with
  | nil => exact .error
  | cons c rest =>
    obtain ⟨hlength, k', hk, -, hcarries⟩ := skip_cons ht h hs
    rw [hk]
    by_cases hbrace : c = '{'
    · subst hbrace
      have hfuel := Nat.succ_le_succ hcarries.length_le
      refine Follows.bind (readBracedName_follows ht hfuel hcarries) ?_
      rintro _ _ ⟨hn, hrest⟩
      exact Follows.bind_same fun _ => .ok ⟨by omega, hrest⟩
    · by_cases hslash : c = '\\'
      · subst hslash
        exact .error
      · simp only
        have hlength' := length_skip_le f rest
        exact Follows.bind_same fun _ => .ok ⟨by omega, skip_carries ht f hcarries⟩

lemma readEdgeName_follows (ht : Quiet t) {name : List Char} (hm : n ≤ m) (h : Carries q t s k) :
    Follows (Ends q t s.length) (readEdgeName f name n s) (readEdgeName f name m k) := by
  induction n generalizing m name s k with
  | zero => exact .error
  | succ n ih =>
    obtain ⟨m, rfl⟩ := Nat.exists_eq_add_one_of_ne_zero (by omega : m ≠ 0)
    cases s with
    | nil => exact .error
    | cons c rest =>
      obtain ⟨k', rfl, hk⟩ := h.of_cons
      have hlength := length_skip_le f rest
      rw [readEdgeName, readEdgeName]
      split
      · exact (ih (by omega) (skip_carries ht f hk)).longer (Nat.le_succ_of_le hlength)
      · split
        · exact .ok ⟨Nat.le_succ _, hk⟩
        · exact .error

lemma readEdge_follows (ht : Quiet t) (h : Carries q t s k) :
    Follows (Ends q t s.length) (readEdge f s) (readEdge f k) := by
  rcases cons_or '{' s with ⟨rest, rfl⟩ | hs
  · obtain ⟨k', rfl, hk⟩ := h.of_cons
    rw [readEdge, readEdge]
    cases hs : f.skip rest with
    | nil => exact .error
    | cons c tail =>
      obtain ⟨hlength, l, hl, hname, hcarries⟩ := skip_cons ht hk hs
      rw [hl]
      simp only
      split
      · have hfuel : tail.length + 2 ≤ l.length + 2 := Nat.add_le_add_right hcarries.length_le 2
        refine Follows.bind (readEdgeName_follows ht hfuel hname) ?_
        rintro _ _ @⟨name, left, left', hn, hleft⟩
        simp only
        rw [List.length_cons] at hn
        cases edgeNamed? (.ofList name) with
        | none => exact .error
        | some e => exact .ok ⟨by rw [List.length_cons]; omega, hleft⟩
      · exact .ok ⟨Nat.le_refl _, h⟩
  · have hk := h.ne_cons (by decide) hs
    unfold readEdge
    simp only
    exact .ok ⟨Nat.le_refl _, h⟩

lemma perlClass_follows {negated : Bool} {unicode ascii : CharSet} (h : Carries q t s k) :
    Follows (Ends q t s.length) (perlClass f negated unicode ascii s)
      (perlClass f negated unicode ascii k) :=
  Follows.bind_same fun _ => .ok ⟨Nat.le_refl _, h⟩

lemma readEscape_follows (ht : Quiet t) (h : Carries q t s k) :
    Follows (Ends q t s.length) (readEscape f s) (readEscape f k) := by
  cases s with
  | nil => exact .error
  | cons c rest =>
    obtain ⟨k', rfl, hk⟩ := h.of_cons
    have hlength : rest.length ≤ (c :: rest).length := Nat.le_succ _
    have hhex (d : ℕ) : Follows (Ends q t rest.length)
        (readHex f d rest >>= fun p => .ok (Primitive.literal p.1 false, p.2))
        (readHex f d k' >>= fun p => .ok (Primitive.literal p.1 false, p.2)) := by
      refine Follows.bind (readHex_follows ht hk) ?_
      rintro _ _ ⟨hn, hrest⟩
      exact .ok ⟨hn, hrest⟩
    have hplain (p : Primitive) : Follows (Ends q t (c :: rest).length) (.ok (p, rest))
        (.ok (p, k')) := .ok ⟨hlength, hk⟩
    unfold readEscape
    simp only
    -- the escapes in the order of the reader: numbers, properties, classes and single characters
    split
    · refine (Follows.bind (readHex_follows ht hk) ?_).longer hlength
      rintro _ _ ⟨hn, hrest⟩
      have hbrace : ((f.skip k').head? != some '{') = ((f.skip rest).head? != some '{') := by
        rw [Bool.eq_iff_iff, bne_iff_ne, bne_iff_ne, ne_eq, ne_eq,
          (skip_carries ht f hk).head?_eq_iff (by decide)]
      rw [hbrace]
      exact .ok ⟨hn, hrest⟩
    iterate 2 exact (hhex _).longer hlength
    iterate 2 exact (readProperty_follows ht hk).longer hlength
    iterate 6 exact (perlClass_follows hk).longer hlength
    iterate 8 exact hplain _
    · exact (readEdge_follows ht hk).longer hlength
    iterate 3 exact hplain _
    · split
      · exact hplain _
      · exact .error

end AttributeRelease.Proofs.Reading
