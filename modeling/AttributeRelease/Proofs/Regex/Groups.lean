import AttributeRelease.Proofs.Checks
import AttributeRelease.Proofs.Regex.Classes

/-!
Reading a pattern inside of a group.

A reader that takes elements by itself takes the same ones inside of more groups: what it has
collected is the same, and the groups around it stay below its own. Where it comes to an end by
itself, the reader inside comes to the closing parenthesis of the group around the pattern.
-/

namespace AttributeRelease.Proofs.Groups

open Regex Text Reading Classes

variable {q : Prop} {t s k rest : List Char} {n m : ℕ} {f : Flags} {r : Reader} {below : List Frame}

lemma readGroupName_follows {name : List Char} (h : Carries q t s k) :
    Follows (Ends q t s.length) (Reader.readGroupName name s) (Reader.readGroupName name k) := by
  induction s generalizing name k with
  | nil => exact .error
  | cons c rest ih =>
    obtain ⟨k', rfl, hk⟩ := h.of_cons
    rw [Reader.readGroupName, Reader.readGroupName]
    split
    · split
      · exact .error
      · exact .ok ⟨Nat.le_succ _, hk⟩
    · split
      · exact (ih hk).longer (Nat.le_succ _)
      · exact .error

/-- Flags, the letters read, the mark after them, and no more left than there was. -/
inductive FlagEnds (q : Prop) (t : List Char) (n : ℕ) :
    Flags × List Char × Char × List Char → Flags × List Char × Char × List Char → Prop
  | mk {f seen stop rest k} (hn : rest.length ≤ n) (h : Carries q t rest k) :
      FlagEnds q t n (f, seen, stop, rest) (f, seen, stop, k)

lemma readFlags_follows {seen : List Char} (h : Carries q t s k) :
    Follows (FlagEnds q t s.length) (Reader.readFlags f seen s) (Reader.readFlags f seen k) := by
  induction s generalizing f seen k with
  | nil => exact .error
  | cons c rest ih =>
    obtain ⟨k', rfl, hk⟩ := h.of_cons
    have ih' (f : Flags) : Follows (FlagEnds q t (c :: rest).length)
        (Reader.readFlags f (c :: seen) rest) (Reader.readFlags f (c :: seen) k') :=
      (ih hk).mono fun _ _ ⟨hn, hrest⟩ => ⟨Nat.le_succ_of_le hn, hrest⟩
    rw [Reader.readFlags, Reader.readFlags]
    split
    · split
      · exact .error
      · exact .ok ⟨Nat.le_succ _, hk⟩
    · split
      · exact .error
      · split
        · exact ih' f
        · cases Reader.setFlag f (!seen.contains '-') c with
          | none => exact .error
          | some f => exact ih' f

lemma readGreed_carries (h : Carries q t s k) : (Reader.readGreed k).1 = (Reader.readGreed s).1 ∧
    Carries q t (Reader.readGreed s).2 (Reader.readGreed k).2 ∧
      (Reader.readGreed s).2.length ≤ s.length := by
  rcases cons_or '?' s with ⟨rest, rfl⟩ | hs
  · obtain ⟨k', rfl, hk⟩ := h.of_cons
    exact ⟨rfl, hk, Nat.le_succ _⟩
  · have hk := h.ne_cons (by decide) hs
    unfold Reader.readGreed
    simp only
    exact ⟨trivial, h, Nat.le_refl _⟩

lemma readDigits_carries (ht : Quiet t) (value : Option ℕ) (hs : s.length ≤ n) (hm : n ≤ m)
    (h : Carries q t s k) :
    (Reader.readDigits f value m k).1 = (Reader.readDigits f value n s).1 ∧
      Carries q t (Reader.readDigits f value n s).2 (Reader.readDigits f value m k).2 ∧
        (Reader.readDigits f value n s).2.length ≤ s.length := by
  induction n generalizing m value s k with
  | zero =>
    obtain rfl := List.eq_nil_of_length_eq_zero (Nat.le_zero.1 hs)
    have hstay : Reader.readDigits f value m k = (value, k) := by
      rcases h.of_nil with ⟨-, rfl⟩ | rfl <;> cases m <;> rfl
    rw [hstay]
    exact ⟨rfl, h, Nat.le_refl _⟩
  | succ n ih =>
    obtain ⟨m, rfl⟩ := Nat.exists_eq_add_one_of_ne_zero (by omega : m ≠ 0)
    cases s with
    | nil =>
      have hstay : Reader.readDigits f value (m + 1) k = (value, k) := by
        rcases h.of_nil with ⟨-, rfl⟩ | rfl <;> rfl
      rw [hstay]
      exact ⟨rfl, h, Nat.le_refl _⟩
    | cons c rest =>
      obtain ⟨k', rfl, hk⟩ := h.of_cons
      rw [Reader.readDigits, Reader.readDigits]
      split
      · have hlength := length_skip_le f rest
        rw [List.length_cons] at hs ⊢
        have hskip : (f.skip rest).length ≤ n := by omega
        have hfuel := Nat.le_of_succ_le_succ hm
        obtain ⟨hvalue, hcarries, hle⟩ := ih _ hskip hfuel (skip_carries ht f hk)
        exact ⟨hvalue, hcarries, Nat.le_trans hle (Nat.le_succ_of_le hlength)⟩
      · exact ⟨rfl, h, Nat.le_refl _⟩

lemma readCount_follows (ht : Quiet t) (h : Carries q t s k) :
    Follows (Ends q t s.length) (Reader.readCount f s) (Reader.readCount f k) := by
  have hdrop : Carries q t (s.dropWhile isWhite) (k.dropWhile isWhite) := h.dropWhile (by decide)
  obtain ⟨hvalue, hdigits, hle⟩ :=
    readDigits_carries (f := f) ht none (Nat.le_refl _) hdrop.length_le hdrop
  have hend := skip_carries ht f (hdigits.dropWhile (p := isWhite) (by decide))
  unfold Reader.readCount
  simp only [hvalue]
  split
  · exact .error
  · refine .ok ⟨?_, hend⟩
    exact Nat.le_trans (length_skip_le _ _) (Nat.le_trans (length_dropWhile_le _ _)
      (Nat.le_trans hle (length_dropWhile_le _ _)))

/-! ### Readers -/

/-- A reader inside of more groups. -/
def within (below : List Frame) (k : List Char) (r : Reader) : Reader :=
  { r with rest := k, frames := r.frames ++ below }

/-- The same reader inside of more groups, with no more left than there was. -/
inductive Inside (q : Prop) (t : List Char) (below : List Frame) (n : ℕ) : Reader → Reader → Prop
  | mk {r : Reader} {k : List Char} (hn : r.rest.length ≤ n) (h : Carries q t r.rest k) :
      Inside q t below n r (within below k r)

@[simp] lemma within_flags : (within below k r).flags = r.flags := rfl

lemma inside_of_eq {r' : Reader} (h : Carries q t r.rest k) (hn : r.rest.length ≤ n)
    (hr : r' = within below k r) : Inside q t below n r r' := hr ▸ ⟨hn, h⟩

lemma inside_longer {x y : Except SyntaxError Reader} (h : Follows (Inside q t below n) x y)
    (hn : n ≤ m) : Follows (Inside q t below m) x y :=
  h.mono fun _ _ ⟨hl, hc⟩ => ⟨Nat.le_trans hl hn, hc⟩

variable {k₀ : List Char}

lemma nameGroup_follows (h : Carries q t s k) :
    Follows (Inside q t below s.length) (r.nameGroup s) ((within below k₀ r).nameGroup k) := by
  refine Follows.bind (readGroupName_follows h) ?_
  rintro _ _ @⟨name, rest, k', hn, hrest⟩
  by_cases hname : r.names.contains name
  · simp only [hname, if_true]
    exact .error
  · simp only [within, hname]
    have hinside : Inside q t below s.length
        { r.openCapture rest with names := name :: r.names }
        (within below k' { r.openCapture rest with names := name :: r.names }) := ⟨hn, hrest⟩
    exact .ok hinside

lemma closeGroup_follows (h : Carries q t s k) :
    Follows (Inside q t below s.length) (r.closeGroup s) ((within below k₀ r).closeGroup k) := by
  unfold Reader.closeGroup
  simp only [within]
  cases r.frames with
  | nil => exact .error
  | cons frame frames => exact .ok (inside_of_eq h (Nat.le_refl _) rfl)

lemma repeatLast_follows (h : Carries q t s k) {greedy : Bool} {min : ℕ} {max : Option ℕ} :
    Follows (Inside q t below s.length) (r.repeatLast greedy min max s)
      ((within below k₀ r).repeatLast greedy min max k) := by
  unfold Reader.repeatLast
  simp only [within]
  split
  · exact .ok (inside_of_eq h (Nat.le_refl _) rfl)
  · exact .error

lemma pushPrimitive_follows (h : Carries q t s k) {p : Primitive} :
    Follows (Inside q t below s.length) (r.pushPrimitive p s)
      ((within below k₀ r).pushPrimitive p k) := by
  cases p with
  | literal c byte => exact Follows.bind_same fun _ => .ok (inside_of_eq h (Nat.le_refl _) rfl)
  | set | look => exact .ok (inside_of_eq h (Nat.le_refl _) rfl)

/-- The end of a count: its brace and what makes it lazy. -/
def closeCount (r : Reader) (low : ℕ) (high : Option ℕ) : List Char → Except SyntaxError Reader
  | '}' :: rest =>
    let (greedy, rest) := Reader.readGreed (r.flags.skip rest)
    if high.any (· < low) then .error .repetitionCount else r.repeatLast greedy low high rest
  | _ => .error .repetitionCount

lemma closeCount_follows (ht : Quiet t) (h : Carries q t s k) {low : ℕ} {high : Option ℕ} :
    Follows (Inside q t below s.length) (closeCount r low high s)
      (closeCount (within below k₀ r) low high k) := by
  rcases cons_or '}' s with ⟨rest, rfl⟩ | hs
  · obtain ⟨k', rfl, hk⟩ := h.of_cons
    obtain ⟨hgreed, hcarries, hle⟩ := readGreed_carries (skip_carries ht r.flags hk)
    have hle' := length_skip_le r.flags rest
    have hlength : (Reader.readGreed (r.flags.skip rest)).2.length ≤ ('}' :: rest).length :=
      Nat.le_succ_of_le (Nat.le_trans hle hle')
    rw [closeCount, closeCount]
    simp only [hgreed, within_flags]
    split
    · exact .error
    · exact inside_longer (repeatLast_follows hcarries) hlength
  · unfold closeCount
    simp only
    exact .error

/-- The upper bound of a count, up to its closing brace. -/
def readHigh (f : Flags) (low : ℕ) : List Char → Except SyntaxError (Option ℕ × List Char)
  | ',' :: rest =>
    match f.skip rest with
    | '}' :: rest => .ok (none, '}' :: rest)
    | rest =>
      Reader.readCount f rest >>= fun p => if p.1.isNone then .error .repetitionCount else .ok p
  | rest => .ok (some low, rest)

lemma readHigh_follows (ht : Quiet t) (h : Carries q t s k) {low : ℕ} :
    Follows (Ends q t s.length) (readHigh f low s) (readHigh f low k) := by
  rcases cons_or ',' s with ⟨rest, rfl⟩ | hs
  · obtain ⟨k', rfl, hk⟩ := h.of_cons
    have hskip := skip_carries ht f hk
    have hlength := length_skip_le f rest
    rcases cons_or '}' (f.skip rest) with ⟨left, hs⟩ | hs
    · obtain ⟨hle, l, hl, hleft, -⟩ := skip_cons ht hk hs
      rw [readHigh, readHigh, hs, hl]
      exact .ok ⟨Nat.le_succ_of_le hle, hleft⟩
    · have hk' := hskip.ne_cons (by decide) hs
      unfold readHigh
      simp only
      refine Follows.bind (readCount_follows ht hskip) ?_
      rintro _ _ @⟨high, left, l, hn, hleft⟩
      split
      · exact .error
      · exact .ok ⟨by rw [List.length_cons]; omega, hleft⟩
  · have hk := h.ne_cons (by decide) hs
    unfold readHigh
    simp only
    exact .ok ⟨Nat.le_refl _, h⟩

lemma repeatCounted_eq (r : Reader) (s : List Char) : r.repeatCounted s =
    if r.parts.isEmpty then .error .repetitionMissing
    else Reader.readCount r.flags (r.flags.skip s) >>= fun p =>
      match p.1 with
      | none => .error .repetitionCount
      | some low => readHigh r.flags low p.2 >>= fun high => closeCount r low high.1 high.2 := by
  unfold Reader.repeatCounted
  split
  · rfl
  · refine bind_congr fun ⟨low, rest⟩ => ?_
    cases low with
    | none => rfl
    | some low =>
      rcases cons_or ',' rest with ⟨rest, rfl⟩ | hrest
      · unfold readHigh
        simp only
        rcases cons_or '}' (r.flags.skip rest) with ⟨left, hs⟩ | hs
        · rw [hs]
          rfl
        · simp only
          cases Reader.readCount r.flags (r.flags.skip rest) with
          | error e => rfl
          | ok p =>
            obtain ⟨high, left⟩ := p
            cases high <;> rfl
      · unfold readHigh
        simp only
        rfl

lemma repeatCounted_follows (ht : Quiet t) (h : Carries q t s k) :
    Follows (Inside q t below s.length) (r.repeatCounted s)
      ((within below k₀ r).repeatCounted k) := by
  rw [repeatCounted_eq, repeatCounted_eq]
  by_cases hparts : r.parts.isEmpty = true
  · rw [if_pos hparts]
    exact .error
  · have hparts' : ¬(within below k₀ r).parts.isEmpty = true := hparts
    rw [if_neg hparts, if_neg hparts', within_flags]
    refine Follows.bind (readCount_follows ht (skip_carries ht _ h)) ?_
    rintro _ _ @⟨low, rest, k', hn, hrest⟩
    have hn' := Nat.le_trans hn (length_skip_le r.flags s)
    cases low with
    | none => exact .error
    | some low =>
      refine Follows.bind (readHigh_follows ht hrest) ?_
      rintro _ _ @⟨high, left, l, hn, hleft⟩
      exact inside_longer (closeCount_follows ht hleft) (Nat.le_trans hn hn')

/-- Flags with the letters read for them: for a group of their own, or from here on. -/
def flagGroup (r : Reader) (p : Flags × List Char × Char × List Char) : Except SyntaxError Reader :=
  if p.2.2.1 = ':' then .ok (r.openGroup none p.1 p.2.2.2)
  else if p.2.1.isEmpty then .error .repetitionMissing
  else .ok { r with flags := p.1, rest := p.2.2.2, parts := .flags :: r.parts }

lemma flagGroup_follows (h : Carries q t s k) :
    Follows (Inside q t below s.length) (Reader.readFlags r.flags [] s >>= flagGroup r)
      (Reader.readFlags r.flags [] k >>= flagGroup (within below k₀ r)) := by
  refine Follows.bind (readFlags_follows h) ?_
  rintro _ _ @⟨f, seen, stop, rest, k', hn, hrest⟩
  unfold flagGroup
  simp only
  split
  · exact .ok (inside_of_eq hrest hn rfl)
  · split
    · exact .error
    · exact .ok (inside_of_eq hrest hn rfl)

lemma startGroup_plain (h : ∀ rest, r.flags.skip s ≠ '?' :: rest) :
    r.startGroup s = .ok (r.openCapture (r.flags.skip s)) := by
  unfold Reader.startGroup
  split <;> first | exact absurd ‹_› (h _) | rfl

lemma startGroup_flags (hs : r.flags.skip s = '?' :: rest) (heq : ∀ l, rest ≠ '=' :: l)
    (hnot : ∀ l, rest ≠ '!' :: l) (hname : ∀ l, rest ≠ 'P' :: '<' :: l)
    (hangle : ∀ l, rest ≠ '<' :: l) :
    r.startGroup s = Reader.readFlags r.flags [] rest >>= flagGroup r := by
  have htail {l : List Char} (h : '?' :: rest = '?' :: l) : rest = l := (List.cons.inj h).2
  unfold Reader.startGroup
  rw [hs]
  split
  · exact absurd (htail ‹_›) (heq _)
  · exact absurd (htail ‹_›) (hnot _)
  · exact absurd (htail ‹_›) (hangle _)
  · exact absurd (htail ‹_›) (hangle _)
  · exact absurd (htail ‹_›) (hname _)
  · exact absurd (htail ‹_›) (hangle _)
  · next h =>
    obtain rfl := htail h
    refine bind_congr fun ⟨f, seen, stop, rest⟩ => ?_
    unfold flagGroup
    simp only
    split
    · rfl
    · cases seen <;> rfl
  · next hnone => exact absurd rfl (hnone _)

lemma startGroup_named (hs : r.flags.skip s = '?' :: '<' :: rest) (heq : ∀ l, rest ≠ '=' :: l)
    (hnot : ∀ l, rest ≠ '!' :: l) : r.startGroup s = r.nameGroup rest := by
  unfold Reader.startGroup
  rw [hs]
  simp only

lemma startGroup_follows (ht : Quiet t) (h : Carries q t s k) :
    Follows (Inside q t below s.length) (r.startGroup s) ((within below k₀ r).startGroup k) := by
  have hskip := skip_carries ht r.flags h
  rcases cons_or '?' (r.flags.skip s) with ⟨rest, hs⟩ | hs
  · obtain ⟨hle, k', hk, -, hrest⟩ := skip_cons ht h hs
    have hk' : (within below k₀ r).flags.skip k = '?' :: k' := hk
    -- a question mark starts a look-around, a name or flags, and each shows before the text ends
    rcases cons_or '=' rest with ⟨l, rfl⟩ | heq
    · rw [Reader.startGroup, hs]
      exact .error
    rcases cons_or '!' rest with ⟨l, rfl⟩ | hnot
    · rw [Reader.startGroup, hs]
      exact .error
    rcases cons_or₂ 'P' '<' rest with ⟨left, rfl⟩ | hname
    · obtain ⟨k', rfl, hl⟩ := hrest.of_cons
      obtain ⟨l, rfl, hleft⟩ := hl.of_cons
      rw [Reader.startGroup, Reader.startGroup, hs, hk']
      simp only [List.length_cons] at hle
      exact inside_longer (nameGroup_follows hleft) (by omega)
    rcases cons_or '<' rest with ⟨left, rfl⟩ | hangle
    · obtain ⟨l, rfl, hl⟩ := hrest.of_cons
      rcases cons_or '=' left with ⟨_, rfl⟩ | heq
      · rw [Reader.startGroup, hs]
        exact .error
      rcases cons_or '!' left with ⟨_, rfl⟩ | hnot
      · rw [Reader.startGroup, hs]
        exact .error
      rw [startGroup_named hs heq hnot,
        startGroup_named hk' (hl.ne_cons (by decide) heq) (hl.ne_cons (by decide) hnot)]
      simp only [List.length_cons] at hle
      exact inside_longer (nameGroup_follows hl) (by omega)
    · rw [startGroup_flags hs heq hnot hname hangle,
        startGroup_flags hk' (hrest.ne_cons (by decide) heq) (hrest.ne_cons (by decide) hnot)
          (hrest.ne_cons₂ (by decide) (by decide) hname) (hrest.ne_cons (by decide) hangle)]
      exact inside_longer (flagGroup_follows hrest) (by omega)
  · have hk : ∀ l, (within below k₀ r).flags.skip k ≠ '?' :: l := hskip.ne_cons (by decide) hs
    rw [startGroup_plain hs, startGroup_plain hk]
    exact .ok (inside_of_eq hskip (length_skip_le _ _) rfl)

/-- What a repetition sign does. -/
lemma repeatGreed_follows (h : Carries q t s k) {min : ℕ} {max : Option ℕ} :
    Follows (Inside q t below s.length)
      (r.repeatLast (Reader.readGreed s).1 min max (Reader.readGreed s).2)
      ((within below k₀ r).repeatLast (Reader.readGreed k).1 min max (Reader.readGreed k).2) := by
  obtain ⟨hgreed, hcarries, hle⟩ := readGreed_carries h
  rw [hgreed]
  exact inside_longer (repeatLast_follows hcarries) hle

/-- Where a reader can take one more element, so it can inside of more groups. -/
lemma step_follows (ht : Quiet t) (h : Carries q t s k) (c : Char) :
    Follows (Inside q t below s.length) (r.step c s) ((within below k₀ r).step c k) := by
  have hstay : s.length ≤ s.length := Nat.le_refl _
  unfold Reader.step
  split
  · exact startGroup_follows ht h
  · exact closeGroup_follows h
  · exact .ok (inside_of_eq h hstay rfl)
  · refine Follows.bind (readBracketed_follows ht h) ?_
    rintro _ _ @⟨set, height, rest, k', hn, hrest⟩
    exact .ok (inside_of_eq hrest hn rfl)
  iterate 3 exact repeatGreed_follows h
  · exact repeatCounted_follows ht h
  · refine Follows.bind (readEscape_follows ht h) ?_
    rintro _ _ @⟨p, rest, k', hn, hrest⟩
    exact inside_longer (pushPrimitive_follows hrest) hn
  · exact Follows.bind_same fun _ => .ok (inside_of_eq h hstay rfl)
  iterate 2 exact .ok (inside_of_eq h hstay rfl)
  · exact pushPrimitive_follows h

/-- A reader that comes to an end by itself comes to the closing parenthesis inside of more groups,
unless a comment hides it. -/
lemma run_follows (ht : Quiet t) (h : Carries q t r.rest k) (hn : r.rest.length < n) {p : Piece}
    (hrun : Reader.run n r = .ok p) (below : List Frame) (j : ℕ) :
    ∃ r' : Reader, r'.frames = [] ∧ joinAlternatives r'.alternatives r'.parts = p ∧ ∃ k',
      (q ∧ Reader.run (n + j) (within below k r) = (within below k' r').finish ∨
        ∃ i, j ≤ i ∧ Reader.run (n + j) (within below k r) =
          (within below k' r').closeGroup t >>= Reader.run i) := by
  -- an element takes a character, so the fuel outlasts the text and no reader stops before its end
  induction n generalizing r k with
  | zero => exact absurd hn (Nat.not_lt_zero _)
  | succ n ih =>
    have hskip := skip_carries ht r.flags h
    have hwithin : (within below k r).flags.skip (within below k r).rest = r.flags.skip k := rfl
    rw [Nat.add_right_comm, Reader.run, hwithin]
    rw [Reader.run] at hrun
    cases hs : r.flags.skip r.rest with
    | nil =>
      rw [hs] at hrun hskip
      simp only [Reader.finish] at hrun
      split at hrun
      · next hframes =>
        refine ⟨r, List.isEmpty_iff.1 hframes, Except.ok.inj hrun, k, ?_⟩
        rcases hskip.of_nil with ⟨hq, hk⟩ | hk
        · refine .inl ⟨hq, ?_⟩
          rw [hk]
        · refine .inr ⟨n + j, Nat.le_add_left _ _, ?_⟩
          rw [hk]
          rfl
      · cases hrun
    | cons c rest =>
      obtain ⟨hle, k', hk, -, hrest⟩ := skip_cons ht h hs
      rw [hs] at hrun
      obtain ⟨r₁, hr₁, hrun⟩ := Checks.bind_eq_ok_iff.1 hrun
      have hfollows : Follows (Inside q t below rest.length) (r.step c rest)
          ((within below k r).step c k') := step_follows ht hrest c
      obtain ⟨_, hstep, ⟨hle₁, h₁⟩⟩ := hfollows _ hr₁
      rw [hk]
      simp only [hstep]
      exact ih h₁ (by omega) hrun

end AttributeRelease.Proofs.Groups
