import AttributeRelease.Proofs.Regex.Reading
import AttributeRelease.Regex.Bracket

/-!
Bracketed classes are read as before when more text is put after the pattern.
-/

namespace AttributeRelease.Proofs.Classes

open Regex Text Reading

variable {q : Prop} {t s k rest : List Char} {n m : ℕ} {f : Flags}

lemma drop_takeWhile (p : Char → Bool) (s : List Char) :
    s.drop (s.takeWhile p).length = s.dropWhile p := by
  induction s with
  | nil => rfl
  | cons c s ih =>
    cases h : p c with
    | false =>
      have hc : ¬p c = true := by simp [h]
      rw [List.takeWhile_cons_of_neg hc, List.dropWhile_cons_of_neg hc]
      rfl
    | true =>
      rw [List.takeWhile_cons_of_pos h, List.dropWhile_cons_of_pos h]
      exact ih

/-- The end of the name of a class, and the class. -/
def endName? (negated : Bool) (s : List Char) : Option (Bool × CharSet × List Char) :=
  let name := s.takeWhile (· != ':')
  match s.drop name.length, named? (.ofList name) with
  | ':' :: ']' :: left, some set => some (negated, set, left)
  | _, _ => none

lemma takeWhile_colon (ht : Quiet t) (h : Carries q t s k) :
    s.dropWhile (· != ':') = [] ∧ k.dropWhile (· != ':') = [] ∨
      k.takeWhile (· != ':') = s.takeWhile (· != ':') ∧
        Carries q t (s.dropWhile (· != ':')) (k.dropWhile (· != ':')) := by
  cases h with
  | hidden => exact .inl ⟨rfl, rfl⟩
  | on _ h =>
    have hnone : (')' :: t).dropWhile (· != ':') = [] := by
      rw [dropWhile_eq_nil_iff, List.all_eq_true]
      rintro c hc
      rcases List.mem_cons.1 hc with rfl | hc
      · rfl
      · exact bne_iff_ne.2 fun h => ht.colon (h ▸ hc)
    rw [List.dropWhile_append]
    cases hs : s.dropWhile (· != ':') with
    | nil => exact .inl ⟨rfl, hnone⟩
    | cons c rest =>
      have hsign (hmem : '#' ∈ c :: rest) : q := h ((List.dropWhile_sublist _).subset (hs ▸ hmem))
      refine .inr ⟨?_, .on _ hsign⟩
      have hsplit := congrArg List.length
        (List.takeWhile_append_dropWhile (p := (· != ':')) (l := s))
      rw [hs, List.length_append, List.length_cons] at hsplit
      rw [List.takeWhile_append, if_neg (by omega)]

lemma endName?_eq_none (negated : Bool) (h : ∀ left, s.dropWhile (· != ':') ≠ ':' :: ']' :: left) :
    endName? negated s = none := by
  unfold endName?
  simp only [drop_takeWhile]
  split
  · next hs _ => exact absurd hs (h _)
  · rfl

/-- The rest of the name of a class is seen as before, or there is none as before. -/
lemma endName?_carries (ht : Quiet t) (negated : Bool) (h : Carries q t s k) :
    (endName? negated s = none ∧ endName? negated k = none) ∨
      ∃ set left left', endName? negated s = some (negated, set, left) ∧
        endName? negated k = some (negated, set, left') ∧ left.length ≤ s.length ∧
          Carries q t left left' := by
  rcases takeWhile_colon ht h with ⟨hs, hk⟩ | ⟨hname, hcarries⟩
  · exact .inl ⟨endName?_eq_none _ (by simp [hs]), endName?_eq_none _ (by simp [hk])⟩
  rcases cons_or₂ ':' ']' (s.dropWhile (· != ':')) with ⟨left, hs⟩ | hs
  · rw [hs] at hcarries
    obtain ⟨k', hk, hcarries⟩ := hcarries.of_cons
    obtain ⟨left', rfl, hleft⟩ := hcarries.of_cons
    unfold endName?
    simp only [drop_takeWhile, hs, hk]
    rw [hname]
    cases named? (.ofList (s.takeWhile (· != ':'))) with
    | none => exact .inl ⟨rfl, rfl⟩
    | some set =>
      have hlength : left.length ≤ s.length := by
        have hle := length_dropWhile_le (· != ':') s
        rw [hs, List.length_cons, List.length_cons] at hle
        omega
      exact .inr ⟨set, left, left', rfl, rfl, hlength, hleft⟩
  · have hk := hcarries.ne_cons₂ (by decide) (by decide) hs
    exact .inl ⟨endName?_eq_none _ hs, endName?_eq_none _ hk⟩

/-- A caret at the start, and what comes after it. -/
def caret : List Char → Bool × List Char
  | '^' :: rest => (true, rest)
  | rest => (false, rest)

lemma caret_carries (h : Carries q t s k) : (caret k).1 = (caret s).1 ∧
    Carries q t (caret s).2 (caret k).2 ∧ (caret s).2.length ≤ s.length := by
  rcases cons_or '^' s with ⟨rest, rfl⟩ | hs
  · obtain ⟨k', rfl, hk⟩ := h.of_cons
    exact ⟨rfl, hk, Nat.le_succ _⟩
  · have hk := h.ne_cons (by decide) hs
    unfold caret
    simp only
    exact ⟨trivial, h, Nat.le_refl _⟩

lemma readNamed?_eq_none (h : ∀ rest, s ≠ ':' :: rest) : readNamed? s = none := by
  unfold readNamed?
  split
  · exact absurd rfl (h _)
  · rfl

lemma readNamed?_colon (s : List Char) :
    readNamed? (':' :: s) = endName? (caret s).1 (caret s).2 := rfl

/-- A named class is seen as before, or there is none as before. -/
lemma readNamed?_carries (ht : Quiet t) (h : Carries q t s k) :
    (readNamed? s = none ∧ readNamed? k = none) ∨
      ∃ negated set left left', readNamed? s = some (negated, set, left) ∧
        readNamed? k = some (negated, set, left') ∧ left.length ≤ s.length ∧
          Carries q t left left' := by
  rcases cons_or ':' s with ⟨rest, rfl⟩ | hs
  · obtain ⟨k', rfl, hk⟩ := h.of_cons
    obtain ⟨hnegated, hcarries, hle⟩ := caret_carries hk
    rw [readNamed?_colon, readNamed?_colon, hnegated]
    obtain hnone | ⟨set, left, left', hs, hk, hlength, hleft⟩ := endName?_carries ht _ hcarries
    · exact .inl hnone
    · exact .inr ⟨_, set, left, left', hs, hk, by rw [List.length_cons]; omega, hleft⟩
  · have hk := h.ne_cons (by decide) hs
    exact .inl ⟨readNamed?_eq_none hs, readNamed?_eq_none hk⟩

lemma readMember_follows (ht : Quiet t) (h : Carries q t s k) :
    Follows (Ends q t s.length) (readMember f s) (readMember f k) := by
  cases s with
  | nil => exact .error
  | cons c rest =>
    obtain ⟨k', rfl, hk⟩ := h.of_cons
    by_cases hc : c = '\\'
    · subst hc
      exact (readEscape_follows ht hk).longer (Nat.le_succ _)
    · rw [readMember, readMember]
      · exact .ok ⟨Nat.le_succ _, hk⟩
      · exact hc
      · exact hc

lemma readRange_follows (ht : Quiet t) (h : Carries q t s k) :
    Follows (Ends q t s.length) (readRange f s) (readRange f k) := by
  refine Follows.bind (readMember_follows ht h) ?_
  rintro _ _ @⟨first, rest, k, hn, hrest⟩
  simp only
  cases hs : f.skip rest with
  | nil => exact .error
  | cons c after =>
    obtain ⟨hlength, k', hk, hsame, hafter⟩ := skip_cons ht hrest hs
    rw [hk]
    by_cases hc : c = '-'
    · subst hc
      simp only [peek?_carries hafter (show isWhite ']' = false by decide) (by decide) (by decide),
        peek?_carries hafter (show isWhite '-' = false by decide) (by decide) (by decide)]
      split
      · exact Follows.bind_same fun _ => .ok ⟨Nat.le_trans hlength hn, hsame⟩
      · cases hs' : f.skip after with
        | nil => exact .error
        | cons c next =>
          obtain ⟨hlength', l, hl, hnext, -⟩ := skip_cons ht hafter hs'
          rw [hl]
          refine Follows.bind (readMember_follows ht hnext) ?_
          rintro _ _ @⟨second, left, left', hn', hleft⟩
          refine Follows.bind_same fun lo => Follows.bind_same fun hi => ?_
          rw [List.length_cons] at hn'
          have hle : left.length ≤ s.length := by omega
          split
          · exact .ok ⟨hle, hleft⟩
          · exact .error
    · have hne (l l' : List Char) : c :: l ≠ '-' :: l' := fun h => hc (List.cons.inj h).1
      have hne₁ := hne after
      have hne₂ := hne k'
      simp only
      exact Follows.bind_same fun _ => .ok ⟨Nat.le_trans hlength hn, hsame⟩

/-! ### Brackets -/

lemma readHyphens_none {members : Members} (h : ∀ rest, s ≠ '-' :: rest) (n : ℕ) :
    readHyphens f members n s = .ok (members, s) := by
  cases n with
  | zero => rfl
  | succ n =>
    unfold readHyphens
    simp only

lemma readHyphens_follows (ht : Quiet t) {members : Members} (hs : s.length ≤ n) (hm : n ≤ m)
    (h : Carries q t s k) :
    Follows (Ends q t s.length) (readHyphens f members n s) (readHyphens f members m k) := by
  induction n generalizing m members s k with
  | zero =>
    obtain rfl := List.eq_nil_of_length_eq_zero (Nat.le_zero.1 hs)
    have hnil : ∀ rest, [] ≠ '-' :: rest := fun _ => nofun
    rw [readHyphens_none hnil, readHyphens_none (h.ne_cons (by decide) hnil)]
    exact .ok ⟨Nat.le_refl _, h⟩
  | succ n ih =>
    rcases cons_or '-' s with ⟨rest, rfl⟩ | hne
    · obtain ⟨k', rfl, hk⟩ := h.of_cons
      obtain ⟨m, rfl⟩ := Nat.exists_eq_add_one_of_ne_zero (by omega : m ≠ 0)
      rw [readHyphens, readHyphens]
      cases hrest : f.skip rest with
      | nil => exact .error
      | cons c after =>
        obtain ⟨hlength, l, hl, hsame, -⟩ := skip_cons ht hk hrest
        rw [hl]
        simp only [List.length_cons] at hs hlength ⊢
        exact (ih (by rw [List.length_cons]; omega) (by omega) hsame).longer
          (by rw [List.length_cons]; omega)
    · rw [readHyphens_none hne, readHyphens_none (h.ne_cons (by decide) hne)]
      exact .ok ⟨Nat.le_refl _, h⟩

/-- The start of a class after its caret. -/
def openClass (f : Flags) (negated : Bool) (s : List Char) :
    Except SyntaxError (Bool × Members × List Char) := do
  if s.isEmpty then throw .classUnclosed
  let (m, s) ← readHyphens f {} s.length s
  match s with
  | ']' :: rest =>
    if m.count = 0 then
      match f.skip rest with
      | [] => throw .classUnclosed
      | rest => return (negated, m.push (.singleton ']') 0, rest)
    else return (negated, m, s)
  | s => return (negated, m, s)

lemma readOpening_caret (h : f.skip s = '^' :: rest) :
    readOpening f s = openClass f true (f.skip rest) := by
  rw [readOpening, h]
  rfl

lemma readOpening_plain (h : ∀ rest, f.skip s ≠ '^' :: rest) :
    readOpening f s = openClass f false (f.skip s) := by
  unfold readOpening
  simp only
  rfl

lemma openClass_follows (ht : Quiet t) {negated : Bool} (h : Carries q t s k) :
    Follows (Ends₂ q t s.length) (openClass f negated s) (openClass f negated k) := by
  cases s with
  | nil => exact .error
  | cons c s =>
    obtain ⟨k', rfl, hk⟩ := h.of_cons
    refine Follows.bind (readHyphens_follows ht (Nat.le_refl _) h.length_le h) ?_
    rintro _ _ @⟨members, rest, l, hn, hrest⟩
    simp only
    rcases cons_or ']' rest with ⟨left, rfl⟩ | hne
    · obtain ⟨l, rfl, hl⟩ := hrest.of_cons
      simp only
      split
      · cases hleft : f.skip left with
        | nil => exact .error
        | cons d after =>
          obtain ⟨hlength, l', hl', hsame, -⟩ := skip_cons ht hl hleft
          rw [List.length_cons] at hn
          rw [hl']
          exact .ok ⟨Nat.le_trans (Nat.le_succ_of_le hlength) hn, hsame⟩
      · exact .ok ⟨hn, hrest⟩
    · have hl := hrest.ne_cons (by decide) hne
      simp only
      exact .ok ⟨hn, hrest⟩

lemma readOpening_follows (ht : Quiet t) (h : Carries q t s k) :
    Follows (Ends₂ q t s.length) (readOpening f s) (readOpening f k) := by
  have hskip := skip_carries ht f h
  have hlength := length_skip_le f s
  rcases cons_or '^' (f.skip s) with ⟨rest, hs⟩ | hs
  · obtain ⟨hle, k', hk, -, hrest⟩ := skip_cons ht h hs
    have hle' := length_skip_le f rest
    rw [readOpening_caret hs, readOpening_caret hk]
    exact (openClass_follows ht (skip_carries ht f hrest)).longer₂ (by omega)
  · rw [readOpening_plain hs, readOpening_plain (hskip.ne_cons (by decide) hs)]
    exact (openClass_follows ht hskip).longer₂ hlength

lemma readMembers_follows (ht : Quiet t) {level : Level} {levels : List Level} {members : Members}
    (hm : n ≤ m) (h : Carries q t s k) :
    Follows (Ends₂ q t s.length) (readMembers f level levels members n s)
      (readMembers f level levels members m k) := by
  induction n generalizing m level levels members s k with
  | zero => exact .error
  | succ n ih =>
    obtain ⟨m, rfl⟩ := Nat.exists_eq_add_one_of_ne_zero (by omega : m ≠ 0)
    have hskip := skip_carries ht f h
    have hlength := length_skip_le f s
    have hoperator {c : Char} (op : SetOp) (hc : c ≠ ')') {rest : List Char}
        (hs : f.skip s = c :: c :: rest) : ∃ k', f.skip k = c :: c :: k' ∧
          ∀ lhs height, Follows (Ends₂ q t s.length)
            (readMembers f { level with pending := some ⟨op, lhs, height⟩ } levels {} n rest)
            (readMembers f { level with pending := some ⟨op, lhs, height⟩ } levels {} m k') := by
      obtain ⟨hle, k', hk, -, hrest⟩ := skip_cons ht h hs
      obtain ⟨l, rfl, hl⟩ := hrest.of_cons
      rw [List.length_cons] at hle
      exact ⟨l, hk, fun _ _ => (ih (by omega) hl).longer₂ (by omega)⟩
    rcases cons_or₂ '&' '&' (f.skip s) with ⟨rest, hs⟩ | hinter
    · obtain ⟨k', hk, hfollows⟩ := hoperator .inter (by decide) hs
      rw [readMembers, readMembers, hs, hk]
      exact hfollows _ _
    rcases cons_or₂ '-' '-' (f.skip s) with ⟨rest, hs⟩ | hdiff
    · obtain ⟨k', hk, hfollows⟩ := hoperator .diff (by decide) hs
      rw [readMembers, readMembers, hs, hk]
      exact hfollows _ _
    rcases cons_or₂ '~' '~' (f.skip s) with ⟨rest, hs⟩ | hsymm
    · obtain ⟨k', hk, hfollows⟩ := hoperator .symmDiff (by decide) hs
      rw [readMembers, readMembers, hs, hk]
      exact hfollows _ _
    rcases cons_or '[' (f.skip s) with ⟨rest, hs⟩ | hopen
    · obtain ⟨hle, k', hk, -, hrest⟩ := skip_cons ht h hs
      rw [readMembers, readMembers, hs, hk]
      simp only
      obtain ⟨hs, hk⟩ | ⟨negated, set, left, left', hs, hk, hlength, hleft⟩ :=
        readNamed?_carries ht hrest
      · rw [hs, hk]
        refine Follows.bind (readOpening_follows ht hrest) ?_
        rintro _ _ @⟨negated, inner, left, left', hn, hleft⟩
        exact (ih (by omega) hleft).longer₂ (by omega)
      · rw [hs, hk]
        exact Follows.bind_same fun _ => (ih (by omega) hleft).longer₂ (by omega)
    rcases cons_or ']' (f.skip s) with ⟨rest, hs⟩ | hclose
    · obtain ⟨hle, k', hk, -, hrest⟩ := skip_cons ht h hs
      rw [readMembers, readMembers, hs, hk]
      refine Follows.bind_same fun set => ?_
      cases levels with
      | nil => exact .ok ⟨by omega, hrest⟩
      | cons parent levels => exact (ih (by omega) hrest).longer₂ (by omega)
    cases hs : f.skip s with
    | nil =>
      rw [readMembers, hs]
      exact .error
    | cons c rest =>
      obtain ⟨-, k', hk, -, -⟩ := skip_cons ht h hs
      have hs' : f.skip s ≠ [] := by simp [hs]
      have hk' : f.skip k ≠ [] := by simp [hk]
      have hopen' := hskip.ne_cons (by decide) hopen
      have hclose' := hskip.ne_cons (by decide) hclose
      have hinter' := hskip.ne_cons₂ (by decide) (by decide) hinter
      have hdiff' := hskip.ne_cons₂ (by decide) (by decide) hdiff
      have hsymm' := hskip.ne_cons₂ (by decide) (by decide) hsymm
      unfold readMembers
      simp only
      refine Follows.bind (readRange_follows ht hskip) ?_
      rintro _ _ @⟨set, left, left', hn, hleft⟩
      exact (ih (by omega) hleft).longer₂ (by omega)

lemma readBracketed_follows (ht : Quiet t) (h : Carries q t s k) :
    Follows (Ends₂ q t s.length) (readBracketed f s) (readBracketed f k) := by
  refine Follows.bind (readOpening_follows ht h) ?_
  rintro _ _ @⟨negated, members, rest, k', hn, hrest⟩
  exact (readMembers_follows ht (Nat.succ_le_succ h.length_le) hrest).longer₂ hn

end AttributeRelease.Proofs.Classes
