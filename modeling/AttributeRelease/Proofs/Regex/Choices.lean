import AttributeRelease.Proofs.Regex.Matching
import Mathlib.Data.List.SplitBy

/-!
A choice matches what its alternatives match.

Alternatives are not kept as they are read: sets of characters come to one set, and what all of
them begin with stands before the choice. Neither changes from where to where they match or which
groups they record.
-/

namespace AttributeRelease.Proofs.Choices

open Regex Node Matching

/-- Expressions match one after the other. -/
inductive MatchesAll (text : Array Char) : List Node → ℕ → ℕ → Saves → Prop
  | nil {i} : MatchesAll text [] i i []
  | cons {a l i j k d e} (ha : Matches text a i j d) (hl : MatchesAll text l j k e) :
      MatchesAll text (a :: l) i k (e ++ d)

variable {text : Array Char} {i j : ℕ} {d : Saves}

lemma mem_coalesce {n : ℕ} {r : ℕ × ℕ} {l : List (ℕ × ℕ)}
    (h : (r :: l).Pairwise fun a b => a.1 ≤ b.1) :
    (∃ s ∈ CharSet.coalesce r l, s.1 ≤ n ∧ n ≤ s.2) ↔ ∃ s ∈ r :: l, s.1 ≤ n ∧ n ≤ s.2 := by
  induction l generalizing r with
  | nil => rfl
  | cons s l ih =>
    obtain ⟨hr, hs, hl⟩ : (∀ t ∈ s :: l, r.1 ≤ t.1) ∧ (∀ t ∈ l, s.1 ≤ t.1) ∧
        l.Pairwise fun a b => a.1 ≤ b.1 := by simpa using h
    have hrs := hr s List.mem_cons_self
    rw [CharSet.coalesce]
    split
    · have hmerged : ((r.1, max r.2 s.2) :: l).Pairwise fun a b => a.1 ≤ b.1 :=
        List.pairwise_cons.2 ⟨fun t ht => hr t (List.mem_cons_of_mem _ ht), hl⟩
      rw [ih hmerged]
      simp only [List.mem_cons, exists_eq_or_imp]
      rw [← or_assoc]
      refine or_congr ?_ Iff.rfl
      omega
    · simp only [List.mem_cons, exists_eq_or_imp] at ih ⊢
      rw [ih (List.pairwise_cons.2 ⟨hs, hl⟩)]

lemma mem_ofRanges {n : ℕ} {l : List (ℕ × ℕ)} :
    (CharSet.ofRanges l).mem n = true ↔ ∃ r ∈ l, r.1 ≤ n ∧ n ≤ r.2 := by
  have hsorted : (l.mergeSort fun a b => a.1 ≤ b.1).Pairwise fun a b => a.1 ≤ b.1 := by
    have htrans (a b c : ℕ × ℕ) (hab : decide (a.1 ≤ b.1)) (hbc : decide (b.1 ≤ c.1)) :
        decide (a.1 ≤ c.1) := by grind
    have htotal (a b : ℕ × ℕ) : decide (a.1 ≤ b.1) || decide (b.1 ≤ a.1) := by grind
    simpa using List.pairwise_mergeSort htrans htotal l
  have hmem (r : ℕ × ℕ) : r ∈ (l.mergeSort fun a b => a.1 ≤ b.1) ↔ r ∈ l := List.mem_mergeSort
  simp only [← hmem]
  rw [CharSet.ofRanges]
  split
  · next h => simp [h, CharSet.mem, CharSet.empty]
  · next r rest h =>
    rw [h] at hsorted ⊢
    simpa [CharSet.mem] using mem_coalesce hsorted

lemma contains_unions {l : List CharSet} {c : Char} :
    (CharSet.unions l).contains c = true ↔ ∃ s ∈ l, s.contains c = true := by
  simp only [CharSet.contains, CharSet.unions, mem_ofRanges, List.mem_flatMap]
  simp only [CharSet.mem, List.any_eq_true, Bool.and_eq_true, decide_eq_true_eq]
  grind

lemma matches_set_iff {s : CharSet} : Matches text (.set s) i j d ↔
    ∃ c, text[i]? = some c ∧ s.contains c = true ∧ j = i + 1 ∧ d = [] := by
  constructor
  · rintro (_ | ⟨hc, hs⟩)
    exact ⟨_, hc, hs, rfl, rfl⟩
  · rintro ⟨c, hc, hs, rfl, rfl⟩
    exact .set hc hs

lemma matches_alt_iff {a b : Node} :
    Matches text (.alt a b) i j d ↔ Matches text a i j d ∨ Matches text b i j d := by
  constructor
  · rintro (_ | _ | _ | _ | h | h)
    · exact .inl h
    · exact .inr h
  · rintro (h | h)
    · exact .left h
    · exact .right h

lemma matches_branches {a : Node} :
    (∃ b ∈ a.branches, Matches text b i j d) ↔ Matches text a i j d := by
  induction a with
  | alt a b iha ihb =>
    rw [matches_alt_iff, ← iha, ← ihb, branches]
    simp only [List.mem_append, or_and_right, exists_or]
  | empty | set | look | seq | «repeat» | capture => simp [branches]

lemma matches_flatMap_branches {l : List Node} :
    (∃ b ∈ l.flatMap branches, Matches text b i j d) ↔ ∃ a ∈ l, Matches text a i j d := by
  constructor
  · rintro ⟨b, hb, h⟩
    obtain ⟨a, ha, hba⟩ := List.mem_flatMap.1 hb
    exact ⟨a, ha, matches_branches.1 ⟨b, hba, h⟩⟩
  · rintro ⟨a, ha, h⟩
    obtain ⟨b, hb, h⟩ := matches_branches.2 h
    exact ⟨b, List.mem_flatMap.2 ⟨a, ha, hb⟩, h⟩

lemma matches_ofBranches {l : List Node} :
    Matches text (ofBranches l) i j d ↔ ∃ a ∈ l, Matches text a i j d := by
  fun_induction ofBranches l with
  | case1 => simp [matches_set_iff, CharSet.contains, CharSet.mem, CharSet.empty]
  | case2 a => simp
  | case3 a rest _ ih => simp [matches_alt_iff, ih]

lemma exists_of_setOf? {l : List Node} {s : CharSet} (h : setOf? l = some s) :
    (∀ a ∈ l, ∃ t, a = .set t) ∧ s = .unions (l.filterMap set?) := by
  have hset {a : Node} {p : CharSet → Bool} (ha : a.set?.any p = true) : ∃ t, a = .set t := by
    cases a with
    | set t => exact ⟨t, rfl⟩
    | empty | look | seq | alt | «repeat» | capture => cases ha
  unfold setOf? at h
  split at h
  · next hall =>
    refine ⟨fun a ha => ?_, (Option.some.inj h).symm⟩
    rcases Bool.or_eq_true_iff.1 hall with hall | hall
    · exact hset (List.all_eq_true.1 hall a ha)
    · exact hset (List.all_eq_true.1 hall a ha)
  · cases h

lemma matches_setOf? {l : List Node} {s : CharSet} (h : setOf? l = some s) :
    Matches text (.set s) i j d ↔ ∃ a ∈ l, Matches text a i j d := by
  obtain ⟨hset, rfl⟩ := exists_of_setOf? h
  simp only [matches_set_iff, contains_unions, List.mem_filterMap]
  constructor
  · rintro ⟨c, hc, ⟨s, ⟨a, ha, has⟩, hs⟩, rfl, rfl⟩
    obtain ⟨t, rfl⟩ := hset a ha
    obtain rfl := Option.some.inj has
    exact ⟨_, ha, .set hc hs⟩
  · rintro ⟨a, ha, hmatch⟩
    obtain ⟨t, rfl⟩ := hset a ha
    obtain ⟨c, hc, hs, rfl, rfl⟩ := matches_set_iff.1 hmatch
    exact ⟨c, hc, ⟨t, ⟨_, ha, rfl⟩, hs⟩, rfl, rfl⟩

lemma matches_merge {l : List Node} :
    Matches text (merge l) i j d ↔ ∃ a ∈ l, Matches text a i j d := by
  rw [← matches_flatMap_branches, merge]
  split
  · next hset => exact matches_setOf? hset
  · exact matches_ofBranches

lemma matchesAll_append {l m : List Node} : MatchesAll text (l ++ m) i j d ↔
    ∃ k e f, MatchesAll text l i k e ∧ MatchesAll text m k j f ∧ d = f ++ e := by
  induction l generalizing i d with
  | nil =>
    constructor
    · exact fun h => ⟨i, [], d, .nil, h, (List.append_nil d).symm⟩
    · rintro ⟨k, e, f, h, hm, rfl⟩
      cases h
      simpa using hm
  | cons a l ih =>
    constructor
    · rintro (_ | ⟨ha, hrest⟩)
      obtain ⟨k, e, f, hl, hm, rfl⟩ := ih.1 hrest
      exact ⟨k, _, f, .cons ha hl, hm, List.append_assoc ..⟩
    · rintro ⟨k, e, f, _ | ⟨ha, hl⟩, hm, rfl⟩
      rw [← List.append_assoc]
      exact .cons ha (ih.2 ⟨k, _, f, hl, hm, rfl⟩)

lemma matchesAll_singleton {a : Node} : MatchesAll text [a] i j d ↔ Matches text a i j d := by
  constructor
  · rintro (_ | ⟨ha, _ | _⟩)
    exact ha
  · exact fun h => .cons h .nil

lemma matches_seq_iff {a b : Node} : Matches text (.seq a b) i j d ↔
    ∃ k e f, Matches text a i k e ∧ Matches text b k j f ∧ d = f ++ e := by
  constructor
  · rintro (_ | _ | _ | ⟨ha, hb⟩)
    exact ⟨_, _, _, ha, hb, rfl⟩
  · rintro ⟨k, e, f, ha, hb, rfl⟩
    exact .seq ha hb

lemma matches_parts {a : Node} : MatchesAll text a.parts i j d ↔ Matches text a i j d := by
  induction a generalizing i j d with
  | empty =>
    constructor
    · rintro ⟨⟩
      exact .empty
    · rintro ⟨⟩
      exact .nil
  | seq a b iha ihb => simp only [parts, matchesAll_append, iha, ihb, matches_seq_iff]
  | set | look | alt | «repeat» | capture => exact matchesAll_singleton

lemma matches_ofList {l : List Node} : Matches text (ofList l) i j d ↔ MatchesAll text l i j d := by
  fun_induction ofList l generalizing i j d with
  | case1 => exact matches_parts.symm
  | case2 a => exact matchesAll_singleton.symm
  | case3 a rest _ ih =>
    rw [matches_seq_iff, ← List.singleton_append, matchesAll_append]
    simp only [ih, matchesAll_singleton]

/-! ### What branches begin with -/

lemma commonStart_prefix {α : Type} [DecidableEq α] (l m : List α) :
    commonStart l m <+: l ∧ commonStart l m <+: m := by
  fun_induction commonStart l m with
  | case1 a l m ih => exact ⟨by simpa using ih.1, by simpa using ih.2⟩
  | case2 | case3 => exact ⟨List.nil_prefix, List.nil_prefix⟩

lemma foldl_commonStart_prefix (l : List Node) (start : List (List Node)) :
    l.foldl (fun shared b => commonStart shared b.runs) start <+: start ∧
      ∀ a ∈ l, l.foldl (fun shared b => commonStart shared b.runs) start <+: a.runs := by
  induction l generalizing start with
  | nil => exact ⟨List.prefix_rfl, nofun⟩
  | cons b l ih =>
    obtain ⟨hstart, hl⟩ := ih (commonStart start b.runs)
    obtain ⟨hleft, hright⟩ := commonStart_prefix start b.runs
    refine ⟨hstart.trans hleft, fun a ha => ?_⟩
    rcases List.mem_cons.1 ha with rfl | ha
    · exact hstart.trans hright
    · exact hl a ha

lemma sharedRuns_prefix {l : List Node} {a : Node} (ha : a ∈ l) : sharedRuns l <+: a.runs := by
  cases l with
  | nil => cases ha
  | cons b l =>
    rw [sharedRuns]
    split
    · obtain ⟨hstart, hl⟩ := foldl_commonStart_prefix l b.runs
      rcases List.mem_cons.1 ha with rfl | ha
      · exact hstart
      · exact hl a ha
    · exact List.nil_prefix

/-- What is left of a branch behind a beginning. -/
lemma matches_behind {a : Node} {shared : List (List Node)} (h : shared <+: a.runs) :
    Matches text a i j d ↔ ∃ k e f, MatchesAll text shared.flatten i k e ∧
      Matches text (ofList (a.runs.drop shared.length).flatten) k j f ∧ d = f ++ e := by
  obtain ⟨rest, hrest⟩ := h
  have hparts : a.parts = shared.flatten ++ rest.flatten := by
    rw [← List.flatten_append, hrest, runs, List.flatten_splitBy]
  rw [← hrest, List.drop_left, ← matches_parts, hparts, matchesAll_append]
  simp only [matches_ofList]

/-- **A choice matches what its alternatives match.** -/
theorem matches_choice {l : List Node} :
    Matches text (choice l) i j d ↔ ∃ a ∈ l, Matches text a i j d := by
  rw [← matches_flatMap_branches, choice]
  generalize l.flatMap branches = l
  split
  · exact matches_merge
  · rw [matches_ofList, matchesAll_append]
    simp only [matchesAll_singleton, matches_merge, List.mem_map]
    constructor
    · rintro ⟨k, e, f, hshared, ⟨_, ⟨a, ha, rfl⟩, hrest⟩, rfl⟩
      have hstart := sharedRuns_prefix ha
      exact ⟨a, ha, (matches_behind hstart).2 ⟨k, e, f, hshared, hrest, rfl⟩⟩
    · rintro ⟨a, ha, h⟩
      have hstart := sharedRuns_prefix ha
      obtain ⟨k, e, f, hshared, hrest, rfl⟩ := (matches_behind hstart).1 h
      exact ⟨k, e, f, hshared, ⟨_, ⟨a, ha, rfl⟩, hrest⟩, rfl⟩

end AttributeRelease.Proofs.Choices
