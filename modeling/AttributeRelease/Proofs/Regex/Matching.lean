import AttributeRelease.Regex
import Mathlib.Tactic.Common
import Mathlib.Data.List.Basic

/-!
What it means that an expression matches a text from one place to another, and that the search
finds nothing else.

A match is a tree over the expression. A block of code is read as a relation between the place where
a thread comes in and the place where it leaves: every run that reaches acceptance goes through the
end of the block, and what it has recorded until then is a match of the expression.
-/

namespace AttributeRelease.Proofs.Matching

open Regex Node

variable {text : Array Char} {code : List Inst}

/-- What a test says of a place of a text. -/
def LooksAt (text : Array Char) (l : Look) (place : ℕ) : Prop :=
  l.holds (if place = 0 then none else text[place - 1]?) text[place]?

instance (l : Look) (place : ℕ) : Decidable (LooksAt text l place) :=
  inferInstanceAs (Decidable (_ = true))

lemma next_look (l : Look) (t : Thread) : (Inst.look l).next text t =
    if LooksAt text l t.place then [{ t with pc := t.pc + 1 }] else [] := rfl

/-- An expression matches from one place to another and records groups on the way, the last record
first. A round of a repetition is taken while it is needed or allowed. -/
inductive Matches (text : Array Char) : Node → ℕ → ℕ → Saves → Prop
  | empty {i} : Matches text .empty i i []
  | set {s c i} (hc : text[i]? = some c) (hs : s.contains c) : Matches text (.set s) i (i + 1) []
  | look {l i} (h : LooksAt text l i) : Matches text (.look l) i i []
  | seq {a b i j k d e} (ha : Matches text a i j d) (hb : Matches text b j k e) :
      Matches text (.seq a b) i k (e ++ d)
  | left {a b i j d} (ha : Matches text a i j d) : Matches text (.alt a b) i j d
  | right {a b i j d} (hb : Matches text b i j d) : Matches text (.alt a b) i j d
  | stop {greedy max a i} : Matches text (.repeat greedy 0 max a) i i []
  | more {greedy min max a i j k d e} (hround : 0 < min ∨ max ≠ some 0) (ha : Matches text a i j d)
      (hrest : Matches text (.repeat greedy (min - 1) (max.map (· - 1)) a) j k e) :
      Matches text (.repeat greedy min max a) i k (e ++ d)
  | capture {index a i j d} (ha : Matches text a i j d) :
      Matches text (.capture index a) i j ((2 * index + 1, j) :: (d ++ [(2 * index, i)]))

/-- A match that starts in the text ends in the text. -/
lemma Matches.le_size {a : Node} {i j : ℕ} {d : Saves} (h : Matches text a i j d)
    (hi : i ≤ text.size) : j ≤ text.size := by
  induction h with
  | empty | look | stop => exact hi
  | @set s c i hc _ =>
    obtain ⟨hlt, -⟩ := Array.getElem?_eq_some_iff.1 hc
    exact hlt
  | seq _ _ iha ihb => exact ihb (iha hi)
  | left _ ih | right _ ih | capture _ ih => exact ih hi
  | more _ _ _ iha ihrest => exact ihrest (iha hi)

/-- A thread reaches acceptance in a number of steps, at a place and with all that it has recorded
by then. -/
inductive Accepts (code : List Inst) (text : Array Char) : ℕ → Thread → ℕ → Saves → Prop
  | done {t} (h : code[t.pc]? = some .accept) : Accepts code text 0 t t.place t.saves
  | step {n t t' i stop saves} (hi : code[t.pc]? = some i) (ht : t' ∈ i.next text t)
      (h : Accepts code text n t' stop saves) : Accepts code text (n + 1) t stop saves

lemma Accepts.next {n : ℕ} {t : Thread} {i : Inst} {stop : ℕ} {saves : Saves}
    (h : Accepts code text n t stop saves) (hi : code[t.pc]? = some i) (hne : i ≠ .accept) :
    ∃ m < n, ∃ t' ∈ i.next text t, Accepts code text m t' stop saves := by
  cases h with
  | done haccept => exact absurd (Option.some.inj (hi.symm.trans haccept)) hne
  | step hi' ht h =>
    obtain rfl := Option.some.inj (hi.symm.trans hi')
    exact ⟨_, Nat.lt_succ_self _, _, ht, h⟩

/-- What a search gives was recorded by one of the threads that it started from. -/
lemma follow_sound {groups fuel : ℕ} {tried : Array Bool} {ts : List Thread} {saves : Saves}
    (h : (Program.follow ⟨code.toArray, groups⟩ text fuel tried ts).2 = some saves) :
    ∃ t ∈ ts, ∃ n stop, Accepts code text n t stop saves := by
  induction fuel generalizing tried ts with
  | zero => cases h
  | succ fuel ih =>
    cases ts with
    | nil => cases h
    | cons t rest =>
      rw [Program.follow] at h
      split at h
      · obtain ⟨t', ht', hrun⟩ := ih h
        exact ⟨t', List.mem_cons_of_mem _ ht', hrun⟩
      · rw [List.getElem?_toArray] at h
        split at h
        · obtain ⟨t', ht', hrun⟩ := ih h
          exact ⟨t', List.mem_cons_of_mem _ ht', hrun⟩
        · next haccept =>
          obtain rfl := Option.some.inj h
          exact ⟨t, List.mem_cons_self, 0, t.place, .done haccept⟩
        · next i _ hi =>
          obtain ⟨t', ht', n, stop, hrun⟩ := ih h
          rcases List.mem_append.1 ht' with hnext | hrest
          · exact ⟨t, List.mem_cons_self, n + 1, stop, .step hi hnext hrun⟩
          · exact ⟨t', List.mem_cons_of_mem _ hrest, n, stop, hrun⟩

lemma searchFrom_sound {groups n place : ℕ} {tried : Array Bool} {saves : Saves}
    (h : Program.searchFrom ⟨code.toArray, groups⟩ text n tried place = some saves) :
    ∃ start < place + n, ∃ m stop, Accepts code text m ⟨0, start, []⟩ stop saves := by
  induction n generalizing tried place with
  | zero => cases h
  | succ n ih =>
    rw [Program.searchFrom] at h
    split at h
    · next tried' saves' hfollow =>
      obtain rfl := Option.some.inj h
      obtain ⟨t, ht, hrun⟩ := follow_sound (congrArg Prod.snd hfollow)
      obtain rfl := List.mem_singleton.1 ht
      exact ⟨place, by omega, hrun⟩
    · obtain ⟨start, hstart, hrun⟩ := ih h
      exact ⟨start, by omega, hrun⟩

/-! ### Blocks of code -/

/-- The code has a block at an address. -/
def Placed (code : List Inst) (address : ℕ) (block : List Inst) : Prop :=
  block <+: code.drop address

lemma placed_append {i : ℕ} {block rest : List Inst} (h : Placed code i (block ++ rest)) :
    Placed code i block ∧ Placed code (i + block.length) rest := by
  obtain ⟨after, hafter⟩ := h
  refine ⟨⟨rest ++ after, by rw [← hafter, List.append_assoc]⟩, after, ?_⟩
  rw [← List.drop_drop, ← hafter, List.append_assoc, List.drop_left]

lemma placed_cons {i : ℕ} {inst : Inst} {rest : List Inst} (h : Placed code i (inst :: rest)) :
    code[i]? = some inst ∧ Placed code (i + 1) rest := by
  have happend : Placed code i ([inst] ++ rest) := h
  obtain ⟨⟨after, hafter⟩, hrest⟩ := placed_append happend
  refine ⟨?_, hrest⟩
  rw [← List.head?_drop, ← hafter]
  rfl

lemma length_copies {length : ℕ} {block : ℕ → List Inst} (h : ∀ i, (block i).length = length)
    (n i : ℕ) : (copies length block n i).length = n * length := by
  induction n generalizing i with
  | zero => rw [Nat.zero_mul]; rfl
  | succ n ih => rw [copies, List.length_append, h, ih, Nat.succ_mul, Nat.add_comm]

lemma length_options {length exit : ℕ} {block : ℕ → List Inst} {greedy : Bool}
    (h : ∀ i, (block i).length = length) (n i : ℕ) :
    (options length block greedy exit n i).length = n * (length + 1) := by
  induction n generalizing i with
  | zero => rw [Nat.zero_mul]; rfl
  | succ n ih =>
    rw [options, List.length_append, List.length_cons, h, ih, Nat.succ_mul, Nat.add_comm]

lemma length_code (a : Node) (i : ℕ) : (a.code i).length = a.length := by
  induction a generalizing i with
  | empty | set _ | look _ => rfl
  | seq a b iha ihb => rw [Node.code, List.length_append, iha, ihb, Node.length]
  | alt a b iha ihb =>
    simp only [Node.code, Node.length, List.length_append, List.length_cons, iha, ihb]
    omega
  | capture index a ih =>
    simp only [Node.code, Node.length, List.length_append, List.length_cons, List.length_nil, ih]
  | «repeat» greedy min max a ih =>
    cases max with
    | none =>
      cases min with
      | zero =>
        simp only [Node.code, Node.length, List.length_append, List.length_cons,
          List.length_nil, ih]
      | succ n =>
        simp only [Node.code, Node.length, List.length_append, List.length_cons,
          List.length_nil, ih, length_copies ih, Nat.succ_mul]
    | some max =>
      simp only [Node.code, Node.length, List.length_append, length_copies ih, length_options ih]

/-- Every run from one address to acceptance goes through another one, and what it records on the
way there is of the given kind. -/
structure Leads (code : List Inst) (text : Array Char) (i k : ℕ) (kind : ℕ → ℕ → Saves → Prop) :
    Prop where
  through : ∀ {n place stop saves before}, Accepts code text n ⟨i, place, before⟩ stop saves →
    ∃ m ≤ n, ∃ j d, kind place j d ∧ Accepts code text m ⟨k, j, d ++ before⟩ stop saves

variable {kind kind' : ℕ → ℕ → Saves → Prop} {i j k : ℕ}

lemma Leads.refl : Leads code text i i fun p q d => p = q ∧ d = [] :=
  ⟨fun h => ⟨_, Nat.le_refl _, _, [], ⟨rfl, rfl⟩, h⟩⟩

lemma Leads.mono (h : Leads code text i k kind) (hkind : ∀ p q d, kind p q d → kind' p q d) :
    Leads code text i k kind' := by
  refine ⟨fun hrun => ?_⟩
  obtain ⟨m, hm, q, d, hd, hrun'⟩ := h.through hrun
  exact ⟨m, hm, q, d, hkind _ _ _ hd, hrun'⟩

lemma Leads.trans (h : Leads code text i j kind) (h' : Leads code text j k kind') :
    Leads code text i k fun p r d => ∃ q c e, kind p q c ∧ kind' q r e ∧ d = e ++ c := by
  refine ⟨fun hrun => ?_⟩
  obtain ⟨m, hm, q, c, hc, hrun⟩ := h.through hrun
  obtain ⟨l, hl, r, e, he, hrun⟩ := h'.through hrun
  refine ⟨l, Nat.le_trans hl hm, r, e ++ c, ⟨q, c, e, hc, he, rfl⟩, ?_⟩
  rw [List.append_assoc]
  exact hrun

/-- The next instruction of a run from an address. -/
lemma leads_of_next {inst : Inst} (hi : code[i]? = some inst) (hne : inst ≠ .accept)
    (h : ∀ place before t, t ∈ inst.next text ⟨i, place, before⟩ →
      ∃ q d, kind place q d ∧ t = ⟨k, q, d ++ before⟩) : Leads code text i k kind := by
  refine ⟨fun hrun => ?_⟩
  obtain ⟨m, hm, t, ht, hrun⟩ := hrun.next hi hne
  obtain ⟨q, d, hd, rfl⟩ := h _ _ t ht
  exact ⟨m, Nat.le_of_lt hm, q, d, hd, hrun⟩

lemma leads_jump (hi : code[i]? = some (.jump k)) :
    Leads code text i k fun p q d => p = q ∧ d = [] := by
  refine leads_of_next hi (by simp) fun place before t ht => ⟨place, [], ⟨rfl, rfl⟩, ?_⟩
  exact List.mem_singleton.1 ht

lemma leads_save {slot : ℕ} (hi : code[i]? = some (.save slot)) :
    Leads code text i (i + 1) fun p q d => p = q ∧ d = [(slot, p)] := by
  refine leads_of_next hi (by simp) fun place before t ht => ⟨place, _, ⟨rfl, rfl⟩, ?_⟩
  exact List.mem_singleton.1 ht

lemma leads_split {first second : ℕ} (hi : code[i]? = some (.split first second))
    (h : Leads code text first k kind) (h' : Leads code text second k kind) :
    Leads code text i k kind := by
  refine ⟨fun hrun => ?_⟩
  obtain ⟨m, hm, t, ht, hrun⟩ := hrun.next hi (by simp)
  rcases List.mem_cons.1 ht with rfl | ht
  · obtain ⟨l, hl, hd⟩ := h.through hrun
    exact ⟨l, by omega, hd⟩
  · obtain rfl := List.mem_singleton.1 ht
    obtain ⟨l, hl, hd⟩ := h'.through hrun
    exact ⟨l, by omega, hd⟩

variable {greedy : Bool} {body last exit : ℕ} {a : Node}

lemma Accepts.round {n place stop : ℕ} {before saves : Saves}
    (h : Accepts code text n ⟨i, place, before⟩ stop saves)
    (hi : code[i]? = some (.round greedy body exit)) :
    ∃ m < n, Accepts code text m ⟨body, place, before⟩ stop saves ∨
      Accepts code text m ⟨exit, place, before⟩ stop saves := by
  cases greedy with
  | false =>
    obtain ⟨m, hm, t, ht, hrun⟩ := h.next hi (by simp [Inst.round])
    rcases List.mem_cons.1 ht with rfl | ht
    · exact ⟨m, hm, .inr hrun⟩
    · obtain rfl := List.mem_singleton.1 ht
      exact ⟨m, hm, .inl hrun⟩
  | true =>
    obtain ⟨m, hm, t, ht, hrun⟩ := h.next hi (by simp [Inst.round])
    rcases List.mem_cons.1 ht with rfl | ht
    · exact ⟨m, hm, .inl hrun⟩
    · obtain rfl := List.mem_singleton.1 ht
      exact ⟨m, hm, .inr hrun⟩

/-- A number of rounds, one after the other. -/
def Rounds (text : Array Char) (a : Node) : ℕ → ℕ → ℕ → Saves → Prop
  | 0, i, j, d => i = j ∧ d = []
  | n + 1, i, k, d => ∃ j c e, Matches text a i j c ∧ Rounds text a n j k e ∧ d = e ++ c

/-- Rounds stand for as many rounds of a repetition that needs them. -/
lemma Rounds.before {n min : ℕ} {max : Option ℕ} {p q r : ℕ} {d e : Saves}
    (h : Rounds text a n p q d)
    (hrest : Matches text (.repeat greedy min (max.map (· - n)) a) q r e) :
    Matches text (.repeat greedy (min + n) max a) p r (e ++ d) := by
  induction n generalizing max p d with
  | zero =>
    obtain ⟨rfl, rfl⟩ := h
    have hmax : max.map (· - 0) = max := by cases max <;> rfl
    rw [hmax] at hrest
    rwa [List.append_nil]
  | succ n ih =>
    obtain ⟨j, c, e', ha, hrounds, rfl⟩ := h
    have hmax : max.map (· - (n + 1)) = (max.map (· - 1)).map (· - n) := by
      cases max with
      | none => rfl
      | some max =>
        have hsub : max - (n + 1) = max - 1 - n := by omega
        exact congrArg some hsub
    rw [hmax] at hrest
    rw [← List.append_assoc]
    exact .more (.inl (Nat.succ_pos _)) ha (ih hrounds hrest)

lemma leads_copies (ha : ∀ {i}, Placed code i (a.code i) →
      Leads code text i (i + a.length) (Matches text a)) {n : ℕ}
    (h : Placed code i (copies a.length a.code n i)) :
    Leads code text i (i + n * a.length) (Rounds text a n) := by
  induction n generalizing i with
  | zero =>
    rw [Nat.zero_mul]
    exact Leads.refl
  | succ n ih =>
    obtain ⟨hfirst, hrest⟩ := placed_append h
    rw [length_code] at hrest
    have hleads := (ha hfirst).trans (ih hrest)
    rw [Nat.succ_mul, Nat.add_comm (n * a.length), ← Nat.add_assoc]
    exact hleads

/-- A repetition without an upper bound: from each of its two choices a run either leaves or goes
through a round and comes to the second choice. -/
lemma leads_star (hbody : Leads code text body last (Matches text a))
    (hlast : code[last]? = some (.round greedy body exit))
    (hi : code[i]? = some (.round greedy body exit)) :
    Leads code text i exit (Matches text (.repeat greedy 0 none a)) := by
  -- every round takes at least the step of its choice
  refine ⟨fun {n} => ?_⟩
  induction n using Nat.strongRecOn generalizing i with
  | _ n ih =>
    intro place stop saves before hrun
    obtain ⟨m, hm, hrun | hrun⟩ := hrun.round hi
    · obtain ⟨l, hl, q, d, hd, hrun⟩ := hbody.through hrun
      obtain ⟨l', hl', r, e, he, hrun⟩ := ih l (Nat.lt_of_le_of_lt hl hm) hlast hrun
      refine ⟨l', by omega, r, e ++ d, .more (.inr (by simp)) hd he, ?_⟩
      rw [List.append_assoc]
      exact hrun
    · exact ⟨m, Nat.le_of_lt hm, place, [], .stop, hrun⟩

/-- Optional rounds, each inside of the one before it. -/
lemma leads_options (ha : ∀ {i}, Placed code i (a.code i) →
      Leads code text i (i + a.length) (Matches text a)) {n : ℕ}
    (h : Placed code i (options a.length a.code greedy exit n i))
    (hexit : exit = i + n * (a.length + 1)) :
    Leads code text i exit (Matches text (.repeat greedy 0 (some n) a)) := by
  induction n generalizing i with
  | zero =>
    rw [Nat.zero_mul, Nat.add_zero] at hexit
    subst hexit
    refine Leads.refl.mono ?_
    rintro p q d ⟨rfl, rfl⟩
    exact .stop
  | succ n ih =>
    obtain ⟨hround, hrest⟩ := placed_cons h
    obtain ⟨hfirst, hrest⟩ := placed_append hrest
    rw [length_code] at hrest
    have hleads := (ha hfirst).trans (ih hrest (by rw [hexit, Nat.succ_mul]; omega))
    refine ⟨fun hrun => ?_⟩
    obtain ⟨m, hm, hrun | hrun⟩ := hrun.round hround
    · obtain ⟨l, hl, q, d, ⟨p, c, e, hc, he, rfl⟩, hrun⟩ := hleads.through hrun
      exact ⟨l, by omega, q, e ++ c, .more (.inr (by simp)) hc he, hrun⟩
    · exact ⟨m, Nat.le_of_lt hm, _, [], .stop, hrun⟩

/-- The code of an expression lets through what matches. -/
theorem leads_code (a : Node) {i : ℕ} (h : Placed code i (a.code i)) :
    Leads code text i (i + a.length) (Matches text a) := by
  induction a generalizing i with
  | empty =>
    refine Leads.refl.mono ?_
    rintro p q d ⟨rfl, rfl⟩
    exact .empty
  | set s =>
    obtain ⟨hi, -⟩ := placed_cons h
    refine leads_of_next hi (by simp) fun place before t ht => ?_
    simp only [Inst.next] at ht
    split at ht
    · next c hc =>
      split at ht
      · next hs => exact ⟨place + 1, [], .set hc hs, List.mem_singleton.1 ht⟩
      · cases ht
    · cases ht
  | look l =>
    obtain ⟨hi, -⟩ := placed_cons h
    refine leads_of_next hi (by simp) fun place before t ht => ?_
    by_cases hlook : LooksAt text l place
    · rw [next_look, if_pos hlook] at ht
      exact ⟨place, [], .look hlook, List.mem_singleton.1 ht⟩
    · rw [next_look, if_neg hlook] at ht
      cases ht
  | seq a b iha ihb =>
    obtain ⟨ha, hb⟩ := placed_append h
    rw [length_code] at hb
    have hleads := (iha ha).trans (ihb hb)
    rw [Node.length, ← Nat.add_assoc]
    refine hleads.mono ?_
    rintro p r d ⟨q, c, e, hc, he, rfl⟩
    exact .seq hc he
  | alt a b iha ihb =>
    obtain ⟨hsplit, hrest⟩ := placed_cons h
    obtain ⟨ha, hrest⟩ := placed_append hrest
    rw [length_code] at hrest
    obtain ⟨hjump, hb⟩ := placed_cons hrest
    have hend : i + (a.alt b).length = i + 1 + a.length + 1 + b.length := by
      rw [Node.length]
      omega
    rw [hend]
    refine leads_split hsplit ?_ ((ihb hb).mono fun _ _ _ => .right)
    refine ((iha ha).trans (leads_jump hjump)).mono ?_
    rintro p r d ⟨q, c, e, hc, ⟨rfl, rfl⟩, rfl⟩
    exact .left hc
  | capture index a ih =>
    obtain ⟨hopen, hrest⟩ := placed_cons h
    obtain ⟨ha, hrest⟩ := placed_append hrest
    rw [length_code] at hrest
    obtain ⟨hclose, -⟩ := placed_cons hrest
    have hend : i + (Node.capture index a).length = i + 1 + a.length + 1 := by
      rw [Node.length]
      omega
    rw [hend]
    refine (((leads_save hopen).trans (ih ha)).trans (leads_save hclose)).mono ?_
    rintro p r d ⟨q, c, e, ⟨p', c', e', ⟨rfl, rfl⟩, he', rfl⟩, ⟨rfl, rfl⟩, rfl⟩
    exact .capture he'
  | «repeat» greedy min max a ih =>
    cases max with
    | none =>
      cases min with
      | zero =>
        obtain ⟨hround, hrest⟩ := placed_cons h
        obtain ⟨ha, hrest⟩ := placed_append hrest
        rw [length_code] at hrest
        obtain ⟨hlast, -⟩ := placed_cons hrest
        exact leads_star (ih ha) hlast hround
      | succ n =>
        obtain ⟨hrest, hlast⟩ := placed_append h
        obtain ⟨hcopies, ha⟩ := placed_append hrest
        rw [length_copies (length_code a)] at ha
        rw [List.length_append, length_copies (length_code a), length_code,
          ← Nat.add_assoc] at hlast
        obtain ⟨hlast, -⟩ := placed_cons hlast
        have hrepeat := (ih ha).trans (leads_star (ih ha) hlast hlast)
        have hrounds := (leads_copies ih hcopies).trans hrepeat
        have hend : i + (Node.repeat greedy (n + 1) none a).length =
            i + n * a.length + a.length + 1 := by
          rw [Node.length, Nat.succ_mul]
          omega
        rw [hend]
        refine hrounds.mono ?_
        rintro p r d ⟨q, c, e, hc, ⟨q', c', e', hc', he', rfl⟩, rfl⟩
        have hmatch : Matches text (.repeat greedy (1 + n) none a) p r (e' ++ c' ++ c) :=
          hc.before (.more (.inl Nat.one_pos) hc' he')
        rwa [Nat.add_comm] at hmatch
    | some max =>
      rw [Node.code] at h
      obtain ⟨hcopies, hoptions⟩ := placed_append h
      rw [length_copies (length_code a)] at hoptions
      have hrounds := (leads_copies ih hcopies).trans (leads_options ih hoptions rfl)
      rw [Node.length, ← Nat.add_assoc]
      refine hrounds.mono ?_
      rintro p r d ⟨q, c, e, hc, he, rfl⟩
      have hmatch : Matches text (.repeat greedy (0 + min) (some max) a) p r (e ++ c) :=
        hc.before he
      rwa [Nat.zero_add] at hmatch

/-- What a search finds is a match in the text, recorded as group zero with the groups in it. -/
theorem search_sound {a : Node} {saves : Saves} (h : a.program.search text = some saves) :
    ∃ i ≤ text.size, ∃ j d, Matches text a i j d ∧ saves = (1, j) :: (d ++ [(0, i)]) := by
  have hplaced : Placed ((Node.capture 0 a).code 0 ++ [.accept]) 0 ((Node.capture 0 a).code 0) :=
    List.prefix_append _ _
  have haccept : ((Node.capture 0 a).code 0 ++ [.accept])[0 + (Node.capture 0 a).length]? =
      some Inst.accept := by
    rw [Nat.zero_add, ← length_code _ 0, List.getElem?_concat_length]
  obtain ⟨i, hi, n, stop, hrun⟩ := searchFrom_sound h
  obtain ⟨m, -, j, e, he, hrun⟩ := (leads_code _ hplaced).through hrun
  cases hrun with
  | step hinst ht _ =>
    obtain rfl := Option.some.inj (haccept.symm.trans hinst)
    cases ht
  | done _ =>
    cases he with
    | capture hmatch => exact ⟨i, by omega, j, _, hmatch, by simp⟩

end AttributeRelease.Proofs.Matching
