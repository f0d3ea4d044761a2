import AttributeRelease.Graph
import Mathlib.Data.List.Chain
import Mathlib.Data.List.Nodup
import Mathlib.Data.List.Perm.Subperm
import Mathlib.Logic.Relation

/-!
The search for cycles finds one exactly if there is one.

What is done is layered: every node lies above all that it leads to, which gives each node a rank
that falls along every edge. The path is a chain of edges that repeats no node and shares none with
what is done, so it never gets longer than there are nodes, and an edge back to it closes a cycle.
-/

namespace AttributeRelease.Proofs.Cycles

open AttributeRelease.Graph Relation

variable (edges : String → List String)

def Leads (a b : String) : Prop := b ∈ edges a

/-- No way leads back to where it began. -/
def Acyclic : Prop := ∀ a, ¬ TransGen (Leads edges) a a

/-- A way along edges that meets its first node again at its end, and no node twice before. -/
structure IsCycle (l : List String) : Prop where
  long : 2 ≤ l.length
  closed : l.head? = l.getLast?
  simple : l.dropLast.Nodup
  leads : l.IsChain (Leads edges)

variable {edges}

lemma transGen_of_isChain {r : String → String → Prop} {l : List String} {a b : String}
    (h : (a :: l).IsChain r) (hl : l ≠ []) (hb : (a :: l).getLast? = some b) : TransGen r a b := by
  induction l generalizing a with
  | nil => exact absurd rfl hl
  | cons c rest ih =>
    obtain ⟨hac, hc⟩ := List.isChain_cons_cons.1 h
    rw [List.getLast?_cons_cons] at hb
    rcases rest with _ | ⟨d, rest⟩
    · have : c = b := by simpa using hb
      exact this ▸ .single hac
    · exact .head hac (ih hc (by simp) hb)

lemma IsCycle.not_acyclic {l : List String} (h : IsCycle edges l) : ¬ Acyclic edges := by
  intro hacyc
  obtain ⟨hlong, hclosed, -, hleads⟩ := h
  rcases l with _ | ⟨a, l⟩
  · simp at hlong
  · have hl : l ≠ [] := by rintro rfl; simp at hlong
    exact hacyc a (transGen_of_isChain hleads hl (by rw [← hclosed]; rfl))

/-- A rank that falls along every edge leaves no way back. -/
lemma acyclic_of_rank {rank : String → ℕ} (h : ∀ a b, b ∈ edges a → rank b < rank a) :
    Acyclic edges := by
  have hfall : ∀ a b, TransGen (Leads edges) a b → rank b < rank a := by
    intro a b hab
    induction hab with
    | single hab => exact h _ _ hab
    | tail _ hbc ih => exact (h _ _ hbc).trans ih
  exact fun a ha => (hfall a a ha).false

variable (edges) in
/-- Each node lies above all that it leads to, and is there once. -/
inductive Layered : List String → Prop
  | nil : Layered []
  | cons {n : String} {l : List String} (fresh : n ∉ l) (below : ∀ m ∈ edges n, m ∈ l)
      (rest : Layered l) : Layered (n :: l)

lemma Layered.nodup {l : List String} (h : Layered edges l) : l.Nodup := by
  induction h with
  | nil => exact .nil
  | cons fresh _ _ ih => exact List.nodup_cons.2 ⟨fresh, ih⟩

lemma Layered.closed {l : List String} (h : Layered edges l) {a b : String} (ha : a ∈ l)
    (hb : b ∈ edges a) : b ∈ l := by
  induction h with
  | nil => simp at ha
  | cons _ below _ ih =>
    rcases List.mem_cons.1 ha with rfl | ha
    · exact List.mem_cons_of_mem _ (below b hb)
    · exact List.mem_cons_of_mem _ (ih ha)

/-- How many nodes lie at and under a node. -/
def rank : List String → String → ℕ
  | [], _ => 0
  | n :: l, a => if a = n then l.length + 1 else rank l a

lemma rank_le (l : List String) (a : String) : rank l a ≤ l.length := by
  induction l with
  | nil => simp [rank]
  | cons n l ih =>
    rw [rank, List.length_cons]
    split <;> omega

lemma Layered.rank_lt {l : List String} (h : Layered edges l) {a b : String} (ha : a ∈ l)
    (hb : b ∈ edges a) : rank l b < rank l a := by
  induction h with
  | nil => simp at ha
  | @cons n l fresh below hl ih =>
    have hbl : b ∈ l := by
      rcases List.mem_cons.1 ha with rfl | ha
      · exact below b hb
      · exact hl.closed ha hb
    have hbn : b ≠ n := fun h => fresh (h ▸ hbl)
    rcases List.mem_cons.1 ha with rfl | ha
    · have := rank_le l b
      simp only [rank, if_neg hbn, if_true]
      omega
    · have han : a ≠ n := fun h => fresh (h ▸ ha)
      simp only [rank, if_neg hbn, if_neg han]
      exact ih ha

/-- A way of edges to a node, given nearest node first. -/
def IsTrail (edges : String → List String) (path : List String) : Prop :=
  path.IsChain fun a b => Leads edges b a

lemma closedBy_isCycle {path : List String} {node : String}
    (htrail : IsTrail edges (node :: path)) (hnodup : path.Nodup) (hmem : node ∈ path) :
    IsCycle edges (closedBy path node) := by
  obtain ⟨near, far, rfl, hnear⟩ := List.eq_append_cons_of_mem hmem
  have htake : (near ++ node :: far).takeWhile (· ≠ node) = near := by
    rw [List.takeWhile_append_of_pos (by
      intro m hm
      simpa using fun h : m = node => hnear (h ▸ hm))]
    simp
  unfold closedBy
  rw [htake]
  refine ⟨by simp, by rw [List.getLast?_concat]; rfl, ?_, ?_⟩
  · have hd : (node :: near.reverse ++ [node]).dropLast = node :: near.reverse := by
      rw [List.dropLast_concat]
    rw [hd, List.nodup_cons, List.mem_reverse, List.nodup_reverse]
    exact ⟨hnear, (List.nodup_append.1 hnodup).1⟩
  · -- the near part of the trail, walked in the direction of the edges
    have hpre : (node :: near ++ [node]) <+: node :: (near ++ node :: far) :=
      ⟨far, by simp⟩
    have hchain := htrail.prefix hpre
    have hrev : node :: near.reverse ++ [node] = (node :: near ++ [node]).reverse := by simp
    rw [hrev]
    exact List.isChain_reverse.2 hchain

/-! ### The search -/

/-- What comes of visiting some nodes from a path with some nodes done: more nodes are done, those
among them and none of the path, or there is a cycle. -/
def Visited (edges : String → List String) (nodes path done ns : List String) :
    Except (List String) (List String) → Prop
  | .ok done' => Layered edges done' ∧ done' ⊆ nodes ∧ ns ⊆ done' ∧ done ⊆ done' ∧
      ∀ p ∈ path, p ∉ done'
  | .error cycle => IsCycle edges cycle

/-- Where a search may stand: on a trail of nodes that are not done. -/
structure Standing (edges : String → List String) (nodes path done : List String) : Prop where
  nodup : path.Nodup
  path_sub : path ⊆ nodes
  done_sub : done ⊆ nodes
  apart : ∀ p ∈ path, p ∉ done
  layered : Layered edges done

lemma foldlM_visited {nodes path done : List String}
    {go : List String → String → Except (List String) (List String)} {ns : List String}
    (hstand : Standing edges nodes path done)
    (hgo : ∀ n ∈ ns, ∀ done, Standing edges nodes path done →
      Visited edges nodes path done [n] (go done n)) :
    Visited edges nodes path done ns (ns.foldlM go done) := by
  induction ns generalizing done with
  | nil => exact ⟨hstand.layered, hstand.done_sub, by simp, by simp, hstand.apart⟩
  | cons n ns ih =>
    have hn := hgo n (by simp) done hstand
    rw [List.foldlM_cons]
    cases hres : go done n with
    | error cycle => rw [hres] at hn; exact hn
    | ok done₁ =>
      rw [hres] at hn
      obtain ⟨hlay, hsub, hmem, hmono, hap⟩ := hn
      have hrest := ih ⟨hstand.nodup, hstand.path_sub, hsub, hap, hlay⟩
        fun m hm => hgo m (List.mem_cons_of_mem _ hm)
      show Visited edges nodes path done (n :: ns) (ns.foldlM go done₁)
      cases hres₂ : ns.foldlM go done₁ with
      | error cycle => rw [hres₂] at hrest; exact hrest
      | ok done₂ =>
        rw [hres₂] at hrest
        obtain ⟨hlay₂, hsub₂, hmem₂, hmono₂, hap₂⟩ := hrest
        refine ⟨hlay₂, hsub₂, ?_, fun x hx => hmono₂ (hmono hx), hap₂⟩
        exact List.cons_subset.2 ⟨hmono₂ (hmem (by simp)), hmem₂⟩

lemma visit_visited {nodes : List String} (hedges : ∀ a, edges a ⊆ nodes) :
    ∀ (fuel : ℕ) (path done : List String) (node : String), node ∈ nodes →
      IsTrail edges (node :: path) → nodes.length < fuel + path.length →
      Standing edges nodes path done →
      Visited edges nodes path done [node]
        (visit edges fuel path done node) := by
  intro fuel
  induction fuel with
  | zero =>
    intro path done node _ _ hfuel hstand
    have := (hstand.nodup.subperm hstand.path_sub).length_le
    omega
  | succ fuel ih =>
    intro path done node hnode htrail hfuel hstand
    rw [visit]
    by_cases hdone : node ∈ done
    · rw [if_pos (by simpa using hdone)]
      exact ⟨hstand.layered, hstand.done_sub, by simpa using hdone, by simp, hstand.apart⟩
    · rw [if_neg (by simpa using hdone)]
      by_cases hpath : node ∈ path
      · rw [if_pos (by simpa using hpath)]
        exact closedBy_isCycle htrail hstand.nodup hpath
      · rw [if_neg (by simpa using hpath)]
        -- the node joins the path while all that it leads to is visited
        have hstand' : Standing edges nodes (node :: path) done :=
          ⟨List.nodup_cons.2 ⟨hpath, hstand.nodup⟩, List.cons_subset.2 ⟨hnode, hstand.path_sub⟩,
            hstand.done_sub, by simpa using ⟨hdone, hstand.apart⟩, hstand.layered⟩
        have hsucc : Visited edges nodes (node :: path) done (edges node)
            ((edges node).foldlM (visit edges fuel (node :: path)) done) :=
          foldlM_visited hstand' fun m hm done₁ hstand₁ =>
            ih (node :: path) done₁ m (hedges node hm) (List.isChain_cons_cons.2 ⟨hm, htrail⟩)
              (by rw [List.length_cons]; omega) hstand₁
        cases hres : (edges node).foldlM (visit edges fuel (node :: path)) done with
        | error cycle => rw [hres] at hsucc; exact hsucc
        | ok done' =>
          rw [hres] at hsucc
          obtain ⟨hlay, hsub, hmem, hmono, hap⟩ := hsucc
          refine ⟨.cons (hap node (by simp)) hmem hlay, ?_, by simp,
            fun x hx => List.mem_cons_of_mem _ (hmono hx), ?_⟩
          · exact List.cons_subset.2 ⟨hnode, hsub⟩
          · intro p hp hp'
            rcases List.mem_cons.1 hp' with rfl | hp'
            · exact hpath hp
            · exact hap p (List.mem_cons_of_mem _ hp) hp'

lemma search_visited {nodes : List String} (hedges : ∀ a, edges a ⊆ nodes) :
    Visited edges nodes [] [] nodes
      (nodes.foldlM (visit edges (nodes.length + 1) []) []) :=
  foldlM_visited ⟨.nil, by simp, by simp, by simp, .nil⟩ fun n hn done hstand =>
    visit_visited hedges _ [] done n hn (.singleton n) (by simp) hstand

/-- **A reported cycle is one.** -/
theorem findCycle?_isCycle {nodes l : List String} (hedges : ∀ a, edges a ⊆ nodes)
    (h : findCycle? edges nodes = some l) : IsCycle edges l := by
  have hs := search_visited hedges
  unfold findCycle? at h
  split at h
  · simp at h
  · next cycle heq =>
    rw [heq] at hs
    exact Option.some.inj h ▸ hs

/-- **If none is reported, ranks fall along every edge**, and no rank exceeds the number of
nodes. -/
theorem exists_rank {nodes : List String} (hedges : ∀ a, edges a ⊆ nodes)
    (hout : ∀ a, a ∉ nodes → edges a = [])
    (h : findCycle? edges nodes = none) :
    ∃ rank : String → ℕ, (∀ a b, b ∈ edges a → rank b < rank a) ∧
      ∀ a, rank a ≤ nodes.length := by
  have hs := search_visited hedges
  unfold findCycle? at h
  split at h
  · next done heq =>
    rw [heq] at hs
    obtain ⟨hlay, hsub, hmem, -, -⟩ := hs
    refine ⟨rank done, fun a b hb => ?_, fun a => ?_⟩
    · refine hlay.rank_lt (hmem ?_) hb
      by_contra ha
      simp [hout a ha] at hb
    · exact (rank_le done a).trans (hlay.nodup.subperm hsub).length_le
  · simp at h

theorem findCycle?_eq_none_iff {nodes : List String} (hedges : ∀ a, edges a ⊆ nodes)
    (hout : ∀ a, a ∉ nodes → edges a = []) :
    findCycle? edges nodes = none ↔ Acyclic edges := by
  constructor
  · intro h
    obtain ⟨rank, hrank, -⟩ := exists_rank hedges hout h
    exact acyclic_of_rank hrank
  · intro hacyc
    cases h : findCycle? edges nodes with
    | none => rfl
    | some l => exact absurd hacyc (findCycle?_isCycle hedges h).not_acyclic

end AttributeRelease.Proofs.Cycles
