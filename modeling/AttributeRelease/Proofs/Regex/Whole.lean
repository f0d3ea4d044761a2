import AttributeRelease.Proofs.Regex.Groups
import AttributeRelease.Proofs.Regex.Matching
import AttributeRelease.Resolution.Definition

/-!
A pattern that is valid by itself has to match whole texts.

The text of a pattern is put between the two ends without being read first. What is valid by itself
is a group of its own there, so that both ends hold for all of it. Nothing of the kind is true of a
text that is no pattern by itself: one that closes the group around it gets out of it.
-/

namespace AttributeRelease.Proofs.Whole

open Regex Node Reading Groups Matching

variable {pattern : String} {caseless caseSensitive : Bool} {p : Piece} {r : Regex}

/-- An expression between the two ends of the text. -/
def between (a : Node) : Node := .seq (.look .textStart) (.seq a (.look .textEnd))

/-- The reading of a text as a pattern: its expression and the height of that. -/
def readPiece (pattern : List Char) (caseless : Bool) : Except SyntaxError Piece :=
  Reader.run (pattern.length + 1) { rest := pattern, flags := { caseless } }

/-- What stands around a pattern that is put into a group between the two ends. -/
def start (caseless : Bool) : Frame := ⟨[.piece ⟨.look .textStart, 0⟩], [], none, { caseless }⟩

lemma run_opening (n : ℕ) (s : List Char) :
    Reader.run (n + 2) { rest := "^(?:".toList ++ s, flags := { caseless } } =
      Reader.run n (within [start caseless] s { rest := s, flags := { caseless } }) := rfl

lemma joinAlternatives_between (p : Piece) : joinAlternatives []
    [.piece ⟨.look .textEnd, 0⟩, .piece ⟨p.node, p.height + 1⟩, .piece ⟨.look .textStart, 0⟩] =
      ⟨between p.node, p.height + 2⟩ := by
  have hheight : max (max (max 0 0) (p.height + 1)) 0 + 1 = p.height + 2 := by omega
  rw [← hheight]
  rfl

lemma run_closing {r' : Reader} (h : r'.frames = []) (k : List Char) (n : ℕ) :
    (within [start caseless] k r').closeGroup ['$'] >>= Reader.run (n + 2) =
      .ok ⟨between (joinAlternatives r'.alternatives r'.parts).node,
        (joinAlternatives r'.alternatives r'.parts).height + 2⟩ := by
  obtain ⟨rest, flags, parts, alternatives, frames, groups, names⟩ := r'
  subst h
  exact congrArg Except.ok (joinAlternatives_between (joinAlternatives alternatives parts))

/-- A pattern that can be read by itself is read the same between the ends, unless it ends in a
comment: then the group around it is never closed. -/
lemma readPiece_between {s : List Char} (h : readPiece s caseless = .ok p) :
    '#' ∈ s ∧ readPiece ("^(?:".toList ++ (s ++ ")$".toList)) caseless = .error .groupUnclosed ∨
      readPiece ("^(?:".toList ++ (s ++ ")$".toList)) caseless =
        .ok ⟨between p.node, p.height + 2⟩ := by
  have hquiet : Quiet ['$'] := ⟨by decide, by decide⟩
  have hfuel : ("^(?:".toList ++ (s ++ ")$".toList)).length + 1 = s.length + 1 + 4 + 2 := by
    simp
  rw [readPiece, hfuel, run_opening]
  obtain ⟨r', hframes, rfl, k', ⟨hsign, hrun⟩ | ⟨n, hn, hrun⟩⟩ :=
    run_follows hquiet (.on s id) (Nat.lt_succ_self _) h [start caseless] 4
  · refine .inl ⟨hsign, hrun.trans ?_⟩
    rw [Reader.finish, within, hframes]
    rfl
  · obtain ⟨n, rfl⟩ := Nat.exists_eq_add_of_le hn
    rw [show 4 + n = n + 2 + 2 by omega, run_closing hframes] at hrun
    exact .inr hrun

lemma compile_eq (pattern : String) (caseless : Bool) : Regex.compile pattern caseless =
    readPiece pattern.toList caseless >>= fun p =>
      if heightLimit < p.height then .error .tooDeep
      else if roomLimit < p.node.totalRoom then .error .tooLarge
      else .ok ⟨p.node, p.node.program⟩ := by
  rw [Regex.compile, readNode, readPiece]
  cases Reader.run _ _ with
  | error e => rfl
  | ok p =>
    show (if heightLimit < p.height then _ else _) >>= _ = if heightLimit < p.height then _ else _
    split <;> rfl

lemma compile_eq_ok_iff : Regex.compile pattern caseless = .ok r ↔
    ∃ p, readPiece pattern.toList caseless = .ok p ∧ p.height ≤ heightLimit ∧
      p.node.totalRoom ≤ roomLimit ∧ r = ⟨p.node, p.node.program⟩ := by
  rw [compile_eq, Checks.bind_eq_ok_iff]
  refine exists_congr fun p => and_congr_right fun _ => ?_
  constructor
  · intro h
    split at h
    · cases h
    · split at h
      · cases h
      · exact ⟨by omega, by omega, (Except.ok.inj h).symm⟩
  · rintro ⟨hheight, hroom, rfl⟩
    rw [if_neg (by omega), if_neg (by omega)]

lemma room_of_parts_eq_nil {a : Node} (h : a.parts = []) (d : Direction) :
    (a.room d).whole = stateRoom := by
  cases a with
  | empty => rfl
  | seq a b => simp [room, h, Room.of]
  | set | look | alt | «repeat» | capture => simp [parts] at h

lemma room_between (a : Node) (d : Direction) :
    ((between a).room d).whole = a.partRoom (a.room d) + 2 * stateRoom := by
  have hinner : (seq a (look .textEnd)).partRoom ((seq a (look .textEnd)).room d) =
      a.partRoom (a.room d) + stateRoom := by
    simp [partRoom, parts, room, Room.of]
  have houter : ((between a).room d).whole =
      stateRoom + (seq a (look .textEnd)).partRoom ((seq a (look .textEnd)).room d) := by
    simp [between, partRoom, parts, room, Room.of]
  omega

/-- The two ends take a state each. That an empty pattern takes no state between them makes no
difference, as it is far from the limit. -/
lemma roomLimit_lt_between (a : Node) :
    roomLimit < (between a).totalRoom ↔ roomLimit < a.totalRoom + 2 * stateRoom := by
  rw [totalRoom, totalRoom, room_between, room_between]
  by_cases hparts : a.parts = []
  · have hroom (d : Direction) : a.partRoom (a.room d) = 0 := by simp [partRoom, hparts]
    rw [hroom, hroom, room_of_parts_eq_nil hparts, room_of_parts_eq_nil hparts]
    decide
  · have hroom (d : Direction) : a.partRoom (a.room d) = (a.room d).whole := by
      simp [partRoom, hparts]
    rw [hroom, hroom]
    omega

/-- What becomes of a pattern that is valid by itself. -/
inductive Fate (pattern : String) (p : Piece) : Except SyntaxError ValuePattern → Prop
  | commented (h : '#' ∈ pattern.toList) : Fate pattern p (.error .groupUnclosed)
  | tooDeep (h : heightLimit < p.height + 2) : Fate pattern p (.error .tooDeep)
  | tooLarge (h : p.height + 2 ≤ heightLimit)
      (hroom : roomLimit < p.node.totalRoom + 2 * stateRoom) : Fate pattern p (.error .tooLarge)
  | accepted (h : p.height + 2 ≤ heightLimit)
      (hroom : p.node.totalRoom + 2 * stateRoom ≤ roomLimit) :
      Fate pattern p (.ok ⟨pattern, ⟨between p.node, (between p.node).program⟩⟩)

lemma ofText_fate (h : readPiece pattern.toList (!caseSensitive) = .ok p) :
    Fate pattern p (ValuePattern.ofText pattern caseSensitive) := by
  rw [ValuePattern.ofText, Regex.whole, compile_eq, String.toList_append, String.toList_append,
    List.append_assoc]
  obtain ⟨hsign, hread⟩ | hread := readPiece_between h
  · rw [hread]
    exact .commented hsign
  · rw [hread]
    show Fate pattern p ((if heightLimit < p.height + 2 then _
      else if roomLimit < (between p.node).totalRoom then _ else _) >>= _)
    rw [if_congr (roomLimit_lt_between p.node) rfl rfl]
    split
    · exact .tooDeep ‹_›
    · split
      · exact .tooLarge (by omega) ‹_›
      · exact .accepted (by omega) (by omega)

/-! ### Matching between the ends -/

lemma looksAt_textStart {text : Array Char} {i : ℕ} (hi : i ≤ text.size) :
    LooksAt text .textStart i ↔ i = 0 := by
  constructor
  · intro h
    by_contra hne
    have hnone : text[i - 1]? = none := by simpa [LooksAt, Look.holds, hne] using h
    have hsize := Array.getElem?_eq_none_iff.1 hnone
    omega
  · rintro rfl
    rfl

lemma looksAt_textEnd {text : Array Char} {i : ℕ} : LooksAt text .textEnd i ↔ text.size ≤ i := by
  simp [LooksAt, Look.holds]

/-- An expression matches a text from its first to its last character, with what it records. -/
def MatchesWhole (a : Node) (text : String) (d : Saves) : Prop :=
  Matches text.toList.toArray a 0 text.toList.length d

/-- The text that a match has recorded for a group. -/
def recorded (text : String) (d : Saves) (group : ℕ) : Option String := do
  let start ← d.lookup (2 * group)
  let stop ← d.lookup (2 * group + 1)
  return .ofList ((text.toList.take stop).drop start)

/-- Whatever is found between the ends is the whole text. -/
lemma search_between {a : Node} {text : String} {saves : Saves}
    (h : (between a).program.search text.toList.toArray = some saves) :
    ∃ d, MatchesWhole a text d ∧ saves = (1, text.toList.length) :: (d ++ [(0, 0)]) := by
  obtain ⟨i, hi, j, d, hmatch, rfl⟩ := search_sound h
  have hj := hmatch.le_size hi
  cases hmatch with
  | seq hstart hrest =>
    cases hstart with
    | look hstart =>
      cases hrest with
      | @seq _ _ _ _ _ d _ ha hend =>
        cases hend with
        | look hend =>
          obtain rfl := (looksAt_textStart hi).1 hstart
          obtain rfl : j = text.toList.length := Nat.le_antisymm hj (looksAt_textEnd.1 hend)
          exact ⟨d, ha, by simp⟩

lemma capture?_between {a : Node} {text s : String} {group : ℕ} (hgroup : group ≠ 0)
    (h : Regex.capture? ⟨between a, (between a).program⟩ text group = some s) :
    ∃ d, MatchesWhole a text d ∧ recorded text d group = some s := by
  obtain ⟨saves, hsearch, hsaves⟩ := Option.bind_eq_some_iff.1 h
  obtain ⟨d, hd, rfl⟩ := search_between hsearch
  refine ⟨d, hd, ?_⟩
  have hlookup (slot : ℕ) (hslot : 2 ≤ slot) :
      ((1, text.toList.length) :: (d ++ [(0, 0)])).lookup slot = d.lookup slot := by
    rw [List.lookup_cons, List.lookup_append]
    have h₁ : (slot == 1) = false := by simp; omega
    have h₀ : (slot == 0) = false := by simp; omega
    simp [h₁, h₀, List.lookup_cons]
  rw [hlookup _ (by omega), hlookup _ (by omega)] at hsaves
  exact hsaves

/-- A pattern stands for whole texts that an expression matches, and gives out what the first group
has recorded in them. -/
structure Anchored (r : Regex) (v : ValuePattern) : Prop where
  holds : ∀ text, v.holds text = true → ∃ d, MatchesWhole r.node text d
  split : ∀ value emitted, DefinitionKind.split v value = .ok (some emitted) →
    ∃ text d s, value.text? = some text ∧ MatchesWhole r.node text d ∧
      recorded text d 1 = some s ∧ emitted = .string s

lemma anchored_between (pattern : String) (r : Regex) :
    Anchored r ⟨pattern, ⟨between r.node, (between r.node).program⟩⟩ where
  holds text h := by
    obtain ⟨saves, hsearch⟩ := Option.isSome_iff_exists.1 h
    obtain ⟨d, hd, -⟩ := search_between hsearch
    exact ⟨d, hd⟩
  split value emitted h := by
    unfold DefinitionKind.split at h
    split at h
    · next text htext =>
      obtain ⟨s, hs, rfl⟩ := Option.map_eq_some_iff.1 (Except.ok.inj h)
      obtain ⟨d, hd, hrecorded⟩ := capture?_between Nat.one_ne_zero hs
      exact ⟨text, d, s, htext, hd, hrecorded, rfl⟩
    · cases h

/-- **A pattern that is valid by itself has to match whole texts.** It is accepted unless it ends in
a comment or the ends make it too deep or too large; and what it accepts then it matches from the
first to the last character. -/
theorem valid_pattern_anchored (pattern : String) (caseSensitive : Bool) {r : Regex}
    (h : Regex.compile pattern (!caseSensitive) = .ok r) :
    (∃ p, p.node = r.node ∧ p.height ≤ heightLimit ∧
      Fate pattern p (ValuePattern.ofText pattern caseSensitive)) ∧
    ∀ v, ValuePattern.ofText pattern caseSensitive = .ok v → Anchored r v := by
  obtain ⟨p, hread, hheight, -, rfl⟩ := compile_eq_ok_iff.1 h
  have hfate := ofText_fate hread
  refine ⟨⟨p, rfl, hheight, hfate⟩, fun v hv => ?_⟩
  rw [hv] at hfate
  cases hfate
  exact anchored_between pattern ⟨p.node, p.node.program⟩

/-- Letters of one kind, recorded, and one of another kind. -/
def trailed : Node :=
  .seq (.capture 1 (.repeat true 1 none (.set (.singleton 'a')))) (.set (.singleton 'b'))

def trailedPattern : ValuePattern :=
  ⟨"(a+)b", ⟨between trailed, (between trailed).program⟩⟩

theorem trailed_anchored : Regex.compile "(a+)b" false = .ok ⟨trailed, trailed.program⟩ ∧
    ValuePattern.ofText "(a+)b" true = .ok trailedPattern ∧
    trailedPattern.regex.capture? "aab" 1 = some "aa" ∧
    Anchored ⟨trailed, trailed.program⟩ trailedPattern := by
  have hcompile : Regex.compile "(a+)b" false = .ok ⟨trailed, trailed.program⟩ := rfl
  have haccept : ValuePattern.ofText "(a+)b" true = .ok trailedPattern := rfl
  have hcapture : trailedPattern.regex.capture? "aab" 1 = some "aa" := by decide +kernel
  exact ⟨hcompile, haccept, hcapture, (valid_pattern_anchored "(a+)b" true hcompile).2 _ haccept⟩

/-- What is left between the ends of a text that closes the group around it and opens another. -/
def escaped : Node :=
  .alt (.seq (.look .textStart) (.set (.singleton 'a')))
    (.seq (.set (.singleton 'b')) (.look .textEnd))

/-- A text that is no pattern by itself may be accepted, with an end for each of its branches only;
and a pattern is refused if it ends in a comment. -/
theorem escaped_not_anchored :
    ValuePattern.ofText "a)|(?:b" true = .ok ⟨"a)|(?:b", ⟨escaped, escaped.program⟩⟩ ∧
      ValuePattern.holds ⟨"a)|(?:b", ⟨escaped, escaped.program⟩⟩ "ax" = true ∧
      Regex.compile "a)|(?:b" false = .error .groupUnopened ∧
      ValuePattern.ofText "(?x)a # b" true = .error .groupUnclosed ∧
      ∃ r, Regex.compile "(?x)a # b" false = .ok r :=
  ⟨rfl, by decide +kernel, rfl, rfl, ⟨.set (.singleton 'a'), _⟩, rfl⟩

end AttributeRelease.Proofs.Whole
