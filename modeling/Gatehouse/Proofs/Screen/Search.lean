import Gatehouse.Screen.Pattern

/-! The search for patterns finds what is there and nothing else.  A pattern matches a text that
begins with a character if and only if one of its derivatives matches the rest, so the set of live
patterns says at every place which matches could still be completed. -/

namespace Gatehouse.Screen.Pattern

open Text

variable {p q : Pattern} {before after : Option Char} {c : Char} {s t text : List Char}

section Inversion

theorem matches_empty_iff : empty.Matches before s after ↔ s = [] := by
  constructor
  · intro h
    cases h
    rfl
  · rintro rfl
    exact .empty

theorem matches_one_iff {k : CharClass} :
    (one k).Matches before s after ↔ ∃ c, s = [c] ∧ k.holds c = true := by
  constructor
  · intro h
    cases h with
    | one hHolds => exact ⟨_, rfl, hHolds⟩
  · rintro ⟨c, rfl, hHolds⟩
    exact .one hHolds

theorem matches_seq_iff :
    (seq p q).Matches before text after ↔
      ∃ s t, text = s ++ t ∧ p.Matches before s (t.head?.or after) ∧
        q.Matches (s.getLast?.or before) t after := by
  constructor
  · intro h
    cases h with
    | seq hp hq => exact ⟨_, _, rfl, hp, hq⟩
  · rintro ⟨s, t, rfl, hp, hq⟩
    exact .seq hp hq

theorem matches_alt_iff :
    (alt p q).Matches before s after ↔ p.Matches before s after ∨ q.Matches before s after := by
  constructor
  · intro h
    cases h with
    | left hp => exact .inl hp
    | right hq => exact .inr hq
  · rintro (hp | hq)
    · exact .left hp
    · exact .right hq

theorem matches_edge_iff :
    edge.Matches before s after ↔ s = [] ∧ isWordEdge before after = true := by
  constructor
  · intro h
    cases h with
    | edge hEdge => exact ⟨rfl, hEdge⟩
  · rintro ⟨rfl, hEdge⟩
    exact .edge hEdge

theorem getLast?_cons_or (c : Char) (s : List Char) (before : Option Char) :
    (c :: s).getLast?.or before = s.getLast?.or (some c) := by
  rw [List.getLast?_cons]
  cases s.getLast? <;> rfl

/-- A repetition of a pattern that is not empty has a first part that is not empty. -/
theorem matches_star_cons_iff :
    (star p).Matches before (c :: text) after ↔
      ∃ s t, text = s ++ t ∧ p.Matches before (c :: s) (t.head?.or after) ∧
        (star p).Matches (s.getLast?.or (some c)) t after := by
  constructor
  · intro h
    generalize hPattern : star p = r at h
    generalize hText : c :: text = cs at h
    induction h with
    | @more q s t before after hFirst hRest _ ihRest =>
      cases hPattern
      cases s with
      | nil => exact ihRest rfl hText
      | cons d s =>
        obtain ⟨rfl, rfl⟩ := List.cons.inj hText
        rw [getLast?_cons_or] at hRest
        exact ⟨s, t, rfl, hFirst, hRest⟩
    | none => cases hText
    | empty | one | seq | left | right | edge => cases hPattern
  · rintro ⟨s, t, rfl, hFirst, hRest⟩
    rw [← getLast?_cons_or c s before] at hRest
    exact .more hFirst hRest

end Inversion

theorem matches_nil_iff :
    p.Matches before [] after ↔ p.skippable (isWordEdge before after) = true := by
  induction p with
  | empty => simp [matches_empty_iff, skippable]
  | one k => simp [matches_one_iff, skippable]
  | seq p q ihp ihq =>
    rw [skippable, Bool.and_eq_true, ← ihp, ← ihq, matches_seq_iff]
    constructor
    · rintro ⟨s, t, hText, hp, hq⟩
      obtain ⟨rfl, rfl⟩ := List.nil_eq_append_iff.mp hText
      exact ⟨hp, hq⟩
    · exact fun ⟨hp, hq⟩ => ⟨[], [], rfl, hp, hq⟩
  | alt p q ihp ihq => simp [matches_alt_iff, skippable, ihp, ihq]
  | star p _ => exact ⟨fun _ => rfl, fun _ => .none⟩
  | edge => simp [matches_edge_iff, skippable]

/-- One of several patterns, and then another one. -/
theorem exists_matches_seq_iff {ps : List Pattern} :
    (∃ r ∈ ps.map (seq · q), r.Matches before text after) ↔
      ∃ s t, text = s ++ t ∧ (∃ p ∈ ps, p.Matches before s (t.head?.or after)) ∧
        q.Matches (s.getLast?.or before) t after := by
  constructor
  · rintro ⟨r, hr, hMatch⟩
    obtain ⟨p, hp, rfl⟩ := List.mem_map.mp hr
    obtain ⟨s, t, hText, hFirst, hSecond⟩ := matches_seq_iff.mp hMatch
    exact ⟨s, t, hText, ⟨p, hp, hFirst⟩, hSecond⟩
  · rintro ⟨s, t, hText, ⟨p, hp, hFirst⟩, hSecond⟩
    exact ⟨_, List.mem_map_of_mem hp, matches_seq_iff.mpr ⟨s, t, hText, hFirst, hSecond⟩⟩

/-- The first character of a sequence belongs to its first pattern, or to its second one if the
first one matches the empty text in front of it. -/
theorem matches_seq_cons_iff :
    (seq p q).Matches before (c :: text) after ↔
      (∃ s t, text = s ++ t ∧ p.Matches before (c :: s) (t.head?.or after) ∧
        q.Matches (s.getLast?.or (some c)) t after) ∨
      (p.skippable (isWordEdge before (some c)) = true ∧
        q.Matches before (c :: text) after) := by
  rw [matches_seq_iff]
  constructor
  · rintro ⟨s, t, hText, hp, hq⟩
    cases s with
    | nil =>
      rw [List.nil_append] at hText
      subst hText
      exact .inr ⟨matches_nil_iff.mp hp, hq⟩
    | cons d s =>
      obtain ⟨rfl, rfl⟩ := List.cons.inj hText
      rw [getLast?_cons_or] at hq
      exact .inl ⟨s, t, rfl, hp, hq⟩
  · rintro (⟨s, t, rfl, hp, hq⟩ | ⟨hSkip, hq⟩)
    · rw [← getLast?_cons_or c s before] at hq
      exact ⟨c :: s, t, rfl, hp, hq⟩
    · exact ⟨[], c :: text, rfl, matches_nil_iff.mpr hSkip, hq⟩

/-- What matches after a first character is what one of the derivatives matches. -/
theorem matches_cons_iff :
    p.Matches before (c :: text) after ↔
      ∃ q ∈ p.derive (isWordEdge before (some c)) c, q.Matches (some c) text after := by
  induction p generalizing text after with
  | empty => simp [matches_empty_iff, derive]
  | one k =>
    rw [matches_one_iff, derive]
    constructor
    · rintro ⟨d, hText, hHolds⟩
      cases hText
      exact ⟨empty, by simp [hHolds], .empty⟩
    · rintro ⟨q, hq, hMatch⟩
      split at hq
      · rename_i hHolds
        obtain rfl := List.mem_singleton.mp hq
        rw [matches_empty_iff.mp hMatch]
        exact ⟨c, rfl, hHolds⟩
      · cases hq
  | seq p q ihp ihq =>
    rw [matches_seq_cons_iff, derive]
    simp only [ihp, ihq, ← exists_matches_seq_iff]
    split
    · rename_i hSkip
      simp only [hSkip, true_and, List.mem_append, or_and_right, exists_or]
    · rename_i hSkip
      simp only [hSkip, false_and, or_false, Bool.false_eq_true]
  | alt p q ihp ihq =>
    simp only [matches_alt_iff, ihp, ihq, derive, List.mem_append, or_and_right, exists_or]
  | star p ih =>
    rw [matches_star_cons_iff, derive, exists_matches_seq_iff]
    simp only [ih]
  | edge => simp [matches_edge_iff, derive]

/-! ### The search -/

/-- A text begins with a match of the pattern. -/
def Begins (p : Pattern) (before : Option Char) (text : List Char) : Prop :=
  ∃ part rest, text = part ++ rest ∧ p.Matches before part rest.head?

theorem begins_of_skippable (h : p.skippable (isWordEdge before text.head?) = true) :
    p.Begins before text :=
  ⟨[], text, rfl, matches_nil_iff.mpr h⟩

theorem begins_nil_iff :
    p.Begins before [] ↔ p.skippable (isWordEdge before none) = true := by
  constructor
  · rintro ⟨part, rest, hText, hMatch⟩
    obtain ⟨rfl, rfl⟩ := List.nil_eq_append_iff.mp hText
    exact matches_nil_iff.mp hMatch
  · exact fun h => begins_of_skippable h

theorem begins_cons_iff :
    p.Begins before (c :: text) ↔
      p.skippable (isWordEdge before (some c)) = true ∨
        ∃ q ∈ p.derive (isWordEdge before (some c)) c, q.Begins (some c) text := by
  constructor
  · rintro ⟨part, rest, hText, hMatch⟩
    cases part with
    | nil =>
      subst hText
      exact .inl (matches_nil_iff.mp hMatch)
    | cons d part =>
      obtain ⟨rfl, rfl⟩ := List.cons.inj hText
      obtain ⟨q, hq, hRest⟩ := matches_cons_iff.mp hMatch
      exact .inr ⟨q, hq, part, rest, rfl, hRest⟩
  · rintro (hSkip | ⟨q, hq, part, rest, rfl, hRest⟩)
    · exact begins_of_skippable hSkip
    · exact ⟨c :: part, rest, rfl, matches_cons_iff.mpr ⟨q, hq, hRest⟩⟩

/-- A match begins at some place of a text. -/
def BeginsLater (p : Pattern) (before : Option Char) (text : List Char) : Prop :=
  ∃ front rest, text = front ++ rest ∧ p.Begins (front.getLast?.or before) rest

theorem beginsLater_nil_iff : p.BeginsLater before [] ↔ p.Begins before [] := by
  constructor
  · rintro ⟨front, rest, hText, hBegins⟩
    obtain ⟨rfl, rfl⟩ := List.nil_eq_append_iff.mp hText
    exact hBegins
  · exact fun h => ⟨[], [], rfl, h⟩

theorem beginsLater_cons_iff :
    p.BeginsLater before (c :: text) ↔
      p.Begins before (c :: text) ∨ p.BeginsLater (some c) text := by
  constructor
  · rintro ⟨front, rest, hText, hBegins⟩
    cases front with
    | nil =>
      subst hText
      exact .inl hBegins
    | cons d front =>
      obtain ⟨rfl, rfl⟩ := List.cons.inj hText
      rw [getLast?_cons_or] at hBegins
      exact .inr ⟨front, rest, rfl, hBegins⟩
  · rintro (hBegins | ⟨front, rest, rfl, hBegins⟩)
    · exact ⟨[], c :: text, rfl, hBegins⟩
    · rw [← getLast?_cons_or c front before] at hBegins
      exact ⟨c :: front, rest, rfl, hBegins⟩

theorem beginsLater_iff_occurs : p.BeginsLater none text ↔ p.Occurs text := by
  constructor
  · rintro ⟨front, _, rfl, part, back, rfl, hMatch⟩
    rw [Option.or_none] at hMatch
    exact ⟨front, part, back, (List.append_assoc ..).symm, hMatch⟩
  · rintro ⟨front, part, back, rfl, hMatch⟩
    refine ⟨front, part ++ back, List.append_assoc .., part, back, rfl, ?_⟩
    rw [Option.or_none]
    exact hMatch

theorem mem_deriveAll {atEdge : Bool} {ps : List Pattern} :
    q ∈ deriveAll atEdge c ps ↔ ∃ p ∈ ps, q ∈ p.derive atEdge c := by
  rw [deriveAll, ← List.mem_flatMap]
  induction ps.flatMap (derive atEdge c) with
  | nil => rfl
  | cons r rs ih => rw [List.foldr_cons, List.mem_insert_iff, ih, List.mem_cons]

/-- The scan succeeds if a live pattern is completed or a match of one of the others begins later. -/
theorem scan_eq_true_iff {starts live : List Pattern} :
    scan starts live before text = true ↔
      (∃ p ∈ live, p.Begins before text) ∨ ∃ p ∈ starts, p.BeginsLater before text := by
  induction text generalizing live before with
  | nil =>
    simp only [scan, List.any_eq_true, List.mem_append, begins_nil_iff, beginsLater_nil_iff,
      or_and_right, exists_or]
    exact or_comm
  | cons c rest ih =>
    simp only [beginsLater_cons_iff, begins_cons_iff]
    rw [scan]
    split
    · rename_i hSkip
      obtain ⟨p, hp, hSkip⟩ := List.any_eq_true.mp hSkip
      refine iff_of_true rfl ?_
      rcases List.mem_append.mp hp with hStart | hLive
      · exact .inr ⟨p, hStart, .inl (.inl hSkip)⟩
      · exact .inl ⟨p, hLive, .inl hSkip⟩
    · rename_i hSkip
      have hNone : ∀ p ∈ starts ++ live, ¬p.skippable (isWordEdge before (some c)) = true :=
        fun p hp hp' => hSkip (List.any_eq_true.mpr ⟨p, hp, hp'⟩)
      simp only [ih, mem_deriveAll]
      grind

/-- The search succeeds exactly if some part of the text matches one of the patterns. -/
theorem occurs_eq_true_iff {ps : List Pattern} {text : String} :
    occurs ps text = true ↔ ∃ p ∈ ps, p.Occurs text.toList := by
  rw [occurs, scan_eq_true_iff]
  simp only [beginsLater_iff_occurs, List.not_mem_nil, false_and, exists_false, false_or]

end Gatehouse.Screen.Pattern
