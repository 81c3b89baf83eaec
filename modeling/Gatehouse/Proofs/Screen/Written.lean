import Gatehouse.Proofs.Screen.Signature

/-! The signatures as they are written.  `read?` reads the usual notation for patterns, as far as
the signatures need it, and the two tables of signatures are what it makes of two tables of texts.
So a verdict says in which of the tables there is a pattern for some part of the text. -/

namespace Gatehouse.Screen

open Text

namespace Pattern

/-! ### Reading patterns -/

/-- How letters and the full stop are meant in a written pattern. -/
structure Flags where
  ignoreCase : Bool
  dotAll : Bool

/-- The flags in front of a written pattern, and what follows them. -/
def readFlags : List Char → Flags × List Char
  | '(' :: '?' :: 'i' :: ')' :: rest => (⟨true, false⟩, rest)
  | '(' :: '?' :: 'i' :: 's' :: ')' :: rest => (⟨true, true⟩, rest)
  | written => (⟨false, false⟩, written)

def Flags.fullStop (f : Flags) : CharClass := if f.dotAll then .any else .except '\n'

/-- The characters with a meaning of their own, unless a backslash takes it from them. -/
def marks : List Char := "\\.*+|()[]\x7b\x7d?^$".toList

/-- What an ASCII character stands for that has no meaning of its own. -/
def Flags.character? (f : Flags) (c : Char) : Option CharClass :=
  if marks.contains c || 128 ≤ c.toNat then none
  else if f.ignoreCase && c.isAlpha then some (.letter c.toLower)
  else some (.exactly c)

def Flags.except? (f : Flags) (c : Char) : Option CharClass :=
  match f.character? c with
  | some (.exactly c) => some (.except c)
  | _ => none

/-- The signs of a written pattern: a pattern for one place, the two marks of repetition, and the
bar between alternatives. -/
inductive Sign where
  | place (p : Pattern)
  | star
  | plus
  | bar

/-- The signs of a written pattern in order.  Whether a repetition is to be as short as possible
makes no difference to what matches. -/
def signs? (f : Flags) : List Char → Option (List Sign)
  | [] => some []
  | '\\' :: 'b' :: rest => (signs? f rest).map (.place edge :: ·)
  | '\\' :: 'w' :: rest => (signs? f rest).map (.place (one .word) :: ·)
  | '\\' :: 's' :: rest => (signs? f rest).map (.place (one .blank) :: ·)
  | '\\' :: c :: rest =>
    if marks.contains c then (signs? f rest).map (.place (one (.exactly c)) :: ·) else none
  | '[' :: '^' :: c :: ']' :: rest =>
    (f.except? c).bind fun k => (signs? f rest).map (.place (one k) :: ·)
  | '.' :: rest => (signs? f rest).map (.place (one f.fullStop) :: ·)
  | '*' :: '?' :: rest => (signs? f rest).map (.star :: ·)
  | '*' :: rest => (signs? f rest).map (.star :: ·)
  | '+' :: rest => (signs? f rest).map (.plus :: ·)
  | '|' :: rest => (signs? f rest).map (.bar :: ·)
  | c :: rest => (f.character? c).bind fun k => (signs? f rest).map (.place (one k) :: ·)

def prepend (ps : List Pattern) : List (List Pattern) → List (List Pattern)
  | [] => [ps]
  | qs :: rest => (ps ++ qs) :: rest

/-- The alternatives that signs make up, each of them a sequence. -/
def arrange? : List Sign → Option (List (List Pattern))
  | [] => some [[]]
  | .place p :: .star :: rest => (arrange? rest).map (prepend [star p])
  | .place p :: .plus :: rest => (arrange? rest).map (prepend [p, star p])
  | .place p :: rest => (arrange? rest).map (prepend [p])
  | .bar :: rest => (arrange? rest).map ([] :: ·)
  | .star :: _ | .plus :: _ => none

/-- The alternatives of a written pattern. -/
def read? (written : String) : Option (List (List Pattern)) :=
  let (f, rest) := readFlags written.toList
  (signs? f rest).bind arrange?

def sequence (ps : List Pattern) : Pattern := ps.foldr seq empty

/-- Some part of the text matches a written pattern, in its place between the characters around
it. -/
def Shows (written : String) (text : List Char) : Prop :=
  ∃ alternatives, read? written = some alternatives ∧
    ∃ ps ∈ alternatives, (sequence ps).Occurs text

/-! ### Alternatives of sequences -/

/-- The patterns that follow each other in a pattern. -/
def items : Pattern → List Pattern
  | empty => []
  | seq p q => p.items ++ q.items
  | p => [p]

/-- The alternatives of a pattern, each of them a sequence. -/
def alternatives : Pattern → List (List Pattern)
  | alt p q => p.alternatives ++ q.alternatives
  | p => [p.items]

/-- The same texts match two patterns, wherever they stand. -/
def SameLanguage (p q : Pattern) : Prop :=
  ∀ before s after, p.Matches before s after ↔ q.Matches before s after

variable {p q r p' q' : Pattern} {text : List Char}

theorem SameLanguage.refl (p : Pattern) : SameLanguage p p := fun _ _ _ => Iff.rfl

theorem SameLanguage.trans (h : SameLanguage p q) (h' : SameLanguage q r) : SameLanguage p r :=
  fun before s after => (h before s after).trans (h' before s after)

theorem SameLanguage.seq (hp : SameLanguage p p') (hq : SameLanguage q q') :
    SameLanguage (seq p q) (seq p' q') := by
  intro before s after
  simp only [matches_seq_iff, hp _ _ _, hq _ _ _]

theorem sameLanguage_empty_seq (p : Pattern) : SameLanguage p (seq empty p) := by
  intro before s after
  rw [matches_seq_iff]
  constructor
  · exact fun h => ⟨[], s, rfl, .empty, h⟩
  · rintro ⟨s, t, rfl, hEmpty, h⟩
    obtain rfl := matches_empty_iff.mp hEmpty
    exact h

theorem sameLanguage_seq_empty (p : Pattern) : SameLanguage (seq p empty) p := by
  intro before s after
  rw [matches_seq_iff]
  constructor
  · rintro ⟨s, t, rfl, h, hEmpty⟩
    obtain rfl := matches_empty_iff.mp hEmpty
    rw [List.append_nil]
    exact h
  · exact fun h => ⟨s, [], (List.append_nil s).symm, h, .empty⟩

theorem sameLanguage_seq_assoc (p q r : Pattern) :
    SameLanguage (seq p (seq q r)) (seq (seq p q) r) := by
  intro before s after
  simp only [matches_seq_iff]
  constructor
  · rintro ⟨s, _, rfl, hp, t, u, rfl, hq, hr⟩
    rw [List.head?_append, Option.or_assoc] at hp
    rw [← Option.or_assoc, ← List.getLast?_append] at hr
    exact ⟨s ++ t, u, (List.append_assoc ..).symm, ⟨s, t, rfl, hp, hq⟩, hr⟩
  · rintro ⟨_, u, rfl, ⟨s, t, rfl, hp, hq⟩, hr⟩
    rw [← Option.or_assoc, ← List.head?_append] at hp
    rw [List.getLast?_append, Option.or_assoc] at hr
    exact ⟨s, t ++ u, List.append_assoc .., hp, t, u, rfl, hq, hr⟩

theorem sameLanguage_append (ps qs : List Pattern) :
    SameLanguage (sequence (ps ++ qs)) (seq (sequence ps) (sequence qs)) := by
  induction ps with
  | nil => exact sameLanguage_empty_seq _
  | cons p ps ih => exact ((SameLanguage.refl p).seq ih).trans (sameLanguage_seq_assoc p _ _)

theorem sameLanguage_items (p : Pattern) : SameLanguage (sequence p.items) p := by
  induction p with
  | empty => exact .refl _
  | seq p q ihp ihq => exact (sameLanguage_append _ _).trans (ihp.seq ihq)
  | one | alt | star | edge => exact sameLanguage_seq_empty _

theorem SameLanguage.occurs_iff (h : SameLanguage p q) : p.Occurs text ↔ q.Occurs text := by
  simp only [Occurs, h _ _ _]

theorem occurs_alternatives_iff :
    (∃ ps ∈ p.alternatives, (sequence ps).Occurs text) ↔ p.Occurs text := by
  induction p with
  | alt p q ihp ihq =>
    simp only [alternatives, List.mem_append, or_and_right, exists_or, ihp, ihq, occurs_alt_iff]
  | empty | one | seq | star | edge =>
    simp only [alternatives, List.mem_singleton, exists_eq_left]
    exact (sameLanguage_items _).occurs_iff

/-- A table of written patterns shows what the patterns do that it is read as. -/
theorem exists_shows_iff {table : List String} {ps : List Pattern}
    (h : table.map read? = ps.map fun p => some p.alternatives) :
    (∃ written ∈ table, Shows written text) ↔ ∃ p ∈ ps, p.Occurs text := by
  have hTable : (∃ written ∈ table, Shows written text) ↔
      ∃ reading ∈ table.map read?, ∃ alternatives, reading = some alternatives ∧
        ∃ qs ∈ alternatives, (sequence qs).Occurs text := by
    simp only [List.mem_map, exists_exists_and_eq_and, Shows]
  rw [hTable, h]
  simp only [List.mem_map, exists_exists_and_eq_and, Option.some.injEq, exists_eq_left',
    occurs_alternatives_iff]

end Pattern

/-! ### The tables -/

open Pattern

/-- The signatures of SQL injection as they are written. -/
def sqlTable : List String :=
  [r"(?i)\bunion\b.*\bselect\b",
    r"(?i)\bselect\b.*\bfrom\b",
    r"(?i)\binsert\b.*\binto\b",
    r"(?i)\bupdate\b.*\bset\b",
    r"(?i)\bdelete\b.*\bfrom\b",
    r"(?i)\bdrop\b.*\btable\b",
    r"(?i)\bexec\b|\bexecute\b",
    r"--|#|/\*|\*/",
    r"(?i)\bor\b.*=",
    r"(?i)\band\b.*=",
    "';|\";"]

/-- The signatures of script injection as they are written. -/
def scriptTable : List String :=
  [r"(?is)<script[^>]*>.*?</script>",
    r"(?is)<iframe[^>]*>.*?</iframe>",
    r"(?i)javascript:",
    r"(?i)on\w+\s*=",
    r"(?i)<img[^>]*onerror[^>]*>"]

theorem read_sqlTable :
    sqlTable.map read? = sqlSignatures.map fun p => some p.alternatives := by decide +kernel

theorem read_scriptTable :
    scriptTable.map read? = scriptSignatures.map fun p => some p.alternatives := by decide +kernel

/-- Some part of the text matches one of the written patterns. -/
def ShowsAny (table : List String) (text : List Char) : Prop :=
  ∃ written ∈ table, Shows written text

/-- Two single or two double quotes stand next to each other. -/
def HasDoubledQuote (text : List Char) : Prop :=
  "''".toList <:+: text ∨ "\"\"".toList <:+: text

theorem sqlInjection_fits_iff {text : List Char} :
    Category.sqlInjection.Fits text ↔ ShowsAny sqlTable text :=
  (exists_shows_iff read_sqlTable).symm

theorem scriptInjection_fits_iff {text : List Char} :
    Category.scriptInjection.Fits text ↔ ShowsAny scriptTable text :=
  (exists_shows_iff read_scriptTable).symm

/-- The verdict on a text is decided by the tables as they are written: SQL injection if a pattern
of the first one matches some part of the text, or else script injection if one of the second does,
or else escaping if there is a doubled quote. -/
theorem classify_decides_tables (s : String) :
    (classify s = some .sqlInjection ↔ ShowsAny sqlTable s.toList) ∧
    (classify s = some .scriptInjection ↔
      ¬ShowsAny sqlTable s.toList ∧ ShowsAny scriptTable s.toList) ∧
    (classify s = some .suspiciousEscaping ↔
      ¬ShowsAny sqlTable s.toList ∧ ¬ShowsAny scriptTable s.toList ∧
        HasDoubledQuote s.toList) ∧
    (classify s = none ↔
      ¬ShowsAny sqlTable s.toList ∧ ¬ShowsAny scriptTable s.toList ∧
        ¬HasDoubledQuote s.toList) := by
  simp only [← sqlInjection_fits_iff, ← scriptInjection_fits_iff, HasDoubledQuote,
    ← suspiciousEscaping_fits_iff]
  refine ⟨?_, ?_, ?_, ?_⟩
  · simp [classify_eq_some_iff, Category.rank]
  · simp [classify_eq_some_iff, Category.forall_iff, Category.rank, and_comm]
  · simp [classify_eq_some_iff, Category.forall_iff, Category.rank]
    tauto
  · rw [classify_eq_none_iff, Category.forall_iff]

end Gatehouse.Screen
