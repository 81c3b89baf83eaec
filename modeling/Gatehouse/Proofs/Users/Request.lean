import Gatehouse.Proofs.Except
import Gatehouse.Proofs.Text.Size
import Gatehouse.Proofs.Text.Split
import Gatehouse.Users.Request

/-! What the requests to create and to update a user may say.  Both accept the same names and the
same e-mail addresses, and what they accept is still accepted once it is trimmed, so the trimmed
fields are a normal form.  The limit on names counts octets, and so it is a limit on characters for
ASCII names only. -/

namespace Gatehouse.Users

open Text

/-! ### Names and e-mail addresses -/

/-- A name that is accepted. -/
structure IsName (name : String) : Prop where
  not_blank : isBlankText name = false
  size_le : name.utf8ByteSize ≤ 100

/-- There is something before the first at sign and a full stop somewhere after it. -/
def EmailForm (email : String) : Prop :=
  ∃ front domain, email.toList = front ++ '@' :: domain ∧
    '@' ∉ front ∧ front ≠ [] ∧ '.' ∈ domain

/-- An e-mail address that is accepted.  Its ends are trimmed before it is looked at. -/
structure IsEmail (email : String) : Prop where
  size_le : (trim email).utf8ByteSize ≤ 254
  form : EmailForm (trim email)

theorem checkName_ok_iff {blankError : RequestError} {name : String} :
    checkName blankError name = .ok () ↔ IsName name := by
  rw [checkName]
  constructor
  · intro h
    split at h
    · cases h
    · rename_i hBlank
      split at h
      · cases h
      · rename_i hSize
        exact ⟨by simpa using hBlank, Nat.le_of_not_lt hSize⟩
  · rintro ⟨hBlank, hSize⟩
    rw [if_neg (by simpa using hBlank)]
    exact if_neg (Nat.not_lt_of_le hSize)

theorem checkName_tooLong_iff (blankError : RequestError) (h : blankError ≠ .nameTooLong)
    {name : String} :
    checkName blankError name = .error .nameTooLong ↔
      isBlankText name = false ∧ 100 < name.utf8ByteSize := by
  rw [checkName]
  by_cases hBlank : isBlankText name = true
  · simp [hBlank, h]
  · rw [if_neg hBlank, Bool.not_eq_true] at *
    by_cases hSize : maxNameSize < name.utf8ByteSize
    · rw [if_pos hSize]
      exact ⟨fun _ => ⟨hBlank, hSize⟩, fun _ => rfl⟩
    · rw [if_neg hSize]
      exact ⟨nofun, fun hLong => absurd hLong.2 hSize⟩

theorem hasEmailForm_iff {email : String} :
    hasEmailForm email.toList = true ↔ EmailForm email := by
  by_cases hAt : '@' ∈ email.toList
  · obtain ⟨front, domain, hText, hFront⟩ := List.eq_append_cons_of_mem hAt
    have hCut : cutAt (· == '@') email.toList = (front, some domain) := by
      rw [hText]
      exact cutAt_append_cons (fun c hc => by simpa using ne_of_mem_of_not_mem hc hFront) rfl domain
    rw [hasEmailForm, hCut]
    constructor
    · intro h
      simp only [Bool.and_eq_true, Bool.not_eq_true', List.isEmpty_eq_false_iff,
        List.contains_iff_mem] at h
      exact ⟨front, domain, hText, hFront, h.1, h.2⟩
    · rintro ⟨front', domain', hText', hFront', hSome, hStop⟩
      -- The first at sign stands in one place only.
      have hSame : cutAt (· == '@') (front' ++ '@' :: domain') = (front', some domain') :=
        cutAt_append_cons (fun c hc => by simpa using ne_of_mem_of_not_mem hc hFront') rfl domain'
      rw [← hText', hCut] at hSame
      cases hSame
      simpa using ⟨hSome, hStop⟩
  · have hCut : cutAt (· == '@') email.toList = (email.toList, none) :=
      cutAt_of_forall fun c hc => by simpa using ne_of_mem_of_not_mem hc hAt
    rw [hasEmailForm, hCut]
    refine ⟨nofun, fun ⟨front, domain, hText, _⟩ => absurd ?_ hAt⟩
    rw [hText]
    exact List.mem_append_right front List.mem_cons_self

theorem checkEmail_ok_iff {email : String} : checkEmail email = .ok () ↔ IsEmail email := by
  simp only [checkEmail]
  constructor
  · intro h
    split at h
    · cases h
    · rename_i hSize
      split at h
      · rename_i hForm
        exact ⟨Nat.le_of_not_lt hSize, hasEmailForm_iff.mp hForm⟩
      · cases h
  · rintro ⟨hSize, hForm⟩
    rw [if_pos (hasEmailForm_iff.mpr hForm)]
    exact if_neg (Nat.not_lt_of_le hSize)

theorem checkEmail_ne_nameTooLong (email : String) : checkEmail email ≠ .error .nameTooLong := by
  simp only [checkEmail]
  split
  · nofun
  · split <;> nofun

theorem IsName.trim {name : String} (h : IsName name) : IsName (trim name) where
  not_blank := by
    rw [← Bool.not_eq_true, ← trim_eq_empty_iff, trim_trim, trim_eq_empty_iff, h.not_blank]
    exact Bool.false_ne_true
  size_le := (utf8ByteSize_trim_le name).trans h.size_le

theorem isEmail_trim_iff {email : String} : IsEmail (Text.trim email) ↔ IsEmail email := by
  constructor
  · rintro ⟨hSize, hForm⟩
    rw [trim_trim] at hSize hForm
    exact ⟨hSize, hForm⟩
  · rintro ⟨hSize, hForm⟩
    constructor <;> rwa [trim_trim]

/-! ### The two requests -/

theorem checks_ok_iff {first second : Except RequestError Unit} :
    (do first; second) = .ok () ↔ first = .ok () ∧ second = .ok () :=
  Except.bind_ok_iff.trans
    ⟨fun ⟨_, hFirst, hSecond⟩ => ⟨hFirst, hSecond⟩, fun ⟨hFirst, hSecond⟩ => ⟨(), hFirst, hSecond⟩⟩

theorem CreateUser.validate_ok_iff {r : CreateUser} :
    r.validate = .ok () ↔ IsName r.name ∧ IsEmail r.email := by
  rw [validate, checks_ok_iff, checkName_ok_iff, checkEmail_ok_iff]

theorem UpdateUser.validate_ok_iff {r : UpdateUser} :
    r.validate = .ok () ↔
      (∀ name, r.name = some name → IsName name) ∧
        ∀ email, r.email = some email → IsEmail email := by
  obtain ⟨name, email⟩ := r
  cases name <;> cases email <;>
    simp [validate, checks_ok_iff, checkName_ok_iff, checkEmail_ok_iff, -Except.bind_ok_iff]

namespace UpdateUser

/-- The fields as they are bound to a statement. -/
def trimmed (r : UpdateUser) : UpdateUser := ⟨r.name.map trim, r.email.map trim⟩

/-- Fields that can be bound as they are: nothing is left to trim, a name is not empty and has at
most 100 octets, and an e-mail address has at most 254 and the form of one. -/
structure IsNormal (r : UpdateUser) : Prop where
  trimmed : r.trimmed = r
  name : ∀ name, r.name = some name → name ≠ "" ∧ name.utf8ByteSize ≤ 100
  email : ∀ email, r.email = some email → email.utf8ByteSize ≤ 254 ∧ EmailForm email

variable {r : UpdateUser}

theorem trimmed_trimmed (r : UpdateUser) : r.trimmed.trimmed = r.trimmed := by
  simp [trimmed, Option.map_map, Function.comp_def, trim_trim]

theorem validate_trimmed (h : r.validate = .ok ()) : r.trimmed.validate = .ok () := by
  obtain ⟨hName, hEmail⟩ := validate_ok_iff.mp h
  refine validate_ok_iff.mpr ⟨fun name hSome => ?_, fun email hSome => ?_⟩
  · obtain ⟨given, hGiven, rfl⟩ := Option.map_eq_some_iff.mp hSome
    exact (hName given hGiven).trim
  · obtain ⟨given, hGiven, rfl⟩ := Option.map_eq_some_iff.mp hSome
    exact isEmail_trim_iff.mpr (hEmail given hGiven)

/-- The normal fields are those that are accepted and left alone. -/
theorem isNormal_iff : r.IsNormal ↔ r.validate = .ok () ∧ r.trimmed = r := by
  rw [validate_ok_iff]
  constructor
  · rintro ⟨hTrimmed, hName, hEmail⟩
    have hFields := UpdateUser.mk.inj hTrimmed
    refine ⟨⟨fun name hSome => ?_, fun email hSome => ?_⟩, hTrimmed⟩
    · obtain ⟨hNonempty, hSize⟩ := hName name hSome
      have hTrim : trim name = name := by simpa [hSome] using hFields.1
      exact ⟨Bool.eq_false_of_not_eq_true
        fun hBlank => hNonempty (hTrim ▸ trim_eq_empty_iff.mpr hBlank), hSize⟩
    · obtain ⟨hSize, hForm⟩ := hEmail email hSome
      have hTrim : trim email = email := by simpa [hSome] using hFields.2
      constructor <;> rwa [hTrim]
  · rintro ⟨⟨hName, hEmail⟩, hTrimmed⟩
    have hFields := UpdateUser.mk.inj hTrimmed
    refine ⟨hTrimmed, fun name hSome => ?_, fun email hSome => ?_⟩
    · have hTrim : trim name = name := by simpa [hSome] using hFields.1
      refine ⟨fun hEmpty => ?_, (hName name hSome).size_le⟩
      rw [hEmpty] at hTrim
      exact Bool.false_ne_true
        ((hName name hSome).not_blank.symm.trans (trim_eq_empty_iff.mp (hTrim ▸ hEmpty ▸ rfl)))
    · have hTrim : trim email = email := by simpa [hSome] using hFields.2
      obtain ⟨hSize, hForm⟩ := hEmail email hSome
      rw [hTrim] at hSize hForm
      exact ⟨hSize, hForm⟩

theorem isNormal_trimmed (h : r.validate = .ok ()) : r.trimmed.IsNormal :=
  isNormal_iff.mpr ⟨validate_trimmed h, trimmed_trimmed r⟩

end UpdateUser

/-- The request to update that gives what the request to create gives. -/
def CreateUser.toUpdate (r : CreateUser) : UpdateUser := ⟨some r.name, some r.email⟩

theorem CreateUser.toUpdate_validate_ok_iff {r : CreateUser} :
    r.toUpdate.validate = .ok () ↔ r.validate = .ok () := by
  rw [UpdateUser.validate_ok_iff, validate_ok_iff]
  simp [toUpdate]

/-! ### The limit on names -/

/-- The answer is that a name is too long. -/
def SaysTooLong (result : Except RequestError Unit) : Prop :=
  result.mapError RequestError.message = .error "name must be <= 100 chars"

theorem saysTooLong_iff {result : Except RequestError Unit} :
    SaysTooLong result ↔ result = .error .nameTooLong := by
  rw [SaysTooLong, Except.mapError_error_iff]
  constructor
  · rintro ⟨e, rfl, hMessage⟩
    cases e <;> first | rfl | exact absurd hMessage (by decide)
  · rintro rfl
    exact ⟨_, rfl, rfl⟩

theorem CreateUser.saysTooLong_iff (r : CreateUser) :
    SaysTooLong r.validate ↔ isBlankText r.name = false ∧ 100 < r.name.utf8ByteSize := by
  rw [Users.saysTooLong_iff, ← checkName_tooLong_iff .nameRequired nofun, validate,
    Except.bind_error_iff]
  simp [checkEmail_ne_nameTooLong]

theorem UpdateUser.saysTooLong_iff (name : String) (email : Option String) :
    SaysTooLong (UpdateUser.mk (some name) email).validate ↔
      isBlankText name = false ∧ 100 < name.utf8ByteSize := by
  rw [Users.saysTooLong_iff, ← checkName_tooLong_iff .nameEmpty nofun]
  cases email <;> simp [validate, Except.bind_error_iff, checkEmail_ne_nameTooLong]

/-- A name of more than 100 characters has more than 100 octets as well. -/
theorem not_isName_of_long {name : String} (h : 100 < name.length) : ¬IsName name := fun hName =>
  absurd ((length_le_utf8ByteSize name).trans hName.size_le) (Nat.not_le_of_lt h)

/-- A name with one letter over and over. -/
def letterName (n : Nat) (c : Char) : String := String.ofList (List.replicate n c)

theorem letterName_isBlankText {n : Nat} {c : Char} (h : n ≠ 0) (hLetter : isBlank c = false) :
    isBlankText (letterName n c) = false := by
  rw [isBlankText, letterName, String.toList_ofList, List.all_replicate, if_neg h, hLetter]

theorem letterName_length (n : Nat) (c : Char) : (letterName n c).length = n := by
  rw [letterName, String.length_ofList, List.length_replicate]

/-- The limit on names comes to 100 characters for this name: neither request is refused for it as
too long with fewer, and both are refused with more. -/
structure CountsCharacters (name email : String) (other : Option String) : Prop where
  short : isBlankText name = false → name.length ≤ 100 →
    ¬SaysTooLong (CreateUser.mk name email).validate ∧
      ¬SaysTooLong (UpdateUser.mk (some name) other).validate
  long : 100 < name.length →
    (CreateUser.mk name email).validate ≠ .ok () ∧
      (UpdateUser.mk (some name) other).validate ≠ .ok ()

theorem countsCharacters_iff {name email : String} {other : Option String} :
    CountsCharacters name email other ↔
      isBlankText name = true ∨ 100 < name.length ∨ name.utf8ByteSize ≤ 100 := by
  constructor
  · intro h
    by_contra! hOther
    obtain ⟨hBlank, hLength, hSize⟩ := hOther
    replace hBlank := Bool.eq_false_of_not_eq_true hBlank
    exact (h.short hBlank hLength).1 ((CreateUser.saysTooLong_iff _).mpr ⟨hBlank, hSize⟩)
  · intro h
    refine ⟨fun hBlank hLength => ?_, fun hLong => ⟨fun hOk => ?_, fun hOk => ?_⟩⟩
    · have hSize : ¬(isBlankText name = false ∧ 100 < name.utf8ByteSize) := by
        rintro ⟨-, hSize⟩
        rcases h with h | h | h
        · exact Bool.false_ne_true (hBlank.symm.trans h)
        · exact Nat.not_lt_of_le hLength h
        · exact Nat.not_lt_of_le h hSize
      rw [CreateUser.saysTooLong_iff, UpdateUser.saysTooLong_iff]
      exact ⟨hSize, hSize⟩
    · exact not_isName_of_long hLong (CreateUser.validate_ok_iff.mp hOk).1
    · exact not_isName_of_long hLong ((UpdateUser.validate_ok_iff.mp hOk).1 name rfl)

/-- No name of 25 characters is too long, as none of them takes more than four octets.  From 26 on
there is one, up to the names that have to be refused. -/
theorem countsCharacters_of_length_iff {n : Nat} :
    (∀ name email other, name.length = n → CountsCharacters name email other) ↔
      n ≤ 25 ∨ 100 < n := by
  constructor
  · intro hAll
    by_contra! hMany
    have hBlank := letterName_isBlankText (n := n) (c := '𝔸') (by omega) (by decide)
    have hSize : (letterName n '𝔸').utf8ByteSize = n * 4 := utf8ByteSize_replicate n '𝔸'
    have hCounts := hAll (letterName n '𝔸') "" none (letterName_length n '𝔸')
    rw [countsCharacters_iff, hBlank, letterName_length, hSize] at hCounts
    rcases hCounts with h | h | h
    · cases h
    · omega
    · omega
  · intro hFew name email other hLength
    have hSize := utf8ByteSize_le name
    exact countsCharacters_iff.mpr (.inr (by omega))

/-- A name is said to be too long if it has more than 100 octets.  So the limit comes to 100
characters for a name that is ASCII, but not for every name of more than 25 characters. -/
theorem name_limit_counts_octets (name email : String) (other : Option String) :
    (SaysTooLong (CreateUser.mk name email).validate ↔
      isBlankText name = false ∧ 100 < name.utf8ByteSize) ∧
    (SaysTooLong (UpdateUser.mk (some name) other).validate ↔
      isBlankText name = false ∧ 100 < name.utf8ByteSize) ∧
    (CountsCharacters name email other ↔
      isBlankText name = true ∨ 100 < name.length ∨ name.utf8ByteSize ≤ 100) ∧
    ((∀ c ∈ name.toList, c.toNat < 128) → CountsCharacters name email other) ∧
    ∀ n, (∀ name email other, name.length = n → CountsCharacters name email other) ↔
      n ≤ 25 ∨ 100 < n := by
  refine ⟨CreateUser.saysTooLong_iff _, UpdateUser.saysTooLong_iff _ _, countsCharacters_iff,
    fun hAscii => ?_, fun n => countsCharacters_of_length_iff⟩
  have hSize := utf8ByteSize_eq_length_iff.mpr hAscii
  exact countsCharacters_iff.mpr (.inr (by omega))

/-- Of 34 letters that take three octets each it is said that they are more than 100 characters. -/
theorem short_name_said_too_long :
    isBlankText (letterName 34 '山') = false ∧ (letterName 34 '山').length = 34 ∧
      SaysTooLong (CreateUser.mk (letterName 34 '山') "a@x.io").validate ∧
      SaysTooLong (UpdateUser.mk (some (letterName 34 '山')) none).validate := by
  have hBlank : isBlankText (letterName 34 '山') = false :=
    letterName_isBlankText (by decide) (by decide)
  have hSize : (letterName 34 '山').utf8ByteSize = 34 * 3 := utf8ByteSize_replicate 34 '山'
  have hLong : 100 < (letterName 34 '山').utf8ByteSize := by rw [hSize]; decide
  exact ⟨hBlank, letterName_length 34 '山', (CreateUser.saysTooLong_iff _).mpr ⟨hBlank, hLong⟩,
    (UpdateUser.saysTooLong_iff _ _).mpr ⟨hBlank, hLong⟩⟩

end Gatehouse.Users
