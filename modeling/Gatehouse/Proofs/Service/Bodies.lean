import Gatehouse.Proofs.Json.Members
import Gatehouse.Token.Request
import Gatehouse.Users.Request

/-! The bodies of requests.  A request is read from a record that gives each field it must have
once, each other field at most once, and beside them whatever is well formed, or from the list of
its fields in order; and it is read from nothing else. -/

namespace Gatehouse.Service

open Json Users
open Gatehouse.Token (IssueTokens)

/-! ### The grammar of bodies -/

/-- The values of a field that must be there. -/
def Required {α : Type} (P : α → List UInt8 → Prop) (a : α) (texts : List (List UInt8)) : Prop :=
  ∃ text, texts = [text] ∧ P a text

/-- A value that may be null. -/
def Nullable {α : Type} (P : α → List UInt8 → Prop) : Option α → List UInt8 → Prop
  | some a, octets => P a octets
  | none, octets => octets = nullText

/-- The values of a field that may be left out. -/
def Optional {α : Type} (P : α → List UInt8 → Prop) (a : Option α) (texts : List (List UInt8)) :
    Prop :=
  (texts = [] ∧ a = none) ∨ Required (Nullable P) a texts

/-- An unsigned number of 32 bits in plain digits. -/
def WordText (n : UInt32) (text : List UInt8) : Prop := text = decimal n.toNat

/-- A record of members that are well formed. -/
def RecordText (members : List (String × List UInt8)) (text : List UInt8) : Prop :=
  Enclosed .record Member members text ∧ ∀ m ∈ members, WellFormed .value m.2

/-- A list of values as they are written. -/
def ListText (texts : List (List UInt8)) (text : List UInt8) : Prop := Enclosed .list Eq texts text

inductive CreateUserText (r : CreateUser) (text : List UInt8) : Prop
  | record {members : List (String × List UInt8)} (hText : RecordText members text)
      (hName : Required Quoted r.name (valuesAt "name" members))
      (hEmail : Required Quoted r.email (valuesAt "email" members))
  | list {name email : List UInt8} (hText : ListText [name, email] text)
      (hName : Quoted r.name name) (hEmail : Quoted r.email email)

inductive UpdateUserText (r : UpdateUser) (text : List UInt8) : Prop
  | record {members : List (String × List UInt8)} (hText : RecordText members text)
      (hName : Optional Quoted r.name (valuesAt "name" members))
      (hEmail : Optional Quoted r.email (valuesAt "email" members))
  | list {name email : List UInt8} (hText : ListText [name, email] text)
      (hName : Nullable Quoted r.name name) (hEmail : Nullable Quoted r.email email)

inductive IssueTokensText (r : IssueTokens) (text : List UInt8) : Prop
  | record {members : List (String × List UInt8)} (hText : RecordText members text)
      (hUser : Required WordText r.user (valuesAt "user_id" members))
      (hEmail : Required Quoted r.email (valuesAt "email" members))
      (hName : Required Quoted r.name (valuesAt "name" members))
      (hRoles : Optional (Enclosed .list Quoted) r.roles (valuesAt "roles" members))
  | list {user email name roles : List UInt8} (hText : ListText [user, email, name, roles] text)
      (hUser : WordText r.user user) (hEmail : Quoted r.email email) (hName : Quoted r.name name)
      (hRoles : Nullable (Enclosed .list Quoted) r.roles roles)
  | cut {user email name : List UInt8} (hText : ListText [user, email, name] text)
      (hUser : WordText r.user user) (hEmail : Quoted r.email email) (hName : Quoted r.name name)
      (hRoles : r.roles = none)

/-! ### What fields give -/

section Views

variable {α : Type} {P : α → List UInt8 → Prop} {kind : FieldKind}
  {view : Option FieldValue → Option α} {texts : List (List UInt8)}

theorem required_iff (hNone : view none = none)
    (hView : ∀ a text, P a text ↔ ∃ v, FieldText kind v text ∧ view (some v) = some a) (a : α) :
    Required P a texts ↔ ∃ found, Adds kind texts none found ∧ view found = some a := by
  constructor
  · rintro ⟨text, rfl, hText⟩
    obtain ⟨v, hValue, hSeen⟩ := (hView a text).mp hText
    exact ⟨_, .once hValue, hSeen⟩
  · rintro ⟨found, hAdds, hSeen⟩
    cases hAdds with
    | nothing =>
      rw [hNone] at hSeen
      cases hSeen
    | once hValue => exact ⟨_, rfl, (hView a _).mpr ⟨_, hValue, hSeen⟩⟩

theorem optional_iff (hNone : view none = none)
    (hView : ∀ a text, Nullable P a text ↔ ∃ v, FieldText kind v text ∧ view (some v) = a)
    (a : Option α) :
    Optional P a texts ↔ ∃ found, Adds kind texts none found ∧ view found = a := by
  constructor
  · rintro (⟨rfl, rfl⟩ | ⟨text, rfl, hText⟩)
    · exact ⟨none, .nothing _, hNone⟩
    · obtain ⟨v, hValue, hSeen⟩ := (hView a text).mp hText
      exact ⟨_, .once hValue, hSeen⟩
  · rintro ⟨found, hAdds, rfl⟩
    cases hAdds with
    | nothing => exact .inl ⟨rfl, hNone⟩
    | once hValue => exact .inr ⟨_, rfl, (hView _ _).mpr ⟨_, hValue, rfl⟩⟩

end Views

open UpdateUser (textOf?)
open Gatehouse.Token.IssueTokens (rolesOf?)

/-- The number in a member, if there is one. -/
def wordOf? : Option FieldValue → Option UInt32
  | some (.number n) => some n
  | _ => none

theorem quoted_iff (s : String) (text : List UInt8) :
    Quoted s text ↔ ∃ v, FieldText .text v text ∧ textOf? (some v) = some s := by
  constructor
  · intro h
    exact ⟨_, .text h, rfl⟩
  · rintro ⟨v, ⟨h⟩, hSeen⟩
    cases hSeen
    exact h

theorem wordText_iff (n : UInt32) (text : List UInt8) :
    WordText n text ↔ ∃ v, FieldText .word32 v text ∧ wordOf? (some v) = some n := by
  constructor
  · rintro rfl
    exact ⟨_, .word32 n, rfl⟩
  · rintro ⟨v, ⟨⟩, hSeen⟩
    cases hSeen
    rfl

theorem nullable_quoted_iff (s : Option String) (text : List UInt8) :
    Nullable Quoted s text ↔ ∃ v, FieldText .textOrNull v text ∧ textOf? (some v) = s := by
  constructor
  · intro h
    cases s with
    | none =>
      obtain rfl : text = nullText := h
      exact ⟨_, .noText, rfl⟩
    | some s => exact ⟨_, .textOrNull h, rfl⟩
  · rintro ⟨v, hValue, rfl⟩
    cases hValue with
    | textOrNull h => exact h
    | noText => rfl

theorem nullable_texts_iff (items : Option (List String)) (text : List UInt8) :
    Nullable (Enclosed .list Quoted) items text ↔
      ∃ v, FieldText .textsOrNull v text ∧ rolesOf? (some v) = items := by
  constructor
  · intro h
    cases items with
    | none =>
      obtain rfl : text = nullText := h
      exact ⟨_, .noTexts, rfl⟩
    | some items => exact ⟨_, .texts h, rfl⟩
  · rintro ⟨v, hValue, rfl⟩
    cases hValue with
    | texts h => exact h
    | noTexts => rfl

/-! ### What requests are built from -/

theorem textOf?_eq_some_iff {found : Option FieldValue} {s : String} :
    textOf? found = some s ↔ found = some (.text s) := by
  unfold textOf?
  split <;> simp_all

theorem wordOf?_eq_some_iff {found : Option FieldValue} {n : UInt32} :
    wordOf? found = some n ↔ found = some (.number n) := by
  unfold wordOf?
  split <;> simp_all

theorem createUser_build?_iff {found : Members} {r : CreateUser} :
    CreateUser.shape.build? found = some r ↔
      textOf? (found.lookup "name") = some r.name ∧
        textOf? (found.lookup "email") = some r.email := by
  obtain ⟨name, email⟩ := r
  rw [textOf?_eq_some_iff, textOf?_eq_some_iff]
  simp only [CreateUser.shape]
  split
  · rename_i hName hEmail
    simp [hName, hEmail]
  · rename_i hOther
    exact ⟨nofun, fun ⟨hName, hEmail⟩ => (hOther name email hName hEmail).elim⟩

theorem updateUser_build?_iff {found : Members} {r : UpdateUser} :
    UpdateUser.shape.build? found = some r ↔
      textOf? (found.lookup "name") = r.name ∧ textOf? (found.lookup "email") = r.email := by
  obtain ⟨name, email⟩ := r
  simp [UpdateUser.shape]

theorem issueTokens_build?_iff {found : Members} {r : IssueTokens} :
    IssueTokens.shape.build? found = some r ↔
      wordOf? (found.lookup "user_id") = some r.user ∧
        textOf? (found.lookup "email") = some r.email ∧
        textOf? (found.lookup "name") = some r.name ∧
        rolesOf? (found.lookup "roles") = r.roles := by
  obtain ⟨user, email, name, roles⟩ := r
  rw [textOf?_eq_some_iff, textOf?_eq_some_iff, wordOf?_eq_some_iff]
  simp only [IssueTokens.shape]
  split
  · rename_i hUser hEmail hName
    simp [hUser, hEmail, hName]
  · rename_i hOther
    exact ⟨nofun, fun ⟨hUser, hEmail, hName, _⟩ => (hOther user email name hUser hEmail hName).elim⟩

/-! ### Texts of requests -/

theorem createUserText_iff {r : CreateUser} {text : List UInt8} :
    CreateUserText r text ↔
      ∃ found, Gives CreateUser.shape.fields found text ∧
        CreateUser.shape.build? found = some r := by
  constructor
  · intro h
    cases h with
    | @record members hText hName hEmail =>
      obtain ⟨name, hNameAdds, hName⟩ := (required_iff rfl quoted_iff _).mp hName
      obtain ⟨email, hEmailAdds, hEmail⟩ := (required_iff rfl quoted_iff _).mp hEmail
      obtain ⟨found, hAll⟩ : ∃ found, TakesAll CreateUser.shape.fields [] members found :=
        exists_takesAll hText.2 (by simpa [CreateUser.shape] using ⟨⟨_, hNameAdds⟩, _, hEmailAdds⟩)
      refine ⟨found, .record hText.1 hAll, createUser_build?_iff.mpr ⟨?_, ?_⟩⟩
      · rw [(hAll.adds "name" rfl).unique hNameAdds, hName]
      · rw [(hAll.adds "email" rfl).unique hEmailAdds, hEmail]
    | list hText hName hEmail =>
      exact ⟨_, .list hText (.next (.text hName) (.next (.text hEmail) (.cut rfl))), rfl⟩
  · rintro ⟨found, hGives, hBuild⟩
    obtain ⟨hName, hEmail⟩ := createUser_build?_iff.mp hBuild
    cases hGives with
    | record hText hAll =>
      exact .record ⟨hText, hAll.wellFormed⟩
        ((required_iff rfl quoted_iff _).mpr ⟨_, hAll.adds "name" rfl, hName⟩)
        ((required_iff rfl quoted_iff _).mpr ⟨_, hAll.adds "email" rfl, hEmail⟩)
    | list hText hAll =>
      obtain hCut | ⟨hFirst, hCut | ⟨hSecond, hEnd⟩⟩ := hAll
      · cases hCut
      · cases hCut
      · obtain ⟨⟩ := hEnd
        exact .list hText ((quoted_iff _ _).mpr ⟨_, hFirst, hName⟩)
          ((quoted_iff _ _).mpr ⟨_, hSecond, hEmail⟩)

theorem updateUserText_iff {r : UpdateUser} {text : List UInt8} :
    UpdateUserText r text ↔
      ∃ found, Gives UpdateUser.shape.fields found text ∧
        UpdateUser.shape.build? found = some r := by
  constructor
  · intro h
    cases h with
    | @record members hText hName hEmail =>
      obtain ⟨name, hNameAdds, hName⟩ := (optional_iff rfl nullable_quoted_iff _).mp hName
      obtain ⟨email, hEmailAdds, hEmail⟩ := (optional_iff rfl nullable_quoted_iff _).mp hEmail
      obtain ⟨found, hAll⟩ : ∃ found, TakesAll UpdateUser.shape.fields [] members found :=
        exists_takesAll hText.2 (by simpa [UpdateUser.shape] using ⟨⟨_, hNameAdds⟩, _, hEmailAdds⟩)
      refine ⟨found, .record hText.1 hAll, updateUser_build?_iff.mpr ⟨?_, ?_⟩⟩
      · rw [(hAll.adds "name" rfl).unique hNameAdds, hName]
      · rw [(hAll.adds "email" rfl).unique hEmailAdds, hEmail]
    | list hText hName hEmail =>
      obtain ⟨name, hFirst, hName⟩ := (nullable_quoted_iff _ _).mp hName
      obtain ⟨email, hSecond, hEmail⟩ := (nullable_quoted_iff _ _).mp hEmail
      exact ⟨_, .list hText (.next hFirst (.next hSecond (.cut rfl))),
        updateUser_build?_iff.mpr ⟨hName, hEmail⟩⟩
  · rintro ⟨found, hGives, hBuild⟩
    obtain ⟨hName, hEmail⟩ := updateUser_build?_iff.mp hBuild
    cases hGives with
    | record hText hAll =>
      exact .record ⟨hText, hAll.wellFormed⟩
        ((optional_iff rfl nullable_quoted_iff _).mpr ⟨_, hAll.adds "name" rfl, hName⟩)
        ((optional_iff rfl nullable_quoted_iff _).mpr ⟨_, hAll.adds "email" rfl, hEmail⟩)
    | list hText hAll =>
      obtain hCut | ⟨hFirst, hCut | ⟨hSecond, hEnd⟩⟩ := hAll
      · cases hCut
      · cases hCut
      · obtain ⟨⟩ := hEnd
        exact .list hText ((nullable_quoted_iff _ _).mpr ⟨_, hFirst, hName⟩)
          ((nullable_quoted_iff _ _).mpr ⟨_, hSecond, hEmail⟩)

theorem issueTokensText_iff {r : IssueTokens} {text : List UInt8} :
    IssueTokensText r text ↔
      ∃ found, Gives IssueTokens.shape.fields found text ∧
        IssueTokens.shape.build? found = some r := by
  constructor
  · intro h
    cases h with
    | @record members hText hUser hEmail hName hRoles =>
      obtain ⟨user, hUserAdds, hUser⟩ := (required_iff rfl wordText_iff _).mp hUser
      obtain ⟨email, hEmailAdds, hEmail⟩ := (required_iff rfl quoted_iff _).mp hEmail
      obtain ⟨name, hNameAdds, hName⟩ := (required_iff rfl quoted_iff _).mp hName
      obtain ⟨roles, hRolesAdds, hRoles⟩ := (optional_iff rfl nullable_texts_iff _).mp hRoles
      obtain ⟨found, hAll⟩ : ∃ found, TakesAll IssueTokens.shape.fields [] members found :=
        exists_takesAll hText.2 (by
          simpa [IssueTokens.shape] using
            ⟨⟨_, hUserAdds⟩, ⟨_, hEmailAdds⟩, ⟨_, hNameAdds⟩, _, hRolesAdds⟩)
      refine ⟨found, .record hText.1 hAll, issueTokens_build?_iff.mpr ⟨?_, ?_, ?_, ?_⟩⟩
      · rw [(hAll.adds "user_id" rfl).unique hUserAdds, hUser]
      · rw [(hAll.adds "email" rfl).unique hEmailAdds, hEmail]
      · rw [(hAll.adds "name" rfl).unique hNameAdds, hName]
      · rw [(hAll.adds "roles" rfl).unique hRolesAdds, hRoles]
    | list hText hUser hEmail hName hRoles =>
      obtain ⟨user, hFirst, hUser⟩ := (wordText_iff _ _).mp hUser
      obtain ⟨roles, hLast, hRoles⟩ := (nullable_texts_iff _ _).mp hRoles
      exact ⟨_, .list hText (.next hFirst (.next (.text hEmail) (.next (.text hName)
          (.next hLast (.cut rfl))))),
        issueTokens_build?_iff.mpr ⟨hUser, rfl, rfl, hRoles⟩⟩
    | cut hText hUser hEmail hName hRoles =>
      obtain ⟨user, hFirst, hUser⟩ := (wordText_iff _ _).mp hUser
      exact ⟨_, .list hText (.next hFirst (.next (.text hEmail) (.next (.text hName) (.cut rfl)))),
        issueTokens_build?_iff.mpr ⟨hUser, rfl, rfl, hRoles.symm⟩⟩
  · rintro ⟨found, hGives, hBuild⟩
    obtain ⟨hUser, hEmail, hName, hRoles⟩ := issueTokens_build?_iff.mp hBuild
    cases hGives with
    | record hText hAll =>
      exact .record ⟨hText, hAll.wellFormed⟩
        ((required_iff rfl wordText_iff _).mpr ⟨_, hAll.adds "user_id" rfl, hUser⟩)
        ((required_iff rfl quoted_iff _).mpr ⟨_, hAll.adds "email" rfl, hEmail⟩)
        ((required_iff rfl quoted_iff _).mpr ⟨_, hAll.adds "name" rfl, hName⟩)
        ((optional_iff rfl nullable_texts_iff _).mpr ⟨_, hAll.adds "roles" rfl, hRoles⟩)
    | list hText hAll =>
      obtain hCut | ⟨hFirst, hCut | ⟨hSecond, hCut | ⟨hThird, hCut | ⟨hLast, hEnd⟩⟩⟩⟩ := hAll
      · cases hCut
      · cases hCut
      · cases hCut
      · exact .cut hText ((wordText_iff _ _).mpr ⟨_, hFirst, hUser⟩)
          ((quoted_iff _ _).mpr ⟨_, hSecond, hEmail⟩) ((quoted_iff _ _).mpr ⟨_, hThird, hName⟩)
          hRoles.symm
      · obtain ⟨⟩ := hEnd
        exact .list hText ((wordText_iff _ _).mpr ⟨_, hFirst, hUser⟩)
          ((quoted_iff _ _).mpr ⟨_, hSecond, hEmail⟩) ((quoted_iff _ _).mpr ⟨_, hThird, hName⟩)
          ((nullable_texts_iff _ _).mpr ⟨_, hLast, hRoles⟩)

/-- Bodies are accepted exactly by their grammar, as the requests that they denote. -/
theorem bodies_accepted (bytes : List UInt8) :
    (∀ r, CreateUser.shape.read bytes = .ok r ↔ Alone (CreateUserText r) bytes) ∧
      (∀ r, UpdateUser.shape.read bytes = .ok r ↔ Alone (UpdateUserText r) bytes) ∧
      (∀ r, IssueTokens.shape.read bytes = .ok r ↔ Alone (IssueTokensText r) bytes) := by
  refine ⟨fun r => ?_, fun r => ?_, fun r => ?_⟩ <;> rw [read_eq_ok_iff]
  · exact alone_congr fun _ => createUserText_iff.symm
  · exact alone_congr fun _ => updateUserText_iff.symm
  · exact alone_congr fun _ => issueTokensText_iff.symm

end Gatehouse.Service
