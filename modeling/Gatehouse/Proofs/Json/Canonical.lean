import Gatehouse.Json.Canonical
import Mathlib.Data.List.Perm.Basic

/-! The canonical form says the same.  Two values say the same where they differ in nothing but the
order of members, at any depth. -/

namespace Gatehouse.Json

/-- The same value, apart from the order of members. -/
inductive Same : Json → Json → Prop
  | refl (j : Json) : Same j j
  | trans {a b c : Json} (first : Same a b) (second : Same b c) : Same a c
  | item {a b : Json} (front back : List Json) (h : Same a b) :
      Same (.list (front ++ a :: back)) (.list (front ++ b :: back))
  | member {a b : Json} (front back : List (String × Json)) (key : String) (h : Same a b) :
      Same (.record (front ++ (key, a) :: back)) (.record (front ++ (key, b) :: back))
  | order {members others : List (String × Json)} (h : members.Perm others) :
      Same (.record members) (.record others)

theorem Same.symm {a b : Json} (h : Same a b) : Same b a := by
  induction h with
  | refl j => exact .refl j
  | trans _ _ ihFirst ihSecond => exact ihSecond.trans ihFirst
  | item front back _ ih => exact .item front back ih
  | member front back key _ ih => exact .member front back key ih
  | order h => exact .order h.symm

theorem Same.eq_int {n : Int} {b : Json} (h : Same (.int n) b) : b = .int n := by
  generalize hNumber : Json.int n = a at h
  induction h with
  | refl => rfl
  | trans _ _ ihFirst ihSecond =>
    obtain rfl := ihFirst hNumber
    exact ihSecond hNumber
  | item | member | order => cases hNumber

/-- A record of one number has no other order. -/
theorem Same.eq_single {key : String} {n : Int} {b : Json}
    (h : Same (.record [(key, .int n)]) b) : b = .record [(key, .int n)] := by
  generalize hRecord : Json.record [(key, .int n)] = a at h
  induction h with
  | refl => rfl
  | trans _ _ ihFirst ihSecond =>
    obtain rfl := ihFirst hRecord
    exact ihSecond hRecord
  | item => cases hRecord
  | member front back name hSame _ =>
    obtain ⟨rfl, hFirst⟩ | ⟨more, -, hEnd⟩ :=
      List.cons_eq_append_iff.mp (Json.record.inj hRecord)
    · cases hFirst
      rw [hSame.eq_int]
    · simp at hEnd
  | order hOrder =>
    cases hRecord
    rw [List.singleton_perm.mp hOrder]

mutual

theorem same_canonical : (j : Json) → Same j j.canonical
  | .null => .refl _
  | .bool _ => .refl _
  | .int _ => .refl _
  | .text _ => .refl _
  | .list items => same_canonicalItems [] items
  | .record members => by
    have hSorted : (canonicalMembers members).Perm
        ((canonicalMembers members).mergeSort (fun a b => a.1 ≤ b.1)) :=
      (List.mergeSort_perm _ _).symm
    exact (same_canonicalMembers [] members).trans (.order hSorted)

theorem same_canonicalItems (front : List Json) :
    (items : List Json) → Same (.list (front ++ items)) (.list (front ++ canonicalItems items))
  | [] => .refl _
  | item :: items => by
    have hItem := Same.item front items (same_canonical item)
    have hItems := same_canonicalItems (front ++ [item.canonical]) items
    rw [List.append_assoc, List.append_assoc] at hItems
    exact hItem.trans hItems

theorem same_canonicalMembers (front : List (String × Json)) :
    (members : List (String × Json)) →
      Same (.record (front ++ members)) (.record (front ++ canonicalMembers members))
  | [] => .refl _
  | (key, value) :: members => by
    have hMember := Same.member front members key (same_canonical value)
    have hMembers := same_canonicalMembers (front ++ [(key, value.canonical)]) members
    rw [List.append_assoc, List.append_assoc] at hMembers
    exact hMember.trans hMembers

end

theorem same_of_canonical_eq {a b : Json} (h : a.canonical = b.canonical) : Same a b :=
  (same_canonical a).trans (h ▸ (same_canonical b).symm)

end Gatehouse.Json
