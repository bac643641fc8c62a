import BrokerLink.Proofs.OwnFields

/-!
# The first field of some bytes

What a reader finds in front of it, said of the bytes themselves: the text of a field, or one of
three things that are no text.
-/

namespace BrokerLink
namespace Reader

/-- What stands in front of some bytes: a field that is a text, and what follows it, or what is
wrong with it. -/
inductive Leads : List UInt8 → Except ReadFault (String × List UInt8) → Prop
  | nothing : Leads [] (.error .endOfRecord)
  | unterminated {bs : List UInt8} (nonempty : bs ≠ []) (endless : 0 ∉ bs) :
      Leads bs (.error .unterminated)
  | notText {field rest : List UInt8} {fault : Utf8.Fault} (whole : 0 ∉ field)
      (bad : Utf8.decode field = .error fault) :
      Leads (field ++ 0 :: rest) (.error (.notText fault))
  | text {s : String} {rest : List UInt8} (whole : 0 ∉ Utf8.encode s) :
      Leads (Utf8.encode s ++ 0 :: rest) (.ok (s, rest))

theorem splitField_eq_none_iff {bs : List UInt8} : splitField bs = none ↔ 0 ∉ bs := by
  constructor
  · intro h hm
    obtain ⟨field, rest, rfl, hf⟩ := List.eq_append_cons_of_mem hm
    rw [splitField_zero rest hf] at h
    cases h
  · intro hm
    cases h : splitField bs with
    | none => rfl
    | some split =>
      obtain ⟨field, rest⟩ := split
      rw [splitField_eq h] at hm
      exact absurd (List.mem_append_right _ (List.mem_cons_self ..)) hm

theorem Leads.takeField_eq {bs : List UInt8} {r : Except ReadFault (String × List UInt8)}
    (h : Leads bs r) : takeField bs = r := by
  cases h with
  | nothing => rfl
  | unterminated nonempty endless =>
    have hne : bs.isEmpty = false := by simpa using nonempty
    simp only [takeField, hne, splitField_eq_none_iff.mpr endless, Bool.false_eq_true, if_false]
  | @notText field rest fault whole bad =>
    have hne : (field ++ 0 :: rest).isEmpty = false := by simp
    simp only [takeField, hne, splitField_zero rest whole, bad, Bool.false_eq_true, if_false]
  | text whole => exact takeField_encode _ whole

/-- What stands in front of some bytes is what is taken as their first field. -/
theorem leads_takeField (bs : List UInt8) : Leads bs (takeField bs) := by
  by_cases hne : bs = []
  · rw [hne]
    exact .nothing
  · cases hs : splitField bs with
    | none =>
      have h := Leads.unterminated hne (splitField_eq_none_iff.mp hs)
      rwa [← h.takeField_eq] at h
    | some split =>
      obtain ⟨field, rest⟩ := split
      have hwhole := zero_notMem_of_splitField hs
      rw [splitField_eq hs]
      cases hd : Utf8.decode field with
      | error fault =>
        have h := @Leads.notText field rest fault hwhole hd
        rwa [← h.takeField_eq] at h
      | ok text =>
        obtain rfl := Utf8.encode_of_decode hd
        have h := @Leads.text text rest hwhole
        rwa [← h.takeField_eq] at h

end Reader
end BrokerLink
