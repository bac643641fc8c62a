import BrokerLink.Proofs.WrittenValue

/-!
# Texts of numbers hold no zero character

Every character that a parser of numbers passes over is a digit, a sign, a point, a separator, an
exponent mark or a letter of a word. A zero character is none of them, so that a text with one is
refused: whatever text spells a number, a field can hold it.
-/

namespace BrokerLink

namespace Numeral

theorem digit?_zero : digit? '\x00' = none := by decide

theorem zero_notMem_of_map_magnitude {limit : Nat} {beyond : WholeFault} {f : Nat → Int} {n : Int}
    {cs : List Char} (h : (magnitude limit beyond cs).map f = .ok n) : '\x00' ∉ cs :=
  zero_notMem_of_isDigit (magnitude_map_eq_ok_iff.mp h).2.1

theorem zero_notMem_of_whole {lo hi n : Int} {cs : List Char} (h : whole lo hi cs = .ok n) :
    '\x00' ∉ cs := by
  unfold whole at h
  split at h
  · split at h
    · rw [map_neg_natCast] at h
      exact List.not_mem_cons_of_ne_of_not_mem (by decide) (zero_notMem_of_map_magnitude h)
    · cases h
  · exact List.not_mem_cons_of_ne_of_not_mem (by decide) (zero_notMem_of_map_magnitude h)
  · exact zero_notMem_of_map_magnitude h

/-- Of every width, with and without a sign. -/
theorem zero_notMem_of_map_whole {α : Type} {f : Int → α} {lo hi : Int} {a : α} {cs : List Char}
    (h : (whole lo hi cs).map f = .ok a) : '\x00' ∉ cs := by
  cases hw : whole lo hi cs with
  | error fault =>
    rw [hw] at h
    cases h
  | ok n => exact zero_notMem_of_whole hw

end Numeral

open Numeral

namespace Binary64

/-- What stands before the first character that is no digit are digits. -/
theorem zero_notMem_spanDigits_fst (cs : List Char) : '\x00' ∉ (spanDigits cs).1 := by
  induction cs with
  | nil => exact List.not_mem_nil
  | cons c cs ih =>
    unfold spanDigits
    split
    · rename_i hc
      refine List.not_mem_cons_of_ne_of_not_mem ?_ ih
      rintro rfl
      rw [isDigit_zero] at hc
      cases hc
    · exact List.not_mem_nil

/-- A zero character stands behind the digits. -/
theorem zero_notMem_of_spanDigits {cs : List Char} (h : '\x00' ∉ (spanDigits cs).2) :
    '\x00' ∉ cs := by
  rw [← spanDigits_append cs, List.mem_append, not_or]
  exact ⟨zero_notMem_spanDigits_fst cs, h⟩

theorem zero_notMem_of_natural? {cs : List Char} {n : Nat} (h : natural? cs = some n) :
    '\x00' ∉ cs := by
  unfold natural? at h
  split at h
  · rename_i d ds hs
    refine zero_notMem_of_spanDigits ?_
    rw [hs]
    exact List.not_mem_nil
  · cases h

theorem zero_notMem_of_exponent? {cs : List Char} {e : Int} (h : exponent? cs = some e) :
    '\x00' ∉ cs := by
  unfold exponent? at h
  split at h
  · exact List.not_mem_nil
  · rename_i c cs
    split at h
    · rename_i hc
      refine List.not_mem_cons_of_ne_of_not_mem ?_ ?_
      · rintro rfl
        exact absurd hc (by decide)
      · split at h
        · rename_i ds
          cases hn : natural? ds with
          | none =>
            rw [hn] at h
            cases h
          | some n =>
            exact List.not_mem_cons_of_ne_of_not_mem (by decide) (zero_notMem_of_natural? hn)
        · obtain ⟨n, hn, -⟩ := Option.map_eq_some_iff.mp h
          exact List.not_mem_cons_of_ne_of_not_mem (by decide) (zero_notMem_of_natural? hn)
        · obtain ⟨n, hn, -⟩ := Option.map_eq_some_iff.mp h
          exact zero_notMem_of_natural? hn
    · cases h

theorem zero_notMem_of_scaled? {cs : List Char} {s : Nat × Int} (h : scaled? cs = some s) :
    '\x00' ∉ cs := by
  refine zero_notMem_of_spanDigits ?_
  unfold scaled? at h
  dsimp only at h
  split at h
  · rename_i more hrest
    rw [hrest]
    split at h
    · cases h
    · obtain ⟨e, he, -⟩ := Option.map_eq_some_iff.mp h
      exact List.not_mem_cons_of_ne_of_not_mem (by decide)
        (zero_notMem_of_spanDigits (zero_notMem_of_exponent? he))
  · split at h
    · cases h
    · obtain ⟨e, he, -⟩ := Option.map_eq_some_iff.mp h
      exact zero_notMem_of_exponent? he

theorem zero_notMem_of_readMagnitude {cs : List Char} {m : Nat} (h : readMagnitude cs = some m) :
    '\x00' ∉ cs := by
  have hword (w : List Char) (hw : '\x00' ∉ w) (he : cs.map Char.toLower = w) : '\x00' ∉ cs := by
    intro hz
    have hlower := List.mem_map_of_mem (f := Char.toLower) hz
    rw [he] at hlower
    exact hw hlower
  simp only [readMagnitude] at h
  split at h
  · rename_i hw
    rcases hw with hw | hw
    · exact hword _ (by decide) hw
    · exact hword _ (by decide) hw
  · split at h
    · rename_i hw
      exact hword _ (by decide) hw
    · obtain ⟨s, hs, -⟩ := Option.map_eq_some_iff.mp h
      exact zero_notMem_of_scaled? hs

theorem zero_notMem_of_read {cs : List Char} {x : Binary64} (h : read cs = some x) :
    '\x00' ∉ cs := by
  unfold read at h
  split at h
  all_goals
    obtain ⟨m, hm, -⟩ := Option.map_eq_some_iff.mp h
    have hz := zero_notMem_of_readMagnitude hm
  · exact List.not_mem_cons_of_ne_of_not_mem (by decide) hz
  · exact List.not_mem_cons_of_ne_of_not_mem (by decide) hz
  · exact hz

end Binary64

namespace Decimal

theorem zero_notMem_of_checkRest {cs : List Char} (h : checkRest cs = .ok ()) : '\x00' ∉ cs := by
  induction cs with
  | nil => exact List.not_mem_nil
  | cons c cs ih =>
    unfold checkRest at h
    split at h
    · rename_i hc
      refine List.not_mem_cons_of_ne_of_not_mem ?_ (ih h)
      rintro rfl
      exact absurd hc (by decide)
    · cases h

theorem zero_notMem_of_roundAt {d r : Decimal} {next : Nat} {cs : List Char}
    (h : roundAt d next cs = .ok r) : '\x00' ∉ cs := by
  cases hc : checkRest cs with
  | error fault =>
    unfold roundAt at h
    rw [hc] at h
    split at h
    · cases hi : increment d with
      | error fault =>
        rw [hi] at h
        cases h
      | ok rounded =>
        rw [hi] at h
        cases h
    · cases h
  | ok u => exact zero_notMem_of_checkRest hc

/-- A zero character ends the scan wherever it stands. -/
theorem zero_notMem_of_scanPlain {s : Scan} {d : Decimal} {cs : List Char}
    (h : scanPlain s cs = .ok d) : '\x00' ∉ cs := by
  induction cs generalizing s with
  | nil => exact List.not_mem_nil
  | cons c cs ih =>
    have hc : c ≠ '\x00' := by
      rintro rfl
      unfold scanPlain at h
      simp only [digit?_zero] at h
      split at h <;> cases h
    refine List.not_mem_cons_of_ne_of_not_mem hc.symm ?_
    unfold scanPlain at h
    split at h
    · split at h
      · exact zero_notMem_of_roundAt h
      · split at h
        · split at h
          · exact ih h
          · exact zero_notMem_of_roundAt h
        · cases h
    · split at h
      · split at h
        · split at h
          · exact ih h
          · exact ih h
        · split at h
          · exact zero_notMem_of_roundAt h
          · cases h
      · split at h
        · exact ih h
        · split at h
          · exact ih h
          · cases h

theorem zero_notMem_of_readPlain {d : Decimal} {cs : List Char} (h : readPlain cs = .ok d) :
    '\x00' ∉ cs := by
  unfold readPlain at h
  split at h
  · cases h
  · exact List.not_mem_cons_of_ne_of_not_mem (by decide) (zero_notMem_of_scanPlain h)
  · exact List.not_mem_cons_of_ne_of_not_mem (by decide) (zero_notMem_of_scanPlain h)
  · exact zero_notMem_of_scanPlain h

/-- The mark stands between the two parts. -/
theorem zero_notMem_of_splitExponent {cs base mark : List Char}
    (h : splitExponent cs = some (base, mark)) (hb : '\x00' ∉ base) (hm : '\x00' ∉ mark) :
    '\x00' ∉ cs := by
  induction cs generalizing base with
  | nil => exact List.not_mem_nil
  | cons c cs ih =>
    unfold splitExponent at h
    split at h
    · rename_i hc
      cases h
      refine List.not_mem_cons_of_ne_of_not_mem ?_ hm
      rintro rfl
      exact absurd hc (by decide)
    · obtain ⟨⟨base', mark'⟩, hs, he⟩ := Option.map_eq_some_iff.mp h
      cases he
      rw [List.mem_cons, not_or] at hb
      exact List.not_mem_cons_of_ne_of_not_mem hb.1 (ih hs hb.2)

theorem zero_notMem_of_readScientific {rounding : Bool} {d : Decimal} {cs : List Char}
    (h : readScientific rounding cs = .ok d) : '\x00' ∉ cs := by
  unfold readScientific at h
  split at h
  · cases h
  · rename_i base mark hs
    simp only [bind, Except.bind] at h
    split at h
    · cases h
    · rename_i value hbase
      refine zero_notMem_of_splitExponent hs (zero_notMem_of_readPlain hbase) ?_
      split at h
      · split at h
        · cases h
        · rename_i e he
          exact List.not_mem_cons_of_ne_of_not_mem (by decide) (zero_notMem_of_map_whole he)
      · split at h
        · cases h
        · rename_i e he
          exact zero_notMem_of_map_whole he

theorem zero_notMem_of_read {d : Decimal} {cs : List Char} (h : read cs = .ok d) :
    '\x00' ∉ cs := by
  unfold read at h
  split at h
  · rename_i hp
    exact zero_notMem_of_readPlain hp
  · split at h
    · rename_i hs
      exact zero_notMem_of_readScientific hs
    · exact zero_notMem_of_readScientific h

end Decimal

namespace Reader

variable {α : Type} {parse : String → Except ReadFault α} {empty a : α} {s : String}

/-- The empty text holds no character at all. -/
theorem zero_notMem_of_orEmpty (hp : ∀ a, parse s = .ok a → '\x00' ∉ s.toList)
    (h : orEmpty empty parse s = .ok a) : '\x00' ∉ s.toList := by
  unfold orEmpty at h
  split at h
  · rename_i he
    rw [String.isEmpty_iff.mp he]
    exact List.not_mem_nil
  · exact hp a h

theorem zero_notMem_of_mapError {ε : Type} {m : Except ε α} {f : ε → ReadFault}
    {p : Prop} (hm : ∀ a, m = .ok a → p) (h : m.mapError f = .ok a) : p := by
  cases m with
  | error fault => cases h
  | ok b => exact hm b rfl

end Reader
end BrokerLink
