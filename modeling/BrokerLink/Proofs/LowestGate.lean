import BrokerLink.Proofs.Gating
import BrokerLink.Proofs.UnsetInOrders

/-!
# The feature that is reported

The rows of the table of features stand in the order of their versions. So the first row that an
order uses and a server lacks, which is the one that is reported, is also the lowest of them: as
servers get newer the reported row can only move on, and a server of just the version that it names
has the feature.
-/

namespace BrokerLink

namespace OrderGate

variable {version version' : Version} {c : Contract} {o : Order} {g g' : OrderGate}

/-- The order uses the feature, and the server is too old for it. -/
def IsUnmet (version : Version) (c : Contract) (o : Order) (g : OrderGate) : Prop :=
  g.uses c o = true ∧ version < g.since

theorem isUnmet_iff : (!version.supports g.since && g.uses c o) = true ↔ g.IsUnmet version c o := by
  rw [Bool.and_eq_true, Bool.not_eq_true', Version.supports, decide_eq_false_iff_not, Int.not_le,
    and_comm]
  rfl

/-- Of the rows of the table that are not met the one with the smallest version, and of several such
rows the first. -/
structure IsLowest (version : Version) (c : Contract) (o : Order) (g : OrderGate) : Prop where
  unmet : g.IsUnmet version c o
  least : ∀ g' ∈ all, g'.IsUnmet version c o → g.since ≤ g'.since
  first : ∃ before after, all = before ++ g :: after ∧
    ∀ g' ∈ before, g'.IsUnmet version c o → g'.since ≠ g.since

/-- The table is sorted by version. -/
theorem sorted : all.Pairwise fun g g' => g.since ≤ g'.since := by decide

theorem since_le_of_before {before after : List OrderGate} (h : all = before ++ g :: after) :
    ∀ g' ∈ before, g'.since ≤ g.since := by
  have hs := sorted
  rw [h, List.pairwise_append] at hs
  exact fun g' hg' => hs.2.2 g' hg' g List.mem_cons_self

theorem since_le_of_after {before after : List OrderGate} (h : all = before ++ g :: after) :
    ∀ g' ∈ after, g.since ≤ g'.since := by
  have hs := sorted
  rw [h, List.pairwise_append, List.pairwise_cons] at hs
  exact hs.2.1.1

theorem firstUnmet_eq_none_iff :
    firstUnmet version c o = none ↔ ∀ g ∈ all, g.uses c o = true → g.since ≤ version := by
  rw [firstUnmet, List.find?_eq_none]
  refine forall₂_congr fun g _ => ?_
  rw [isUnmet_iff, IsUnmet, not_and, Int.not_lt]

theorem isLowest_of_firstUnmet (h : firstUnmet version c o = some g) : g.IsLowest version c o := by
  obtain ⟨hg, before, after, hall, hmet⟩ := List.find?_eq_some_iff_append.mp h
  have hbefore : ∀ g' ∈ before, ¬g'.IsUnmet version c o := by
    intro g' hg' hu
    have hrow := hmet g' hg'
    rw [isUnmet_iff.mpr hu] at hrow
    cases hrow
  refine ⟨isUnmet_iff.mp hg, ?_, before, after, hall, fun g' hg' hu => absurd hu (hbefore g' hg')⟩
  intro g' hg' hu
  rw [hall, List.mem_append, List.mem_cons] at hg'
  rcases hg' with hg' | rfl | hg'
  · exact absurd hu (hbefore g' hg')
  · exact Int.le_refl _
  · exact since_le_of_after hall g' hg'

theorem firstUnmet_of_isLowest (h : g.IsLowest version c o) : firstUnmet version c o = some g := by
  obtain ⟨before, after, hall, hfirst⟩ := h.first
  refine List.find?_eq_some_iff_append.mpr ⟨isUnmet_iff.mpr h.unmet, before, after, hall, ?_⟩
  intro g' hg'
  rw [Bool.not_eq_true', ← Bool.not_eq_true, isUnmet_iff]
  intro hu
  have hmem : g' ∈ all := by
    rw [hall]
    exact List.mem_append_left _ hg'
  have hge := h.least g' hmem hu
  have hle := since_le_of_before hall g' hg'
  exact hfirst g' hg' hu (Int.le_antisymm hle hge)

/-- What is reported is the lowest row that is not met. -/
theorem firstUnmet_eq_some_iff : firstUnmet version c o = some g ↔ g.IsLowest version c o :=
  ⟨isLowest_of_firstUnmet, firstUnmet_of_isLowest⟩

/-! ### Newer servers -/

theorem IsUnmet.older (hv : version ≤ version') (h : g.IsUnmet version' c o) :
    g.IsUnmet version c o := ⟨h.1, Int.lt_of_le_of_lt hv h.2⟩

theorem firstUnmet_none_mono (hv : version ≤ version') (h : firstUnmet version c o = none) :
    firstUnmet version' c o = none := by
  rw [firstUnmet_eq_none_iff] at h ⊢
  exact fun g hg hu => Int.le_trans (h g hg hu) hv

theorem IsLowest.mem (h : g.IsLowest version c o) : g ∈ all := by
  obtain ⟨before, after, hall, -⟩ := h.first
  rw [hall]
  exact List.mem_append_right _ List.mem_cons_self

theorem IsLowest.since_mono (hv : version ≤ version') (h : g.IsLowest version c o)
    (h' : g'.IsLowest version' c o) : g.since ≤ g'.since :=
  h.least g' h'.mem (h'.unmet.older hv)

/-- At the version that a row names, the answer is another one. -/
theorem firstUnmet_since (c : Contract) (o : Order) (g : OrderGate) :
    firstUnmet g.since c o = none ∨
      ∃ g', firstUnmet g.since c o = some g' ∧ g.since < g'.since := by
  cases h : firstUnmet g.since c o with
  | none => exact .inl rfl
  | some g' => exact .inr ⟨g', rfl, (isLowest_of_firstUnmet h).unmet.2⟩

end OrderGate

namespace Request

variable {version : Version} {id : Int32} {c : Contract} {o : Order} {g : OrderGate}

theorem frame_placeOrder_of_firstUnmet (h : OrderGate.firstUnmet version c o = some g) :
    (placeOrder id c o).frame version = .error (.unsupported id g.feature) := by
  unfold frame
  rw [firstUnmet_placeOrder, h]
  rfl

/-- Only what is reported makes a server too old for an order. -/
theorem isOutdated_placeOrder_iff :
    (placeOrder id c o).IsOutdated version ↔ ∃ g, OrderGate.firstUnmet version c o = some g := by
  cases h : OrderGate.firstUnmet version c o with
  | some g =>
    have hout : (placeOrder id c o).IsOutdated version :=
      ⟨_, frame_placeOrder_of_firstUnmet h, rfl⟩
    exact iff_of_true hout ⟨g, rfl⟩
  | none =>
    have hmet : (placeOrder id c o).firstUnmet version = none := by
      rw [firstUnmet_placeOrder, h]
      rfl
    have hnone : ¬∃ g, (none : Option OrderGate) = some g := by
      rintro ⟨g, ⟨⟩⟩
    rw [isOutdated_iff]
    exact iff_of_false (not_lacks_of_firstUnmet hmet) hnone

/-- No row is reported exactly if the server has every feature that the order uses. Otherwise it is
the lowest row that is not met, the first in the table of several with one version, and the order is
refused with its feature; orders are not refused for the version of the server in any other way. As
the version grows, that of the reported row does not fall, and once nothing is reported nothing is
reported any more. A server of just the version of the reported row is told of none, or of one with
a larger version. -/
theorem lowest_gate_is_reported (c : Contract) (o : Order) :
    (∀ version, OrderGate.firstUnmet version c o = none ↔
      ∀ g ∈ OrderGate.all, g.uses c o = true → g.since ≤ version) ∧
    (∀ version g, OrderGate.firstUnmet version c o = some g ↔ g.IsLowest version c o) ∧
    (∀ version version', version ≤ version' →
      (OrderGate.firstUnmet version c o = none → OrderGate.firstUnmet version' c o = none) ∧
      ∀ g g', OrderGate.firstUnmet version c o = some g →
        OrderGate.firstUnmet version' c o = some g' → g.since ≤ g'.since) ∧
    (∀ version g, OrderGate.firstUnmet version c o = some g →
      OrderGate.firstUnmet g.since c o = none ∨
        ∃ g', OrderGate.firstUnmet g.since c o = some g' ∧ g.since < g'.since) ∧
    ∀ version id,
      ((placeOrder id c o).IsOutdated version ↔ ∃ g, OrderGate.firstUnmet version c o = some g) ∧
      ∀ g, OrderGate.firstUnmet version c o = some g →
        (placeOrder id c o).frame version = .error (.unsupported id g.feature) := by
  refine ⟨fun _ => OrderGate.firstUnmet_eq_none_iff, fun _ _ => OrderGate.firstUnmet_eq_some_iff,
    ?_, fun _ g _ => OrderGate.firstUnmet_since c o g,
    fun _ _ => ⟨isOutdated_placeOrder_iff, fun _ => frame_placeOrder_of_firstUnmet⟩⟩
  intro version version' hv
  refine ⟨OrderGate.firstUnmet_none_mono hv, fun g g' hg hg' => ?_⟩
  have hlow := OrderGate.isLowest_of_firstUnmet hg
  exact hlow.since_mono hv (OrderGate.isLowest_of_firstUnmet hg')

/-- A contract that is hedged. -/
def hedgedContract : Contract where
  deltaNeutral := some {}

/-- A scale order with later levels, which is worked by an algorithm. -/
def scaledOrder : Order where
  scale := { subsLevelSize := some 5 }
  algo := { strategy := "Twap" }

/-- At version 39 two features of version 40 and one of version 41 are missing, and the first in the
table is reported. A server of version 40 is told of another one, of a larger version. -/
theorem lowest_gate_is_reported_scaled :
    ∃ g : OrderGate, g.IsLowest 39 hedgedContract scaledOrder ∧ g.since = 40 ∧
      (placeOrder 8 hedgedContract scaledOrder).frame 39
        = .error (.unsupported 8 "delta-neutral orders") ∧
      ∃ g', OrderGate.firstUnmet 40 hedgedContract scaledOrder = some g' ∧ 40 < g'.since := by
  obtain ⟨-, hlowest, -, hnext, hframe⟩ := lowest_gate_is_reported hedgedContract scaledOrder
  have hrow : (OrderGate.firstUnmet 39 hedgedContract scaledOrder).map
      (fun g => (g.since, g.feature)) = some (40, "delta-neutral orders") := by decide
  have hunmet : (OrderGate.firstUnmet 40 hedgedContract scaledOrder).isSome = true := by decide
  obtain ⟨g, hg, hsame⟩ := Option.map_eq_some_iff.mp hrow
  obtain ⟨hsince, hfeature⟩ := Prod.mk.inj hsame
  refine ⟨g, (hlowest 39 g).mp hg, hsince, ?_, ?_⟩
  · rw [← hfeature]
    exact (hframe 39 8).2 g hg
  · rcases hnext 39 g hg with hnone | hlater
    · rw [hsince] at hnone
      rw [hnone] at hunmet
      cases hunmet
    · rwa [hsince] at hlater

end Request
end BrokerLink
