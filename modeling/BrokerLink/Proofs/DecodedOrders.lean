import BrokerLink.Proofs.Gating
import BrokerLink.Proofs.ResetAttribute
import BrokerLink.Proofs.StrategySections
import BrokerLink.Proofs.UnsetInEvents

/-!
# Orders that were read

Six parts of an order are sent only if another attribute says so: the hedge of a volatility
order, the extension of a scale, the parameters of a hedge and of an algorithm, the peg to a
benchmark, and the flags behind the conditions. The same attributes decide whether these parts
are read. So in an order that was read, at whatever version and in whatever layout, a part
without the attribute that announces it is as it is by default, and placing the order with
the newest server never leaves out anything of a part that was reported.
-/

namespace BrokerLink

/-! ### Texts of defaults -/

/-- An attribute keeps its value if the text of the default is that of no other value. -/
theorem KeptOrReset.eq_of_text {σ α β : Type} {d s s' : σ} {get : σ → α} (text : α → β)
    (h : KeptOrReset d s s' get) (hd : text (get s) = text (get d) → get s = get d)
    (he : text (get s) = text (get s')) : get s' = get s := by
  rcases h with h | h
  · exact h
  · rw [h] at he ⊢
    exact (hd he).symm

theorem fieldText_bool_injective {b b' : Bool} (h : fieldText b = fieldText b') : b = b' := by
  cases b <;> cases b' <;> first | rfl | exact absurd h (by decide)

theorem int32_eq_zero_of_fieldText {n : Int32} (h : fieldText n = fieldText (0 : Int32)) :
    n = 0 := by
  have hn := Reader.parse_fieldText_int32 n
  rw [h, Reader.parse_fieldText_int32 0, Except.ok.injEq] at hn
  by_cases hmax : n = Int32.maxValue
  · subst hmax
    exact absurd h (by decide)
  · rw [if_neg hmax] at hn
    exact hn.symm

/-- A price that is set, and not to the largest number, has a text. -/
theorem price_eq_none_of_fieldText {x : Option Binary64} (hx : clearPrice x = x)
    (h : fieldText x = "") : x = none := by
  have hp := Reader.parse_fieldText_float? x
  rw [h, if_neg (clear_eq_self_iff.mp hx)] at hp
  exact Option.map_eq_none_iff.mp (Except.ok.inj hp).symm

theorem number_eq_none_of_fieldText {n : Option Int32} (hn : clearNumber n = n)
    (h : fieldText n = "") : n = none := by
  have hp := Reader.parse_fieldText_int32? n
  rw [h, if_neg (clear_eq_self_iff.mp hn)] at hp
  exact (Except.ok.inj hp).symm

/-! ### Parts that an attribute announces -/

/-- What an order has only if another attribute says so. -/
structure AnnouncedParts where
  deltaNeutralLeg : DeltaNeutralLeg := {}
  scaleExtension : ScaleExtension := {}
  hedgeParam : String := ""
  algoParams : List TagValue := []
  benchmark : BenchmarkPeg := {}
  ignoreRegularHours : Bool := false
  cancelOrder : Bool := false

structure ScaleExtension.Reset (e e' : ScaleExtension) : Prop where
  priceAdjustValue : KeptOrReset {} e e' (·.priceAdjustValue)
  priceAdjustInterval : KeptOrReset {} e e' (·.priceAdjustInterval)
  profitOffset : KeptOrReset {} e e' (·.profitOffset)
  autoReset : KeptOrReset {} e e' (·.autoReset)
  initPosition : KeptOrReset {} e e' (·.initPosition)
  initFillQuantity : KeptOrReset {} e e' (·.initFillQuantity)
  randomPercent : KeptOrReset {} e e' (·.randomPercent)

structure BenchmarkPeg.Reset (p p' : BenchmarkPeg) : Prop where
  referenceContractId : KeptOrReset {} p p' (·.referenceContractId)
  changeAmountDecrease : KeptOrReset {} p p' (·.changeAmountDecrease)
  changeAmount : KeptOrReset {} p p' (·.changeAmount)
  referenceChangeAmount : KeptOrReset {} p p' (·.referenceChangeAmount)
  referenceExchange : KeptOrReset {} p p' (·.referenceExchange)

/-- Attributes of the parts are reset. -/
structure AnnouncedParts.Reset (a a' : AnnouncedParts) : Prop where
  deltaNeutralLeg : a.deltaNeutralLeg.Reset a'.deltaNeutralLeg
  scaleExtension : a.scaleExtension.Reset a'.scaleExtension
  hedgeParam : KeptOrReset {} a a' (·.hedgeParam)
  algoParams : KeptOrReset {} a a' (·.algoParams)
  benchmark : a.benchmark.Reset a'.benchmark
  ignoreRegularHours : KeptOrReset {} a a' (·.ignoreRegularHours)
  cancelOrder : KeptOrReset {} a a' (·.cancelOrder)

namespace DeltaNeutralLeg

variable {l l' : DeltaNeutralLeg}

theorem Reset.eq_of_default (hr : l.Reset l') (hd : l = {}) : l' = l := by
  subst hd
  cases l'
  simp only [mk.injEq]
  exact ⟨hr.contractId.elim id id, hr.settlingFirm.elim id id, hr.clearingAccount.elim id id,
    hr.clearingIntent.elim id id, hr.openClose.elim id id, hr.shortSale.elim id id,
    hr.shortSaleSlot.elim id id, hr.designatedLocation.elim id id⟩

theorem Reset.eq_of_alike (hr : l.Reset l') (h : l.Alike Version.newest l') : l' = l := by
  cases l
  cases l'
  simp only [mk.injEq]
  exact ⟨hr.contractId.eq_of_text fieldText int32_eq_zero_of_fieldText (h.contractId rfl),
    hr.settlingFirm.eq_of_text id id (h.settlingFirm rfl),
    hr.clearingAccount.eq_of_text id id (h.clearingAccount rfl),
    hr.clearingIntent.eq_of_text id id (h.clearingIntent rfl),
    hr.openClose.eq_of_text id id (h.openClose rfl),
    hr.shortSale.eq_of_text fieldText fieldText_bool_injective (h.shortSale rfl),
    hr.shortSaleSlot.eq_of_text fieldText int32_eq_zero_of_fieldText (h.shortSaleSlot rfl),
    hr.designatedLocation.eq_of_text id id (h.designatedLocation rfl)⟩

end DeltaNeutralLeg

namespace ScaleExtension

variable {e e' : ScaleExtension}

theorem Reset.eq_of_default (hr : e.Reset e') (hd : e = {}) : e' = e := by
  subst hd
  cases e'
  simp only [mk.injEq]
  exact ⟨hr.priceAdjustValue.elim id id, hr.priceAdjustInterval.elim id id,
    hr.profitOffset.elim id id, hr.autoReset.elim id id, hr.initPosition.elim id id,
    hr.initFillQuantity.elim id id, hr.randomPercent.elim id id⟩

theorem Reset.eq_of_fields (hr : e.Reset e') (hc : e.cleared = e) (h : e.fields = e'.fields) :
    e' = e := by
  unfold fields at h
  simp only [List.cons.injEq, and_true] at h
  obtain ⟨h1, h2, h3, h4, h5, h6, h7⟩ := h
  have hvalue : clearPrice e.priceAdjustValue = e.priceAdjustValue :=
    congrArg ScaleExtension.priceAdjustValue hc
  have hinterval : clearNumber e.priceAdjustInterval = e.priceAdjustInterval :=
    congrArg ScaleExtension.priceAdjustInterval hc
  have hoffset : clearPrice e.profitOffset = e.profitOffset :=
    congrArg ScaleExtension.profitOffset hc
  have hposition : clearNumber e.initPosition = e.initPosition :=
    congrArg ScaleExtension.initPosition hc
  have hfill : clearNumber e.initFillQuantity = e.initFillQuantity :=
    congrArg ScaleExtension.initFillQuantity hc
  cases e
  cases e'
  simp only [mk.injEq]
  exact ⟨hr.priceAdjustValue.eq_of_text fieldText (price_eq_none_of_fieldText hvalue) h1,
    hr.priceAdjustInterval.eq_of_text fieldText (number_eq_none_of_fieldText hinterval) h2,
    hr.profitOffset.eq_of_text fieldText (price_eq_none_of_fieldText hoffset) h3,
    (fieldText_bool_injective h4).symm,
    hr.initPosition.eq_of_text fieldText (number_eq_none_of_fieldText hposition) h5,
    hr.initFillQuantity.eq_of_text fieldText (number_eq_none_of_fieldText hfill) h6,
    (fieldText_bool_injective h7).symm⟩

end ScaleExtension

namespace BenchmarkPeg

variable {p p' : BenchmarkPeg}

theorem Reset.eq_of_default (hr : p.Reset p') (hd : p = {}) : p' = p := by
  subst hd
  cases p'
  simp only [mk.injEq]
  exact ⟨hr.referenceContractId.elim id id, hr.changeAmountDecrease.elim id id,
    hr.changeAmount.elim id id, hr.referenceChangeAmount.elim id id,
    hr.referenceExchange.elim id id⟩

theorem Reset.eq_of_fields (hr : p.Reset p') (h : p.fields = p'.fields) : p' = p := by
  unfold fields at h
  simp only [List.cons.injEq, and_true] at h
  obtain ⟨h1, h2, h3, h4, h5⟩ := h
  cases p
  cases p'
  simp only [mk.injEq]
  exact ⟨hr.referenceContractId.eq_of_text fieldText int32_eq_zero_of_fieldText h1,
    (fieldText_bool_injective h2).symm,
    hr.changeAmount.eq_of_text fieldText eq_zero_of_fieldText h3,
    hr.referenceChangeAmount.eq_of_text fieldText eq_zero_of_fieldText h4, h5.symm⟩

end BenchmarkPeg

namespace Order

def announced (o : Order) : AnnouncedParts where
  deltaNeutralLeg := o.volatility.deltaNeutralLeg
  scaleExtension := o.scale.extension
  hedgeParam := o.hedge.param
  algoParams := o.algo.params
  benchmark := o.benchmark
  ignoreRegularHours := o.conditions.ignoreRegularHours
  cancelOrder := o.conditions.cancelOrder

/-- The order with these parts; what announces them stays. -/
def withAnnounced (o : Order) (a : AnnouncedParts) : Order :=
  { o with
    volatility := { o.volatility with deltaNeutralLeg := a.deltaNeutralLeg }
    scale := { o.scale with extension := a.scaleExtension }
    hedge := { o.hedge with param := a.hedgeParam }
    algo := { o.algo with params := a.algoParams }
    benchmark := a.benchmark
    conditions :=
      { o.conditions with
        ignoreRegularHours := a.ignoreRegularHours
        cancelOrder := a.cancelOrder } }

/-- A part is as it is by default unless the attribute that announces it does. -/
structure IsConsistent (o : Order) : Prop where
  deltaNeutralLeg : o.volatility.deltaNeutralOrderType = "" → o.volatility.deltaNeutralLeg = {}
  scaleExtension : o.scale.hasExtension = false → o.scale.extension = {}
  hedgeParam : o.hedge.kind = "" → o.hedge.param = ""
  algoParams : o.algo.strategy = "" → o.algo.params = []
  benchmark : o.terms.orderType ≠ some .peggedToBenchmark → o.benchmark = {}
  conditionFlags : o.conditions.conditions = [] →
    o.conditions.ignoreRegularHours = false ∧ o.conditions.cancelOrder = false

variable {o : Order} {a : AnnouncedParts} {id : Int32} {c : Contract}

/-- In a consistent order every attribute of an announced part can be told from its default by the
fields that the newest server is sent. -/
theorem IsConsistent.announced_eq (h : o.IsConsistent)
    (hc : o.scale.extension.cleared = o.scale.extension) (hr : o.announced.Reset a)
    (hf : placeFields Version.newest id c o
      = placeFields Version.newest id c (o.withAnnounced a)) : a = o.announced := by
  have hcombo : fieldText c.secType = fieldText c.secType → c.isCombo = c.isCombo := fun _ => rfl
  have hpegged : fieldText o.terms.orderType = fieldText (o.withAnnounced a).terms.orderType →
      o.isPegged = (o.withAnnounced a).isPegged := fun _ => rfl
  have halike := placedAlike_of_placeFields hcombo hpegged hf
  have hleg : a.deltaNeutralLeg = o.volatility.deltaNeutralLeg := by
    by_cases hk : o.volatility.deltaNeutralOrderType = ""
    · exact hr.deltaNeutralLeg.eq_of_default (h.deltaNeutralLeg hk)
    · refine hr.deltaNeutralLeg.eq_of_alike ?_
      exact halike.strategy.volatility.deltaNeutralLeg (by simpa using hk)
  have hextension : a.scaleExtension = o.scale.extension := by
    cases hk : o.scale.hasExtension with
    | false => exact hr.scaleExtension.eq_of_default (h.scaleExtension hk)
    | true => exact hr.scaleExtension.eq_of_fields hc (halike.strategy.scale.extension rfl hk)
  have hparam : o.hedge.param = a.hedgeParam := by
    by_cases hk : o.hedge.kind = ""
    · exact hr.hedgeParam.eq_of_default (h.hedgeParam hk)
    · exact (halike.strategy.hedge rfl).param (by simpa using hk)
  have hparams : o.algo.params = a.algoParams := by
    by_cases hk : o.algo.strategy = ""
    · exact hr.algoParams.eq_of_default (h.algoParams hk)
    · exact (halike.strategy.algo rfl).params (by simpa using hk)
  have hbenchmark : a.benchmark = o.benchmark := by
    by_cases hk : o.terms.orderType = some .peggedToBenchmark
    · have hpegged : o.isPegged = true := by rw [isPegged, hk]; rfl
      exact hr.benchmark.eq_of_fields ((halike.trigger rfl).benchmark hpegged)
    · exact hr.benchmark.eq_of_default (h.benchmark hk)
  have hflags : o.conditions.ignoreRegularHours = a.ignoreRegularHours ∧
      o.conditions.cancelOrder = a.cancelOrder := by
    by_cases hk : o.conditions.conditions = []
    · obtain ⟨hignore, hcancel⟩ := h.conditionFlags hk
      exact ⟨hr.ignoreRegularHours.eq_of_default hignore, hr.cancelOrder.eq_of_default hcancel⟩
    · obtain ⟨hignore, hcancel⟩ := (halike.trigger rfl).conditions.flags (by simpa using hk)
      exact ⟨fieldText_bool_injective hignore, fieldText_bool_injective hcancel⟩
  cases a
  simp only [announced, AnnouncedParts.mk.injEq]
  exact ⟨hleg, hextension, hparam.symm, hparams.symm, hbenchmark, hflags.1.symm, hflags.2.symm⟩

/-- The newest server is not too old for the order, and it can tell every attribute of an announced
part from the default. -/
def TellsAnnounced (o : Order) : Prop :=
  ∀ (id : Int32) (c : Contract), ¬(Request.placeOrder id c o).IsOutdated Version.newest ∧
    ∀ (a : AnnouncedParts) (f f' : Frame), o.announced.Reset a →
      (Request.placeOrder id c o).frame Version.newest = .ok f →
      (Request.placeOrder id c (o.withAnnounced a)).frame Version.newest = .ok f' →
      f.bytes = f'.bytes → a = o.announced

theorem IsConsistent.tellsAnnounced (h : o.IsConsistent)
    (hc : o.scale.extension.cleared = o.scale.extension) : o.TellsAnnounced := by
  intro id c
  refine ⟨fun ho => Request.not_lacks_newest _ (Request.isOutdated_iff.mp ho), ?_⟩
  intro a f f' hr hf hf' hb
  have hfields := Request.fields_eq_of_bytes_eq hf hf' hb
  exact h.announced_eq hc hr (List.cons.inj hfields).2

end Order

/-! ### What the sections give -/

namespace Record

open Reader

variable {version : Version}

/-- No field of the hedge is asked for unless it is announced; the same holds of the other parts. -/
theorem gives_announcedLeg (version : Version) (layout : Int) (isOpen : Bool) :
    (volatilityTerms version layout isOpen).Gives fun part =>
      part.1.deltaNeutralOrderType = "" → part.1.deltaNeutralLeg = {} := by
  refine Gives.since ?_ (fun _ => rfl) _
  refine .bind fun _ => .bind fun _ => .bind fun kind => .bind fun _ => ?_
  have hleg : (deltaNeutralLeg layout isOpen (!kind.isEmpty)).Gives
      fun leg => kind = "" → leg = {} := by
    by_cases hk : kind = ""
    · subst hk
      have habsent : deltaNeutralLeg layout isOpen (!"".isEmpty) = done {} :=
        deltaNeutralLeg_absent isOpen
      rw [habsent]
      exact fun _ => rfl
    · exact .of_forall (fun _ he => absurd he hk) _
  refine hleg.andThen fun leg hl => ?_
  exact .bind fun _ => .bind fun _ => .bind fun _ => hl

theorem gives_announcedExtension (layout : Int) :
    (scaleTerms layout).Gives fun t => t.hasExtension = false → t.extension = {} := by
  refine Gives.since ?_ (fun _ => rfl) _
  refine .bind fun levels => .bind fun increment => ?_
  refine (gives_since _ _ _).andThen fun extension hextension hx => hextension ?_
  exact Bool.and_eq_false_iff.mpr (.inr hx)

theorem gives_announcedParam (layout : Int) :
    (hedgeTerms layout).Gives fun t => t.kind = "" → t.param = "" := by
  refine Gives.since ?_ (fun _ => rfl) _
  refine .bind fun kind => (gives_since _ _ _).andThen fun param hparam hk => hparam ?_
  obtain rfl : kind = "" := hk
  rfl

theorem gives_announcedParams (layout : Int) :
    (clearingSection layout).Gives fun part => part.algo.strategy = "" → part.algo.params = [] := by
  have halgo : algoTerms.Gives fun t => t.strategy = "" → t.params = [] := by
    refine .bind fun strategy => (gives_since _ _ _).andThen fun params hparams hk => hparams ?_
    obtain rfl : strategy = "" := hk
    rfl
  refine .bind fun _ => .bind fun _ => .bind fun _ => .bind fun _ => ?_
  refine (halgo.since (fun _ => rfl) _).andThen fun algo ha => ?_
  exact .bind fun _ => ha

theorem gives_announcedPeg (version : Version) (orderType : Option OrderType) :
    (benchmarkPeg version orderType).Gives fun p =>
      orderType ≠ some .peggedToBenchmark → p = {} := by
  refine (gives_since _ _ _).imp fun p hp hk => hp ?_
  rw [beq_false_of_ne hk, Bool.and_false]

theorem gives_announcedFlags (version : Version) :
    (orderConditions version).Gives fun k => k.conditions = [] →
      k.ignoreRegularHours = false ∧ k.cancelOrder = false := by
  refine Gives.since (.bind fun conditions => ?_) (fun _ => ⟨rfl, rfl⟩) _
  cases conditions with
  | nil => exact fun _ => ⟨rfl, rfl⟩
  | cons k ks => exact .bind fun _ => .bind fun _ => nofun

/-! ### Orders -/

theorem gives_consistent_openOrder (version : Version) :
    (events version .openOrder).Gives fun es => ∃ id c o s, es = [.openOrder id c o s] ∧
      o.identity.orderId = id ∧ o.IsConsistent ∧ o.TellsAnnounced := by
  refine (gives_bind (openOrder version) _).mpr ?_
  refine .bind fun layout => .bind fun orderId => .bind fun contract => .bind fun terms => ?_
  iterate 16 refine Gives.bind fun _ => ?_
  refine (gives_announcedLeg version layout true).andThen fun volatility hleg => ?_
  iterate 5 refine Gives.bind fun _ => ?_
  refine ((gives_announcedExtension layout).and (gives_scaleTerms layout)).andThen
    fun scale hscale => ?_
  refine (gives_announcedParam layout).andThen fun hedge hparam => .bind fun _ => ?_
  refine (gives_announcedParams layout).andThen fun ending hparams => ?_
  iterate 3 refine Gives.bind fun _ => ?_
  refine (gives_announcedPeg version terms.orderType).andThen fun benchmark hbenchmark => ?_
  refine (gives_announcedFlags version).andThen fun conditions hflags => ?_
  iterate 5 refine Gives.bind fun _ => ?_
  refine ⟨_, _, _, _, rfl, rfl, ?consistent, Order.IsConsistent.tellsAnnounced ?consistent ?cleared⟩
  case consistent => exact ⟨hleg, hscale.1, hparam, hparams, hbenchmark, hflags⟩
  case cleared => exact congrArg ScaleTerms.extension hscale.2

theorem gives_consistent_completedOrder (version : Version) :
    (events version .completedOrder).Gives fun es => ∃ c o s, es = [.completedOrder c o s] ∧
      o.IsConsistent ∧ o.TellsAnnounced := by
  refine (gives_bind (completedOrder version) _).mpr ?_
  refine .bind fun contract => .bind fun terms => ?_
  iterate 9 refine Gives.bind fun _ => ?_
  refine (gives_announcedLeg version newestLayout false).andThen fun volatility hleg => ?_
  iterate 3 refine Gives.bind fun _ => ?_
  refine ((gives_announcedExtension newestLayout).and (gives_scaleTerms newestLayout)).andThen
    fun scale hscale => ?_
  refine (gives_announcedParam newestLayout).andThen fun hedge hparam => ?_
  refine (gives_announcedParams newestLayout).andThen fun ending hparams => ?_
  iterate 2 refine Gives.bind fun _ => ?_
  refine (gives_announcedPeg version terms.orderType).andThen fun benchmark hbenchmark => ?_
  refine (gives_announcedFlags version).andThen fun conditions hflags => ?_
  iterate 4 refine Gives.bind fun _ => ?_
  refine ⟨_, _, _, rfl, ?consistent, Order.IsConsistent.tellsAnnounced ?consistent ?cleared⟩
  case consistent => exact ⟨hleg, hscale.1, hparam, hparams, hbenchmark, hflags⟩
  case cleared => exact congrArg ScaleTerms.extension hscale.2

/-! ### Accepted payloads -/

/-- What the reader of a kind gives is so of the events of every accepted record of the kind. -/
theorem holds_of_decode {payload : List UInt8} {es : List Event} {k : RecordKind}
    {P : List Event → Prop} (hg : (events version k).Gives P)
    (h : decode version payload = .ok es) (hk : (int32.run payload).1 = .ok k.code) : P es := by
  have hi : int32.run payload = (.ok k.code, (int32.run payload).2) := Prod.ext hk rfl
  exact hg.of_run ((decode_eq_ok_iff hi).mp h)

/-- An order that an accepted record tells, of open orders or of completed ones, is consistent:
without what announces it a part is as it is by default, whatever the version and the layout. The
id of an open order is that of its event. Placed again with the newest server, the order keeps
everything of its parts that was reported. -/
theorem decoded_orders_are_consistent {payload : List UInt8} {es : List Event}
    (h : decode version payload = .ok es) :
    ((int32.run payload).1 = .ok RecordKind.openOrder.code →
      ∃ id c o s, es = [.openOrder id c o s] ∧ o.identity.orderId = id ∧ o.IsConsistent ∧
        o.TellsAnnounced) ∧
    ((int32.run payload).1 = .ok RecordKind.completedOrder.code →
      ∃ c o s, es = [.completedOrder c o s] ∧ o.IsConsistent ∧ o.TellsAnnounced) := by
  constructor
  · exact holds_of_decode (gives_consistent_openOrder version) h
  · exact holds_of_decode (gives_consistent_completedOrder version) h

theorem decoded_orders_are_consistent_volatilityOrder :
    ∃ id c o s, decode 157 openVolatilityOrder.payload = .ok [.openOrder id c o s] ∧
      o.identity.orderId = id ∧ o.IsConsistent ∧ o.TellsAnnounced := by
  have hopen : (decode 157 openVolatilityOrder.payload).isOk = true := by decide +kernel
  obtain ⟨es, hes⟩ := exists_eq_ok hopen
  obtain ⟨id, c, o, s, rfl, ho⟩ := (decoded_orders_are_consistent hes).1 (by rfl)
  exact ⟨id, c, o, s, hes, ho⟩

end Record
end BrokerLink
