import BrokerLink.Proofs.FieldReads
import BrokerLink.Proofs.OwnFields
import BrokerLink.Record
import BrokerLink.Request.Order.Section

/-!
# Conditions are read back

The conditions of an order are written as their number and then one by one, each as its kind,
its conjunction and the fields of that kind; two flags follow if there is a condition at all.
The record of an order is read in the same way, so that its conditions are those that were
placed.
-/

namespace BrokerLink

namespace Reader

theorem reads_triggerMethod (m : TriggerMethod) :
    Record.triggerMethod.Reads (fieldText m) m := by
  have hcode : m.code ≠ Int32.maxValue := by cases m <;> decide
  have h := (reads_int32 hcode).bind_done fun n => (Coded.ofCode? n).getD TriggerMethod.standard
  have hm : (Coded.ofCode? m.code).getD TriggerMethod.standard = m := by cases m <;> rfl
  rwa [hm] at h

theorem reads_conditionKind (k : ConditionKind) : Record.conditionKind.Reads (fieldText k) k := by
  have hcode : k.code ≠ Int32.maxValue := by cases k <;> decide
  have hk : (Coded.ofCode? k.code : Option ConditionKind) = some k := by cases k <;> rfl
  intro rest
  have hread : int32.run (Utf8.encode (fieldText k) ++ 0 :: rest) = (.ok k.code, rest) :=
    reads_int32 hcode rest
  rw [Record.conditionKind, run_bind_done _ hread]
  simp only [hk]
  rfl

/-- The letter of a conjunction says which one it is. -/
theorem reads_conjunction (b : Bool) : Record.conjunction.Reads (if b then "a" else "o") b := by
  have hzero : '\x00' ∉ (if b then "a" else "o").toList := by cases b <;> decide
  have h := (reads_string hzero).bind_done fun s => Text.eqIgnoringCase s "a"
  have hb : Text.eqIgnoringCase (if b then "a" else "o") "a" = b := by cases b <;> rfl
  rwa [hb] at h

end Reader

open Reader

namespace OrderCondition

/-- Everything that the condition says has a text of its own: no number of it stands for none, no
float is not a number, and no text holds a zero character. -/
def IsExact : OrderCondition → Prop
  | .price _ _ limit contractId exchange _ =>
    (limit.isNaN = false ∧ limit ≠ Binary64.largest) ∧ contractId ≠ Int32.maxValue ∧
      '\x00' ∉ exchange.toList
  | .time _ _ moment => '\x00' ∉ moment.toList
  | .margin _ _ percent => percent ≠ Int32.maxValue
  | .execution _ secType exchange symbol =>
    '\x00' ∉ secType.toList ∧ '\x00' ∉ exchange.toList ∧ '\x00' ∉ symbol.toList
  | .volume _ _ amount contractId exchange =>
    amount ≠ Int32.maxValue ∧ contractId ≠ Int32.maxValue ∧ '\x00' ∉ exchange.toList
  | .percentChange _ _ changePercent contractId exchange =>
    (changePercent.isNaN = false ∧ changePercent ≠ Binary64.largest) ∧
      contractId ≠ Int32.maxValue ∧ '\x00' ∉ exchange.toList

instance : (k : OrderCondition) → Decidable k.IsExact
  | .price .. | .time .. | .margin .. | .execution .. | .volume .. | .percentChange .. => by
    unfold IsExact
    infer_instance

/-- The fields behind the conjunction, kind by kind. -/
theorem run_conditionBody {k : OrderCondition} (hk : k.IsExact) (rest : List UInt8) :
    (Record.conditionBody k.conjunction k.kind).run (Fields.payload k.bodyFields ++ rest)
      = (.ok k, rest) := by
  cases k with
  | price conjunction isMore limit contractId exchange triggerMethod =>
    obtain ⟨⟨hn, hlimit⟩, hid, hexchange⟩ := hk
    simp only [kind, bodyFields, Record.conditionBody]
    rw [(reads_bool isMore).run_cons, (reads_float hn hlimit).run_cons, (reads_int32 hid).run_cons,
      (reads_string hexchange).run_cons, (reads_triggerMethod triggerMethod).run_cons]
    rfl
  | time conjunction isMore moment =>
    simp only [kind, bodyFields, Record.conditionBody]
    rw [(reads_bool isMore).run_cons, (reads_string hk).run_cons]
    rfl
  | margin conjunction isMore percent =>
    simp only [kind, bodyFields, Record.conditionBody]
    rw [(reads_bool isMore).run_cons, (reads_int32 hk).run_cons]
    rfl
  | execution conjunction secType exchange symbol =>
    obtain ⟨hsec, hexchange, hsymbol⟩ := hk
    simp only [kind, bodyFields, Record.conditionBody]
    rw [(reads_string hsec).run_cons, (reads_string hexchange).run_cons,
      (reads_string hsymbol).run_cons]
    rfl
  | volume conjunction isMore amount contractId exchange =>
    obtain ⟨hamount, hid, hexchange⟩ := hk
    simp only [kind, bodyFields, Record.conditionBody]
    rw [(reads_bool isMore).run_cons, (reads_int32 hamount).run_cons, (reads_int32 hid).run_cons,
      (reads_string hexchange).run_cons]
    rfl
  | percentChange conjunction isMore changePercent contractId exchange =>
    obtain ⟨⟨hn, hchange⟩, hid, hexchange⟩ := hk
    simp only [kind, bodyFields, Record.conditionBody]
    rw [(reads_bool isMore).run_cons, (reads_float hn hchange).run_cons,
      (reads_int32 hid).run_cons, (reads_string hexchange).run_cons]
    rfl

theorem readsAll_orderCondition {k : OrderCondition} (hk : k.IsExact) :
    Record.orderCondition.ReadsAll k.fields k := by
  intro rest
  rw [Record.orderCondition, fields, (reads_conditionKind k.kind).run_cons,
    (reads_conjunction k.conjunction).run_cons, run_conditionBody hk]

end OrderCondition

namespace OrderConditions

variable {version : Version} {c : OrderConditions}

theorem readsAll_list (hc : ∀ k ∈ c.conditions, k.IsExact) (hl : c.conditions.length < 2 ^ 31) :
    (list Record.orderCondition).ReadsAll
      (fieldText c.conditions.length :: c.conditions.flatMap (·.fields)) c.conditions := by
  have h := Reader.readsAll_list OrderCondition.fields id (fun k => List.cons_ne_nil _ _) hl
    fun k hk => k.readsAll_orderCondition (hc k hk)
  rwa [List.map_id] at h

/-- Conditions whose parts have texts of their own are read back as they were, with their flags,
from the fields they were written to, and what follows these fields is left. Without a condition
the number of them is the only field, and no flag is read. The number must be one of 32 bits, as
that of the conditions in any frame is. -/
theorem conditions_come_back (hv : version.supports Since.benchmarkPegs = true)
    (hc : ∀ k ∈ c.conditions, k.IsExact) :
    (∀ more, c.conditions.length < 2 ^ 31 →
      (Record.orderConditions version).run (Fields.payload c.fields ++ more)
        = (.ok (if c.conditions.isEmpty then {} else c), more)) ∧
    (c.conditions = [] → c.fields = ["0"]) ∧
    ∀ front back frame, Frame.ofFields (front ++ c.fields ++ back) = .ok frame →
      c.conditions.length < 2 ^ 31 := by
  refine ⟨?_, ?_, ?_⟩
  · intro more hl
    rw [Record.orderConditions, hv, since_true, fields, (readsAll_list hc hl).run_append]
    cases he : c.conditions.isEmpty with
    | true => rfl
    | false =>
      simp only [Bool.not_false, since_true, Bool.false_eq_true, if_false]
      rw [(reads_bool c.ignoreRegularHours).run_cons, (reads_bool c.cancelOrder).run_cons]
      rfl
  · intro he
    simp [fields, he]
    rfl
  · intro front back frame hf
    have hfields := Frame.length_lt hf
    have hentries : c.conditions.length ≤ (c.conditions.flatMap (·.fields)).length :=
      Fields.length_le_length_flatMap (fun k => List.cons_ne_nil _ _) c.conditions
    rw [fields, List.length_append, List.length_cons] at hfields
    omega

/-- A condition of every kind, and both flags. -/
def everyKind : OrderConditions where
  conditions :=
    [.price true false Binary64.zero 8314 "SMART" .standard, .time false true "20300101 09:30:00",
      .margin true true 30, .execution false "STK" "SMART" "IBM", .volume true false 1000 8314 "",
      .percentChange false true Binary64.zero 265598 "NYSE"]
  ignoreRegularHours := true
  cancelOrder := true

theorem conditions_come_back_everyKind :
    (Record.orderConditions 157).run (Fields.payload everyKind.fields) = (.ok everyKind, []) ∧
    Version.supports 157 Since.benchmarkPegs = true ∧ ∀ k ∈ everyKind.conditions, k.IsExact := by
  have hv : Version.supports 157 Since.benchmarkPegs = true := by decide
  have hc : ∀ k ∈ everyKind.conditions, k.IsExact := by decide
  have hread := (conditions_come_back hv hc).1 [] (by decide)
  rw [List.append_nil] at hread
  exact ⟨hread, hv, hc⟩

end OrderConditions
end BrokerLink
