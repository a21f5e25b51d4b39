import QueryDesk.Business.Sample
import QueryDesk.Proofs.Calendar.InOrder
import QueryDesk.Proofs.Number.Digits
import QueryDesk.Proofs.Number.Range
import QueryDesk.Proofs.Random.Twister

/-!
# What sample data is like

What is made up has a property if it has it whatever the generator draws (`Ensures`).  So the parts
of a record lie within their bounds, and with them the records of each kind (`ensures_salesOrder`
and so on), whatever the seed.  Records are made up one after the other, so a longer list begins
with the shorter one (`several_prefix`).
-/

set_option autoImplicit false

namespace QueryDesk
namespace Sample

/-! ## What draws ensure -/

section Ensures

variable {α β : Type} {P : α → Prop} {Q : β → Prop}

/-- Says that what is made up has a property, and that a complete register stays complete. -/
def Ensures (m : Draw α) (P : α → Prop) : Prop :=
  ∀ t : Twister, t.IsFull → P (m t).1 ∧ (m t).2.IsFull

theorem ensures_pure {a : α} (h : P a) : Ensures (pure a) P := fun _ ht => ⟨h, ht⟩

theorem Ensures.bind {m : Draw α} {next : α → Draw β} (hm : Ensures m P)
    (hnext : ∀ a, P a → Ensures (next a) Q) : Ensures (m >>= next) Q := fun t ht =>
  hnext _ (hm t ht).1 _ (hm t ht).2

/-- Either way goes on alike. -/
theorem Ensures.ite_bind {c : Bool} {m m' : Draw α} {next : α → Draw β} (hm : Ensures m P)
    (hm' : Ensures m' P) (hnext : ∀ a, P a → Ensures (next a) Q) :
    Ensures (if c = true then m >>= next else m' >>= next) Q := by
  cases c with
  | false => exact hm'.bind hnext
  | true => exact hm.bind hnext

theorem Ensures.mapM {R : Nat → α → Prop} {make : Nat → Draw α} (h : ∀ n, Ensures (make n) (R n))
    (ns : List Nat) : Ensures (ns.mapM make) (List.Forall₂ R ns) := by
  induction ns with
  | nil => exact ensures_pure .nil
  | cons n ns ih =>
    rw [List.mapM_cons]
    exact (h n).bind fun x hx => ih.bind fun xs hxs => ensures_pure (.cons hx hxs)

end Ensures

/-! ## Parts -/

theorem ensures_number {bound : Nat} (hpos : 0 < bound) (hbound : bound < 2 ^ 32) :
    Ensures (number bound) (· < bound) := fun _ ht =>
  have hdraws := Twister.draws_drawBelow ht hpos hbound
  ⟨hdraws.fst_lt, hdraws.isFull ht⟩

theorem ensures_oneOf {choices : List String} (hpos : 0 < choices.length)
    (hbound : choices.length < 2 ^ 32) : Ensures (oneOf choices) (· ∈ choices.map Text.of) := by
  refine (ensures_number hpos hbound).bind fun n hn => ensures_pure ?_
  rw [List.getD_eq_getElem?_getD, List.getElem?_eq_getElem hn]
  exact List.mem_map_of_mem (List.getElem_mem hn)

theorem drawFraction_lt (t : Twister) : t.drawFraction.1 < 2 ^ 53 := by
  have hfirst := t.draw.1.toNat_lt
  have hsecond := t.draw.2.draw.1.toNat_lt
  simp only [Twister.drawFraction, Nat.pow_eq]
  omega

/-- A fraction of one is a measure. -/
theorem ensures_fraction : Ensures fraction (·.IsMeasure 1075) := by
  refine fun t ht => ⟨?_, ht.draw.draw⟩
  show (Binary64.round false t.drawFraction.1 (Nat.pow 2 53)).IsMeasure 1075
  have hlt := drawFraction_lt t
  unfold Binary64.round
  generalize hunit : 1074 = unit
  have hdiv : t.drawFraction.1 * Nat.pow 2 unit / Nat.pow 2 53 < 2 ^ unit :=
    Nat.div_lt_of_lt_mul (Nat.mul_lt_mul_of_pos_right hlt (Nat.two_pow_pos unit))
  have hmeasure := Binary64.isMeasure_roundUnits hdiv (by omega) (by omega)
  rwa [show unit + 1 = 1075 by omega] at hmeasure

theorem ensures_heads : Ensures heads fun _ => True :=
  ensures_fraction.bind fun _ _ => ensures_pure trivial

theorem ensures_money (least spread : Nat) : Ensures (money least spread) fun _ => True :=
  ensures_fraction.bind fun _ _ => ensures_pure trivial

/-- A fraction of a year is not below zero, and not long. -/
theorem ensures_days {span : Nat} (h : span < 2 ^ 9) :
    Ensures (days span) fun micros => 0 ≤ micros ∧ micros ≤ 2 ^ 55 := by
  refine ensures_fraction.bind fun x hx => ensures_pure ?_
  have hspan := hx.mul_ofNat h (by decide) (by decide) (by decide)
  have hhours := hspan.mul_ofNat (n := 24) (l := 5) (by decide) (by decide) (by decide) (by decide)
  have hminutes :=
    hhours.mul_ofNat (n := 60) (l := 6) (by decide) (by decide) (by decide) (by decide)
  have hseconds :=
    hminutes.mul_ofNat (n := 60) (l := 6) (by decide) (by decide) (by decide) (by decide)
  have hmillion := Binary64.isMeasure_ofNat (n := 1000000) (k := 20) (by decide) (by decide)
  have hfine := hmillion.mul hseconds.fraction (by decide) (by decide)
  obtain ⟨whole, hwhole, hwholelt⟩ := hseconds.exists_truncate (k := 35)
  obtain ⟨fine, hfineeq, hfinele⟩ := hfine.exists_nearestInt (k := 23)
  rw [hwhole, hfineeq]
  omega

/-! ## Dates -/

/-- Says that a timestamp is one of the calendar, in universal time. -/
structure IsOnCalendar (t : Timestamp) : Prop where
  isDay : Date.isDay t.date.year t.date.month t.date.day = true
  ahead : t.ahead = some 0

/-- Says that a timestamp is one of the calendar, no earlier than the sample begins and no later than
so many microseconds behind that. -/
structure IsWithin (limit : Int) (t : Timestamp) : Prop where
  isProper : t.date.IsProper
  ahead : t.ahead = some 0
  start_le : start.shown ≤ t.shown
  le_limit : t.shown ≤ start.shown + limit

theorem shown_start : start.shown = 738886 * Timestamp.microsPerDay := by decide

theorem isWithin_start : IsWithin 0 start := by
  refine ⟨⟨?_, ?_, ?_⟩, rfl, le_rfl, Int.le_add_of_nonneg_right le_rfl⟩ <;> decide

variable {limit micros : Int} {t : Timestamp}

theorem IsWithin.shown_later (h : IsWithin limit t) (hmicros : 0 ≤ micros) :
    (t.later micros).date.IsProper ∧ (t.later micros).shown = t.shown + micros := by
  refine Timestamp.shown_later (le_trans ?_ (Int.add_le_add h.start_le hmicros))
  rw [shown_start]
  unfold Timestamp.microsPerDay
  omega

theorem IsWithin.later (h : IsWithin limit t) {most : Int} (hmicros : 0 ≤ micros ∧ micros ≤ most) :
    IsWithin (limit + most) (t.later micros) := by
  obtain ⟨hproper, hshown⟩ := h.shown_later hmicros.1
  have hstart := h.start_le
  have hlimit := h.le_limit
  exact ⟨hproper, h.ahead, by omega, by omega⟩

theorem IsWithin.instant_later (h : IsWithin limit t) (hmicros : 0 ≤ micros) :
    (t.later micros).instant = t.instant + micros := by
  have hahead : (t.later micros).ahead = t.ahead := rfl
  rw [Timestamp.instant, Timestamp.instant, (h.shown_later hmicros).2, hahead]
  omega

/-- In a thousand years and more the calendar does not end. -/
theorem IsWithin.isOnCalendar (h : IsWithin limit t) (hlimit : limit ≤ 2 ^ 57) : IsOnCalendar t := by
  refine ⟨h.isProper.isDay (h.isProper.year_le ?_), h.ahead⟩
  have hle := h.le_limit
  rw [shown_start, Timestamp.shown] at hle
  unfold Timestamp.microsPerDay at hle
  omega

/-! ## Records -/

/-- What holds of the sales order of a running number. -/
structure IsSalesOrder (n : Nat) (order : SalesOrder) : Prop where
  orderId : order.orderId = Text.of "SO-" ++ Number.digits (1000 + n)
  orderNumber : order.orderNumber = Text.of "ORD-2024-" ++ Number.paddedDigits 4 n
  orderDate : IsOnCalendar order.orderDate
  status : order.status ∈ salesStatuses.map Text.of
  region : ∃ region ∈ regions.map Text.of, order.region = some region

/-- What holds of the work order of a running number. -/
structure IsWorkOrder (n : Nat) (order : WorkOrder) : Prop where
  workOrderId : order.workOrderId = Text.of "WO-" ++ Number.digits (2000 + n)
  workOrderNumber : order.workOrderNumber = Text.of "WRK-2024-" ++ Number.paddedDigits 4 n
  scheduledDate : ∀ date ∈ order.scheduledDate, IsOnCalendar date
  completionDate : ∀ date ∈ order.completionDate, IsOnCalendar date
  status : order.status ∈ workStatuses.map Text.of
  priority : order.priority ∈ priorities.map Text.of

/-- What holds of the invoice of a running number. -/
structure IsInvoice (n : Nat) (invoice : Invoice) : Prop where
  invoiceId : invoice.invoiceId = Text.of "INV-" ++ Number.digits (3000 + n)
  invoiceNumber : invoice.invoiceNumber = Text.of "IV-2024-" ++ Number.paddedDigits 4 n
  invoiceDate : IsOnCalendar invoice.invoiceDate
  dueDate : IsOnCalendar invoice.dueDate
  /-- The invoice is due after exactly 30 or exactly 60 days. -/
  due : invoice.dueDate.instant = invoice.invoiceDate.instant + 30 * Timestamp.microsPerDay ∨
    invoice.dueDate.instant = invoice.invoiceDate.instant + 60 * Timestamp.microsPerDay
  status : invoice.status ∈ invoiceStatuses.map Text.of

/-- What holds of the article of a running number. -/
structure IsInventoryItem (n : Nat) (item : InventoryItem) : Prop where
  itemId : item.itemId = Text.of "ITM-" ++ Number.digits (4000 + n)
  itemCode : item.itemCode = Text.of "ITEM-" ++ Number.paddedDigits 4 n
  quantityOnHand : 0 ≤ item.quantityOnHand ∧ item.quantityOnHand ≤ 999
  reorderLevel : ∃ level : Int, item.reorderLevel = some level ∧ 50 ≤ level ∧ level ≤ 249

theorem ensures_salesOrder (n : Nat) : Ensures (salesOrder n) (IsSalesOrder n) := by
  unfold salesOrder
  refine (ensures_oneOf (by decide) (by decide)).bind fun customer _ => ?_
  refine (ensures_days (by decide)).bind fun date hdate => ?_
  refine (ensures_money 5000 50000).bind fun amount _ => ?_
  refine (ensures_oneOf (by decide) (by decide)).bind fun status hstatus => ?_
  refine (ensures_oneOf (by decide) (by decide)).bind fun region hregion => ?_
  refine (ensures_oneOf (by decide) (by decide)).bind fun rep _ => ensures_pure ?_
  exact ⟨rfl, rfl, (isWithin_start.later hdate).isOnCalendar (by decide), hstatus,
    ⟨region, hregion, rfl⟩⟩

theorem ensures_workOrder (n : Nat) : Ensures (workOrder n) (IsWorkOrder n) := by
  unfold workOrder
  refine (ensures_days (by decide)).bind fun wait hwait => ?_
  have hscheduled := isWithin_start.later hwait
  refine ensures_heads.bind fun isCompleted _ => ?_
  refine Ensures.ite_bind (P := fun completed => ∀ date ∈ completed, IsOnCalendar date) ?_
    (ensures_pure fun _ hnone => nomatch hnone) fun completed hcompleted => ?_
  · refine (ensures_days (by decide)).bind fun work hwork => ensures_pure fun date hsome => ?_
    obtain rfl := Option.mem_some_iff.mp hsome
    exact (hscheduled.later hwork).isOnCalendar (by decide)
  refine (ensures_oneOf (by decide) (by decide)).bind fun area _ => ?_
  refine (ensures_oneOf (by decide) (by decide)).bind fun assignee _ => ?_
  refine (ensures_oneOf (by decide) (by decide)).bind fun status hstatus => ?_
  refine (ensures_oneOf (by decide) (by decide)).bind fun priority hpriority => ?_
  refine (ensures_oneOf (by decide) (by decide)).bind fun department _ => ensures_pure ?_
  refine ⟨rfl, rfl, fun date hsome => ?_, hcompleted, hstatus, hpriority⟩
  obtain rfl := Option.mem_some_iff.mp hsome
  exact hscheduled.isOnCalendar (by decide)

theorem ensures_invoice (n : Nat) : Ensures (invoice n) (IsInvoice n) := by
  unfold invoice
  refine (ensures_days (by decide)).bind fun wait hwait => ?_
  have hdate := isWithin_start.later hwait
  refine ensures_heads.bind fun isShort _ => ?_
  refine (ensures_oneOf (by decide) (by decide)).bind fun vendor _ => ?_
  refine (ensures_money 1000 25000).bind fun amount _ => ?_
  refine (ensures_oneOf (by decide) (by decide)).bind fun status hstatus => ?_
  refine (ensures_oneOf (by decide) (by decide)).bind fun terms _ => ensures_pure ?_
  have hterm : 0 ≤ wholeDays (if isShort then 30 else 60) ∧
      wholeDays (if isShort then 30 else 60) ≤ 2 ^ 55 := by
    cases isShort <;> decide
  have hdue := hdate.instant_later hterm.1
  refine ⟨rfl, rfl, hdate.isOnCalendar (by decide), (hdate.later hterm).isOnCalendar (by decide), ?_,
    hstatus⟩
  cases isShort with
  | true => exact .inl hdue
  | false => exact .inr hdue

theorem ensures_inventoryItem (n : Nat) : Ensures (inventoryItem n) (IsInventoryItem n) := by
  unfold inventoryItem
  refine (ensures_oneOf (by decide) (by decide)).bind fun category _ => ?_
  refine (ensures_number (by decide) (by decide)).bind fun quantity hquantity => ?_
  refine (ensures_money 10 500).bind fun price _ => ?_
  refine (ensures_number (by decide) (by decide)).bind fun reorder hreorder => ?_
  refine (ensures_oneOf (by decide) (by decide)).bind fun warehouse _ => ensures_pure ?_
  have hquantity' : 0 ≤ (quantity : Int) ∧ (quantity : Int) ≤ 999 := by omega
  exact ⟨rfl, rfl, hquantity', 50 + reorder, rfl, by omega, by omega⟩

/-! ## Lists of records -/

section Several

variable {α : Type}

/-- What holds of the records of a kind: there are as many as asked for (none if the count is below
zero), the records are those of the running numbers from one on, and no two have the same name. -/
structure IsRun (IsRecord : Nat → α → Prop) (name : α → Text) (count : Int) (records : List α) :
    Prop where
  length_eq : (records.length : Int) = max count 0
  numbered : ∀ i record, records[i]? = some record → IsRecord (i + 1) record
  nodup : (records.map name).Nodup

/-- **Records with running numbers in their names** make up a run. -/
theorem isRun_of_forall₂ {IsRecord : Nat → α → Prop} {name : α → Text} {lead : Text} {base : Nat}
    (hname : ∀ n record, IsRecord n record → name record = lead ++ Number.digits (base + n))
    {count : Int} {records : List α}
    (h : List.Forall₂ IsRecord (List.range' 1 count.toNat) records) :
    IsRun IsRecord name count records := by
  have hlength := h.length_eq
  rw [List.length_range'] at hlength
  have hnumbered : ∀ i record, records[i]? = some record → IsRecord (i + 1) record := by
    intro i record hrecord
    obtain ⟨hi, rfl⟩ := List.getElem?_eq_some_iff.mp hrecord
    have hget := h.get (by rwa [List.length_range', hlength]) hi
    rwa [List.get_eq_getElem, List.getElem_range', Nat.one_mul, Nat.add_comm] at hget
  have hnames : (List.range' 1 count.toNat).map (fun n => lead ++ Number.digits (base + n)) =
      records.map name := by
    rw [← List.forall₂_eq_eq_eq, List.forall₂_map_left_iff, List.forall₂_map_right_iff]
    exact h.imp fun n record hrecord => (hname n record hrecord).symm
  have hinjective : Function.Injective fun n => lead ++ Number.digits (base + n) := fun m n hmn =>
    Nat.add_left_cancel (Number.digits_injective (List.append_cancel_left hmn))
  have hdistinct : (List.range' 1 count.toNat).Nodup := List.nodup_range'
  refine ⟨by omega, hnumbered, ?_⟩
  rw [← hnames]
  exact hdistinct.map hinjective

theorem ensures_several {IsRecord : Nat → α → Prop} {name : α → Text} {lead : Text} {base : Nat}
    (hname : ∀ n record, IsRecord n record → name record = lead ++ Number.digits (base + n))
    {make : Nat → Draw α} (hmake : ∀ n, Ensures (make n) (IsRecord n)) (count : Int) :
    Ensures (several make count) (IsRun IsRecord name count) := fun t ht =>
  have hrecords := Ensures.mapM hmake (List.range' 1 count.toNat) t ht
  ⟨isRun_of_forall₂ hname hrecords.1, hrecords.2⟩

/-- **A longer list of records begins with the shorter one** that the same generator makes up. -/
theorem several_prefix (make : Nat → Draw α) {count count' : Int} (h : count ≤ count')
    (t : Twister) : (several make count t).1 <+: (several make count' t).1 := by
  obtain ⟨more, hmore⟩ : ∃ more, count'.toNat = count.toNat + more :=
    ⟨count'.toNat - count.toNat, by omega⟩
  unfold several
  rw [hmore, ← List.range'_append_1, List.mapM_append]
  exact ⟨_, rfl⟩

end Several

/-! ## Datasets -/

/-- What holds of sample data of given sizes. -/
structure IsSample (sizes : Sizes) (data : Dataset) : Prop where
  salesOrders : IsRun IsSalesOrder (·.orderId) sizes.salesOrders data.salesOrders
  workOrders : IsRun IsWorkOrder (·.workOrderId) sizes.workOrders data.workOrders
  invoices : IsRun IsInvoice (·.invoiceId) sizes.invoices data.invoices
  inventoryItems : IsRun IsInventoryItem (·.itemId) sizes.inventoryItems data.inventoryItems

theorem ensures_records (sizes : Sizes) : Ensures (records sizes) (IsSample sizes) := by
  unfold records
  refine (ensures_several (fun _ _ h => h.orderId) ensures_salesOrder _).bind fun _ hsales => ?_
  refine (ensures_several (fun _ _ h => h.workOrderId) ensures_workOrder _).bind fun _ hwork => ?_
  refine (ensures_several (fun _ _ h => h.invoiceId) ensures_invoice _).bind fun _ hinvoices => ?_
  refine (ensures_several (fun _ _ h => h.itemId) ensures_inventoryItem _).bind fun _ hitems => ?_
  exact ensures_pure ⟨hsales, hwork, hinvoices, hitems⟩

/-- The sales orders are made up first. -/
theorem salesOrders_dataset (seed : Int) (sizes : Sizes) : (dataset seed sizes).salesOrders =
    (several salesOrder sizes.salesOrders (.ofSeed seed)).1 := rfl

/-- The generator of a seed when so many words have been drawn. -/
def generatorAt (seed : Int) (count : Nat) : Twister := (fun t => t.draw.2)^[count] (.ofSeed seed)

theorem isFull_generatorAt (seed : Int) (count : Nat) : (generatorAt seed count).IsFull := by
  induction count with
  | zero => exact Twister.isFull_ofSeed seed
  | succ count ih =>
    rw [generatorAt, Function.iterate_succ_apply']
    exact ih.draw

/-- **Sample data is well formed**, for every seed and all sizes.  There are as many records of each
kind as asked for, with running numbers in their names and codes, and all that they hold lies within
its bounds.  Wherever the generator stands, a number that is drawn comes of drawing words until one
serves, so making up a dataset comes to an end.  And a dataset with more sales orders begins with the
same ones, whatever else it holds. -/
theorem isSample_dataset (seed : Int) (sizes : Sizes) :
    IsSample sizes (dataset seed sizes) ∧
    (∀ count bound : Nat, 0 < bound → bound < 2 ^ 32 → Twister.Draws bound (generatorAt seed count)
      ((generatorAt seed count).drawBelow bound)) ∧
    ∀ larger : Sizes, sizes.salesOrders ≤ larger.salesOrders →
      (dataset seed sizes).salesOrders <+: (dataset seed larger).salesOrders := by
  refine ⟨(ensures_records sizes _ (Twister.isFull_ofSeed seed)).1, fun count bound hpos hbound => ?_,
    fun larger hle => ?_⟩
  · exact Twister.draws_drawBelow (isFull_generatorAt seed count) hpos hbound
  · rw [salesOrders_dataset, salesOrders_dataset]
    exact several_prefix salesOrder hle _

/-- More work orders than four digits count, no invoices, and two sales orders of a hundred. -/
theorem isSample_dataset_twelve_thousand :
    let sizes : Sizes := { salesOrders := 2, workOrders := 12345, invoices := -3 }
    IsSample sizes (dataset (-7) sizes) ∧
    (0 < 1000 ∧ 1000 < 2 ^ 32 ∧ Twister.Draws 1000 (generatorAt (-7) 624)
      ((generatorAt (-7) 624).drawBelow 1000)) ∧
    (sizes.salesOrders ≤ 100 ∧
      (dataset (-7) sizes).salesOrders <+: (dataset (-7) { salesOrders := 100 }).salesOrders) := by
  intro sizes
  obtain ⟨hsample, hdraws, hprefix⟩ := isSample_dataset (-7) sizes
  exact ⟨hsample, ⟨by decide, by decide, hdraws 624 1000 (by decide) (by decide)⟩, by decide,
    hprefix { salesOrders := 100 } (by decide)⟩

end Sample
end QueryDesk
