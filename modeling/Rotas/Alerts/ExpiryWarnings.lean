import Rotas.Alerts.ExpiryChecks
import Mathlib.Data.List.TakeWhile

/-!
# Rotas.Alerts.ExpiryWarnings

The alerts for a document or a policy before it expires, over every sequence of days on which the
worker runs.

* `Paper`       — a document with its date, or a policy.
* `Warned`      — an alert in time, one of each level, and a critical one in the last week.
* `SeenInTime`  — a document is first seen in the last week if it is seen there at all; a policy is
  seen on the day of a threshold, and first in the last week on its first day.
* `warned_iff_seenInTime` — the papers that are warned of are these.
* `not_escalated` — a document that is seen before and in its last week.
-/

namespace Rotas

variable [IdText]

/-! ## References -/

section References

variable {id id' : UUID} {d d' : Date} {n n' : Int}

theorem documentReference_eq : documentReference id d =
    "doc_expiry:" ++ IdText.uuid id ++ ":" ++ d.isoformat := by
  delta documentReference
  rfl

theorem insuranceReference_eq : insuranceReference id d n =
    "ins_renewal:" ++ IdText.uuid id ++ ":" ++ d.isoformat ++ ":" ++ toString n ++ "d" := by
  delta insuranceReference
  rfl

theorem documentReference_injective (h : documentReference id d = documentReference id' d') :
    id = id' ∧ d = d' := by
  have hchars := congrArg String.toList h
  simp only [documentReference_eq, String.toList_append] at hchars
  obtain ⟨hrest, hdate⟩ := List.append_inj' hchars (by
    rw [String.length_toList, String.length_toList, Date.length_isoformat, Date.length_isoformat])
  have huuid := List.append_cancel_left (List.append_cancel_right hrest)
  exact ⟨IdText.uuid_injective (String.toList_injective huuid),
    Date.isoformat_injective (String.toList_injective hdate)⟩

theorem documentReference_ne : documentReference id d ≠ insuranceReference id' d' n := by
  intro h
  have hchars := congrArg String.toList h
  simp only [documentReference_eq, insuranceReference_eq, String.toList_append] at hchars
  have hhead := congrArg List.head? hchars
  simp at hhead

theorem insuranceReference_injective (hn : n ∈ renewalThresholds) (hn' : n' ∈ renewalThresholds)
    (h : insuranceReference id d n = insuranceReference id' d' n') :
    id = id' ∧ d = d' ∧ n = n' := by
  have hchars := congrArg String.toList h
  have hsplit : ∀ (id : UUID) (d : Date) (n : Int), (insuranceReference id d n).toList =
      ("ins_renewal:" ++ IdText.uuid id ++ ":" ++ d.isoformat).toList ++
        ':' :: (toString n ++ "d").toList := by
    intro id d n
    simp [insuranceReference_eq, String.toList_append]
  have hlevel : ∀ n ∈ renewalThresholds, ':' ∉ (toString n ++ "d").toList := by
    intro n hn
    simp only [renewalThresholds, List.mem_cons, List.not_mem_nil, or_false] at hn
    rcases hn with rfl | rfl | rfl <;> decide
  rw [hsplit, hsplit] at hchars
  obtain ⟨hfront, hback⟩ := split_last (hlevel n hn) (hlevel n' hn') hchars
  simp only [String.toList_append] at hfront hback
  obtain ⟨hrest, hdate⟩ := List.append_inj' hfront (by
    rw [String.length_toList, String.length_toList, Date.length_isoformat, Date.length_isoformat])
  have huuid := List.append_cancel_left (List.append_cancel_right hrest)
  exact ⟨IdText.uuid_injective (String.toList_injective huuid),
    Date.isoformat_injective (String.toList_injective hdate),
    toString_int_injective (String.toList_injective (List.append_cancel_right hback))⟩

end References

/-! ## What a day asks for -/

/-- The paper expires in at most so many days. -/
def Within (n : Int) (expiry today : Date) : Bool :=
  0 ≤ today.daysTo expiry && today.daysTo expiry ≤ n

section Days

variable {s : Portfolio} {today : Date} {doc : OperationalDocument} {expiry : Date}
  {ins : VehicleInsurance} {n : Int}

theorem valid_documentAlert (hdoc : doc ∈ s.documents) :
    (documentAlert today doc expiry).valid = true := by
  have hlength : (documentReference doc.id expiry).length = 58 := by
    simp only [documentReference_eq, String.length_append, s.documentIds doc hdoc,
      Date.length_isoformat]
    rfl
  simp [AlertCreate.valid, documentAlert, hlength]

theorem valid_insuranceAlert (hins : ins ∈ s.insurances) (hn : n ∈ renewalThresholds)
    (plate : String) : (insuranceAlert n ins plate).valid = true := by
  have hlength : (insuranceReference ins.id ins.validUntil n).length =
      61 + (toString n).length := by
    simp only [insuranceReference_eq, String.length_append, s.insuranceIds ins hins,
      Date.length_isoformat]
    have h₁ : "ins_renewal:".length = 12 := rfl
    have h₂ : ":".length = 1 := rfl
    have h₃ : "d".length = 1 := rfl
    omega
  have hdigits : (toString n).length ≤ 2 := by
    simp only [renewalThresholds, List.mem_cons, List.not_mem_nil, or_false] at hn
    rcases hn with rfl | rfl | rfl <;> decide
  simp only [AlertCreate.valid, insuranceAlert, hlength, Bool.and_eq_true, decide_eq_true_eq]
  omega

theorem mem_documentRequests {x : UUID × AlertCreate} : x ∈ documentRequests s today ↔
    ∃ doc ∈ s.documents, ∃ expiry, doc.expiryDate = some expiry ∧
      Within 30 expiry today = true ∧ x = (doc.tenantId, documentAlert today doc expiry) := by
  have hfound : ∀ {doc expiry}, (doc, expiry) ∈ expiringDocuments today s ↔
      doc ∈ s.documents ∧ doc.expiryDate = some expiry ∧ Within 30 expiry today = true := by
    intro doc expiry
    simp only [expiringDocuments, List.mem_filterMap, Option.bind_eq_some_iff]
    constructor
    · rintro ⟨doc', hdoc', expiry', hexpiry', hsome⟩
      split at hsome
      · next hwithin =>
        cases hsome
        exact ⟨hdoc', hexpiry', by simpa [Within] using hwithin⟩
      · cases hsome
    · rintro ⟨hdoc, hexpiry, hwithin⟩
      refine ⟨doc, hdoc, expiry, hexpiry, ?_⟩
      rw [if_pos (by simpa [Within] using hwithin)]
  have hvalid : ∀ e ∈ expiringDocuments today s, (documentAlert today e.1 e.2).valid = true :=
    fun e he => valid_documentAlert (hfound.mp he).1
  rw [documentRequests, List.takeWhile_eq_self_iff.mpr ?valid, List.mem_map]
  case valid => exact List.forall_mem_map.mpr hvalid
  constructor
  · rintro ⟨⟨doc, expiry⟩, hmem, rfl⟩
    obtain ⟨hdoc, hexpiry, hwithin⟩ := hfound.mp hmem
    exact ⟨doc, hdoc, expiry, hexpiry, hwithin, rfl⟩
  · rintro ⟨doc, hdoc, expiry, hexpiry, hwithin, rfl⟩
    exact ⟨(doc, expiry), hfound.mpr ⟨hdoc, hexpiry, hwithin⟩, rfl⟩

theorem mem_insuranceRequests {x : UUID × AlertCreate} : x ∈ insuranceRequests s today ↔
    ∃ n ∈ renewalThresholds, ∃ ins ∈ s.insurances, today.daysTo ins.validUntil = n ∧
      ∃ v, s.vehicles.get ins.vehicleId = some v ∧
        x = (ins.tenantId, insuranceAlert n ins v.plate) := by
  have hfound : ∀ {n ins plate}, (ins, plate) ∈ expiringInsurances today n s ↔
      ins ∈ s.insurances ∧ today.daysTo ins.validUntil = n ∧
        ∃ v, s.vehicles.get ins.vehicleId = some v ∧ v.plate = plate := by
    intro n ins plate
    simp only [expiringInsurances, List.mem_filterMap]
    constructor
    · rintro ⟨ins', hins', hsome⟩
      split at hsome
      · next hdays =>
        obtain ⟨v, hv, heq⟩ := Option.map_eq_some_iff.mp hsome
        cases heq
        exact ⟨hins', hdays, v, hv, rfl⟩
      · cases hsome
    · rintro ⟨hins, hdays, v, hv, rfl⟩
      exact ⟨ins, hins, by rw [if_pos hdays, hv]; rfl⟩
  simp only [insuranceRequests, List.mem_filter, List.mem_flatMap, List.mem_map]
  constructor
  · rintro ⟨⟨n, hn, ⟨ins, plate⟩, hmem, rfl⟩, _⟩
    obtain ⟨hins, hdays, v, hv, rfl⟩ := hfound.mp hmem
    exact ⟨n, hn, ins, hins, hdays, v, hv, rfl⟩
  · rintro ⟨n, hn, ins, hins, hdays, v, hv, rfl⟩
    exact ⟨⟨n, hn, (ins, v.plate), hfound.mpr ⟨hins, hdays, v, hv, rfl⟩, rfl⟩,
      valid_insuranceAlert hins hn v.plate⟩

omit [IdText] in
theorem find?_eq_ite {α : Type} {l : List α} {p : α → Bool} {x : α} {c : Bool}
    (hmem : c = true → x ∈ l) (hp : p x = true) (hone : ∀ y ∈ l, p y = true → c = true ∧ y = x) :
    l.find? p = if c then some x else none := by
  cases hfind : l.find? p with
  | none =>
    split
    · next hc => exact absurd hp (List.find?_eq_none.mp hfind x (hmem hc))
    · rfl
  | some y =>
    obtain ⟨hc, rfl⟩ := hone y (List.mem_of_find?_eq_some hfind) (List.find?_some hfind)
    rw [if_pos hc]

theorem find?_document (hdoc : doc ∈ s.documents) (hexpiry : doc.expiryDate = some expiry) :
    (dayRequests s today).find?
      (fun x => x.1 = doc.tenantId && x.2.requestReference = documentReference doc.id expiry) =
        if Within 30 expiry today then some (doc.tenantId, documentAlert today doc expiry)
        else none := by
  refine find?_eq_ite (fun hwithin => ?_) (by simp [documentAlert]) fun y hy hmine => ?_
  · exact List.mem_append_left _
      (mem_documentRequests.mpr ⟨doc, hdoc, expiry, hexpiry, hwithin, rfl⟩)
  · obtain ⟨-, href⟩ : y.1 = doc.tenantId ∧
        y.2.requestReference = documentReference doc.id expiry := by simpa using hmine
    rcases List.mem_append.mp hy with hy | hy
    · obtain ⟨doc', hdoc', expiry', hexpiry', hwithin, rfl⟩ := mem_documentRequests.mp hy
      obtain ⟨hid, rfl⟩ := documentReference_injective href
      obtain rfl : doc' = doc := Table.eq_of_key hdoc' hdoc hid
      exact ⟨hwithin, rfl⟩
    · obtain ⟨n, _, ins, _, _, v, _, rfl⟩ := mem_insuranceRequests.mp hy
      exact absurd href.symm documentReference_ne

theorem find?_insurance (hins : ins ∈ s.insurances) {v : Vehicle}
    (hv : s.vehicles.get ins.vehicleId = some v) (hn : n ∈ renewalThresholds) :
    (dayRequests s today).find? (fun x => x.1 = ins.tenantId &&
      x.2.requestReference = insuranceReference ins.id ins.validUntil n) =
        if decide (today.daysTo ins.validUntil = n) then
          some (ins.tenantId, insuranceAlert n ins v.plate)
        else none := by
  refine find?_eq_ite (fun hdays => ?_) (by simp [insuranceAlert]) fun y hy hmine => ?_
  · exact List.mem_append_right _ (mem_insuranceRequests.mpr
      ⟨n, hn, ins, hins, of_decide_eq_true hdays, v, hv, rfl⟩)
  · obtain ⟨-, href⟩ : y.1 = ins.tenantId ∧
        y.2.requestReference = insuranceReference ins.id ins.validUntil n := by simpa using hmine
    rcases List.mem_append.mp hy with hy | hy
    · obtain ⟨doc', _, expiry', _, _, rfl⟩ := mem_documentRequests.mp hy
      exact absurd href documentReference_ne
    · obtain ⟨n', hn', ins', hins', hdays, v', hv', rfl⟩ := mem_insuranceRequests.mp hy
      obtain ⟨hid, _, rfl⟩ := insuranceReference_injective hn' hn href
      obtain rfl : ins' = ins := Table.eq_of_key hins' hins hid
      cases hv.symm.trans hv'
      exact ⟨decide_eq_true hdays, rfl⟩

end Days

/-! ## Papers -/

/-- A document with its date, or a policy. -/
inductive Paper where
  | document (doc : OperationalDocument) (expiry : Date)
  | insurance (ins : VehicleInsurance)

/-- An alert that a paper is given: its reference, the days that ask for it, and the request. -/
structure Notice where
  reference : String
  due : Date → Bool
  request : Date → AlertCreate

namespace Paper

def tenantId : Paper → UUID
  | .document doc _ => doc.tenantId
  | .insurance ins => ins.tenantId

def expiry : Paper → Date
  | .document _ expiry => expiry
  | .insurance ins => ins.validUntil

/-- The paper is one of those that are checked. -/
def In (s : Portfolio) : Paper → Prop
  | .document doc expiry => doc ∈ s.documents ∧ doc.expiryDate = some expiry
  | .insurance ins => ins ∈ s.insurances

/-- The references of its alerts. -/
def references : Paper → List String
  | .document doc expiry => [documentReference doc.id expiry]
  | .insurance ins => renewalThresholds.map (insuranceReference ins.id ins.validUntil)

/-- The alert is for the paper and its date. -/
def Has (p : Paper) (a : Alert) : Prop :=
  a.tenantId = p.tenantId ∧ a.requestReference ∈ p.references

/-- What the paper is given of the checks. -/
def notices (s : Portfolio) : Paper → List Notice
  | .document doc expiry =>
    [⟨documentReference doc.id expiry, Within 30 expiry, fun today =>
      documentAlert today doc expiry⟩]
  | .insurance ins => renewalThresholds.map fun n =>
    ⟨insuranceReference ins.id ins.validUntil n, fun today => today.daysTo ins.validUntil = n,
      fun _ => insuranceAlert n ins (((s.vehicles.get ins.vehicleId).map (·.plate)).getD "")⟩

variable {s : Portfolio} {p : Paper} {alerts : Table Alert} {days : List Date}

theorem references_eq : p.references = (p.notices s).map Notice.reference := by
  cases p with
  | document doc expiry => rfl
  | insurance ins => rw [references, notices, List.map_map]; rfl

theorem find?_notice (hp : p.In s) {x : Notice} (hx : x ∈ p.notices s) (today : Date) :
    (dayRequests s today).find?
      (fun y => y.1 = p.tenantId && y.2.requestReference = x.reference) =
        if x.due today then some (p.tenantId, x.request today) else none := by
  cases p with
  | document doc expiry =>
    rw [List.mem_singleton.mp hx]
    exact find?_document hp.1 hp.2
  | insurance ins =>
    obtain ⟨n, hn, rfl⟩ := List.mem_map.mp hx
    obtain ⟨v, hv⟩ := Option.isSome_iff_exists.mp (s.insured ins hp)
    simp only [hv, Option.map_some, Option.getD_some]
    exact find?_insurance hp hv hn

/-- Of each reference there is the request of the first day that asked for it. -/
theorem shownUnder_notice (hp : p.In s) (hfresh : ∀ a ∈ alerts, ¬p.Has a) {x : Notice}
    (hx : x ∈ p.notices s) (days : List Date) :
    shownUnder p.tenantId x.reference (afterDays s days alerts) =
      ((days.find? x.due).map fun today => (x.request today, "pending")).toList := by
  refine shownUnder_afterDays ?_ (find?_notice hp hx) days
  refine List.filter_eq_nil_iff.mpr fun a ha hunder => hfresh a ha ?_
  obtain ⟨htenant, href⟩ : a.tenantId = p.tenantId ∧ a.requestReference = x.reference := by
    simpa [isUnder] using hunder
  refine ⟨htenant, ?_⟩
  rw [references_eq (s := s), href]
  exact List.mem_map_of_mem hx

/-- An alert of a paper is what the first day that asked for it requested. -/
theorem notice_of_has (hp : p.In s) (hfresh : ∀ a ∈ alerts, ¬p.Has a) {a : Alert}
    (ha : a ∈ afterDays s days alerts) (hhas : p.Has a) : ∃ x ∈ p.notices s, ∃ today,
      days.find? x.due = some today ∧ x.request today = a.toAlertCreate ∧ a.status = "pending" := by
  obtain ⟨htenant, href⟩ := hhas
  rw [references_eq (s := s)] at href
  obtain ⟨x, hx, href⟩ := List.mem_map.mp href
  have hshown : (a.toAlertCreate, a.status) ∈
      shownUnder p.tenantId x.reference (afterDays s days alerts) :=
    List.mem_map.mpr ⟨a, List.mem_filter.mpr ⟨ha, by simp [isUnder, htenant, href]⟩, rfl⟩
  rw [shownUnder_notice hp hfresh hx, Option.mem_toList] at hshown
  obtain ⟨today, htoday, heq⟩ := Option.map_eq_some_iff.mp hshown
  obtain ⟨hrequest, hstatus⟩ := Prod.mk.inj heq
  exact ⟨x, hx, today, htoday, hrequest, hstatus.symm⟩

theorem has_iff (hp : p.In s) (hfresh : ∀ a ∈ alerts, ¬p.Has a) {P : AlertCreate → Prop} :
    (∃ a ∈ afterDays s days alerts, p.Has a ∧ P a.toAlertCreate ∧ a.status = "pending") ↔
      ∃ x ∈ p.notices s, ∃ today, days.find? x.due = some today ∧ P (x.request today) := by
  constructor
  · rintro ⟨a, ha, hhas, hP, _⟩
    obtain ⟨x, hx, today, htoday, hrequest, _⟩ := notice_of_has hp hfresh ha hhas
    exact ⟨x, hx, today, htoday, hrequest ▸ hP⟩
  · rintro ⟨x, hx, today, htoday, hP⟩
    have hshown : (x.request today, "pending") ∈
        shownUnder p.tenantId x.reference (afterDays s days alerts) := by
      rw [shownUnder_notice hp hfresh hx, htoday]
      exact List.mem_singleton_self _
    obtain ⟨a, ha, heq⟩ := List.mem_map.mp hshown
    obtain ⟨hmem, hunder⟩ := List.mem_filter.mp ha
    obtain ⟨hrequest, hstatus⟩ := Prod.mk.inj heq
    obtain ⟨htenant, href⟩ : a.tenantId = p.tenantId ∧ a.requestReference = x.reference := by
      simpa [isUnder] using hunder
    refine ⟨a, hmem, ⟨htenant, ?_⟩, hrequest ▸ hP, hstatus⟩
    rw [references_eq (s := s), href]
    exact List.mem_map_of_mem hx

theorem eq_of_reference (hp : p.In s) (hfresh : ∀ a ∈ alerts, ¬p.Has a) {a b : Alert}
    (ha : a ∈ afterDays s days alerts) (hb : b ∈ afterDays s days alerts) (hhas : p.Has a)
    (hhas' : p.Has b) (href : a.requestReference = b.requestReference) : a = b := by
  have hmem := hhas.2
  rw [references_eq (s := s)] at hmem
  obtain ⟨x, hx, hx'⟩ := List.mem_map.mp hmem
  have hlength : (alertsUnder p.tenantId x.reference (afterDays s days alerts)).length ≤ 1 := by
    have hshown := congrArg List.length (shownUnder_notice hp hfresh hx days)
    rw [shownUnder, List.length_map] at hshown
    rw [hshown]
    cases days.find? x.due <;> simp
  have hunder : ∀ c ∈ afterDays s days alerts, c.tenantId = p.tenantId →
      c.requestReference = x.reference →
        c ∈ alertsUnder p.tenantId x.reference (afterDays s days alerts) :=
    fun c hc htenant hc' => List.mem_filter.mpr ⟨hc, by simp [isUnder, htenant, hc']⟩
  have ha' := hunder a ha hhas.1 hx'.symm
  have hb' := hunder b hb hhas'.1 (href ▸ hx'.symm)
  obtain ⟨c, hlist⟩ := List.length_eq_one_iff.mp
    (Nat.le_antisymm hlength (List.length_pos_of_mem ha'))
  rw [hlist] at ha' hb'
  rw [List.mem_singleton.mp ha', List.mem_singleton.mp hb']

end Paper

/-! ## Warnings -/

/-- What is expected of the alerts for a paper over the days on which the worker runs. -/
structure Warned (s : Portfolio) (alerts : Table Alert) (days : List Date) (p : Paper) : Prop where
  /-- A run in the last thirty days, and there is an alert at some run before the paper expires. -/
  raised : (∃ today ∈ days, Within 30 p.expiry today = true) →
    ∃ before today after, days = before ++ today :: after ∧ 0 ≤ today.daysTo p.expiry ∧
      ∃ a ∈ afterDays s (before ++ [today]) alerts, p.Has a
  once : ∀ a ∈ afterDays s days alerts, ∀ b ∈ afterDays s days alerts, p.Has a → p.Has b →
    a.priority = b.priority → a = b
  critical : ∀ before today after, days = before ++ today :: after →
    Within 7 p.expiry today = true →
      ∃ a ∈ afterDays s (before ++ [today]) alerts,
        p.Has a ∧ a.priority = "critical" ∧ a.status = "pending"

/-- A document that is seen in its last week is first seen there. A policy is seen on the day of a
threshold, if it is seen in its last thirty days at all, and first in its last week on the first of
these days. -/
def SeenInTime (days : List Date) : Paper → Prop
  | .document _ expiry => (∃ today ∈ days, Within 7 expiry today = true) →
    ∃ today, days.find? (Within 30 expiry) = some today ∧ Within 7 expiry today = true
  | .insurance ins =>
    ((∃ today ∈ days, Within 30 ins.validUntil today = true) →
      ∃ today ∈ days, today.daysTo ins.validUntil ∈ renewalThresholds) ∧
    ∀ today, days.find? (Within 7 ins.validUntil) = some today → today.daysTo ins.validUntil = 7

section Timeliness

omit [IdText]

variable {expiry today : Date}

theorem within_month (h : Within 7 expiry today = true) : Within 30 expiry today = true := by
  simp only [Within, Bool.and_eq_true, decide_eq_true_eq] at h ⊢
  omega

/-- The first of a kind in a list is the first in every longer one. -/
theorem find?_prefix {α : Type} {l m : List α} {c : α → Bool} {x : α} (h : l.find? c = some x) :
    (l ++ m).find? c = some x := by
  rw [List.find?_append, h, Option.some_or]

theorem exists_find? {α : Type} {l : List α} {c : α → Bool} {x : α} (hx : x ∈ l)
    (hc : c x = true) : ∃ y, l.find? c = some y ∧ c y = true := by
  obtain ⟨y, hy⟩ := Option.isSome_iff_exists.mp (List.find?_isSome.mpr ⟨x, hx, hc⟩)
  exact ⟨y, hy, List.find?_some hy⟩

theorem split_upTo {α : Type} {l before after : List α} {x : α} (h : l = before ++ x :: after) :
    l = (before ++ [x]) ++ after := by
  rw [h, List.append_assoc]
  rfl

theorem insurancePriority_injective {n n' : Int} (hn : n ∈ renewalThresholds)
    (hn' : n' ∈ renewalThresholds) (h : insurancePriority n = insurancePriority n') : n = n' := by
  simp only [renewalThresholds, List.mem_cons, List.not_mem_nil, or_false] at hn hn'
  rcases hn with rfl | rfl | rfl <;> rcases hn' with rfl | rfl | rfl <;> revert h <;> decide

end Timeliness

section Warnings

variable {s : Portfolio} {alerts : Table Alert} {days : List Date} {doc : OperationalDocument}
  {expiry today : Date} {ins : VehicleInsurance}

theorem Paper.once (p : Paper) (hp : p.In s) (hfresh : ∀ a ∈ alerts, ¬p.Has a) :
    ∀ a ∈ afterDays s days alerts, ∀ b ∈ afterDays s days alerts, p.Has a → p.Has b →
      a.priority = b.priority → a = b := by
  intro a ha b hb hhas hhas' hlevel
  refine p.eq_of_reference hp hfresh ha hb hhas hhas' ?_
  obtain ⟨x, hx, _, _, hrequest, _⟩ := p.notice_of_has hp hfresh ha hhas
  obtain ⟨y, hy, _, _, hrequest', _⟩ := p.notice_of_has hp hfresh hb hhas'
  cases p with
  | document doc expiry =>
    rw [List.mem_singleton.mp hhas.2, List.mem_singleton.mp hhas'.2]
  | insurance ins =>
    obtain ⟨n, hn, rfl⟩ := List.mem_map.mp hx
    obtain ⟨n', hn', rfl⟩ := List.mem_map.mp hy
    rw [← hrequest, ← hrequest'] at hlevel ⊢
    obtain rfl := insurancePriority_injective hn hn' hlevel
    rfl

/-- The alert of a document is the one that its first day asked for. -/
theorem document_has_iff (hp : (Paper.document doc expiry).In s)
    (hfresh : ∀ a ∈ alerts, ¬(Paper.document doc expiry).Has a) {P : AlertCreate → Prop} :
    (∃ a ∈ afterDays s days alerts, (Paper.document doc expiry).Has a ∧ P a.toAlertCreate ∧
        a.status = "pending") ↔
      ∃ today, days.find? (Within 30 expiry) = some today ∧ P (documentAlert today doc expiry) := by
  rw [Paper.has_iff hp hfresh]
  simp only [Paper.notices, List.mem_singleton, exists_eq_left]

theorem documentAlert_critical : (documentAlert today doc expiry).priority = "critical" ↔
    today.daysTo expiry ≤ 7 := by
  change (if today.daysTo expiry ≤ 7 then "critical" else "high") = "critical" ↔ _
  split
  · next h => exact iff_of_true rfl h
  · next h => exact iff_of_false (by decide) h

theorem warned_document_iff (hp : (Paper.document doc expiry).In s)
    (hfresh : ∀ a ∈ alerts, ¬(Paper.document doc expiry).Has a) :
    Warned s alerts days (.document doc expiry) ↔ SeenInTime days (.document doc expiry) := by
  have hweek : ∀ {today}, Within 30 expiry today = true → today.daysTo expiry ≤ 7 →
      Within 7 expiry today = true := by
    intro today hmonth hle
    simp only [Within, Bool.and_eq_true, decide_eq_true_eq] at hmonth ⊢
    exact ⟨hmonth.1, hle⟩
  constructor
  · rintro hwarned ⟨today, htoday, hwithin⟩
    obtain ⟨before, after, hdays⟩ := List.append_of_mem htoday
    have hcritical := hwarned.critical before today after hdays hwithin
    obtain ⟨first, hfirst, hlevel⟩ := (document_has_iff hp hfresh
      (P := fun a => a.priority = "critical")).mp hcritical
    refine ⟨first, ?_, hweek (List.find?_some hfirst) (documentAlert_critical.mp hlevel)⟩
    rw [split_upTo hdays]
    exact find?_prefix hfirst
  · intro hintime
    refine ⟨?_, Paper.once _ hp hfresh, ?_⟩
    · rintro ⟨today, htoday, hwithin⟩
      obtain ⟨before, after, hdays⟩ := List.append_of_mem htoday
      obtain ⟨first, hfirst, _⟩ := exists_find? (c := Within 30 expiry)
        (List.mem_append_right before (List.mem_singleton_self today)) hwithin
      obtain ⟨a, ha, hhas, _, _⟩ := (document_has_iff hp hfresh (P := fun _ => True)).mpr
        ⟨first, hfirst, trivial⟩
      have hnonneg : 0 ≤ today.daysTo expiry := by
        simp only [Within, Bool.and_eq_true, decide_eq_true_eq] at hwithin
        exact hwithin.1
      exact ⟨before, today, after, hdays, hnonneg, a, ha, hhas⟩
    · intro before today after hdays hwithin
      obtain ⟨first, hfirst, hlast⟩ := hintime ⟨today, hdays ▸ by simp, hwithin⟩
      obtain ⟨seen, hseen, _⟩ := exists_find? (c := Within 30 expiry)
        (List.mem_append_right before (List.mem_singleton_self today)) (within_month hwithin)
      have hsame := find?_prefix (m := after) hseen
      rw [← split_upTo hdays, hfirst] at hsame
      cases hsame
      refine (document_has_iff hp hfresh (P := fun a => a.priority = "critical")).mpr
        ⟨first, hseen, documentAlert_critical.mpr ?_⟩
      simp only [Within, Bool.and_eq_true, decide_eq_true_eq] at hlast
      exact hlast.2

/-- The alerts of a policy are those of the thresholds that a day fell on. -/
theorem insurance_has_iff (hp : (Paper.insurance ins).In s)
    (hfresh : ∀ a ∈ alerts, ¬(Paper.insurance ins).Has a) {P : String → Prop} :
    (∃ a ∈ afterDays s days alerts, (Paper.insurance ins).Has a ∧ P a.priority ∧
        a.status = "pending") ↔
      ∃ today ∈ days, today.daysTo ins.validUntil ∈ renewalThresholds ∧
        P (insurancePriority (today.daysTo ins.validUntil)) := by
  refine (Paper.has_iff hp hfresh (P := fun a => P a.priority)).trans ?_
  constructor
  · rintro ⟨x, hx, today, htoday, hP⟩
    obtain ⟨n, hn, rfl⟩ := List.mem_map.mp hx
    have hdue := List.find?_some htoday
    have hdays : today.daysTo ins.validUntil = n := of_decide_eq_true hdue
    refine ⟨today, List.mem_of_find?_eq_some htoday, ?_⟩
    rw [hdays]
    exact ⟨hn, hP⟩
  · rintro ⟨today, htoday, hn, hP⟩
    obtain ⟨first, hfirst, _⟩ := exists_find? (x := today)
      (c := fun t => decide (t.daysTo ins.validUntil = today.daysTo ins.validUntil)) htoday
      (decide_eq_true rfl)
    exact ⟨_, List.mem_map_of_mem hn, first, hfirst, hP⟩

theorem warned_insurance_iff (hp : (Paper.insurance ins).In s)
    (hfresh : ∀ a ∈ alerts, ¬(Paper.insurance ins).Has a) :
    Warned s alerts days (.insurance ins) ↔ SeenInTime days (.insurance ins) := by
  have hcritical : ∀ n ∈ renewalThresholds, insurancePriority n = "critical" → n = 7 :=
    fun n hn h => insurancePriority_injective hn (by decide) h
  constructor
  · intro hwarned
    refine ⟨fun hseen => ?_, fun today htoday => ?_⟩
    · obtain ⟨before, today, after, hdays, _, a, ha, hhas⟩ := hwarned.raised hseen
      obtain ⟨x, hx, first, hfirst, _, _⟩ := Paper.notice_of_has hp hfresh ha hhas
      obtain ⟨n, hn, rfl⟩ := List.mem_map.mp hx
      have hmem : first ∈ days := by
        rw [split_upTo hdays]
        exact List.mem_append_left _ (List.mem_of_find?_eq_some hfirst)
      have hdue := List.find?_some hfirst
      have hn' : first.daysTo ins.validUntil = n := of_decide_eq_true hdue
      exact ⟨first, hmem, hn' ▸ hn⟩
    · obtain ⟨hwithin, before, after, hdays, hbefore⟩ := List.find?_eq_some_iff_append.mp htoday
      obtain ⟨first, hfirst, hn, hlevel⟩ := (insurance_has_iff hp hfresh
        (P := (· = "critical"))).mp (hwarned.critical before today after hdays hwithin)
      have hseven := hcritical _ hn hlevel
      rcases List.mem_append.mp hfirst with hmem | hmem
      · have hnot := hbefore first hmem
        simp [Within, hseven] at hnot
      · rw [← List.mem_singleton.mp hmem]
        exact hseven
  · rintro ⟨hseen, hfirst⟩
    refine ⟨fun hmonth => ?_, Paper.once _ hp hfresh, fun before today after hdays hwithin => ?_⟩
    · obtain ⟨today, htoday, hn⟩ := hseen hmonth
      obtain ⟨before, after, hdays⟩ := List.append_of_mem htoday
      obtain ⟨a, ha, hhas, _, _⟩ := (insurance_has_iff hp hfresh (P := fun _ => True)).mpr
        ⟨today, List.mem_append_right before (List.mem_singleton_self today), hn, trivial⟩
      refine ⟨before, today, after, hdays, ?_, a, ha, hhas⟩
      change 0 ≤ today.daysTo ins.validUntil
      simp only [renewalThresholds, List.mem_cons, List.not_mem_nil, or_false] at hn
      omega
    · obtain ⟨first, hfound, _⟩ := exists_find? (c := Within 7 ins.validUntil)
        (List.mem_append_right before (List.mem_singleton_self today)) hwithin
      have hseven : first.daysTo ins.validUntil = 7 := by
        refine hfirst first ?_
        rw [split_upTo hdays]
        exact find?_prefix hfound
      refine (insurance_has_iff hp hfresh (P := (· = "critical"))).mpr
        ⟨first, List.mem_of_find?_eq_some hfound, ?_, ?_⟩
      · rw [hseven]
        decide
      · rw [hseven]
        rfl

end Warnings

/-- Whatever the days on which the worker runs, the papers that are warned of in time, once for each
level and critically in the last week are the ones that are seen in time. -/
theorem warned_iff_seenInTime (s : Portfolio) (alerts : Table Alert) (days : List Date) (p : Paper)
    (hp : p.In s) (hfresh : ∀ a ∈ alerts, ¬p.Has a) :
    Warned s alerts days p ↔ SeenInTime days p := by
  cases p with
  | document doc expiry => exact warned_document_iff hp hfresh
  | insurance ins => exact warned_insurance_iff hp hfresh

omit [IdText] in
/-- Ids in decimal digits. -/
@[reducible] def IdText.padded : IdText where
  uuid id := .ofList (zfill 36 id)
  uuid_injective h := zfill_injective (by simpa using congrArg String.toList h)

/-! ## A licence and a policy that end on one day -/

omit [IdText]

theorem in_years_2026 : 1 ≤ 2026 ∧ 2026 ≤ 9999 := by decide

theorem in_year_march : 1 ≤ 3 ∧ 3 ≤ 12 := by decide

/-- A day of March 2026. -/
def inMarch (day : Nat) (h : 1 ≤ day ∧ day ≤ 31 := by decide) : Date :=
  ⟨2026, 3, day, in_years_2026, in_year_march, h⟩

def licence : OperationalDocument where
  id := 1
  tenantId := 1
  subjectType := "driver"
  subjectId := 2
  documentType := "license"
  expiryDate := some (inMarch 31)

def policy : VehicleInsurance where
  id := 1
  tenantId := 1
  vehicleId := 3
  policyNumber := "AP-1"
  validUntil := inMarch 31

def onePortfolio : @Portfolio IdText.padded :=
  let _ := IdText.padded
  { documents := .single licence
    insurances := .single policy
    vehicles := .single { id := 3, tenantId := 1, plate := "AAA-001" }
    documentIds := by decide
    insuranceIds := by decide
    insured := by decide }

theorem has_no_alert [IdText] (p : Paper) : ∀ a ∈ (∅ : Table Alert), ¬p.Has a :=
  fun a ha => absurd ha (Table.not_mem_empty a)

/-- The worker runs a week before both end, and on the day before they do. -/
theorem warned_in_last_week :
    let _ := IdText.padded
    let days := [inMarch 24, inMarch 30]
    Warned onePortfolio ∅ days (.document licence (inMarch 31)) ∧
      Warned onePortfolio ∅ days (.insurance policy) := by
  intro _ days
  have hlicence : (Paper.document licence (inMarch 31)).In onePortfolio :=
    ⟨List.mem_singleton_self _, rfl⟩
  have hpolicy : (Paper.insurance policy).In onePortfolio := List.mem_singleton_self _
  refine ⟨(warned_iff_seenInTime _ _ _ _ hlicence (has_no_alert _)).mpr ?_,
    (warned_iff_seenInTime _ _ _ _ hpolicy (has_no_alert _)).mpr ⟨?_, ?_⟩⟩
  · exact fun _ => ⟨inMarch 24, by decide, by decide⟩
  · exact fun _ => ⟨inMarch 24, by decide, by decide⟩
  · intro today hfirst
    have hfound : days.find? (Within 7 policy.validUntil) = some (inMarch 24) := by decide
    cases hfound.symm.trans hfirst
    decide

/-- The worker runs three weeks before both end and on the day before they do: the alert of the
licence stays as it was, and there is none of the policy. -/
theorem not_escalated :
    let _ := IdText.padded
    let days := [inMarch 10, inMarch 30]
    ¬Warned onePortfolio ∅ days (.document licence (inMarch 31)) ∧
      ¬Warned onePortfolio ∅ days (.insurance policy) := by
  intro _ days
  have hlicence : (Paper.document licence (inMarch 31)).In onePortfolio :=
    ⟨List.mem_singleton_self _, rfl⟩
  have hpolicy : (Paper.insurance policy).In onePortfolio := List.mem_singleton_self _
  constructor
  · intro hwarned
    obtain ⟨today, hfirst, hweek⟩ := (warned_document_iff hlicence (has_no_alert _)).mp hwarned
      ⟨inMarch 30, by decide, by decide⟩
    have hfound : days.find? (Within 30 (inMarch 31)) = some (inMarch 10) := by decide
    cases hfound.symm.trans hfirst
    revert hweek
    decide
  · intro hwarned
    obtain ⟨_, hday⟩ := (warned_insurance_iff hpolicy (has_no_alert _)).mp hwarned
    exact absurd (hday (inMarch 30) (by decide)) (by decide)

end Rotas
