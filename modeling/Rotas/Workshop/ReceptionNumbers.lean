import Rotas.Workshop.ReceptionTurns

/-!
# Rotas.Workshop.ReceptionNumbers

The numbers of the receptions, over every interleaving of receptions, changes of their status and
releases, and every clock.

* `NumbersLawful` — a number stands once, and the numbers of a year have no gaps.
* `CountersLawful` — the numbers of a tenant and a year are those that its counter has given.
* `countsItsYear` — what is committed has read one year, for its number and for its counter.
* `reception_numbers_lawful` — the law, in every state that such commits lead to.
* `new_year_repeats` — the clock passes into a new year between the two readings.
-/

namespace Rotas

open Table Interleave

/-! ## The law -/

/-- The numbers that the tenants' receptions have. -/
def Desk.numbers (desk : Desk) : List (UUID × String) :=
  desk.receptions.rows.map fun r => (r.tenantId, r.receptionNumber)

structure NumbersLawful (desk : Desk) : Prop where
  unique : desk.numbers.Nodup
  noGaps : ∀ tenantId year n m, (tenantId, sequenceNumber "REC" year n) ∈ desk.numbers →
    0 < m → m ≤ n → (tenantId, sequenceNumber "REC" year m) ∈ desk.numbers

/-- What the counter of a tenant and a year gives next. -/
def Desk.nextNumber (desk : Desk) (tenantId : UUID) (year : Nat) : Nat :=
  desk.shop.nextValue tenantId (sequenceKey "reception" year)

structure CountersLawful (desk : Desk) : Prop where
  issued : ∀ e ∈ desk.numbers, ∃ year n, e.2 = sequenceNumber "REC" year n ∧
    n < desk.nextNumber e.1 year
  complete : ∀ tenantId year n, 0 < n → n < desk.nextNumber tenantId year →
    (tenantId, sequenceNumber "REC" year n) ∈ desk.numbers
  unique : desk.numbers.Nodup

theorem CountersLawful.initial {desk : Desk} (hreceptions : desk.receptions = ∅)
    (hsequences : desk.shop.tenantSequences = ∅) : CountersLawful desk where
  issued e he := by
    rw [Desk.numbers, hreceptions] at he
    exact absurd he List.not_mem_nil
  complete tenantId year n hpos hn := by
    have hnext : desk.nextNumber tenantId year = 1 := by
      rw [Desk.nextNumber, Warehouse.nextValue, Warehouse.sequence, hsequences]
      rfl
    omega
  unique := by
    rw [Desk.numbers, hreceptions]
    exact List.nodup_nil

/-! ## Texts -/

theorem sequenceNumber_injective {label : String} {year year' n n' : Nat}
    (h : sequenceNumber label year n = sequenceNumber label year' n') : year = year' ∧ n = n' := by
  have hchars := congrArg String.toList h
  simp only [sequenceNumber, String.toList_append, String.toList_ofList,
    List.append_assoc] at hchars
  have hdash : ∀ m, '-' ∉ zfill 4 m := fun m =>
    not_mem_of_isDigit (fun _ hc => isDigit_of_mem_zfill hc) rfl
  obtain ⟨hyear, hseq⟩ := split_last (hdash n) (hdash n')
    (List.append_cancel_left (List.append_cancel_left hchars))
  exact ⟨repr_injective (String.toList_injective hyear), zfill_injective hseq⟩

theorem sequenceKey_injective {entityType : String} {year year' : Nat}
    (h : sequenceKey entityType year = sequenceKey entityType year') : year = year' := by
  have hchars := congrArg String.toList h
  simp only [sequenceKey, String.toList_append, List.append_assoc] at hchars
  exact repr_injective (String.toList_injective
    (List.append_cancel_left (List.append_cancel_left hchars)))

/-! ## Counters -/

section Counters

variable {db : Warehouse} {tenantId tenantId' : UUID} {key key' : String} {c : TenantSequence}

theorem sequence_eq_some (h : db.sequence tenantId key = some c) :
    c ∈ db.tenantSequences ∧ c.tenantId = tenantId ∧ c.entityType = key := by
  have hnames := List.find?_some h
  simp only [Bool.and_eq_true, decide_eq_true_eq] at hnames
  exact ⟨List.mem_of_find?_eq_some h, hnames⟩

theorem sequence_setSequence_some (h : db.sequence tenantId key = some c) (value : Nat) :
    (db.setSequence tenantId key value).sequence tenantId' key' =
      (db.sequence tenantId' key').map fun c' =>
        if c'.id = c.id then { c' with currentValue := value } else c' := by
  have hrows : (db.setSequence tenantId key value).tenantSequences.rows =
      db.tenantSequences.rows.map fun c' =>
        if c'.id = c.id then { c' with currentValue := value } else c' := by
    unfold Warehouse.setSequence
    simp only [h, rows_modify]
    rfl
  have hnames : ((fun c' : TenantSequence => decide (c'.tenantId = tenantId') &&
      decide (c'.entityType = key')) ∘ fun c' : TenantSequence =>
        if c'.id = c.id then { c' with currentValue := value } else c') =
      fun c' => decide (c'.tenantId = tenantId') && decide (c'.entityType = key') := by
    funext c'
    by_cases hid : c'.id = c.id <;> simp [hid]
  rw [Warehouse.sequence, hrows, List.find?_map, hnames]
  rfl

theorem sequence_setSequence_none (h : db.sequence tenantId key = none) (value : Nat) :
    (db.setSequence tenantId key value).sequence tenantId' key' =
      (db.sequence tenantId' key').or (if tenantId' = tenantId ∧ key' = key then
        some ⟨db.tenantSequences.freshKey, tenantId, key, value⟩ else none) := by
  have hrows : (db.setSequence tenantId key value).tenantSequences.rows =
      db.tenantSequences.rows ++ [⟨db.tenantSequences.freshKey, tenantId, key, value⟩] := by
    unfold Warehouse.setSequence
    rw [h]
    rfl
  rw [Warehouse.sequence, hrows, List.find?_append, List.find?_singleton]
  congr 1
  by_cases hsame : tenantId' = tenantId ∧ key' = key
  · obtain ⟨rfl, rfl⟩ := hsame
    simp
  · rw [if_neg hsame, if_neg]
    simp only [Bool.and_eq_true, decide_eq_true_eq]
    rintro ⟨rfl, rfl⟩
    exact hsame ⟨rfl, rfl⟩

theorem nextValue_setSequence (value : Nat) :
    (db.setSequence tenantId key value).nextValue tenantId' key' =
      if tenantId' = tenantId ∧ key' = key then value + 1 else db.nextValue tenantId' key' := by
  unfold Warehouse.nextValue
  cases hfound : db.sequence tenantId key with
  | some c =>
    rw [sequence_setSequence_some hfound]
    by_cases hsame : tenantId' = tenantId ∧ key' = key
    · obtain ⟨rfl, rfl⟩ := hsame
      simp [hfound]
    · rw [if_neg hsame]
      cases hfound' : db.sequence tenantId' key' with
      | none => rfl
      | some c' =>
        obtain ⟨hmem, htenant, hkey⟩ := sequence_eq_some hfound
        obtain ⟨hmem', htenant', hkey'⟩ := sequence_eq_some hfound'
        have hid : c'.id ≠ c.id := by
          intro hid
          have heq : c' = c := eq_of_key hmem' hmem hid
          subst heq
          exact hsame ⟨htenant'.symm.trans htenant, hkey'.symm.trans hkey⟩
        simp [hid]
  | none =>
    rw [sequence_setSequence_none hfound]
    by_cases hsame : tenantId' = tenantId ∧ key' = key
    · obtain ⟨rfl, rfl⟩ := hsame
      simp [hfound]
    · rw [if_neg hsame, if_neg hsame, Option.or_none]

end Counters

/-! ## Turns -/

/-- What is committed has read one year, for its number and for its counter. -/
def countsItsYear (c : Config DeskStore DeskPhase) (m : Nat × DeskAction) : Bool :=
  match m.2, c.parties m.1 with
  | .commit, .numbered w _ => w.currentYear = w.counterYear
  | _, _ => true

/-- A reception that has its number holds the counter that gave it. -/
def NumberHeld (i : Nat) (s : DeskStore) : DeskPhase → Prop
  | .numbered w seqNum => s.locks w.key = some i ∧
    seqNum = s.desk.nextNumber w.request.tenantId w.counterYear
  | _ => True

section Writes

variable {desk desk' : Desk} {w : ReceiveWork} {seqNum : Nat} {p : DeskPhase}

theorem numbers_write : (w.write seqNum desk).numbers =
    desk.numbers ++ [(w.request.tenantId, sequenceNumber "REC" w.currentYear seqNum)] := by
  simp only [Desk.numbers, ReceiveWork.write, addReception, rows_insert, List.map_append]
  rfl

theorem nextNumber_write (tenantId : UUID) (year : Nat) :
    (w.write seqNum desk).nextNumber tenantId year =
      if tenantId = w.request.tenantId ∧ year = w.counterYear then seqNum + 1
      else desk.nextNumber tenantId year := by
  have hnext : (w.write seqNum desk).nextNumber tenantId year =
      (desk.shop.setSequence w.key.1 w.key.2 seqNum).nextValue tenantId
        (sequenceKey "reception" year) := rfl
  rw [hnext, nextValue_setSequence]
  by_cases hsame : tenantId = w.request.tenantId ∧ year = w.counterYear
  · obtain ⟨rfl, rfl⟩ := hsame
    rw [if_pos ⟨rfl, rfl⟩, if_pos ⟨rfl, rfl⟩]
  · rw [if_neg hsame, if_neg]
    · rfl
    · rintro ⟨htenant, hkey⟩
      exact hsame ⟨htenant, sequenceKey_injective hkey⟩

/-- Changes of status and releases leave the numbers and the counters. -/
theorem numbers_writeStatus (reception : VehicleReception) (newStatus : ReceptionStatus) :
    (writeStatus reception newStatus desk).numbers = desk.numbers ∧
      (writeStatus reception newStatus desk).shop = desk.shop := by
  unfold writeStatus
  split
  · exact ⟨rfl, rfl⟩
  · refine ⟨?_, rfl⟩
    simp only [Desk.numbers, rows_modify, List.map_map]
    refine List.map_congr_left fun r _ => ?_
    by_cases hid : Keyed.key r = reception.id <;> simp [hid]

theorem numbers_writeRelease (tenantId : UUID) (payload : VehicleReleaseCreate)
    (actorId : Option UUID) (reception : VehicleReception) :
    (writeRelease tenantId payload actorId reception desk).numbers = desk.numbers ∧
      (writeRelease tenantId payload actorId reception desk).shop = desk.shop := by
  obtain ⟨hnumbers, hshop⟩ := @numbers_writeStatus { desk with
    releases := desk.releases.insert (releaseOf tenantId payload actorId reception) }
      reception payload.releaseType.closing
  exact ⟨hnumbers, hshop⟩

/-- The next number of the year is given, and the counter moved on. -/
theorem CountersLawful.write (h : CountersLawful desk) (hyear : w.currentYear = w.counterYear)
    (hseq : seqNum = desk.nextNumber w.request.tenantId w.counterYear) :
    CountersLawful (w.write seqNum desk) where
  issued e he := by
    rw [numbers_write, List.mem_append, List.mem_singleton] at he
    rcases he with hold | rfl
    · obtain ⟨year, n, hnumber, hn⟩ := h.issued e hold
      refine ⟨year, n, hnumber, ?_⟩
      rw [nextNumber_write]
      split
      · next hsame =>
        obtain ⟨htenant, rfl⟩ := hsame
        rw [htenant, ← hseq] at hn
        omega
      · exact hn
    · refine ⟨w.currentYear, seqNum, rfl, ?_⟩
      rw [nextNumber_write, if_pos ⟨rfl, hyear⟩]
      omega
  complete tenantId year n hpos hn := by
    rw [numbers_write, List.mem_append, List.mem_singleton]
    rw [nextNumber_write] at hn
    split at hn
    · next hsame =>
      obtain ⟨rfl, rfl⟩ := hsame
      by_cases hlast : n = seqNum
      · right
        rw [hlast, hyear]
      · left
        exact h.complete _ _ n hpos (by omega)
    · exact .inl (h.complete _ _ n hpos hn)
  unique := by
    rw [numbers_write, List.nodup_append]
    refine ⟨h.unique, List.nodup_singleton _, fun e he e' he' hsame => ?_⟩
    rw [List.mem_singleton.mp he'] at hsame
    obtain ⟨year, n, hnumber, hn⟩ := h.issued e he
    rw [hsame] at hnumber hn
    obtain ⟨rfl, rfl⟩ := sequenceNumber_injective hnumber
    dsimp only at hn
    rw [hyear, ← hseq] at hn
    omega

theorem CountersLawful.congr (h : CountersLawful desk) (hnumbers : desk'.numbers = desk.numbers)
    (hshop : desk'.shop = desk.shop) : CountersLawful desk' := by
  have hnext : desk'.nextNumber = desk.nextNumber := by
    funext tenantId year
    rw [Desk.nextNumber, Desk.nextNumber, hshop]
  refine ⟨?_, ?_, ?_⟩
  · rw [hnumbers, hnext]
    exact h.issued
  · rw [hnumbers, hnext]
    exact h.complete
  · rw [hnumbers]
    exact h.unique

theorem CountersLawful.numbers (h : CountersLawful desk) : NumbersLawful desk where
  unique := h.unique
  noGaps tenantId year n m hn hpos hle := by
    obtain ⟨year', n', hnumber, hlt⟩ := h.issued _ hn
    obtain ⟨rfl, rfl⟩ := sequenceNumber_injective hnumber
    exact h.complete tenantId year m hpos (by dsimp only at hlt; omega)

end Writes

section Turns

variable [Locale] [Unicode] {c : Config DeskStore DeskPhase} {i : Nat} {act : DeskAction}
  {s s' : DeskStore} {p p' : DeskPhase}

theorem DeskStep.own (h : DeskStep i s act p s' p') (hs : CountersLawful s.desk)
    (hp : NumberHeld i s p)
    (hyear : act = .commit → ∀ w seqNum, p = .numbered w seqNum → w.currentYear = w.counterYear) :
    CountersLawful s'.desk ∧ NumberHeld i s' p' := by
  cases h with
  | ended => exact ⟨hs, trivial⟩
  | read _ h =>
    refine ⟨hs, ?_⟩
    cases h <;> trivial
  | inserted => exact ⟨hs, trivial⟩
  | moved w => exact ⟨hs, Locks.take_self, rfl⟩
  | wrote h =>
    refine ⟨?_, trivial⟩
    cases h with
    | received w seqNum => exact hs.write (hyear rfl w seqNum rfl) hp.2
    | updated u reception =>
      obtain ⟨hnumbers, hshop⟩ := numbers_writeStatus reception u.newStatus
      exact hs.congr hnumbers hshop
    | released r reception =>
      obtain ⟨hnumbers, hshop⟩ := numbers_writeRelease r.tenantId r.payload r.actorId reception
      exact hs.congr hnumbers hshop
  | ticked => exact ⟨hs, hp⟩

/-- Nobody moves a counter on that another transaction holds. -/
theorem DeskStep.others (h : DeskStep i s act p s' p') (hp : NumberHeld i s p) {j : Nat}
    (hj : j ≠ i) {q : DeskPhase} (hq : NumberHeld j s q) : NumberHeld j s' q := by
  cases q with
  | numbered w seqNum =>
    obtain ⟨hlock, hseq⟩ := hq
    refine ⟨h.locks_of_ne hj hlock, hseq.trans ?_⟩
    cases h with
    | wrote h =>
      cases h with
      | received w' seqNum' =>
        have hother : ¬(w.request.tenantId = w'.request.tenantId ∧
            w.counterYear = w'.counterYear) := by
          rintro ⟨htenant, hyear⟩
          have hkey : w.key = w'.key := by
            rw [ReceiveWork.key, ReceiveWork.key, htenant, hyear]
          rw [hkey, hp.1] at hlock
          exact hj (Option.some.inj hlock).symm
        exact (nextNumber_write _ _).trans (if_neg hother) |>.symm
      | updated u reception =>
        exact congrArg (fun shop : Warehouse => shop.nextValue _ _)
          (numbers_writeStatus reception u.newStatus).2.symm
      | released r reception =>
        exact congrArg (fun shop : Warehouse => shop.nextValue _ _)
          (numbers_writeRelease r.tenantId r.payload r.actorId reception).2.symm
    | _ => rfl
  | _ => trivial

/-- From receptions whose numbers are those that the counters gave, after every run in which what is
committed has read one year: no two receptions of a tenant have one number, and the numbers of a
year have no gaps. -/
theorem reception_numbers_lawful {desk : Desk} {clock : Instant} {ms : List (Nat × DeskAction)}
    (hstart : CountersLawful desk)
    (hyears : Run.Along (move deskTurn) (fun c m => countsItsYear c m = true)
      (deskStart desk clock) ms) :
    ∀ before after, ms = before ++ after →
      NumbersLawful (deskRun desk clock before).store.desk := by
  rintro before after rfl
  have hholds : Holds (fun s : DeskStore => CountersLawful s.desk) NumberHeld
      (deskRun desk clock before) := by
    refine holds_run ?_ ?_ ⟨hstart, fun _ => trivial⟩ (Run.along_append.mp hyears).1
    · intro c i act s' p' hI hC hturn
      refine (deskStep_of_turn hturn).own hI.store (hI.party i) fun hcommit w seqNum hp => ?_
      simpa [countsItsYear, hcommit, hp] using hC
    · intro c i act s' p' hI _ hturn j hj
      exact (deskStep_of_turn hturn).others (hI.party i) hj (hI.party j)
  exact hholds.store.numbers

end Turns

/-! ## The new year -/

/-- The vehicle of a customer, and nothing received. -/
def newDesk : Desk where
  shop := { vehicles := .single { id := 1, tenantId := 1, plate := "LD-00" } }

/-- One reception after the other; the clock passes on before the year of the counter is read. -/
def receiveAt (i : Nat) (now later : Instant) : List (Nat × DeskAction) :=
  [(i, .tick now), (i, .receive { tenantId := 1, payload := { vehicleId := 1 } }), (i, .readYear),
    (i, .tick later), (i, .readCounterYear), (i, .insertCounter), (i, .moveCounter), (i, .commit)]

def newDeskAfter (ms : List (Nat × DeskAction)) : Config DeskStore DeskPhase :=
  @deskRun .ascii .ascii newDesk 0 ms

/-- The last second of 2026 and the first of 2027. -/
theorem new_year_repeats :
    ¬ NumbersLawful (newDeskAfter (receiveAt 1 1798761500 1798761500 ++
        receiveAt 2 1798761599 1798761600)).store.desk ∧
      ¬ NumbersLawful (newDeskAfter (receiveAt 2 1798761599 1798761600 ++
        receiveAt 1 1798761700 1798761700)).store.desk := by
  constructor
  · intro h
    have hunique := h.unique
    revert hunique
    decide +kernel
  · intro h
    have hgap := h.noGaps 1 2027 2 1 (by decide +kernel) (by decide) (by decide)
    revert hgap
    decide +kernel

theorem reception_numbers_lawful_two :
    NumbersLawful (newDeskAfter (receiveAt 1 1798761500 1798761500)).store.desk ∧
      NumbersLawful (newDeskAfter (receiveAt 1 1798761500 1798761500 ++
        receiveAt 2 1798761600 1798761600)).store.desk := by
  have hlawful : ∀ before after,
      receiveAt 1 1798761500 1798761500 ++ receiveAt 2 1798761600 1798761600 = before ++ after →
        NumbersLawful (newDeskAfter before).store.desk :=
    @reception_numbers_lawful .ascii .ascii newDesk 0 _ (.initial rfl rfl) (by decide +kernel)
  exact ⟨hlawful _ _ rfl, hlawful _ _ (List.append_nil _).symm⟩

end Rotas
