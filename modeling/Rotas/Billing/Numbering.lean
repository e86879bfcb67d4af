import Rotas.Core.Text
import Rotas.Data

/-!
# Rotas.Billing.Numbering

Fiscal numbers. Each counter counts the documents of one tenant and year, of all types together
or of one type, as the tenant's document profile says at the moment of the numbering.

* `Numbering` — what the profile says about numbers.
* `Numbering.counterKey` — the counter a document takes its number from.
* `Numbering.render` — the text of a number.
* `assignInvoiceNumber` — `_assign_invoice_number` within one transaction.
* `render_injective` — a number says its prefix, its year and its place in the sequence.
-/

namespace Rotas

/-! ## The year of an instant -/

/-- The year of the calendar day, counted in days from 1970-01-01. -/
def yearOfDay (day : Int) : Int :=
  let z := day + 719468
  let era := z / 146097
  let doe := z % 146097
  let yoe := (doe - doe / 1460 + doe / 36524 - doe / 146096) / 365
  let doy := doe - (365 * yoe + yoe / 4 - yoe / 100)
  -- The computation counts years from March: day 306 of such a year is the first of January.
  if 306 ≤ doy then yoe + era * 400 + 1 else yoe + era * 400

/-- `datetime.year` in UTC. -/
def yearOf (t : Instant) : Nat := (yearOfDay (t / 86400)).toNat

example : yearOf 1767225599 = 2025 ∧ yearOf 1767225600 = 2026 := by decide

/-! ## Counters and numbers -/

structure Numbering where
  invoicePrefix : String := ""
  padding : Int := 4
  perType : Bool := false

def Numbering.ofProfile : Option TenantDocumentProfile → Numbering
  | some p => ⟨strip p.invoicePrefix, p.invoiceSeqPadding, p.perTypeSequences⟩
  | none => {}

structure CounterKey where
  tenantId : UUID
  fiscalYear : Nat
  docType : String
  deriving DecidableEq

def FiscalCounter.counterKey (c : FiscalCounter) : CounterKey :=
  ⟨c.tenantId, c.fiscalYear, c.docType⟩

def Numbering.counterKey (n : Numbering) (tenantId : UUID) (year : Nat) (type : DocType) :
    CounterKey :=
  ⟨tenantId, year, if n.perType then type.text else ""⟩

def Numbering.render (n : Numbering) (year seq : Nat) : String :=
  let body := digits year ++ '/' :: zfill n.padding seq
  if n.invoicePrefix = "" then .ofList body else n.invoicePrefix ++ .ofList (' ' :: body)

def documentProfile (tenantId : UUID) (db : Db) : Option TenantDocumentProfile :=
  db.documentProfiles.rows.find? (·.tenantId = tenantId)

def Db.counter (db : Db) (key : CounterKey) : Option FiscalCounter :=
  db.fiscalCounters.rows.find? (·.counterKey = key)

/-- The counter's row is there: inserted at zero unless it exists. -/
def ensureCounter (key : CounterKey) (db : Db) : Db :=
  match db.counter key with
  | some _ => db
  | none => { db with
      fiscalCounters := db.fiscalCounters.insert fun id =>
        ⟨id, key.tenantId, key.fiscalYear, key.docType, 0⟩ }

def incrementCounter (key : CounterKey) (db : Db) : Db :=
  { db with
    fiscalCounters := db.fiscalCounters.modifyAll (·.counterKey = key)
      fun c => { c with lastNumber := c.lastNumber + 1 } }

/-- The number of the document, and the database with its counter moved on; a document that has
a number keeps it. -/
def assignInvoiceNumber (tenantId : UUID) (document : BillingDocument) (db : Db) : String × Db :=
  match truthy document.invoiceNumber with
  | some number => (number, db)
  | none =>
    let numbering := Numbering.ofProfile (documentProfile tenantId db)
    let year := yearOf document.billingPeriodStart
    let key := numbering.counterKey tenantId year document.documentType
    let db' := incrementCounter key (ensureCounter key db)
    (numbering.render year (((db'.counter key).map (·.lastNumber)).getD 0), db')

/-- The last number given in a series; no row counts as none given. -/
def Db.lastNumber (db : Db) (key : CounterKey) : Nat := ((db.counter key).map (·.lastNumber)).getD 0

/-- `counter.last_number = number`. -/
def setCounter (key : CounterKey) (number : Nat) (db : Db) : Db :=
  { db with
    fiscalCounters := db.fiscalCounters.modifyAll (·.counterKey = key)
      ({ · with lastNumber := number }) }

theorem assignInvoiceNumber_snd (tenantId : UUID) (document : BillingDocument) (db : Db) :
    (assignInvoiceNumber tenantId document db).2 = { db with
      fiscalCounters := (assignInvoiceNumber tenantId document db).2.fiscalCounters } := by
  unfold assignInvoiceNumber
  split
  · rfl
  · simp only [incrementCounter, ensureCounter]
    split <;> rfl

/-! ## The counters after a numbering -/

section Counters

variable {db : Db} {key key' : CounterKey}

theorem counter_modifyAll (f : FiscalCounter → FiscalCounter) {hf : ∀ c, (f c).id = c.id}
    (hkey : ∀ c, (f c).counterKey = c.counterKey) :
    Db.counter { db with
      fiscalCounters := db.fiscalCounters.modifyAll (·.counterKey = key) f hf } key' =
      (db.counter key').map fun c => if key' = key then f c else c := by
  simp only [Db.counter, Table.rows_modifyAll, List.find?_map]
  have hp : ((fun c : FiscalCounter => decide (c.counterKey = key')) ∘
      fun c => if decide (c.counterKey = key) then f c else c) =
      fun c => decide (c.counterKey = key') := by
    funext c
    simp only [Function.comp]
    split
    · rw [hkey]
    · rfl
  rw [hp]
  cases hc : db.fiscalCounters.rows.find? fun c => decide (c.counterKey = key') with
  | none => rfl
  | some c =>
    have hck : c.counterKey = key' := by simpa using List.find?_some hc
    simp [hck]

theorem counter_ensureCounter_isSome : ((ensureCounter key db).counter key).isSome := by
  unfold ensureCounter
  split
  · next c hc => rw [hc]; rfl
  · simp [Db.counter, FiscalCounter.counterKey]

theorem lastNumber_ensureCounter : (ensureCounter key db).lastNumber key' = db.lastNumber key' := by
  unfold ensureCounter
  split
  · rfl
  · next hnone =>
    simp only [Db.lastNumber, Db.counter, Table.rows_insert, List.find?_append]
    cases hc : db.fiscalCounters.rows.find? fun c => decide (c.counterKey = key') with
    | some c => rfl
    | none =>
      simp only [Option.none_or, List.find?_singleton]
      split <;> rfl

/-- Rewriting a counter that is there moves its series, and no other. -/
theorem lastNumber_modifyAll (f : FiscalCounter → FiscalCounter) {hf : ∀ c, (f c).id = c.id}
    {c : FiscalCounter} (hkey : ∀ c, (f c).counterKey = c.counterKey)
    (hc : db.counter key = some c) :
    Db.lastNumber { db with
      fiscalCounters := db.fiscalCounters.modifyAll (·.counterKey = key) f hf } key' =
      if key' = key then (f c).lastNumber else db.lastNumber key' := by
  unfold Db.lastNumber
  rw [counter_modifyAll f hkey]
  by_cases h : key' = key
  · subst h; simp [hc]
  · simp [h]

theorem lastNumber_setCounter {number : Nat} :
    (setCounter key number (ensureCounter key db)).lastNumber key' =
      if key' = key then number else db.lastNumber key' := by
  obtain ⟨c, hc⟩ : ∃ c, (ensureCounter key db).counter key = some c :=
    Option.isSome_iff_exists.mp counter_ensureCounter_isSome
  rw [setCounter, lastNumber_modifyAll ({ · with lastNumber := number }) (fun _ => rfl) hc,
    lastNumber_ensureCounter]

end Counters

/-! ## What a number says -/

theorem slash_not_mem_zfill {w : Int} {n : Nat} : '/' ∉ zfill w n :=
  not_mem_of_isDigit (fun _ h => isDigit_of_mem_zfill h) rfl

theorem blank_not_mem_digits {n : Nat} : ' ' ∉ digits n :=
  not_mem_of_isDigit (fun _ h => Nat.isDigit_of_mem_toDigits (by decide) (by decide) h) rfl

/-- What stands before the slash. -/
def Numbering.stem (n : Numbering) (year : Nat) : List Char :=
  if n.invoicePrefix = "" then digits year else n.invoicePrefix.toList ++ ' ' :: digits year

theorem toList_render (n : Numbering) (year seq : Nat) :
    (n.render year seq).toList = n.stem year ++ '/' :: zfill n.padding seq := by
  unfold Numbering.render Numbering.stem
  split <;> simp

theorem truthy_render (n : Numbering) (year seq : Nat) :
    truthy (some (n.render year seq)) = some (n.render year seq) := by
  have hne : n.render year seq ≠ "" := by
    intro h
    have hchars := congrArg String.toList h
    rw [toList_render] at hchars
    simp at hchars
  simp [truthy, hne]

theorem stem_injective {n n' : Numbering} {year year' : Nat} (h : n.stem year = n'.stem year') :
    n.invoicePrefix = n'.invoicePrefix ∧ year = year' := by
  by_cases hp : n.invoicePrefix = "" <;> by_cases hp' : n'.invoicePrefix = "" <;>
    simp only [Numbering.stem, hp, hp', if_true, if_false] at h ⊢
  · exact ⟨trivial, digits_injective h⟩
  · exact absurd (h ▸ by simp) (@blank_not_mem_digits year)
  · exact absurd (h ▸ by simp) (@blank_not_mem_digits year')
  · obtain ⟨hstart, hyear⟩ := split_last blank_not_mem_digits blank_not_mem_digits h
    exact ⟨String.toList_injective hstart, digits_injective hyear⟩

theorem render_injective {n n' : Numbering} {year year' seq seq' : Nat}
    (h : n.render year seq = n'.render year' seq') :
    n.invoicePrefix = n'.invoicePrefix ∧ year = year' ∧ seq = seq' := by
  have hchars := congrArg String.toList h
  rw [toList_render, toList_render] at hchars
  obtain ⟨hstem, hseq⟩ := split_last slash_not_mem_zfill slash_not_mem_zfill hchars
  obtain ⟨hstart, hyear⟩ := stem_injective hstem
  exact ⟨hstart, hyear, zfill_injective hseq⟩

end Rotas
