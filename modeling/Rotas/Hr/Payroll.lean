import Rotas.Hr.Service
import Rotas.Lib.Run

/-!
# Rotas.Hr.Payroll

Payroll over runs of months.

* `PayrollLaws`      — the stored slips add up, their entries are balanced, and absences and
  advances are deducted once.
* `generatePayroll_fails` — a request that selects an employee without a slip for the period never
  completes: the totals of the entry read an attribute that slips do not have.
* `payroll_lawful`   — the runs that complete and keep the laws: those whose requests have no slip
  to generate.
* `first_slip_fails` — the first slip of an employee.
-/

namespace Rotas

open Work Decimal

/-! ## What payroll promises -/

/-- The signed sum of the lines of a slip. -/
def Staff.linesTotal (db : Staff) (slipId : UUID) : Int :=
  db.payrollSlipLines.sumWhere (·.payrollSlipId = slipId) PayrollSlipLine.amount

/-- The days a slip leaves out of the thirty it pays, in hundredths. -/
def Staff.daysDeducted (db : Staff) (s : PayrollSlip) : Int :=
  3000 - db.payrollSlipLines.sumWhere (fun l => l.payrollSlipId = s.id && l.code = "R01")
    PayrollSlipLine.quantity

/-- What the slips of an employee deduct for advances. -/
def Staff.advancesDeducted (db : Staff) (employeeId : UUID) : Int :=
  ((db.payrollSlips.rows.filter (·.employeeId = employeeId)).map fun s =>
    db.payrollSlipLines.sumWhere (fun l => l.payrollSlipId = s.id && l.code = "D03")
      PayrollSlipLine.amount).sum

/-- The day lies in the month of the slip. -/
def PayrollSlip.Covers (s : PayrollSlip) (day : Int) : Prop :=
  daysBefore s.periodYear s.periodMonth < day ∧
    day ≤ daysBefore s.periodYear s.periodMonth + daysInMonth s.periodYear s.periodMonth

/-- Every day of every unpaid absence of the employee lies in a month that was generated. -/
def Staff.AllGenerated (db : Staff) (employeeId : UUID) : Prop :=
  ∀ a ∈ db.absences, a.employeeId = employeeId → a.isPaid = false →
    ∀ day, a.startDate ≤ day → day ≤ a.endDate →
      ∃ s ∈ db.payrollSlips, s.employeeId = employeeId ∧ s.Covers day

structure PayrollLaws (db : Staff) : Prop where
  net : ∀ s ∈ db.payrollSlips,
    s.netSalary = s.grossSalary - s.totalDeductions ∧ s.netSalary = db.linesTotal s.id
  balanced : ∀ e ∈ db.books.journalEntries, e.journalType = "VENC" →
    db.books.journalItems.sumWhere (·.journalEntryId = e.id) JournalItem.debit =
      db.books.journalItems.sumWhere (·.journalEntryId = e.id) JournalItem.credit
  absences : ∀ e ∈ db.employees, db.AllGenerated e.id →
    ((db.payrollSlips.rows.filter (·.employeeId = e.id)).map db.daysDeducted).sum =
      100 * ((db.absences.rows.filter fun a => a.employeeId = e.id && !a.isPaid).map
        Absence.delta).sum
  advances : ∀ e ∈ db.employees, db.advancesDeducted e.id =
    -db.salaryAdvances.sumWhere (fun a => a.employeeId = e.id && a.status = "deducted")
      SalaryAdvance.amount

/-! ## Requests -/

structure PayrollCall where
  tenantId : UUID
  payload : PayrollGenerationRequest

def PayrollCall.serve (c : PayrollCall) (db : Staff) : Except PayrollError (List Slip) × Staff :=
  Work.serve (generatePayroll c.tenantId c.payload) db

def Staff.generate (db : Staff) (c : PayrollCall) : Staff := (c.serve db).2

/-- The call completes and leaves the laws, and no advance that a slip of it should have deducted. -/
structure PayrollCall.Lawful (c : PayrollCall) (db : Staff) : Prop where
  completes : (c.serve db).1.isOk = true
  laws : PayrollLaws (db.generate c)
  deducted : ∀ emps, selectEmployees c.tenantId c.payload db = .ok emps → ∀ e ∈ emps,
    existingSlip c.tenantId c.payload e db = false →
      ∀ a ∈ (db.generate c).salaryAdvances, approvedAdvance c.tenantId e a = false

/-- Every employee the call selects has a slip for the period. -/
def PayrollCall.Idle (c : PayrollCall) (db : Staff) : Prop :=
  ∃ emps, selectEmployees c.tenantId c.payload db = .ok emps ∧
    ∀ e ∈ emps, existingSlip c.tenantId c.payload e db = true

section Slips

variable {tenantId : UUID} {payload : PayrollGenerationRequest} {emps : List Employee}
  {db p : Staff} {slips : List Slip}

theorem generateSlips_idle (h : ∀ e ∈ emps, existingSlip tenantId payload e db = true) :
    generateSlips tenantId payload emps db = .ok ([], db) := by
  induction emps with
  | nil => rfl
  | cons e emps ih =>
    rw [generateSlips, if_pos (h e List.mem_cons_self)]
    exact ih fun e' he' => h e' (List.mem_cons_of_mem _ he')

/-- No slips come only from employees who all have one: the first who has none gets one. -/
theorem idle_of_generateSlips (h : generateSlips tenantId payload emps db = .ok ([], p)) :
    ∀ e ∈ emps, existingSlip tenantId payload e db = true := by
  induction emps with
  | nil => exact fun _ he => absurd he List.not_mem_nil
  | cons e emps ih =>
    rw [generateSlips] at h
    split at h
    · next hhas =>
      intro e' he'
      rcases List.mem_cons.mp he' with rfl | he'
      · exact hhas
      · exact ih h e' he'
    · cases hslip : generateSlip tenantId payload e db with
      | error err => rw [hslip] at h; cases h
      | ok r =>
        rw [hslip] at h
        simp only [bind, Except.bind] at h
        split at h
        · cases h
        · cases h

theorem postPayroll_fails (h : slips ≠ []) : ∃ e, postPayroll tenantId payload slips db = .error e := by
  cases slips with
  | nil => exact absurd rfl h
  | cons slip slips => exact ⟨.attributeError "lines", rfl⟩

end Slips

section Run

variable {db : Staff} {c : PayrollCall} {calls : List PayrollCall}

theorem generatePayroll_idle (h : c.Idle db) : c.serve db = (.ok [], db) := by
  obtain ⟨emps, hemps, hhave⟩ := h
  have hprocess : processPayroll c.tenantId c.payload db = .ok ([], db) := by
    simp only [processPayroll, hemps, bind, Except.bind, generateSlips_idle hhave]
    rfl
  simp only [PayrollCall.serve, Work.serve, generatePayroll, bind_def, onPending,
    ofExcept_ok.mpr hprocess]
  rfl

theorem processPayroll_fails (h : ¬ c.Idle db) :
    ∃ e, processPayroll c.tenantId c.payload db = .error e := by
  unfold processPayroll
  cases hemps : selectEmployees c.tenantId c.payload db with
  | error e => exact ⟨e, rfl⟩
  | ok emps =>
    cases hslips : generateSlips c.tenantId c.payload emps db with
    | error e => exact ⟨e, by simp only [bind, Except.bind, hslips]⟩
    | ok r =>
      obtain ⟨slips, p⟩ := r
      cases slips with
      | nil => exact absurd ⟨emps, hemps, idle_of_generateSlips hslips⟩ h
      | cons slip slips =>
        obtain ⟨e, he⟩ := @postPayroll_fails c.tenantId c.payload p (slip :: slips)
          (List.cons_ne_nil _ _)
        exact ⟨e, by simp [bind, Except.bind, hslips, he]⟩

theorem generatePayroll_fails (h : ¬ c.Idle db) : ∃ e, c.serve db = (.error e, db) := by
  obtain ⟨e, he⟩ := processPayroll_fails h
  refine ⟨e, ?_⟩
  simp only [PayrollCall.serve, Work.serve, generatePayroll, bind_def, onPending, Work.ofExcept, he]

theorem generate_same : db.generate c = db := by
  by_cases h : c.Idle db
  · rw [Staff.generate, generatePayroll_idle h]
  · obtain ⟨e, he⟩ := generatePayroll_fails h
    rw [Staff.generate, he]

theorem lawful_iff_idle (h : PayrollLaws db) : c.Lawful db ↔ c.Idle db := by
  constructor
  · intro hlawful
    by_contra hidle
    obtain ⟨e, he⟩ := generatePayroll_fails hidle
    have hok := hlawful.completes
    rw [he] at hok
    cases hok
  · intro hidle
    refine ⟨by rw [generatePayroll_idle hidle]; rfl, by rw [generate_same]; exact h, ?_⟩
    intro emps hemps e he hnone
    obtain ⟨emps', hemps', hhave⟩ := hidle
    obtain rfl := Except.ok.inj (hemps.symm.trans hemps')
    rw [hhave e he] at hnone
    cases hnone

/-- In a run of requests every one completes, its slips and entries add up, and absences and
advances are deducted once, if and only if no request has a slip to generate. -/
theorem payroll_lawful (h : PayrollLaws db) :
    Run.Along Staff.generate (fun db c => c.Lawful db) db calls ↔
      Run.Along Staff.generate (fun db c => c.Idle db) db calls := by
  induction calls with
  | nil => exact Iff.rfl
  | cons c calls ih =>
    simp only [Run.Along, generate_same]
    exact and_congr (lawful_iff_idle h) ih

end Run

/-! ## An employee -/

private def staffOne : Staff where
  employees := .single { id := 1, tenantId := 1, baseSalary := 3000000 }

private def january : PayrollCall := ⟨1, { periodMonth := 1, periodYear := 2024 }⟩

private theorem staffOne_laws : PayrollLaws staffOne where
  net s hs := absurd hs (Table.not_mem_empty s)
  balanced e he := absurd he (Table.not_mem_empty e)
  absences _ _ _ := rfl
  advances _ _ := rfl

/-- A tenant without employees has nothing to generate. -/
theorem payroll_lawful_nobody :
    Run.Along Staff.generate (fun db c => c.Lawful db) staffOne
      [⟨2, { periodMonth := 1, periodYear := 2024 }⟩] :=
  (payroll_lawful staffOne_laws).mpr
    ⟨⟨[], rfl, fun _ he => absurd he List.not_mem_nil⟩, trivial⟩

/-- The first slip of an employee is refused. -/
theorem first_slip_fails : PayrollLaws staffOne ∧ ¬ january.Lawful staffOne := by
  refine ⟨staffOne_laws, fun hlawful => ?_⟩
  obtain ⟨emps, hemps, hhave⟩ := (lawful_iff_idle staffOne_laws).mp hlawful
  cases hemps
  exact absurd (hhave _ List.mem_cons_self) (by decide)

end Rotas
