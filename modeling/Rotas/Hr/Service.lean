import Rotas.Accounting.Posting
import Rotas.Core.Calendar

/-!
# Rotas.Hr.Service

Payroll: the slips of a month, their lines, and the entry they post.

* `monthrange`      — the first and the last day of a month, as days of the calendar.
* `generateSlip`    — the slip of one employee, with its lines.
* `postPayroll`     — the totals of the slips and their entry.
* `generatePayroll` — both, for the employees a request selects.

Amounts are exact decimals until a column stores them in hundredths; every sum, product and
quotient of decimals is rounded to the context.
-/

namespace Rotas

open Work Decimal

/-- What payroll raises. -/
inductive PayrollError where
  | typeError
  | valueError
  | attributeError (name : String)
  | nameError (name : String)
  | invalidOperation
  | posting (e : PostingError)
  | integrityError

/-! ## Rows -/

structure Employee where
  id : UUID
  tenantId : UUID
  irpsTaxPercentage : Int := 0
  baseSalary : Int := 0
  status : String := "active"

/-- Days of an absence, both ends included. -/
structure Absence where
  id : UUID
  tenantId : UUID
  employeeId : UUID
  startDate : Int
  endDate : Int
  isPaid : Bool := true

structure SalaryAdvance where
  id : UUID
  tenantId : UUID
  employeeId : UUID
  amount : Int
  status : String := "pending"

structure PayrollSlip where
  id : UUID
  tenantId : UUID
  employeeId : UUID
  periodMonth : Nat
  periodYear : Nat
  grossSalary : Int
  totalInss : Int
  totalIrps : Int
  totalSyndicate : Int := 0
  totalDeductions : Int
  netSalary : Int
  status : String := "draft"

structure PayrollSlipLine where
  id : UUID
  tenantId : UUID
  payrollSlipId : UUID
  code : String
  description : String
  quantity : Int
  unitPrice : Int
  amount : Int
  irpsTaxPercentage : Option Int
  isTaxableInss : Bool
  isTaxableSyndicate : Bool := false

instance : Keyed Employee := ⟨Employee.id⟩
instance : Keyed Absence := ⟨Absence.id⟩
instance : Keyed SalaryAdvance := ⟨SalaryAdvance.id⟩
instance : Keyed PayrollSlip := ⟨PayrollSlip.id⟩
instance : Keyed PayrollSlipLine := ⟨PayrollSlipLine.id⟩

structure Staff where
  books : Books := {}
  employees : Table Employee := ∅
  absences : Table Absence := ∅
  salaryAdvances : Table SalaryAdvance := ∅
  payrollSlips : Table PayrollSlip := ∅
  payrollSlipLines : Table PayrollSlipLine := ∅

def PayrollSlip.period (s : PayrollSlip) : UUID × UUID × Nat × Nat :=
  (s.tenantId, s.employeeId, s.periodMonth, s.periodYear)

/-- The digits of the columns, and one slip for each employee and period. -/
def Staff.ok (db : Staff) : Bool :=
  db.books.ok && decide (db.payrollSlips.rows.map PayrollSlip.period).Nodup &&
    (db.payrollSlips.rows.all fun s => [s.grossSalary, s.totalInss, s.totalIrps, s.totalDeductions,
      s.netSalary].all fun x => decide (|x| < 10 ^ 14)) &&
    db.payrollSlipLines.rows.all fun l => decide (|l.quantity| < 10 ^ 10) &&
      [l.unitPrice, l.amount].all fun x => decide (|x| < 10 ^ 14)

instance : Store Staff PayrollError := ⟨Staff.ok, .integrityError⟩

/-! ## Requests -/

structure EmployeePayrollVariables where
  employeeId : UUID
  overtimeHours : ℚ := 0
  mealAllowanceDays : ℚ := 0
  otherAllowances : ℚ := 0
  bonus : ℚ := 0

structure PayrollGenerationRequest where
  periodMonth : Nat
  periodYear : Nat
  employeeId : Option UUID := none
  payrollVariables : List EmployeePayrollVariables := []

/-! ## The month -/

/-- The first and the last day of a month; the calendar ends with the year 9999. -/
def monthrange (year month : Nat) : Except PayrollError (Int × Int) :=
  if 9999 < year then .error .valueError
  else .ok (daysBefore year month + 1, daysBefore year month + daysInMonth year month)

/-! ## Slips -/

/-- `_decimal`: two places, of a number whose digits fit the context. -/
def decimal (q : ℚ) : Except PayrollError ℚ :=
  if |quantize 2 q| < 10 ^ 28 then .ok ((quantize 2 q : ℚ) / 100) else .error .invalidOperation

/-- A line before its columns round it. -/
structure SlipLine where
  code : String
  description : String
  quantity : ℚ := 1
  unitPrice : ℚ
  amount : ℚ
  irpsTaxPercentage : Option Int := none
  isTaxableInss : Bool := false

/-- A slip before its columns round it. -/
structure Slip where
  employeeId : UUID
  grossSalary : ℚ
  totalInss : ℚ
  totalIrps : ℚ
  totalDeductions : ℚ
  netSalary : ℚ

def getEmployee (tenantId employeeId : UUID) (db : Staff) : Except PayrollError Employee :=
  match db.employees.get employeeId with
  -- the exception itself is built with an argument too many
  | none => .error .typeError
  | some emp => if emp.tenantId = tenantId then .ok emp else .error .typeError

def selectEmployees (tenantId : UUID) (payload : PayrollGenerationRequest) (db : Staff) :
    Except PayrollError (List Employee) :=
  match payload.employeeId with
  | some employeeId => (getEmployee tenantId employeeId db).map ([·])
  | none => .ok (db.employees.rows.filter fun e => e.tenantId = tenantId && e.status = "active")

def existingSlip (tenantId : UUID) (payload : PayrollGenerationRequest) (emp : Employee)
    (db : Staff) : Bool :=
  db.payrollSlips.rows.any fun s => s.tenantId = tenantId && s.employeeId = emp.id &&
    s.periodMonth = payload.periodMonth && s.periodYear = payload.periodYear

/-- The unpaid absences that start in the month. -/
def unpaidAbsences (tenantId : UUID) (emp : Employee) (startDt endDt : Int) (db : Staff) :
    List Absence :=
  db.absences.rows.filter fun a => a.tenantId = tenantId && a.employeeId = emp.id && !a.isPaid &&
    decide (startDt ≤ a.startDate) && decide (a.startDate ≤ endDt)

/-- The days of an absence, as they are counted. -/
def Absence.delta (a : Absence) : Int := a.endDate - a.startDate + 1

/-- A line of earnings, which raises the taxable total by its amount. -/
def earning (emp : Employee) (code description : String) (quantity unitPrice amount : ℚ) : SlipLine :=
  { code, description, quantity, unitPrice, amount
    irpsTaxPercentage := some emp.irpsTaxPercentage, isTaxableInss := true }

def deduction (code description : String) (amount : ℚ) : SlipLine :=
  { code, description, unitPrice := amount, amount := -amount }

/-- Add a line of earnings to the total and to the lines, if there is something to add. -/
def addEarning (present : Bool) (line : Except PayrollError SlipLine)
    (acc : ℚ × List SlipLine) : Except PayrollError (ℚ × List SlipLine) :=
  if present then do
    let line ← line
    return (context (acc.1 + line.amount), acc.2 ++ [line])
  else return acc

def addVariables (emp : Employee) (dailyValue : ℚ) (v : EmployeePayrollVariables)
    (acc : ℚ × List SlipLine) : Except PayrollError (ℚ × List SlipLine) := do
  let acc ← addEarning (0 < v.overtimeHours) (do
    let overtimeRate ← decimal (context (context (dailyValue / 8) * (3 / 2)))
    let overtimeAmount ← decimal (context (v.overtimeHours * overtimeRate))
    return earning emp "R02" "HORAS EXTRAORDINÁRIAS" v.overtimeHours overtimeRate overtimeAmount) acc
  let acc ← addEarning (0 < v.mealAllowanceDays) (do
    let mealAmount ← decimal (context (v.mealAllowanceDays * 200))
    return earning emp "R03" "SUBSÍDIO DE ALIMENTAÇÃO" v.mealAllowanceDays 200 mealAmount) acc
  let acc ← addEarning (0 < v.otherAllowances)
    (.ok (earning emp "R04" "OUTROS SUBSÍDIOS" 1 v.otherAllowances v.otherAllowances)) acc
  addEarning (0 < v.bonus) (.ok (earning emp "R05" "BÓNUS E PRÉMIOS" 1 v.bonus v.bonus)) acc

def slipRow (tenantId : UUID) (payload : PayrollGenerationRequest) (s : Slip) (id : UUID) :
    PayrollSlip where
  id
  tenantId
  employeeId := s.employeeId
  periodMonth := payload.periodMonth
  periodYear := payload.periodYear
  grossSalary := numeric 2 s.grossSalary
  totalInss := numeric 2 s.totalInss
  totalIrps := numeric 2 s.totalIrps
  totalDeductions := numeric 2 s.totalDeductions
  netSalary := numeric 2 s.netSalary

def slipLineRow (tenantId payrollSlipId : UUID) (l : SlipLine) (id : UUID) : PayrollSlipLine where
  id
  tenantId
  payrollSlipId
  code := l.code
  description := l.description
  quantity := numeric 2 l.quantity
  unitPrice := numeric 2 l.unitPrice
  amount := numeric 2 l.amount
  irpsTaxPercentage := l.irpsTaxPercentage
  isTaxableInss := l.isTaxableInss

def addSlipLines (tenantId payrollSlipId : UUID) : List SlipLine → Staff → Staff
  | [], db => db
  | l :: ls, db => addSlipLines tenantId payrollSlipId ls
      { db with payrollSlipLines :=
          db.payrollSlipLines.insert (slipLineRow tenantId payrollSlipId l) }

/-- The advances that are deducted from the next slip of the employee. -/
def approvedAdvance (tenantId : UUID) (emp : Employee) (a : SalaryAdvance) : Bool :=
  a.tenantId = tenantId && a.employeeId = emp.id && a.status = "approved"

/-- The slip of an employee and its lines, as they are before the columns round them. -/
def computeSlip (tenantId : UUID) (payload : PayrollGenerationRequest) (emp : Employee)
    (db : Staff) : Except PayrollError (Slip × List SlipLine) := do
  let dailyValue ← decimal (context ((emp.baseSalary : ℚ) / 100 / 30))
  let (startDt, endDt) ← monthrange payload.periodYear payload.periodMonth
  let daysAbsent := sum ((unpaidAbsences tenantId emp startDt endDt db).map fun a => (a.delta : ℚ))
  let workedDays := if context (30 - daysAbsent) < 0 then 0 else context (30 - daysAbsent)
  let basePay ← decimal (context (workedDays * dailyValue))
  let r01 := earning emp "R01" "REMUNERAÇÃO MENSAL (MZN)" workedDays dailyValue basePay
  let (totalTaxable, earnings) ←
    match payload.payrollVariables.find? (·.employeeId = emp.id) with
    | some v => addVariables emp dailyValue v (basePay, [r01])
    | none => .ok (basePay, [r01])
  let inssDeduction ← decimal (context (totalTaxable * (3 / 100)))
  let irpsDeduction ←
    if 0 < emp.irpsTaxPercentage then
      decimal (context (totalTaxable * context ((emp.irpsTaxPercentage : ℚ) / 100 / 100)))
    else .ok 0
  let advances := db.salaryAdvances.rows.filter (approvedAdvance tenantId emp)
  let totalAdvancesDeduction := sum (advances.map fun a => (a.amount : ℚ) / 100)
  let totalDeductions := context (context (inssDeduction + irpsDeduction) + totalAdvancesDeduction)
  let d01 := deduction "D01" "SEGURANÇA SOCIAL (3%)" inssDeduction
  let d02 := deduction "D02" s!"IRPS ({fixed2 emp.irpsTaxPercentage}%)" irpsDeduction
  let d03 := deduction "D03" "ADIANTAMENTOS DE VENCIMENTO" totalAdvancesDeduction
  let slip : Slip :=
    { employeeId := emp.id
      grossSalary := totalTaxable
      totalInss := inssDeduction
      totalIrps := irpsDeduction
      totalDeductions
      netSalary := context (totalTaxable - totalDeductions) }
  return (slip, earnings ++ [d01] ++ (if 0 < irpsDeduction then [d02] else []) ++
    if 0 < totalAdvancesDeduction then [d03] else [])

/-- The slip and its lines are added, and the advances marked that it deducts. -/
def generateSlip (tenantId : UUID) (payload : PayrollGenerationRequest) (emp : Employee)
    (db : Staff) : Except PayrollError (Slip × Staff) := do
  let (slip, lines) ← computeSlip tenantId payload emp db
  return (slip, addSlipLines tenantId db.payrollSlips.freshKey lines
    { db with
      salaryAdvances := db.salaryAdvances.modifyAll (approvedAdvance tenantId emp)
        fun a => { a with status := "deducted" }
      payrollSlips := db.payrollSlips.insert (slipRow tenantId payload slip) })

/-- The slips of the employees who have none for the period. -/
def generateSlips (tenantId : UUID) (payload : PayrollGenerationRequest) :
    List Employee → Staff → Except PayrollError (List Slip × Staff)
  | [], db => .ok ([], db)
  | emp :: emps, db =>
    if existingSlip tenantId payload emp db then generateSlips tenantId payload emps db
    else do
      let (slip, db) ← generateSlip tenantId payload emp db
      let (slips, db) ← generateSlips tenantId payload emps db
      return (slip :: slips, db)

/-! ## The entry -/

/-- `slip.lines`: the mapped class of a slip has no such attribute. -/
def Slip.lines (_ : Slip) : Except PayrollError (List SlipLine) := .error (.attributeError "lines")

/-- What the slips deduct for advances, read off their lines. -/
def advancesOf : List Slip → Except PayrollError (List ℚ)
  | [] => .ok []
  | slip :: slips => do
    let lines ← slip.lines
    let rest ← advancesOf slips
    return ((lines.filter (·.code = "D03")).map fun l => |l.amount|) ++ rest

/-- `get_account`: the module does not import the class of the accounts it selects from. -/
def getAccount (_code : String) : Except PayrollError UUID := .error (.nameError "Account")

/-- A line of the entry, left out if its amount is not positive. -/
def payrollItem (accountId : UUID) (debit credit : ℚ) : Except PayrollError (List JournalItemCreate) :=
  if 0 < debit + credit then
    match JournalItemCreate.ofLine { accountId, debit, credit } with
    | .ok l => .ok [l]
    | .error e => .error (.posting e)
  else .ok []

def payrollItems (totalGross totalInssEmployer totalIrps totalInss totalAdvances totalNet : ℚ) :
    Except PayrollError (List JournalItemCreate) := do
  let acc622 ← getAccount "6.2.2"
  let acc623 ← getAccount "6.2.3"
  let acc442 ← getAccount "4.4.2"
  let acc449 ← getAccount "4.4.9"
  let acc4512 ← getAccount "4.5.1.2"
  let acc4622 ← getAccount "4.6.2.2"
  return (← payrollItem acc622 totalGross 0) ++ (← payrollItem acc623 totalInssEmployer 0) ++
    (← payrollItem acc442 0 totalIrps) ++ (← payrollItem acc449 0 totalInss) ++
    (← payrollItem acc4512 0 totalAdvances) ++ (← payrollItem acc4622 0 totalNet)

def payrollEntry (payload : PayrollGenerationRequest) (items : List JournalItemCreate) :
    Except PayrollError JournalEntryCreate :=
  if h : items = [] then
    .error (.posting (.valueError "JournalEntryCreate requires 'lines' (or legacy 'items')."))
  else .ok
    { journalType := "VENC"
      date := (daysBefore payload.periodYear payload.periodMonth + 1 - 719163) * 86400
      reference := some s!"Processamento Salarial {payload.periodMonth}/{payload.periodYear}"
      description := some ("Reconhecimento de salários e encargos do mês " ++
        s!"{payload.periodMonth}/{payload.periodYear}")
      items
      present := .inr h }

def postPayroll (tenantId : UUID) (payload : PayrollGenerationRequest) (slips : List Slip)
    (db : Staff) : Except PayrollError Staff := do
  let totalGross := sum (slips.map Slip.grossSalary)
  let totalInssEmployee := sum (slips.map Slip.totalInss)
  let totalInssEmployer := context (totalGross * (4 / 100))
  let totalIrps := sum (slips.map Slip.totalIrps)
  let totalAdvances := sum (← advancesOf slips)
  let totalNet := sum (slips.map Slip.netSalary)
  if 0 < totalGross then
    let items ← payrollItems totalGross totalInssEmployer totalIrps
      (context (totalInssEmployee + totalInssEmployer)) totalAdvances totalNet
    let entry ← payrollEntry payload items
    match createJournalEntry tenantId entry none none db.books with
    | .ok (_, books) => return { db with books }
    | .error e => .error (.posting e)
  else return db

/-- The slips of the period and, if there are any, their entry. -/
def processPayroll (tenantId : UUID) (payload : PayrollGenerationRequest) (db : Staff) :
    Except PayrollError (List Slip × Staff) := do
  let emps ← selectEmployees tenantId payload db
  let (slips, db) ← generateSlips tenantId payload emps db
  if slips.isEmpty then return (slips, db)
  else return (slips, ← postPayroll tenantId payload slips db)

def generatePayroll (tenantId : UUID) (payload : PayrollGenerationRequest) :
    Work Staff PayrollError (List Slip) := do
  let slips ← onPending (ofExcept (processPayroll tenantId payload))
  if slips.isEmpty then return slips
  else do
    commit
    return slips

end Rotas
