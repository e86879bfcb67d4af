import Rotas.Core.Errors
import Rotas.Lib.Decimal
import Rotas.Lib.Inserts
import Rotas.Lib.Table

/-!
# Rotas.Clients.Create

The registration of a client, as a transaction among others: it looks for the third party with the
NUIT of the client, gives it the role and the profile that it lacks, and inserts the client.

* `Row`, `Key`   — the rows of the four tables, and their unique constraints.
* `ClientCreate` — what is sent.
* `createTurn`   — the steps of `create_client`, from its first read to its commit.

A session flushes what was added to it before each query: the role is inserted by the query for the
profile, which is in no `try`.
-/

namespace Rotas
namespace Registration

open Interleave Inserts

/-! ## Rows -/

structure ThirdParty where
  id : UUID
  tenantId : UUID
  name : String
  nuit : Option String := none
  status : String := "active"

structure ThirdPartyRole where
  tenantId : UUID
  thirdPartyId : UUID
  roleType : String
  isActive : Bool := true

/-- Limits count hundredths. -/
structure ClientProfile where
  tenantId : UUID
  thirdPartyId : UUID
  paymentTermsDays : Int := 30
  creditLimit : Option Int := none

structure Client where
  id : UUID
  tenantId : UUID
  tradingName : String
  legalName : Option String := none
  nuit : String
  address : Option String := none
  city : Option String := none
  phone : Option String := none
  email : Option String := none
  paymentTermsDays : Int := 30
  creditLimit : Option Int := none
  isActive : Bool := true
  thirdPartyId : Option UUID := none
  clientType : String := "individual"

inductive Row where
  | thirdParty (row : ThirdParty)
  | role (row : ThirdPartyRole)
  | client (row : Client)
  | profile (row : ClientProfile)

/-- `uq_third_parties_tenant_nuit`, `uq_third_party_roles_tp_role`, `uq_clients_tenant_nuit`, and the
third party of a profile. -/
inductive Key where
  | thirdParty (tenantId : UUID) (nuit : String)
  | role (thirdPartyId : UUID) (roleType : String)
  | client (tenantId : UUID) (nuit : String)
  | profile (thirdPartyId : UUID)
  deriving DecidableEq

/-- A null is equal to nothing. -/
def Row.entry : Row → Option Key
  | .thirdParty row => row.nuit.map (.thirdParty row.tenantId)
  | .role row => some (.role row.thirdPartyId row.roleType)
  | .client row => some (.client row.tenantId row.nuit)
  | .profile row => some (.profile row.thirdPartyId)

instance : Indexed Row Key := ⟨Row.entry⟩

/-! ### Columns -/

/-- `VARCHAR`; a text of the database has no null character. -/
def fitsText (max : Nat) (s : String) : Bool :=
  s.length ≤ max && !s.toList.contains (Char.ofNat 0)

def fitsInteger (n : Int) : Bool := -2147483648 ≤ n && n ≤ 2147483647

/-- `NUMERIC(14, 2)`. -/
def fitsAmount (n : Int) : Bool := n.natAbs < 10 ^ 14

def Row.fits : Row → Bool
  | .thirdParty row => fitsText 160 row.name && row.nuit.all (fitsText 9) && fitsText 30 row.status
  | .role row => fitsText 40 row.roleType
  | .client row =>
    fitsText 160 row.tradingName && row.legalName.all (fitsText 200) && fitsText 9 row.nuit &&
      row.address.all (fitsText 255) && row.city.all (fitsText 120) &&
      row.phone.all (fitsText 40) && row.email.all (fitsText 255) &&
      fitsInteger row.paymentTermsDays && row.creditLimit.all fitsAmount &&
      fitsText 20 row.clientType
  | .profile row => fitsInteger row.paymentTermsDays && row.creditLimit.all fitsAmount

/-! ## What is sent -/

structure ClientCreate where
  tradingName : String
  legalName : Option String := none
  nuit : String
  address : Option String := none
  city : Option String := none
  phone : Option String := none
  email : Option String := none
  clientType : String := "individual"
  paymentTermsDays : Int := 30
  creditLimit : Option ℚ := none

structure Call where
  tenantId : UUID
  payload : ClientCreate

def Call.nuit (call : Call) : String := call.payload.nuit

def newThirdParty (call : Call) (id : UUID) : ThirdParty :=
  { id, tenantId := call.tenantId, name := call.payload.tradingName, nuit := some call.nuit
    status := "active" }

def newRole (call : Call) (thirdPartyId : UUID) : ThirdPartyRole :=
  { tenantId := call.tenantId, thirdPartyId, roleType := "client", isActive := true }

def newProfile (call : Call) (thirdPartyId : UUID) : ClientProfile :=
  { tenantId := call.tenantId, thirdPartyId
    paymentTermsDays := call.payload.paymentTermsDays
    creditLimit := call.payload.creditLimit.map (Decimal.numeric 2) }

def newClient (call : Call) (thirdPartyId id : UUID) : Client where
  id := id
  tenantId := call.tenantId
  tradingName := call.payload.tradingName
  legalName := call.payload.legalName
  nuit := call.payload.nuit
  address := call.payload.address
  city := call.payload.city
  phone := call.payload.phone
  email := call.payload.email
  paymentTermsDays := call.payload.paymentTermsDays
  creditLimit := call.payload.creditLimit.map (Decimal.numeric 2)
  thirdPartyId := some thirdPartyId
  clientType := call.payload.clientType

/-- Each value fits its columns. -/
def ClientCreate.fits (payload : ClientCreate) : Bool :=
  fitsText 160 payload.tradingName && payload.legalName.all (fitsText 200) &&
    fitsText 9 payload.nuit && payload.address.all (fitsText 255) &&
    payload.city.all (fitsText 120) && payload.phone.all (fitsText 40) &&
    payload.email.all (fitsText 255) && fitsInteger payload.paymentTermsDays &&
    payload.creditLimit.all (fun limit => fitsAmount (Decimal.numeric 2 limit)) &&
    fitsText 20 payload.clientType

/-! ## The database -/

/-- An id that was given, and to what; none is given again. -/
structure Issue where
  id : UUID
  tenantId : UUID
  nuit : Option String

instance : Keyed Issue := ⟨Issue.id⟩

/-- A registration that was committed. -/
structure Entry where
  party : Nat
  call : Call
  client : Client
  rows : List Row

structure Registry where
  base : Base Row Key
  issued : Table Issue := ∅
  log : List Entry := []

def newIssue (call : Call) (id : UUID) : Issue :=
  { id, tenantId := call.tenantId, nuit := some call.nuit }

theorem key_newIssue (call : Call) (id : UUID) : Keyed.key (newIssue call id) = id := rfl

def Registry.issue (call : Call) (s : Registry) : Registry :=
  { s with issued := s.issued.insert (newIssue call) (key_newIssue call) }

def Registry.rollback (i : Nat) (s : Registry) : Registry := { s with base := s.base.rollback i }

def Registry.commit (e : Entry) (s : Registry) : Registry :=
  { s with base := s.base.commit e.party e.rows, log := s.log ++ [e] }

/-- A flush of one row; none while it waits. -/
def Registry.insert (i : Nat) (row : Row) (s : Registry) : Option (Except Exc Registry) :=
  if row.fits then
    match s.base.insert i row with
    | .waits => none
    | .violates => some (.error .integrityError)
    | .inserted base => some (.ok { s with base })
  else some (.error .dataError)

def Row.thirdPartyId? (tenantId : UUID) (nuit : String) : Row → Option UUID
  | .thirdParty row => if row.tenantId = tenantId ∧ row.nuit = some nuit then some row.id else none
  | _ => none

/-- The third party with a NUIT. -/
def Registry.thirdPartyId? (tenantId : UUID) (nuit : String) (s : Registry) : Option UUID :=
  s.base.rows.findSome? (Row.thirdPartyId? tenantId nuit)

/-- A row with the key is committed. -/
def Registry.has (k : Key) (s : Registry) : Bool := k ∈ keys s.base.rows

/-! ## Turns -/

/-- What a call is about to do once it knows the third party. -/
inductive Stage where
  | readRole
  /-- Flush the role, if one was added. -/
  | autoflush (added : Bool)
  | readProfile
  | flushClient (added : Bool)
  | flushProfile (clientId : UUID) (added : Bool)
  | commit (clientId : UUID)

/-- A call, its third party, and the rows that it has inserted. -/
structure Work where
  call : Call
  thirdPartyId : UUID
  rows : List Row := []

inductive Phase where
  | idle
  /-- There is no third party. -/
  | missing (call : Call)
  /-- Another one has inserted the third party first. -/
  | lost (call : Call)
  | working (stage : Stage) (w : Work)
  | answered (call : Call) (answer : Except Exc Client)

inductive Act where
  | create (tenantId : UUID) (payload : ClientCreate)
  | go

def nuitAlreadyExists : Exc := conflict "nuit_already_exists" "NUIT já existe neste tenant."

/-- What the last flush makes of an error. -/
def caught : Exc → Exc
  | .integrityError => nuitAlreadyExists
  | e => e

def Registry.fail (i : Nat) (call : Call) (e : Exc) (s : Registry) : Registry × Phase :=
  (s.rollback i, .answered call (.error e))

def insertThirdParty (i : Nat) (call : Call) (s : Registry) : Option (Registry × Phase) :=
  let row := Row.thirdParty (newThirdParty call s.issued.freshKey)
  match s.insert i row with
  | none => none
  | some (.ok s') =>
    some (s'.issue call, .working .readRole ⟨call, s.issued.freshKey, [row]⟩)
  | some (.error .integrityError) => some (s.rollback i, .lost call)
  | some (.error e) => some (s.fail i call e)

def lookAgain (i : Nat) (call : Call) (s : Registry) : Registry × Phase :=
  match s.thirdPartyId? call.tenantId call.nuit with
  | some id => (s, .working .readRole { call, thirdPartyId := id })
  | none => s.fail i call (.attributeError "id")

def Work.flush (i : Nat) (row : Row) (raised : Exc → Exc) (next : Stage) (w : Work)
    (s : Registry) : Option (Registry × Phase) :=
  match s.insert i row with
  | none => none
  | some (.ok s') => some (s', .working next { w with rows := w.rows ++ [row] })
  | some (.error e) => some (s.fail i w.call (raised e))

def Work.commit (i : Nat) (clientId : UUID) (w : Work) (s : Registry) : Registry × Phase :=
  let client := newClient w.call w.thirdPartyId clientId
  (s.commit ⟨i, w.call, client, w.rows⟩, .answered w.call (.ok client))

def Work.go (i : Nat) (stage : Stage) (w : Work) (s : Registry) : Option (Registry × Phase) :=
  match stage with
  | .readRole =>
    some (s, .working (.autoflush !(s.has (.role w.thirdPartyId "client"))) w)
  | .autoflush true =>
    w.flush i (.role (newRole w.call w.thirdPartyId)) id .readProfile s
  | .autoflush false => some (s, .working .readProfile w)
  | .readProfile => some (s, .working (.flushClient !(s.has (.profile w.thirdPartyId))) w)
  | .flushClient added =>
    w.flush i (.client (newClient w.call w.thirdPartyId s.issued.freshKey)) caught
      (.flushProfile s.issued.freshKey added) (s.issue w.call)
  | .flushProfile clientId true =>
    w.flush i (.profile (newProfile w.call w.thirdPartyId)) caught (.commit clientId) s
  | .flushProfile clientId false => some (s, .working (.commit clientId) w)
  | .commit clientId => some (w.commit i clientId s)

def createTurn (i : Nat) (act : Act) (s : Registry) (p : Phase) : Option (Registry × Phase) :=
  match act, p with
  | .create tenantId payload, .idle =>
    match s.thirdPartyId? tenantId payload.nuit with
    | some id => some (s, .working .readRole { call := ⟨tenantId, payload⟩, thirdPartyId := id })
    | none => some (s, .missing ⟨tenantId, payload⟩)
  | .go, .missing call => insertThirdParty i call s
  | .go, .lost call => some (lookAgain i call s)
  | .go, .working stage w => w.go i stage s
  | _, _ => none

/-- One step of a run. -/
def registration : Config Registry Phase → Nat × Act → Config Registry Phase := move createTurn

end Registration
end Rotas
