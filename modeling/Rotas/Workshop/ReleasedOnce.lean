import Rotas.Lib.Evolution
import Rotas.Workshop.ReceptionTurns

/-!
# Rotas.Workshop.ReleasedOnce

To whom the vehicles are released, and how often, over every interleaving of receptions, changes of
their status and releases.

* `PickupLawful`   — a release without the override is to somebody who shares a name with whoever is
  authorised.
* `ReleasesLawful` — the law: a reception is released once, and each release is lawful.
* `namesPickup`    — both names leave something to compare.
* `pickup_lawful_iff` — of what passes the comparison, exactly that is lawful.
* `releasesInTurn` — no turn that opens a released reception, or releases one that somebody else has
  closed since it was read.
* `released_once`  — the law, in every state that such turns lead to.
-/

namespace Rotas

open Table Interleave

/-! ## Tokens -/

theorem splitOnPPrepend_empty {α : Type} {p : α → Bool} {xs acc : List α}
    (h : ∀ piece ∈ xs.splitOnPPrepend p acc, piece = []) : acc = [] ∧ ∀ x ∈ xs, p x = true := by
  induction xs generalizing acc with
  | nil =>
    have hacc := h acc.reverse (by simp)
    exact ⟨List.reverse_eq_nil_iff.mp hacc, nofun⟩
  | cons x xs ih =>
    rw [List.splitOnPPrepend_cons_eq_if] at h
    split at h
    · next hx =>
      obtain ⟨hacc, hrest⟩ := List.forall_mem_cons.mp h
      obtain ⟨-, hxs⟩ := ih hrest
      exact ⟨List.reverse_eq_nil_iff.mp hacc, List.forall_mem_cons.mpr ⟨hx, hxs⟩⟩
    · obtain ⟨hacc, -⟩ := ih h
      cases hacc

theorem nameTokens_empty : nameTokens "" = [] := rfl

theorem isSpace_of_no_tokens {s : String} (h : nameTokens s = []) :
    ∀ c ∈ s.toList, isSpace c = true := by
  have hpieces : ∀ piece ∈ s.toList.splitOnPPrepend isSpace [], piece = [] := by
    intro piece hpiece
    have hnone := List.filter_eq_nil_iff.mp (List.map_eq_nil_iff.mp h) piece hpiece
    simpa using hnone
  exact (splitOnPPrepend_empty hpieces).2

/-- A text that is stripped ends with a character that stays, if with any. -/
theorem strip_eq_empty {s : String} (h : ∀ c ∈ (strip s).toList, isSpace c = true) :
    strip s = "" := by
  unfold strip stripBy at h ⊢
  rw [String.toList_ofList] at h
  cases hrest : (s.toList.dropWhile isSpace).reverse.dropWhile isSpace with
  | nil => rfl
  | cons c cs =>
    have hsome : (s.toList.dropWhile isSpace).reverse.dropWhile isSpace ≠ [] := by
      rw [hrest]
      exact List.cons_ne_nil c cs
    have hstays := List.head_dropWhile_not isSpace hsome
    have hspace : isSpace c = true := h c (by simp [hrest])
    simp only [hrest, List.head_cons] at hstays
    rw [hspace] at hstays
    cases hstays

section Names

variable [Locale] [Unicode]

theorem normalizeName_space {name : Option String}
    (h : ∀ c ∈ (normalizeName name).toList, isSpace c = true) : normalizeName name = "" := by
  unfold normalizeName at h ⊢
  split
  · rfl
  · next name hname =>
    rw [hname] at h
    exact strip_eq_empty h

theorem exists_token {name : Option String} (h : normalizeName name ≠ "") :
    ∃ t, t ∈ nameTokens (normalizeName name) := by
  by_contra hnone
  have htokens : nameTokens (normalizeName name) = [] :=
    List.eq_nil_iff_forall_not_mem.mpr fun t ht => hnone ⟨t, ht⟩
  exact h (normalizeName_space (isSpace_of_no_tokens htokens))

/-! ## Who may take a vehicle -/

def PickupLawful (authorized presented : Option String) (overridden : Bool) : Prop :=
  overridden = false → (truthy authorized).isSome → normalizeName presented ≠ "" ∧
    ∃ t ∈ nameTokens (normalizeName authorized), t ∈ nameTokens (normalizeName presented)

/-- Both names leave something to compare, if anybody is authorised and the check not overridden. -/
def namesPickup (authorized presented : Option String) (overridden : Bool) : Bool :=
  overridden || (truthy authorized).isNone ||
    normalizeName authorized ≠ "" && normalizeName presented ≠ ""

theorem shared_token {authorized presented : Option String}
    (hauthorized : normalizeName authorized ≠ "") (hpresented : normalizeName presented ≠ "")
    (h : namesMatch authorized presented = true) :
    ∃ t ∈ nameTokens (normalizeName authorized), t ∈ nameTokens (normalizeName presented) := by
  unfold namesMatch at h
  simp only [hauthorized, hpresented, decide_false, Bool.or_false, Bool.false_eq_true,
    if_false] at h
  split at h
  · next hsame =>
    obtain ⟨t, ht⟩ := exists_token hauthorized
    exact ⟨t, ht, hsame ▸ ht⟩
  · have hcommon : 0 < ((nameTokens (normalizeName authorized)).dedup.filter fun t =>
        (nameTokens (normalizeName presented)).dedup.contains t).length := by
      simp only [Bool.or_eq_true, Bool.and_eq_true, decide_eq_true_eq] at h
      omega
    obtain ⟨t, ht⟩ := List.exists_mem_of_length_pos hcommon
    simp only [List.mem_filter, List.mem_dedup, List.contains_iff_mem] at ht
    exact ⟨t, ht⟩

theorem truthy_of_normalizeName {name : Option String} (h : normalizeName name ≠ "") :
    ∃ text, truthy name = some text ∧ name = some text := by
  unfold normalizeName at h
  split at h
  · exact absurd rfl h
  · next text htext => exact ⟨text, htext, (Option.filter_eq_some_iff.mp htext).1⟩

theorem pickup_lawful_iff {reception : VehicleReception} {payload : VehicleReleaseCreate}
    (h : checkPickup reception payload = .ok ()) :
    PickupLawful reception.pickupAuthorizedByName payload.pickedUpByName
        payload.overrideUnauthorizedPickup ↔
      namesPickup reception.pickupAuthorizedByName payload.pickedUpByName
        payload.overrideUnauthorizedPickup = true := by
  simp only [namesPickup, Bool.or_eq_true, Bool.and_eq_true, decide_eq_true_eq,
    Option.isNone_iff_eq_none]
  constructor
  · intro hlawful
    by_cases hoverride : payload.overrideUnauthorizedPickup = true
    · exact .inl (.inl hoverride)
    · cases hauthorized : truthy reception.pickupAuthorizedByName with
      | none => exact .inl (.inr rfl)
      | some authorized =>
        obtain ⟨hpresented, t, ht, -⟩ :=
          hlawful (eq_false_of_ne_true hoverride) (by simp [hauthorized])
        refine .inr ⟨fun hempty => ?_, hpresented⟩
        rw [hempty, nameTokens_empty] at ht
        cases ht
  · rintro hnames hoverride hsome
    rcases hnames with (hover | hnone) | ⟨hauthorized, hpresented⟩
    · rw [hover] at hoverride
      cases hoverride
    · rw [hnone] at hsome
      cases hsome
    · obtain ⟨authorized, htruthy, heq⟩ := truthy_of_normalizeName hauthorized
      obtain ⟨presented, htruthy', heq'⟩ := truthy_of_normalizeName hpresented
      simp only [checkPickup, htruthy, htruthy', raiseIf_eq_ok, hoverride] at h
      refine ⟨hpresented, shared_token hauthorized hpresented ?_⟩
      rw [heq, heq']
      simpa using h

end Names

/-! ## The names of a reception -/

section Rows

variable {desk desk' : Desk} {reception : VehicleReception}

/-- The names stay. -/
abbrev SameNames : Table VehicleReception → Table VehicleReception → Prop :=
  Evolves (fun r r' => r'.pickupAuthorizedByName = r.pickupAuthorizedByName) fun _ => True

theorem get_writeStatus {newStatus : ReceptionStatus} (h : newStatus ≠ reception.status)
    (id : UUID) : (writeStatus reception newStatus desk).receptions.get id =
      if id = reception.id then
        (desk.receptions.get reception.id).map fun r => { r with status := newStatus }
      else desk.receptions.get id := by
  unfold writeStatus
  rw [if_neg h, get_modify]

theorem releases_writeStatus (newStatus : ReceptionStatus) :
    (writeStatus reception newStatus desk).releases = desk.releases := by
  unfold writeStatus
  split <;> rfl

theorem sameNames_writeStatus (newStatus : ReceptionStatus) :
    SameNames desk.receptions (writeStatus reception newStatus desk).receptions := by
  by_cases hsame : newStatus = reception.status
  · rw [writeStatus, if_pos hsame]
    exact ⟨fun hget => ⟨_, hget, rfl⟩, fun _ _ => trivial⟩
  · constructor
    · intro id row hget
      rw [get_writeStatus hsame]
      split
      · next hid =>
        rw [← hid, hget]
        exact ⟨_, rfl, rfl⟩
      · exact ⟨row, hget, rfl⟩
    · intro _ _ _ _
      trivial

theorem DeskWrite.sameNames {p : DeskPhase} (h : DeskWrite desk p desk') :
    SameNames desk.receptions desk'.receptions := by
  cases h with
  | received w seqNum => exact evolves_insert (fun _ => rfl) (fun _ => rfl) trivial
  | updated u reception => exact sameNames_writeStatus u.newStatus
  | released r reception =>
    have hnames := @sameNames_writeStatus { desk with
      releases := desk.releases.insert (releaseOf r.tenantId r.payload r.actorId reception) }
      reception r.payload.releaseType.closing
    exact hnames

end Rows

/-! ## The law -/

section Law

variable [Locale] [Unicode]

def VehicleRelease.LawfulFor (release : VehicleRelease) (reception : VehicleReception) : Prop :=
  PickupLawful reception.pickupAuthorizedByName release.pickedUpByName
    release.overrideUnauthorizedPickup

structure ReleasesLawful (desk : Desk) : Prop where
  once : (desk.releases.rows.map VehicleRelease.receptionId).Nodup
  named : ∀ release ∈ desk.releases, ∀ reception,
    desk.receptions.get release.receptionId = some reception → release.LawfulFor reception

/-- A release is lawful, and its reception is closed. -/
structure ReleasesSound (desk : Desk) : Prop where
  once : (desk.releases.rows.map VehicleRelease.receptionId).Nodup
  closed : ∀ release ∈ desk.releases, ∃ reception,
    desk.receptions.get release.receptionId = some reception ∧ reception.status.isClosed = true ∧
      release.LawfulFor reception

theorem ReleasesSound.initial {desk : Desk} (h : desk.releases = ∅) : ReleasesSound desk where
  once := by
    rw [h]
    exact List.nodup_nil
  closed release hrelease := by
    rw [h] at hrelease
    exact absurd hrelease List.not_mem_nil

theorem ReleasesSound.lawful {desk : Desk} (h : ReleasesSound desk) : ReleasesLawful desk where
  once := h.once
  named release hrelease reception hget := by
    obtain ⟨reception', hget', -, hlawful⟩ := h.closed release hrelease
    rw [hget] at hget'
    cases hget'
    exact hlawful

/-- No turn opens a released reception, or releases one that has been closed since it was read; and
no release without the override leaves nothing to compare. -/
def releasesInTurn (c : Config DeskStore DeskPhase) (m : Nat × DeskAction) : Bool :=
  match m.2, c.parties m.1 with
  | .commit, .updating u reception => u.newStatus.isClosed || u.newStatus = reception.status ||
      c.store.desk.releases.rows.all fun release => release.receptionId ≠ reception.id
  | .commit, .releasing r reception =>
    ((c.store.desk.receptions.get reception.id).all fun row => !row.status.isClosed) &&
      namesPickup reception.pickupAuthorizedByName r.payload.pickedUpByName
        r.payload.overrideUnauthorizedPickup
  | _, _ => true

/-! ## Turns -/

/-- A release has compared the names that its reception still has. -/
def PickupChecked (_ : Nat) (s : DeskStore) : DeskPhase → Prop
  | .releasing r reception => checkPickup reception r.payload = .ok () ∧
      reception.status.isClosed = false ∧ ∃ row, s.desk.receptions.get reception.id = some row ∧
        row.pickupAuthorizedByName = reception.pickupAuthorizedByName
  | _ => True

variable {desk desk' : Desk} {reception : VehicleReception} {tenantId : UUID}
  {payload : VehicleReleaseCreate} {actorId : Option UUID}

theorem requireReleasable_eq_ok {receptionId : UUID}
    (h : requireReleasable tenantId receptionId payload desk = .ok reception) :
    desk.receptions.get reception.id = some reception ∧ reception.status.isClosed = false ∧
      checkPickup reception payload = .ok () := by
  simp only [requireReleasable, requireReception, bind_eq_ok, require_eq_ok, raiseIf_eq_ok, pure,
    Except.pure, Except.ok.injEq, Option.filter_eq_some_iff] at h
  obtain ⟨row, ⟨hget, -⟩, -, hopen, ⟨⟩, hpickup, rfl⟩ := h
  have hid : row.id = receptionId := key_of_get hget
  exact ⟨by rw [hid]; exact hget, hopen, hpickup⟩

theorem ReleasesSound.kept (h : ReleasesSound desk) (hreleases : desk'.releases = desk.releases)
    (hkept : ∀ release ∈ desk.releases, ∀ row, desk.receptions.get release.receptionId = some row →
      row.status.isClosed = true → ∃ row', desk'.receptions.get release.receptionId = some row' ∧
        row'.status.isClosed = true ∧ row'.pickupAuthorizedByName = row.pickupAuthorizedByName) :
    ReleasesSound desk' where
  once := by
    rw [hreleases]
    exact h.once
  closed release hrelease := by
    rw [hreleases] at hrelease
    obtain ⟨row, hget, hclosed, hlawful⟩ := h.closed release hrelease
    obtain ⟨row', hget', hclosed', hname⟩ := hkept release hrelease row hget hclosed
    refine ⟨row', hget', hclosed', ?_⟩
    unfold VehicleRelease.LawfulFor
    rw [hname]
    exact hlawful

theorem ReleasesSound.writeStatus (h : ReleasesSound desk) (newStatus : ReceptionStatus)
    (hkeeps : newStatus.isClosed = true ∨ newStatus = reception.status ∨
      ∀ release ∈ desk.releases, release.receptionId ≠ reception.id) :
    ReleasesSound (Rotas.writeStatus reception newStatus desk) := by
  by_cases hsame : newStatus = reception.status
  · rw [Rotas.writeStatus, if_pos hsame]
    exact h
  · refine h.kept (releases_writeStatus newStatus) fun release hrelease row hget hclosed => ?_
    rw [get_writeStatus hsame]
    split
    · next hid =>
      rcases hkeeps with hcloses | hread | hnone
      · rw [← hid, hget]
        exact ⟨_, rfl, hcloses, rfl⟩
      · exact absurd hread hsame
      · exact absurd hid (hnone release hrelease)
    · exact ⟨row, hget, hclosed, rfl⟩

theorem ReleasesSound.writeRelease (h : ReleasesSound desk) {row : VehicleReception}
    (hopen : reception.status.isClosed = false)
    (hget : desk.receptions.get reception.id = some row) (hrow : row.status.isClosed = false)
    (hlawful : PickupLawful row.pickupAuthorizedByName payload.pickedUpByName
      payload.overrideUnauthorizedPickup) :
    ReleasesSound (Rotas.writeRelease tenantId payload actorId reception desk) := by
  have hcloses : payload.releaseType.closing.isClosed = true := by
    cases payload.releaseType <;> rfl
  have hnew : payload.releaseType.closing ≠ reception.status := by
    intro hsame
    rw [hsame, hopen] at hcloses
    cases hcloses
  have hfree : ∀ release ∈ desk.releases, release.receptionId ≠ reception.id := by
    intro release hrelease hid
    obtain ⟨row', hget', hclosed, -⟩ := h.closed release hrelease
    rw [hid, hget] at hget'
    cases hget'
    rw [hrow] at hclosed
    cases hclosed
  unfold Rotas.writeRelease
  refine ⟨?_, fun release hrelease => ?_⟩
  · rw [releases_writeStatus, rows_insert]
    exact nodup_append_entry h.once hfree
  · rw [releases_writeStatus] at hrelease
    rw [get_writeStatus hnew]
    rw [mem_insert] at hrelease
    rcases hrelease with hold | rfl
    · rw [if_neg (hfree release hold)]
      exact h.closed release hold
    · refine ⟨{ row with status := payload.releaseType.closing }, ?_, hcloses, hlawful⟩
      exact (if_pos rfl).trans (congrArg (Option.map _) hget)

variable {i : Nat} {act : DeskAction} {s s' : DeskStore} {p p' : DeskPhase}
  {c : Config DeskStore DeskPhase}

theorem DeskStep.own_release (h : DeskStep i c.store act (c.parties i) s' p')
    (hs : ReleasesSound c.store.desk) (hp : PickupChecked i c.store (c.parties i))
    (hturn : releasesInTurn c (i, act) = true) : ReleasesSound s'.desk ∧ PickupChecked i s' p' := by
  generalize hphase : c.parties i = p at h hp
  cases h with
  | ended => exact ⟨hs, trivial⟩
  | read _ h =>
    refine ⟨hs, ?_⟩
    cases h with
    | releasable r reception h =>
      obtain ⟨hget, hopen, hpickup⟩ := requireReleasable_eq_ok h
      exact ⟨hpickup, hopen, reception, hget, rfl⟩
    | _ => trivial
  | inserted => exact ⟨hs, trivial⟩
  | moved => exact ⟨hs, trivial⟩
  | wrote h =>
    refine ⟨?_, trivial⟩
    cases h with
    | received w seqNum =>
      refine hs.kept rfl fun release hrelease row hget hclosed => ⟨row, ?_, hclosed, rfl⟩
      exact get_insert_of_get _ _ (by intro; rfl) hget
    | updated u reception =>
      refine hs.writeStatus u.newStatus ?_
      simp only [releasesInTurn, hphase, Bool.or_eq_true, decide_eq_true_eq,
        List.all_eq_true] at hturn
      rcases hturn with (hcloses | hsame) | hnone
      · exact .inl hcloses
      · exact .inr (.inl hsame)
      · exact .inr (.inr hnone)
    | released r reception =>
      obtain ⟨hpickup, hopen, row, hget, hname⟩ := hp
      simp only [releasesInTurn, hphase, hget, Option.all_some, Bool.and_eq_true,
        Bool.not_eq_true'] at hturn
      refine hs.writeRelease hopen hget hturn.1 ?_
      rw [hname]
      exact (pickup_lawful_iff hpickup).mpr hturn.2
  | ticked => exact ⟨hs, hp⟩

theorem DeskStep.others_release (h : DeskStep i s act p s' p') {j : Nat} {q : DeskPhase}
    (hq : PickupChecked j s q) : PickupChecked j s' q := by
  cases q with
  | releasing r reception =>
    obtain ⟨hpickup, hopen, row, hget, hname⟩ := hq
    refine ⟨hpickup, hopen, ?_⟩
    cases h with
    | wrote h =>
      obtain ⟨row', hget', hname'⟩ := h.sameNames.kept hget
      exact ⟨row', hget', hname'.trans hname⟩
    | _ => exact ⟨row, hget, hname⟩
  | _ => trivial

/-- From receptions whose releases are sound, after every run of turns that open no released
reception, release none that has been closed since it was read, and leave two names to compare: a
reception is released once, and to somebody who shares a name with whoever is authorised, unless the
check was overridden. And of the releases that pass the comparison, those are lawful that have two
names to compare. -/
theorem released_once {desk : Desk} {clock : Instant} {ms : List (Nat × DeskAction)}
    (hstart : ReleasesSound desk)
    (hturns : Run.Along (move deskTurn) (fun c m => releasesInTurn c m = true)
      (deskStart desk clock) ms) :
    (∀ before after, ms = before ++ after →
      ReleasesLawful (deskRun desk clock before).store.desk) ∧
    ∀ (reception : VehicleReception) (payload : VehicleReleaseCreate),
      checkPickup reception payload = .ok () →
        (PickupLawful reception.pickupAuthorizedByName payload.pickedUpByName
            payload.overrideUnauthorizedPickup ↔
          namesPickup reception.pickupAuthorizedByName payload.pickedUpByName
            payload.overrideUnauthorizedPickup = true) := by
  refine ⟨?_, fun reception payload h => pickup_lawful_iff h⟩
  rintro before after rfl
  have hholds : Holds (fun s : DeskStore => ReleasesSound s.desk) PickupChecked
      (deskRun desk clock before) := by
    refine holds_run ?_ ?_ ⟨hstart, fun _ => trivial⟩ (Run.along_append.mp hturns).1
    · intro c i act s' p' hI hC hturn
      exact (deskStep_of_turn hturn).own_release hI.store (hI.party i) hC
    · intro c i act s' p' hI _ hturn j _
      exact (deskStep_of_turn hturn).others_release (hI.party j)
  exact hholds.store.lawful

end Law

/-! ## Vehicles that leave twice, or with a stranger -/

/-- A vehicle is in service, and Ana Maria may take it. -/
def readyDesk : Desk where
  receptions :=
    .single { id := 1, tenantId := 1, vehicleId := 1, receptionNumber := "REC-2026-0001"
              pickupAuthorizedByName := some "Ana Maria", status := .ready }

def readyDeskAfter (ms : List (Nat × DeskAction)) : Desk :=
  (@deskRun .chars .ascii readyDesk 0 ms).store.desk

def takenBy (name : String) : DeskAction :=
  .release { tenantId := 1, receptionId := 1, payload := { pickedUpByName := some name } }

def setReady : DeskAction := .update { tenantId := 1, receptionId := 1, newStatus := .ready }

theorem released_otherwise :
    -- the status is set back
    ¬ @ReleasesLawful .chars .ascii (readyDeskAfter [(1, takenBy "Ana Maria"), (1, .commit),
        (1, setReady), (1, .commit), (2, takenBy "Ana Maria"), (2, .commit)]) ∧
      -- two releases read the reception before either commits
      ¬ @ReleasesLawful .chars .ascii (readyDeskAfter [(1, takenBy "Ana Maria"),
        (2, takenBy "Ana Maria"), (1, .commit), (2, .commit)]) ∧
      -- a name that leaves nothing to compare
      ¬ @ReleasesLawful .chars .ascii (readyDeskAfter [(1, takenBy "???"), (1, .commit)]) := by
  refine ⟨fun h => ?_, fun h => ?_, fun h => ?_⟩
  · have honce := @ReleasesLawful.once .chars .ascii _ h
    revert honce
    decide +kernel
  · have honce := @ReleasesLawful.once .chars .ascii _ h
    revert honce
    decide +kernel
  · have hstranger : ∃ release ∈ (readyDeskAfter [(1, takenBy "???"), (1, .commit)]).releases.rows,
        release.overrideUnauthorizedPickup = false ∧
          @normalizeName .chars .ascii release.pickedUpByName = "" ∧
          ((readyDeskAfter [(1, takenBy "???"), (1, .commit)]).receptions.get
            release.receptionId).any fun reception =>
              (truthy reception.pickupAuthorizedByName).isSome := by
      decide +kernel
    obtain ⟨release, hrelease, hover, hempty, hany⟩ := hstranger
    obtain ⟨reception, hget, hsome⟩ := (Option.any_eq_true _ _).mp hany
    have hnamed := @ReleasesLawful.named .chars .ascii _ h release hrelease reception hget
    exact (hnamed hover hsome).1 hempty

theorem released_once_ana :
    (∀ before after, [(1, takenBy "ana"), (1, DeskAction.commit)] = before ++ after →
      @ReleasesLawful .chars .ascii (readyDeskAfter before)) ∧
    ∀ (reception : VehicleReception) (payload : VehicleReleaseCreate),
      @checkPickup .chars .ascii reception payload = .ok () →
        (@PickupLawful .chars .ascii reception.pickupAuthorizedByName payload.pickedUpByName
            payload.overrideUnauthorizedPickup ↔
          @namesPickup .chars .ascii reception.pickupAuthorizedByName payload.pickedUpByName
            payload.overrideUnauthorizedPickup = true) :=
  @released_once .chars .ascii readyDesk 0 _ (@ReleasesSound.initial .chars .ascii _ rfl)
    (by decide +kernel)

end Rotas
