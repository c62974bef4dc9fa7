import Pdr.Identity.Application.Footprint
import Pdr.Identity.Store.Scope
import Pdr.StoreProgram.Confined
import Pdr.StoreProgram.Unwinding

/-!
# What of the store some tenants can see

Two states of the store look the same to some tenants if the rows of these tenants are the same in
each table. The registry of accounts and the counter of registrations have no tenant; whether they
are to be the same as well is said separately.

## Main definitions

* `Pdr.Identity.Database.LooksSame`: two states look the same to some tenants.
* `Pdr.Identity.Call.IsCoherent`: a practice is opened under its own tenant.

## Main results

* `Pdr.Identity.respects_inScope`: in the scope of a tenant in sight a call is decided by what
  these tenants can see.
* `Pdr.Identity.hides_inScope`: in the scope of another tenant a call changes nothing of it.
-/

namespace Pdr.Identity

open StoreProgram

/-- Two states have the same rows of the tenants in sight and, if the registry counts, the same
accounts and the same counter of registrations. -/
structure Database.LooksSame (inSight : TenantId → Bool) (registry : Prop)
    (db db' : Database) : Prop where
  tokens : db.tokens.SameOn (fun row => inSight row.tenant) db'.tokens
  people : db.people.SameOn (fun row => inSight row.tenant) db'.people
  roles : db.roles.SameOn (fun row => inSight row.tenant) db'.roles
  credentials : db.credentials.SameOn (fun row => inSight row.tenant) db'.credentials
  sessions : db.sessions.SameOn (fun row => inSight row.id.tenant) db'.sessions
  attempts : db.attempts.SameOn (fun row => inSight row.tenant) db'.attempts
  guardianships : db.guardianships.SameOn (fun row => inSight row.tenant) db'.guardianships
  consents : db.consents.SameOn (fun row => inSight row.tenant) db'.consents
  practices : db.practices.SameOn (fun row => inSight row.practice.tenant) db'.practices
  accounts : registry → db.accounts = db'.accounts
  signups : registry → db.signups = db'.signups

theorem Database.looksSame_equivalence (inSight : TenantId → Bool) (registry : Prop) :
    Equivalence (Database.LooksSame inSight registry) where
  refl _ := ⟨rfl, rfl, rfl, rfl, rfl, rfl, rfl, rfl, rfl, fun _ => rfl, fun _ => rfl⟩
  symm h := ⟨h.tokens.symm, h.people.symm, h.roles.symm, h.credentials.symm, h.sessions.symm,
    h.attempts.symm, h.guardianships.symm, h.consents.symm, h.practices.symm,
    fun hcounts => (h.accounts hcounts).symm, fun hcounts => (h.signups hcounts).symm⟩
  trans h h' := ⟨h.tokens.trans h'.tokens, h.people.trans h'.people, h.roles.trans h'.roles,
    h.credentials.trans h'.credentials, h.sessions.trans h'.sessions,
    h.attempts.trans h'.attempts, h.guardianships.trans h'.guardianships,
    h.consents.trans h'.consents, h.practices.trans h'.practices,
    fun hcounts => (h.accounts hcounts).trans (h'.accounts hcounts),
    fun hcounts => (h.signups hcounts).trans (h'.signups hcounts)⟩

/-- The row of a practice that is opened is that of its tenant. -/
def Call.IsCoherent : Call → Prop
  | practices (.open_ tenant _ practice) => practice.tenant = tenant.id
  | _ => True

/-- The calls that see what belongs to no tenant. -/
def Call.IsOfRegistry (call : Call) : Prop := call.port = .accounts ∨ call.port = .signups

/-! ### Keys have one tenant -/

theorem keysWithin_tokens : KeysWithin fun row : OneTimeToken => row.tenant := fun _ _ h =>
  of_decide_eq_true (Bool.and_eq_true_iff.1 h).1

theorem keysWithin_people : KeysWithin fun row : PersonRow => row.tenant := fun _ _ h =>
  of_decide_eq_true (Bool.and_eq_true_iff.1 h).1

theorem keysWithin_roles : KeysWithin fun row : RoleRow => row.tenant := fun _ _ h =>
  of_decide_eq_true (Bool.and_eq_true_iff.1 h).1

theorem keysWithin_credentials : KeysWithin fun row : CredentialRow => row.tenant := fun _ _ h =>
  of_decide_eq_true (Bool.and_eq_true_iff.1 h).1

theorem keysWithin_sessions : KeysWithin fun row : Session => row.id.tenant := fun _ _ h =>
  congrArg SessionId.tenant (of_decide_eq_true h)

theorem keysWithin_attempts : KeysWithin fun row : AttemptRow => row.tenant := fun _ _ h =>
  of_decide_eq_true (Bool.and_eq_true_iff.1 (Bool.and_eq_true_iff.1 h).1).1

theorem keysWithin_guardianships : KeysWithin fun row : Guardianship => row.tenant := fun _ _ h =>
  of_decide_eq_true (Bool.and_eq_true_iff.1 (Bool.and_eq_true_iff.1 h).1).1

theorem keysWithin_consents : KeysWithin fun row : GuardianConsent => row.tenant := fun _ _ h =>
  of_decide_eq_true (Bool.and_eq_true_iff.1 h).1

theorem keysWithin_practices : KeysWithin fun row : PracticeRow => row.practice.tenant :=
  fun _ _ h => of_decide_eq_true h

/-! ### Calls in the scope of a tenant in sight -/

variable {inSight : TenantId → Bool} {declared : TenantId}

theorem commitUnder_of_agree {Row : Type} [Schema Row] {kind : Row → Bool} {name : String}
    {table table' : Table Row} {outcome outcome' : Except Rejection (Table Row)}
    (h : Agree (Table.SameOn kind) outcome outcome') (hsame : table.SameOn kind table') :
    (commitUnder name table outcome).1 = (commitUnder name table' outcome').1 ∧
      (commitUnder name table outcome).2.SameOn kind (commitUnder name table' outcome').2 := by
  cases h with
  | accepted h => exact ⟨rfl, h⟩
  | rejected reason => exact ⟨rfl, hsame⟩

section Stores

variable (hsight : inSight declared = true)
include hsight

theorem TokenCall.looksSame_execIn (call : TokenCall) {table table' : Table OneTimeToken}
    (h : table.SameOn (fun row => inSight row.tenant) table') :
    (call.execIn declared table).1 = (call.execIn declared table').1 ∧
      (call.execIn declared table).2.SameOn (fun row => inSight row.tenant)
        (call.execIn declared table').2 := by
  cases call with
  | issue token =>
    exact commitUnder_of_agree (Table.agree_insertUnder keysWithin_tokens hsight h _) h
  | find tenant secret =>
    exact ⟨by simp only [execIn, Table.seen_eq hsight h], h⟩
  | liveInvitationTo tenant invited now =>
    exact ⟨by simp only [execIn, Table.seen_eq hsight h], h⟩
  | markUsed token =>
    exact commitUnder_of_agree (Table.agree_updateUnder keysWithin_tokens hsight h _ _) h

theorem DirectoryCall.agree_grantRolesIn (tenant : TenantId) (enrolment : Enrolment)
    (roleIds : Role → StrongId .roleAssignment) {roles roles' : Table RoleRow}
    (h : roles.SameOn (fun row => inSight row.tenant) roles') :
    Agree (Table.SameOn fun row => inSight row.tenant)
      (grantRolesIn declared tenant enrolment roleIds roles)
      (grantRolesIn declared tenant enrolment roleIds roles') := by
  unfold grantRolesIn
  generalize everyRole.filter enrolment.roles.has = granted
  induction granted generalizing roles roles' with
  | nil => exact .accepted h
  | cons role rest ih =>
    rw [List.foldlM_cons, List.foldlM_cons]
    have hinsert := Table.agree_insertUnder keysWithin_roles hsight h
      ⟨tenant, roleIds role, enrolment.person.id, role, none⟩
    generalize Table.insertUnder _ _ roles = left at hinsert ⊢
    generalize Table.insertUnder _ _ roles' = right at hinsert ⊢
    cases hinsert with
    | accepted h => exact ih h
    | rejected reason => exact .rejected reason

theorem DirectoryCall.looksSame_execIn (call : DirectoryCall) {people people' : Table PersonRow}
    {roles roles' : Table RoleRow} (h : people.SameOn (fun row => inSight row.tenant) people')
    (hroles : roles.SameOn (fun row => inSight row.tenant) roles') :
    (call.execIn declared (people, roles)).1 = (call.execIn declared (people', roles')).1 ∧
      (call.execIn declared (people, roles)).2.1.SameOn (fun row => inSight row.tenant)
        (call.execIn declared (people', roles')).2.1 ∧
      (call.execIn declared (people, roles)).2.2.SameOn (fun row => inSight row.tenant)
        (call.execIn declared (people', roles')).2.2 := by
  cases call with
  | enrol tenant enrolment roleIds =>
    have hperson := Table.agree_insertUnlessUnder keysWithin_people hsight h
      (fun other => other.tenant = tenant && (personRow tenant enrolment).mail.isSome &&
        other.mail = (personRow tenant enrolment).mail) (personRow tenant enrolment)
      fun howner stored hconflict => by
        simp only [Bool.and_eq_true, decide_eq_true_eq] at hconflict
        exact hconflict.1.1.trans howner
    have hgranted := agree_grantRolesIn hsight tenant enrolment roleIds hroles
    simp only [execIn]
    generalize Table.insertUnlessUnder _ _ _ people = left at hperson ⊢
    generalize Table.insertUnlessUnder _ _ _ people' = right at hperson ⊢
    cases hperson with
    | rejected reason => exact ⟨rfl, h, hroles⟩
    | @accepted left right hsame =>
      obtain ⟨isNew, people₁⟩ := left
      obtain ⟨isNew', people₂⟩ := right
      obtain ⟨rfl, hpeople⟩ := hsame
      cases isNew with
      | false => exact ⟨rfl, h, hroles⟩
      | true =>
        simp only
        generalize grantRolesIn declared tenant enrolment roleIds roles = left at hgranted ⊢
        generalize grantRolesIn declared tenant enrolment roleIds roles' = right at hgranted ⊢
        cases hgranted with
        | accepted hsame => exact ⟨rfl, hpeople, hsame⟩
        | rejected reason => exact ⟨rfl, h, hroles⟩
  | knows tenant mail =>
    exact ⟨by simp only [execIn, Table.seen_eq hsight h], h, hroles⟩
  | bornOn tenant person =>
    exact ⟨by simp only [execIn, Table.seen_eq hsight h], h, hroles⟩
  | rolesOf tenant person =>
    exact ⟨by simp only [execIn, Table.seen_eq hsight hroles], h, hroles⟩

theorem CredentialCall.looksSame_execIn (call : CredentialCall) {people people' : Table PersonRow}
    {table table' : Table CredentialRow}
    (hpeople : people.SameOn (fun row => inSight row.tenant) people')
    (h : table.SameOn (fun row => inSight row.tenant) table') :
    (call.execIn declared people table).1 = (call.execIn declared people' table').1 ∧
      (call.execIn declared people table).2.SameOn (fun row => inSight row.tenant)
        (call.execIn declared people' table').2 := by
  cases call with
  | findByEmail tenant mail =>
    exact ⟨by simp only [execIn, Table.seen_eq hsight h, Table.seen_eq hsight hpeople], h⟩
  | findFor tenant person =>
    exact ⟨by simp only [execIn, Table.seen_eq hsight h], h⟩
  | save tenant person hash =>
    refine commitUnder_of_agree (Table.agree_upsertUnder keysWithin_credentials hsight h _ _ _ ?_) h
    intro howner stored hconflict
    exact (of_decide_eq_true (Bool.and_eq_true_iff.1 hconflict).1).trans howner

theorem SessionCall.looksSame_execIn (call : SessionCall) {table table' : Table Session}
    (h : table.SameOn (fun row => inSight row.id.tenant) table') :
    (call.execIn declared table).1 = (call.execIn declared table').1 ∧
      (call.execIn declared table).2.SameOn (fun row => inSight row.id.tenant)
        (call.execIn declared table').2 := by
  cases call with
  | save session =>
    refine commitUnder_of_agree (Table.agree_upsertUnder keysWithin_sessions hsight h _ _ _ ?_) h
    intro howner stored hconflict
    rwa [of_decide_eq_true hconflict]
  | find id =>
    exact ⟨by simp only [execIn, Table.seen_eq hsight h], h⟩
  | revokeAllFor tenant person at_ =>
    exact commitUnder_of_agree (Table.agree_updateUnder keysWithin_sessions hsight h _ _) h

theorem AttemptCall.looksSame_execIn (call : AttemptCall) {table table' : Table AttemptRow}
    (h : table.SameOn (fun row => inSight row.tenant) table') :
    (call.execIn declared table).1 = (call.execIn declared table').1 ∧
      (call.execIn declared table).2.SameOn (fun row => inSight row.tenant)
        (call.execIn declared table').2 := by
  cases call with
  | register tenant subject of at_ window =>
    have hcounted := Table.agree_upsertUnder keysWithin_attempts hsight h
      (isOf tenant subject of)
      (fun row => { row with window := countedUp row.window at_ (at_ - window) })
      ⟨tenant, subject, of, ⟨at_, 1⟩⟩ fun howner stored hconflict => by
        simp only [isOf, Bool.and_eq_true, decide_eq_true_eq] at hconflict
        exact hconflict.1.1.trans howner
    simp only [execIn]
    by_cases htenant : tenant = declared
    · generalize Table.upsertUnder _ _ _ _ table = left at hcounted ⊢
      generalize Table.upsertUnder _ _ _ _ table' = right at hcounted ⊢
      cases hcounted with
      | rejected reason => exact ⟨rfl, h⟩
      | accepted hsame =>
        refine ⟨?_, hsame⟩
        simp only [windowOf]
        rw [hsame.find?_eq fun row hrow => ?_]
        simp only [isOf, Bool.and_eq_true, decide_eq_true_eq] at hrow
        rw [hrow.1.1, htenant, hsight]
    · have hrefused : ∀ other : Table AttemptRow, other.upsertUnder (policy declared)
          (isOf tenant subject of) (fun row =>
            { row with window := countedUp row.window at_ (at_ - window) })
          ⟨tenant, subject, of, ⟨at_, 1⟩⟩ = .error .byPolicy := fun other =>
        if_neg (by simp [htenant])
      rw [hrefused, hrefused]
      exact ⟨rfl, h⟩
  | seen tenant subject of =>
    exact ⟨by simp only [execIn, Table.seen_eq hsight h], h⟩
  | forget tenant subject of => exact ⟨rfl, Table.sameOn_deleteUnder h⟩

theorem PracticeCall.looksSame_execIn (call : PracticeCall)
    (hcoherent : (Call.practices call).IsCoherent) {table table' : Table PracticeRow}
    (h : table.SameOn (fun row => inSight row.practice.tenant) table') :
    (call.execIn declared table).1 = (call.execIn declared table').1 ∧
      (call.execIn declared table).2.SameOn (fun row => inSight row.practice.tenant)
        (call.execIn declared table').2 := by
  cases call with
  | open_ tenant zone practice =>
    have hopened := Table.agree_insertUnlessUnder keysWithin_practices hsight h
      (fun row => row.practice.tenant = tenant.id) ⟨tenant.name, zone, practice⟩
      fun howner stored hconflict => by
        rw [of_decide_eq_true hconflict, ← show practice.tenant = tenant.id from hcoherent]
        exact howner
    simp only [execIn]
    generalize Table.insertUnlessUnder _ _ _ table = left at hopened ⊢
    generalize Table.insertUnlessUnder _ _ _ table' = right at hopened ⊢
    cases hopened with
    | rejected reason => exact ⟨rfl, h⟩
    | @accepted left right hsame =>
      obtain ⟨isNew, opened⟩ := left
      obtain ⟨isNew', opened'⟩ := right
      obtain ⟨rfl, hopened⟩ := hsame
      cases isNew with
      | false => exact ⟨rfl, h⟩
      | true => exact ⟨rfl, hopened⟩
  | find tenant =>
    exact ⟨by simp only [execIn, Table.seen_eq hsight h], h⟩

theorem GuardianshipCall.looksSame_execIn (call : GuardianshipCall)
    {table table' : Table Guardianship}
    (h : table.SameOn (fun row => inSight row.tenant) table') :
    (call.execIn declared table).1 = (call.execIn declared table').1 ∧
      (call.execIn declared table).2.SameOn (fun row => inSight row.tenant)
        (call.execIn declared table').2 := by
  cases call with
  | findActive tenant guardian student =>
    exact ⟨by simp only [execIn, Table.seen_eq hsight h], h⟩
  | guardiansOf tenant student =>
    exact ⟨by simp only [execIn, Table.seen_eq hsight h], h⟩
  | save guardianship =>
    refine commitUnder_of_agree
      (Table.agree_upsertUnder keysWithin_guardianships hsight h _ _ _ ?_) h
    intro howner stored hconflict
    simp only [isOf, Bool.and_eq_true, decide_eq_true_eq] at hconflict
    exact hconflict.1.1.trans howner

theorem ConsentCall.looksSame_execIn (call : ConsentCall) {table table' : Table GuardianConsent}
    (h : table.SameOn (fun row => inSight row.tenant) table') :
    (call.execIn declared table).1 = (call.execIn declared table').1 ∧
      (call.execIn declared table).2.SameOn (fun row => inSight row.tenant)
        (call.execIn declared table').2 := by
  cases call with
  | activeFor tenant guardian student =>
    exact ⟨by simp only [execIn, activeIn, Table.seen_eq hsight h], h⟩
  | findActive tenant guardian student scope =>
    exact ⟨by simp only [execIn, activeIn, Table.seen_eq hsight h], h⟩
  | save consent =>
    have hconflict : ∀ stored : GuardianConsent, (decide (stored.tenant = consent.tenant) &&
        decide (stored.id = consent.id)) = true → stored.tenant = consent.tenant :=
      fun stored hstored => of_decide_eq_true (Bool.and_eq_true_iff.1 hstored).1
    refine commitUnder_of_agree ?_ h
    dsimp only
    by_cases htenant : consent.tenant = declared
    · rw [h.any_eq fun stored hstored => by
        rw [hconflict stored (Bool.and_eq_true_iff.1 hstored).1, htenant, hsight]]
      split
      · exact .rejected _
      · exact Table.agree_upsertUnder keysWithin_consents hsight h _ _ _
          fun howner stored hstored => (hconflict stored hstored).trans howner
    · rw [RowPolicy.isolation_takes, decide_eq_false htenant, Bool.false_and, Bool.false_and]
      exact Table.agree_upsertUnder keysWithin_consents hsight h _ _ _
        fun howner => absurd howner htenant

end Stores

/-- **A call in the scope of a tenant in sight** is decided by what these tenants can see. -/
theorem respects_inScope {registry : Prop} (hsight : inSight declared = true) {call : Call}
    (hcoherent : call.IsCoherent) (hregistry : call.IsOfRegistry → registry) :
    (inScope declared).Respects (Database.LooksSame inSight registry) call := by
  intro db db' h
  refine ⟨fun _ => rfl, ?_⟩
  cases call with
  | tokens call =>
    obtain ⟨hanswer, hsame⟩ := call.looksSame_execIn hsight h.tokens
    exact ⟨hanswer, { h with tokens := hsame }⟩
  | accounts call =>
    have hsame := h.accounts (hregistry (Or.inl rfl))
    simp only [inScope]
    rw [hsame]
    exact ⟨rfl, { h with accounts := fun _ => rfl }⟩
  | directory call =>
    obtain ⟨hanswer, hpeople, hroles⟩ := call.looksSame_execIn hsight h.people h.roles
    exact ⟨hanswer, { h with people := hpeople, roles := hroles }⟩
  | credentials call =>
    obtain ⟨hanswer, hsame⟩ := call.looksSame_execIn hsight h.people h.credentials
    exact ⟨hanswer, { h with credentials := hsame }⟩
  | sessions call =>
    obtain ⟨hanswer, hsame⟩ := call.looksSame_execIn hsight h.sessions
    exact ⟨hanswer, { h with sessions := hsame }⟩
  | attempts call =>
    obtain ⟨hanswer, hsame⟩ := call.looksSame_execIn hsight h.attempts
    exact ⟨hanswer, { h with attempts := hsame }⟩
  | guardianships call =>
    obtain ⟨hanswer, hsame⟩ := call.looksSame_execIn hsight h.guardianships
    exact ⟨hanswer, { h with guardianships := hsame }⟩
  | consents call =>
    obtain ⟨hanswer, hsame⟩ := call.looksSame_execIn hsight h.consents
    exact ⟨hanswer, { h with consents := hsame }⟩
  | practices call =>
    obtain ⟨hanswer, hsame⟩ := call.looksSame_execIn hsight hcoherent h.practices
    exact ⟨hanswer, { h with practices := hsame }⟩
  | signups call =>
    have hsame := h.signups (hregistry (Or.inr rfl))
    simp only [inScope]
    rw [hsame]
    exact ⟨rfl, { h with signups := fun _ => rfl }⟩

/-- **A call in the scope of a tenant out of sight** changes nothing of what the others can see. -/
theorem hides_inScope {registry : Prop} (hsight : inSight declared = false) {call : Call}
    (hregistry : registry → ¬ call.IsOfRegistry) :
    (inScope declared).Hides (Database.LooksSame inSight registry) call := by
  intro db
  have h : db.SameBeyond declared ((inScope declared).exec call db).2 := sameBeyond_inScope call db
  have hbeyond : ∀ tenant : TenantId, inSight tenant = true →
      decide (tenant = declared) = false := fun tenant htenant =>
    decide_eq_false fun hsame => Bool.false_ne_true (hsight ▸ hsame ▸ htenant)
  refine ⟨h.tokens.sameOn fun row => hbeyond _, h.people.sameOn fun row => hbeyond _,
    h.roles.sameOn fun row => hbeyond _, h.credentials.sameOn fun row => hbeyond _,
    h.sessions.sameOn fun row => hbeyond _, h.attempts.sameOn fun row => hbeyond _,
    h.guardianships.sameOn fun row => hbeyond _, h.consents.sameOn fun row => hbeyond _,
    h.practices.sameOn fun row => hbeyond _, fun hcounts => ?_, fun hcounts => ?_⟩
  · cases call with
    | accounts call => exact absurd (Or.inl rfl) (hregistry hcounts)
    | _ => rfl
  · cases call with
    | signups call => exact absurd (Or.inr rfl) (hregistry hcounts)
    | _ => rfl

end Pdr.Identity
