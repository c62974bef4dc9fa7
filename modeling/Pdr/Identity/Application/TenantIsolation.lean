import Pdr.Identity.Application.Orders
import Pdr.Identity.Store.Views

/-!
# Tenants do not notice one another

Any number of scenarios run at once, each in the scope of a tenant, and their calls of the stores
come in any order. What the policies of the tables keep apart for single calls they keep apart for
whole runs: a scenario is told nothing by the rows of another tenant, not even by a refusal or a
key that is taken. The registry of accounts and the counter of registrations have no tenant, so a
scenario that asks them is told what others have done there.

## Main definitions

* `Pdr.Identity.ScopedOrder`: an order in the scope of a tenant.
* `Pdr.Identity.scopedDatabase`, `Pdr.Identity.scopedPool`: the calls in their scopes, and the
  scenarios that make them.
* `Pdr.Identity.Intent.IsLocal`: a scenario that does not ask the registry.

## Main results

* `Pdr.Identity.tenant_sees_only_itself`: what a tenant is told depends on its own rows.
* `Pdr.Identity.quiet_tenants_are_not_noticed`: who stays away from the registry can be left out.
-/

namespace Pdr.Identity

open StoreProgram Program

variable {ι α : Type}

/-- A call with the tenant that was declared to the database. -/
structure ScopedCall where
  declared : TenantId
  call : Call

/-- What each call answers, whatever its scope. -/
@[reducible] def ScopedCall.Answer (op : ScopedCall) : Type := op.call.Answer

/-- The store, each call in its scope. -/
def scopedDatabase : Machine ScopedCall.Answer Fault Database where
  exec op db := (inScope op.declared).exec op.call db

/-- A scenario in the scope of a tenant. -/
def inTenant (declared : TenantId) : Scenario α → Program ScopedCall.Answer Fault α
  | .done value => .done value
  | .raise fault => .raise fault
  | .call asked rest => .call ⟨declared, asked⟩ fun answer => inTenant declared (rest answer)

/-- An order in the scope of a tenant. -/
structure ScopedOrder where
  declared : TenantId
  order : Order

/-- The scenarios of the orders, each in its scope. The values of different scenarios are of
different types, so each comes with what was asked for. -/
def scopedPool (digests : Digests) (hasher : PasswordHasher) (work : ι → ScopedOrder) (i : ι) :
    Program ScopedCall.Answer Fault (Σ intent : Intent, intent.Value) :=
  inTenant (work i).declared
    ((work i).order.scenario digests hasher >>= fun value => pure ⟨(work i).order.intent, value⟩)

/-- The scenario does not ask what belongs to no tenant. -/
def Intent.IsLocal (intent : Intent) : Prop :=
  Port.accounts ∉ intent.ports ∧ Port.signups ∉ intent.ports

instance (intent : Intent) : Decidable intent.IsLocal := inferInstanceAs (Decidable (_ ∧ _))

/-! ### The calls of a scenario -/

theorem only_inTenant {declared : TenantId} {allowed : Call → Prop} {scenario : Scenario α}
    (h : scenario.Only allowed) :
    (inTenant declared scenario).Only fun op => op.declared = declared ∧ allowed op.call := by
  induction scenario with
  | done value => trivial
  | raise fault => trivial
  | call asked rest ih => exact ⟨⟨rfl, h.1⟩, fun answer _ => ih answer (h.2 answer trivial)⟩

theorem isCoherent_of_isTo {ports : List Port} (hports : Port.practices ∉ ports) {call : Call}
    (h : call.IsTo ports) : call.IsCoherent := by
  cases call with
  | practices call => exact absurd (List.contains_iff_mem.1 h) hports
  | _ => trivial

/-- A practice is opened under the tenant that was just composed. -/
theorem coherent_openPractice {ports : AuthPorts} {drawn : Drawn} (request : OpenPracticeRequest) :
    (openPractice ports drawn request).Only Call.IsCoherent := by
  have hother : ∀ {β : Type} {part : Scenario β} {used : List Port},
      part.Only (Call.IsTo used) → Port.practices ∉ used → part.Only Call.IsCoherent :=
    fun hpart hused => hpart.mono fun _ hcall => isCoherent_of_isTo hused hcall
  refine Honours.bind (honours_ofExcept _) fun rules => ?_
  refine Honours.bind (honours_ofExcept _) fun lifetimes => ?_
  refine Honours.bind (honours_ofExcept _) fun chosen => ?_
  refine Honours.bind (honours_ofExcept _) fun hash => ?_
  refine Honours.bind (hother (footprint_accountOf ..) (by decide)) fun account => ?_
  refine Honours.bind (honours_ofExcept _) fun practice => ?_
  refine Honours.bind ((honours_perform _).2 rfl) fun opened => ?_
  refine Honours.bind (honours_ofExcept _) fun _ => ?_
  refine Honours.bind ((honours_perform _).2 trivial) fun enrolled => ?_
  refine Honours.bind (honours_ofExcept _) fun _ => ?_
  refine Honours.bind ((honours_perform _).2 trivial) fun _ => ?_
  exact Honours.bind (hother (footprint_openSession ..) (by decide)) fun _ => trivial

theorem Order.coherent (digests : Digests) (hasher : PasswordHasher) (order : Order) :
    (order.scenario digests hasher).Only Call.IsCoherent := by
  by_cases hports : Port.practices ∈ order.intent.ports
  · obtain ⟨settings, rule, drawn, intent⟩ := order
    cases intent with
    | openPractice request => exact coherent_openPractice request
    | _ => exact absurd hports (by simp [Intent.ports])
  · exact (order.footprint digests hasher).mono fun _ hcall => isCoherent_of_isTo hports hcall

theorem not_isOfRegistry_of_isTo {intent : Intent} (hlocal : intent.IsLocal) {call : Call}
    (h : call.IsTo intent.ports) : ¬ call.IsOfRegistry := by
  have hport : call.port ∈ intent.ports := List.contains_iff_mem.1 h
  rintro (haccounts | hsignups)
  · exact hlocal.1 (haccounts ▸ hport)
  · exact hlocal.2 (hsignups ▸ hport)

theorem only_scopedPool (digests : Digests) (hasher : PasswordHasher) (work : ι → ScopedOrder)
    (i : ι) : (scopedPool digests hasher work i).Only fun op =>
      op.declared = (work i).declared ∧ op.call.IsCoherent ∧
        op.call.IsTo (work i).order.intent.ports := by
  have hcalls := ((work i).order.coherent digests hasher).and
    ((work i).order.footprint digests hasher)
  exact only_inTenant (hcalls.bind fun _ => honours_done _)

/-! ### Runs -/

section Isolation

variable [DecidableEq ι] {digests : Digests} {hasher : PasswordHasher} {work : ι → ScopedOrder}
  {steps : List (Step ι ScopedCall.Answer Fault Database)}
  {pool' : ι → Program ScopedCall.Answer Fault (Σ intent : Intent, intent.Value)}
  {db db' alike : Database}

/-- A run as the tenants in sight see it: they run on without the others, if those among them ask
the registry only where it counts, and the others only where it does not. -/
theorem replay_scopedPool (inSight : TenantId → Bool) (registry : Prop)
    (hseen : ∀ i, inSight (work i).declared = true → ¬ registry → (work i).order.intent.IsLocal)
    (hunseen : ∀ i, inSight (work i).declared = false → registry →
      (work i).order.intent.IsLocal)
    (hrun : Runs scopedDatabase (scopedPool digests hasher work) db steps pool' db')
    (h : db.LooksSame inSight registry alike) :
    ∃ steps' rest alike',
      Runs scopedDatabase (scopedPool digests hasher work) alike steps' rest alike' ∧
        Replays (fun i => inSight (work i).declared) steps steps' ∧
        (∀ i, rest i = if inSight (work i).declared then pool' i
          else scopedPool digests hasher work i) ∧
        db'.LooksSame inSight registry alike' := by
  have honly := hrun.only (only_scopedPool digests hasher work)
  refine hrun.replay (Database.looksSame_equivalence inSight registry)
    (fun u hu hsight => ?_) (fun u hu hsight => ?_) h
  · obtain ⟨hdeclared, hcoherent, hports⟩ := honly u hu
    rw [← hdeclared] at hsight
    refine respects_inScope hsight hcoherent fun hcall => ?_
    by_contra hcounts
    exact not_isOfRegistry_of_isTo (hseen u.thread (hdeclared ▸ hsight) hcounts) hports hcall
  · obtain ⟨hdeclared, -, hports⟩ := honly u hu
    rw [← hdeclared] at hsight
    exact hides_inScope hsight fun hcounts =>
      not_isOfRegistry_of_isTo (hunseen u.thread (hdeclared ▸ hsight) hcounts) hports

/-- **What a tenant is told depends on its own rows.** Whatever is done in the scopes of other
tenants and whatever they store: the scenarios of a tenant that do not ask the registry make the
same calls, get the same answers and come to the same ends as they do alone on any store with the
same rows of the tenant, and its rows are the same in the end. -/
theorem tenant_sees_only_itself {tenant : TenantId}
    (hlocal : ∀ i, (work i).declared = tenant → (work i).order.intent.IsLocal)
    (hrun : Runs scopedDatabase (scopedPool digests hasher work) db steps pool' db')
    (h : db.LooksSame (· = tenant) False alike) :
    ∃ steps' rest alike',
      Runs scopedDatabase (scopedPool digests hasher work) alike steps' rest alike' ∧
        Replays (fun i => (work i).declared = tenant) steps steps' ∧
        (∀ i, (work i).declared = tenant → rest i = pool' i) ∧
        (∀ i, (work i).declared ≠ tenant → rest i = scopedPool digests hasher work i) ∧
        db'.LooksSame (· = tenant) False alike' := by
  obtain ⟨steps', rest, alike', hrun', hreplays, hrest, hend⟩ :=
    replay_scopedPool _ _ (fun i hi _ => hlocal i (of_decide_eq_true hi)) (fun _ _ h => h.elim)
      hrun h
  refine ⟨steps', rest, alike', hrun', hreplays, fun i hi => ?_, fun i hi => ?_, hend⟩
  · rw [hrest i, if_pos (decide_eq_true hi)]
  · rw [hrest i, if_neg (by simpa using hi)]

/-- **Who stays away from the registry can be left out.** If the scenarios in the scopes of some
tenants do not ask the registry, then the run of all others is the one there would be if none of
these scenarios had ever begun: the same calls, the same answers and the same ends, and the same
registry and the same rows of all other tenants. -/
theorem quiet_tenants_are_not_noticed (quiet : TenantId → Bool)
    (hlocal : ∀ i, quiet (work i).declared = true → (work i).order.intent.IsLocal)
    (hrun : Runs scopedDatabase (scopedPool digests hasher work) db steps pool' db') :
    ∃ steps' rest alike',
      Runs scopedDatabase (scopedPool digests hasher work) db steps' rest alike' ∧
        Replays (fun i => !quiet (work i).declared) steps steps' ∧
        (∀ i, quiet (work i).declared = false → rest i = pool' i) ∧
        (∀ i, quiet (work i).declared = true → rest i = scopedPool digests hasher work i) ∧
        db'.LooksSame (fun tenant => !quiet tenant) True alike' := by
  obtain ⟨steps', rest, alike', hrun', hreplays, hrest, hend⟩ :=
    replay_scopedPool (fun tenant => !quiet tenant) True
      (fun _ _ h => absurd trivial h) (fun i hi _ => hlocal i (by simpa using hi)) hrun
      ((Database.looksSame_equivalence _ _).refl db)
  refine ⟨steps', rest, alike', hrun', hreplays, fun i hi => ?_, fun i hi => ?_, hend⟩
  · rw [hrest i, if_pos (by simp [hi])]
  · rw [hrest i, if_neg (by simp [hi])]

end Isolation

/-! ### Two tenants that invite -/

/-- Each of two tenants invites somebody. -/
def bothInvite (isFirst : Bool) : ScopedOrder :=
  let tenant : TenantId := repeated (if isFirst then 7 else 8)
  ⟨tenant, orderAt 0 (if isFirst then 5 else 6) (.inviteParticipant tenant .student none)⟩

/-- Their calls, in turns. -/
def invitedInTurns : List (Step Bool ScopedCall.Answer Fault Database) :=
  (play scopedDatabase [true, false, true, false]
    (scopedPool standIn.digests standIn.hasher bothInvite) {}).1

theorem isLocal_bothInvite (isFirst : Bool) : (bothInvite isFirst).order.intent.IsLocal := by
  cases isFirst <;> decide

theorem first_tenant_sees_only_itself :
    ∃ steps' rest alike', Runs scopedDatabase
        (scopedPool standIn.digests standIn.hasher bothInvite) {} steps' rest alike' ∧
      Replays (fun i => (bothInvite i).declared = repeated 7) invitedInTurns steps' := by
  obtain ⟨steps', rest, alike', hrun, hreplays, -⟩ := tenant_sees_only_itself
    (fun i _ => isLocal_bothInvite i)
    (play_runs scopedDatabase [true, false, true, false]
      (scopedPool standIn.digests standIn.hasher bothInvite) {})
    ((Database.looksSame_equivalence (· = repeated 7) False).refl {})
  exact ⟨steps', rest, alike', hrun, hreplays⟩

theorem second_tenant_is_not_noticed :
    ∃ steps' rest alike', Runs scopedDatabase
        (scopedPool standIn.digests standIn.hasher bothInvite) {} steps' rest alike' ∧
      Replays (fun i => !decide ((bothInvite i).declared = repeated 8)) invitedInTurns steps' := by
  obtain ⟨steps', rest, alike', hrun, hreplays, -⟩ := quiet_tenants_are_not_noticed
    (· = repeated 8) (fun i _ => isLocal_bothInvite i)
    (play_runs scopedDatabase [true, false, true, false]
      (scopedPool standIn.digests standIn.hasher bothInvite) {})
  exact ⟨steps', rest, alike', hrun, hreplays⟩

end Pdr.Identity
