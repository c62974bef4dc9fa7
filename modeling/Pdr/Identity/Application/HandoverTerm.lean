import Mathlib.Order.Bounds.Basic
import Pdr.Identity.Application.Announcements
import Pdr.Identity.Policies.ComingOfAge

/-!
# The term of a handover

When a student comes of age, the announcement names the moment by which he has to decide: the
earliest end of a grace among the scopes that are being decided. It is computed from the ages
and the grace alone, while access also ends with the term of a consent, and does not end where
the student gave his own.

## Main definitions

* `Pdr.Identity.IsAsked`, `Pdr.Identity.IsInGrace`: a scope is being decided, and why.
* `Pdr.Identity.TellsTheTerm`: an event goes out when it should and names the true term.
* `Pdr.Identity.LastsUntilTheTerm`, `Pdr.Identity.ClosesAtTheTerm`: what consents have to do.

## Main results

* `Pdr.Identity.isLeast_earliestClosing`: the term that is computed.
* `Pdr.Identity.term_is_true_iff`: when it is the true one.
* `Pdr.Identity.term_is_too_late`: a consent that ends on its own before the grace does.
-/

namespace Pdr.Identity

open StoreProgram Program Events

/-! ### The term that is computed -/

section Computed

variable {rule : MaturityRule} {born : BirthDate} {deciding : GuardianScopeSet}

/-- The earlier of a term and the end of a grace is one of the two. -/
theorem orCloses_cases {decideBy : Option Int} {scope : GuardianScope} {term : Int}
    (h : orCloses rule born deciding decideBy scope = some term) :
    decideBy = some term ∨ (deciding.has scope = true ∧ closesAt rule born scope = term) := by
  unfold orCloses at h
  dsimp only at h
  split_ifs at h with hnot hearlier
  · exact Or.inl h
  · exact Or.inr ⟨by simpa using hnot, Option.some.inj h⟩
  · exact Or.inl h

/-- And it is no later than either. -/
theorem orCloses_le {decideBy : Option Int} {scope : GuardianScope} {term : Int}
    (h : decideBy = some term ∨ (deciding.has scope = true ∧ closesAt rule born scope = term)) :
    ∃ earlier ≤ term, orCloses rule born deciding decideBy scope = some earlier := by
  have hcloses : closesAt rule born scope =
      AgeStatus.turnsAt born (rule.thresholdYears scope) + rule.grace := rfl
  unfold orCloses
  dsimp only
  cases decideBy with
  | none =>
    obtain ⟨hhas, rfl⟩ := h.resolve_left nofun
    exact ⟨_, hcloses.ge, by simp [hhas]⟩
  | some decideBy =>
    simp only [Option.all_some, decide_eq_true_eq, Option.some.injEq] at h ⊢
    split_ifs with hnot hearlier
    · rcases h with rfl | ⟨hhas, -⟩
      · exact ⟨decideBy, le_rfl, rfl⟩
      · simp [hhas] at hnot
    · refine ⟨_, ?_, rfl⟩
      rcases h with rfl | ⟨-, rfl⟩ <;> omega
    · refine ⟨decideBy, ?_, rfl⟩
      rcases h with rfl | ⟨-, rfl⟩ <;> omega

/-- The term that is computed is the earliest end of a grace. -/
theorem isLeast_earliestClosing {term : Int}
    (h : earliestClosing rule born deciding = some term) :
    IsLeast {t | ∃ scope ∈ everyGuardianScope, deciding.has scope = true ∧
      closesAt rule born scope = t} term := by
  have general : ∀ (scopes : List GuardianScope) (decideBy : Option Int),
      scopes.foldl (orCloses rule born deciding) decideBy = some term →
        IsLeast {t | decideBy = some t ∨ ∃ scope ∈ scopes, deciding.has scope = true ∧
          closesAt rule born scope = t} term := by
    intro scopes
    induction scopes with
    | nil =>
      rintro decideBy rfl
      exact ⟨Or.inl rfl, by simp [lowerBounds]⟩
    | cons first scopes ih =>
      intro decideBy hfold
      obtain ⟨hmem, hlower⟩ := ih _ hfold
      refine ⟨?_, fun t ht => ?_⟩
      · rcases hmem with hfirst | ⟨scope, hscope, hcloses⟩
        · rcases orCloses_cases hfirst with hknown | hcloses
          · exact Or.inl hknown
          · exact Or.inr ⟨first, List.mem_cons_self, hcloses⟩
        · exact Or.inr ⟨scope, List.mem_cons_of_mem first hscope, hcloses⟩
      · have hsooner : (decideBy = some t ∨ deciding.has first = true ∧
            closesAt rule born first = t) → term ≤ t := by
          intro hfirst
          obtain ⟨earlier, hle, hearlier⟩ := orCloses_le hfirst
          exact (hlower (Or.inl hearlier)).trans hle
        rcases ht with hknown | ⟨scope, hscope, hcloses⟩
        · exact hsooner (Or.inl hknown)
        · rcases List.mem_cons.1 hscope with rfl | hscope
          · exact hsooner (Or.inr hcloses)
          · exact hlower (Or.inr ⟨scope, hscope, hcloses⟩)
  simpa using general everyGuardianScope none h

end Computed

/-! ### The true term -/

section Truth

variable (consents : List GuardianConsent) (bornOn : Option BirthDate) (rule : MaturityRule)
  (guardianshipHolds : Bool) (now : Int)

/-- The scope is being decided. -/
def IsAsked (scope : GuardianScope) : Prop :=
  (weighConsents consents bornOn rule now guardianshipHolds).deciding.has scope = true

/-- As long as no consent changes, a scope that is being decided is closed at the moment. -/
def ClosesLater (moment : Int) : Prop :=
  now < moment ∧ ∃ scope, IsAsked consents bornOn rule guardianshipHolds now scope ∧
    (weighConsents consents bornOn rule moment guardianshipHolds).opened.has scope = false

/-- An event goes out exactly if something is being decided, and it names the first moment at
which a scope that is being decided is closed. -/
def TellsTheTerm (events : List DomainEvent) : Prop :=
  (events ≠ [] ↔ ∃ scope, IsAsked consents bornOn rule guardianshipHolds now scope) ∧
    ∀ event ∈ events, ∃ started : GuardianHandoverStarted,
      event = ⟨.guardianHandoverStarted, started⟩ ∧
        IsLeast {t | ClosesLater consents bornOn rule guardianshipHolds now t} started.decideBy

variable (born : BirthDate)

/-- Somebody else than the student gave a consent that is in force, and its scope is in the
grace. -/
def IsInGrace (scope : GuardianScope) : Prop :=
  ∃ consent, Carries consents guardianshipHolds now scope consent ∧
    consent.grantedByStudent = false ∧ decidesFrom rule born scope ≤ now ∧
      now < closesAt rule born scope

/-- Until the first grace is over, each scope that is in one has a consent in force. -/
def LastsUntilTheTerm : Prop :=
  ∀ scope, IsInGrace consents rule guardianshipHolds now born scope → ∀ moment, now < moment →
    (∀ other, IsInGrace consents rule guardianshipHolds now born other →
      moment < closesAt rule born other) →
    ∃ consent, Carries consents guardianshipHolds moment scope consent

/-- When the first grace is over, some scope that was in one has no consent in force but those of
others, whose grace is over too. -/
def ClosesAtTheTerm : Prop :=
  ∀ first, IsInGrace consents rule guardianshipHolds now born first →
    (∀ other, IsInGrace consents rule guardianshipHolds now born other →
      closesAt rule born first ≤ closesAt rule born other) →
    ∃ scope, IsInGrace consents rule guardianshipHolds now born scope ∧
      ∀ consent, Carries consents guardianshipHolds (closesAt rule born first) scope consent →
        consent.grantedByStudent = false ∧ closesAt rule born scope ≤ closesAt rule born first

end Truth

section Events

variable {consents : List GuardianConsent} {born : BirthDate} {rule : MaturityRule}
  {guardianshipHolds : Bool} {now term : Int} {scope : GuardianScope}

theorem mem_everyGuardianScope (consent : GuardianConsent) :
    consent.scope ∈ everyGuardianScope := by
  have hlisted := consent.listed.1
  cases hscope : consent.scope <;> simp_all [everyGuardianScope]

/-- What is being decided is in its grace. -/
theorem isAsked_iff :
    IsAsked consents (some born) rule guardianshipHolds now scope ↔
      IsInGrace consents rule guardianshipHolds now born scope := by
  rw [IsAsked, deciding_iff]
  constructor
  · rintro ⟨consent, hcarries, hgranted, other, hborn, hgrace⟩
    obtain rfl := Option.some.inj hborn
    exact ⟨consent, hcarries, hgranted, hgrace⟩
  · rintro ⟨consent, hcarries, hgranted, hgrace⟩
    exact ⟨consent, hcarries, hgranted, born, rfl, hgrace⟩

theorem IsAsked.spec (h : IsAsked consents (some born) rule guardianshipHolds now scope) :
    scope ∈ everyGuardianScope ∧ now < closesAt rule born scope := by
  obtain ⟨consent, ⟨-, rfl, -⟩, -, -, hgraced⟩ := isAsked_iff.1 h
  exact ⟨mem_everyGuardianScope consent, hgraced⟩

/-- A scope is closed at a moment exactly if it has no consent in force but those of others, whose
grace is over. -/
theorem opened_eq_false_iff {moment : Int} :
    (weighConsents consents (some born) rule moment guardianshipHolds).opened.has scope = false ↔
      ∀ consent, Carries consents guardianshipHolds moment scope consent →
        consent.grantedByStudent = false ∧ closesAt rule born scope ≤ moment := by
  rw [← Bool.not_eq_true, opened_iff]
  constructor
  · intro hclosed consent hcarries
    have hopposed := Bool.eq_false_iff.2 fun hage => hclosed ⟨consent, hcarries, hage⟩
    obtain ⟨hgranted, other, hborn, hover⟩ := unopposed_eq_false_iff.1 hopposed
    obtain rfl := Option.some.inj hborn
    rw [hcarries.2.1] at hover
    exact ⟨hgranted, hover⟩
  · rintro hothers ⟨consent, hcarries, hage⟩
    obtain ⟨hgranted, hover⟩ := hothers consent hcarries
    rw [closesAt, ← hcarries.2.1] at hover
    rw [unopposed_eq_false_iff.2 ⟨hgranted, born, rfl, hover⟩] at hage
    cases hage

/-- **The earliest end of a grace is the true term** exactly if each scope that is being decided has
a consent in force until then, and one of them has none to keep it open any longer. -/
theorem isLeast_closesLater_iff
    (hterm : earliestClosing rule born
      (weighConsents consents (some born) rule now guardianshipHolds).deciding = some term) :
    IsLeast {t | ClosesLater consents (some born) rule guardianshipHolds now t} term ↔
      LastsUntilTheTerm consents rule guardianshipHolds now born ∧
        ClosesAtTheTerm consents rule guardianshipHolds now born := by
  simp only [LastsUntilTheTerm, ClosesAtTheTerm, ← isAsked_iff]
  obtain ⟨⟨first, hlisted, hfirst, rfl⟩, hlower⟩ := isLeast_earliestClosing hterm
  have hfirst : IsAsked consents (some born) rule guardianshipHolds now first := hfirst
  have hleast : ∀ other, IsAsked consents (some born) rule guardianshipHolds now other →
      closesAt rule born first ≤ closesAt rule born other := fun other hother =>
    hlower ⟨other, hother.spec.1, hother, rfl⟩
  constructor
  · rintro ⟨⟨-, scope, hasked, hclosed⟩, hearliest⟩
    refine ⟨fun other hother moment hlater hbefore => ?_, fun again hagain hnone => ?_⟩
    · by_contra hcarried
      have hcloses : ClosesLater consents (some born) rule guardianshipHolds now moment := by
        refine ⟨hlater, other, hother, opened_eq_false_iff.2 fun consent hcarries => ?_⟩
        exact absurd ⟨consent, hcarries⟩ hcarried
      exact absurd (hbefore first hfirst) (not_lt.2 (hearliest hcloses))
    · have hsame : closesAt rule born again = closesAt rule born first :=
        le_antisymm (hnone first hfirst) (hleast again hagain)
      rw [hsame]
      exact ⟨scope, hasked, opened_eq_false_iff.1 hclosed⟩
  · rintro ⟨hlasts, hcloses⟩
    obtain ⟨scope, hasked, hothers⟩ := hcloses first hfirst hleast
    refine ⟨⟨hfirst.spec.2, scope, hasked, opened_eq_false_iff.2 hothers⟩, ?_⟩
    rintro moment ⟨hlater, other, hother, hclosed⟩
    by_contra hbefore
    have hsoon : ∀ another, IsAsked consents (some born) rule guardianshipHolds now another →
        moment < closesAt rule born another := fun another hanother =>
      (not_le.1 hbefore).trans_le (hleast another hanother)
    obtain ⟨consent, hcarries⟩ := hlasts other hother moment hlater hsoon
    exact absurd (hsoon other hother) (not_lt.2 (opened_eq_false_iff.1 hclosed consent hcarries).2)

/-- A consent asks exactly if it is in force, somebody else gave it and its scope is in the
grace. -/
theorem asks_iff {consent : GuardianConsent} (hmem : consent ∈ consents) :
    consent.asks (some born) rule now guardianshipHolds = true ↔
      Carries consents guardianshipHolds now consent.scope consent ∧
        consent.grantedByStudent = false ∧ decidesFrom rule born consent.scope ≤ now ∧
          now < closesAt rule born consent.scope := by
  rw [GuardianConsent.asks, GuardianConsent.opens, Bool.and_eq_true, Bool.and_eq_true,
    Bool.not_eq_true', unopposed_eq_false_iff]
  constructor
  · rintro ⟨⟨hcounts, hage⟩, hgranted, other, hborn, hgrown⟩
    obtain rfl := Option.some.inj hborn
    refine ⟨⟨hmem, rfl, hcounts⟩, hgranted, by simpa using hgrown, ?_⟩
    by_contra hover
    have hopposed : consent.unopposed (some born) rule now rule.grace = false :=
      unopposed_eq_false_iff.2 ⟨hgranted, born, rfl, not_lt.1 hover⟩
    rw [hopposed] at hage
    cases hage
  · rintro ⟨⟨-, -, hcounts⟩, hgranted, hgrown, hgraced⟩
    refine ⟨⟨hcounts, ?_⟩, hgranted, born, rfl, by simpa using hgrown⟩
    by_contra hopposed
    obtain ⟨-, other, hborn, hover⟩ := unopposed_eq_false_iff.1 (Bool.not_eq_true _ ▸ hopposed)
    obtain rfl := Option.some.inj hborn
    exact absurd hgraced (not_lt.2 hover)

/-- Where each scope has one consent, it is enough to ask whether the consents that are being
decided about are in force until the first grace is over. -/
theorem lasts_and_closes_iff_of_once
    (honce : ∀ a ∈ consents, ∀ b ∈ consents, a.scope = b.scope → a = b) :
    LastsUntilTheTerm consents rule guardianshipHolds now born ∧
        ClosesAtTheTerm consents rule guardianshipHolds now born ↔
      ∀ consent ∈ consents, consent.asks (some born) rule now guardianshipHolds = true →
        ∀ expires ∈ consent.expiresAt, ∃ other ∈ consents,
          other.asks (some born) rule now guardianshipHolds = true ∧
            closesAt rule born other.scope ≤ expires := by
  constructor
  · rintro ⟨hlasts, -⟩ consent hmem hasks expires hexpires
    by_contra hnone
    push Not at hnone
    obtain ⟨hcarries, hgrace⟩ := (asks_iff hmem).1 hasks
    have hterm : now < expires := by
      by_contra hover
      exact (counts_iff_not_expired.1 hcarries.2.2).2.2.1 ⟨expires, hexpires, not_lt.1 hover⟩
    have hsooner : ∀ scope, IsInGrace consents rule guardianshipHolds now born scope →
        expires < closesAt rule born scope := by
      rintro - ⟨other, ⟨hother, rfl, hcounts⟩, hgrace⟩
      exact hnone other hother ((asks_iff hother).2 ⟨⟨hother, rfl, hcounts⟩, hgrace⟩)
    obtain ⟨other, hother, hscope, hcounts⟩ :=
      hlasts consent.scope ⟨consent, hcarries, hgrace⟩ expires hterm hsooner
    obtain rfl := honce other hother consent hmem hscope
    exact (counts_iff_not_expired.1 hcounts).2.2.1 ⟨expires, hexpires, le_rfl⟩
  · intro houtlasts
    refine ⟨fun scope hgraced moment hlater hbefore => ?_, fun first hgraced _ => ?_⟩
    · obtain ⟨consent, ⟨hmem, rfl, hcounts⟩, hgrace⟩ := hgraced
      refine ⟨consent, Carries.forward ⟨hmem, rfl, hcounts⟩ hlater.le ?_⟩
      rintro ⟨expires, hexpires, hover⟩
      obtain ⟨other, hother, hasks, hcloses⟩ := houtlasts consent hmem
        ((asks_iff hmem).2 ⟨⟨hmem, rfl, hcounts⟩, hgrace⟩) expires hexpires
      obtain ⟨hcarries, hothers⟩ := (asks_iff hother).1 hasks
      exact absurd (hbefore other.scope ⟨other, hcarries, hothers⟩)
        (not_lt.2 (hcloses.trans hover))
    · obtain ⟨consent, hcarries, hgranted, -⟩ := id hgraced
      refine ⟨first, hgraced, fun other hother => ⟨?_, le_rfl⟩⟩
      rwa [honce other hother.1 consent hcarries.1 (hother.2.1.trans hcarries.2.1.symm)]

end Events

/-! ### What goes out -/

section Runs

variable {answers : (asked : Call) → Except Fault asked.Answer} {rule : MaturityRule}
  {drawn : Drawn} {tenant : TenantId} {guardian student : PersonId} {bornOn : Option BirthDate}
  {consents : List GuardianConsent} {guardianship : Option Guardianship}

/-- What goes out: one event with the term that is computed, or nothing. -/
theorem run_announceGuardianHandover
    (hborn : answers (.directory (.bornOn tenant student)) = .ok bornOn)
    (hconsents : answers (.consents (.activeFor tenant guardian student)) = .ok consents)
    (hguardianship : answers (.guardianships (.findActive tenant guardian student)) =
      .ok guardianship) :
    ((announceGuardianHandover (.ok rule) drawn tenant guardian student).run (board answers) []).2 =
      match bornOn with
      | none => []
      | some born =>
        let access := weighConsents consents (some born) rule (drawn.clock 0) guardianship.isSome
        if access.deciding = BitSet.empty then []
        else [⟨.guardianHandoverStarted, ⟨tenant, drawn.clock 0, guardian, student,
          (earliestClosing rule born access.deciding).getD 0⟩⟩] := by
  simp only [announceGuardianHandover, Result.orRefuse_ok, ofExcept_ok, done_bind, run_bind,
    run_perform, exec_board_store, hborn]
  cases bornOn with
  | none => rfl
  | some born =>
    simp only [run_bind, run_perform, exec_board_store, hconsents, hguardianship]
    split_ifs
    · rfl
    · rw [run_bind, run_perform, exec_board_publish]
      rfl

/-- Nothing is being decided exactly if no scope is. -/
theorem deciding_eq_empty_iff {guardianshipHolds : Bool} {now : Int} :
    (weighConsents consents bornOn rule now guardianshipHolds).deciding = BitSet.empty ↔
      ¬ ∃ scope, IsAsked consents bornOn rule guardianshipHolds now scope := by
  constructor
  · rintro hempty ⟨scope, hasked⟩
    rw [IsAsked, hempty, BitSet.has_empty] at hasked
    cases hasked
  · intro hnone
    refine (deciding_cases consents bornOn rule now guardianshipHolds).resolve_right ?_
    rintro ⟨scope, -, hasked⟩
    exact hnone ⟨scope, hasked⟩

/-- The announcement tells the true term exactly if the consents last until it and close at it. -/
theorem tellsTheTerm_iff
    (hborn : answers (.directory (.bornOn tenant student)) = .ok bornOn)
    (hconsents : answers (.consents (.activeFor tenant guardian student)) = .ok consents)
    (hguardianship : answers (.guardianships (.findActive tenant guardian student)) =
      .ok guardianship) :
    TellsTheTerm consents bornOn rule guardianship.isSome (drawn.clock 0)
        ((announceGuardianHandover (.ok rule) drawn tenant guardian student).run
          (board answers) []).2 ↔
      ∀ born, bornOn = some born →
        LastsUntilTheTerm consents rule guardianship.isSome (drawn.clock 0) born ∧
          ClosesAtTheTerm consents rule guardianship.isSome (drawn.clock 0) born := by
  rw [run_announceGuardianHandover hborn hconsents hguardianship]
  cases bornOn with
  | none =>
    have hnone : ∀ scope,
        ¬ IsAsked consents none rule guardianship.isSome (drawn.clock 0) scope := by
      intro scope hasked
      obtain ⟨-, -, -, born, hborn, -⟩ := deciding_iff.1 hasked
      cases hborn
    simp [TellsTheTerm, hnone]
  | some born =>
    dsimp only
    by_cases hempty : (weighConsents consents (some born) rule (drawn.clock 0)
        guardianship.isSome).deciding = BitSet.empty
    · have hnone := deciding_eq_empty_iff.1 hempty
      rw [if_pos hempty]
      refine ⟨fun _ other hborn => ?_, fun _ => ⟨by simpa using hnone, by simp⟩⟩
      obtain rfl := Option.some.inj hborn
      refine ⟨?_, ?_⟩
      · exact fun scope hgraced => absurd ⟨scope, isAsked_iff.2 hgraced⟩ hnone
      · exact fun scope hgraced => absurd ⟨scope, isAsked_iff.2 hgraced⟩ hnone
    · rw [if_neg hempty]
      obtain ⟨term, hterm⟩ := Option.isSome_iff_exists.1 (earliestClosing_isSome born hempty)
      have hasked := not_not.1 (mt deciding_eq_empty_iff.2 hempty)
      rw [hterm, Option.getD_some]
      constructor
      · intro htells other hborn
        obtain rfl := Option.some.inj hborn
        obtain ⟨started, hevent, hleast⟩ := htells.2 _ List.mem_cons_self
        cases hevent
        exact (isLeast_closesLater_iff hterm).1 hleast
      · intro hconsents
        refine ⟨by simpa using hasked, fun event hevent => ⟨_, List.mem_singleton.1 hevent, ?_⟩⟩
        exact (isLeast_closesLater_iff hterm).2 (hconsents born rfl)

/-- **The term that is announced is the true one** exactly if the consents last until it and close
at it; and where each scope has one consent, exactly if no consent that is being decided about
ends on its own before the first grace does. For the announcement of each student to each
guardian, whatever the ports answer it. -/
theorem term_is_true_iff
    (hborn : answers (.directory (.bornOn tenant student)) = .ok bornOn)
    (hconsents : answers (.consents (.activeFor tenant guardian student)) = .ok consents)
    (hguardianship : answers (.guardianships (.findActive tenant guardian student)) =
      .ok guardianship) :
    let now := drawn.clock 0
    let tells := TellsTheTerm consents bornOn rule guardianship.isSome now
      ((announceGuardianHandover (.ok rule) drawn tenant guardian student).run (board answers) []).2
    (tells ↔ ∀ born, bornOn = some born →
      LastsUntilTheTerm consents rule guardianship.isSome now born ∧
        ClosesAtTheTerm consents rule guardianship.isSome now born) ∧
    ((∀ a ∈ consents, ∀ b ∈ consents, a.scope = b.scope → a = b) →
      (tells ↔ ∀ born, bornOn = some born → ∀ consent ∈ consents,
        consent.asks (some born) rule now guardianship.isSome = true →
          ∀ expires ∈ consent.expiresAt, ∃ other ∈ consents,
            other.asks (some born) rule now guardianship.isSome = true ∧
              closesAt rule born other.scope ≤ expires)) := by
  intro now tells
  have htells : tells ↔ _ := tellsTheTerm_iff hborn hconsents hguardianship
  refine ⟨htells, fun honce => htells.trans ?_⟩
  exact forall_congr' fun born => imp_congr_right fun _ => lasts_and_closes_iff_of_once honce

/-- What the rows of the store answer. -/
def answersOf (db : Database) (asked : Call) : Except Fault asked.Answer :=
  (database.exec asked db).1

/-- What is announced to the parent when the child has been 14 for five days. -/
def announcedAt14 (db : Database) : List DomainEvent :=
  ((announceGuardianHandover (.ok schoolRule) (drawnAt (afterBirthday 14 5) 8) (repeated 7)
    (repeated 2) (repeated 1)).run (board (answersOf db)) []).2

/-- The consents that are weighed for it. -/
def weighedAt14 (db : Database) : List GuardianConsent :=
  ConsentCall.activeRows (repeated 7) (repeated 2) (repeated 1) db.consents.rows

/-- The parent sees the recordings until ten days after the child turns 14. -/
def seenUntil14 : Database :=
  attendAll (.ok schoolRule) {}
    [(drawnAt (afterBirthday 9 0) 1, .enrolChild childEnrolled),
      (drawnAt (afterBirthday 9 1) 3,
        .grantScope { parentSees with expiresAt := some (afterBirthday 14 10) })]

/-- A consent without a term of its own: the grace is what closes it. -/
theorem term_without_expiry :
    TellsTheTerm (weighedAt14 schoolDays) (some childEnrolled.bornOn) schoolRule true
      (afterBirthday 14 5) (announcedAt14 schoolDays) := by
  have hborn : answersOf schoolDays (.directory (.bornOn (repeated 7) (repeated 1))) =
      .ok (some childEnrolled.bornOn) := by decide +kernel
  obtain ⟨guardianship, hguardianship, hholds⟩ : ∃ guardianship,
      answersOf schoolDays (.guardianships (.findActive (repeated 7) (repeated 2) (repeated 1))) =
        .ok guardianship ∧ guardianship.isSome = true := ⟨_, rfl, by decide +kernel⟩
  have htells : TellsTheTerm (weighedAt14 schoolDays) (some childEnrolled.bornOn) schoolRule
      guardianship.isSome (afterBirthday 14 5) (announcedAt14 schoolDays) ↔ _ :=
    (term_is_true_iff hborn rfl hguardianship).2 (by decide +kernel)
  rw [hholds] at htells
  refine htells.2 fun born hborn => ?_
  obtain rfl := Option.some.inj hborn
  decide +kernel

/-- A consent that ends twenty days before the grace does: the term that is announced is the end of
the grace. -/
theorem term_is_too_late :
    (∃ started : GuardianHandoverStarted,
      announcedAt14 seenUntil14 = [⟨.guardianHandoverStarted, started⟩] ∧
        started.decideBy = afterBirthday 14 30) ∧
    ClosesLater (weighedAt14 seenUntil14) (some childEnrolled.bornOn) schoolRule true
      (afterBirthday 14 5) (afterBirthday 14 10) ∧
    ¬ TellsTheTerm (weighedAt14 seenUntil14) (some childEnrolled.bornOn) schoolRule true
      (afterBirthday 14 5) (announcedAt14 seenUntil14) := by
  have hstarted : announcedAt14 seenUntil14 = [⟨.guardianHandoverStarted,
      ⟨repeated 7, afterBirthday 14 5, repeated 2, repeated 1, afterBirthday 14 30⟩⟩] := by
    rfl
  have hcloses : ClosesLater (weighedAt14 seenUntil14) (some childEnrolled.bornOn) schoolRule true
      (afterBirthday 14 5) (afterBirthday 14 10) :=
    ⟨by decide +kernel, .recordings, by rw [IsAsked]; decide +kernel, by decide +kernel⟩
  refine ⟨⟨_, hstarted, rfl⟩, hcloses, fun htells => ?_⟩
  obtain ⟨started, hevent, -, hleast⟩ := htells.2 _ (hstarted ▸ List.mem_cons_self)
  cases hevent
  have hlate : afterBirthday 14 10 < afterBirthday 14 30 := by decide +kernel
  exact absurd (hleast hcloses) (not_le.2 hlate)

end Runs

end Pdr.Identity
