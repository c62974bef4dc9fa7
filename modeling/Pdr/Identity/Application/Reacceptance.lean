import Pdr.Identity.Application.GivingConsent

/-!
# When a person is asked to accept the list again

The screen of a person's data goes through his consents once and keeps the newest version among
the live ones to the processing. One question about that version answers for all of them: what is
accepted up to a version is accepted up to every older one, so the greatest version asks only where
each of them asks.

The store of the consents and the list of versions are ports, and any stores and lists will do. Of
the list it is used that it tells whether there was a substantial version between an accepted one
and the one in force.

## Main definitions

* `Pdr.Identity.ConsentRecord.Counts`: a live consent to the processing.
* `Pdr.Identity.PolicyVersions.Tells`: what the list of versions answers.

## Main results

* `Pdr.Identity.isAccepted_foldl`: the loop keeps the newest version that counts.
* `Pdr.Identity.asked_again_exactly_when_due`: when the screen does not ask.
-/

namespace Pdr.Identity

open StoreProgram Program

/-- The consent is to the processing, and live at the moment. -/
def ConsentRecord.Counts (record : ConsentRecord) (now : Int) : Prop :=
  record.kind = .processing ∧ record.isLiveAt now = true

/-- The list names a substantial version between an older one and the one in force exactly if one
of these numbers is there. -/
def PolicyVersions.Tells (versions : PolicyVersions) (substantial : Set Int) : Prop :=
  ∀ accepted : PolicyVersion, accepted.number < versions.current.number →
    (versions.substantialAfter accepted = true ↔
      ∃ number ∈ substantial, accepted.number < number ∧ number ≤ versions.current.number)

/-! ### The newest version that counts -/

/-- The greatest version among the consents that count. -/
def IsAccepted (now : Int) (records : List ConsentRecord) : Option PolicyVersion → Prop
  | none => ∀ record ∈ records, ¬ record.Counts now
  | some version => (∃ record ∈ records, record.Counts now ∧ record.version = version) ∧
      ∀ record ∈ records, record.Counts now → record.version.number ≤ version.number

section Loop

variable {now : Int} {records others : List ConsentRecord} {record : ConsentRecord}
  {accepted : Option PolicyVersion}

theorem acceptNewer_of_not_counts (h : ¬ record.Counts now) :
    acceptNewer now accepted record = accepted := by
  rw [ConsentRecord.Counts, not_and_or] at h
  rw [acceptNewer.eq_def, if_pos]
  rcases h with hkind | hlive
  · simp [hkind]
  · simp [hlive]

theorem acceptNewer_of_counts (h : record.Counts now) :
    acceptNewer now accepted record = some (accepted.elim record.version fun version =>
      if version.number < record.version.number then record.version else version) := by
  rw [acceptNewer.eq_def, if_neg (by simp [h.1, h.2])]
  cases accepted with
  | none => rfl
  | some version =>
    dsimp only [Option.elim_some]
    split <;> rfl

/-- What one consent adds. -/
theorem IsAccepted.concat (h : IsAccepted now records accepted) :
    IsAccepted now (records ++ [record]) (acceptNewer now accepted record) := by
  by_cases hcounts : record.Counts now
  · rw [acceptNewer_of_counts hcounts]
    cases accepted with
    | none =>
      refine ⟨⟨record, by simp, hcounts, rfl⟩, fun other hother hother' => ?_⟩
      rcases List.mem_append.1 hother with hearlier | hlast
      · exact absurd hother' (h other hearlier)
      · rw [List.mem_singleton.1 hlast]
        exact le_rfl
    | some version =>
      obtain ⟨⟨found, hfound, hfoundCounts, hversion⟩, hgreatest⟩ := h
      dsimp only [Option.elim_some]
      split
      · rename_i hnewer
        refine ⟨⟨record, by simp, hcounts, rfl⟩, fun other hother hother' => ?_⟩
        rcases List.mem_append.1 hother with hearlier | hlast
        · have hle := hgreatest other hearlier hother'
          omega
        · rw [List.mem_singleton.1 hlast]
      · rename_i holder
        refine ⟨⟨found, List.mem_append_left _ hfound, hfoundCounts, hversion⟩,
          fun other hother hother' => ?_⟩
        rcases List.mem_append.1 hother with hearlier | hlast
        · exact hgreatest other hearlier hother'
        · rw [List.mem_singleton.1 hlast]
          exact Int.not_lt.1 holder
  · rw [acceptNewer_of_not_counts hcounts]
    have hmem : ∀ other, other.Counts now → (other ∈ records ++ [record] ↔ other ∈ records) := by
      intro other hother
      rw [List.mem_append, List.mem_singleton, or_iff_left]
      rintro rfl
      exact hcounts hother
    cases accepted with
    | none => exact fun other hother hother' => h other ((hmem other hother').1 hother) hother'
    | some version =>
      obtain ⟨⟨found, hfound, hfoundCounts, hversion⟩, hgreatest⟩ := h
      exact ⟨⟨found, (hmem found hfoundCounts).2 hfound, hfoundCounts, hversion⟩,
        fun other hother hother' => hgreatest other ((hmem other hother').1 hother) hother'⟩

/-- **The loop keeps the newest version that counts.** -/
theorem isAccepted_foldl (now : Int) (records : List ConsentRecord) :
    IsAccepted now records (records.foldl (acceptNewer now) none) := by
  induction records using List.reverseRecOn with
  | nil => exact fun record hrecord => absurd hrecord List.not_mem_nil
  | append_singleton records record ih =>
    rw [List.foldl_concat]
    exact ih.concat

/-- It is one version, and the consents that count determine it. -/
theorem IsAccepted.eq {found : Option PolicyVersion} (h : IsAccepted now records accepted)
    (hfound : IsAccepted now others found)
    (hsame : ∀ record : ConsentRecord, record.kind = .processing →
      (record ∈ others ↔ record ∈ records)) : accepted = found := by
  cases accepted with
  | none =>
    cases found with
    | none => rfl
    | some version =>
      obtain ⟨⟨record, hrecord, hcounts, -⟩, -⟩ := hfound
      exact absurd hcounts (h record ((hsame record hcounts.1).1 hrecord))
  | some version =>
    obtain ⟨⟨record, hrecord, hcounts, rfl⟩, hgreatest⟩ := h
    cases found with
    | none => exact absurd hcounts (hfound record ((hsame record hcounts.1).2 hrecord))
    | some later =>
      obtain ⟨⟨other, hother, hotherCounts, rfl⟩, hgreatest'⟩ := hfound
      have hle := hgreatest other ((hsame other hotherCounts.1).1 hother) hotherCounts
      have hge := hgreatest' record ((hsame record hcounts.1).2 hrecord) hcounts
      have hnumber : record.version.number = other.version.number := le_antisymm hge hle
      rw [Option.some_inj, PolicyVersion.mk.injEq]
      exact hnumber

end Loop

/-! ### What the screen asks -/

section Screen

variable {σ : Type} {M : Machine ConsentsCall.Answer Fault σ} {versions : PolicyVersions}
  {substantial : Set Int} {now : Int} {tenant : TenantId} {subject : PersonId} {s s' : σ}
  {records : List ConsentRecord} {accepted : Option PolicyVersion}

/-- Whether a person is asked who has accepted this much. -/
def asksBeyond (versions : PolicyVersions) : Option PolicyVersion → Bool
  | none => true
  | some version => needsReacceptance version versions.current (versions.substantialAfter version)

theorem run_showMyData (versions : PolicyVersions) (now : Int)
    (hread : M.exec (.of tenant subject) s = (.ok records, s')) :
    ∃ shown, (showMyData versions now tenant subject).run M s = (.ok shown, s') ∧
      shown.asksToAcceptAgain = asksBeyond versions (records.foldl (acceptNewer now) none) := by
  rw [showMyData, run_bind, run_perform, hread]
  refine ⟨_, rfl, ?_⟩
  dsimp only
  cases records.foldl (acceptNewer now) none <;> rfl

/-- A version is enough exactly if nothing substantial came between it and the one in force. -/
theorem needsReacceptance_eq_false_iff (h : versions.Tells substantial) (version : PolicyVersion) :
    needsReacceptance version versions.current (versions.substantialAfter version) = false ↔
      ∀ number ∈ substantial,
        ¬ (version.number < number ∧ number ≤ versions.current.number) := by
  rw [needsReacceptance, Bool.and_eq_false_iff, decide_eq_false_iff_not]
  by_cases holder : version.number < versions.current.number
  · rw [← Bool.not_eq_true, h version holder, or_iff_right (not_not.2 holder)]
    push Not
    rfl
  · refine iff_of_true (Or.inl holder) fun number _ hbetween => ?_
    omega

/-- The greatest version is enough exactly if one of the versions is. -/
theorem asksBeyond_eq_false_iff (h : versions.Tells substantial)
    (haccepted : IsAccepted now records accepted) :
    asksBeyond versions accepted = false ↔
      ∃ record ∈ records, record.Counts now ∧ ∀ number ∈ substantial,
        ¬ (record.version.number < number ∧ number ≤ versions.current.number) := by
  cases accepted with
  | none =>
    refine iff_of_false Bool.true_eq_false_eq_False fun ⟨record, hrecord, hcounts, _⟩ => ?_
    exact haccepted record hrecord hcounts
  | some version =>
    obtain ⟨⟨found, hfound, hfoundCounts, hversion⟩, hgreatest⟩ := haccepted
    rw [asksBeyond, needsReacceptance_eq_false_iff h]
    constructor
    · intro henough
      exact ⟨found, hfound, hfoundCounts, hversion ▸ henough⟩
    · rintro ⟨record, hrecord, hcounts, henough⟩ number hnumber ⟨hafter, hupto⟩
      have hle := hgreatest record hrecord hcounts
      exact henough number hnumber ⟨by omega, hupto⟩

/-- **A person is asked again exactly when it is due.** Whatever consents the store answers with, in
whatever order: the screen does not ask exactly if some live consent to the processing is to a
version after which, up to the one in force, nothing substantial came. Two stores with the same
consents to the processing give the same answer. -/
theorem asked_again_exactly_when_due (now : Int) (htells : versions.Tells substantial)
    (hread : M.exec (.of tenant subject) s = (.ok records, s')) :
    ∃ shown, (showMyData versions now tenant subject).run M s = (.ok shown, s') ∧
      (shown.asksToAcceptAgain = false ↔
        ∃ record ∈ records, record.kind = .processing ∧ record.isLiveAt now = true ∧
          ∀ number ∈ substantial,
            ¬ (record.version.number < number ∧ number ≤ versions.current.number)) ∧
      ∀ t t' others, M.exec (.of tenant subject) t = (.ok others, t') →
        (∀ record : ConsentRecord, record.kind = .processing →
          (record ∈ others ↔ record ∈ records)) →
        ∃ again, (showMyData versions now tenant subject).run M t = (.ok again, t') ∧
          again.asksToAcceptAgain = shown.asksToAcceptAgain := by
  have haccepted := isAccepted_foldl now records
  obtain ⟨shown, hrun, hasks⟩ := run_showMyData versions now hread
  refine ⟨shown, hrun, ?_, fun t t' others hother hsame => ?_⟩
  · rw [hasks, asksBeyond_eq_false_iff htells haccepted]
    simp only [ConsentRecord.Counts, and_assoc]
  · obtain ⟨again, hagain, hasks'⟩ := run_showMyData versions now hother
    refine ⟨again, hagain, ?_⟩
    rw [hasks', hasks, haccepted.eq (isAccepted_foldl now others) hsame]

end Screen

/-! ### Three consents -/

/-- A store that answers with the consents it is given, in their order. -/
def answersWith : Machine ConsentsCall.Answer Fault (List ConsentRecord) where
  exec call records := match call with
    | .of _ _ => (.ok records, records)
    | .save record => (.ok (), records ++ [record])

/-- The fourth version is in force; the second and the third were substantial. -/
def fourVersions : PolicyVersions where
  current := ⟨4, by decide⟩
  substantialAfter version := version.number < 3

theorem tells_fourVersions : fourVersions.Tells {2, 3} := by
  intro accepted _
  simp only [fourVersions, decide_eq_true_eq, Set.mem_insert_iff, Set.mem_singleton_iff]
  constructor
  · exact fun h => ⟨3, Or.inr rfl, h, by decide⟩
  · rintro ⟨number, rfl | rfl, hbefore, -⟩
    · omega
    · exact hbefore

/-- A consent to the processing, and when it ends. -/
def consentTo (version : PolicyVersion) (withdrawnAt : Option Int) : ConsentRecord :=
  ⟨⟨Vector.replicate 16 1⟩, repeated 7, repeated 1, repeated 1, .processing, version,
    .versionAccepted, 5, withdrawnAt⟩

/-- The first version for good, the third until later, and the fourth no more. -/
def threeConsents : List ConsentRecord :=
  [consentTo ⟨1, by decide⟩ none, consentTo ⟨3, by decide⟩ (some 20),
    consentTo ⟨4, by decide⟩ (some 10)]

/-- After the third version nothing substantial came. -/
theorem third_version_is_enough :
    ∃ shown, ((showMyData fourVersions 10 (repeated 7) (repeated 1)).run answersWith
        threeConsents).1 = .ok shown ∧ shown.asksToAcceptAgain = false := by
  have hread : answersWith.exec (.of (repeated 7) (repeated 1)) threeConsents =
      (.ok threeConsents, threeConsents) := rfl
  obtain ⟨shown, hrun, hasks, -⟩ := asked_again_exactly_when_due 10 tells_fourVersions hread
  refine ⟨shown, congrArg Prod.fst hrun, hasks.2 ⟨consentTo ⟨3, by decide⟩ (some 20), ?_, rfl, ?_,
    fun number hnumber hbetween => ?_⟩⟩
  · exact List.mem_cons_of_mem _ List.mem_cons_self
  · decide
  · obtain rfl | rfl := hnumber
    · exact absurd hbetween.1 (by decide)
    · exact absurd hbetween.1 (by decide)

end Pdr.Identity
