import Mathlib.Data.List.Find
import Pdr.Core.Errors
import Pdr.Core.Types

/-!
# The secrets a service starts with

A service does not start without its secrets. The registry lists them; each that is needed now
has to be there, not empty, and different from all others, since of two keys with one value the
loss of one is the loss of both. What is wrong is said for every secret at once, by name and
never by value.

## Main definitions

* `Pdr.inspectSecrets`, `Pdr.verifySecrets`: the check, with its loop.
* `Pdr.complaintOf`: what is wrong with one secret, given those before it in the registry.
* `Pdr.AreReady`: the secrets are as they should be.
* `Pdr.SameShape`: two sets of values of which the same are missing, empty and equal.

## Main results

* `Pdr.inspectSecrets_eq`: every secret gets its own complaint, and no other.
* `Pdr.secrets_are_verified_iff`: when the service starts.
* `Pdr.complaints_tell_no_value`: complaints depend on no value.
-/

namespace Pdr

/-! ### The registry -/

/-- What a secret is for; `boundary` marks the end of the source's list. -/
inductive SecretPurpose where
  | database
  | paymentProvider
  | webhookSigning
  | videoProvider
  | boundary
deriving DecidableEq, Repr

/-- A record of the registry. `awaits` names the work that will read the secret; it is empty if
the secret is read already. -/
structure SecretSpec where
  name : String
  purpose : SecretPurpose
  awaits : String
deriving DecidableEq, Repr

/-- `RequiredNow`. -/
def SecretSpec.requiredNow (spec : SecretSpec) : Bool := spec.awaits.isEmpty

/-- `kEverySecret`. -/
def everySecret : List SecretSpec :=
  [⟨"postgres_dsn", .database, ""⟩, ⟨"yookassa_shop_id", .paymentProvider, "BILL"⟩,
    ⟨"yookassa_secret_key", .paymentProvider, "BILL"⟩,
    ⟨"yookassa_webhook_secret", .webhookSigning, "BILL"⟩,
    ⟨"livekit_api_key", .videoProvider, "VIDEO"⟩,
    ⟨"livekit_api_secret", .videoProvider, "VIDEO"⟩]

/-- `Find` of the port `SecretSource`: no secret, or its value, which may be empty. -/
abbrev SecretSource : Type := String → Option Text

/-! ### The check -/

/-- What is wrong with a secret. -/
structure SecretComplaint where
  name : String
  reason : String
deriving DecidableEq, Repr

/-- `Missing`. -/
def missingSecret (name : String) : String :=
  "секрета «" ++ name ++ "» нет вовсе. Значений по умолчанию у секретов не существует: " ++
    "умолчание доживает до прода и работает"

/-- `Blank`. -/
def blankSecret (name : String) : String :=
  "секрет «" ++ name ++ "» пуст. Пустая строка — не значение, а забытая переменная"

/-- `Shared`. -/
def sharedSecret (name other : String) (samePurpose : Bool) : String :=
  let reason := "секрет «" ++ name ++ "» совпадает с «" ++ other ++ "»"
  if samePurpose then
    reason ++ ". Два разных секрета с одним значением — это вставленное дважды из " ++
      "буфера обмена"
  else
    reason ++ ", а назначения у них разные. Утечка одного тогда равна утечке обоих: ключ, " ++
      "которым ходим мы, и ключ, которым подписывают нам, обязаны различаться"

/-- The loop of `InspectSecrets`. A value is taken by the first secret that has it. -/
def inspectFrom (source : SecretSource) :
    List (SecretSpec × Text) → List SecretSpec → List SecretComplaint
  | _, [] => []
  | taken, spec :: rest =>
    if spec.requiredNow then
      match source spec.name with
      | none => ⟨spec.name, missingSecret spec.name⟩ :: inspectFrom source taken rest
      | some found =>
        if found.isEmpty then ⟨spec.name, blankSecret spec.name⟩ :: inspectFrom source taken rest
        else match taken.find? fun earlier => earlier.2 = found with
          | some earlier =>
            ⟨spec.name, sharedSecret spec.name earlier.1.name
              (earlier.1.purpose = spec.purpose)⟩ :: inspectFrom source taken rest
          | none => inspectFrom source (taken ++ [(spec, found)]) rest
    else inspectFrom source taken rest

/-- `InspectSecrets`. -/
def inspectSecrets (registry : List SecretSpec) (source : SecretSource) : List SecretComplaint :=
  inspectFrom source [] registry

/-- The detail of the refusal: the loop of `VerifySecrets`. -/
def joinedReasons (complaints : List SecretComplaint) : String :=
  complaints.foldl (fun detail complaint =>
    (if detail.isEmpty then detail else detail ++ "; ") ++ complaint.reason) ""

/-- `VerifySecrets`. -/
def verifySecrets (registry : List SecretSpec) (source : SecretSource) : Result Unit :=
  let complaints := inspectSecrets registry source
  if complaints.isEmpty then .ok ()
  else .error ⟨.validation, "secrets_incomplete", joinedReasons complaints⟩

/-! ### One secret -/

/-- The secret is needed now and has this value. -/
def Bears (source : SecretSource) (found : Text) (spec : SecretSpec) : Bool :=
  spec.requiredNow && source spec.name = some found

/-- What is wrong with a secret: it is missing, or empty, or a secret before it has its value. Of
those before it the first that has the value is named. -/
def complaintOf (source : SecretSource) (before : List SecretSpec) (spec : SecretSpec) :
    Option SecretComplaint :=
  if spec.requiredNow then
    match source spec.name with
    | none => some ⟨spec.name, missingSecret spec.name⟩
    | some found =>
      if found.isEmpty then some ⟨spec.name, blankSecret spec.name⟩
      else (before.find? (Bears source found)).map fun earlier =>
        ⟨spec.name, sharedSecret spec.name earlier.name (earlier.purpose = spec.purpose)⟩
  else none

/-- The complaints of a registry, each secret on its own. -/
def complaintsOf (source : SecretSource) :
    List SecretSpec → List SecretSpec → List SecretComplaint
  | _, [] => []
  | before, spec :: rest =>
    (complaintOf source before spec).toList ++ complaintsOf source (before ++ [spec]) rest

/-- Every value that is not empty was taken by the first secret that has it. -/
def AreTaken (source : SecretSource) (before : List SecretSpec)
    (taken : List (SecretSpec × Text)) : Prop :=
  ∀ found : Text, found ≠ [] →
    (taken.find? fun earlier => earlier.2 = found).map Prod.fst = before.find? (Bears source found)

section Loop

variable {source : SecretSource} {before : List SecretSpec} {taken : List (SecretSpec × Text)}
  {spec : SecretSpec}

theorem bears_iff {found : Text} :
    Bears source found spec = true ↔ spec.requiredNow = true ∧ source spec.name = some found := by
  rw [Bears, Bool.and_eq_true, decide_eq_true_eq]

/-- A secret that has no value of its own takes nothing. -/
theorem AreTaken.pass (h : AreTaken source before taken)
    (hbears : ∀ found, found ≠ [] → Bears source found spec = true →
      (before.find? (Bears source found)).isSome = true) :
    AreTaken source (before ++ [spec]) taken := by
  intro found hfound
  rw [h found hfound, List.find?_append]
  cases hearlier : before.find? (Bears source found) with
  | some earlier => rfl
  | none =>
    have hnot : Bears source found spec = false := by
      by_contra hbearing
      have hsome := hbears found hfound (Bool.eq_true_of_not_eq_false hbearing)
      rw [hearlier] at hsome
      cases hsome
    rw [Option.none_or, List.find?_cons, hnot, List.find?_nil]

/-- The first secret that has a value takes it. -/
theorem AreTaken.take (h : AreTaken source before taken) {value : Text}
    (hneeded : spec.requiredNow = true) (hvalue : source spec.name = some value) :
    AreTaken source (before ++ [spec]) (taken ++ [(spec, value)]) := by
  intro found hfound
  rw [List.find?_append, List.find?_append, Option.map_or, h found hfound]
  congr 1
  by_cases hsame : value = found
  · subst hsame
    simp [Bears, hneeded, hvalue]
  · have hother : ¬ source spec.name = some found := by
      rw [hvalue]
      exact fun heq => hsame (Option.some.inj heq)
    simp [Bears, hsame, hother]

/-- The loop says of every secret what is wrong with it. -/
theorem inspectFrom_eq (h : AreTaken source before taken) (rest : List SecretSpec) :
    inspectFrom source taken rest = complaintsOf source before rest := by
  induction rest generalizing before taken with
  | nil => rfl
  | cons spec rest ih =>
    rw [inspectFrom, complaintsOf, complaintOf]
    by_cases hneeded : spec.requiredNow = true
    · rw [if_pos hneeded, if_pos hneeded]
      cases hsource : source spec.name with
      | none =>
        rw [Option.toList_some, List.singleton_append, ih]
        refine h.pass fun found _ hbears => ?_
        cases hsource.symm.trans (bears_iff.1 hbears).2
      | some value =>
        dsimp only
        by_cases hempty : value.isEmpty = true
        · rw [if_pos hempty, if_pos hempty, Option.toList_some, List.singleton_append, ih]
          refine h.pass fun found hfound hbears => ?_
          obtain rfl := Option.some.inj (hsource.symm.trans (bears_iff.1 hbears).2)
          exact absurd (List.isEmpty_iff.1 hempty) hfound
        · rw [if_neg hempty, if_neg hempty]
          have hvalue : value ≠ [] := fun hnil => hempty (List.isEmpty_iff.2 hnil)
          rw [← h value hvalue]
          cases htaken : taken.find? fun earlier => earlier.2 = value with
          | some earlier =>
            dsimp only
            rw [Option.map_some, Option.map_some, Option.toList_some, List.singleton_append, ih]
            refine h.pass fun found hfound hbears => ?_
            obtain rfl := Option.some.inj (hsource.symm.trans (bears_iff.1 hbears).2)
            rw [← h value hfound, htaken]
            rfl
          | none =>
            dsimp only
            rw [Option.map_none, Option.map_none, Option.toList_none, List.nil_append, ih]
            exact h.take hneeded hsource
    · rw [if_neg hneeded, if_neg hneeded, Option.toList_none, List.nil_append, ih]
      exact h.pass fun found _ hbears => absurd (bears_iff.1 hbears).1 hneeded

end Loop

/-- **Every secret gets its own complaint**, in the order of the registry, and no other. -/
theorem inspectSecrets_eq (registry : List SecretSpec) (source : SecretSource) :
    inspectSecrets registry source = complaintsOf source [] registry :=
  inspectFrom_eq (fun _ _ => rfl) registry

/-! ### When the service starts -/

/-- Every secret that is needed now is there and not empty, and no two have one value. -/
structure AreReady (registry : List SecretSpec) (source : SecretSource) : Prop where
  given : ∀ spec ∈ registry, spec.requiredNow = true →
    ∃ value, source spec.name = some value ∧ value ≠ []
  apart : (registry.filter (·.requiredNow)).Pairwise fun a b => source a.name ≠ source b.name

/-- A secret is as it should be: if it is needed now, it is there and not empty, and none before it
that is needed has its value. -/
def IsReady (source : SecretSource) (before : List SecretSpec) (spec : SecretSpec) : Prop :=
  spec.requiredNow = true → (∃ value, source spec.name = some value ∧ value ≠ []) ∧
    ∀ earlier ∈ before, earlier.requiredNow = true → source earlier.name ≠ source spec.name

theorem complaintOf_eq_none {source : SecretSource} {before : List SecretSpec}
    {spec : SecretSpec} : complaintOf source before spec = none ↔ IsReady source before spec := by
  rw [complaintOf, IsReady]
  by_cases hneeded : spec.requiredNow = true
  · rw [if_pos hneeded]
    cases hsource : source spec.name with
    | none => simp [hneeded]
    | some value =>
      dsimp only
      by_cases hempty : value.isEmpty = true
      · rw [if_pos hempty]
        simp [hneeded, List.isEmpty_iff.1 hempty]
      · rw [if_neg hempty, Option.map_eq_none_iff, List.find?_eq_none]
        have hvalue : value ≠ [] := fun hnil => hempty (List.isEmpty_iff.2 hnil)
        simp [hneeded, hvalue, Bears]
  · simp [hneeded]

theorem complaintsOf_eq_nil {source : SecretSource} (before rest : List SecretSpec) :
    complaintsOf source before rest = [] ↔ AreReady rest source ∧
      ∀ spec ∈ rest, spec.requiredNow = true → ∀ earlier ∈ before, earlier.requiredNow = true →
        source earlier.name ≠ source spec.name := by
  induction rest generalizing before with
  | nil =>
    refine iff_of_true rfl ⟨⟨?_, List.Pairwise.nil⟩, ?_⟩
    · exact fun spec hspec => absurd hspec List.not_mem_nil
    · exact fun spec hspec => absurd hspec List.not_mem_nil
  | cons spec rest ih =>
    rw [complaintsOf, List.append_eq_nil_iff, Option.toList_eq_nil_iff, complaintOf_eq_none, ih,
      IsReady]
    constructor
    · rintro ⟨hspec, hrest, hlater⟩
      refine ⟨⟨?_, ?_⟩, ?_⟩
      · intro other hother hneeded
        rcases List.mem_cons.1 hother with rfl | hother
        · exact (hspec hneeded).1
        · exact hrest.given other hother hneeded
      · by_cases hneeded : spec.requiredNow = true
        · rw [List.filter_cons_of_pos hneeded]
          refine List.Pairwise.cons (fun other hother => ?_) hrest.apart
          obtain ⟨hmem, hother⟩ := List.mem_filter.1 hother
          exact hlater other hmem hother spec (by simp) hneeded
        · rw [List.filter_cons_of_neg hneeded]
          exact hrest.apart
      · intro other hother hneeded earlier hearlier
        rcases List.mem_cons.1 hother with rfl | hother
        · exact (hspec hneeded).2 earlier hearlier
        · exact hlater other hother hneeded earlier (List.mem_append_left _ hearlier)
    · rintro ⟨⟨hgiven, hapart⟩, hearlier⟩
      refine ⟨fun hneeded => ⟨hgiven spec List.mem_cons_self hneeded,
        hearlier spec List.mem_cons_self hneeded⟩, ⟨?_, ?_⟩, ?_⟩
      · exact fun other hother => hgiven other (List.mem_cons_of_mem _ hother)
      · exact hapart.sublist ((List.sublist_cons_self spec rest).filter _)
      · intro other hother hneeded earlier hmem hneeded'
        rcases List.mem_append.1 hmem with hmem | hmem
        · exact hearlier other (List.mem_cons_of_mem _ hother) hneeded earlier hmem hneeded'
        · obtain rfl := List.mem_singleton.1 hmem
          rw [List.filter_cons_of_pos hneeded'] at hapart
          exact (List.pairwise_cons.1 hapart).1 other (List.mem_filter.2 ⟨hother, hneeded⟩)

theorem areReady_everySecret (source : SecretSource) :
    AreReady everySecret source ↔ ∃ value, source "postgres_dsn" = some value ∧ value ≠ [] := by
  constructor
  · exact fun h => h.given ⟨"postgres_dsn", .database, ""⟩ (by simp [everySecret]) rfl
  · intro h
    refine ⟨fun spec hspec hneeded => ?_, List.pairwise_singleton _ _⟩
    simp only [everySecret, List.mem_cons, List.not_mem_nil, or_false] at hspec
    rcases hspec with rfl | rfl | rfl | rfl | rfl | rfl
    · exact h
    all_goals cases hneeded

/-- **The service starts** exactly if every secret that is needed now is there and not empty, and
no two of them have one value. Every secret gets its own complaint, in the order of the registry,
and there is none about a secret that is as it should be. With the registry in use only the
connection to the database is asked for. -/
theorem secrets_are_verified_iff (registry : List SecretSpec) (source : SecretSource) :
    (verifySecrets registry source = .ok () ↔ AreReady registry source) ∧
      inspectSecrets registry source = complaintsOf source [] registry ∧
      (∀ before spec, complaintOf source before spec = none ↔ IsReady source before spec) ∧
      (verifySecrets everySecret source = .ok () ↔
        ∃ value, source "postgres_dsn" = some value ∧ value ≠ []) := by
  have hstarts : ∀ registry,
      verifySecrets registry source = .ok () ↔ AreReady registry source := by
    intro registry
    have hnone : complaintsOf source [] registry = [] ↔ _ := complaintsOf_eq_nil [] registry
    simp only [List.not_mem_nil, false_implies, implies_true, and_true] at hnone
    rw [← hnone, ← inspectSecrets_eq, verifySecrets, ← List.isEmpty_iff]
    by_cases hempty : (inspectSecrets registry source).isEmpty = true
    · simp [hempty]
    · simp [hempty]
  exact ⟨hstarts registry, inspectSecrets_eq registry source, fun _ _ => complaintOf_eq_none,
    (hstarts everySecret).trans (areReady_everySecret source)⟩

/-! ### What the complaints tell -/

/-- Of two sets of values the same are missing, the same are empty and the same are equal. -/
structure SameShape (registry : List SecretSpec) (source other : SecretSource) : Prop where
  missing : ∀ spec ∈ registry, source spec.name = none ↔ other spec.name = none
  empty : ∀ spec ∈ registry, source spec.name = some [] ↔ other spec.name = some []
  equal : ∀ a ∈ registry, ∀ b ∈ registry,
    source a.name = source b.name ↔ other a.name = other b.name

section Shape

variable {registry : List SecretSpec} {source other : SecretSource}

/-- The same secrets have the value of a secret, in both sets of values. -/
theorem SameShape.find_eq (h : SameShape registry source other) {spec : SecretSpec}
    (hspec : spec ∈ registry) {value value' : Text} (hvalue : source spec.name = some value)
    (hvalue' : other spec.name = some value') {before : List SecretSpec}
    (hbefore : ∀ earlier ∈ before, earlier ∈ registry) :
    before.find? (Bears source value) = before.find? (Bears other value') := by
  refine List.find?_congr fun earlier hearlier => ?_
  have hequal := h.equal earlier (hbefore earlier hearlier) spec hspec
  rw [hvalue, hvalue'] at hequal
  simp only [Bears, hequal]

theorem SameShape.complaintOf_eq (h : SameShape registry source other) {spec : SecretSpec}
    (hspec : spec ∈ registry) {before : List SecretSpec}
    (hbefore : ∀ earlier ∈ before, earlier ∈ registry) :
    complaintOf source before spec = complaintOf other before spec := by
  rw [complaintOf, complaintOf]
  cases hvalue : source spec.name with
  | none => rw [(h.missing spec hspec).1 hvalue]
  | some value =>
    cases hvalue' : other spec.name with
    | none =>
      rw [(h.missing spec hspec).2 hvalue'] at hvalue
      cases hvalue
    | some value' =>
      have hempty := h.empty spec hspec
      rw [hvalue, hvalue', Option.some_inj, Option.some_inj, ← List.isEmpty_iff,
        ← List.isEmpty_iff] at hempty
      dsimp only
      rw [h.find_eq hspec hvalue hvalue' hbefore, Bool.eq_iff_iff.2 hempty]

theorem SameShape.complaintsOf_eq (h : SameShape registry source other)
    {before rest : List SecretSpec} (hbefore : ∀ spec ∈ before, spec ∈ registry)
    (hrest : ∀ spec ∈ rest, spec ∈ registry) :
    complaintsOf source before rest = complaintsOf other before rest := by
  induction rest generalizing before with
  | nil => rfl
  | cons spec rest ih =>
    have hspec := hrest spec List.mem_cons_self
    rw [complaintsOf, complaintsOf, h.complaintOf_eq hspec hbefore, ih]
    · intro earlier hearlier
      rcases List.mem_append.1 hearlier with hearlier | hearlier
      · exact hbefore earlier hearlier
      · exact List.mem_singleton.1 hearlier ▸ hspec
    · exact fun later hlater => hrest later (List.mem_cons_of_mem _ hlater)

/-- **The complaints tell no value.** Two sets of values of which the same are missing, the same
are empty and the same are equal to one another are refused with the same words. -/
theorem complaints_tell_no_value (h : SameShape registry source other) :
    inspectSecrets registry source = inspectSecrets registry other ∧
      verifySecrets registry source = verifySecrets registry other := by
  have hsame : inspectSecrets registry source = inspectSecrets registry other := by
    rw [inspectSecrets_eq, inspectSecrets_eq]
    exact h.complaintsOf_eq (fun spec hspec => absurd hspec List.not_mem_nil) fun _ hspec => hspec
  exact ⟨hsame, by rw [verifySecrets, verifySecrets, hsame]⟩

end Shape

/-- A key to send with and a key to check what is received. -/
def twoKeys : List SecretSpec :=
  [⟨"send", .paymentProvider, ""⟩, ⟨"receive", .webhookSigning, ""⟩]

/-- Whichever value was pasted for both, the complaint is the same. -/
theorem pasted_twice_tells_no_value :
    inspectSecrets twoKeys (fun _ => some (ascii "one")) =
        inspectSecrets twoKeys (fun _ => some (ascii "other")) ∧
      verifySecrets twoKeys (fun _ => some (ascii "one")) =
        verifySecrets twoKeys (fun _ => some (ascii "other")) :=
  complaints_tell_no_value
    ⟨fun _ _ => by simp, fun _ _ => by simp [ascii], fun _ _ _ _ => by simp⟩

end Pdr
