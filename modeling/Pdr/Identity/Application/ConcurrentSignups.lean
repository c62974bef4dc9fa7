import Pdr.Identity.Application.WaysIn
import Pdr.StoreProgram.LostUpdate

/-!
# Registrations from one address at the same time

Failed sign-ins are counted by one statement, registrations by two calls: the window of the
address is read, and the window with one more is saved. Registrations that overlap read the
same window and save the same number, so some of them are counted once for all, and as many
pass the check as come at once.

## Main definitions

* `Pdr.Identity.signupPool`: executions of `RegisterOnMyOwn` from one address.
* `Pdr.Identity.InOneWindow`: all of them fall into one window.
* `Pdr.Identity.countedBy`, `Pdr.Identity.passedBy`: those that were counted, and those that
  passed the check.

## Main results

* `Pdr.Identity.follows_registerOnMyOwn`: what an execution has done so far.
* `Pdr.Identity.countsUp_of_runs`: each save is one more than the reading of its execution.
* `Pdr.Identity.signups_counted_iff`: exactly when every registration is counted.
* `Pdr.Identity.signups_at_once`: four registrations that are counted as one.
-/

namespace Pdr.Identity

open StoreProgram Program

/-! ### The window of an address -/

/-- The window of the address that is open at a moment. -/
def windowAt (limits : SignupLimits) (from_ : Digest) (moment : Int) (db : Database) :
    Option AttemptWindow :=
  ((db.signups.find? (·.address = from_)).map (·.window)).filter fun window =>
    moment < window.startedAt + limits.window

/-- How many registrations the open window has counted. -/
def countAt (limits : SignupLimits) (from_ : Digest) (moment : Int) (db : Database) : Nat :=
  ((windowAt limits from_ moment db).map (·.attempts)).getD 0

/-- The moments are less than a window apart, and find the same window open, or none. -/
structure InOneWindow {ι : Type} (limits : SignupLimits) (from_ : Digest) (now : ι → Int)
    (db : Database) : Prop where
  near : ∀ i j, now i < now j + limits.window
  same : ∀ i j, windowAt limits from_ (now i) db = windowAt limits from_ (now j) db

/-- The window that is saved when one more registration is counted. -/
def countedWindow (limits : SignupLimits) (now : Int) (seen : Option AttemptWindow) :
    AttemptWindow :=
  (seen.map fun window => window.registered now limits.window).getD ⟨now, 1⟩

/-- The window that was read lets one more registration pass. -/
def passesCheck (limits : SignupLimits) (now : Int) : Except Fault (Option AttemptWindow) → Bool
  | .ok seen => !seen.any fun window => window.isBlockedAt now limits.window limits.perAddress
  | .error _ => false

section Windows

variable {ι : Type} {limits : SignupLimits} {from_ : Digest} {now : ι → Int} {db db' : Database}

theorem windowAt_of_signups (h : db'.signups = db.signups) (moment : Int) :
    windowAt limits from_ moment db' = windowAt limits from_ moment db := by
  rw [windowAt, h, windowAt]

theorem windowAt_of_find? {row : SignupRow}
    (hfound : db.signups.find? (·.address = from_) = some row) (moment : Int) :
    windowAt limits from_ moment db =
      if moment < row.window.startedAt + limits.window then some row.window else none := by
  simp [windowAt, hfound, Option.filter_some]

/-- One more is saved than the open window has counted. -/
theorem attempts_countedWindow (moment : Int) :
    (countedWindow limits moment
        ((db.signups.find? (·.address = from_)).map (·.window))).attempts =
      countAt limits from_ moment db + 1 := by
  cases hfound : db.signups.find? (·.address = from_) with
  | none => simp [countedWindow, countAt, windowAt, hfound]
  | some row =>
    rw [countAt, windowAt_of_find? hfound]
    by_cases hopen : moment < row.window.startedAt + limits.window
    · simp [countedWindow, AttemptWindow.registered, hopen, not_le.2 hopen]
    · simp [countedWindow, AttemptWindow.registered, hopen, not_lt.1 hopen]

/-- The window that is saved is open at all of the moments. -/
theorem open_countedWindow (h : InOneWindow limits from_ now db) (i j : ι) :
    now j < (countedWindow limits (now i)
      ((db.signups.find? (·.address = from_)).map (·.window))).startedAt + limits.window := by
  cases hfound : db.signups.find? (·.address = from_) with
  | none => simpa [countedWindow] using h.near j i
  | some row =>
    by_cases hopen : now i < row.window.startedAt + limits.window
    · have hsame := h.same i j
      rw [windowAt_of_find? hfound, windowAt_of_find? hfound, if_pos hopen] at hsame
      have hthere : now j < row.window.startedAt + limits.window := by
        by_contra hclosed
        rw [if_neg hclosed] at hsame
        cases hsame
      simpa [countedWindow, AttemptWindow.registered, not_le.2 hopen] using hthere
    · simpa [countedWindow, AttemptWindow.registered, not_lt.1 hopen] using h.near j i

/-- A reading that passes the check has room for one more. -/
theorem countAt_lt_of_passesCheck {moment : Int}
    (h : passesCheck limits moment
      (.ok ((db.signups.find? (·.address = from_)).map (·.window))) = true) :
    countAt limits from_ moment db < limits.perAddress.toNat := by
  have hleast : 0 < limits.perAddress.toNat :=
    Nat.pos_of_ne_zero fun hzero => limits.atLeastOne (UInt32.toNat_inj.1 hzero)
  cases hfound : db.signups.find? (·.address = from_) with
  | none => simpa [countAt, windowAt, hfound] using hleast
  | some row =>
    rw [countAt, windowAt_of_find? hfound]
    by_cases hopen : moment < row.window.startedAt + limits.window
    · simpa [passesCheck, hfound, AttemptWindow.isBlockedAt, hopen, not_le.2 hopen] using h
    · simpa [hopen] using hleast

end Windows

/-! ### What an execution does -/

section Execution

variable {ports : AuthPorts} {drawn : Drawn} {mail : Email} {limits : SignupLimits}
  {from_ : Digest}

/-- **What an execution has done so far.** Nothing; or it has read the window, and if it passes
the check, is not over; or it has read it, passed the check and saved one more, and since then
has used the registry of accounts only. -/
theorem follows_registerOnMyOwn (hlimits : ports.settings.signups = .ok limits)
    {history : List (Entry Call.Answer Fault)} {program : Scenario SelfRegistration}
    (h : (registerOnMyOwn ports drawn mail from_).Follows history program) :
    history = [] ∨ ∃ seen later, history = ⟨.signups (.window from_), seen⟩ :: later ∧
      ((later = [] ∧
          (passesCheck limits (drawn.clock 0) seen = true → program.isOver = false)) ∨
        ∃ window answer rest, seen = .ok window ∧
          passesCheck limits (drawn.clock 0) seen = true ∧
          later = ⟨.signups (.save from_ (countedWindow limits (drawn.clock 0) window)),
            answer⟩ :: rest ∧
          ∀ entry ∈ rest, Call.IsTo [.accounts] entry.op) := by
  rw [registerOnMyOwn, hlimits] at h
  cases hlifetimes : ports.settings.lifetimes with
  | error error =>
    rw [hlifetimes] at h
    exact Or.inl (follows_raise h)
  | ok lifetimes =>
    rw [hlifetimes] at h
    rcases follows_call h with ⟨hnone, -⟩ | ⟨seen, later, rfl, hlater⟩
    · exact Or.inl hnone
    refine Or.inr ⟨seen, later, rfl, ?_⟩
    cases seen with
    | error fault => exact Or.inl ⟨follows_raise hlater, fun hpasses => by cases hpasses⟩
    | ok window =>
      by_cases hblocked : (window.any fun window =>
          window.isBlockedAt (drawn.clock 0) limits.window limits.perAddress) = true
      · simp only [Program.ofExcept, Program.bind] at hlater
        rw [if_pos hblocked] at hlater
        refine Or.inl ⟨follows_raise hlater, fun hpasses => ?_⟩
        simp [passesCheck, hblocked] at hpasses
      have hpasses : passesCheck limits (drawn.clock 0) (.ok window) = true := by
        simpa [passesCheck] using hblocked
      simp only [Program.ofExcept, Program.bind] at hlater
      rw [if_neg hblocked] at hlater
      rcases follows_call hlater with ⟨rfl, rfl⟩ | ⟨answer, rest, rfl, hrest⟩
      · exact Or.inl ⟨rfl, fun _ => rfl⟩
      refine Or.inr ⟨window, answer, rest, rfl, hpasses, rfl, hrest.only ?_⟩
      refine Honours.bind (honours_ofExcept _) fun _ => ?_
      refine honours_perform_bind rfl fun found _ => ?_
      cases found with
      | some _ => trivial
      | none =>
        refine Honours.bind (honours_ofExcept _) fun secret => ?_
        refine Honours.bind (honours_ofExcept _) fun account => ?_
        exact honours_perform_bind rfl fun _ _ => trivial

end Execution

/-! ### Executions among others -/

/-- Executions of `RegisterOnMyOwn` from one address, each under its settings, with its draws
and its mail. -/
def signupPool {ι : Type} (ports : ι → AuthPorts) (drawn : ι → Drawn) (mail : ι → Email)
    (from_ : Digest) (i : ι) : Scenario SelfRegistration :=
  registerOnMyOwn (ports i) (drawn i) (mail i) from_

/-- A step of executions that overlap. -/
abbrev SignupStep (ι : Type) : Type := Step ι Call.Answer Fault Database

/-- The call saves a window. -/
def isSignupSave : Entry Call.Answer Fault → Bool
  | ⟨.signups (.save ..), _⟩ => true
  | _ => false

/-- The call reads the window. -/
def isSignupReading : Entry Call.Answer Fault → Bool
  | ⟨.signups (.window _), _⟩ => true
  | _ => false

/-- The call reads a window that passes the check. -/
def isRoom (limits : SignupLimits) (moment : Int) : Entry Call.Answer Fault → Bool
  | ⟨.signups (.window _), seen⟩ => passesCheck limits moment seen
  | _ => false

section Threads

variable {ι : Type}

/-- The executions that were counted, by their saves. -/
def countedBy (steps : List (SignupStep ι)) : List ι :=
  (steps.filter fun t => isSignupSave t.entry).map (·.thread)

/-- The executions that passed the check, by their readings. -/
def passedBy (limits : SignupLimits) (now : ι → Int) (steps : List (SignupStep ι)) : List ι :=
  (steps.filter fun t => isRoom limits (now t.thread) t.entry).map (·.thread)

/-- The reading that an execution makes its save of. -/
def IsReadingOf (save reading : SignupStep ι) : Prop :=
  reading.thread = save.thread ∧ isSignupReading reading.entry = true

/-- No execution saves between the reading and the save of another. -/
def SavesDoNotOverlap (steps : List (SignupStep ι)) : Prop :=
  Undisturbed IsReadingOf (fun t => isSignupSave t.entry) steps

theorem answer_of_reading {t : SignupStep ι} {from_ : Digest} {window : Option AttemptWindow}
    (hexec : database.exec t.entry.op t.before = (t.entry.answer, t.after))
    (hentry : t.entry = ⟨.signups (.window from_), .ok window⟩) :
    window = (t.before.signups.find? (·.address = from_)).map (·.window) := by
  rw [hentry] at hexec
  exact (Except.ok.inj (congrArg Prod.fst hexec)).symm

/-- The window after a save is the one that was saved, open at all of the moments. -/
theorem windowAt_of_save {u : SignupStep ι} {limits : SignupLimits} {from_ : Digest}
    {now : ι → Int} {reading : Database} (hopen : InOneWindow limits from_ now reading) {i : ι}
    (hexec : database.exec u.entry.op u.before = (u.entry.answer, u.after))
    (hop : u.entry.op = .signups (.save from_ (countedWindow limits (now i)
      ((reading.signups.find? (·.address = from_)).map (·.window))))) (j : ι) :
    windowAt limits from_ (now j) u.after = some (countedWindow limits (now i)
      ((reading.signups.find? (·.address = from_)).map (·.window))) := by
  have hpositive : 0 < (countedWindow limits (now i)
      ((reading.signups.find? (·.address = from_)).map (·.window))).attempts := by
    rw [attempts_countedWindow]
    exact Nat.succ_pos _
  obtain ⟨after, hsave, hwindow⟩ := exists_save_signup hpositive from_ u.before
  obtain ⟨thread, ⟨call, answer⟩, before, after'⟩ := u
  obtain rfl : call = _ := hop
  obtain rfl : after = after' := congrArg Prod.snd (hsave.symm.trans hexec)
  rw [windowAt, hwindow, Option.filter_some, if_pos]
  exact decide_eq_true (open_countedWindow hopen i j)

/-- A call that does not save a window leaves the windows. -/
theorem signups_of_other {t : SignupStep ι}
    (hexec : database.exec t.entry.op t.before = (t.entry.answer, t.after))
    (ht : isSignupSave t.entry = false) : t.after.signups = t.before.signups := by
  obtain ⟨thread, ⟨call, answer⟩, before, after⟩ := t
  obtain rfl : (database.exec call before).2 = after := congrArg Prod.snd hexec
  cases call with
  | signups call =>
    cases call with
    | window address => rfl
    | save address counted => cases ht
  | _ => rfl

end Threads

section Runs

variable {ι : Type} [DecidableEq ι] {ports : ι → AuthPorts} {drawn : ι → Drawn} {mail : ι → Email}
  {limits : SignupLimits} {from_ : Digest} {db db' : Database}
  {steps early late : List (SignupStep ι)} {pool' : ι → Scenario SelfRegistration}
  {t u : SignupStep ι}

/-- How often an execution read room and how often it saved. -/
theorem signup_counts (hlimits : ∀ i, (ports i).settings.signups = .ok limits)
    (hrun : Runs database (signupPool ports drawn mail from_) db steps pool' db') (i : ι) :
    (historyOf i steps).countP isSignupSave ≤ 1 ∧
      (historyOf i steps).countP (isRoom limits ((drawn i).clock 0)) ≤ 1 ∧
      ((pool' i).isOver = true →
        (historyOf i steps).countP (isRoom limits ((drawn i).clock 0)) =
          (historyOf i steps).countP isSignupSave) := by
  have hfollows := follows_registerOnMyOwn (hlimits i) (hrun.follows i)
  generalize historyOf i steps = history at hfollows ⊢
  rcases hfollows with rfl | ⟨seen, later, rfl, hlater⟩
  · simp
  rcases hlater with ⟨rfl, hroom⟩ | ⟨window, answer, rest, rfl, hpasses, rfl, hrest⟩
  · cases hpasses : passesCheck limits ((drawn i).clock 0) seen with
    | false => simp [isSignupSave, isRoom, hpasses]
    | true => simp [isSignupSave, isRoom, hpasses, hroom hpasses]
  · have hquiet : ∀ entry ∈ rest, isSignupSave entry = false ∧
        isRoom limits ((drawn i).clock 0) entry = false := by
      intro entry hentry
      have haccounts := hrest entry hentry
      obtain ⟨call, answer⟩ := entry
      cases call with
      | signups call => cases haccounts
      | _ => exact ⟨rfl, rfl⟩
    have hsaves : rest.countP isSignupSave = 0 :=
      List.countP_eq_zero.2 fun entry hentry => Bool.eq_false_iff.1 (hquiet entry hentry).1
    have hreads : rest.countP (isRoom limits ((drawn i).clock 0)) = 0 :=
      List.countP_eq_zero.2 fun entry hentry => Bool.eq_false_iff.1 (hquiet entry hentry).2
    rw [List.countP_cons, List.countP_cons, List.countP_cons, List.countP_cons, hsaves, hreads]
    simp [isSignupSave, isRoom, hpasses]

/-- A save is made of the only reading its execution has made before it. -/
theorem reading_of_save (hlimits : ∀ i, (ports i).settings.signups = .ok limits)
    (hrun : Runs database (signupPool ports drawn mail from_) db (early ++ u :: late) pool' db')
    (hu : isSignupSave u.entry = true) :
    ∃ window, passesCheck limits ((drawn u.thread).clock 0) (.ok window) = true ∧
      u.entry.op = .signups (.save from_
        (countedWindow limits ((drawn u.thread).clock 0) window)) ∧
      historyOf u.thread early = [⟨.signups (.window from_), .ok window⟩] := by
  have hfollows := follows_registerOnMyOwn (hlimits u.thread) (hrun.follows u.thread)
  rw [historyOf_append, historyOf_cons_self] at hfollows
  generalize historyOf u.thread early = before at hfollows ⊢
  generalize historyOf u.thread late = after at hfollows
  rcases hfollows with hnone | ⟨seen, later, hcons, hlater⟩
  · simp at hnone
  rcases before with _ | ⟨first, before⟩
  · -- The first call of an execution is the reading.
    rw [(List.cons.inj hcons).1] at hu
    cases hu
  obtain ⟨rfl, rfl⟩ := List.cons.inj hcons
  rcases hlater with ⟨hnone, -⟩ | ⟨window, answer, rest, rfl, hpasses, hsave, hrest⟩
  · simp at hnone
  rcases before with _ | ⟨second, before⟩
  · refine ⟨window, hpasses, ?_, rfl⟩
    rw [(List.cons.inj hsave).1]
  · -- After the save the execution uses the registry of accounts only.
    have hmem : u.entry ∈ rest := by
      rw [← (List.cons.inj hsave).2]
      simp
    have haccounts := hrest u.entry hmem
    generalize u.entry = entry at hu haccounts
    obtain ⟨call, answer⟩ := entry
    cases call with
    | signups call => cases haccounts
    | _ => cases hu

/-- What a save overwrites, and what it was made of. -/
theorem save_of_run (hlimits : ∀ i, (ports i).settings.signups = .ok limits)
    (hrun : Runs database (signupPool ports drawn mail from_) db (early ++ u :: late) pool' db')
    (hu : isSignupSave u.entry = true) :
    (∃ t ∈ early, IsReadingOf u t) ∧ ∀ t ∈ early, IsReadingOf u t →
      passesCheck limits ((drawn u.thread).clock 0)
          (.ok ((t.before.signups.find? (·.address = from_)).map (·.window))) = true ∧
        u.entry.op = .signups (.save from_ (countedWindow limits ((drawn u.thread).clock 0)
          ((t.before.signups.find? (·.address = from_)).map (·.window)))) := by
  obtain ⟨window, hpasses, hop, hhistory⟩ := reading_of_save hlimits hrun hu
  constructor
  · obtain ⟨t, ht, hthread, hentry⟩ := Runs.exists_step (hhistory ▸ List.mem_singleton_self _)
    refine ⟨t, ht, hthread, ?_⟩
    rw [hentry]
    rfl
  · rintro t ht ⟨hthread, -⟩
    have hentry : t.entry = ⟨.signups (.window from_), .ok window⟩ := by
      have hmem := Runs.mem_historyOf ht
      rw [hthread, hhistory] at hmem
      exact List.mem_singleton.1 hmem
    rw [← answer_of_reading (hrun.exec_eq (List.mem_append_left _ ht)) hentry]
    exact ⟨hpasses, hop⟩

/-- The executions stay in one window. -/
theorem inOneWindow_of_runs (hlimits : ∀ i, (ports i).settings.signups = .ok limits)
    (hrun : Runs database (signupPool ports drawn mail from_) db steps pool' db')
    (hwindow : InOneWindow limits from_ (fun i => (drawn i).clock 0) db) :
    InOneWindow limits from_ (fun i => (drawn i).clock 0) db' := by
  refine hrun.linked.prefixes (H := fun _ db => InOneWindow limits from_ _ db) hwindow
    fun early u late hsplit hshorter => ?_
  subst hsplit
  have hexec := hrun.exec_eq (t := u) (by simp)
  have hbefore := hshorter early u [] rfl
  refine ⟨hbefore.near, fun i j => ?_⟩
  by_cases hu : isSignupSave u.entry = true
  · obtain ⟨⟨t, ht, hreading⟩, hsave⟩ := save_of_run hlimits hrun hu
    obtain ⟨first, middle, rfl⟩ := List.append_of_mem ht
    have hopen := hshorter first t (middle ++ [u]) (by simp)
    obtain ⟨-, hop⟩ := hsave t ht hreading
    rw [windowAt_of_save hopen hexec hop i, windowAt_of_save hopen hexec hop j]
  · have hsame := signups_of_other hexec (Bool.eq_false_iff.2 hu)
    rw [windowAt_of_signups hsame, windowAt_of_signups hsame]
    exact hbefore.same i j

theorem inOneWindow_before (hlimits : ∀ i, (ports i).settings.signups = .ok limits)
    (hrun : Runs database (signupPool ports drawn mail from_) db (early ++ t :: late) pool' db')
    (hwindow : InOneWindow limits from_ (fun i => (drawn i).clock 0) db) :
    InOneWindow limits from_ (fun i => (drawn i).clock 0) t.before := by
  obtain ⟨between, s₁, hearly, hlate⟩ := hrun.split
  obtain rfl : t.before = s₁ := hlate.linked.1
  exact inOneWindow_of_runs hlimits hearly hwindow

/-- **Each save is one more than the reading of its execution.** -/
theorem countsUp_of_runs (hlimits : ∀ i, (ports i).settings.signups = .ok limits)
    (hrun : Runs database (signupPool ports drawn mail from_) db steps pool' db')
    (hwindow : InOneWindow limits from_ (fun i => (drawn i).clock 0) db) (j : ι) :
    CountsUp (countAt limits from_ ((drawn j).clock 0)) IsReadingOf
      (fun t => isSignupSave t.entry) steps where
  reads u t hreading := by
    obtain ⟨-, hreads⟩ := hreading
    generalize t.entry = entry at hreads ⊢
    obtain ⟨call, answer⟩ := entry
    cases call with
    | signups call =>
      cases call with
      | window address => rfl
      | save address counted => cases hreads
    | _ => rfl
  keeps t ht hquiet := by
    rw [countAt, windowAt_of_signups (signups_of_other (hrun.exec_eq ht) hquiet), countAt]
  made := by
    rintro early u late rfl hu
    exact (save_of_run hlimits hrun hu).1
  adds := by
    rintro early t middle u late rfl hu hreading
    obtain ⟨-, hsave⟩ := save_of_run hlimits hrun hu
    obtain ⟨-, hop⟩ := hsave t (by simp) hreading
    have hopen : InOneWindow limits from_ (fun i => (drawn i).clock 0) t.before := by
      rw [List.append_assoc, List.cons_append] at hrun
      exact inOneWindow_before hlimits hrun hwindow
    rw [countAt, windowAt_of_save hopen (hrun.exec_eq (by simp)) hop j, Option.map_some,
      Option.getD_some, attempts_countedWindow, countAt, hopen.same u.thread j, countAt]

/-- Nobody counts beyond the limit of the address, where it was not passed already. -/
theorem countAt_le (hlimits : ∀ i, (ports i).settings.signups = .ok limits)
    (hrun : Runs database (signupPool ports drawn mail from_) db steps pool' db')
    (hwindow : InOneWindow limits from_ (fun i => (drawn i).clock 0) db) (j : ι) :
    countAt limits from_ ((drawn j).clock 0) db' ≤
      max (countAt limits from_ ((drawn j).clock 0) db) limits.perAddress.toNat := by
  refine hrun.keeps (P := fun now => countAt limits from_ ((drawn j).clock 0) now ≤
    max (countAt limits from_ ((drawn j).clock 0) db) limits.perAddress.toNat)
    (fun u hu hbefore => ?_) (le_max_left _ _)
  have hcounts := countsUp_of_runs hlimits hrun hwindow j
  by_cases hsaves : isSignupSave u.entry = true
  · obtain ⟨early, late, rfl⟩ := List.append_of_mem hu
    obtain ⟨⟨t, ht, hreading⟩, hsave⟩ := save_of_run hlimits hrun hsaves
    have hroom := countAt_lt_of_passesCheck (hsave t ht hreading).1
    obtain ⟨first, middle, rfl⟩ := List.append_of_mem ht
    have hopen : InOneWindow limits from_ (fun i => (drawn i).clock 0) t.before := by
      rw [List.append_assoc, List.cons_append] at hrun
      exact inOneWindow_before hlimits hrun hwindow
    rw [countAt, hopen.same u.thread j] at hroom
    rw [hcounts.adds first t middle u late rfl hsaves hreading]
    exact le_max_of_le_right hroom
  · rw [hcounts.keeps u hu (Bool.eq_false_iff.2 hsaves)]
    exact hbefore

/-- An execution that is over passed the check if and only if it was counted, once. -/
theorem passedBy_perm (hlimits : ∀ i, (ports i).settings.signups = .ok limits)
    (hrun : Runs database (signupPool ports drawn mail from_) db steps pool' db')
    (hover : ∀ i, (pool' i).isOver = true) :
    (countedBy steps).Nodup ∧
      (passedBy limits (fun i => (drawn i).clock 0) steps).Perm (countedBy steps) := by
  have hcounted : ∀ i, (countedBy steps).count i = (historyOf i steps).countP isSignupSave :=
    fun i => count_threads fun t _ => rfl
  have hpassed : ∀ i, (passedBy limits (fun i => (drawn i).clock 0) steps).count i =
      (historyOf i steps).countP (isRoom limits ((drawn i).clock 0)) :=
    fun i => count_threads fun t hthread => by rw [hthread]
  refine ⟨List.nodup_iff_count_le_one.2 fun i => ?_, List.perm_iff_count.2 fun i => ?_⟩
  · rw [hcounted]
    exact (signup_counts hlimits hrun i).1
  · rw [hcounted, hpassed]
    exact (signup_counts hlimits hrun i).2.2 (hover i)

/-- **When every registration is counted.** Any number of executions from one address inside one
window, in any interleaving of their calls: when all are over, the counter has grown by the
number of executions that were counted, and no more passed the check than the limit of the
address, if and only if no execution saved between the reading and the save of another. -/
theorem signups_counted_iff (hlimits : ∀ i, (ports i).settings.signups = .ok limits)
    (hrun : Runs database (signupPool ports drawn mail from_) db steps pool' db')
    (hwindow : InOneWindow limits from_ (fun i => (drawn i).clock 0) db)
    (hover : ∀ i, (pool' i).isOver = true) :
    (countedBy steps).Nodup ∧
      (((∀ i, countAt limits from_ ((drawn i).clock 0) db' =
            countAt limits from_ ((drawn i).clock 0) db + (countedBy steps).length) ∧
          (passedBy limits (fun i => (drawn i).clock 0) steps).length ≤
            limits.perAddress.toNat) ↔ SavesDoNotOverlap steps) := by
  obtain ⟨hnodup, hperm⟩ := passedBy_perm hlimits hrun hover
  have hlength : (countedBy steps).length = steps.countP fun t => isSignupSave t.entry := by
    rw [countedBy, List.length_map, List.countP_eq_length_filter]
  have hiff : ∀ j, countAt limits from_ ((drawn j).clock 0) db' =
      countAt limits from_ ((drawn j).clock 0) db + (countedBy steps).length ↔
        SavesDoNotOverlap steps := fun j => by
    rw [hlength]
    exact (countsUp_of_runs hlimits hrun hwindow j).count_eq_iff hrun.linked
  refine ⟨hnodup, fun htold => ?_, fun hapart => ⟨fun j => (hiff j).2 hapart, ?_⟩⟩
  · intro early t middle u late hsplit
    exact (hiff u.thread).1 (htold.1 u.thread) early t middle u late hsplit
  · rw [hperm.length_eq]
    rcases hthreads : countedBy steps with _ | ⟨j, others⟩
    · exact Nat.zero_le _
    rw [← hthreads]
    have htold := (hiff j).2 hapart
    have hle := countAt_le hlimits hrun hwindow j
    have hsome : 0 < (countedBy steps).length := by
      rw [hthreads]
      exact Nat.succ_pos _
    omega

end Runs

/-! ### Registrations at once -/

/-- Registrations from one address at moment 10, each of a mail of its own. -/
def workedSignups (i : Fin 4) : Scenario SelfRegistration :=
  signupPool (fun _ => standIn) (fun i => drawnAt 10 (UInt8.ofNat i.val))
    (fun i => mailOf [UInt8.ofNat i.val]) (standInDigest []) i

/-- The first of them is over before the next begins, and so on. -/
def signupsInTurn : List (SignupStep (Fin 4)) × (Fin 4 → Scenario SelfRegistration) × Database :=
  play database [0, 0, 0, 0, 1, 1, 1, 1, 2, 2, 2, 2, 3, 3, 3, 3] workedSignups {}

/-- All of them read the window, and then all save it. -/
def signupsAtOnce : List (SignupStep (Fin 4)) × (Fin 4 → Scenario SelfRegistration) × Database :=
  play database [0, 1, 2, 3, 0, 1, 2, 3, 0, 0, 1, 1, 2, 2, 3, 3] workedSignups {}

theorem signupWindow_pos : (0 : Int) < 3600000000 := by decide

theorem signupsPerAddress_ne_zero : (3 : UInt32) ≠ 0 := by decide

/-- Three accounts may come from an address in an hour. -/
def signupLimitsInUse : SignupLimits :=
  ⟨3600000000, 3, signupWindow_pos, signupsPerAddress_ne_zero⟩

theorem inOneWindow_worked : InOneWindow signupLimitsInUse (standInDigest [])
    (fun i : Fin 4 => (drawnAt 10 (UInt8.ofNat i.val)).clock 0) {} :=
  ⟨fun _ _ => (by decide : (10 : Int) < 10 + 3600000000), fun _ _ => rfl⟩

/-- One after another three are counted and pass, and the fourth does not. -/
theorem signups_in_turn :
    SavesDoNotOverlap signupsInTurn.1 ∧
      countAt signupLimitsInUse (standInDigest []) 10 signupsInTurn.2.2 = 3 := by
  have hrun : Runs database workedSignups {} signupsInTurn.1 signupsInTurn.2.1 signupsInTurn.2.2 :=
    play_runs database _ workedSignups {}
  have hcounter : countAt signupLimitsInUse (standInDigest []) 10 signupsInTurn.2.2 = 3 := by
    decide +kernel
  have hcounted : (countedBy signupsInTurn.1).length = 3 := by decide +kernel
  have hpassed : (passedBy signupLimitsInUse (fun _ => 10) signupsInTurn.1).length = 3 := by
    decide +kernel
  refine ⟨(signups_counted_iff (fun _ => rfl) hrun inOneWindow_worked ?_).2.1 ⟨fun _ => ?_, ?_⟩,
    hcounter⟩
  · decide +kernel
  · rw [hcounted]
    exact hcounter
  · exact hpassed.le

/-- **Four registrations that are counted as one.** The limit of the address is three; all four
pass the check and are counted, and the counter says one. -/
theorem signups_at_once :
    Runs database workedSignups {} signupsAtOnce.1 signupsAtOnce.2.1 signupsAtOnce.2.2 ∧
      (∀ i, (signupsAtOnce.2.1 i).isOver = true) ∧
      InOneWindow signupLimitsInUse (standInDigest [])
        (fun i : Fin 4 => (drawnAt 10 (UInt8.ofNat i.val)).clock 0) {} ∧
      countAt signupLimitsInUse (standInDigest []) 10 {} = 0 ∧
      (countedBy signupsAtOnce.1).length = 4 ∧
      countAt signupLimitsInUse (standInDigest []) 10 signupsAtOnce.2.2 = 1 ∧
      ¬ (passedBy signupLimitsInUse (fun _ => 10) signupsAtOnce.1).length ≤
        signupLimitsInUse.perAddress.toNat :=
  ⟨play_runs database _ workedSignups {}, by decide +kernel, inOneWindow_worked, rfl,
    by decide +kernel, by decide +kernel, by decide +kernel⟩

end Pdr.Identity
