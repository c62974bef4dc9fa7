import Mathlib.Algebra.Order.Group.Defs
import Mathlib.Data.List.Basic
import Mathlib.Data.List.Count
import Mathlib.Tactic.Common

/-!
# Windows that begin with their first event

Events are counted in windows of a fixed length. A window begins with an event, and the first
event after it ran out begins the next one; nothing is written in between. While a window lasts,
only so many events are let in as the limit says.

Inside a window that is the bound. Over any other interval of the same length there are at most
two windows, and of the earlier one the first event lies before the interval, so one less than
twice the limit is the bound. The moments are of any linearly ordered group.

## Main definitions

* `LazyWindow.Window`, `LazyWindow.next`: a window, and the one after another event.
* `LazyWindow.LetsIn`, `LazyWindow.LetsAllIn`: an event is let in, and each of some.

## Main results

* `LazyWindow.countBetween_window_le`: the bound from the beginning of a window to its end.
* `LazyWindow.countBetween_interval_le`: the bound over an interval of the length of a window.
-/

namespace LazyWindow

variable {T : Type*}

/-! ### Events between two moments -/

section Between

variable [LinearOrder T]

/-- The events between two moments, the first included. -/
def countBetween (from_ until_ : T) (events : List T) : ℕ :=
  events.countP fun at_ => from_ ≤ at_ ∧ at_ < until_

theorem countBetween_cons_of_mem {from_ until_ at_ : T} {later : List T}
    (h : from_ ≤ at_ ∧ at_ < until_) :
    countBetween from_ until_ (at_ :: later) = countBetween from_ until_ later + 1 :=
  List.countP_cons_of_pos (decide_eq_true h)

theorem countBetween_cons_of_not_mem {from_ until_ at_ : T} {later : List T}
    (h : ¬ (from_ ≤ at_ ∧ at_ < until_)) :
    countBetween from_ until_ (at_ :: later) = countBetween from_ until_ later :=
  List.countP_cons_of_neg (mt of_decide_eq_true h)

theorem countBetween_cons_le (from_ until_ at_ : T) (later : List T) :
    countBetween from_ until_ (at_ :: later) ≤ countBetween from_ until_ later + 1 := by
  by_cases h : from_ ≤ at_ ∧ at_ < until_
  · exact (countBetween_cons_of_mem h).le
  · rw [countBetween_cons_of_not_mem h]
    exact Nat.le_succ _

/-- From an event after an interval on nothing is counted in it. -/
theorem countBetween_eq_zero {from_ until_ at_ : T} {later : List T} (hlate : until_ ≤ at_)
    (hordered : (at_ :: later).Pairwise (· ≤ ·)) :
    countBetween from_ until_ (at_ :: later) = 0 := by
  refine List.countP_eq_zero.2 fun other hother => ?_
  have hleast : at_ ≤ other := by
    rcases List.mem_cons.1 hother with rfl | hother
    · exact le_rfl
    · exact List.rel_of_pairwise_cons hordered hother
  simp [not_lt.2 (hlate.trans hleast)]

end Between

/-! ### Windows -/

variable [AddCommGroup T] [LinearOrder T]

/-- A window: when it began and how many events are in it. -/
structure Window (T : Type*) where
  startedAt : T
  count : ℕ

/-- The window after an event: the same with one more, or a new one if it ran out. -/
def Window.next (length : T) (window : Window T) (at_ : T) : Window T :=
  if window.startedAt + length ≤ at_ then ⟨at_, 1⟩ else ⟨window.startedAt, window.count + 1⟩

/-- The window after an event, the first of which begins one. -/
def next (length : T) (seen : Option (Window T)) (at_ : T) : Window T :=
  (seen.map fun window => window.next length at_).getD ⟨at_, 1⟩

/-- An event is let in: the window ran out or has room. -/
def LetsIn (length : T) (limit : ℕ) (seen : Option (Window T)) (at_ : T) : Prop :=
  ∀ window ∈ seen, at_ < window.startedAt + length → window.count < limit

/-- Each of the events is let in when its turn comes. -/
def LetsAllIn (length : T) (limit : ℕ) : Option (Window T) → List T → Prop
  | _, [] => True
  | seen, at_ :: later => LetsIn length limit seen at_ ∧
    LetsAllIn length limit (some (next length seen at_)) later

/-- The window after all of the events. -/
def after (length : T) (seen : Option (Window T)) (events : List T) : Option (Window T) :=
  events.foldl (fun seen at_ => some (next length seen at_)) seen

section Step

variable {length : T} {limit : ℕ} {seen : Option (Window T)} {at_ : T}

@[simp] theorem after_nil : after length seen [] = seen := rfl

@[simp] theorem after_cons {later : List T} :
    after length seen (at_ :: later) = after length (some (next length seen at_)) later := rfl

/-- What an event does: it begins a window, or it is one more in a window that lasts. -/
theorem next_cases (length : T) (seen : Option (Window T)) (at_ : T) :
    (next length seen at_ = ⟨at_, 1⟩ ∧ ∀ window ∈ seen, window.startedAt + length ≤ at_) ∨
      ∃ window, seen = some window ∧ at_ < window.startedAt + length ∧
        next length seen at_ = ⟨window.startedAt, window.count + 1⟩ := by
  cases seen with
  | none => exact Or.inl ⟨rfl, nofun⟩
  | some window =>
    by_cases hover : window.startedAt + length ≤ at_
    · refine Or.inl ⟨if_pos hover, ?_⟩
      rintro other ⟨⟩
      exact hover
    · exact Or.inr ⟨window, rfl, not_le.1 hover, if_neg hover⟩

end Step

/-! ### From the beginning of a window to its end -/

section Whole

variable {length : T} {limit : ℕ}

/-- A window takes in what it has room for. -/
theorem countBetween_le_room {events : List T} {window : Window T}
    (hlets : LetsAllIn length limit (some window) events) (hordered : events.Pairwise (· ≤ ·)) :
    countBetween window.startedAt (window.startedAt + length) events ≤ limit - window.count := by
  induction events generalizing window with
  | nil => exact Nat.zero_le _
  | cons at_ later ih =>
    obtain ⟨hfirst, hlater⟩ := hlets
    rcases next_cases length (some window) at_ with ⟨-, hover⟩ | ⟨same, hsame, hlasts, hnext⟩
    · rw [countBetween_eq_zero (hover window rfl) hordered]
      exact Nat.zero_le _
    · obtain rfl := Option.some.inj hsame
      rw [hnext] at hlater
      have hrest := ih hlater (List.pairwise_cons.1 hordered).2
      have hroom := hfirst window rfl hlasts
      have hone := countBetween_cons_le window.startedAt (window.startedAt + length) at_ later
      dsimp only at hrest
      omega

/-- Where a later window begins, an earlier one has run out, or it is the same. -/
theorem settled_of_after [IsOrderedAddMonoid T] {events : List T} {seen : Option (Window T)}
    {window : Window T} (hlength : 0 < length) (hafter : after length seen events = some window) :
    ∀ earlier ∈ seen,
      earlier.startedAt + length ≤ window.startedAt ∨ earlier.startedAt = window.startedAt := by
  induction events generalizing seen with
  | nil =>
    rintro earlier rfl
    obtain rfl := Option.some.inj hafter
    exact Or.inr rfl
  | cons at_ later ih =>
    have hnow := ih hafter _ rfl
    rintro earlier rfl
    rcases next_cases length (some earlier) at_ with ⟨hnext, hover⟩ | ⟨same, hsame, -, hnext⟩
    · rw [hnext] at hnow
      have hend := hover earlier rfl
      rcases hnow with hnow | hnow
      · exact Or.inl (hend.trans ((le_add_of_nonneg_right hlength.le).trans hnow))
      · exact Or.inl (hend.trans hnow.le)
    · obtain rfl := Option.some.inj hsame
      rwa [hnext] at hnow

/-- The events that are counted already in the window which begins at a moment. -/
def countFrom (from_ : T) : Option (Window T) → ℕ
  | some window => if window.startedAt = from_ then window.count else 0
  | none => 0

/-- Of a window that has run out by a moment nothing counts from it. -/
theorem countFrom_eq_zero [IsOrderedAddMonoid T] {seen : Option (Window T)} {from_ : T}
    (hlength : 0 < length) (h : ∀ window ∈ seen, window.startedAt + length ≤ from_) :
    countFrom from_ seen = 0 := by
  cases seen with
  | none => rfl
  | some window =>
    refine if_neg ?_
    rintro rfl
    exact (lt_add_of_pos_right window.startedAt hlength).not_ge (h window rfl)

/-- Before a window begins and while it lasts no more events are let in than it has room for. -/
theorem countBetween_add_countFrom_le [IsOrderedAddMonoid T] {early late : List T}
    {seen : Option (Window T)} {window : Window T} (hlength : 0 < length) (hlimit : 1 ≤ limit)
    (hlets : LetsAllIn length limit seen (early ++ late))
    (hordered : (early ++ late).Pairwise (· ≤ ·))
    (hafter : after length seen early = some window) :
    countBetween window.startedAt (window.startedAt + length) (early ++ late) ≤
      limit - countFrom window.startedAt seen := by
  induction early generalizing seen with
  | nil =>
    obtain rfl : seen = some window := hafter
    rw [countFrom, if_pos rfl]
    exact countBetween_le_room hlets hordered
  | cons at_ early ih =>
    obtain ⟨hfirst, hlater⟩ := hlets
    rw [after_cons] at hafter
    have hrest := ih hlater (List.pairwise_cons.1 hordered).2 hafter
    have hnow := settled_of_after hlength hafter _ rfl
    rw [List.cons_append]
    rcases next_cases length seen at_ with ⟨hnext, hover⟩ | ⟨earlier, rfl, hlasts, hnext⟩
    · -- The event begins a window: this one, or one that runs out before it.
      rw [hnext] at hrest hnow
      rcases hnow with hbefore | rfl
      · have hearly : at_ < window.startedAt :=
          (lt_add_of_pos_right at_ hlength).trans_le hbefore
        have hzero : countFrom window.startedAt seen = 0 := countFrom_eq_zero hlength
          fun other hother => (hover other hother).trans hearly.le
        rw [countFrom, if_neg hearly.ne] at hrest
        rw [countBetween_cons_of_not_mem fun h => h.1.not_gt hearly, hzero]
        exact hrest
      · have hzero : countFrom window.startedAt seen = 0 := countFrom_eq_zero hlength hover
        rw [countFrom, if_pos rfl] at hrest
        dsimp only at hrest
        have hone := countBetween_cons_le window.startedAt (window.startedAt + length)
          window.startedAt (early ++ late)
        omega
    · rw [hnext] at hrest hnow
      by_cases hsame : earlier.startedAt = window.startedAt
      · have hroom := hfirst earlier rfl hlasts
        have hone := countBetween_cons_le window.startedAt (window.startedAt + length) at_
          (early ++ late)
        rw [countFrom, if_pos hsame] at hrest ⊢
        dsimp only at hrest
        omega
      · have hearly : at_ < window.startedAt := hlasts.trans_le (hnow.resolve_right hsame)
        rw [countFrom, if_neg hsame] at hrest ⊢
        rw [countBetween_cons_of_not_mem fun h => h.1.not_gt hearly]
        exact hrest

/-- **From the beginning of a window until it runs out** no more events are let in than the limit
says, whether the window was there before the events or one of them begins it. -/
theorem countBetween_window_le [IsOrderedAddMonoid T] {early late : List T}
    {seen : Option (Window T)} {window : Window T} (hlength : 0 < length) (hlimit : 1 ≤ limit)
    (hlets : LetsAllIn length limit seen (early ++ late))
    (hordered : (early ++ late).Pairwise (· ≤ ·))
    (hafter : after length seen early = some window) :
    countBetween window.startedAt (window.startedAt + length) (early ++ late) ≤ limit :=
  (countBetween_add_countFrom_le hlength hlimit hlets hordered hafter).trans (Nat.sub_le _ _)

end Whole

/-! ### Over any interval -/

section Interval

variable {length : T} {limit : ℕ}

/-- How many events an interval may still hold. A window that begins inside has the rest of its
own; one that began before and lasts into it has the rest of its own and a whole one after it. -/
def room (length : T) (limit : ℕ) (from_ : T) : Option (Window T) → ℕ
  | some window =>
    if from_ ≤ window.startedAt then limit - window.count
    else if from_ < window.startedAt + length then limit - window.count + limit
    else 2 * limit - 1
  | none => 2 * limit - 1

theorem room_le (hlimit : 1 ≤ limit) {from_ : T} {seen : Option (Window T)}
    (hseen : ∀ window ∈ seen, 1 ≤ window.count) : room length limit from_ seen ≤ 2 * limit - 1 := by
  cases seen with
  | none => exact le_rfl
  | some window =>
    have hone := hseen window rfl
    rw [room]
    split_ifs <;> omega

/-- Each event before the end of an interval takes of its room. -/
theorem room_next_le [IsOrderedAddMonoid T] {from_ at_ : T} {seen : Option (Window T)}
    (hlimit : 1 ≤ limit) (hfirst : LetsIn length limit seen at_) (hsoon : at_ < from_ + length) :
    room length limit from_ (some (next length seen at_)) + (if from_ ≤ at_ then 1 else 0) ≤
      room length limit from_ seen := by
  rcases next_cases length seen at_ with ⟨hnext, hover⟩ | ⟨window, rfl, hlasts, hnext⟩
  · rw [hnext]
    cases seen with
    | none =>
      simp only [room]
      split_ifs <;> omega
    | some window =>
      have hend := hover window rfl
      have hbefore : window.startedAt < from_ := lt_of_add_lt_add_right (hend.trans_lt hsoon)
      by_cases hreaches : from_ < window.startedAt + length
      · have hinside : from_ ≤ at_ := (hreaches.trans_le hend).le
        simp only [room, if_neg hbefore.not_ge, if_pos hreaches, if_pos hinside]
        omega
      · simp only [room, if_neg hbefore.not_ge, if_neg hreaches]
        split_ifs <;> omega
  · rw [hnext]
    have hroom := hfirst window rfl hlasts
    by_cases hinside : from_ ≤ window.startedAt
    · simp only [room, if_pos hinside]
      split_ifs <;> omega
    · by_cases hreaches : from_ < window.startedAt + length
      · simp only [room, if_neg hinside, if_pos hreaches]
        split_ifs <;> omega
      · have hearly : at_ < from_ := hlasts.trans_le (not_lt.1 hreaches)
        simp only [room, if_neg hinside, if_neg hreaches, if_neg hearly.not_ge]
        exact le_rfl

/-- An interval takes in what there is room for. -/
theorem countBetween_le_room_of_letsAllIn [IsOrderedAddMonoid T] {from_ : T} {events : List T}
    {seen : Option (Window T)} (hlimit : 1 ≤ limit) (hlets : LetsAllIn length limit seen events)
    (hordered : events.Pairwise (· ≤ ·)) :
    countBetween from_ (from_ + length) events ≤ room length limit from_ seen := by
  induction events generalizing seen with
  | nil => exact Nat.zero_le _
  | cons at_ later ih =>
    obtain ⟨hfirst, hlater⟩ := hlets
    by_cases hsoon : at_ < from_ + length
    · have hrest := ih hlater (List.pairwise_cons.1 hordered).2
      have hstep := room_next_le hlimit hfirst hsoon
      by_cases hinside : from_ ≤ at_
      · rw [if_pos hinside] at hstep
        rw [countBetween_cons_of_mem ⟨hinside, hsoon⟩]
        omega
      · rw [if_neg hinside] at hstep
        rw [countBetween_cons_of_not_mem fun h => hinside h.1]
        omega
    · rw [countBetween_eq_zero (not_lt.1 hsoon) hordered]
      exact Nat.zero_le _

/-- **Over any interval of the length of a window** fewer events are let in than twice the limit. -/
theorem countBetween_interval_le [IsOrderedAddMonoid T] {events : List T}
    {seen : Option (Window T)} (hlimit : 1 ≤ limit) (hseen : ∀ window ∈ seen, 1 ≤ window.count)
    (hlets : LetsAllIn length limit seen events) (hordered : events.Pairwise (· ≤ ·)) (from_ : T) :
    countBetween from_ (from_ + length) events ≤ 2 * limit - 1 :=
  (countBetween_le_room_of_letsAllIn hlimit hlets hordered).trans (room_le hlimit hseen)

end Interval

end LazyWindow
