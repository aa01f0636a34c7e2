import Mathlib.Data.List.Induction
import Cgroup.Session

/-!
# What a process remembers

Whether its host is unified is all that a process remembers, and it does so from the first time it is
asked. `unified?_after` says what is remembered after any sequence of actions, from what one action
changes; `getElem?_answers` says that each action is answered by the session as the actions before it
left it. With `host_after`, by which the host of a session is the one that its changes have made, the
answers of a whole session follow (`answers_of_session`).
-/

namespace Cgroup

/-! ## Hosts and actions -/

namespace Host

/-- The host after an action. Only a change of an entry changes it. -/
def change (h : Host) : Action → Host
  | .setFile path entry => h.setFile path entry
  | .setFileSystem path entry => h.setFileSystem path entry
  | _ => h

/-- The host after a sequence of actions. -/
def after (h : Host) (actions : List Action) : Host :=
  actions.foldl change h

theorem isUnified_iff {h : Host} : h.isUnified = true ↔ h.setup = .ok .unified := by
  unfold isUnified
  cases h.setup with
  | error e => simp
  | ok setup => cases setup <;> simp

end Host

namespace Action

/-- Whether an action asks if the host is unified. -/
def asksUnified : Action → Bool
  | .isUnified => true
  | _ => false

/-- Whether an action changes the host or asks if it is unified. -/
def decides : Action → Bool
  | .setFile .. | .setFileSystem .. | .isUnified => true
  | _ => false

theorem asksUnified_iff {action : Action} : action.asksUnified = true ↔ action = .isUnified := by
  cases action <;> simp [asksUnified]

end Action

/-- Whether the host is unified, if that is what an answer says. -/
def Answer.flag? : Answer → Option Bool
  | .unified flag => some flag
  | _ => none

namespace Session

/-! ## One action -/

theorem host_next (s : Session) (action : Action) :
    (s.next action).host = s.host.change action := by
  cases action <;> rfl

/-- Being asked is what makes a session remember, and nothing else does. -/
theorem unified?_next (s : Session) (action : Action) :
    (s.next action).unified? = if action.asksUnified then some s.isUnified else s.unified? := by
  cases action <;> rfl

/-- An action that neither changes the host nor asks if it is unified leaves no trace. -/
theorem next_of_not_decides (s : Session) {action : Action} (h : ¬ action.decides) :
    s.next action = s := by
  cases action with
  | setFile | setFileSystem | isUnified => exact absurd rfl h
  | _ => rfl

theorem flag?_answer (s : Session) (action : Action) :
    (s.answer action).flag? = if action.asksUnified then some s.isUnified else none := by
  cases action with
  | setup root => cases root <;> rfl
  | _ => rfl

/-! ## Many actions -/

theorem after_concat (s : Session) (actions : List Action) (action : Action) :
    s.after (actions ++ [action]) = (s.after actions).next action :=
  List.foldl_append

/-- The host of a session is what its changes have made of it. -/
theorem host_after (s : Session) (actions : List Action) :
    (s.after actions).host = s.host.after actions := by
  induction actions generalizing s with
  | nil => rfl
  | cons action actions ih =>
    have hstep : s.after (action :: actions) = (s.next action).after actions := rfl
    rw [hstep, ih, host_next]
    rfl

/-- Each action is answered by the session that the actions before it have left. -/
theorem getElem?_answers (s : Session) (actions : List Action) (i : Nat) :
    (s.answers actions)[i]? = actions[i]?.map (s.after (actions.take i)).answer := by
  induction actions generalizing s i with
  | nil => rfl
  | cons action actions ih =>
    cases i with
    | zero => rfl
    | succ i => exact ih (s.next action) i

theorem length_answers (s : Session) (actions : List Action) :
    (s.answers actions).length = actions.length := by
  induction actions generalizing s with
  | nil => rfl
  | cons action actions ih => exact congrArg Nat.succ (ih (s.next action))

/-! ## The flag -/

/-- The number of actions before a process is first asked if the host is unified; of all actions if
it is never asked. -/
def firstAsked (actions : List Action) : Nat :=
  actions.findIdx Action.asksUnified

theorem take_firstAsked_of_not_asked {actions : List Action}
    (h : ¬ firstAsked actions < actions.length) : actions.take (firstAsked actions) = actions :=
  List.take_of_length_le (Nat.le_of_not_lt h)

/-- A session remembers what it found on the host as it stood when it was first asked, and nothing
before that. -/
theorem unified?_after (h : Host) (actions : List Action) :
    ((start h).after actions).unified? =
      if firstAsked actions < actions.length then
        some (h.after (actions.take (firstAsked actions))).isUnified
      else none := by
  -- from the end, because the last action sees what all others have left
  induction actions using List.reverseRecOn with
  | nil => rfl
  | append_singleton actions action ih =>
    have hconcat : firstAsked (actions ++ [action]) = if firstAsked actions < actions.length then
        firstAsked actions else List.findIdx Action.asksUnified [action] + actions.length :=
      List.findIdx_append
    rw [after_concat, unified?_next, hconcat, List.length_append, List.length_singleton]
    by_cases hasked : firstAsked actions < actions.length
    · -- the session answers what it remembers already
      rw [if_pos hasked] at ih
      have hanswer : ((start h).after actions).isUnified =
          (h.after (actions.take (firstAsked actions))).isUnified := by
        rw [isUnified, ih, Option.getD_some]
      rw [if_pos hasked, if_pos (Nat.lt_succ_of_lt hasked), hanswer, ih, ite_self,
        List.take_append_of_le_length (Nat.le_of_lt hasked)]
    · rw [if_neg hasked] at ih
      have hanswer : ((start h).after actions).isUnified = (h.after actions).isUnified := by
        rw [isUnified, ih, Option.getD_none, host_after]
        rfl
      rw [if_neg hasked, List.findIdx_singleton]
      cases hasks : action.asksUnified with
      | true => simp [hanswer]
      | false => simp [ih, Nat.add_comm]

/-- What a session would answer is what it found when it was first asked, or what it finds now if
that has not happened yet. -/
theorem isUnified_after (h : Host) (actions : List Action) :
    ((start h).after actions).isUnified =
      (h.after (actions.take (firstAsked actions))).isUnified := by
  rw [isUnified, unified?_after]
  by_cases hasked : firstAsked actions < actions.length
  · rw [if_pos hasked, Option.getD_some]
  · rw [if_neg hasked, Option.getD_none, host_after, take_firstAsked_of_not_asked hasked]
    rfl

/-- Leaving out all actions but the changes of the host and the questions for the flag changes no
answer to these questions. -/
theorem filterMap_flag?_answers_filter (s : Session) (actions : List Action) :
    (s.answers (actions.filter Action.decides)).filterMap Answer.flag? =
      (s.answers actions).filterMap Answer.flag? := by
  induction actions generalizing s with
  | nil => rfl
  | cons action actions ih =>
    have hanswers : ∀ more, s.answers (action :: more) =
        s.answer action :: (s.next action).answers more := fun _ => rfl
    by_cases hdecides : action.decides = true
    · rw [List.filter_cons_of_pos hdecides, hanswers, hanswers, List.filterMap_cons,
        List.filterMap_cons, ih]
    · have hsilent : (s.answer action).flag? = none := by
        rw [flag?_answer]
        cases action with
        | isUnified => exact absurd rfl hdecides
        | _ => rfl
      rw [List.filter_cons_of_neg hdecides, hanswers, List.filterMap_cons_none hsilent,
        next_of_not_decides s hdecides, ih]

variable {h : Host} {actions : List Action} {i : Nat}

/-- An action that asks for the flag has been preceded by the first one that does, or is it. -/
theorem firstAsked_le (hasks : actions[i]? = some .isUnified) :
    firstAsked actions ≤ i ∧ actions[firstAsked actions]? = some .isUnified ∧
      ∀ j < firstAsked actions, actions[j]? ≠ some .isUnified := by
  obtain ⟨hi, hget⟩ := List.getElem?_eq_some_iff.1 hasks
  have hbefore : ∀ j < firstAsked actions, actions[j]? ≠ some .isUnified := by
    intro j hj hasked
    obtain ⟨hlt, hj'⟩ := List.getElem?_eq_some_iff.1 hasked
    have hnot := List.not_of_lt_findIdx hj
    rw [hj'] at hnot
    cases hnot
  have hle : firstAsked actions ≤ i := by
    by_contra hlt
    exact hbefore i (Nat.lt_of_not_le hlt) hasks
  refine ⟨hle, ?_, hbefore⟩
  have hlt : firstAsked actions < actions.length := Nat.lt_of_le_of_lt hle hi
  have hasked : actions[firstAsked actions].asksUnified = true := List.findIdx_getElem
  rw [List.getElem?_eq_getElem hlt, Action.asksUnified_iff.1 hasked]

/-- The flag that is answered is the one of the first time. -/
theorem getElem?_answers_of_isUnified (hasks : actions[i]? = some .isUnified) :
    ((start h).answers actions)[i]? =
      some (.unified (h.after (actions.take (firstAsked actions))).isUnified) := by
  obtain ⟨hle, -, -⟩ := firstAsked_le hasks
  have htake : firstAsked (actions.take i) = firstAsked actions := by
    rw [firstAsked, List.findIdx_take]
    exact Nat.min_eq_right hle
  have hanswer : ((start h).after (actions.take i)).isUnified =
      (h.after (actions.take (firstAsked actions))).isUnified := by
    rw [isUnified_after, htake, List.take_take, Nat.min_eq_left hle]
  rw [getElem?_answers, hasks, ← hanswer]
  rfl

theorem eq_of_unified_mem_answers {flag : Bool} (hflag : .unified flag ∈ (start h).answers actions) :
    flag = (h.after (actions.take (firstAsked actions))).isUnified := by
  obtain ⟨i, hi⟩ := List.getElem?_of_mem hflag
  have hasks : actions[i]? = some .isUnified := by
    rw [getElem?_answers, Option.map_eq_some_iff] at hi
    obtain ⟨action, haction, hanswer⟩ := hi
    have htells := flag?_answer ((start h).after (actions.take i)) action
    rw [hanswer] at htells
    by_cases hasks : action.asksUnified = true
    · rw [haction, Action.asksUnified_iff.1 hasks]
    · rw [if_neg hasks] at htells
      cases htells
  rw [getElem?_answers_of_isUnified hasks] at hi
  exact (Answer.unified.inj (Option.some.inj hi)).symm

/-- What a process answers, whatever happens to its host and whatever else it is asked in between.
Asked whether the host is unified, it answers whether the setup of the host was found to be so when
it was first asked that, and so it gives one answer only; no other question has a part in this. The
setup of the host, at the default root and at any other, is answered for the host as it stands. -/
theorem answers_of_session (h : Host) (actions : List Action) :
    let answers := (start h).answers actions
    let hostAt := fun i : Nat => h.after (actions.take i)
    answers.length = actions.length ∧
    (∀ i : Nat, actions[i]? = some .isUnified → ∃ first flag, first ≤ i ∧
      actions[first]? = some .isUnified ∧ (∀ j < first, actions[j]? ≠ some .isUnified) ∧
      answers[i]? = some (.unified flag) ∧
      (flag = true ↔ (hostAt first).setup = .ok .unified)) ∧
    (∀ flag flag', .unified flag ∈ answers → .unified flag' ∈ answers → flag = flag') ∧
    ((start h).answers (actions.filter Action.decides)).filterMap Answer.flag? =
      answers.filterMap Answer.flag? ∧
    (∀ i : Nat, actions[i]? = some (.setup none) →
      answers[i]? = some (.setup (hostAt i).setup)) ∧
    ∀ (i : Nat) (root : Path), actions[i]? = some (.setup (some root)) →
      answers[i]? = some (.setup ((hostAt i).setupAt root)) := by
  intro answers hostAt
  have hhost : ∀ i, ((start h).after (actions.take i)).host = hostAt i := fun i => host_after _ _
  refine ⟨length_answers _ _, fun i hasks => ?_, fun flag flag' hflag hflag' => ?_,
    filterMap_flag?_answers_filter _ _, fun i hasks => ?_, fun i root hasks => ?_⟩
  · obtain ⟨hle, hfirst, hbefore⟩ := firstAsked_le hasks
    exact ⟨firstAsked actions, _, hle, hfirst, hbefore, getElem?_answers_of_isUnified hasks,
      Host.isUnified_iff⟩
  · rw [eq_of_unified_mem_answers hflag, eq_of_unified_mem_answers hflag']
  · rw [getElem?_answers, hasks, ← hhost]
    rfl
  · rw [getElem?_answers, hasks, ← hhost]
    rfl

/-- A flag that could not be told when it was first asked for stays down, though the setup can be
told later. -/
example : (start .bare).answers [.setup none, .isUnified,
      .setFileSystem Host.cgroupRoot (.magic Host.cgroup2Magic), .setup none, .isUnified] =
    [.setup (.error .nonDefault), .unified false, .done, .setup (.ok .unified),
      .unified false] := by cbv

end Session
end Cgroup
