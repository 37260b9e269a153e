import DeepNps.FileTargetHealth
import DeepNps.TwoParty

/-!
# Copies of targets

A copy selects like the target it was made of, unless all targets of that one are offline:
its list is nil then, and it parses the configured text again.
-/

namespace DeepNps.File

open Option List

/-- `cloneTargetSnapshot` appends the targets to a nil slice. -/
def cloneTargetSnapshot (target : Target) : Target :=
  { target with targetArr := cloneSlice target.entries }

namespace Target

def selectAll (target : Target) : List String → Option (List (Except String String))
  | [] => some []
  | routeKey :: routeKeys =>
      (target.getNextTarget routeKey).bind fun result =>
        (result.2.selectAll routeKeys).map (result.1 :: ·)

/-- No configured target is left in the list of the configured text. -/
def AllOffline (target : Target) : Prop :=
  target.targetArr = some [] ∧
    target.targetArrSource = normalizedTargetSource target.targetStr ∧
    configuredTargetEntries target ≠ []

variable {target : Target} {routeKey : String}

theorem refresh_eq (isParsed : target.targetArr ≠ none)
    (isSource : target.targetArrSource = normalizedTargetSource target.targetStr) :
    target.refreshConfiguredTargetsLocked =
      { target with targetStr := Text.replaceChar '：' ':' target.targetStr } := by
  rw [← normalizedTargetSource_replaceChar] at isSource
  rw [refreshConfiguredTargetsLocked, if_pos ⟨isParsed, isSource⟩]

theorem entries_refresh_of_none (notParsed : target.targetArr = none) :
    target.refreshConfiguredTargetsLocked.entries = configuredTargetEntries target := by
  rw [refreshConfiguredTargetsLocked, if_neg fun isSynced => isSynced.1 notParsed]
  simp only [entries, getD_some, parse_replaceChar, configuredTargetEntries]

theorem entries_refresh_refresh (target : Target) :
    target.refreshConfiguredTargetsLocked.refreshConfiguredTargetsLocked.entries =
      target.refreshConfiguredTargetsLocked.entries := by
  have isRefreshed : target.refreshConfiguredTargetsLocked.targetArr ≠ none ∧
      target.refreshConfiguredTargetsLocked.targetArrSource =
        normalizedTargetSource target.refreshConfiguredTargetsLocked.targetStr := by
    rw [refreshConfiguredTargetsLocked]
    split_ifs with isSynced
    · exact isSynced
    · simp only [ne_eq, reduceCtorEq, not_false_eq_true, and_self]
  rw [refresh_eq isRefreshed.1 isRefreshed.2]
  rfl

theorem selectAll_of_offline (noEntries : target.refreshConfiguredTargetsLocked.entries = [])
    (routeKeys : List String) :
    target.selectAll routeKeys =
      some (replicate routeKeys.length (.error "all inward-bending targets are offline")) := by
  induction routeKeys generalizing target with
  | nil => rfl
  | cons routeKey _ ih =>
    have isError : target.getNextTarget routeKey =
        some (.error "all inward-bending targets are offline",
          target.refreshConfiguredTargetsLocked) := by
      rw [getNextTarget]
      simp only [noEntries]
    rw [selectAll, isError, bind_some, ih ((entries_refresh_refresh target).trans noEntries)]
    rfl

theorem getNextTarget_ok {result : Except String String × Target}
    (someEntries : target.refreshConfiguredTargetsLocked.entries ≠ [])
    (isResult : target.getNextTarget routeKey = some result) : ∃ entry, result.1 = .ok entry := by
  rw [getNextTarget] at isResult
  dsimp only at isResult
  split at isResult
  · next isEmpty => exact absurd isEmpty someEntries
  · cases isResult
    exact ⟨_, rfl⟩
  · split_ifs at isResult
    obtain ⟨entry, -, rfl⟩ := map_eq_some_iff.mp isResult
    exact ⟨entry, rfl⟩

theorem clone_selectAll (notOffline : ¬ target.AllOffline) (routeKeys : List String) :
    (cloneTargetSnapshot target).selectAll routeKeys = target.selectAll routeKeys := by
  obtain ⟨nowIndex, targetStr, targetArr, source⟩ := target
  rcases targetArr with _ | _ | ⟨entry, entries⟩
  · rfl
  · by_cases isSource : source = normalizedTargetSource targetStr
    · have noneConfigured : configuredEntries targetStr = [] :=
        not_not.mp fun someConfigured => notOffline ⟨rfl, isSource, someConfigured⟩
      rw [selectAll_of_offline, selectAll_of_offline]
      · rw [refresh_eq (by simp) isSource]
        rfl
      · exact (entries_refresh_of_none rfl).trans noneConfigured
    · rw [← normalizedTargetSource_replaceChar] at isSource
      cases routeKeys with
      | nil => rfl
      | cons => simp only [selectAll, getNextTarget, refreshConfiguredTargetsLocked,
          cloneTargetSnapshot, isSource, and_false, if_false]
  · rfl

theorem clone_selects (isOffline : target.AllOffline) :
    (cloneTargetSnapshot target).selectAll [""] ≠ target.selectAll [""] := by
  obtain ⟨isArr, isSource, someConfigured⟩ := isOffline
  have noEntries : target.entries = [] := by rw [entries, isArr, getD_some]
  have offline : target.selectAll [""] = _ := selectAll_of_offline (by
    rw [refresh_eq (by simp [isArr]) isSource]
    exact noEntries) [""]
  have notParsed : (cloneTargetSnapshot target).targetArr = none := by
    rw [cloneTargetSnapshot, noEntries]
    rfl
  rw [offline]
  intro isError
  obtain ⟨result, isResult, selected⟩ := bind_eq_some_iff.mp isError
  obtain ⟨entry, isOk⟩ := getNextTarget_ok
    (by rw [entries_refresh_of_none notParsed]; exact someConfigured) isResult
  simp [selectAll, isOk] at selected

end Target

namespace TargetHealth

def clone (state : TargetHealth) : TargetHealth :=
  { state with target := cloneTargetSnapshot state.target }

/-- Uses of a target and of its copy, each with the lists of its own. -/
def useSide (both : Both TargetHealth) (use : Side × TargetEvent) : Option (Both TargetHealth) :=
  ((both.get use.1).step use.2).map (both.set use.1)

theorem execute_useSide {both after : Both TargetHealth} {uses : List (Side × TargetEvent)}
    (reaches : Runs.execute useSide both uses = some after) (side : Side) :
    Runs.execute step (both.get side) ((uses.filter (·.1 = side)).map Prod.snd) =
      some (after.get side) := by
  induction uses generalizing both with
  | nil =>
    cases reaches
    rfl
  | cons use uses ih =>
    obtain ⟨_, useEq, reaches⟩ := Runs.execute_cons_eq_some.mp reaches
    obtain ⟨next, stepEq, rfl⟩ := map_eq_some_iff.mp useEq
    have later := ih reaches
    rcases use.1.eq_or_eq_other side with rfl | rfl
    · rw [Both.get_set_self] at later
      rw [filter_cons_of_pos (by simp), map_cons, Runs.execute_cons_eq_some]
      exact ⟨next, stepEq, later⟩
    · rw [Both.get_set_other] at later
      rwa [filter_cons_of_neg (by cases use.1 <;> decide)]

/-- A copy selects like the original exactly if that one is not offline, and each of them ends as
if the other was never used. -/
theorem cloneTargetSnapshot_alike (state : TargetHealth) :
    ((∀ routeKeys, state.clone.target.selectAll routeKeys = state.target.selectAll routeKeys) ↔
      ¬ state.target.AllOffline) ∧
    ∀ uses both, Runs.execute useSide ⟨state, state.clone⟩ uses = some both →
      Runs.execute step state ((uses.filter (·.1 = .left)).map Prod.snd) = some both.left ∧
        Runs.execute step state.clone ((uses.filter (·.1 = .right)).map Prod.snd) =
          some both.right := by
  refine ⟨⟨fun alike isOffline => ?_, Target.clone_selectAll⟩, fun _ _ reaches => ?_⟩
  · exact Target.clone_selects isOffline (alike [""])
  · exact ⟨execute_useSide reaches .left, execute_useSide reaches .right⟩

/-- The copy of a target that is offline selects it. -/
theorem clone_of_offline_selects :
    (Runs.execute step (new "a") [.report "a" false]).map
      (fun state => (state.target.selectAll [""], state.clone.target.selectAll [""])) =
      some (some [.error "all inward-bending targets are offline"], some [.ok "a"]) := by
  decide +kernel

end TargetHealth

end DeepNps.File
