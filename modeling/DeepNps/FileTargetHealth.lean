import DeepNps.FileTarget
import Mathlib.Data.List.Nodup
import Mathlib.Data.List.Perm.Basic

/-!
# Health reports isolate targets

Active and removed targets are together the configured ones, exactly for configurations
without repeated targets: `RemoveArrVal` takes out one occurrence only.
-/

namespace DeepNps.File

open Option List Target

theorem mem_trimArr {arr : List String} {entry : String} (isMember : entry ∈ trimArr arr) :
    entry ≠ "" ∧ Text.trimSpace entry = entry := by
  obtain ⟨isMapped, nonempty⟩ := mem_filter.mp isMember
  obtain ⟨raw, -, rfl⟩ := mem_map.mp isMapped
  exact ⟨by simpa using nonempty, Text.trimSpace_trimSpace raw⟩

theorem normalizedTargetSource_replaceChar (targetStr : String) :
    normalizedTargetSource (Text.replaceChar '：' ':' targetStr) =
      normalizedTargetSource targetStr := by
  rw [normalizedTargetSource, Text.replaceChar_replaceChar (by decide), normalizedTargetSource]

theorem parse_replaceChar (targetStr : String) :
    parseNormalizedTargetEntries
      (normalizedTargetSource (Text.replaceChar '：' ':' targetStr)) =
      configuredEntries targetStr := by
  rw [normalizedTargetSource_replaceChar, configuredEntries]

/-- What is configured is active or removed, and a slice that is not parsed has nothing
removed. -/
structure TargetHealth.Balanced (configured : List String) (state : TargetHealth) : Prop where
  entries : configuredTargetEntries state.target = configured
  unparsed : state.target.targetArr = none → state.healthRemoveArr = []
  parsed : ∀ arr, state.target.targetArr = some arr →
    state.target.targetArrSource = normalizedTargetSource state.target.targetStr ∧
      (arr ++ state.healthRemoveArr).Perm configured

namespace TargetHealth

variable {configured : List String} {state next : TargetHealth}

theorem new_balanced (targetStr : String) :
    (new targetStr).Balanced (configuredEntries targetStr) where
  entries := rfl
  unparsed := fun _ => rfl
  parsed := by
    intro _ isParsed
    cases isParsed

theorem Balanced.perm (balanced : state.Balanced configured) :
    (state.target.active ++ state.healthRemoveArr).Perm configured := by
  rw [active]
  cases isArr : state.target.targetArr with
  | none => rw [balanced.unparsed isArr, append_nil, getD_none, balanced.entries]
  | some arr => exact (balanced.parsed arr isArr).2

variable {targetStr entry info : String} {events : List TargetEvent}

theorem balanced_parsed (isConfigured : configuredEntries targetStr = configured) (nowIndex : Int) :
    Balanced configured
      { target :=
          { nowIndex := nowIndex
            targetStr := Text.replaceChar '：' ':' targetStr
            targetArr := some (parseNormalizedTargetEntries
              (normalizedTargetSource (Text.replaceChar '：' ':' targetStr)))
            targetArrSource := normalizedTargetSource (Text.replaceChar '：' ':' targetStr) }
        healthRemoveArr := [] } := by
  refine ⟨?_, ?_, ?_⟩
  · rw [configuredTargetEntries, configuredEntries, parse_replaceChar]
    exact isConfigured
  · intro isNone
    cases isNone
  · intro _ isArr
    rw [some.injEq, parse_replaceChar] at isArr
    rw [append_nil, ← isArr, isConfigured]
    exact ⟨rfl, .refl _⟩

theorem Balanced.refresh (balanced : state.Balanced configured) :
    Balanced configured { state with target := state.target.refreshConfiguredTargetsLocked } ∧
      state.target.refreshConfiguredTargetsLocked.entries = state.target.active := by
  have sameSource := normalizedTargetSource_replaceChar state.target.targetStr
  rw [Target.refreshConfiguredTargetsLocked]
  cases isArr : state.target.targetArr with
  | none =>
    rw [balanced.unparsed isArr]
    refine ⟨balanced_parsed balanced.entries (-1), ?_⟩
    simp only [ne_eq, not_true_eq_false, false_and, if_false, Target.entries, Target.active, isArr,
      getD_some, getD_none]
    exact parse_replaceChar state.target.targetStr
  | some arr =>
    obtain ⟨isSource, perm⟩ := balanced.parsed arr isArr
    simp only [ne_eq, reduceCtorEq, not_false_eq_true, true_and, sameSource, isSource, if_true]
    refine ⟨⟨?_, ?_, ?_⟩, by simp [Target.entries, Target.active, isArr]⟩
    · rw [configuredTargetEntries, configuredEntries, parse_replaceChar]
      exact balanced.entries
    · intro isNone
      cases isNone
    · intro _ isOther
      cases isOther
      exact ⟨sameSource.symm, perm⟩

theorem lastIndex_spec (target : Target) (routeKey : String)
    (several : 1 < target.entries.length) :
    -1 ≤ target.lastIndex routeKey ∧ target.lastIndex routeKey + 1 < target.entries.length := by
  simp only [lastIndex]
  split_ifs <;> omega

section

variable (balanced : state.Balanced configured)

include balanced

theorem Balanced.select (routeKey : String) :
    ∃ result, state.target.getNextTarget routeKey = some result ∧
      Balanced configured { state with target := result.2 } ∧
      ∀ entry, result.1 = .ok entry → entry ∈ state.target.active := by
  obtain ⟨refreshed, isActive⟩ := balanced.refresh
  rw [getNextTarget]
  generalize state.target.refreshConfiguredTargetsLocked = target at refreshed isActive
  rw [← isActive]
  cases isEntries : target.entries with
  | nil => exact ⟨_, rfl, refreshed, by simp⟩
  | cons first rest =>
    cases rest with
    | nil => exact ⟨_, rfl, refreshed, by simp⟩
    | cons second rest =>
      obtain ⟨_, high⟩ := lastIndex_spec target routeKey (by rw [isEntries]; simp)
      rw [isEntries] at high
      have inRange : (target.lastIndex routeKey + 1).toNat < (first :: second :: rest).length := by
        omega
      refine ⟨(.ok (first :: second :: rest)[(target.lastIndex routeKey + 1).toNat],
        { target with nowIndex := target.lastIndex routeKey + 1 }), ?_, ?_, ?_⟩
      · simp only [if_neg (show ¬ target.lastIndex routeKey + 1 < 0 by omega),
          getElem?_eq_getElem inRange, map_some]
      · exact ⟨refreshed.entries, refreshed.unparsed, refreshed.parsed⟩
      · intro _ isEntry
        cases isEntry
        exact getElem_mem inRange

theorem Balanced.not_active (distinct : configured.Nodup)
    (isOut : entry ∉ configured ∨ entry ∈ state.healthRemoveArr) : entry ∉ state.target.active := by
  intro isActive
  have perm := balanced.perm
  rcases isOut with notConfigured | isRemoved
  · exact notConfigured (perm.subset (mem_append_left _ isActive))
  · have apart := (nodup_append.mp (perm.nodup_iff.mpr distinct)).2.2
    exact apart entry isActive entry isRemoved rfl

theorem Balanced.healthy (distinct : configured.Nodup) (isRemoved : info ∈ state.healthRemoveArr) :
    info ∉ state.target.entries ∧
      Balanced configured
        { target := { state.target with targetArr := some (state.target.entries ++ [info]) }
          healthRemoveArr := state.healthRemoveArr.erase info } := by
  cases isArr : state.target.targetArr with
  | none =>
    rw [balanced.unparsed isArr] at isRemoved
    cases isRemoved
  | some arr =>
    obtain ⟨isSource, perm⟩ := balanced.parsed arr isArr
    have sameArr : state.target.entries = arr := by simp [Target.entries, isArr]
    have notActive := balanced.not_active distinct (.inr isRemoved)
    rw [Target.active, isArr, getD_some] at notActive
    rw [sameArr]
    refine ⟨notActive, balanced.entries, ?_, ?_⟩
    · intro isNone
      cases isNone
    · intro _ isOther
      cases isOther
      refine ⟨isSource, .trans ?_ perm⟩
      rw [append_assoc]
      exact ((perm_cons_erase isRemoved).symm).append_left arr

theorem Balanced.unhealthy (distinct : configured.Nodup) {arr : List String}
    (isArr : state.target.targetArr = some arr) (isConfigured : info ∈ configured) :
    Balanced configured
      { target := { state.target with targetArr := some (arr.erase info) }
        healthRemoveArr :=
          if info ∈ state.healthRemoveArr then state.healthRemoveArr
          else state.healthRemoveArr ++ [info] } := by
  obtain ⟨isSource, perm⟩ := balanced.parsed arr isArr
  refine ⟨balanced.entries, ?_, ?_⟩
  · intro isNone
    cases isNone
  · intro _ isOther
    cases isOther
    refine ⟨isSource, .trans ?_ perm⟩
    split_ifs with isRemoved
    · have notActive := balanced.not_active distinct (.inr isRemoved)
      rw [active, isArr, getD_some] at notActive
      rw [erase_of_not_mem notActive]
    · have isActive : info ∈ arr := by
        rcases mem_append.mp (perm.mem_iff.mpr isConfigured) with isActive | isOut
        · exact isActive
        · exact absurd isOut isRemoved
      have moved : (arr.erase info ++ (state.healthRemoveArr ++ [info])).Perm
          (arr.erase info ++ info :: state.healthRemoveArr) :=
        (perm_append_singleton _ _).append_left _
      have returned : (info :: (arr.erase info ++ state.healthRemoveArr)).Perm
          (arr ++ state.healthRemoveArr) :=
        (perm_cons_erase isActive).symm.append_right _
      exact moved.trans (perm_middle.trans returned)

end

def afterReport (state : TargetHealth) (info : String) (healthy : Bool) : TargetHealth where
  target := (applyRuntimeTargetHealthLocked state.target state.healthRemoveArr info healthy).2.1
  healthRemoveArr :=
    (applyRuntimeTargetHealthLocked state.target state.healthRemoveArr info healthy).2.2

theorem step_report (state : TargetHealth) (info : String) (healthy : Bool) :
    state.step (.report info healthy) = some (state.afterReport info healthy) := by
  rw [TargetHealth.step, afterReport]

theorem Balanced.afterHealthy (balanced : state.Balanced configured) (distinct : configured.Nodup)
    (info : String) :
    (state.afterReport info true).Balanced configured ∧
      ∀ entry ∈ state.healthRemoveArr, Text.trimSpace info ≠ entry →
        entry ∈ (state.afterReport info true).healthRemoveArr := by
  by_cases isEmpty : Text.trimSpace info = ""
  · simp only [afterReport, applyRuntimeTargetHealthLocked, if_pos isEmpty]
    exact ⟨balanced, fun entry isRemoved _ => isRemoved⟩
  · by_cases isRemoved : Text.trimSpace info ∈ state.healthRemoveArr
    · obtain ⟨notActive, healed⟩ := balanced.healthy distinct isRemoved
      simp only [afterReport, applyRuntimeTargetHealthLocked, if_neg isEmpty, if_true, isRemoved,
        not_true_eq_false, if_false, notActive, not_false_eq_true]
      refine ⟨healed, ?_⟩
      intro _ entryRemoved isOther
      exact (mem_erase_of_ne isOther.symm).mpr entryRemoved
    · simp only [afterReport, applyRuntimeTargetHealthLocked, if_neg isEmpty, if_true, isRemoved,
        not_false_eq_true]
      exact ⟨balanced, fun entry isRemoved _ => isRemoved⟩

theorem Balanced.reparse (balanced : state.Balanced configured) {found : Target}
    (isFound : found =
      if state.target.targetArr = none ∨ state.target.entries = [] ∧ state.healthRemoveArr = [] then
        { state.target with
          targetArr := cloneSlice configured
          targetArrSource := normalizedTargetSource state.target.targetStr
          nowIndex := -1 }
      else state.target) :
    Balanced configured { target := found, healthRemoveArr := state.healthRemoveArr } ∧
      (found.targetArr = none → configured = []) := by
  split_ifs at isFound with isUnparsed
  · subst isFound
    have noneRemoved : state.healthRemoveArr = [] := by
      rcases isUnparsed with isNone | ⟨-, noneRemoved⟩
      · exact balanced.unparsed isNone
      · exact noneRemoved
    refine ⟨⟨balanced.entries, fun _ => noneRemoved, ?_⟩, by simp [cloneSlice]⟩
    intro _ isArr
    simp only [cloneSlice] at isArr
    split_ifs at isArr
    cases isArr
    rw [noneRemoved, append_nil]
    exact ⟨rfl, .refl _⟩
  · subst isFound
    exact ⟨balanced, fun isNone => absurd (.inl isNone) isUnparsed⟩

section

variable (balanced : state.Balanced configured)

include balanced

theorem Balanced.afterUnhealthy (distinct : configured.Nodup) (info : String) :
    (state.afterReport info false).Balanced configured ∧
      (∀ entry ∈ state.healthRemoveArr, entry ∈ (state.afterReport info false).healthRemoveArr) ∧
      (Text.trimSpace info ∈ configured →
        Text.trimSpace info ∈ (state.afterReport info false).healthRemoveArr) := by
  have sameEntries := balanced.entries
  simp only [afterReport, applyRuntimeTargetHealthLocked, sameEntries, Bool.false_eq_true, if_false]
  generalize Text.trimSpace info = report
  by_cases isEmpty : report = ""
  · have notConfigured : report ∉ configured := by
      intro isConfigured
      rw [← sameEntries] at isConfigured
      exact (mem_trimArr isConfigured).1 isEmpty
    rw [if_pos isEmpty]
    exact ⟨balanced, fun _ isRemoved => isRemoved,
      fun isConfigured => absurd isConfigured notConfigured⟩
  · rw [if_neg isEmpty]
    generalize isFound : (if state.target.targetArr = none ∨ state.target.entries = [] ∧
      state.healthRemoveArr = [] then _ else state.target) = found
    obtain ⟨foundBalanced, nothing⟩ := balanced.reparse isFound.symm
    by_cases isConfigured : report ∈ configured
    · obtain ⟨arr, isArr⟩ : ∃ arr, found.targetArr = some arr := by
        refine ne_none_iff_exists'.mp fun isNone => ?_
        rw [nothing isNone] at isConfigured
        cases isConfigured
      rw [if_neg fun unknown => unknown.2 isConfigured]
      simp only [isArr, map_some]
      refine ⟨foundBalanced.unhealthy distinct isArr isConfigured, ?_, ?_⟩
      · intro _ isRemoved
        split_ifs
        · exact isRemoved
        · exact mem_append_left _ isRemoved
      · intro _
        split_ifs with isRemoved
        · exact isRemoved
        · simp
    · have notActive : report ∉ found.entries := by
        intro isActive
        rw [Target.entries] at isActive
        cases isArr : found.targetArr with
        | none => simp [isArr] at isActive
        | some arr =>
          rw [isArr, getD_some] at isActive
          exact isConfigured
            ((foundBalanced.parsed arr isArr).2.subset (mem_append_left _ isActive))
      rw [if_pos ⟨notActive, isConfigured⟩]
      exact ⟨foundBalanced, fun _ isRemoved => isRemoved, fun isIn => absurd isIn isConfigured⟩

/-- The step lemma: the lists stay balanced, and a target leaves the removed ones
by a healthy report only. -/
theorem Balanced.step (distinct : configured.Nodup) {event : TargetEvent}
    (stepEq : state.step event = some next) :
    next.Balanced configured ∧
      ∀ entry ∈ state.healthRemoveArr, event.heals ≠ some entry → entry ∈ next.healthRemoveArr := by
  cases event with
  | report info healthy =>
    rw [step_report, some.injEq] at stepEq
    subst stepEq
    cases healthy with
    | true =>
      obtain ⟨after, kept⟩ := balanced.afterHealthy distinct info
      refine ⟨after, ?_⟩
      intro entry isRemoved notHealed
      exact kept entry isRemoved fun same => notHealed (by rw [TargetEvent.heals, same])
    | false =>
      obtain ⟨after, kept, -⟩ := balanced.afterUnhealthy distinct info
      exact ⟨after, fun entry isRemoved _ => kept entry isRemoved⟩
  | select routeKey =>
    obtain ⟨_, isResult, rfl⟩ := map_eq_some_iff.mp stepEq
    obtain ⟨_, isOther, after, -⟩ := balanced.select routeKey
    cases isOther.symm.trans isResult
    exact ⟨after, fun entry isRemoved _ => isRemoved⟩
  | count =>
    rw [TargetHealth.step, some.injEq] at stepEq
    subst stepEq
    refine ⟨?_, fun entry isRemoved _ => isRemoved⟩
    rw [ensureTargetArrLocked]
    split_ifs with isParsed
    · exact balanced
    · rw [balanced.unparsed (by simpa using isParsed)]
      exact balanced_parsed balanced.entries (-1)

theorem Balanced.execute_isSome (distinct : configured.Nodup) (events : List TargetEvent) :
    (Runs.execute TargetHealth.step state events).isSome := by
  induction events generalizing state with
  | nil => rfl
  | cons event _ ih =>
    obtain ⟨_, stepEq⟩ : ∃ next, state.step event = some next := by
      cases event with
      | report | count => exact ⟨_, rfl⟩
      | select routeKey =>
        obtain ⟨result, isResult, -⟩ := balanced.select routeKey
        exact ⟨{ state with target := result.2 }, by rw [TargetHealth.step, isResult]; rfl⟩
    simp only [Runs.execute, stepEq, bind_some]
    exact ih (balanced.step distinct stepEq).1

theorem Balanced.execute (distinct : configured.Nodup)
    (reaches : Runs.execute TargetHealth.step state events = some next) :
    next.Balanced configured :=
  Runs.invariant_of_execute _
    (fun _ _ _ holds stepEq => (holds.step distinct stepEq).1) balanced reaches

theorem Balanced.execute_removed (distinct : configured.Nodup)
    (isRemoved : entry ∈ state.healthRemoveArr)
    (notHealed : ∀ event ∈ events, event.heals ≠ some entry)
    (reaches : Runs.execute TargetHealth.step state events = some next) :
    entry ∈ next.healthRemoveArr := by
  induction events generalizing state with
  | nil =>
    cases reaches
    exact isRemoved
  | cons event _ ih =>
    obtain ⟨_, stepEq, rest⟩ := Runs.execute_cons_eq_some.mp reaches
    obtain ⟨middleBalanced, kept⟩ := balanced.step distinct stepEq
    refine ih middleBalanced (kept entry isRemoved (notHealed event mem_cons_self)) ?_ rest
    exact fun other isMember => notHealed other (mem_cons_of_mem _ isMember)

end

/-- What the health checks of a target list achieve over all sequences of reports
and selections. -/
structure Isolates (targetStr : String) : Prop where
  defined : ∀ events, (Runs.execute step (new targetStr) events).isSome
  balanced : ∀ events state, Runs.execute step (new targetStr) events = some state →
    (state.target.active ++ state.healthRemoveArr).Perm (configuredEntries targetStr)
  isolated : ∀ before info between state,
    (∀ event ∈ between, event.heals ≠ some (Text.trimSpace info)) →
    Runs.execute step (new targetStr) (before ++ .report info false :: between) = some state →
    ∀ routeKey, state.selected routeKey ≠ some (.ok (Text.trimSpace info))

theorem isolates_of_nodup (distinct : (configuredEntries targetStr).Nodup) :
    Isolates targetStr where
  defined := (new_balanced targetStr).execute_isSome distinct
  balanced := fun _ _ reaches => ((new_balanced targetStr).execute distinct reaches).perm
  isolated := by
    intro _ info _ state notHealed reaches routeKey isSelected
    rw [Runs.execute_append, bind_eq_some_iff] at reaches
    obtain ⟨_, reachesFirst, reaches⟩ := reaches
    obtain ⟨_, stepEq, reaches⟩ := Runs.execute_cons_eq_some.mp reaches
    rw [step_report, some.injEq] at stepEq
    subst stepEq
    have balancedFirst := (new_balanced targetStr).execute distinct reachesFirst
    obtain ⟨balancedSecond, -, removes⟩ := balancedFirst.afterUnhealthy distinct info
    have balancedLast := balancedSecond.execute distinct reaches
    -- an address that is not configured is never active
    have isOut : Text.trimSpace info ∉ configuredEntries targetStr ∨
        Text.trimSpace info ∈ state.healthRemoveArr := by
      by_cases isConfigured : Text.trimSpace info ∈ configuredEntries targetStr
      · right
        exact balancedSecond.execute_removed distinct (removes isConfigured) notHealed reaches
      · exact .inl isConfigured
    obtain ⟨_, isResult, -, fromActive⟩ := balancedLast.select routeKey
    rw [selected, isResult, map_some, some.injEq] at isSelected
    exact balancedLast.not_active distinct isOut (fromActive _ isSelected)

theorem afterReport_new (isTrimmed : Text.trimSpace info = info) (nonempty : info ≠ "")
    (isConfigured : info ∈ configuredEntries targetStr) :
    (new targetStr).afterReport info false =
      { target :=
          { nowIndex := -1
            targetStr := targetStr
            targetArr := some ((configuredEntries targetStr).erase info)
            targetArrSource := normalizedTargetSource targetStr }
        healthRemoveArr := [info] } := by
  have someConfigured : configuredEntries targetStr ≠ [] := ne_nil_of_mem isConfigured
  simp [afterReport, applyRuntimeTargetHealthLocked, isTrimmed, nonempty, new, Target.new,
    configuredTargetEntries, cloneSlice, someConfigured, Target.entries, isConfigured]

theorem afterReport_removed {arr : List String} (isTrimmed : Text.trimSpace info = info)
    (nonempty : info ≠ "") (isConfigured : info ∈ configuredTargetEntries state.target)
    (isArr : state.target.targetArr = some arr) (isRemoved : info ∈ state.healthRemoveArr) :
    state.afterReport info false =
      { state with target := { state.target with targetArr := some (arr.erase info) } } := by
  have someRemoved : state.healthRemoveArr ≠ [] := ne_nil_of_mem isRemoved
  simp [afterReport, applyRuntimeTargetHealthLocked, isTrimmed, nonempty, isConfigured, isArr,
    someRemoved, isRemoved]

/-- Health checks isolate failed targets exactly if no target is configured twice. -/
theorem isolates_iff (targetStr : String) :
    Isolates targetStr ↔ (configuredEntries targetStr).Nodup := by
  constructor
  · intro isolates
    rw [nodup_iff_count_le_one]
    intro entry
    by_contra several
    -- two unhealthy reports take out two occurrences, and only one is remembered
    have isConfigured : entry ∈ configuredEntries targetStr := count_pos_iff.mp (by omega)
    obtain ⟨nonempty, isTrimmed⟩ := mem_trimArr isConfigured
    have first := afterReport_new isTrimmed nonempty isConfigured
    generalize isState : (new targetStr).afterReport entry false = state at first
    have known : entry ∈ configuredTargetEntries state.target := by
      rw [first]
      exact isConfigured
    have isArr : state.target.targetArr = some ((configuredEntries targetStr).erase entry) := by
      rw [first]
    have removed : state.healthRemoveArr = [entry] := by rw [first]
    have second := afterReport_removed isTrimmed nonempty known isArr (by simp [removed])
    have perm := isolates.balanced [.report entry false, .report entry false]
      (state.afterReport entry false) (by simp only [Runs.execute, step_report, isState, bind_some])
    have counts := perm.count_eq entry
    simp only [second, removed, active, getD_some, count_append,
      count_erase_self, count_cons_self, count_nil] at counts
    omega
  · exact isolates_of_nodup

/-- A target configured twice is selected although its last report was unhealthy. -/
theorem repeated_target_not_isolated :
    (Runs.execute step (new "a\na") [.report "a" false]).map (selected · "") =
      some (some (.ok "a")) ∧
    (Runs.execute step (new "a\na") [.report "a" false, .report "a" false]).map
      (fun state => state.target.active ++ state.healthRemoveArr) = some ["a"] ∧
    configuredEntries "a\na" = ["a", "a"] := by
  decide +kernel

end TargetHealth

end DeepNps.File
