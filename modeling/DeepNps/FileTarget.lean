import DeepNps.LabelledRuns
import DeepNps.Text

/-!
# Targets of a tunnel or host

The targets of a text are parsed when they are first used; then selections go round the
active ones, and health reports move targets between these and the removed ones.
-/

namespace DeepNps.File

/-- `Target`.  A nil slice has not been parsed. -/
structure Target where
  nowIndex : Int
  targetStr : String
  targetArr : Option (List String)
  targetArrSource : String
  deriving DecidableEq, Repr

def normalizedTargetSource (targetStr : String) : String :=
  Text.unixLines (Text.replaceChar '：' ':' targetStr)

def trimArr (arr : List String) : List String :=
  (arr.map Text.trimSpace).filter fun entry => entry != ""

def parseNormalizedTargetEntries (normalized : String) : List String :=
  trimArr (Text.split normalized '\n')

def configuredEntries (targetStr : String) : List String :=
  parseNormalizedTargetEntries (normalizedTargetSource targetStr)

def configuredTargetEntries (target : Target) : List String := configuredEntries target.targetStr

/-- A copy of a slice is nil if there is nothing to copy. -/
def cloneSlice (arr : List String) : Option (List String) := if arr = [] then none else some arr

def routeTargetOffset (routeKey : String) (size : Nat) : Nat :=
  if size ≤ 1 then 0 else Text.byteSum (Text.trimSpace routeKey) % size

namespace Target

def new (targetStr : String) : Target where
  nowIndex := 0
  targetStr := targetStr
  targetArr := none
  targetArrSource := ""

def entries (target : Target) : List String := target.targetArr.getD []

/-- The targets that may be selected: a slice that is not parsed yet stands for
the configured targets. -/
def active (target : Target) : List String := target.targetArr.getD (configuredTargetEntries target)

def ensureTargetArrLocked (target : Target) : Target :=
  if target.targetArr ≠ none then target
  else
    let targetStr := Text.replaceChar '：' ':' target.targetStr
    let normalized := normalizedTargetSource targetStr
    { nowIndex := -1
      targetStr := targetStr
      targetArr := some (parseNormalizedTargetEntries normalized)
      targetArrSource := normalized }

def refreshConfiguredTargetsLocked (target : Target) : Target :=
  let targetStr := Text.replaceChar '：' ':' target.targetStr
  let normalized := normalizedTargetSource targetStr
  if target.targetArr ≠ none ∧ target.targetArrSource = normalized then
    { target with targetStr := targetStr }
  else
    { nowIndex := -1
      targetStr := targetStr
      targetArr := some (parseNormalizedTargetEntries normalized)
      targetArrSource := normalized }

def lastIndex (target : Target) (routeKey : String) : Int :=
  let size := target.entries.length
  let nowIndex : Int :=
    if target.nowIndex < 0 then (routeTargetOffset routeKey size : Int) - 1 else target.nowIndex
  if (size : Int) - 1 ≤ nowIndex then -1 else nowIndex

/-- `getNextTarget`.  It is undefined where the index is out of range. -/
def getNextTarget (target : Target) (routeKey : String) : Option (Except String String × Target) :=
  let target := target.refreshConfiguredTargetsLocked
  match target.entries with
  | [] => some (.error "all inward-bending targets are offline", target)
  | [entry] => some (.ok entry, target)
  | entries =>
      let nowIndex := target.lastIndex routeKey + 1
      if nowIndex < 0 then none
      else
        (entries[nowIndex.toNat]?).map fun entry =>
          (.ok entry, { target with nowIndex := nowIndex })

end Target

/-- `applyRuntimeTargetHealthLocked` reports whether the report was applied. -/
def applyRuntimeTargetHealthLocked (target : Target) (healthRemoveArr : List String)
    (info : String) (healthy : Bool) : Bool × Target × List String :=
  let info := Text.trimSpace info
  if info = "" then (false, target, healthRemoveArr)
  else
    let configured := configuredTargetEntries target
    if healthy then
      if info ∉ healthRemoveArr then (false, target, healthRemoveArr)
      else
        let targetArr :=
          if info ∉ target.entries then some (target.entries ++ [info]) else target.targetArr
        (true, { target with targetArr := targetArr }, healthRemoveArr.erase info)
    else
      let target :=
        if target.targetArr = none ∨ target.entries = [] ∧ healthRemoveArr = [] then
          { target with
            targetArr := cloneSlice configured
            targetArrSource := normalizedTargetSource target.targetStr
            nowIndex := -1 }
        else target
      if info ∉ target.entries ∧ info ∉ configured then (false, target, healthRemoveArr)
      else
        (true, { target with targetArr := target.targetArr.map fun arr => arr.erase info },
          if info ∈ healthRemoveArr then healthRemoveArr else healthRemoveArr ++ [info])

/-- A target with the list of those that health reports have removed. -/
structure TargetHealth where
  target : Target
  healthRemoveArr : List String
  deriving DecidableEq, Repr

inductive TargetEvent where
  | report (info : String) (healthy : Bool)
  | select (routeKey : String)
  | count
  deriving DecidableEq, Repr

def TargetEvent.heals : TargetEvent → Option String
  | .report info true => some (Text.trimSpace info)
  | _ => none

namespace TargetHealth

def new (targetStr : String) : TargetHealth where
  target := Target.new targetStr
  healthRemoveArr := []

def step (state : TargetHealth) : TargetEvent → Option TargetHealth
  | .report info healthy =>
      let (_, target, healthRemoveArr) :=
        applyRuntimeTargetHealthLocked state.target state.healthRemoveArr info healthy
      some { target := target, healthRemoveArr := healthRemoveArr }
  | .select routeKey =>
      (state.target.getNextTarget routeKey).map fun result => { state with target := result.2 }
  | .count => some { state with target := state.target.ensureTargetArrLocked }

def selected (state : TargetHealth) (routeKey : String) : Option (Except String String) :=
  (state.target.getNextTarget routeKey).map Prod.fst

end TargetHealth

end DeepNps.File
